import VirtualLink.Text.Hex
import VirtualLink.Toml.Value

namespace VirtualLink.Toml

/-- Reads from the front of an input and leaves the rest; `none` if the input is refused. -/
abbrev Scanner (α : Type) := List Char → Option (α × List Char)

def isSpace (c : Char) : Bool :=
  c == ' ' || c == '\t'

/-- Characters that may stand in a comment or a quoted text: no controls but the tab. -/
def isPlain (c : Char) : Bool :=
  c == '\t' || (0x20 ≤ c.toNat && c.toNat != 0x7F)

def skipSpaces (input : List Char) : List Char :=
  input.dropWhile isSpace

/-- What follows a line end, if there is one here. -/
def afterNewline? : List Char → Option (List Char)
  | '\n' :: rest => some rest
  | '\r' :: '\n' :: rest => some rest
  | _ => none

/-- The character that an escape of so many hex digits stands for. -/
def hexEscape? (digits : List Char) : Option Char := do
  let n ← Hex.number? digits
  if n.isValidChar then some (Char.ofNat n) else none

/-- The character behind a backslash, for the short escapes. -/
def shortEscape? : Char → Option Char
  | 'b' => some '\x08'
  | 't' => some '\t'
  | 'n' => some '\n'
  | 'f' => some '\x0c'
  | 'r' => some '\r'
  | '"' => some '"'
  | '\\' => some '\\'
  | _ => none

/-- Puts a character in front of what the rest reads as. -/
def prepend (c : Char) (read : Option (List Char × List Char)) : Option (List Char × List Char) :=
  read.map fun (text, rest) => (c :: text, rest)

/-- The inside of a basic string, behind its opening quote. -/
def basicText : Scanner (List Char)
  | [] => none
  | '"' :: rest => some ([], rest)
  | '\\' :: 'u' :: a :: b :: c :: d :: rest => do
    prepend (← hexEscape? [a, b, c, d]) (basicText rest)
  | '\\' :: 'U' :: a :: b :: c :: d :: e :: f :: g :: h :: rest => do
    prepend (← hexEscape? [a, b, c, d, e, f, g, h]) (basicText rest)
  | '\\' :: c :: rest => do prepend (← shortEscape? c) (basicText rest)
  | c :: rest => if isPlain c then prepend c (basicText rest) else none

/-- The inside of a literal string, behind its opening quote. -/
def literalText : Scanner (List Char)
  | [] => none
  | '\'' :: rest => some ([], rest)
  | c :: rest => if isPlain c then prepend c (literalText rest) else none

/-- A backslash at the end of a line, blanks behind it allowed. -/
def endsLine (afterBackslash : List Char) : Bool :=
  (afterNewline? (skipSpaces afterBackslash)).isSome

/-- The inside of a basic string over several lines. Up to two quotes may stand before the closing three. After a
backslash at a line's end blanks and line ends are skipped, as `skipping` tells. -/
def longBasicText (skipping : Bool) : Scanner (List Char)
  | [] => none
  | '"' :: '"' :: '"' :: '"' :: '"' :: rest => some (['"', '"'], rest)
  | '"' :: '"' :: '"' :: '"' :: rest => some (['"'], rest)
  | '"' :: '"' :: '"' :: rest => some ([], rest)
  | '\r' :: '\n' :: rest =>
    if skipping then longBasicText true rest else prepend '\n' (longBasicText false rest)
  | '\n' :: rest => if skipping then longBasicText true rest else prepend '\n' (longBasicText false rest)
  | '\\' :: 'u' :: a :: b :: c :: d :: rest => do
    prepend (← hexEscape? [a, b, c, d]) (longBasicText false rest)
  | '\\' :: 'U' :: a :: b :: c :: d :: e :: f :: g :: h :: rest => do
    prepend (← hexEscape? [a, b, c, d, e, f, g, h]) (longBasicText false rest)
  | '\\' :: c :: rest =>
    match shortEscape? c with
    | some escaped => prepend escaped (longBasicText false rest)
    | none => if endsLine (c :: rest) then longBasicText true (c :: rest) else none
  | c :: rest =>
    if skipping && isSpace c then longBasicText true rest
    else if isPlain c then prepend c (longBasicText false rest)
    else none

/-- The inside of a literal string over several lines. -/
def longLiteralText : Scanner (List Char)
  | [] => none
  | '\'' :: '\'' :: '\'' :: '\'' :: '\'' :: rest => some (['\'', '\''], rest)
  | '\'' :: '\'' :: '\'' :: '\'' :: rest => some (['\''], rest)
  | '\'' :: '\'' :: '\'' :: rest => some ([], rest)
  | '\r' :: '\n' :: rest => prepend '\n' (longLiteralText rest)
  | '\n' :: rest => prepend '\n' (longLiteralText rest)
  | c :: rest => if isPlain c then prepend c (longLiteralText rest) else none

/-- A line end right behind the opening quotes does not count. -/
def dropFirstNewline (input : List Char) : List Char :=
  (afterNewline? input).getD input

/-- A quoted text of one line, as keys may be. -/
def quotedLine? : Scanner (List Char)
  | '"' :: rest => basicText rest
  | '\'' :: rest => literalText rest
  | _ => none

def string? : Scanner (List Char)
  | '"' :: '"' :: '"' :: rest => longBasicText false (dropFirstNewline rest)
  | '\'' :: '\'' :: '\'' :: rest => longLiteralText (dropFirstNewline rest)
  | input => quotedLine? input

/-- Digits with single underscores between them. -/
def digitRun (isDigit : Char → Bool) : Scanner (List Char)
  | [] => none
  | [c] => if isDigit c then some ([c], []) else none
  | c :: '_' :: rest => if isDigit c then prepend c (digitRun isDigit rest) else none
  | c :: next :: rest =>
    if ¬ isDigit c then none
    else if isDigit next then prepend c (digitRun isDigit (next :: rest))
    else some ([c], next :: rest)

/-- A decimal number without leading zeros. -/
def wholePart : Scanner (List Char)
  | '0' :: rest => some (['0'], rest)
  | input => digitRun Char.isDigit input

/-- Splits off a sign; `true` is a minus. -/
def splitSign : List Char → Bool × List Char
  | '-' :: rest => (true, rest)
  | '+' :: rest => (false, rest)
  | input => (false, input)

def fractionPart : Scanner (List Char)
  | '.' :: rest => digitRun Char.isDigit rest
  | input => some ([], input)

/-- The exponent, if there is one. -/
def exponentPart : Scanner (Option Int)
  | c :: rest =>
    if c = 'e' ∨ c = 'E' then do
      let (negative, rest) := splitSign rest
      let (digits, rest) ← digitRun Char.isDigit rest
      let n : Int := Nat.ofDigitChars 10 digits 0
      return (some (if negative then -n else n), rest)
    else some (none, c :: rest)
  | [] => some (none, [])

/-- Whether a decimal number lies so far out that its nearest double is infinite: from halfway between the largest
double and the next power of two. -/
def isBeyondDoubles (digits : List Char) (exponent : Int) : Bool :=
  let digits := digits.dropWhile (· == '0')
  let mantissa := Nat.ofDigitChars 10 digits 0
  let magnitude : Int := digits.length + exponent
  if digits.isEmpty || magnitude < 300 then false
  else if magnitude > 320 then true
  else
    mantissa * Nat.pow 10 exponent.toNat ≥ (Nat.pow 2 1024 - Nat.pow 2 970) * Nat.pow 10 (-exponent).toNat

/-- Integers are words of 64 bits with a sign. -/
def integer? (n : Int) : Option Value :=
  if Int64.minValue.toInt ≤ n ∧ n ≤ Int64.maxValue.toInt then some (.integer n) else none

def radixInteger? (radix : Nat) (digits : List Char) : Option Value := do
  let values ← digits.mapM Hex.value?
  integer? (values.foldl (fun acc digit => radix * acc + digit) 0 : Nat)

def isHexDigit (c : Char) : Bool :=
  (Hex.value? c).isSome

def isOctalDigit (c : Char) : Bool :=
  '0' ≤ c ∧ c ≤ '7'

def isBinaryDigit (c : Char) : Bool :=
  c == '0' || c == '1'

/-- A number that is neither hexadecimal, octal nor binary. -/
def decimalNumber? (input : List Char) : Option (Value × List Char) := do
  let (negative, input) := splitSign input
  match input with
  | 'i' :: 'n' :: 'f' :: rest => return (.float, rest)
  | 'n' :: 'a' :: 'n' :: rest => return (.float, rest)
  | _ =>
    let (whole, rest) ← wholePart input
    let (fraction, afterFraction) ← fractionPart rest
    let (exponent, afterExponent) ← exponentPart afterFraction
    if fraction = [] ∧ exponent = none then
      let n : Int := Nat.ofDigitChars 10 whole 0
      return (← integer? (if negative then -n else n), rest)
    else if ¬ negative ∧ isBeyondDoubles (whole ++ fraction) (exponent.getD 0 - fraction.length) then none
    else return (.float, afterExponent)

def number? : Scanner Value
  | '0' :: 'x' :: rest => do
    let (digits, rest) ← digitRun isHexDigit rest
    return (← radixInteger? 16 digits, rest)
  | '0' :: 'o' :: rest => do
    let (digits, rest) ← digitRun isOctalDigit rest
    return (← radixInteger? 8 digits, rest)
  | '0' :: 'b' :: rest => do
    let (digits, rest) ← digitRun isBinaryDigit rest
    return (← radixInteger? 2 digits, rest)
  | input => decimalNumber? input

/-- A number of so many digits, within bounds. -/
def fixedNumber? (count low high : Nat) (input : List Char) : Option (Nat × List Char) :=
  let digits := input.take count
  let n := Nat.ofDigitChars 10 digits 0
  if digits.length = count ∧ digits.all Char.isDigit ∧ low ≤ n ∧ n ≤ high then some (n, input.drop count) else none

def expect? (c : Char) : List Char → Option (List Char)
  | head :: rest => if head = c then some rest else none
  | [] => none

def daysInMonth (year month : Nat) : Nat :=
  if month = 2 then
    if year % 4 = 0 ∧ (year % 100 ≠ 0 ∨ year % 400 = 0) then 29 else 28
  else if month ∈ [4, 6, 9, 11] then 30
  else 31

/-- What follows a date. -/
def afterDate? (input : List Char) : Option (List Char) := do
  let (year, input) ← fixedNumber? 4 0 9999 input
  let (month, input) ← fixedNumber? 2 1 12 (← expect? '-' input)
  let (_, input) ← fixedNumber? 2 1 (daysInMonth year month) (← expect? '-' input)
  return input

/-- What follows a fraction of a second, if there is one. -/
def afterSecondFraction : List Char → List Char
  | '.' :: c :: rest => if c.isDigit then rest.dropWhile Char.isDigit else '.' :: c :: rest
  | input => input

/-- What follows a time of day. -/
def afterTime? (input : List Char) : Option (List Char) := do
  let (_, input) ← fixedNumber? 2 0 23 input
  let (_, input) ← fixedNumber? 2 0 59 (← expect? ':' input)
  let (_, input) ← fixedNumber? 2 0 60 (← expect? ':' input)
  return afterSecondFraction input

/-- What follows the distance from universal time, if it is given. -/
def afterZone? : List Char → Option (List Char)
  | [] => some []
  | c :: rest =>
    if c = 'Z' ∨ c = 'z' then some rest
    else if c = '+' ∨ c = '-' then do
      let (_, input) ← fixedNumber? 2 0 23 rest
      let (_, input) ← fixedNumber? 2 0 59 (← expect? ':' input)
      return input
    else some (c :: rest)

/-- So many digits, and then the mark. -/
def startsWithDigits (count : Nat) (mark : Char) (input : List Char) : Bool :=
  (input.take count).length == count && (input.take count).all Char.isDigit && (input.drop count).head? == some mark

/-- A date, a time, or both, with a distance from universal time in the last case only. -/
def date? (input : List Char) : Option (Value × List Char) :=
  if startsWithDigits 4 '-' input then do
    let rest ← afterDate? input
    match rest with
    | c :: time =>
      if (c = 'T' ∨ c = 't' ∨ c = ' ') ∧ startsWithDigits 2 ':' time then
        return (.date, ← afterZone? (← afterTime? time))
      else return (.date, rest)
    | [] => return (.date, [])
  else do return (.date, ← afterTime? input)

/-- A date or a number, told apart by what follows the first digits. -/
def dateOrNumber? (input : List Char) : Option (Value × List Char) :=
  if startsWithDigits 4 '-' input || startsWithDigits 2 ':' input then date? input else number? input

/-- A value that holds no other values. -/
def scalar? : Scanner Value
  | 't' :: 'r' :: 'u' :: 'e' :: rest => some (.boolean true, rest)
  | 'f' :: 'a' :: 'l' :: 's' :: 'e' :: rest => some (.boolean false, rest)
  | '"' :: rest => (string? ('"' :: rest)).map fun (text, rest) => (.string (String.ofList text), rest)
  | '\'' :: rest => (string? ('\'' :: rest)).map fun (text, rest) => (.string (String.ofList text), rest)
  | input => dateOrNumber? input

end VirtualLink.Toml
