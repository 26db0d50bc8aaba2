import VirtualLink.Toml.Scalar

namespace VirtualLink.Toml

/-- How deep arrays and tables may lie inside one another, and how many parts a key may have: one less than this. -/
def depthLimit : Nat := 80

def isBareKey (c : Char) : Bool :=
  (c.isAlphanum && c.toNat < 128) || c == '_' || c == '-'

/-- One part of a key: quoted, or made of letters, digits, underscores and hyphens. -/
def keyPart? (input : List Char) : Option (String × List Char) :=
  match input with
  | '"' :: _ | '\'' :: _ => (quotedLine? input).map fun (text, rest) => (String.ofList text, rest)
  | _ =>
    let bare := input.takeWhile isBareKey
    if bare.isEmpty then none else some (String.ofList bare, input.dropWhile isBareKey)

/-- The parts of a key, with dots between them and blanks around each. At most `limit` more parts are read. -/
def keyParts? : Nat → Scanner (List String)
  | 0, _ => none
  | limit + 1, input => do
    let (part, rest) ← keyPart? (skipSpaces input)
    match skipSpaces rest with
    | '.' :: more => do
      let (parts, rest) ← keyParts? limit more
      return (part :: parts, rest)
    | rest => return ([part], rest)

def key? (input : List Char) : Option ((List String) × List Char) :=
  keyParts? (depthLimit - 1) input

/-- What follows a comment, which goes up to the end of its line. -/
def afterComment (input : List Char) : List Char :=
  input.dropWhile isPlain

/-- Skips blanks, line ends and whole comments, as between the items of an array. -/
def skipBetween (inComment : Bool) : List Char → Option (List Char)
  | [] => if inComment then none else some []
  | '\n' :: rest => skipBetween false rest
  | '\r' :: '\n' :: rest => skipBetween false rest
  | '#' :: rest => skipBetween true rest
  | c :: rest =>
    if inComment then if isPlain c then skipBetween true rest else none
    else if isSpace c then skipBetween false rest
    else some (c :: rest)

/-- The items of an array from behind its bracket, or from behind a comma. -/
def arrayItems (item : Scanner Value) : Nat → Scanner (List Value)
  | 0, _ => none
  | fuel + 1, input => do
    match ← skipBetween false input with
    | ']' :: rest => return ([], rest)
    | start =>
      let (value, rest) ← item start
      match ← skipBetween false rest with
      | ']' :: rest => return ([value], rest)
      | ',' :: rest => do
        let (values, rest) ← arrayItems item fuel rest
        return (value :: values, rest)
      | _ => none

/-- A key, an equals sign and a value, with blanks between them. -/
def assignment? (value : Scanner Value) (input : List Char) : Option ((List String × Value) × List Char) := do
  let (parts, rest) ← key? input
  let (assigned, rest) ← value (skipSpaces (← expect? '=' rest))
  return ((parts, assigned), rest)

/-- Adds an assignment to the entries of a table. -/
def Entries.assignKey (parts : List String) (value : Value) (entries : Entries) : Option Entries := do
  entries.assign parts.dropLast (← parts.getLast?) value

/-- The assignments of a table between braces, in one line and without a comma at the end. -/
def tableItems (value : Scanner Value) (entries : Entries) : Nat → Scanner Entries
  | 0, _ => none
  | fuel + 1, input => do
    let ((parts, assigned), rest) ← assignment? value input
    let entries ← entries.assignKey parts assigned
    match skipSpaces rest with
    | '\x7d' :: rest => return (entries, rest)
    | ',' :: rest => tableItems value entries fuel rest
    | _ => none

/-- A value in which arrays and tables lie at most `depth` deep. -/
def value? : Nat → Scanner Value
  | 0, input => scalar? input
  | depth + 1, input =>
    match input with
    | '[' :: rest => do
      let (items, rest) ← arrayItems (value? depth) (rest.length + 1) rest
      return (.array false items, rest)
    | '\x7b' :: rest =>
      match skipSpaces rest with
      | '\x7d' :: rest => return (.table .closed [], rest)
      | start => do
        let (entries, rest) ← tableItems (value? depth) [] (start.length + 1) start
        return (.table .closed entries, rest)
    | _ => scalar? input

/-- What follows the end of a line, with blanks and a comment in front of it. -/
def afterLine? (input : List Char) : Option (List Char) :=
  match skipSpaces input with
  | [] => some []
  | '#' :: rest =>
    match afterComment rest with
    | [] => some []
    | rest => afterNewline? rest
  | rest => afterNewline? rest

/-- A document as far as it is read: its entries, and the path of the table that takes the next ones. -/
structure Draft where
  entries : Entries := []
  path : List String := []

namespace Draft

def assign (draft : Draft) (parts : List String) (value : Value) : Option Draft := do
  let entries ← draft.entries.within (Entries.assignKey parts value) draft.path
  return { draft with entries }

/-- Goes on in the table of a header. -/
def enter (draft : Draft) (parts : List String) (change : String → Entries → Option Entries) : Option Draft := do
  let entries ← draft.entries.within (change (← parts.getLast?)) parts.dropLast
  return { entries, path := parts }

end Draft

/-- One header or assignment, to the end of its line. -/
def statement? (draft : Draft) (input : List Char) : Option (Draft × List Char) :=
  match input with
  | '[' :: '[' :: rest => do
    let (parts, rest) ← key? rest
    let draft ← draft.enter parts Entries.appendTable
    return (draft, ← afterLine? (← expect? ']' (← expect? ']' rest)))
  | '[' :: rest => do
    let (parts, rest) ← key? rest
    let draft ← draft.enter parts Entries.openTable
    return (draft, ← afterLine? (← expect? ']' rest))
  | _ => do
    let ((parts, assigned), rest) ← assignment? (value? (depthLimit - 1)) input
    return (← draft.assign parts assigned, ← afterLine? rest)

/-- Reads lines to the end of the input; each takes at least one character. -/
def readLines (draft : Draft) : Nat → List Char → Option Entries
  | 0, _ => none
  | fuel + 1, input =>
    match skipSpaces input with
    | [] => some draft.entries
    | start =>
      if start.head? = some '#' ∨ (afterNewline? start).isSome then do
        readLines draft fuel (← afterLine? start)
      else do
        let (draft, rest) ← statement? draft start
        readLines draft fuel rest

/-- Reads a document; a byte order mark in front of it does not count. -/
def parse? (text : String) : Option Entries :=
  let input := text.toList
  let body := if input.head? = some '\uFEFF' then input.tail else input
  readLines {} (body.length + 1) body

end VirtualLink.Toml
