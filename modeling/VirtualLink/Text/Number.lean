namespace VirtualLink

/-- Whether a text is empty or an exponent: the letter, perhaps a sign, and digits. -/
def isExponent : List Char → Bool
  | [] => true
  | mark :: rest =>
    let digits := if rest.head? == some '+' || rest.head? == some '-' then rest.drop 1 else rest
    (mark == 'e' || mark == 'E') && !digits.isEmpty && digits.all Char.isDigit

/-- Whether a text is a number without a sign: digits, of which a point may stand before, among or behind, and perhaps
an exponent; or, in upper or lower case, a word for what is no finite number. -/
def isNumber (text : String) : Bool :=
  let (whole, rest) := text.toList.span Char.isDigit
  let (fraction, rest) := if rest.head? == some '.' then (rest.drop 1).span Char.isDigit else ([], rest)
  ["inf", "infinity", "nan"].contains text.toLower || (!(whole ++ fraction).isEmpty && isExponent rest)

end VirtualLink
