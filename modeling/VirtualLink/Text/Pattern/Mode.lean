import VirtualLink.Text.Blank

namespace VirtualLink.Pattern

/-- How the characters of a pattern are taken. A group can change it for what is inside. -/
structure Mode where
  /-- Upper and lower case are the same. -/
  foldsCase : Bool := false
  /-- Characters are those of all scripts and not single bytes. -/
  isUnicode : Bool := true
  /-- Blanks and comments do not count. -/
  isSpaced : Bool := false
deriving DecidableEq, Inhabited

/-- Whether flags can be set: each at most once, and none missing behind the hyphen. -/
def areFlags (flags : List Char) : Bool :=
  flags.all "imsUuRx-".toList.contains && decide flags.Nodup && flags.getLast? != some '-'

namespace Mode

/-- The mode with some flags set. Those behind a hyphen are taken back. -/
def set (mode : Mode) (flags : List Char) : Mode :=
  let taken := flags.dropWhile (· != '-')
  let given := flags.takeWhile (· != '-')
  let now (flag : Char) (before : Bool) := given.contains flag || before && !taken.contains flag
  { foldsCase := now 'i' mode.foldsCase
    isUnicode := now 'u' mode.isUnicode
    isSpaced := now 'x' mode.isSpaced }

theorem set_nil (mode : Mode) : mode.set [] = mode := by
  simp [set]

end Mode

/-- Drops blanks and comments. A comment goes from a number sign to the end of its line. -/
def dropSpace (inComment : Bool) : List Char → List Char
  | [] => []
  | c :: rest =>
    if inComment then dropSpace (c != '\n') rest
    else if isBlank c then dropSpace false rest
    else if c = '#' then dropSpace true rest
    else c :: rest

/-- Goes on to the next character that counts. -/
def Mode.skip (mode : Mode) (text : List Char) : List Char :=
  if mode.isSpaced then dropSpace false text else text

/-- The character that decides whether a hyphen makes a range. It is looked for behind blanks and one number sign, but
not behind a comment. -/
def Mode.ahead? (mode : Mode) (text : List Char) : Option Char :=
  if mode.isSpaced then
    match text.dropWhile isBlank with
    | '#' :: rest => (rest.dropWhile isBlank).head?
    | rest => rest.head?
  else text.head?

theorem length_dropSpace_le (inComment : Bool) (text : List Char) :
    (dropSpace inComment text).length ≤ text.length := by
  fun_induction dropSpace inComment text <;> simp_all <;> omega

theorem Mode.length_skip_le (mode : Mode) (text : List Char) : (mode.skip text).length ≤ text.length := by
  unfold Mode.skip
  split
  · exact length_dropSpace_le false text
  · exact Nat.le_refl _

end VirtualLink.Pattern
