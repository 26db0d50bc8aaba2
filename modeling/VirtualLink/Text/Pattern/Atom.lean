import VirtualLink.Text.Hex
import VirtualLink.Text.Pattern.Mode

namespace VirtualLink.Pattern

/-- The smallest part of a pattern. -/
inductive Atom
  /-- A character. A coded one is written as two hex digits, which stand for a byte where characters are bytes. -/
  | char (c : Char) (isCoded : Bool)
  /-- The digits, blanks or word characters, or all but these. -/
  | kind (isComplement : Bool)
  /-- The dot. -/
  | any
  /-- An end of a line or of the text. -/
  | edge
  /-- An end of a word, or a place that is none. -/
  | wordEdge
deriving DecidableEq, Inhabited

namespace Atom

/-- The control characters that have a letter behind a backslash. -/
def control? : Char → Option Char
  | 'a' => some '\x07'
  | 'f' => some '\x0c'
  | 't' => some '\t'
  | 'n' => some '\n'
  | 'r' => some '\r'
  | 'v' => some '\x0b'
  | _ => none

/-- Reads so many hex digits, between which blanks may stand in a spaced pattern. -/
def code? (mode : Mode) : Nat → Nat → List Char → Option (Nat × List Char)
  | 0, value, text => some (value, text)
  | count + 1, value, text =>
    match mode.skip text with
    | [] => none
    | c :: rest => do code? mode count (16 * value + (← Hex.value? c)) rest

def coded? (mode : Mode) (count : Nat) (text : List Char) : Option (Atom × List Char) := do
  let (value, rest) ← code? mode count 0 text
  if value.isValidChar then some (.char (Char.ofNat value) (count == 2), rest) else none

/-- Reads what stands behind a backslash. Marks mean themselves there. References to groups and properties of
characters are not known. -/
def escaped? (mode : Mode) : List Char → Option (Atom × List Char)
  | [] => none
  | 'x' :: rest => coded? mode 2 rest
  | 'u' :: rest => coded? mode 4 rest
  | 'U' :: rest => coded? mode 8 rest
  | c :: rest =>
    match control? c with
    | some control => some (.char control false, rest)
    | none =>
      if "dsw".toList.contains c then some (.kind false, rest)
      else if "DSW".toList.contains c then some (.kind true, rest)
      else if "Az".toList.contains c then some (.edge, rest)
      else if "bB<>".toList.contains c then some (.wordEdge, rest)
      else if c.toNat < 0x80 && !c.isAlphanum then some (.char c false, rest)
      else none

/-- Whether an atom can stand for itself. The cases, kinds and words of all scripts are not known, and a text has no
single bytes beyond ASCII. -/
def isKnown (mode : Mode) : Atom → Bool
  | .char c isCoded => if mode.isUnicode then !mode.foldsCase else !isCoded || c.toNat < 0x80
  | .kind isComplement => !mode.isUnicode && !isComplement
  | .any => mode.isUnicode
  | .edge => true
  | .wordEdge => !mode.isUnicode

/-- Whether an atom can stand in a set, where a single byte is one of ASCII. -/
def isMember (mode : Mode) : Atom → Bool
  | .char c isCoded => isKnown mode (.char c isCoded) && (mode.isUnicode || c.toNat < 0x80)
  | .kind isComplement => isKnown mode (.kind isComplement)
  | _ => false

theorem isKnown_of_isMember {mode : Mode} {atom : Atom} (h : atom.isMember mode) : atom.isKnown mode := by
  cases atom <;> simp_all [isMember]

/-- Reads an atom outside a set. -/
def read? (mode : Mode) : List Char → Option (Atom × List Char)
  | [] => none
  | '\\' :: rest => escaped? mode rest
  | '.' :: rest => some (.any, rest)
  | '^' :: rest => some (.edge, rest)
  | '$' :: rest => some (.edge, rest)
  | c :: rest => some (.char c false, rest)

/-- Reads an atom in a set, where no mark but the backslash counts. -/
def readMember? (mode : Mode) : List Char → Option (Atom × List Char)
  | [] => none
  | '\\' :: rest => escaped? mode rest
  | c :: rest => some (.char c false, rest)

end Atom

end VirtualLink.Pattern
