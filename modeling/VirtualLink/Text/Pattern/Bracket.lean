import VirtualLink.Text.Pattern.Atom

namespace VirtualLink.Pattern

/-- How deep parts nest that stand together. One part alone is not nested by it. -/
def gather : List Nat → Nat
  | [] => 0
  | [depth] => depth
  | depths => depths.foldl max 0 + 1

/-- The sets of ASCII characters that have a name. -/
def setNames : List String :=
  ["alnum", "alpha", "ascii", "blank", "cntrl", "digit", "graph", "lower", "print", "punct", "space", "upper", "word",
    "xdigit"]

/-- How deep the operators of a set nest whose left side has the depth `left`, if there is one, and whose members on
this side have the depths `depths`. -/
def sidesDepth (left : Option Nat) (depths : List Nat) : Nat :=
  left.elim (gather depths) fun left => max left (gather depths) + 1

/-- Reads what follows the bracket of a named set, as in `[:alpha:]` or `[:^alpha:]`; the answer says whether its
complement is meant. -/
def namedSet? : List Char → Option (Bool × List Char)
  | ':' :: rest =>
    let isComplement := rest.head? == some '^'
    let (name, rest) := (if isComplement then rest.drop 1 else rest).span (· != ':')
    match rest with
    | ':' :: ']' :: rest => if setNames.contains (String.ofList name) then some (isComplement, rest) else none
    | _ => none
  | _ => none

/-- Reads a member of a set or a range of members. A hyphen before the end or before another hyphen makes no range. -/
def range? (mode : Mode) (text : List Char) : Option (List Char) := do
  let (low, rest) ← Atom.readMember? mode text
  match mode.skip rest with
  | [] => none
  | '-' :: after =>
    if mode.ahead? after == some ']' || mode.ahead? after == some '-' then
      if low.isMember mode then some ('-' :: after) else none
    else
      match low, ← Atom.readMember? mode (mode.skip after) with
      | .char first _, (.char last isCoded, rest) =>
        if first ≤ last ∧ low.isMember mode ∧ Atom.isMember mode (.char last isCoded) then some rest else none
      | _, _ => none
  | rest => if low.isMember mode then some rest else none

/-- Enters a set, perhaps a complement. The complement of a set of bytes has bytes that no text has. -/
def enterSet? (mode : Mode) (text : List Char) : Option (List Char) :=
  match mode.skip text with
  | '^' :: rest => if mode.isUnicode then some rest else none
  | rest => some rest

/-- How much of a set stands before a character of it. -/
inductive Progress
  | nothing
  | hyphens
  | members
deriving DecidableEq

/-- Reads on in a set up to its closing bracket. The answer is how deep the set nests inside. `left` is the depth of
the left side of an operator, and `depths` are those of the members on this side. Hyphens are members at the start,
and so is a closing bracket that comes first. -/
def members? (mode : Mode) :
    (fuel : Nat) → Progress → (left : Option Nat) → (depths : List Nat) → List Char → Option (Nat × List Char)
  | 0, _, _, _, _ => none
  | fuel + 1, progress, left, depths, text =>
    match mode.skip text, progress with
    | [], _ => none
    | '-' :: rest, .nothing | '-' :: rest, .hyphens =>
      if Atom.isMember mode (.char '-' false) then members? mode fuel .hyphens left (0 :: depths) rest else none
    | ']' :: rest, .nothing =>
      if Atom.isMember mode (.char ']' false) then members? mode fuel .members left (0 :: depths) rest else none
    | ']' :: rest, _ => some (sidesDepth left depths, rest)
    | '[' :: rest, _ =>
      match namedSet? rest with
      | some (isComplement, rest) =>
        if if mode.isUnicode then !mode.foldsCase else !isComplement then
          members? mode fuel .members left (0 :: depths) rest
        else none
      | none => do
        let (inner, rest) ← members? mode fuel .nothing none [] (← enterSet? mode rest)
        members? mode fuel .members left ((inner + 1) :: depths) rest
    | '&' :: '&' :: rest, _ | '-' :: '-' :: rest, _ | '~' :: '~' :: rest, _ =>
      members? mode fuel .members (some (sidesDepth left depths)) [] rest
    | text, _ => do members? mode fuel .members left (0 :: depths) (← range? mode text)

/-- Reads what follows the bracket of a set. The answer is how deep the set nests. -/
def set? (mode : Mode) (text : List Char) : Option (Nat × List Char) := do
  let (inner, rest) ← members? mode (text.length + 1) .nothing none [] (← enterSet? mode text)
  return (inner + 1, rest)

end VirtualLink.Pattern
