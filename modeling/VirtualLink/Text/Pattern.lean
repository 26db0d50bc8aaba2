import VirtualLink.Text.Alphanumeric
import VirtualLink.Text.Pattern.Bracket

namespace VirtualLink

namespace Pattern

/-- What follows an opening parenthesis. -/
inductive Opening
  /-- Flags for the rest of the group around. -/
  | setting (flags : List Char)
  /-- A group, with flags for what is inside. -/
  | group (name : Option (List Char)) (flags : List Char)
deriving DecidableEq

/-- The name of a group: a letter or an underscore, then also digits, dots and brackets. -/
def isGroupName : List Char → Bool
  | [] => false
  | c :: rest =>
    (c == '_' || isAlphabetic c) && rest.all fun c => "_.[]".toList.contains c || isAlphanumeric c

namespace Opening

def named? (text : List Char) : Option (Opening × List Char) :=
  match text.span (· != '>') with
  | (name, '>' :: rest) => if isGroupName name then some (.group (some name) [], rest) else none
  | _ => none

def flagged? (text : List Char) : Option (Opening × List Char) :=
  match text.span fun c => c != ':' && c != ')' with
  | (flags, ':' :: rest) => if areFlags flags then some (.group none flags, rest) else none
  | (flags, ')' :: rest) => if areFlags flags && !flags.isEmpty then some (.setting flags, rest) else none
  | _ => none

def read? : List Char → Option (Opening × List Char)
  | '?' :: 'P' :: '<' :: rest => named? rest
  | '?' :: '<' :: rest => named? rest
  | '?' :: rest => flagged? rest
  | rest => some (.group none [], rest)

end Opening

/-- A part of a pattern: how deep it nests, and whether it can be repeated. -/
structure Part where
  depth : Nat := 0
  isRepeatable : Bool := true
deriving DecidableEq, Inhabited

/-- How deep a row of parts nests. -/
def rowDepth (parts : List Part) : Nat :=
  gather (parts.map Part.depth)

/-- Reads on in a group up to its closing parenthesis, or, outside all groups, to the end. The answer is how deep the
group nests inside, with the names of all groups before its end. `choices` are the depths of the choices before the
last bar, and `parts` are the parts since then, the last one first. -/
def choices? : (fuel : Nat) → (isGroup : Bool) → Mode → (names : List (List Char)) → (choices : List Nat) →
    List Part → List Char → Option (Nat × List (List Char) × List Char)
  | 0, _, _, _, _, _, _ => none
  | fuel + 1, isGroup, mode, names, choices, parts, text =>
    match mode.skip text with
    | [] => if isGroup then none else some (gather (rowDepth parts :: choices), names, [])
    | ')' :: rest => if isGroup then some (gather (rowDepth parts :: choices), names, rest) else none
    | '|' :: rest => choices? fuel isGroup mode names (rowDepth parts :: choices) [] rest
    | '(' :: rest =>
      match Opening.read? (mode.skip rest) with
      | none => none
      | some (.setting flags, rest) =>
        choices? fuel isGroup (mode.set flags) names choices ({ isRepeatable := false } :: parts) rest
      | some (.group name flags, rest) =>
        if name.any names.contains then none
        else do
          let (inner, names, rest) ← choices? fuel true (mode.set flags) (name.toList ++ names) [] [] rest
          choices? fuel isGroup mode names choices ({ depth := inner + 1 } :: parts) rest
    | '[' :: rest => do
      let (depth, rest) ← set? mode rest
      choices? fuel isGroup mode names choices ({ depth } :: parts) rest
    | '\x7b' :: _ => none
    | c :: rest =>
      if c = '?' ∨ c = '*' ∨ c = '+' then
        match parts with
        | part :: parts =>
          let rest := if rest.head? == some '?' then rest.drop 1 else rest
          if part.isRepeatable then
            choices? fuel isGroup mode names choices ({ depth := part.depth + 1 } :: parts) rest
          else none
        | [] => none
      else do
        let (atom, rest) ← Atom.read? mode (c :: rest)
        if atom.isKnown mode then choices? fuel isGroup mode names choices ({} :: parts) rest else none

/-- Patterns may nest no deeper than this. -/
def maxDepth : Nat :=
  250

/-- How deep a pattern nests. -/
def depth? (text : String) : Option Nat := do
  let (depth, _) ← choices? (text.length + 1) false {} [] [] [] text.toList
  return depth

end Pattern

/-- Whether a text is a regular expression that nests not too deep. Counted repetitions, which need braces, are not
among these. -/
def isPattern (text : String) : Bool :=
  (Pattern.depth? text).any (· ≤ Pattern.maxDepth)

end VirtualLink
