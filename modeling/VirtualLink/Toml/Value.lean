namespace VirtualLink.Toml

/-- How a table came about, which decides what may still be added to it. -/
inductive Role
  /-- Written between braces: complete. -/
  | closed
  /-- Opened by a header of its own. -/
  | headed
  /-- Named on the way to another header: a header may still open it. -/
  | implied
  /-- Named on the way to a dotted key: more dotted keys may add to it. -/
  | dotted
deriving DecidableEq, Inhabited

/-- A value of a document. Of floats and dates only the type matters here. -/
inductive Value
  | string (text : String)
  | integer (n : Int)
  | float
  | boolean (b : Bool)
  | date
  /-- An array, which is `growing` if headers append tables to it. -/
  | array (growing : Bool) (items : List Value)
  | table (role : Role) (entries : List (String × Value))
deriving Inhabited

/-- The entries of a table, oldest first; no key occurs twice. -/
abbrev Entries := List (String × Value)

namespace Entries

def find? (entries : Entries) (key : String) : Option Value :=
  entries.lookup key

def replace (entries : Entries) (key : String) (value : Value) : Entries :=
  entries.map fun entry => if entry.1 = key then (key, value) else entry

/-- A key may be given once. -/
def add (entries : Entries) (key : String) (value : Value) : Option Entries :=
  if (entries.find? key).isSome then none else some (entries ++ [(key, value)])

/-- Changes the table that a path leads to. Tables that are missing on the way are made, and an array of tables
stands for its last one. -/
def within (change : Entries → Option Entries) : List String → Entries → Option Entries
  | [], entries => change entries
  | key :: path, entries =>
    match entries.find? key with
    | none => do entries.add key (.table .implied (← within change path []))
    | some (.table .closed _) => none
    | some (.table role inner) => do return entries.replace key (.table role (← within change path inner))
    | some (.array true items) =>
      match items.getLast? with
      | some (.table role inner) => do
        let last := Value.table role (← within change path inner)
        return entries.replace key (.array true (items.dropLast ++ [last]))
      | _ => none
    | some _ => none

/-- Opens the table of a header. -/
def openTable (key : String) (entries : Entries) : Option Entries :=
  match entries.find? key with
  | none => entries.add key (.table .headed [])
  | some (.table .implied inner) => some (entries.replace key (.table .headed inner))
  | some _ => none

/-- Appends a table to the array of a header. -/
def appendTable (key : String) (entries : Entries) : Option Entries :=
  match entries.find? key with
  | none => entries.add key (.array true [.table .headed []])
  | some (.array true items) => some (entries.replace key (.array true (items ++ [.table .headed []])))
  | some _ => none

/-- Gives a value to a key below at least one dot. The table that takes it must have come about by dotted keys
alone; on the way there a table that only headers named will do. -/
def assignDotted (key : String) (value : Value) : List String → Role → Entries → Option Entries
  | [], role, entries => if role = .dotted then entries.add key value else none
  | part :: path, _, entries =>
    match entries.find? part with
    | none => do entries.add part (.table .dotted (← assignDotted key value path .dotted []))
    | some (.table .implied inner) => do
      return entries.replace part (.table .implied (← assignDotted key value path .implied inner))
    | some (.table .dotted inner) => do
      return entries.replace part (.table .dotted (← assignDotted key value path .dotted inner))
    | some (.array true items) =>
      match items.getLast? with
      | some (.table role inner) => do
        let last := Value.table role (← assignDotted key value path role inner)
        return entries.replace part (.array true (items.dropLast ++ [last]))
      | _ => none
    | some _ => none

/-- Gives a value to a key, dotted or not. -/
def assign (path : List String) (key : String) (value : Value) (entries : Entries) : Option Entries :=
  match path with
  | [] => entries.add key value
  | part :: rest => assignDotted key value (part :: rest) .headed entries

end Entries

end VirtualLink.Toml
