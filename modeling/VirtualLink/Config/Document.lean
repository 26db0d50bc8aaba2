import VirtualLink.Config
import VirtualLink.Toml.Document

namespace VirtualLink

open Toml (Value Entries)

namespace Config.Document

def text? : Value → Option String
  | .string text => some text
  | _ => none

def word? : Value → Option UInt32
  | .integer n => if 0 ≤ n ∧ n < UInt32.size then some (UInt32.ofNat n.toNat) else none
  | _ => none

def texts? : Value → Option (List String)
  | .array _ items => items.mapM text?
  | _ => none

/-- A kind by its name, or by a table whose only key is the name, with nothing in it. -/
def kind? : Value → Option Kind
  | .string text => Kind.ofText? text
  | .table _ [(name, .table _ [])] => Kind.ofText? name
  | .table _ [(name, .array _ [])] => Kind.ofText? name
  | _ => none

/-- Reads the value of a key, if the key is there. -/
def optional (read : Value → Option α) (entries : Entries) (key : String) : Option (Option α) :=
  match entries.find? key with
  | none => some none
  | some value => (read value).map some

def entryKeys : List String := ["kind", "id", "mac", "ipv4", "netmask", "broadcast", "ipv6", "mtu"]

/-- One interface, from a table that has no other keys than these, or from an array that gives all of them in this
order. -/
def entry? : Value → Option Entry
  | .table _ entries => do
    if ¬ entries.all (fun (key, _) => key ∈ entryKeys) then none
    else
      return {
        kind := (← optional kind? entries "kind").getD .tap
        id := ← optional word? entries "id"
        mac := ← optional text? entries "mac"
        ipv4 := ← optional text? entries "ipv4"
        netmask := ← optional text? entries "netmask"
        broadcast := ← optional text? entries "broadcast"
        ipv6 := (← optional texts? entries "ipv6").getD []
        mtu := ← optional word? entries "mtu" }
  | .array _ (kind :: id :: mac :: ipv4 :: netmask :: broadcast :: ipv6 :: mtu :: _) => do
    return {
      kind := ← kind? kind
      id := ← word? id
      mac := ← text? mac
      ipv4 := ← text? ipv4
      netmask := ← text? netmask
      broadcast := ← text? broadcast
      ipv6 := ← texts? ipv6
      mtu := ← word? mtu }
  | _ => none

/-- The log section, from a table, from an array that may be short, or from a date, which says nothing. -/
def logging? : Value → Option Logging
  | .table _ entries => do
    let level ← optional text? entries "level"
    let format ← optional text? entries "format"
    return { level := level.getD "info", format := format.getD "pretty" }
  | .array _ [] => some {}
  | .array _ [level] => do return { level := ← text? level }
  | .array _ (level :: format :: _) => do return { level := ← text? level, format := ← text? format }
  | .date => some {}
  | _ => none

def interfaces? : Value → Option (List (String × Entry))
  | .table _ entries => entries.mapM fun (name, value) => do return (name, ← entry? value)
  | _ => none

end Config.Document

namespace Config

open Config.Document

/-- Takes the two known sections from a document and passes over the rest. -/
def ofDocument? (document : Entries) : Option Config := do
  let logging ← optional logging? document "logging"
  let interfaces ← optional interfaces? document "interfaces"
  return ofEntries logging (interfaces.getD [])

/-- Reads a configuration from the text of a document. -/
def parse (text : String) : Except Error Config :=
  match (Toml.parse? text).bind ofDocument? with
  | some config => .ok config
  | none => .error (.config "malformed document")

/-- Reads a configuration from the bytes of a file, if there is one. -/
def load : Option Bytes → Except Error Config
  | none => .error (.io (.errno .notFound))
  | some bytes =>
    match String.fromUTF8? ⟨bytes.toArray⟩ with
    | some text => parse text
    | none => .error (.io .invalidUtf8)

end Config

end VirtualLink
