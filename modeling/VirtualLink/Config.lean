import VirtualLink.Call

namespace VirtualLink

/-- What a configuration says about the log. -/
structure Logging where
  level : String := "info"
  format : String := "pretty"
deriving DecidableEq, Inhabited

/-- What a configuration says about one interface. The values stay text until an interface takes them. -/
structure Entry where
  kind : Kind := .tap
  id : Option UInt32 := none
  mac : Option String := none
  ipv4 : Option String := none
  netmask : Option String := none
  broadcast : Option String := none
  ipv6 : List String := []
  mtu : Option UInt32 := none
deriving DecidableEq, Inhabited

/-- A configuration; the interfaces are sorted by name. -/
structure Config where
  logging : Option Logging := none
  interfaces : List (String × Entry) := []
deriving DecidableEq, Inhabited

/-- Sorts the interfaces of a configuration by name. -/
def Config.ofEntries (logging : Option Logging) (entries : List (String × Entry)) : Config :=
  { logging, interfaces := entries.mergeSort fun a b => decide (a.1 ≤ b.1) }

/-- What there is to say about a configuration. -/
structure Diagnostics where
  warnings : List String := []
  errors : List String := []
deriving DecidableEq, Inhabited

namespace Diagnostics

def warn (text : String) (diagnostics : Diagnostics) : Diagnostics :=
  { diagnostics with warnings := diagnostics.warnings ++ [text] }

def error (text : String) (diagnostics : Diagnostics) : Diagnostics :=
  { diagnostics with errors := diagnostics.errors ++ [text] }

def hasErrors (diagnostics : Diagnostics) : Bool :=
  !diagnostics.errors.isEmpty

def append (first second : Diagnostics) : Diagnostics :=
  { warnings := first.warnings ++ second.warnings, errors := first.errors ++ second.errors }

instance : Append Diagnostics := ⟨append⟩

/-- The events of a report: the warnings, then the errors. -/
def events (diagnostics : Diagnostics) : List Event :=
  diagnostics.warnings.map .diagnosticWarning ++ diagnostics.errors.map .diagnosticError

end Diagnostics

end VirtualLink
