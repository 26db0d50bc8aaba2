import VirtualLink.Config

namespace VirtualLink

/-- Whether a check of the entry `name` found a broken rule. -/
def reviewField (name : String) (result : Checked α) : Diagnostics :=
  match result with
  | .ok _ => {}
  | .error v => { errors := [s!"interfaces.{name}: {v.message}"] }

def reviewOptional (name : String) (read : String → Checked α) : Option String → Diagnostics
  | some text => reviewField name (read text)
  | none => {}

/-- An id must not have been given before; of several holders the last one is named. -/
def reviewId (taken : List (UInt32 × String)) (name : String) : Option UInt32 → Diagnostics
  | some id =>
    match taken.lookup id with
    | some other => { errors := [s!"interfaces.{name}: id {id} already used by interfaces.{other}"] }
    | none => {}
  | none => {}

def reviewMtu (name : String) : Option UInt32 → Diagnostics
  | some mtu => reviewField name (checkMtu mtu)
  | none => { warnings := [s!"interfaces.{name}: mtu not specified, using default {defaultMtu}"] }

/-- What an entry says without what it needs. -/
def reviewCompanions (name : String) (entry : Entry) : Diagnostics :=
  if entry.ipv4.isNone ∧ (entry.netmask.isSome ∨ entry.broadcast.isSome) then
    { errors := [s!"interfaces.{name}: netmask/broadcast require an ipv4 address"] }
  else if entry.ipv4.isSome ∧ entry.netmask.isNone then
    { warnings := [s!"interfaces.{name}: ipv4 without netmask, kernel will derive one"] }
  else {}

def reviewEntry (taken : List (UInt32 × String)) (name : String) (entry : Entry) : Diagnostics :=
  reviewField name (checkName name)
    ++ reviewId taken name entry.id
    ++ reviewOptional name readMac entry.mac
    ++ reviewOptional name readIpv4 entry.ipv4
    ++ reviewOptional name readNetmask entry.netmask
    ++ reviewOptional name readBroadcast entry.broadcast
    ++ reviewField name (readIpv6List entry.ipv6)
    ++ reviewMtu name entry.mtu
    ++ reviewCompanions name entry

/-- Goes through the entries in order; `taken` holds the ids given so far, the latest first. -/
def reviewEntries (taken : List (UInt32 × String)) : List (String × Entry) → Diagnostics
  | [] => {}
  | (name, entry) :: rest =>
    let takenNow := (entry.id.map fun id => (id, name)).toList ++ taken
    reviewEntry taken name entry ++ reviewEntries takenNow rest

def Logging.knownFormats : List String := ["pretty", "compact", "json"]

/-- An unknown level or format is only worth a warning. -/
def Logging.review (logging : Logging) : Diagnostics :=
  let level : Diagnostics :=
    if (Level.ofText? logging.level).isSome then {}
    else { warnings := ["logging.level: unknown level '" ++ logging.level ++ "', using info"] }
  let format : Diagnostics :=
    if logging.format ∈ knownFormats then {}
    else { warnings := ["logging.format: unknown format '" ++ logging.format ++ "', using pretty"] }
  level ++ format

/-- Everything that is wrong or doubtful about a configuration. -/
def Config.review (config : Config) : Diagnostics :=
  reviewEntries [] config.interfaces ++
    match config.logging with
    | some logging => logging.review
    | none => {}

end VirtualLink
