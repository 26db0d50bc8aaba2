import VirtualLink.Backend
import VirtualLink.Config
import VirtualLink.Counters

namespace VirtualLink

/-- What an attached link had before it was brought up. -/
structure Restore where
  mac : Option Mac
  mtu : UInt32
deriving DecidableEq, Inhabited

/-- An interface. While it is down the settings are what the next bring-up will commit, while it is up they are
what the last one committed. -/
structure Interface where
  name : String
  id : UInt32
  kind : Kind
  settings : Settings := {}
  /-- The MTU was asked for, and is not just the default or the one that was found. -/
  mtuChosen : Bool := false
  restore : Option Restore := none
  isUp : Bool := false
  counters : Counters := {}
  pool : Pool
deriving DecidableEq, Inhabited

namespace Interface

def stateError (iface : Interface) (action : String) : Error :=
  .state action iface.name iface.isUp

/-- Refuses the action while the interface is up. -/
def requireDown (action : String) : Call Error Interface Unit := do
  let iface ← Call.get
  if iface.isUp then Call.fail (iface.stateError action)

def updateSettings (f : Settings → Settings) : Call Error Interface Unit :=
  Call.modify fun iface => { iface with settings := f iface.settings }

def setMac (text : String) : Call Error Interface Unit := do
  requireDown "set MAC address"
  let mac ← Call.check (readMac text)
  updateSettings fun settings => { settings with mac := some mac }
  Call.log (.pendingMac (← Call.get).name mac)

def setIpv4 (text : String) : Call Error Interface Unit := do
  requireDown "set IPv4 address"
  let addr ← Call.check (readIpv4 text)
  updateSettings fun settings => { settings with ipv4 := some addr }
  Call.log (.pendingIpv4 (← Call.get).name text)

def setNetmask (text : String) : Call Error Interface Unit := do
  requireDown "set netmask"
  let mask ← Call.check (readNetmask text)
  updateSettings fun settings => { settings with netmask := some mask }
  Call.log (.pendingNetmask (← Call.get).name text)

def setBroadcast (text : String) : Call Error Interface Unit := do
  requireDown "set broadcast address"
  let addr ← Call.check (readBroadcast text)
  updateSettings fun settings => { settings with broadcast := some addr }
  Call.log (.pendingBroadcast (← Call.get).name text)

/-- Replaces the list of IPv6 addresses. -/
def setIpv6 (texts : List String) : Call Error Interface Unit := do
  requireDown "set IPv6 addresses"
  let addrs ← Call.check (readIpv6List texts)
  updateSettings fun settings => { settings with ipv6 := addrs }
  Call.log (.pendingIpv6 (← Call.get).name addrs.length)

/-- Appends an address. The longer list has to read back from its text. -/
def addIpv6 (text : String) : Call Error Interface Unit := do
  requireDown "add IPv6 address"
  let addr ← Call.check (readIpv6 text)
  let addrs := (← Call.get).settings.ipv6 ++ [addr]
  discard (Call.check (readIpv6List (addrs.map Ipv6.toText)))
  updateSettings fun settings => { settings with ipv6 := addrs }

def setMtu (mtu : UInt32) : Call Error Interface Unit := do
  requireDown "set MTU"
  let mtu ← Call.check (checkMtu mtu)
  updateSettings fun settings => { settings with mtu }
  Call.modify fun iface => { iface with mtuChosen := true }
  Call.log (.pendingMtu (← Call.get).name mtu)

/-- Takes over, one after the other, what the entry gives. The IPv6 list is always taken, and the kind never. -/
def configure (entry : Entry) : Call Error Interface Unit := do
  requireDown "configure"
  let iface ← Call.get
  if entry.kind ≠ iface.kind then Call.log (.kindIgnored iface.name iface.kind entry.kind)
  entry.mac.forM setMac
  entry.ipv4.forM setIpv4
  entry.netmask.forM setNetmask
  entry.broadcast.forM setBroadcast
  setIpv6 entry.ipv6
  entry.mtu.forM setMtu

/-- The fields by name, the address list and absent values included. -/
def debugText (iface : Interface) : String :=
  let settings := iface.settings
  let optional (text : Option String) : String :=
    match text with
    | some text => s!"Some({text})"
    | none => "None"
  let state := if iface.isUp then "Up" else "Down"
  let ipv6 := ", ".intercalate (settings.ipv6.map Ipv6.toText)
  "VirtualInterface \x7b name: " ++ Quoted.text iface.name
    ++ s!", id: {iface.id}, kind: {iface.kind.label}, state: {state}, settings: LinkSettings \x7b mac: "
    ++ optional (settings.mac.map Mac.toText) ++ ", ipv4: " ++ optional (settings.ipv4.map Ipv4.toText)
    ++ ", netmask: " ++ optional (settings.netmask.map Ipv4.toText)
    ++ ", broadcast: " ++ optional (settings.broadcast.map Ipv4.toText)
    ++ s!", ipv6: [{ipv6}], mtu: {settings.mtu} \x7d \x7d"

end Interface

/-- An interface together with the state of the backend that drives it. -/
structure Driven (σ : Type) where
  iface : Interface
  backend : σ

namespace Driven

variable {ε σ α : Type}

def iface? : Call ε (Driven σ) Interface :=
  fun driven => ⟨.ok driven.iface, driven, []⟩

def onInterface (call : Call ε Interface α) : Call ε (Driven σ) α :=
  call.zoom Driven.iface fun iface driven => { driven with iface }

def onBackend (call : Call ε σ α) : Call ε (Driven σ) α :=
  call.zoom Driven.backend fun backend driven => { driven with backend }

def onPool (call : Call ε Pool α) : Call ε (Driven σ) α :=
  onInterface (call.zoom Interface.pool fun pool iface => { iface with pool })

def update (f : Interface → Interface) : Call ε (Driven σ) Unit :=
  Call.modify fun driven => { driven with iface := f driven.iface }

end Driven

end VirtualLink
