import VirtualLink.Error
import VirtualLink.Link

namespace VirtualLink

/-- The counters that a link keeps, in listing order. -/
def statNames : Vector String 23 :=
  #v["collisions", "multicast", "rx_bytes", "rx_compressed", "rx_crc_errors", "rx_dropped", "rx_errors",
    "rx_fifo_errors", "rx_frame_errors", "rx_length_errors", "rx_missed_errors", "rx_over_errors", "rx_packets",
    "tx_aborted_errors", "tx_bytes", "tx_carrier_errors", "tx_compressed", "tx_dropped", "tx_errors",
    "tx_fifo_errors", "tx_heartbeat_errors", "tx_packets", "tx_window_errors"]

/-- A counter by its place in the listing. -/
abbrev Stat := Fin 23

namespace Stat

def all : List Stat :=
  List.finRange 23

def name (stat : Stat) : String :=
  statNames[stat]

def ofName? (name : String) : Option Stat :=
  all.find? fun stat => stat.name == name

def ofName (name : String) : Except Error Stat :=
  match ofName? name with
  | some stat => .ok stat
  | none => .error (.unknownStat name)

def rxBytes : Stat := 2
def rxPackets : Stat := 12
def txBytes : Stat := 14
def txPackets : Stat := 21

end Stat

/-- A value for every counter. -/
abbrev PerStat (α : Type) := Vector α 23

namespace PerStat

variable {α : Type}

def get (values : PerStat α) (stat : Stat) : α :=
  values[stat]

def put (values : PerStat α) (stat : Stat) (value : α) : PerStat α :=
  values.set stat value

theorem get_put_self (values : PerStat α) (stat : Stat) (value : α) : (values.put stat value).get stat = value := by
  simp [get, put]

theorem get_put_of_ne {stat other : Stat} (values : PerStat α) (value : α) (ne : other ≠ stat) :
    (values.put stat value).get other = values.get other := by
  have apart : stat.val ≠ other.val := fun same => ne (Fin.ext same.symm)
  simp [get, put, apart]

end PerStat

/-- A sum that stays at the largest word. -/
def addCapped (a b : UInt64) : UInt64 :=
  UInt64.ofNat (min (a.toNat + b.toNat) (UInt64.size - 1))

/-- A difference that stays at zero. -/
def subCapped (a b : UInt64) : UInt64 :=
  UInt64.ofNat (a.toNat - b.toNat)

/-- One counter as seen through an interface: what earlier incarnations of the link counted, the last reading
of the present one, and the total at the last clear. -/
structure Tally where
  carried : UInt64 := 0
  current : UInt64 := 0
  baseline : UInt64 := 0
deriving DecidableEq, Inhabited

namespace Tally

def total (tally : Tally) : UInt64 :=
  addCapped tally.carried tally.current

def value (tally : Tally) : UInt64 :=
  subCapped tally.total tally.baseline

/-- A reading below the last one means that the link's counter started over. -/
def observe (tally : Tally) (reading : UInt64) : Tally :=
  if reading < tally.current then
    { tally with carried := addCapped tally.carried tally.current, current := reading }
  else { tally with current := reading }

def clear (tally : Tally) : Tally :=
  { tally with baseline := tally.total }

/-- A created link takes its counters with it, and the next one starts from zero. An attached link goes on
counting, so its last reading stays. -/
def retire (origin : Origin) (tally : Tally) : Tally :=
  match origin with
  | .attached => tally
  | .created => { tally with carried := tally.total, current := 0 }

end Tally

/-- The counters of one interface, over all incarnations of its link. -/
structure Counters where
  tallies : PerStat Tally := Vector.replicate 23 {}
deriving DecidableEq, Inhabited

namespace Counters

def tally (counters : Counters) (stat : Stat) : Tally :=
  counters.tallies.get stat

def value (counters : Counters) (stat : Stat) : UInt64 :=
  (counters.tally stat).value

def update (counters : Counters) (stat : Stat) (f : Tally → Tally) : Counters :=
  ⟨counters.tallies.put stat (f (counters.tally stat))⟩

def observe (counters : Counters) (stat : Stat) (reading : UInt64) : Counters :=
  counters.update stat (·.observe reading)

def clear (counters : Counters) (stat : Stat) : Counters :=
  counters.update stat Tally.clear

/-- The queues of a link of this origin are closing. -/
def retire (counters : Counters) (origin : Origin) : Counters :=
  ⟨counters.tallies.map (Tally.retire origin)⟩

/-- Every counter with its value, in listing order. -/
def listing (counters : Counters) : List (String × UInt64) :=
  Stat.all.map fun stat => (stat.name, counters.value stat)

theorem tally_update_self (counters : Counters) (stat : Stat) (f : Tally → Tally) :
    (counters.update stat f).tally stat = f (counters.tally stat) :=
  PerStat.get_put_self ..

theorem tally_update_of_ne {stat other : Stat} (counters : Counters) (f : Tally → Tally) (ne : other ≠ stat) :
    (counters.update stat f).tally other = counters.tally other :=
  PerStat.get_put_of_ne _ _ ne

theorem tally_retire (counters : Counters) (origin : Origin) (stat : Stat) :
    (counters.retire origin).tally stat = (counters.tally stat).retire origin := by
  simp [retire, tally, PerStat.get]

end Counters

end VirtualLink
