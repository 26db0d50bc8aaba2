import Mathlib.Data.List.Basic
import VirtualLink.Proofs.MemoryLink.Committing
import VirtualLink.Proofs.Restoring
import VirtualLink.Proofs.Transcript

namespace VirtualLink

open Call Driven

variable {ε σ : Type}

namespace Interface

/-- The MTU for a link of this origin that has this one. -/
def mtuOn (iface : Interface) (origin : Origin) (found : UInt32) : UInt32 :=
  if origin = .attached ∧ ¬ iface.mtuChosen then found else iface.settings.mtu

/-- What a bring-up asks of an open link, in order. -/
def requests (iface : Interface) (mtu : UInt32) : List Request :=
  (if iface.kind.isTap then [.setMac (chosenMac iface)] else []) ++ [.setMtu mtu]
    ++ (iface.settings.ipv4.map .setIpv4).toList ++ (iface.settings.netmask.map .setNetmask).toList
    ++ (iface.settings.broadcast.map .setBroadcast).toList
    ++ iface.settings.ipv6.map (.addIpv6 · ipv6PrefixLength) ++ [.setAdmin true]

/-- What a bring-up reads of an open link: of a tap also the hardware address. -/
def looks (iface : Interface) (mac : Mac) (mtu : UInt32) : List Turn :=
  .mtu iface.name (.ok mtu) :: if iface.kind.isTap then [.mac iface.name (.ok mac)] else []

/-- The plan for an open link that has this hardware address and this MTU. -/
def planOn (iface : Interface) (origin : Origin) (mac : Mac) (mtu : UInt32) : Plan where
  previousMtu := mtu
  previousMac := if iface.kind.isTap then some mac else none
  mac := chosenMac iface
  mtu := iface.mtuOn origin mtu

/-- Why a bring-up stops with an open link before it asks anything of it, and what it has read till then. -/
inductive Unready (iface : Interface) (origin : Origin) : Error → List Turn → Prop
  | mtu (error : Error) : Unready iface origin error [.mtu iface.name (.error error)]
  | room (found : UInt32) (short : (iface.mtuOn origin found).toNat + frameOverhead > iface.pool.capacity) :
      Unready iface origin (.poolExhausted ((iface.mtuOn origin found).toNat + frameOverhead) iface.pool.capacity)
        [.mtu iface.name (.ok found)]
  | mac (found : UInt32) (error : Error) (tap : iface.kind.isTap = true) :
      Unready iface origin error [.mtu iface.name (.ok found), .mac iface.name (.error error)]

/-- The queues that an interface holds have no part in it. -/
theorem Unready.of_holding {iface : Interface} {queues : Option Queues} {origin : Origin} {error : Error}
    {looks : List Turn} (unready : (iface.holding queues).Unready origin error looks) :
    iface.Unready origin error looks := by
  cases unready with
  | mtu error => exact .mtu error
  | room found short => exact .room found short
  | mac found error tap => exact .mac found error tap

end Interface

/-- The request that takes back a granted one, on a link that had this hardware address and this MTU. -/
def Request.inverse? (mac : Mac) (mtu : UInt32) : Request → Option Request
  | .setMac _ => some (.setMac mac)
  | .setMtu _ => some (.setMtu mtu)
  | .setIpv4 _ => some .clearIpv4
  | .addIpv6 addr prefixLength => some (.delIpv6 addr prefixLength)
  | .setNetmask _ | .setBroadcast _ | .clearIpv4 | .delIpv6 .. | .setAdmin _ => none

/-- The turns of a bring-up that ends with this error, each of them for the link of the interface. Once that is open,
what was granted before the error is taken back, the last of it first, and the queues are released, whatever the
answers. -/
inductive Unwound (iface : Interface) (error : Error) : List Turn → Prop
  | unopened : Unwound iface error [.acquire iface.name iface.kind (.error error)]
  | unready {queues : Queues} {looks : List Turn} (unready : iface.Unready queues.origin error looks)
      (answer : Except Error Unit) :
      Unwound iface error
        (.acquire iface.name iface.kind (.ok queues) :: looks ++ [.release iface.name queues answer])
  | refused {queues : Queues} {mac : Mac} {mtu : UInt32} {granted rest : List Request} {change : Request}
      (cut : iface.requests (iface.mtuOn queues.origin mtu) = granted ++ change :: rest)
      {undone : List (Request × Except Error Unit)}
      (inverse : undone.map Prod.fst = (granted.filterMap (Request.inverse? mac mtu)).reverse)
      (answer : Except Error Unit) :
      Unwound iface error
        (.acquire iface.name iface.kind (.ok queues) :: iface.looks mac mtu ++ granted.map (.granted iface.name)
          ++ .request iface.name change (.error error)
            :: undone.map (fun entry => .request iface.name entry.1 entry.2)
          ++ [.release iface.name queues answer])

namespace Plan

variable {plan : Plan} {settings : Settings}

theorem Asks.undo_eq {request : Request} {undo : Option Request} {mac : Mac} (asks : plan.Asks settings request undo)
    (read : ∀ previous, plan.previousMac = some previous → previous = mac) :
    undo = request.inverse? mac plan.previousMtu := by
  cases asks with
  | mac known => rw [read _ known]; rfl
  | _ => rfl

theorem undo_eq_inverse? {name : String} {mac : Mac} {step : Step} (member : step ∈ plan.steps name settings)
    (read : ∀ previous, plan.previousMac = some previous → previous = mac) :
    step.undo = step.request.inverse? mac plan.previousMtu := by
  rw [steps_eq_configuring_append, List.mem_append, List.mem_singleton] at member
  rcases member with configuring | rfl
  · exact (asks_of_mem configuring).undo_eq read
  · rfl

theorem undo_of_made {name : String} {mac : Mac} {made rest : List Step} {step : Step}
    (cut : plan.steps name settings = made ++ step :: rest)
    (read : ∀ previous, plan.previousMac = some previous → previous = mac) :
    made.filterMap Step.undo = (made.map Step.request).filterMap (Request.inverse? mac plan.previousMtu) := by
  rw [List.filterMap_map]
  refine List.filterMap_congr fun earlier member => ?_
  exact undo_eq_inverse? (cut ▸ List.mem_append_left _ member) read

end Plan

theorem Interface.map_request_steps (iface : Interface) (origin : Origin) (mac : Mac) (mtu : UInt32)
    (valid : iface.settings.check = .ok ()) :
    ((iface.planOn origin mac mtu).steps iface.name iface.settings).map Step.request
      = iface.requests (iface.mtuOn origin mtu) := by
  have named : ((iface.planOn origin mac mtu).previousMac.map fun _ => Request.setMac (chosenMac iface)).toList
      = if iface.kind.isTap then [.setMac (chosenMac iface)] else [] := by
    cases tap : iface.kind.isTap <;> simp [planOn, tap]
  have addressed : Plan.ipv4Requests iface.settings
      = (iface.settings.ipv4.map .setIpv4).toList ++ (iface.settings.netmask.map .setNetmask).toList
        ++ (iface.settings.broadcast.map .setBroadcast).toList := by
    cases given : iface.settings.ipv4 with
    | some addr => simp [Plan.ipv4Requests, given]
    | none =>
      obtain ⟨netmask, broadcast⟩ := Settings.companions_of_check valid given
      simp [Plan.ipv4Requests, given, netmask, broadcast]
  rw [Plan.map_request_steps, addressed]
  change (Option.map (fun _ => Request.setMac (chosenMac iface)) _).toList ++ _ ++ _ ++ _ ++ _ = _
  rw [named]
  simp only [requests, List.append_assoc]
  rfl

namespace Driven

variable {backend : Backend σ} {iface : Interface} {before : Transcribed σ}

theorem prepare_transcribed (origin : Origin) {done : Plan → Driven (Transcribed σ) → Prop}
    {failed : Error → Driven (Transcribed σ) → Prop}
    (read : ∀ mac mtu state, done (iface.planOn origin mac mtu)
      ⟨iface.reserved (iface.planOn origin mac mtu).room, ⟨state, before.turns ++ iface.looks mac mtu⟩⟩)
    (unready : ∀ error looks scratch state, iface.Unready origin error looks →
      failed error ⟨{ iface with pool := { iface.pool with scratch } }, ⟨state, before.turns ++ looks⟩⟩) :
    (prepare backend.transcribed origin (chosenMac iface)).Ensures done failed ⟨iface, before⟩ := by
  simp only [prepare, ensures_bind (iface?), ensures_iface?]
  refine (ensures_bind _ _).mpr ((ensures_onBackend _).mpr (transcribed_ensures (fun mtu state => ?_) ?_))
  · -- Whether the MTU is adopted or committed, what comes after it is the same.
    have rest :
        (do
          onPool (Pool.reserve ((iface.mtuOn origin mtu).toNat + frameOverhead))
          let previousMac ←
            if iface.kind.isTap then some <$> onBackend (backend.transcribed.mac iface.name) else pure none
          return ({ previousMtu := mtu, previousMac, mac := chosenMac iface, mtu := iface.mtuOn origin mtu } : Plan) :
            Call Error (Driven (Transcribed σ)) Plan).Ensures done failed
          ⟨iface, ⟨state, before.turns ++ [.mtu iface.name (.ok mtu)]⟩⟩ := by
      simp only [ensures_bind, ensures_onPool, Pool.reserve, ensures_get, ensures_ite, ensures_fail, ensures_modify]
      split
      · rename_i short
        exact unready _ _ iface.pool.scratch state (.room mtu short)
      · cases tap : iface.kind.isTap with
        | false =>
          have known := read default mtu state
          simp only [Interface.planOn, Interface.looks, tap] at known
          exact known
        | true =>
          simp only [if_true, ensures_map, ensures_onBackend]
          refine transcribed_ensures (fun mac later => ?_) fun error later => ?_
          · have known := read mac mtu later
            simp only [Interface.planOn, Interface.looks, tap, if_true] at known
            rw [List.append_cons] at known
            exact known
          · have stopped := unready error _
              (List.replicate ((iface.mtuOn origin mtu).toNat + frameOverhead) 0) later (.mac mtu error tap)
            rw [List.append_cons] at stopped
            exact stopped
    by_cases adopts : origin = .attached ∧ ¬ iface.mtuChosen
    · rw [Interface.mtuOn, if_pos adopts] at rest
      simp only [if_pos adopts]
      exact rest
    · rw [Interface.mtuOn, if_neg adopts] at rest
      simp only [if_neg adopts]
      exact rest
  · exact fun error state => unready error _ iface.pool.scratch state (.mtu error)

theorem commit_transcribed (valid : iface.settings.check = .ok ()) (origin : Origin)
    {done : Plan → Driven (Transcribed σ) → Prop} {failed : Setback → Driven (Transcribed σ) → Prop}
    (made : ∀ mac mtu state, done (iface.planOn origin mac mtu)
      ⟨iface.reserved (iface.planOn origin mac mtu).room,
        ⟨state, before.turns ++ (iface.looks mac mtu
          ++ (iface.requests (iface.mtuOn origin mtu)).map (.granted iface.name))⟩⟩)
    (unready : ∀ error looks scratch state, iface.Unready origin error looks →
      failed ⟨error, []⟩ ⟨{ iface with pool := { iface.pool with scratch } }, ⟨state, before.turns ++ looks⟩⟩)
    (refused : ∀ mac mtu granted change rest error state,
      iface.requests (iface.mtuOn origin mtu) = granted ++ change :: rest →
      failed ⟨error, (granted.filterMap (Request.inverse? mac mtu)).reverse⟩
        ⟨iface.reserved (iface.planOn origin mac mtu).room,
          ⟨state, before.turns
            ++ (iface.looks mac mtu
              ++ (granted.map (.granted iface.name) ++ [.request iface.name change (.error error)]))⟩⟩) :
    (commit backend.transcribed origin (chosenMac iface)).Ensures done failed ⟨iface, before⟩ := by
  simp only [commit, unstarted, ensures_bind, ensures_mapError]
  refine prepare_transcribed origin (fun mac mtu state => ?_) fun error looks scratch state =>
    unready error looks scratch state
  have asked := iface.map_request_steps origin mac mtu valid
  simp only [ensures_bind, ensures_iface?, ensures_onBackend, ensures_pure]
  refine Backend.runSteps_transcribed _ _ _ (fun later => ?_) fun granted step rest error later stopped => ?_
  · have turns : ((iface.planOn origin mac mtu).steps iface.name iface.settings).map
        (fun step => Turn.granted iface.name step.request)
          = (iface.requests (iface.mtuOn origin mtu)).map (.granted iface.name) := by
      rw [← asked, List.map_map]
      rfl
    have all := made mac mtu later
    rw [← turns, ← List.append_assoc] at all
    exact all
  · have known : ∀ previous, (iface.planOn origin mac mtu).previousMac = some previous → previous = mac := by
      intro previous read
      simp only [Interface.planOn] at read
      split at read
      · exact (Option.some.inj read).symm
      · cases read
    have cut : (iface.planOn origin mac mtu).steps iface.name iface.settings = granted ++ step :: rest := stopped
    rw [cut, List.map_append, List.map_cons] at asked
    have part := refused mac mtu _ _ _ error later asked.symm
    have undo : (granted.map Step.request).filterMap (Request.inverse? mac mtu) = granted.filterMap Step.undo :=
      (Plan.undo_of_made cut known).symm
    rw [undo, List.map_map, ← List.append_assoc before.turns] at part
    rw [List.append_nil]
    exact part

theorem rollBack_transcribed {queues : Queues} (held : iface.pool.queues = some queues) (undo : List Request)
    {ε : Type} {done : Unit → Driven (Transcribed σ) → Prop} {failed : ε → Driven (Transcribed σ) → Prop}
    (released : ∀ (undone : List (Request × Except Error Unit)) answer state, undone.map Prod.fst = undo →
      done () ⟨iface.holding none,
        ⟨state, before.turns ++ (undone.map (fun entry => .request iface.name entry.1 entry.2)
          ++ [.release iface.name queues answer])⟩⟩) :
    (rollBack backend.transcribed undo).Ensures done failed ⟨iface, before⟩ := by
  simp only [rollBack, ensures_bind, ensures_iface?, ensures_onBackend, ensures_attempt, releaseQueues, held,
    ensures_update]
  refine Backend.takeBack_transcribed _ _ fun undone state whole => ?_
  have last (answer : Except Error Unit) (later : σ) := released undone answer later whole
  simp only [← List.append_assoc] at last
  exact transcribed_ensures (fun _ => last (.ok ())) fun error => last (.error error)

theorem bringUp_transcribed (valid : iface.settings.check = .ok ())
    {done : Plan × Origin → Driven (Transcribed σ) → Prop} {failed : Error → Driven (Transcribed σ) → Prop}
    (unwound : ∀ error turns pool state, Unwound iface error turns →
      failed error ⟨{ iface with pool }, ⟨state, before.turns ++ turns⟩⟩)
    (brought : ∀ queues mac mtu state, done (iface.planOn queues.origin mac mtu, queues.origin)
      ⟨(iface.reserved (iface.planOn queues.origin mac mtu).room).holding (some queues),
        ⟨state, before.turns ++ .acquire iface.name iface.kind (.ok queues) :: (iface.looks mac mtu
          ++ (iface.requests (iface.mtuOn queues.origin mtu)).map (.granted iface.name))⟩⟩) :
    (bringUp backend.transcribed (chosenMac iface)).Ensures done failed ⟨iface, before⟩ := by
  simp only [bringUp, ensures_bind, ensures_iface?, ensures_attempt, ensures_onBackend]
  refine transcribed_ensures (fun queues state => ?_) fun error state => unwound error _ iface.pool state .unopened
  simp only [ensures_bind, ensures_log, ensures_update, ensures_attempt]
  have held : (iface.holding (some queues)).settings.check = .ok () := valid
  refine commit_transcribed held queues.origin (fun mac mtu later => ?made)
    (fun error looks scratch later unready => ?unready) fun mac mtu granted change rest error later cut => ?refused
  case made =>
    have whole := brought queues mac mtu later
    rw [List.append_cons] at whole
    exact whole
  all_goals
    simp only [ensures_bind, ensures_log]
    refine rollBack_transcribed rfl _ fun undone answer last inverse => ?_
  case unready =>
    obtain rfl := List.map_eq_nil_iff.mp inverse
    have ended := unwound error _ { iface.pool with queues := none, scratch } last
      (.unready unready.of_holding answer)
    simp only [List.cons_append] at ended
    simp only [List.append_assoc, List.cons_append]
    exact ended
  case refused =>
    have stopped : iface.requests (iface.mtuOn queues.origin mtu) = granted ++ change :: rest := cut
    have ended := unwound error _ ((iface.reserved (iface.planOn queues.origin mac mtu).room).holding none).pool last
      (.refused stopped inverse answer)
    simp only [List.append_assoc, List.cons_append] at ended
    simp only [List.append_assoc, List.cons_append]
    exact ended

/-- The ways in which a bring-up can end, by what it asked and was answered. -/
theorem up_transcribed (down : iface.isUp = false) {done : Unit → Driven (Transcribed σ) → Prop}
    {failed : Error → Driven (Transcribed σ) → Prop}
    (invalid : ∀ v, iface.settings.check = .error v → failed (.violation v) ⟨iface, before⟩)
    (unwound : ∀ error turns pool state, Unwound iface error turns →
      failed error ⟨{ iface with pool }, ⟨state, before.turns ++ turns⟩⟩)
    (brought : ∀ queues mac mtu state, done ()
      ⟨((iface.reserved (iface.planOn queues.origin mac mtu).room).holding (some queues)).raised
          (iface.planOn queues.origin mac mtu) queues.origin,
        ⟨state, before.turns ++ .acquire iface.name iface.kind (.ok queues) :: (iface.looks mac mtu
          ++ (iface.requests (iface.mtuOn queues.origin mtu)).map (.granted iface.name))⟩⟩) :
    (up backend.transcribed).Ensures done failed ⟨iface, before⟩ := by
  simp only [up, ensures_bind, ensures_iface?, down, Bool.false_eq_true, if_false]
  cases valid : iface.settings.check with
  | error v => exact invalid v valid
  | ok =>
    simp only [ensures_check_ok, ensures_bind, ensures_log]
    exact bringUp_transcribed valid unwound fun queues mac mtu state => brought queues mac mtu state

end Driven

/-- A bring-up that fails is unwound. Its transcript starts as that of one that succeeds, and ends with what takes
back the granted part of it, last request first. The interface is as it was, but for its memory. -/
theorem failed_up_unwinds (backend : Backend σ) {iface : Interface} {state : σ} {error : Error}
    (down : iface.isUp = false) (valid : iface.settings.check = .ok ())
    (failed : (Driven.up backend ⟨iface, state⟩).result = .error error) :
    let reply := Driven.up backend.transcribed ⟨iface, ⟨state, []⟩⟩
    Driven.up backend ⟨iface, state⟩ = ⟨.error error, reply.state.seen Transcribed.state, reply.events⟩
      ∧ Unwound iface error reply.state.backend.turns
      ∧ reply.state.iface = { iface with pool := reply.state.iface.pool } := by
  intro reply
  have same : Driven.up backend ⟨iface, state⟩ = ⟨reply.result, reply.state.seen Transcribed.state, reply.events⟩ :=
    backend.transcribed_mirrors.up ⟨iface, ⟨state, []⟩⟩
  have refused : reply.result = .error error := by
    rw [same] at failed
    exact failed
  have unwinds : (Driven.up backend.transcribed).Ensures (fun _ _ => True)
      (fun error after =>
        Unwound iface error after.backend.turns ∧ after.iface = { iface with pool := after.iface.pool })
      ⟨iface, ⟨state, []⟩⟩ := by
    refine Driven.up_transcribed down (fun v broken => ?_) (fun error turns pool later unwound => ?_)
      fun _ _ _ _ => trivial
    · rw [valid] at broken
      cases broken
    · exact ⟨unwound, rfl⟩
  exact ⟨refused ▸ same, unwinds.of_error refused⟩

/-- The link is told to refuse the last request, and takes back the ones before. -/
theorem failed_up_unwinds_encounter :
    ∃ error, (Driven.up MemoryLink.backend (MemoryLink.encounter { ipv4 := some ⟨10, 0, 0, 2⟩ })).result = .error error
      ∧ Unwound (MemoryLink.encounter { ipv4 := some ⟨10, 0, 0, 2⟩ }).iface error
          (Driven.up MemoryLink.backend.transcribed
            ⟨(MemoryLink.encounter { ipv4 := some ⟨10, 0, 0, 2⟩ }).iface,
              ⟨(MemoryLink.encounter { ipv4 := some ⟨10, 0, 0, 2⟩ }).backend, []⟩⟩).state.backend.turns := by
  have refused :
      (Driven.up MemoryLink.backend (MemoryLink.encounter { ipv4 := some ⟨10, 0, 0, 2⟩ })).result.isOk = false := by
    decide
  have valid : (MemoryLink.encounter { ipv4 := some ⟨10, 0, 0, 2⟩ }).iface.settings.check = .ok () := by decide
  have down : (MemoryLink.encounter { ipv4 := some ⟨10, 0, 0, 2⟩ }).iface.isUp = false := rfl
  generalize MemoryLink.encounter { ipv4 := some ⟨10, 0, 0, 2⟩ } = start at refused valid down ⊢
  cases failed : (Driven.up MemoryLink.backend start).result with
  | ok => simp [failed, Except.isOk, Except.toBool] at refused
  | error error => exact ⟨error, rfl, (failed_up_unwinds MemoryLink.backend down valid failed).2.1⟩

end VirtualLink
