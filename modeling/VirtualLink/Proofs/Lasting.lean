import VirtualLink.Proofs.Session

namespace VirtualLink

open Call

namespace Interface

/-- The origin of the queues that the interface holds. -/
def origin (iface : Interface) : Origin :=
  (iface.pool.queues.map Queues.origin).getD .created

variable {kept : Interface → Prop} {α : Type}

/-- A property that does not depend on what an interface that is down is to commit. -/
def Unsettled (kept : Interface → Prop) : Prop :=
  ∀ iface settings mtuChosen, iface.isUp = false → kept iface → kept { iface with settings, mtuChosen }

theorem requireDown_keeps (action : String) {next : Unit → Call Error Interface α}
    (rest : (next ()).Keeps fun iface => kept iface ∧ iface.isUp = false) :
    (requireDown action >>= next).Keeps kept := by
  intro iface before
  simp only [requireDown, ensures_bind, ensures_get, ensures_ite, ensures_fail, ensures_pure]
  split
  · exact before
  · rename_i down
    exact (rest iface ⟨before, by simpa using down⟩).mono (fun _ _ held => held.1) fun _ _ held => held.1

theorem updateSettings_keeps (unsettled : Unsettled kept) (f : Settings → Settings) :
    (updateSettings f).Keeps fun iface => kept iface ∧ iface.isUp = false :=
  fun iface before => ⟨unsettled iface (f iface.settings) iface.mtuChosen before.2 before.1, before.2⟩

/-- Most setters check one value and put it into the settings. -/
theorem pending_keeps (unsettled : Unsettled kept) (action : String) (given : Checked α)
    (put : α → Settings → Settings) {rest : α → Call Error Interface Unit}
    (later : ∀ a, (rest a).Keeps fun iface => kept iface ∧ iface.isUp = false) :
    (do
      requireDown action
      let a ← Call.check given
      updateSettings (put a)
      rest a).Keeps kept :=
  requireDown_keeps action ((Keeps.check given).bind fun a =>
    (updateSettings_keeps unsettled (put a)).bind fun _ => later a)

theorem note_keeps (event : Interface → Event) :
    (do log (event (← Call.get)) : Call Error Interface Unit).Keeps kept :=
  Keeps.get.bind fun _ => Keeps.log _

theorem setMac_keeps (unsettled : Unsettled kept) (text : String) : (setMac text).Keeps kept :=
  pending_keeps unsettled _ _ _ fun mac => note_keeps fun iface => .pendingMac iface.name mac

theorem setIpv4_keeps (unsettled : Unsettled kept) (text : String) : (setIpv4 text).Keeps kept :=
  pending_keeps unsettled _ _ _ fun _ => note_keeps fun iface => .pendingIpv4 iface.name text

theorem setNetmask_keeps (unsettled : Unsettled kept) (text : String) : (setNetmask text).Keeps kept :=
  pending_keeps unsettled _ _ _ fun _ => note_keeps fun iface => .pendingNetmask iface.name text

theorem setBroadcast_keeps (unsettled : Unsettled kept) (text : String) : (setBroadcast text).Keeps kept :=
  pending_keeps unsettled _ _ _ fun _ => note_keeps fun iface => .pendingBroadcast iface.name text

theorem setIpv6_keeps (unsettled : Unsettled kept) (texts : List String) : (setIpv6 texts).Keeps kept :=
  pending_keeps unsettled _ _ _ fun addrs => note_keeps fun iface => .pendingIpv6 iface.name addrs.length

theorem addIpv6_keeps (unsettled : Unsettled kept) (text : String) : (addIpv6 text).Keeps kept :=
  requireDown_keeps _ ((Keeps.check _).bind fun _ => Keeps.get.bind fun _ =>
    ((Keeps.check _).map _).bind fun _ => updateSettings_keeps unsettled _)

theorem setMtu_keeps (unsettled : Unsettled kept) (mtu : UInt32) : (setMtu mtu).Keeps kept := by
  refine pending_keeps unsettled _ _ _ fun mtu => Keeps.bind ?_ fun _ =>
    note_keeps fun iface => .pendingMtu iface.name mtu
  exact fun iface before => ⟨unsettled iface iface.settings true before.2 before.1, before.2⟩

theorem configure_keeps (unsettled : Unsettled kept) (entry : Entry) : (configure entry).Keeps kept := by
  -- No setter takes the interface up, so that each finds it down as the first does.
  have stillUnsettled : Unsettled fun iface => kept iface ∧ iface.isUp = false :=
    fun iface settings mtuChosen down before => ⟨unsettled iface settings mtuChosen down before.1, before.2⟩
  have fields :
      (do
        entry.mac.forM setMac
        entry.ipv4.forM setIpv4
        entry.netmask.forM setNetmask
        entry.broadcast.forM setBroadcast
        setIpv6 entry.ipv6
        entry.mtu.forM setMtu).Keeps fun iface => kept iface ∧ iface.isUp = false :=
    (Keeps.forM (setMac_keeps stillUnsettled) _).bind fun _ =>
      (Keeps.forM (setIpv4_keeps stillUnsettled) _).bind fun _ =>
      (Keeps.forM (setNetmask_keeps stillUnsettled) _).bind fun _ =>
      (Keeps.forM (setBroadcast_keeps stillUnsettled) _).bind fun _ =>
      (setIpv6_keeps stillUnsettled _).bind fun _ => Keeps.forM (setMtu_keeps stillUnsettled) _
  refine requireDown_keeps _ (Keeps.get.bind fun iface => ?_)
  by_cases other : entry.kind ≠ iface.kind
  · simp only [if_pos other]
    exact (Keeps.log _).bind fun _ => fields
  · simp only [if_neg other]
    exact fields

end Interface

theorem Setter.call_keeps {kept : Interface → Prop} (unsettled : Interface.Unsettled kept) :
    ∀ setter : Setter, setter.call.Keeps kept
  | .mac text => Interface.setMac_keeps unsettled text
  | .ipv4 text => Interface.setIpv4_keeps unsettled text
  | .netmask text => Interface.setNetmask_keeps unsettled text
  | .broadcast text => Interface.setBroadcast_keeps unsettled text
  | .ipv6 texts => Interface.setIpv6_keeps unsettled texts
  | .moreIpv6 text => Interface.addIpv6_keeps unsettled text
  | .mtu size => Interface.setMtu_keeps unsettled size
  | .entry given => Interface.configure_keeps unsettled given

namespace Driven

variable {σ : Type} {backend : Backend σ} {kept : Driven σ → Prop}

theorem iface?_keeps {ε : Type} : (iface? : Call ε (Driven σ) Interface).Keeps kept :=
  fun _ before => before

theorem onBackend_keeps_iff {ε α : Type} {call : Call ε σ α} :
    (onBackend call).Keeps kept ↔ ∀ iface, call.Keeps fun state => kept ⟨iface, state⟩ := by
  constructor
  · exact fun keeps iface state before => (ensures_onBackend call).mp (keeps ⟨iface, state⟩ before)
  · exact fun keeps driven before => (ensures_onBackend call).mpr (keeps driven.iface driven.backend before)

/-- A call of the backend leaves the interface alone. -/
theorem onBackend_keeps_iface {ε α : Type} (held : Interface → Prop) (call : Call ε σ α) :
    (onBackend call).Keeps fun driven => held driven.iface := by
  intro driven before
  rw [ensures_onBackend]
  unfold Ensures
  split <;> exact before

section

variable {driven : Driven σ} {done : Unit → Driven σ → Prop} {failed : Error → Driven σ → Prop}

theorem up_refuses (up : driven.iface.isUp = true) :
    Driven.up backend driven = ⟨.error (driven.iface.stateError "up"), driven, []⟩ := by
  change (if driven.iface.isUp then fail (driven.iface.stateError "up") else _ : Call Error (Driven σ) Unit) driven = _
  rw [if_pos up]
  rfl

theorem down_refuses (down : driven.iface.isUp = false) :
    Driven.down backend driven = ⟨.error (driven.iface.stateError "down"), driven, []⟩ := by
  change (if ¬ driven.iface.isUp then fail (driven.iface.stateError "down") else _ : Call Error (Driven σ) Unit) driven
    = _
  rw [if_pos (by simp [down])]
  rfl

/-- A call that is refused at once stops what follows it. -/
theorem bind_refused {α β : Type} {call : Call Error (Driven σ) α} {error : Error}
    (refused : call driven = ⟨.error error, driven, []⟩) (next : α → Call Error (Driven σ) β) :
    (call >>= next) driven = ⟨.error error, driven, []⟩ :=
  bind_of_error refused next

theorem requireQueues_refuses (action : String) (down : driven.iface.isUp = false) :
    requireQueues action driven = ⟨.error (driven.iface.stateError action), driven, []⟩ := by
  cases held : driven.iface.pool.queues <;>
    simp [requireQueues, Bind.bind, Call.bind, iface?, fail, held, down]

theorem send_refuses (down : driven.iface.isUp = false) (packet : Packet) :
    Driven.send backend packet driven = ⟨.error (driven.iface.stateError "send"), driven, []⟩ :=
  bind_refused (requireQueues_refuses "send" down) _

theorem receive_refuses (down : driven.iface.isUp = false) :
    Driven.receive backend driven = ⟨.error (driven.iface.stateError "receive"), driven, []⟩ :=
  bind_refused (requireQueues_refuses "receive" down) _

theorem up_refused (up : driven.iface.isUp = true) (refused : failed (driven.iface.stateError "up") driven) :
    (Driven.up backend).Ensures done failed driven := by
  unfold Ensures
  rw [up_refuses up]
  exact refused

theorem down_refused (down : driven.iface.isUp = false) (refused : failed (driven.iface.stateError "down") driven) :
    (Driven.down backend).Ensures done failed driven := by
  unfold Ensures
  rw [down_refuses down]
  exact refused

end

theorem requireQueues_ensures (action : String) {driven : Driven σ} {done : Queues → Driven σ → Prop}
    {failed : Error → Driven σ → Prop}
    (granted : ∀ queues, driven.iface.isUp = true → driven.iface.pool.queues = some queues → done queues driven)
    (refused : ∀ error, failed error driven) : (requireQueues action).Ensures done failed driven := by
  simp only [requireQueues, ensures_bind, ensures_iface?]
  split
  · rename_i held up
    exact granted _ up held
  · exact refused _

section

variable (observe : ∀ stat, (Driven.observe backend stat).Keeps kept)

include observe

theorem observeAll_keeps (stats : List Stat) : (Driven.observeAll backend stats).Keeps kept := by
  induction stats with
  | nil => exact fun _ before => before
  | cons stat rest ih => exact (observe stat).bind fun _ => ih

theorem readStat_keeps (name : String) : (Driven.readStat backend name).Keeps kept :=
  (Keeps.ofExcept _).bind fun stat => (observe stat).bind fun _ => iface?_keeps.bind fun _ _ before => before

theorem snapshot_keeps : (Driven.snapshot backend).Keeps kept :=
  (observeAll_keeps observe _).bind fun _ => iface?_keeps.bind fun _ _ before => before

end

theorem set_keeps (settings : ∀ state, Interface.Unsettled fun iface => kept ⟨iface, state⟩) (setter : Setter) :
    (onInterface setter.call : Call Error (Driven σ) Unit).Keeps kept :=
  fun driven before =>
    (ensures_onInterface _).mpr (Setter.call_keeps (settings driven.backend) setter driven.iface before)

theorem send_keeps
    (write : ∀ driven queues frame, driven.iface.isUp = true → driven.iface.pool.queues = some queues → kept driven →
      (onBackend (backend.write queues.tx frame)).Ensures (fun _ => kept) (fun _ => kept) driven)
    (packet : Packet) : (Driven.send backend packet).Keeps kept := by
  intro driven before
  refine (ensures_bind _ _).mpr (requireQueues_ensures _ (fun queues up held => ?_) fun _ => before)
  simp only [ensures_bind, ensures_iface?, ensures_ite, ensures_fail, ensures_attempt]
  split
  · exact before
  · split
    · exact before
    · refine (write driven queues _ up held before).mono (fun written after sent => ?_) fun _ _ failed => failed
      simp only [ensures_ite, ensures_fail, ensures_log]
      split <;> exact sent

/-- A bring-up is prepared by two reads of the link, and by memory for its frames. -/
theorem prepare_keeps (readMtu : ∀ name, (onBackend (backend.mtu name)).Keeps kept)
    (readMac : ∀ name, (onBackend (backend.mac name)).Keeps kept)
    (scratch : ∀ driven scratch, kept driven →
      kept { driven with iface := { driven.iface with pool := { driven.iface.pool with scratch } } })
    (origin : Origin) (mac : Mac) : (prepare backend origin mac).Keeps kept := by
  refine iface?_keeps.bind fun iface => (readMtu _).bind fun previousMtu => ?_
  have rest (mtu : UInt32) :
      (do
        onPool (Pool.reserve (mtu.toNat + frameOverhead))
        let previousMac ← if iface.kind.isTap then some <$> onBackend (backend.mac iface.name) else pure none
        return { previousMtu, previousMac, mac, mtu : Plan }).Keeps kept := by
    refine Keeps.bind (fun driven before => ?_) fun _ =>
      .ite _ (((readMac _).map _).bind fun _ _ before => before) fun _ before => before
    simp only [Pool.reserve, ensures_onPool, ensures_bind, ensures_get, ensures_ite, ensures_fail, ensures_modify]
    split
    · exact before
    · exact scratch driven _ before
  exact .ite _ ((Keeps.log _).bind fun _ => rest _) (rest _)

theorem releaseQueues_keeps (release : ∀ name queues, (onBackend (backend.release name queues)).Keeps kept)
    (emptied : ∀ driven, kept driven →
      kept { driven with iface := { driven.iface with pool := { driven.iface.pool with queues := none } } }) :
    (releaseQueues backend).Keeps kept := by
  refine iface?_keeps.bind fun iface => ?_
  cases iface.pool.queues with
  | none => exact fun _ before => before
  | some queues => exact Keeps.bind emptied fun _ => release _ _

/-- Queues that cannot be closed are told to the log only. -/
theorem rollBack_keeps {ε : Type}
    (takeBack : ∀ name undo, (onBackend (backend.takeBack name undo) : Call ε (Driven σ) Unit).Keeps kept)
    (release : (releaseQueues backend).Keeps kept) (undo : List Request) :
    (rollBack backend undo : Call ε (Driven σ) Unit).Keeps kept := by
  refine iface?_keeps.bind fun _ => (takeBack _ _).bind fun _ => release.attempt.bind fun closed => ?_
  cases closed with
  | ok => exact fun _ before => before
  | error error => exact Keeps.log _

/-- A property that looking at the counters of the link has nothing to do with. -/
structure Unobserved (backend : Backend σ) (kept : Driven σ → Prop) : Prop where
  counters : ∀ driven counters, kept driven → kept { driven with iface := { driven.iface with counters } }
  readStat : ∀ driven stat, kept driven →
    (onBackend (backend.readStat driven.iface.name stat) : Call Error (Driven σ) UInt64).Ensures (fun _ => kept)
      (fun _ => kept) driven

/-- A property that nothing but bringing up, tearing down and receiving has to do with. -/
structure Lasting (backend : Backend σ) (kept : Driven σ → Prop) : Prop extends Unobserved backend kept where
  settings : ∀ state, Interface.Unsettled fun iface => kept ⟨iface, state⟩
  write : ∀ driven queues frame, driven.iface.isUp = true → driven.iface.pool.queues = some queues → kept driven →
    (onBackend (backend.write queues.tx frame)).Ensures (fun _ => kept) (fun _ => kept) driven

namespace Unobserved

theorem observe (unobserved : Unobserved backend kept) (stat : Stat) : (Driven.observe backend stat).Keeps kept := by
  intro driven before
  simp only [Driven.observe, ensures_bind, ensures_iface?, ensures_ite, ensures_pure]
  split
  · refine (unobserved.readStat driven stat.name before).mono (fun reading seen read => ?_) fun _ _ unread => unread
    exact unobserved.counters seen _ read
  · exact before

theorem clear (unobserved : Unobserved backend kept) (name : String) : (Driven.clearStat backend name).Keeps kept :=
  (Keeps.ofExcept _).bind fun stat => (unobserved.observe stat).bind fun _ =>
    Keeps.bind (fun driven before => unobserved.counters driven _ before) fun _ =>
      iface?_keeps.bind fun _ => Keeps.log _

end Unobserved

namespace Lasting

/-- What is kept while a frame is read into the scratch buffer is kept when it is received. -/
theorem receive
    (read : ∀ driven queues, driven.iface.isUp = true → driven.iface.pool.queues = some queues → kept driven →
      (onBackend (backend.read queues.rx driven.iface.pool.used)).Ensures
        (fun frame after => kept { after with iface := { after.iface with pool := after.iface.pool.store frame } })
        (fun _ => kept) driven) :
    (Driven.receive backend).Keeps kept := by
  intro driven before
  refine (ensures_bind _ _).mpr (requireQueues_ensures _ (fun queues up held => ?_) fun _ => before)
  simp only [ensures_bind, ensures_iface?, ensures_attempt]
  refine (read driven queues up held before).mono (fun frame after received => ?_) fun errno after received => ?_
  · simp only [ensures_bind, ensures_onPool, ensures_modify, ensures_ite, ensures_fail, ensures_log]
    split
    · exact received
    · exact Keeps.ofExcept _ _ received
  · simp only [ensures_ite, ensures_pure, ensures_fail]
    split <;> exact received

theorem call (lasting : Lasting backend kept) (action : Action) (raise : action ≠ .up) (lower : action ≠ .down)
    (arrive : action ≠ .receive) : (action.call backend).Keeps kept := by
  cases action with
  | set setter => exact (set_keeps lasting.settings setter).map _
  | up => exact absurd rfl raise
  | down => exact absurd rfl lower
  | send packet => exact (send_keeps lasting.write packet).map _
  | receive => exact absurd rfl arrive
  | readStat name => exact (readStat_keeps lasting.observe name).map _
  | clearStat name => exact (lasting.clear name).map _
  | snapshot => exact (snapshot_keeps lasting.observe).map _

end Lasting

end Driven

end VirtualLink
