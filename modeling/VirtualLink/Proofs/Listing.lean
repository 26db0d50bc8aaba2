import VirtualLink.Proofs.Revalidating

namespace VirtualLink

open Call Driven

namespace Ipv6

/-- The texts denote these addresses, one after the other, and no address occurs twice. -/
structure Denoted (texts : List String) (addrs : List Ipv6) : Prop where
  reads : texts.map parse? = addrs.map some
  distinct : addrs.Nodup

/-- The texts up to this one denote addresses that can be taken, and this one is unfit to follow them. -/
structure StopsAt (texts before : List String) (text : String) (taken : List Ipv6) (rule : Rule) : Prop where
  split : ∃ behind, texts = before ++ text :: behind
  denoted : Denoted before taken
  unfit : Unfit taken text rule

variable {texts before : List String} {addrs taken : List Ipv6}

theorem denoted_of_readIpv6List (reads : readIpv6List texts = .ok addrs) : Denoted texts addrs := by
  obtain ⟨appended, whole, denoted⟩ := parse?_of_appendIpv6List reads
  exact ⟨whole ▸ denoted, nodup_of_appendIpv6List List.nodup_nil reads⟩

end Ipv6

namespace Interface

variable {iface : Interface} {texts : List String} {addrs : List Ipv6}

/-- The list is refused for this text when it is set, which leaves no address, and when its texts are added, which
leaves the addresses before it. What the second refusal shows denotes the same as the text. -/
structure StopsAlike (iface : Interface) (texts before : List String) (text : String) (taken : List Ipv6) (rule : Rule)
    (value : String) : Prop where
  stops : Ipv6.StopsAt texts before text taken rule
  set : setIpv6 texts iface = ⟨.error (.violation ⟨.ipv6, text, rule⟩), iface, []⟩
  before : Setter.callAll (before.map .moreIpv6) iface = ⟨.ok (), iface.withIpv6 taken, []⟩
  unadded : addIpv6 text (iface.withIpv6 taken)
    = ⟨.error (.violation ⟨.ipv6, value, rule⟩), iface.withIpv6 taken, []⟩
  same : Ipv6.parse? value = Ipv6.parse? text
  added : Setter.callAll (texts.map .moreIpv6) iface
    = ⟨.error (.violation ⟨.ipv6, value, rule⟩), iface.withIpv6 taken, []⟩

/-- Texts that are read are set, and are added one by one. -/
theorem ipv6_taken (down : iface.isUp = false) (empty : iface.settings.ipv6 = [])
    (reads : readIpv6List texts = .ok addrs) :
    setIpv6 texts iface = ⟨.ok (), iface.withIpv6 addrs, [.pendingIpv6 iface.name addrs.length]⟩
      ∧ Setter.callAll (texts.map .moreIpv6) iface = ⟨.ok (), iface.withIpv6 addrs, []⟩ := by
  have taking : appendIpv6List iface.settings.ipv6 texts = .ok addrs := empty ▸ reads
  have added := Setter.callAll_moreIpv6 down (empty ▸ List.nodup_nil) taking []
  rw [List.append_nil] at added
  exact ⟨by rw [setIpv6_eq down, reads], added⟩

theorem ipv6_stopped (down : iface.isUp = false) (empty : iface.settings.ipv6 = []) {v : Violation}
    (refused : readIpv6List texts = .error v) :
    ∃ before text taken rule value, iface.StopsAlike texts before text taken rule value := by
  obtain ⟨before, text, behind, taken, rfl, reads, unfit, whole⟩ := appendIpv6List_refused refused
  have denoted := Ipv6.denoted_of_readIpv6List reads
  have taking : appendIpv6List iface.settings.ipv6 before = .ok taken := empty ▸ reads
  have downStill : (iface.withIpv6 taken).isUp = false := down
  obtain ⟨value, unadded, same⟩ := addIpv6_unfit downStill denoted.distinct unfit
  have stopped : (Setter.moreIpv6 text).call (iface.withIpv6 taken)
      = ⟨.error (.violation ⟨.ipv6, value, v.rule⟩), iface.withIpv6 taken, []⟩ := unadded
  have added := Setter.callAll_moreIpv6 down (empty ▸ List.nodup_nil) taking ((text :: behind).map .moreIpv6)
  rw [← List.map_append, List.map_cons, Setter.callAll, bind_of_error stopped] at added
  refine ⟨before, text, taken, v.rule, value, ?_⟩
  exact {
    stops := ⟨⟨behind, rfl⟩, denoted, unfit⟩
    set := by rw [setIpv6_eq down, refused, ← whole]
    before := (ipv6_taken down empty reads).2
    unadded
    same
    added }

end Interface

/-- To set a list of texts and to add the texts one by one come to the same, and a text is added to a list if it denotes
an address that is not in it. -/
theorem setIpv6_agrees_addIpv6 :
    (∀ (iface : Interface) (texts : List String), iface.isUp = false → iface.settings.ipv6 = [] →
      let set := Interface.setIpv6 texts iface
      let added := Setter.callAll (texts.map .moreIpv6) iface
      (set.result = .ok () ↔ added.result = .ok ())
        ∧ (set.result = .ok () → ∃ addrs, Ipv6.Denoted texts addrs ∧ set.state = iface.withIpv6 addrs
          ∧ added.state = iface.withIpv6 addrs)
        ∧ (set.result ≠ .ok () → ∃ before text taken rule value,
          iface.StopsAlike texts before text taken rule value))
      ∧ ∀ {σ : Type} (backend : Backend σ) (state : σ) (name : String) (id : UInt32) (kind : Kind) (root : RootId)
          (capacity : Nat) (actions : List Action) (text : String),
        let iface := (Action.run backend actions ⟨Interface.new name id kind root capacity, state⟩).iface
        let added := Interface.addIpv6 text iface
        iface.isUp = false →
          (added.result = .ok () ↔ ∃ addr, Ipv6.parse? text = some addr ∧ addr ∉ iface.settings.ipv6)
            ∧ ∀ addr, Ipv6.parse? text = some addr → addr ∉ iface.settings.ipv6 →
              added.state = iface.withIpv6 (iface.settings.ipv6 ++ [addr]) := by
  constructor
  · intro iface texts down empty set added
    cases read : readIpv6List texts with
    | ok addrs =>
      obtain ⟨whole, each⟩ := Interface.ipv6_taken down empty read
      have denoted := Ipv6.denoted_of_readIpv6List read
      simp only [set, added, whole, each, ne_eq, not_true, false_imp_iff, and_true, true_and, true_imp_iff]
      exact ⟨addrs, denoted, rfl, rfl⟩
    | error v =>
      obtain ⟨before, text, taken, rule, value, alike⟩ := Interface.ipv6_stopped down empty read
      refine ⟨?_, ?_, fun _ => ⟨before, text, taken, rule, value, alike⟩⟩
      · simp only [set, added, alike.set, alike.added, reduceCtorEq]
      · simp only [set, alike.set, reduceCtorEq, false_imp_iff]
  · intro σ backend state name id kind root capacity actions text iface added down
    have distinct := (Fitting.reached backend state name id kind root capacity actions).1.ipv6
    refine ⟨Interface.addIpv6_ok_iff down distinct, fun addr reads fresh => ?_⟩
    exact congrArg Reply.state (Interface.addIpv6_fresh down distinct reads fresh)

/-- An interface with the loopback address. -/
def MemoryLink.looped : Interface :=
  (Action.run MemoryLink.backend [.set (.ipv6 ["::1"])]
    ⟨Interface.new "tap0" 0 .tap 0 defaultCapacity, {}⟩).iface

/-- The last text denotes the first address in another spelling. An interface without that address takes it. -/
theorem setIpv6_agrees_addIpv6_respelled :
    (∃ before text taken rule, Ipv6.StopsAt ["fe80::1", "::1", "FE80:0::1"] before text taken rule
        ∧ (Setter.callAll (["fe80::1", "::1", "FE80:0::1"].map .moreIpv6)
          (Interface.new "tap0" 0 .tap 0 defaultCapacity)).state.settings.ipv6 = taken)
      ∧ (Interface.addIpv6 "FE80:0::1" MemoryLink.looped).result = .ok () := by
  have refused : (Interface.setIpv6 ["fe80::1", "::1", "FE80:0::1"]
      (Interface.new "tap0" 0 .tap 0 defaultCapacity)).result ≠ .ok () := by
    intro granted
    have failed : (Interface.setIpv6 ["fe80::1", "::1", "FE80:0::1"]
      (Interface.new "tap0" 0 .tap 0 defaultCapacity)).result.isOk = false := by decide +kernel
    simp [granted, Except.isOk, Except.toBool] at failed
  have down : MemoryLink.looped.isUp = false := by decide +kernel
  have fresh : (Ipv6.parse? "FE80:0::1").any (· ∉ MemoryLink.looped.settings.ipv6) = true := by decide +kernel
  unfold MemoryLink.looped at down fresh ⊢
  obtain ⟨addr, reads, apart⟩ := (Option.any_eq_true _ _).mp fresh
  obtain ⟨-, -, stopped⟩ := setIpv6_agrees_addIpv6.1 (Interface.new "tap0" 0 .tap 0 defaultCapacity)
    ["fe80::1", "::1", "FE80:0::1"] rfl rfl
  obtain ⟨before, text, taken, rule, value, alike⟩ := stopped refused
  obtain ⟨added, -⟩ := setIpv6_agrees_addIpv6.2 MemoryLink.backend {} "tap0" 0 .tap 0 defaultCapacity
    [.set (.ipv6 ["::1"])] "FE80:0::1" down
  refine ⟨⟨before, text, taken, rule, alike.stops, ?_⟩, added.mpr ⟨addr, reads, of_decide_eq_true apart⟩⟩
  rw [alike.added]
  rfl

end VirtualLink
