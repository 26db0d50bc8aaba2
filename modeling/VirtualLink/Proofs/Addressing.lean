import VirtualLink.Proofs.Wire
import VirtualLink.Proofs.Written

namespace VirtualLink

open Call

variable {known taken addrs : List Ipv6} {texts before : List String} {text : String} {iface : Interface}

theorem Call.get_bind {ε σ α : Type} (next : σ → Call ε σ α) (state : σ) :
    (Call.get >>= next) state = next state state :=
  rfl

theorem Call.check_ok_bind {σ α β : Type} (a : α) (next : α → Call Error σ β) (state : σ) :
    (Call.check (.ok a) >>= next) state = next a state :=
  rfl

/-- What keeps a text out of a list of addresses. -/
inductive Ipv6.Unfit (known : List Ipv6) (text : String) : Rule → Prop
  | unread (unread : Ipv6.parse? text = none) : Unfit known text .ipv6Syntax
  | listed {addr : Ipv6} (reads : Ipv6.parse? text = some addr) (member : addr ∈ known) :
      Unfit known text .ipv6Duplicate

theorem readIpv6_of_parse? {addr : Ipv6} (reads : Ipv6.parse? text = some addr) : readIpv6 text = .ok addr := by
  rw [readIpv6, reads]

theorem readIpv6_of_unread (unread : Ipv6.parse? text = none) :
    readIpv6 text = .error ⟨.ipv6, text, .ipv6Syntax⟩ := by
  rw [readIpv6, unread]

theorem appendIpv6List_cons {addr : Ipv6} (reads : Ipv6.parse? text = some addr) :
    appendIpv6List known (text :: texts)
      = if addr ∈ known then .error ⟨.ipv6, text, .ipv6Duplicate⟩ else appendIpv6List (known ++ [addr]) texts := by
  rw [appendIpv6List, readIpv6_of_parse? reads]
  rfl

theorem appendIpv6List_append (taking : appendIpv6List known before = .ok taken) (behind : List String) :
    appendIpv6List known (before ++ behind) = appendIpv6List taken behind := by
  induction before generalizing known with
  | nil => rw [← Except.ok.inj taking, List.nil_append]
  | cons text rest ih =>
    obtain ⟨addr, reads, later⟩ := Checked.bind_eq_ok_iff_exists.mp taking
    split at later
    · cases later
    · rename_i fresh
      rw [List.cons_append, appendIpv6List_cons (parse?_of_readIpv6 reads), if_neg fresh]
      exact ih later

/-- Texts are taken up to the first that is unfit. -/
theorem appendIpv6List_refused {v : Violation} (refused : appendIpv6List known texts = .error v) :
    ∃ before text behind taken, texts = before ++ text :: behind ∧ appendIpv6List known before = .ok taken
      ∧ Ipv6.Unfit taken text v.rule ∧ v = ⟨.ipv6, text, v.rule⟩ := by
  induction texts generalizing known with
  | nil => cases refused
  | cons text rest ih =>
    cases reads : Ipv6.parse? text with
    | none =>
      rw [appendIpv6List, readIpv6_of_unread reads] at refused
      obtain rfl := Except.error.inj refused
      exact ⟨[], text, rest, known, rfl, rfl, .unread reads, rfl⟩
    | some addr =>
      rw [appendIpv6List_cons reads] at refused
      split at refused
      · rename_i listed
        obtain rfl := Except.error.inj refused
        exact ⟨[], text, rest, known, rfl, rfl, .listed reads listed, rfl⟩
      · rename_i fresh
        obtain ⟨before, other, behind, taken, whole, first, unfit, value⟩ := ih refused
        refine ⟨text :: before, other, behind, taken, congrArg (text :: ·) whole, ?_, unfit, value⟩
        rw [appendIpv6List_cons reads, if_neg fresh]
        exact first

/-- The text forms of addresses that differ are taken. -/
theorem appendIpv6List_toText (distinct : (known ++ addrs).Nodup) :
    appendIpv6List known (addrs.map Ipv6.toText) = .ok (known ++ addrs) := by
  induction addrs generalizing known with
  | nil =>
    rw [List.append_nil]
    rfl
  | cons addr rest ih =>
    have fresh : addr ∉ known := fun listed =>
      (List.nodup_append.mp distinct).2.2 addr listed addr (List.mem_cons_self ..) rfl
    rw [List.append_cons] at distinct ⊢
    rw [List.map_cons, appendIpv6List_cons addr.parse?_toText, if_neg fresh]
    exact ih distinct

/-- A list and one more address read back from their text forms, unless that address is in the list. -/
theorem readIpv6List_toText_append (distinct : known.Nodup) (addr : Ipv6) :
    readIpv6List ((known ++ [addr]).map Ipv6.toText)
      = if addr ∈ known then .error ⟨.ipv6, addr.toText, .ipv6Duplicate⟩ else .ok (known ++ [addr]) := by
  have first : appendIpv6List [] (known.map Ipv6.toText) = .ok known := appendIpv6List_toText distinct
  rw [readIpv6List, List.map_append, appendIpv6List_append first, List.map_singleton,
    appendIpv6List_cons addr.parse?_toText]
  rfl

namespace Interface

/-- The interface with these IPv6 addresses. -/
def withIpv6 (iface : Interface) (ipv6 : List Ipv6) : Interface :=
  { iface with settings := { iface.settings with ipv6 } }

theorem requireDown_eq {α : Type} (down : iface.isUp = false) (action : String)
    (next : Unit → Call Error Interface α) : (requireDown action >>= next) iface = next () iface := by
  change Call.bind (Call.bind Call.get _) next iface = _
  simp only [Call.bind, Call.get, down, Bool.false_eq_true, if_false]
  rfl

theorem setIpv6_eq (down : iface.isUp = false) (texts : List String) :
    setIpv6 texts iface =
      match readIpv6List texts with
      | .ok addrs => ⟨.ok (), iface.withIpv6 addrs, [.pendingIpv6 iface.name addrs.length]⟩
      | .error v => ⟨.error (.violation v), iface, []⟩ := by
  rw [setIpv6, requireDown_eq down]
  cases readIpv6List texts <;> rfl

/-- To a list without duplicates an address is added that is not in it yet. -/
theorem addIpv6_eq (down : iface.isUp = false) (distinct : iface.settings.ipv6.Nodup) (text : String) :
    addIpv6 text iface =
      match Ipv6.parse? text with
      | none => ⟨.error (.violation ⟨.ipv6, text, .ipv6Syntax⟩), iface, []⟩
      | some addr =>
        if addr ∈ iface.settings.ipv6 then ⟨.error (.violation ⟨.ipv6, addr.toText, .ipv6Duplicate⟩), iface, []⟩
        else ⟨.ok (), iface.withIpv6 (iface.settings.ipv6 ++ [addr]), []⟩ := by
  rw [addIpv6, requireDown_eq down]
  cases reads : Ipv6.parse? text with
  | none =>
    rw [readIpv6_of_unread reads]
    rfl
  | some addr =>
    have whole := readIpv6List_toText_append distinct addr
    rw [readIpv6_of_parse? reads, check_ok_bind, get_bind, whole]
    by_cases listed : addr ∈ iface.settings.ipv6
    · simp only [if_pos listed]
      rfl
    · simp only [if_neg listed]
      rfl

theorem addIpv6_fresh {addr : Ipv6} (down : iface.isUp = false) (distinct : iface.settings.ipv6.Nodup)
    (reads : Ipv6.parse? text = some addr) (fresh : addr ∉ iface.settings.ipv6) :
    addIpv6 text iface = ⟨.ok (), iface.withIpv6 (iface.settings.ipv6 ++ [addr]), []⟩ := by
  rw [addIpv6_eq down distinct, reads]
  exact if_neg fresh

/-- A text that is unfit to follow the list is refused. What the refusal shows denotes the same. -/
theorem addIpv6_unfit {rule : Rule} (down : iface.isUp = false) (distinct : iface.settings.ipv6.Nodup)
    (unfit : Ipv6.Unfit iface.settings.ipv6 text rule) :
    ∃ value, addIpv6 text iface = ⟨.error (.violation ⟨.ipv6, value, rule⟩), iface, []⟩
      ∧ Ipv6.parse? value = Ipv6.parse? text := by
  rw [addIpv6_eq down distinct]
  cases unfit with
  | unread unread =>
    rw [unread]
    exact ⟨text, rfl, unread⟩
  | @listed addr reads member =>
    rw [reads]
    exact ⟨addr.toText, if_pos member, addr.parse?_toText⟩

theorem addIpv6_ok_iff (down : iface.isUp = false) (distinct : iface.settings.ipv6.Nodup) :
    (addIpv6 text iface).result = .ok () ↔ ∃ addr, Ipv6.parse? text = some addr ∧ addr ∉ iface.settings.ipv6 := by
  rw [addIpv6_eq down distinct]
  cases Ipv6.parse? text with
  | none => simp
  | some addr => by_cases listed : addr ∈ iface.settings.ipv6 <;> simp [listed]

end Interface

namespace Setter

variable {setter : Setter} {rest : List Setter} {after : Interface}

/-- Texts that a list takes are added one by one, and the calls behind find that list. -/
theorem callAll_moreIpv6 (down : iface.isUp = false) (distinct : iface.settings.ipv6.Nodup)
    (taking : appendIpv6List iface.settings.ipv6 texts = .ok addrs) (rest : List Setter) :
    callAll (texts.map .moreIpv6 ++ rest) iface = callAll rest (iface.withIpv6 addrs) := by
  induction texts generalizing iface with
  | nil =>
    obtain rfl := Except.ok.inj taking
    rfl
  | cons text behind ih =>
    obtain ⟨addr, known, later⟩ := Checked.bind_eq_ok_iff_exists.mp taking
    have reads := parse?_of_readIpv6 known
    split at later
    · cases later
    · rename_i fresh
      have added : (Setter.moreIpv6 text).call iface
          = ⟨.ok (), iface.withIpv6 (iface.settings.ipv6 ++ [addr]), []⟩ :=
        Interface.addIpv6_fresh down distinct reads fresh
      have longer : (iface.withIpv6 (iface.settings.ipv6 ++ [addr])).settings.ipv6.Nodup :=
        nodup_append_singleton distinct fresh
      exact (bind_of_ok added _).trans (ih (by exact down) longer later)

end Setter

end VirtualLink
