import Mathlib.Logic.Function.Basic
import VirtualLink.Proofs.Kernel.Calls

namespace VirtualLink

open Call

variable {κ : Type}

/-- What a system knows about its links. -/
@[ext]
structure Links where
  /-- The index of the link of a name. -/
  index? : Bytes → Option Nat
  up : Nat → Bool
  /-- A link may be too small for IPv6. -/
  takesPart : Nat → Bool
  /-- The IPv6 addresses of a link. -/
  addresses : Nat → List Ipv6

namespace Links

def assign (links : Links) (index : Nat) (addrs : List Ipv6) : Links :=
  { links with addresses := Function.update links.addresses index addrs }

/-- What is certain once a link was told to be up or down. One that goes down loses its addresses; one that comes up
may get some that nobody gave it. -/
structure Switched (before after : Links) (index : Nat) (up : Bool) : Prop where
  index? : after.index? = before.index?
  takesPart : before.takesPart index → after.takesPart index
  bare : before.up index → up = false → after.addresses index = []
  up : after.up index = up

/-- The link is down, and has no address but these. -/
structure Grounded (links : Links) (index : Nat) (held : List Ipv6) : Prop where
  down : links.up index = false
  addresses : links.addresses index ⊆ held

/-- The name stands for a link that takes part in IPv6. -/
def Numbered (links : Links) (name : String) : Prop :=
  ∃ index, links.index? (fieldName (nameField name)) = some index ∧ links.takesPart index

/-- The link of the name is up, and takes part in IPv6 if it was given addresses. -/
def Serving (links : Links) (name : String) (addrs : List Ipv6) : Prop :=
  ∃ index, links.index? (fieldName (nameField name)) = some index ∧ links.up index
    ∧ (addrs ≠ [] → links.takesPart index)

end Links

/-- Calls that change nothing about the links, but for what passes over them. -/
def Syscall.looks : Syscall → Bool
  | .link _ _ .getIndex | .link _ _ .getFlags | .openFile _ | .read .. | .write .. => true
  | _ => false

/-- Calls that may change other things about a link, but do not take it up and give it no IPv6 address while it is
down. -/
def Syscall.spares : Syscall → Bool
  | .link _ _ (.setMtu _) | .link _ _ (.setMac _) | .link _ _ (.setAddress _) | .close _ => true
  | _ => false

/-- A system that takes the IPv6 addresses from a link which goes down, and refuses to take an address from a link
that does not have it. -/
structure Flushing (system : System κ) (links : κ → Links) : Prop where
  looks : ∀ call : Syscall, call.looks → (system call).Leaves links
  index : ∀ socket field state, (system (.link socket field .getIndex)).Ensures
    (fun index _ => (links state).index? (fieldName field) = some index) (fun _ _ => True) state
  setFlags : ∀ socket field flags state, (system (.link socket field (.setFlags flags))).Ensures
    (fun _ after => ∃ index, (links state).index? (fieldName field) = some index
      ∧ (links state).Switched (links after) index (flags &&& Kernel.upFlag ≠ 0)) (fun _ _ => True) state
  addIpv6 : ∀ socket index addr prefixLength state, (system (.addIpv6 socket index addr prefixLength)).Ensures
    (fun _ after => (links state).takesPart index ∧ ∃ addrs, links after = (links state).assign index addrs)
    (fun _ _ => True) state
  absent : ∀ socket index addr prefixLength state,
    (links state).takesPart index → addr ∉ (links state).addresses index →
    (system (.delIpv6 socket index addr prefixLength)).Ensures (fun _ _ => False)
      (fun errno after => errno = .addressNotAvailable ∧ links after = links state) state
  spares : ∀ call : Syscall, call.spares → ∀ index held,
    (system call).Keeps fun state => (links state).Grounded index held

namespace Kernel

theorem or_upFlag (flags : UInt16) : (flags ||| upFlag) &&& upFlag = upFlag := by
  refine UInt16.toBitVec_inj.mp (BitVec.eq_of_getLsbD_eq fun i _ => ?_)
  simp only [UInt16.toBitVec_and, UInt16.toBitVec_or, BitVec.getLsbD_and, BitVec.getLsbD_or]
  cases flags.toBitVec.getLsbD i <;> simp

theorem not_upFlag (flags : UInt16) : (flags &&& ~~~upFlag) &&& upFlag = 0 := by
  rw [UInt16.and_assoc, UInt16.not_and_self, UInt16.and_zero]

/-- The error for a call of the system that is refused while an address is removed. -/
def removalRefused (name : String) (errno : Errno) : Error :=
  .os "remove IPv6 address" name (.errno errno)

end Kernel

namespace Flushing

variable {system : System κ} {links : κ → Links} (flushing : Flushing system links) {state : κ}

include flushing

theorem linkIndex_ensures (socket : Descriptor) (name : String) :
    (Kernel.linkIndex system socket name).Ensures
      (fun index after => links after = links state ∧ (links state).index? (fieldName (nameField name)) = some index)
      (fun error after => links after = links state
        ∧ ∃ errno, error = .os "resolve interface index" name (.errno errno)) state := by
  have same := flushing.looks (.link socket (nameField name) .getIndex) rfl (links state) state rfl
  refine (ensures_mapError _ _).mpr ((same.and (flushing.index _ _ state)).mono (fun index after found => ?_) ?_)
  · exact found
  · exact fun errno after unknown => ⟨unknown.1, errno, rfl⟩

theorem setAdmin_ensures (control : Kernel.Control) (name : String) (up : Bool) :
    (Kernel.setAdmin system control name up).Ensures
      (fun _ after => ∃ index, (links state).index? (fieldName (nameField name)) = some index
        ∧ (links state).Switched (links after) index up) (fun _ _ => True) state := by
  have wanted (flags : UInt16) :
      decide ((if up then flags ||| Kernel.upFlag else flags &&& ~~~Kernel.upFlag) &&& Kernel.upFlag ≠ 0) = up := by
    cases up with
    | true => rw [if_pos rfl, Kernel.or_upFlag]; rfl
    | false => rw [if_neg Bool.false_ne_true, Kernel.not_upFlag]; rfl
  refine (ensures_bind _ _).mpr ((ensures_mapError _ _).mpr ?_)
  refine (flushing.looks _ rfl (links state) state rfl).mono (fun flags read same => ?_) fun _ _ _ => trivial
  refine (ensures_mapError _ _).mpr ((flushing.setFlags _ _ _ read).mono (fun _ after granted => ?_) ?_)
  · rw [same, wanted flags] at granted
    exact granted
  · exact fun _ _ _ => trivial

theorem addIpv6_ensures (control : Kernel.Control) (name : String) (addr : Ipv6) (prefixLength : UInt8) :
    (Kernel.request system control name (.addIpv6 addr prefixLength)).Ensures
      (fun _ after => ∃ index addrs, (links state).index? (fieldName (nameField name)) = some index
        ∧ (links state).takesPart index ∧ links after = (links state).assign index addrs) (fun _ _ => True) state := by
  refine (ensures_bind _ _).mpr ((flushing.linkIndex_ensures _ name).mono (fun index found known => ?_) ?_)
  · refine (ensures_mapError _ _).mpr ((flushing.addIpv6 _ _ _ _ found).mono (fun _ after granted => ?_) ?_)
    · obtain ⟨takesPart, addrs, assigned⟩ := granted
      rw [known.1] at takesPart assigned
      exact ⟨index, addrs, known.2, takesPart, assigned⟩
    · exact fun _ _ _ => trivial
  · exact fun _ _ _ => trivial

/-- An address that is gone cannot be taken from the link. -/
theorem delIpv6_ensures (control : Kernel.Control) {name : String} {index : Nat} {addr : Ipv6}
    (found : (links state).index? (fieldName (nameField name)) = some index)
    (takesPart : (links state).takesPart index) (gone : addr ∉ (links state).addresses index) (prefixLength : UInt8) :
    (Kernel.request system control name (.delIpv6 addr prefixLength)).Ensures (fun _ _ => False)
      (fun error after => links after = links state
        ∧ (error = Kernel.removalRefused name .addressNotAvailable
          ∨ ∃ errno, error = .os "resolve interface index" name (.errno errno))) state := by
  refine (ensures_bind _ _).mpr ((flushing.linkIndex_ensures _ name).mono (fun other looked known => ?_) ?_)
  · obtain ⟨same, again⟩ := known
    obtain rfl : index = other := Option.some.inj (found.symm.trans again)
    rw [← same] at takesPart gone ⊢
    refine (ensures_mapError _ _).mpr ((flushing.absent _ _ _ _ looked takesPart gone).mono (fun _ _ never => never) ?_)
    exact fun errno after refused => ⟨refused.2, .inl (congrArg (Kernel.removalRefused name) refused.1)⟩
  · exact fun error after unknown => ⟨unknown.1, .inr unknown.2⟩

end Flushing

/-- Changes of a link that leave it down and give it no address then. -/
def Request.spares : Request → Bool
  | .setMac _ | .setMtu _ | .clearIpv4 => true
  | _ => false

namespace Flushing

variable {system : System κ} {links : κ → Links} (flushing : Flushing system links) {index : Nat} {held : List Ipv6}

include flushing

theorem request_keeps (control : Kernel.Control) (name : String) {change : Request} (spares : change.spares) :
    (Kernel.request system control name change).Keeps fun state => (links state).Grounded index held := by
  have ask (action : String) {call : LinkCall} (spares : (Syscall.link control.inet (nameField name) call).spares) :
      (Kernel.request.ask system control name action call).Keeps fun state => (links state).Grounded index held :=
    ((flushing.spares _ spares index held).map _).mapError _
  cases change with
  | setMac mac => exact ask _ rfl
  | setMtu mtu => exact ask _ rfl
  | clearIpv4 => exact ask _ rfl
  | _ => cases spares

theorem release_keeps (name : String) (queues : Queues) :
    (Kernel.release system name queues).Keeps fun state => (links state).Grounded index held := by
  have close (descriptor : Descriptor) : (system (.close descriptor)).Keeps
      fun state => (links state).Grounded index held := flushing.spares _ rfl index held
  refine Keeps.bind (.mapError _ ?_) fun _ => .ite _ (Keeps.log _) fun _ before => before
  exact (close _).attempt.bind fun first => (close _).attempt.bind fun second =>
    ((Keeps.ofExcept first).map _).bind fun _ => (Keeps.ofExcept second).map _

end Flushing

end VirtualLink
