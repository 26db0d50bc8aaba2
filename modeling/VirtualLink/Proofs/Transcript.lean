import VirtualLink.Proofs.Lasting
import VirtualLink.Proofs.Mirroring
import VirtualLink.Proofs.Plan

namespace VirtualLink

open Call Driven

variable {ε σ α : Type}

/-- A call that an interface makes of the link of a name, with the answer. -/
inductive Turn
  | acquire (name : String) (kind : Kind) (answer : Except Error Queues)
  | release (name : String) (queues : Queues) (answer : Except Error Unit)
  | mac (name : String) (answer : Except Error Mac)
  | mtu (name : String) (answer : Except Error UInt32)
  | request (name : String) (change : Request) (answer : Except Error Unit)
  | readStat (name stat : String) (answer : Except Error UInt64)

/-- A request that the link grants. -/
def Turn.granted (name : String) (change : Request) : Turn :=
  .request name change (.ok ())

/-- The state of a backend, with the calls that were made of it so far, oldest first. -/
structure Transcribed (σ : Type) where
  state : σ
  turns : List Turn

def Transcribed.put (state : σ) (whole : Transcribed σ) : Transcribed σ :=
  { whole with state }

/-- The call on the state alone, with the turn that it is. -/
def Call.transcribed (turn : Except ε α → Turn) (call : Call ε σ α) : Call ε (Transcribed σ) α := fun whole =>
  let reply := call whole.state
  ⟨reply.result, ⟨reply.state, whole.turns ++ [turn reply.result]⟩, reply.events⟩

/-- The same backend, with a transcript of the calls that are made of it. -/
def Backend.transcribed (backend : Backend σ) : Backend (Transcribed σ) where
  acquire name kind := (backend.acquire name kind).transcribed (.acquire name kind)
  release name queues := (backend.release name queues).transcribed (.release name queues)
  mac name := (backend.mac name).transcribed (.mac name)
  mtu name := (backend.mtu name).transcribed (.mtu name)
  request name change := (backend.request name change).transcribed (.request name change)
  readStat name stat := (backend.readStat name stat).transcribed (.readStat name stat)
  read descriptor limit := (backend.read descriptor limit).zoom Transcribed.state Transcribed.put
  write descriptor frame := (backend.write descriptor frame).zoom Transcribed.state Transcribed.put

/-- To keep a transcript changes nothing else. -/
theorem Backend.transcribed_mirrors (backend : Backend σ) :
    Backend.Mirrors Transcribed.state backend.transcribed backend where
  acquire _ _ _ := rfl
  release _ _ _ := rfl
  mac _ _ := rfl
  mtu _ _ := rfl
  request _ _ _ := rfl
  readStat _ _ _ := rfl
  read _ _ _ := rfl
  write _ _ _ := rfl

variable {backend : Backend σ}

theorem Call.ensures_transcribed {turn : Except ε α → Turn} {call : Call ε σ α} {before : Transcribed σ}
    {done : α → Transcribed σ → Prop} {failed : ε → Transcribed σ → Prop} :
    (call.transcribed turn).Ensures done failed before
      ↔ call.Ensures (fun a state => done a ⟨state, before.turns ++ [turn (.ok a)]⟩)
          (fun error state => failed error ⟨state, before.turns ++ [turn (.error error)]⟩) before.state := by
  unfold Ensures transcribed
  rcases call before.state with ⟨_ | _, _, _⟩ <;> rfl

/-- Whatever a call does to the state, it adds its turn to the transcript. -/
theorem Call.transcribed_ensures {turn : Except ε α → Turn} {call : Call ε σ α} {before : Transcribed σ}
    {done : α → Transcribed σ → Prop} {failed : ε → Transcribed σ → Prop}
    (granted : ∀ a state, done a ⟨state, before.turns ++ [turn (.ok a)]⟩)
    (refused : ∀ error state, failed error ⟨state, before.turns ++ [turn (.error error)]⟩) :
    (call.transcribed turn).Ensures done failed before :=
  ensures_transcribed.mpr (.of_forall granted refused)

namespace Backend

/-- The steps up to the first that is refused are granted. What takes them back is told last step first. -/
theorem runSteps_transcribed (name : String) (undo : List Request) (steps : List Step) {before : Transcribed σ}
    {done : Unit → Transcribed σ → Prop} {failed : Setback → Transcribed σ → Prop}
    (all : ∀ state, done () ⟨state, before.turns ++ steps.map (.granted name ·.request)⟩)
    (part : ∀ made step rest error state, steps = made ++ step :: rest →
      failed ⟨error, (made.filterMap Step.undo).reverse ++ undo⟩
        ⟨state, before.turns ++ (made.map (.granted name ·.request)
          ++ [.request name step.request (.error error)])⟩) :
    (backend.transcribed.runSteps name undo steps).Ensures done failed before := by
  induction steps generalizing before undo with
  | nil =>
    have nothing := all before.state
    rw [List.map_nil, List.append_nil] at nothing
    exact nothing
  | cons step rest ih =>
    simp only [runSteps, ensures_bind, ensures_mapError]
    refine transcribed_ensures (fun _ state => ih _ (fun later => ?_) ?_) fun error state => ?_
    · have granted := all later
      rwa [List.map_cons, List.append_cons] at granted
    · intro made next others error later cut
      have stopped := part (step :: made) next others error later (congrArg (step :: ·) cut)
      rwa [Step.undo_cons, List.map_cons, List.cons_append, List.append_cons] at stopped
    · exact part [] step rest error state rfl

/-- Each request is made once, whichever of them are refused. -/
theorem takeBack_transcribed (name : String) (changes : List Request) {before : Transcribed σ}
    {done : Unit → Transcribed σ → Prop} {failed : ε → Transcribed σ → Prop}
    (made : ∀ (answered : List (Request × Except Error Unit)) state, answered.map Prod.fst = changes →
      done () ⟨state, before.turns ++ answered.map fun entry => .request name entry.1 entry.2⟩) :
    (backend.transcribed.takeBack name changes).Ensures done failed before := by
  induction changes generalizing before with
  | nil =>
    have nothing := made [] before.state rfl
    rw [List.map_nil, List.append_nil] at nothing
    exact nothing
  | cons change rest ih =>
    have later (answer : Except Error Unit) (state : σ) :
        (backend.transcribed.takeBack name rest).Ensures done failed
          ⟨state, before.turns ++ [.request name change answer]⟩ := by
      refine ih fun answered state whole => ?_
      have first := made ((change, answer) :: answered) state (congrArg (change :: ·) whole)
      rwa [List.map_cons, List.append_cons] at first
    simp only [takeBack, ensures_bind, ensures_attempt]
    exact transcribed_ensures (fun _ => later (.ok ())) fun error => later (.error error)

end Backend

end VirtualLink
