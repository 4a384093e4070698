/-
Module: IceRpc.Proofs.MergePoll
Purpose: What one poll of a merge can come to, said once: which source was asked, what it
  answered, and what the merge is after that.
Trusted boundary: none
Main exports: Asked, MergePoll, Merge.ask, Merge.turn_cases, Merge.poll_cases
-/
import IceRpc.Rx.Transform.Combining

namespace IceRpc.Rx

open Lib

variable {A B S T E : Type}

/-- What a merge comes to when it asks one of its sources: the source and its mark after
that, and the event to be answered, if there is one. -/
inductive Asked [PollStream S (Event T E)] (cx : Context) (source : S) :
    Bool → S → Bool → Option (Event T E) → Prop
  /-- A source that has ended is not polled. -/
  | resting : Asked cx source true source true none
  | waiting {next : S} : PollStream.pollNext cx source = some (.pending, next) →
      Asked cx source false next false none
  | ending {last : Option (Event T E)} {next : S} :
      PollStream.pollNext cx source = some (.ready last, next) →
      last = none ∨ last = some .complete → Asked cx source false next true none
  | speaking {event : Event T E} {next : S} :
      PollStream.pollNext cx source = some (.ready (some event), next) →
      event ≠ .complete → Asked cx source false next false (some event)

theorem Asked.ne_complete [PollStream S (Event T E)] {cx : Context} {source next : S}
    {done nextDone : Bool} {event : Event T E}
    (asked : Asked cx source done next nextDone (some event)) : event ≠ .complete := by
  cases asked with
  | speaking _ event => exact event

/-- The other source had its turn before, or was not asked. -/
def Waited [PollStream S (Event T E)] (asked : Bool) (cx : Context) (source : S)
    (done : Bool) (next : S) (nextDone : Bool) : Prop :=
  if asked then Asked (T := T) (E := E) cx source done next nextDone none
  else next = source ∧ nextDone = done

variable [PollStream A (Event T E)] [PollStream B (Event T E)]

/-- What a poll of a merge that is going on comes to. -/
inductive MergePoll (cx : Context) (this : Merge A B) :
    Answer T E → Merge A B → Prop
  | left {event : Event T E} {left : A} {right : B} {rightDone : Bool} :
      Asked cx this.left this.leftDone left false (some event) →
      Waited (T := T) (E := E) (!this.leftFirst) cx this.right this.rightDone right rightDone →
      MergePoll cx this (.ready (some event))
        { left := left, right := right, leftDone := false, rightDone := rightDone,
          completed := event.isTerminal, leftFirst := !this.leftFirst }
  | right {event : Event T E} {left : A} {right : B} {leftDone : Bool} :
      Asked cx this.right this.rightDone right false (some event) →
      Waited (T := T) (E := E) this.leftFirst cx this.left this.leftDone left leftDone →
      MergePoll cx this (.ready (some event))
        { left := left, right := right, leftDone := leftDone, rightDone := false,
          completed := event.isTerminal, leftFirst := !this.leftFirst }
  | pending {left : A} {right : B} {leftDone rightDone : Bool} :
      Asked (T := T) (E := E) cx this.left this.leftDone left leftDone none →
      Asked (T := T) (E := E) cx this.right this.rightDone right rightDone none →
      (leftDone && rightDone) = false →
      MergePoll cx this .pending
        { left := left, right := right, leftDone := leftDone, rightDone := rightDone,
          completed := false, leftFirst := !this.leftFirst }
  | complete {left : A} {right : B} :
      Asked (T := T) (E := E) cx this.left this.leftDone left true none →
      Asked (T := T) (E := E) cx this.right this.rightDone right true none →
      MergePoll cx this (.ready (some .complete))
        { left := left, right := right, leftDone := true, rightDone := true,
          completed := true, leftFirst := !this.leftFirst }

namespace Merge

section Ask

omit [PollStream A (Event T E)] [PollStream B (Event T E)]

variable [PollStream S (Event T E)]

/-- One source is asked: `put` is the merge with the source and its mark put back. -/
def ask (put : S → Bool → Merge A B) (cx : Context) (source : S) (done : Bool) :
    Option (Turn (Merge A B) (Answer T E)) :=
  if done then some (.again (put source true))
  else
    match PollStream.pollNext cx source with
    | none => none
    | some (polled, next) => some (heed (put next false) (put next true) polled)

theorem ask_cases {put : S → Bool → Merge A B} {cx : Context} {source : S} {done : Bool}
    {turned : Turn (Merge A B) (Answer T E)}
    (asked : ask put cx source done = some turned)
    (running : ∀ next done, (put next done).completed = false) :
    (∃ next nextDone, Asked (T := T) (E := E) cx source done next nextDone none ∧
      turned = .again (put next nextDone)) ∨
    (∃ next event, Asked cx source done next false (some event) ∧
      turned = .leave (.ready (some event))
        { put next false with completed := event.isTerminal }) := by
  cases done with
  | true =>
      cases asked
      exact Or.inl ⟨source, true, .resting, rfl⟩
  | false =>
      rw [ask, if_neg Bool.false_ne_true] at asked
      split at asked
      · cases asked
      · rename_i said next polled
        cases asked
        match said with
        | .pending => exact Or.inl ⟨next, false, .waiting polled, rfl⟩
        | .ready none => exact Or.inl ⟨next, true, .ending polled (Or.inl rfl), rfl⟩
        | .ready (some .complete) =>
            exact Or.inl ⟨next, true, .ending polled (Or.inr rfl), rfl⟩
        | .ready (some (.next value)) =>
            refine Or.inr ⟨next, .next value, .speaking polled nofun, ?_⟩
            have still := running next false
            generalize put next false = after at still ⊢
            cases after
            cases still
            rfl
        | .ready (some (.error err)) =>
            exact Or.inr ⟨next, .error err, .speaking polled nofun, rfl⟩

theorem ask_returns {cx : Context} {source : S} {done : Bool} (put : S → Bool → Merge A B)
    (returns : done = false → (PollStream.pollNext cx source).isSome = true) :
    ∃ turned : Turn (Merge A B) (Answer T E),
      ask put cx source done = some turned := by
  cases done with
  | true => exact ⟨_, rfl⟩
  | false =>
      obtain ⟨⟨said, next⟩, polled⟩ := Option.isSome_iff_exists.mp (returns rfl)
      rw [ask, if_neg Bool.false_ne_true, polled]
      exact ⟨_, rfl⟩

end Ask

theorem pollSide_left (cx : Context) (this : Merge A B) : pollSide (T := T) (E := E) cx true this =
    ask (fun left done => { this with left := left, leftDone := done }) cx this.left
      this.leftDone := by
  obtain ⟨left, right, leftDone, rightDone, completed, leftFirst⟩ := this
  cases leftDone <;> rfl

theorem pollSide_right (cx : Context) (this : Merge A B) :
    pollSide (T := T) (E := E) cx false this =
      ask (fun right done => { this with right := right, rightDone := done }) cx this.right
        this.rightDone := by
  obtain ⟨left, right, leftDone, rightDone, completed, leftFirst⟩ := this
  cases rightDone <;> rfl

/-- What asking both sources in turn comes to, with the merge as it is after that. -/
inductive Sides (cx : Context) (first : Bool) (this : Merge A B) :
    Turn (Merge A B) (Answer T E) → Prop
  | left {event : Event T E} {left : A} {right : B} {rightDone : Bool} :
      Asked cx this.left this.leftDone left false (some event) →
      Waited (T := T) (E := E) (!first) cx this.right this.rightDone right rightDone →
      Sides cx first this (.leave (.ready (some event))
        { this with left := left, right := right, leftDone := false, rightDone := rightDone,
                    completed := event.isTerminal })
  | right {event : Event T E} {left : A} {right : B} {leftDone : Bool} :
      Asked cx this.right this.rightDone right false (some event) →
      Waited (T := T) (E := E) first cx this.left this.leftDone left leftDone →
      Sides cx first this (.leave (.ready (some event))
        { this with left := left, right := right, leftDone := leftDone, rightDone := false,
                    completed := event.isTerminal })
  | silent {left : A} {right : B} {leftDone rightDone : Bool} :
      Asked (T := T) (E := E) cx this.left this.leftDone left leftDone none →
      Asked (T := T) (E := E) cx this.right this.rightDone right rightDone none →
      Sides cx first this (.again
        { this with left := left, right := right, leftDone := leftDone,
                    rightDone := rightDone })

theorem pollSides_cases {cx : Context} {first : Bool} {this : Merge A B}
    (running : this.completed = false)
    {turned : Turn (Merge A B) (Answer T E)}
    (asked : pollSides cx first this = some turned) : Sides cx first this turned := by
  obtain ⟨left, right, leftDone, rightDone, completed, leftFirst⟩ := this
  cases running
  cases first with
  | true =>
      rw [pollSides, pollSide_left] at asked
      split at asked
      · rename_i silent
        rcases ask_cases silent (fun _ _ => rfl) with ⟨_, _, askedLeft, same⟩ | ⟨_, _, _, same⟩
        · cases same
          rw [Bool.not_true, pollSide_right] at asked
          rcases ask_cases asked (fun _ _ => rfl) with
            ⟨_, _, askedRight, rfl⟩ | ⟨_, _, askedRight, rfl⟩
          · exact .silent askedLeft askedRight
          · exact .right askedRight askedLeft
        · cases same
      · rename_i loud
        rcases ask_cases asked (fun _ _ => rfl) with ⟨_, _, _, rfl⟩ | ⟨_, _, spoken, rfl⟩
        · exact absurd asked (loud _)
        · exact .left spoken ⟨rfl, rfl⟩
  | false =>
      rw [pollSides, pollSide_right] at asked
      split at asked
      · rename_i silent
        rcases ask_cases silent (fun _ _ => rfl) with ⟨_, _, askedRight, same⟩ | ⟨_, _, _, same⟩
        · cases same
          rw [Bool.not_false, pollSide_left] at asked
          rcases ask_cases asked (fun _ _ => rfl) with
            ⟨_, _, askedLeft, rfl⟩ | ⟨_, _, askedLeft, rfl⟩
          · exact .silent askedLeft askedRight
          · exact .left askedLeft askedRight
        · cases same
      · rename_i loud
        rcases ask_cases asked (fun _ _ => rfl) with ⟨_, _, _, rfl⟩ | ⟨_, _, spoken, rfl⟩
        · exact absurd asked (loud _)
        · exact .right spoken ⟨rfl, rfl⟩

/-- What a turn of a merge that is going on comes to: an answer, or both have ended and the
`Complete` is answered in the next turn. -/
theorem turn_cases {cx : Context} {this : Merge A B} (running : this.completed = false)
    (going : (this.leftDone && this.rightDone) = false)
    {turned : Turn (Merge A B) (Answer T E)}
    (turn_eq : turn cx this = some turned) :
    (∃ answer next, turned = .leave answer next ∧ MergePoll cx this answer next) ∨
    (∃ left right, turned = .again
        { left := left, right := right, leftDone := true, rightDone := true,
          completed := false, leftFirst := !this.leftFirst } ∧
      Asked (T := T) (E := E) cx this.left this.leftDone left true none ∧
      Asked (T := T) (E := E) cx this.right this.rightDone right true none) := by
  obtain ⟨left, right, leftDone, rightDone, completed, leftFirst⟩ := this
  cases running
  rw [turn, if_neg Bool.false_ne_true, going, if_neg Bool.false_ne_true] at turn_eq
  split at turn_eq
  · rename_i next sides
    cases pollSides_cases rfl sides with
    | @silent _ _ leftEnded rightEnded askedLeft askedRight =>
        split at turn_eq
        · rename_i ended
          obtain ⟨rfl, rfl⟩ := Bool.and_eq_true_iff.mp ended
          cases turn_eq
          exact Or.inr ⟨_, _, rfl, askedLeft, askedRight⟩
        · rename_i more
          cases turn_eq
          exact Or.inl ⟨_, _, rfl, .pending askedLeft askedRight (Bool.eq_false_iff.mpr more)⟩
  · rename_i loud
    cases pollSides_cases rfl turn_eq with
    | left spoken waited => exact Or.inl ⟨_, _, rfl, .left spoken waited⟩
    | right spoken waited => exact Or.inl ⟨_, _, rfl, .right spoken waited⟩
    | silent => exact absurd turn_eq (loud _)

/-- What a poll of a merge that is going on comes to. -/
theorem poll_cases {cx : Context} {this next : Merge A B} (running : this.completed = false)
    (going : (this.leftDone && this.rightDone) = false)
    {answer : Answer T E}
    (polled : PollStream.pollNext cx this = some (answer, next)) :
    MergePoll cx this answer next := by
  rcases loop_cases polled with turned | ⟨middle, fewer, turned, -, later⟩
  · rcases turn_cases running going turned with ⟨_, _, same, came⟩ | ⟨_, _, same, -⟩
    · cases same
      exact came
    · cases same
  · rcases turn_cases running going turned with
      ⟨_, _, same, -⟩ | ⟨left, right, same, askedLeft, askedRight⟩
    · cases same
    · cases same
      have completes : turn cx (⟨left, right, true, true, false, !this.leftFirst⟩ : Merge A B) =
          some (.leave (.ready (some (.complete : Event T E)))
            ⟨left, right, true, true, true, !this.leftFirst⟩) := rfl
      obtain ⟨rfl, rfl⟩ := loop_of_leave completes later
      exact .complete askedLeft askedRight

end Merge

end IceRpc.Rx
