/-
Module: IceRpc.Lib.Polling
Purpose: Things that are polled: loops that go round until they leave with an answer,
  what a stream delivers poll after poll, and the rules by which it delivers at most one
  last item and nothing behind it.
Trusted boundary: none
Main exports: Turn, loop, loop_rule, loop_leaves, loop_of_leave, Silent, delivered,
  Graceful, Exhausted, After, After.mono, Silently, Silently.mono, graceful_of_rules,
  Script, unfold, PollsMeet
-/
import IceRpc.Lib.Ending
import IceRpc.Lib.Poll
import IceRpc.Lib.Run

namespace IceRpc.Lib

/-! ### Loops -/

/-- What one turn of a loop comes to. -/
inductive Turn (σ α : Type*) where
  /-- `continue`, or the end of the body. -/
  | again (state : σ)
  /-- `return` with an answer. -/
  | leave (answer : α) (state : σ)
deriving Repr, DecidableEq

section Loops

variable {σ α : Type*} {body : σ → Option (Turn σ α)}
variable {state final : σ} {answer : α} {turns : Nat}

/-- Go round until the body leaves, for a number of turns at most. -/
def loop (body : σ → Option (Turn σ α)) : Nat → σ → Option (α × σ)
  | 0, _ => none
  | turns + 1, state =>
      match body state with
      | none => none
      | some (.again next) => loop body turns next
      | some (.leave answer next) => some (answer, next)

/-- Loop rule: what holds at the start and is kept by every turn that goes on holds at
the turn that leaves. -/
theorem loop_rule (inv : σ → Prop) (post : α → σ → Prop)
    (again : ∀ state next, inv state → body state = some (.again next) → inv next)
    (leave : ∀ state answer next, inv state → body state = some (.leave answer next) →
      post answer next) (start : inv state)
    (returned : loop body turns state = some (answer, final)) : post answer final := by
  induction turns generalizing state with
  | zero => cases returned
  | succ turns ih =>
      rw [loop] at returned
      split at returned
      · cases returned
      · rename_i next turn
        exact ih (again state next start turn) returned
      · rename_i last next turn
        cases returned
        exact leave state answer final start turn

/-- What a loop answers is what its last turn left with. -/
theorem loop_leaves (returned : loop body turns state = some (answer, final)) :
    ∃ last, body last = some (.leave answer final) := by
  refine loop_rule (fun _ => True) (fun answer final => ∃ last, body last =
    some (.leave answer final)) (fun _ _ _ _ => trivial) ?_ trivial returned
  intro last answer final _ turned
  exact ⟨last, turned⟩

/-- A loop whose first turn leaves answers what that turn answers. -/
theorem loop_of_leave {next : σ} {other : α} (turn : body state = some (.leave answer next))
    (returned : loop body turns state = some (other, final)) : other = answer ∧ final = next := by
  cases turns with
  | zero => cases returned
  | succ turns =>
      rw [loop, turn] at returned
      cases returned
      exact ⟨rfl, rfl⟩

theorem loop_leave {next : σ} (turn : body state = some (.leave answer next))
    (positive : 0 < turns) :
    loop body turns state = some (answer, next) := by
  cases turns with
  | zero => cases positive
  | succ turns => rw [loop, turn]

/-- A loop leaves in its first turn or goes on after it. -/
theorem loop_cases (returned : loop body turns state = some (answer, final)) :
    body state = some (.leave answer final) ∨
      ∃ next fewer, body state = some (.again next) ∧ turns = fewer + 1 ∧
        loop body fewer next = some (answer, final) := by
  cases turns with
  | zero => cases returned
  | succ turns =>
      rw [loop] at returned
      split at returned
      · cases returned
      · rename_i next turn
        exact Or.inr ⟨next, turns, turn, rfl, returned⟩
      · rename_i turn
        cases returned
        exact Or.inl turn

/-- A loop whose first turn does not go on leaves in it. -/
theorem leave_of_loop (leaves : ∀ next, body state ≠ some (.again next))
    (returned : loop body turns state = some (answer, final)) :
    body state = some (.leave answer final) := by
  refine (loop_cases returned).resolve_right ?_
  rintro ⟨next, _, turn, -⟩
  exact leaves next turn

theorem loop_again {next : σ} (turn : body state = some (.again next)) :
    loop body (turns + 1) state = loop body turns next := by
  rw [loop, turn]

/-- The states in which a loop begins its turns. -/
inductive Rounds (body : σ → Option (Turn σ α)) : σ → σ → Prop
  | start (state : σ) : Rounds body state state
  | again {first next last : σ} : body first = some (.again next) → Rounds body next last →
      Rounds body first last

theorem loop_of_rounds {first last : σ} (rounds : Rounds body first last)
    (returned : loop body turns first = some (answer, final)) :
    ∃ fewer, loop body fewer last = some (answer, final) := by
  induction rounds generalizing turns with
  | start => exact ⟨turns, returned⟩
  | again turn _ ih =>
      cases turns with
      | zero => cases returned
      | succ turns => exact ih ((loop_again turn).symm.trans returned)

end Loops

/-! ### What stays pending -/

section Silence

variable {C S α : Type*} (poll : C → S → Option (Poll α × S))

/-- These polls, one after the other, all answer `Pending`. -/
def StaysPending : List C → S → Prop
  | [], _ => True
  | context :: contexts, state =>
      ∃ next, poll context state = some (.pending, next) ∧ StaysPending contexts next

/-- Whatever the polls, they answer `Pending`. -/
def Silent (state : S) : Prop :=
  ∀ contexts, StaysPending poll contexts state

variable {poll}

theorem Silent.poll_eq {state : S} (silent : Silent poll state) (context : C) :
    ∃ next, poll context state = some (.pending, next) ∧ Silent poll next := by
  obtain ⟨next, polled, _⟩ := silent [context]
  refine ⟨next, polled, fun contexts => ?_⟩
  obtain ⟨other, again, rest⟩ := silent (context :: contexts)
  rw [polled] at again
  cases again
  exact rest

end Silence

/-! ### What a stream delivers -/

section Streams

variable {C S Item : Type*} (poll : C → S → Option (Poll (Option Item) × S))
  (terminal : Item → Bool)

/-- The items a stream delivers when it is polled in these contexts, one after the
other.  A poll that does not return is the last. -/
def delivered : List C → S → List Item
  | [], _ => []
  | context :: contexts, state =>
      match poll context state with
      | none => []
      | some (.ready (some item), next) => item :: delivered contexts next
      | some (_, next) => delivered contexts next

/-- Whatever the polls, nothing is delivered any more. -/
def Exhausted (state : S) : Prop :=
  ∀ contexts, delivered poll contexts state = []

/-- Whatever the polls, at most one terminal item is delivered, and none after it. -/
def Graceful (state : S) : Prop :=
  ∀ contexts, EndsAtMostOnce terminal (delivered poll contexts state)

/-- What is to hold after an answer of a stream that is going on. -/
def After (going gone : S → Prop) : Poll (Option Item) → S → Prop
  | .ready (some item), next =>
      (terminal item = true → gone next) ∧ (terminal item = false → going next)
  | _, next => going next ∨ gone next

/-- What is to hold after an answer of a stream that is over. -/
def Silently (gone : S → Prop) : Poll (Option Item) → S → Prop
  | .ready (some _), _ => False
  | _, next => gone next

variable {poll terminal}
variable {state next : S} {answer : Poll (Option Item)} {context : C}

/-- What is to hold after an answer, carried over to another state. -/
theorem After.mono {R : Type*} {going gone : S → Prop} {goingOn gonePast : R → Prop} {other : R}
    (after : After terminal going gone answer next) (goes : going next → goingOn other)
    (rests : gone next → gonePast other) : After terminal goingOn gonePast answer other := by
  match answer with
  | .ready (some item) =>
      exact ⟨fun ended => rests (after.1 ended), fun ongoing => goes (after.2 ongoing)⟩
  | .ready none | .pending => exact after.imp goes rests

theorem Silently.mono {R : Type*} {gone : S → Prop} {gonePast : R → Prop} {other : R}
    (silent : Silently gone answer next) (rests : gone next → gonePast other) :
    Silently gonePast answer other := by
  match answer with
  | .ready (some item) => exact silent.elim
  | .ready none | .pending => exact rests silent

theorem delivered_cons_item {contexts : List C} {item : Item}
    (polled : poll context state = some (.ready (some item), next)) :
    delivered poll (context :: contexts) state = item :: delivered poll contexts next := by
  rw [delivered, polled]

theorem delivered_cons_end {contexts : List C}
    (polled : poll context state = some (.ready none, next)) :
    delivered poll (context :: contexts) state = delivered poll contexts next := by
  rw [delivered, polled]

theorem delivered_cons_pending {contexts : List C}
    (polled : poll context state = some (.pending, next)) :
    delivered poll (context :: contexts) state = delivered poll contexts next := by
  rw [delivered, polled]

theorem delivered_cons_stuck {contexts : List C} (stuck : poll context state = none) :
    delivered poll (context :: contexts) state = [] := by
  rw [delivered, stuck]

/-- A poll of an exhausted stream delivers nothing and leaves it exhausted. -/
theorem Exhausted.after_poll (exhausted : Exhausted poll state)
    (polled : poll context state = some (answer, next)) :
    Silently (Exhausted poll) answer next := by
  match answer with
  | .ready (some item) =>
      have nothing := exhausted [context]
      rw [delivered_cons_item polled] at nothing
      cases nothing
  | .ready none =>
      intro contexts
      exact (delivered_cons_end polled).symm.trans (exhausted (context :: contexts))
  | .pending =>
      intro contexts
      exact (delivered_cons_pending polled).symm.trans (exhausted (context :: contexts))

/-- A poll of a graceful stream leaves it graceful, or exhausted if it delivers the
terminal item. -/
theorem Graceful.after_poll (graceful : Graceful poll terminal state)
    (polled : poll context state = some (answer, next)) :
    After terminal (Graceful poll terminal) (Exhausted poll) answer next := by
  have items := fun contexts => graceful (context :: contexts)
  match answer with
  | .ready (some item) =>
      simp only [delivered_cons_item polled, endsAtMostOnce_cons] at items
      constructor
      · intro ended contexts
        rcases items contexts with ⟨_, nothing⟩ | ⟨going, _⟩
        · exact nothing
        · rw [ended] at going
          cases going
      · intro going contexts
        rcases items contexts with ⟨ended, _⟩ | ⟨_, rest⟩
        · rw [going] at ended
          cases ended
        · exact rest
  | .ready none =>
      simp only [delivered_cons_end polled] at items
      exact Or.inl items
  | .pending =>
      simp only [delivered_cons_pending polled] at items
      exact Or.inl items

/-- A stream whose polls keep two conditions, one while it goes on and one from its
terminal item on, is graceful. -/
theorem graceful_of_rules (going gone : S → Prop)
    (goes : ∀ context state answer next, going state →
      poll context state = some (answer, next) → After terminal going gone answer next)
    (rests : ∀ context state answer next, gone state →
      poll context state = some (answer, next) → Silently gone answer next)
    (start : going state ∨ gone state) : Graceful poll terminal state := by
  have exhausted : ∀ contexts state, gone state → delivered poll contexts state = [] := by
    intro contexts
    induction contexts with
    | nil => exact fun _ _ => rfl
    | cons context contexts ih =>
        intro state rest
        match polled : poll context state with
        | none => exact delivered_cons_stuck polled
        | some (.ready (some item), next) => exact (rests _ _ _ _ rest polled).elim
        | some (.ready none, next) =>
            rw [delivered_cons_end polled]
            exact ih next (rests _ _ _ _ rest polled)
        | some (.pending, next) =>
            rw [delivered_cons_pending polled]
            exact ih next (rests _ _ _ _ rest polled)
  intro contexts
  induction contexts generalizing state with
  | nil => exact endsAtMostOnce_nil
  | cons context contexts ih =>
      rcases start with start | rest
      · match polled : poll context state with
        | none =>
            rw [delivered_cons_stuck polled]
            exact endsAtMostOnce_nil
        | some (.ready (some item), next) =>
            rw [delivered_cons_item polled, endsAtMostOnce_cons]
            have after := goes _ _ _ _ start polled
            cases kind : terminal item with
            | true => exact Or.inl ⟨rfl, exhausted contexts next (after.1 kind)⟩
            | false => exact Or.inr ⟨rfl, ih (Or.inl (after.2 kind))⟩
        | some (.ready none, next) =>
            rw [delivered_cons_end polled]
            exact ih (goes _ _ _ _ start polled)
        | some (.pending, next) =>
            rw [delivered_cons_pending polled]
            exact ih (goes _ _ _ _ start polled)
      · rw [exhausted _ state rest]
        exact endsAtMostOnce_nil

end Streams

/-! ### Streams as scripts -/

/-- What the polls of a stream answer, one after the other; `none` is a poll that does
not return. -/
abbrev Script (Item : Type*) := Stream' (Option (Poll (Option Item)))

section Scripts

variable {C S Item : Type*} {poll : C → S → Option (Poll (Option Item) × S)}
  {terminal : Item → Bool}

/-- The script of a stream that is polled in the given contexts. -/
def unfold (poll : C → S → Option (Poll (Option Item) × S)) (contexts : Stream' C)
    (state : S) : Script Item
  | 0 => (poll contexts.head state).map Prod.fst
  | n + 1 => (poll contexts.head state).bind fun polled =>
      unfold poll contexts.tail polled.2 n

/-- Every poll of the run meets the condition. -/
def PollsMeet (poll : C → S → Option (Poll (Option Item) × S)) (cond : S → C → Prop)
    (contexts : Stream' C) (state : S) : Prop :=
  ∀ n, StepsMeet (fun state context => (poll context state).map Prod.snd) cond state
    (contexts.take n)

theorem PollsMeet.now {cond : S → C → Prop} {contexts : Stream' C} {state : S}
    (meets : PollsMeet poll cond contexts state) : cond state contexts.head :=
  (meets 1).1

theorem PollsMeet.later {cond : S → C → Prop} {contexts : Stream' C} {state next : S}
    {answer : Poll (Option Item)} (meets : PollsMeet poll cond contexts state)
    (polled : poll contexts.head state = some (answer, next)) :
    PollsMeet poll cond contexts.tail next := by
  intro n
  refine (meets (n + 1)).2 next ?_
  dsimp only
  rw [polled]
  rfl

theorem unfold_head (contexts : Stream' C) (state : S) :
    (unfold poll contexts state).head = (poll contexts.head state).map Prod.fst := rfl

theorem unfold_tail {contexts : Stream' C} {state next : S}
    {answer : Poll (Option Item)}
    (polled : poll contexts.head state = some (answer, next)) :
    (unfold poll contexts state).tail = unfold poll contexts.tail next := by
  funext n
  have later : unfold poll contexts state (n + 1) = (poll contexts.head state).bind
      fun polled => unfold poll contexts.tail polled.2 n := rfl
  rw [polled] at later
  exact later

end Scripts

end IceRpc.Lib
