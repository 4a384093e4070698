/-
Module: IceRpc.Proofs.CatchRecovery
Purpose: `catch_error` recovers one business failure: it passes on the values of its source
  and then, if the source ends with a business error, the whole recovery stream the
  selector returns for it; the selector is called then and only then, and the failed
  source is left alone.
Trusted boundary: none
Main exports: catch_poll_cases, catch_steps, recovery_steps, catch_error_recovers_once
-/
import IceRpc.Rx.Course
import IceRpc.Rx.Transform.ErrorHandling

namespace IceRpc.Rx

open Lib
open PollStream (pollNext)

variable {S F R T E : Type}
variable {this next : CatchError S F R} {made : Option (List (Event T E))}

/-! ### What is left of the operator -/

/-- The selector was not called, and there is no recovery stream. -/
def Uncalled (f : F) (this : CatchError S F R) : Prop :=
  this.f = some f ∧ this.recovery = none

/-- The selector was called, which takes it, and there is a recovery stream. -/
def Called (this : CatchError S F R) : Prop :=
  this.f = none ∧ this.recovery.isSome = true

/-- The recovery stream is passed on. -/
def Recovers (rest : Option (Course T E)) (recovery : R) (made : Option (List (Event T E)))
    (this : CatchError S F R) : Prop :=
  this.finished = false ∧ this.f = none ∧ this.recovery = some recovery ∧
    made = rest.map Course.events

/-- The end of the recovery stream was passed on. -/
def Recovered (made : Option (List (Event T E))) (this : CatchError S F R) : Prop :=
  this.finished = true ∧ Called this ∧ made.getD [] = []

/-- The source is passed on, its values first and then what becomes of its end. -/
def Catches (f : F) (ending : StreamEnd E) (tail : List (Event T E))
    (rest : Option (Course T E)) (source : S) (made : Option (List (Event T E)))
    (this : CatchError S F R) : Prop :=
  this = { source := source, f := some f, recovery := none, finished := false } ∧
    ∃ values, rest = some ⟨values, ending⟩ ∧ made = some (values.map .next ++ tail)

/-- The end of the source was passed on. -/
def Passed (f : F) (made : Option (List (Event T E))) (this : CatchError S F R) : Prop :=
  this.finished = true ∧ Uncalled f this ∧ made.getD [] = []

/-- The recovery stream is passed on or has been, and this much is left of it. -/
def Recovering (left : Option (List (Event T E)) → R → Prop)
    (made : Option (List (Event T E))) (this : CatchError S F R) : Prop :=
  (∃ items recovery, left items recovery ∧ ∃ rest : Option (Course T E),
    items = rest.map Course.events ∧ Recovers rest recovery made this) ∨ Recovered made this

theorem Recovering.called {left : Option (List (Event T E)) → R → Prop}
    (recovering : Recovering left made this) : Called this := by
  rcases recovering with ⟨_, _, -, _, -, -, taken, recovery, -⟩ | ⟨-, called, -⟩
  · exact ⟨taken, Option.isSome_of_eq_some recovery⟩
  · exact called

theorem recovering_start {left : Option (List (Event T E)) → R → Prop}
    {recovered : Course T E} {recovery : R} (start : left (some recovered.events) recovery)
    (source : S) :
    Recovering left (some recovered.events)
      ({ source := source, f := none, recovery := some recovery, finished := false } :
        CatchError S F R) :=
  Or.inl ⟨_, recovery, start, some recovered, rfl, rfl, rfl, rfl, rfl⟩

/-! ### One poll -/

section Polls

variable [PollStream S (Event T E)] [PollStream R (Event T E)] [FnMut F E R]
  {enough : Context → Prop}

theorem catch_finished {cx : Context} (turns : 2 ≤ cx.turns) (finished : this.finished = true) :
    pollNext cx this = some ((.ready none : Answer T E), this) := by
  refine loop_leave ?_ (Nat.zero_lt_of_lt turns)
  rw [CatchError.turn, if_pos finished]

theorem withinLeft_of_finished (nothing : made.getD [] = []) (finished : this.finished = true) :
    WithinLeft pollNext (WithTurns 2 enough) 1 made this := by
  refine withinLeft_of_gone (fun this : CatchError S F R => this.finished = true) ?_ nothing
    finished
  intro cx this good finished
  exact ⟨this, catch_finished good.2 finished, finished⟩

theorem Passed.polled {f : F} (passed : Passed f made this) :
    Polled pollNext (WithTurns 2 enough) (Passed f) made this := by
  intro cx good
  obtain ⟨finished, kept, nothing⟩ := passed
  refine ⟨.ready none, this, catch_finished good.2 finished, ?_⟩
  match made with
  | none => exact ⟨finished, kept, rfl⟩
  | some [] => exact ⟨finished, kept, rfl⟩

theorem recovery_leaves {cx : Context} {recovery : R} (recovering : this.recovery = some recovery)
    (next : CatchError S F R) :
    CatchError.turn cx this ≠
      some (Turn.again (α := Answer T E) next) := by
  intro turned
  rw [CatchError.turn, recovering] at turned
  split at turned
  · cases turned
  · dsimp only at turned
    split at turned <;> cases turned

/-- Turns on the recovery stream leave with what it answers. -/
theorem recovery_steps :
    Steps pollNext enough pollNext (WithTurns 2 enough)
      (fun items recovery made (this : CatchError S F R) =>
        ∃ rest : Option (Course T E), items = rest.map Course.events ∧
          Recovers rest recovery made this) Recovered := by
  apply steps_of_told
  rintro left keeps rest recovery _ ⟨source, f, _, finished⟩ reads ⟨rfl, rfl, rfl, rfl⟩ cx
    ⟨good, turns⟩
  obtain ⟨answer, next, returned, told⟩ := reads cx good
  have turned := CatchError.turn.eq_def cx
    (⟨source, none, some recovery, false⟩ : CatchError S F R)
  simp only [returned] at turned
  have positive := Nat.zero_lt_of_lt turns
  cases told with
  | pending here =>
      exact ⟨_, _, loop_leave turned positive, Or.inl ⟨_, _, here, rfl, rfl, rfl, rfl⟩⟩
  | value here =>
      exact ⟨_, _, loop_leave turned positive, rfl, Or.inl ⟨_, _, here, rfl, rfl, rfl, rfl⟩⟩
  | complete here =>
      exact ⟨_, _, loop_leave turned positive, rfl, Or.inr ⟨rfl, ⟨rfl, rfl⟩, rfl⟩⟩
  | error here =>
      exact ⟨_, _, loop_leave turned positive, rfl, Or.inr ⟨rfl, ⟨rfl, rfl⟩, rfl⟩⟩
  | closed here =>
      exact ⟨_, _, loop_leave turned positive, Or.inr ⟨rfl, ⟨rfl, rfl⟩, rfl⟩⟩
  | ended here =>
      exact ⟨_, _, loop_leave turned positive, Or.inr ⟨rfl, ⟨rfl, rfl⟩, rfl⟩⟩

/-- Turns on the source leave with what it answers, but for a business error, from which
the poll goes on to the recovery stream. -/
theorem catch_steps {f : F} {ending : StreamEnd E} {tail : List (Event T E)}
    {alone : Option (List (Event T E)) → CatchError S F R → Prop}
    (plain : (∀ err, ending ≠ .error (.business err)) → tail = ending.events ∧
      ∀ source made, made.getD [] = [] → alone made
        { source := source, f := some f, recovery := none, finished := true })
    (business : ∀ err, ending = .error (.business err) → ∀ source,
      Polled pollNext (WithTurns 2 enough) alone (some tail)
        { source := source, f := none, recovery := some (FnMut.call f err).1,
          finished := false }) :
    Steps pollNext enough pollNext (WithTurns 2 enough)
      (fun items source made (this : CatchError S F R) =>
        ∃ rest : Option (Course T E), items = rest.map Course.events ∧
          Catches f ending tail rest source made this) alone := by
  apply steps_of_told
  rintro left keeps _ source _ _ reads ⟨rfl, values, rfl, rfl⟩ cx ⟨good, turns⟩
  obtain ⟨answer, next, returned, told⟩ := reads cx good
  have turned := CatchError.turn.eq_def cx
    (⟨source, some f, none, false⟩ : CatchError S F R)
  simp only [returned] at turned
  have positive := Nat.zero_lt_of_lt turns
  cases told with
  | pending here =>
      exact ⟨_, _, loop_leave turned positive, Or.inl ⟨_, _, here, rfl, values, rfl, rfl⟩⟩
  | value here =>
      exact ⟨_, _, loop_leave turned positive, rfl, Or.inl ⟨_, _, here, rfl, _, rfl, rfl⟩⟩
  | complete here =>
      obtain ⟨rfl, atEnd⟩ := plain nofun
      exact ⟨_, _, loop_leave turned positive, rfl, Or.inr (atEnd _ _ rfl)⟩
  | @error err _ here =>
      match err with
      | .business err =>
          -- the recovery stream is polled in the same poll
          obtain ⟨answer, after, looped, heard⟩ := business err rfl next cx ⟨good, turns⟩
          refine ⟨answer, after, ?_, heard.mono fun _ _ => Or.inr⟩
          have leaves := leave_of_loop (recovery_leaves rfl) looped
          obtain ⟨more, count⟩ := Nat.exists_eq_add_of_le turns
          rw [pollNext, CatchError.instPollStreamEvent]
          simp only [CatchError.pollNext, count, Nat.add_comm 2 more]
          rw [loop_again turned]
          exact loop_leave leaves (Nat.succ_pos more)
      | .technical err =>
          obtain ⟨rfl, atEnd⟩ := plain nofun
          exact ⟨_, _, loop_leave turned positive, rfl, Or.inr (atEnd _ _ rfl)⟩
      | .empty =>
          obtain ⟨rfl, atEnd⟩ := plain nofun
          exact ⟨_, _, loop_leave turned positive, rfl, Or.inr (atEnd _ _ rfl)⟩
  | closed here =>
      obtain ⟨rfl, atEnd⟩ := plain nofun
      exact ⟨_, _, loop_leave turned positive, Or.inr (atEnd _ _ rfl)⟩

/-! ### From the recovery stream on -/

theorem Recovering.polled {left : Option (List (Event T E)) → R → Prop}
    (keeps : ∀ items recovery, left items recovery →
      Polled pollNext enough left items recovery)
    (recovering : Recovering left made this) :
    Polled pollNext (WithTurns 2 enough) (Recovering left) made this := by
  rcases recovering with ⟨items, recovery, here, related⟩ | ⟨finished, called, nothing⟩
  · exact recovery_steps left keeps items recovery made this (keeps _ _ here) related
  · intro cx good
    refine ⟨.ready none, this, catch_finished good.2 finished, ?_⟩
    match made with
    | none => exact Or.inr ⟨finished, called, rfl⟩
    | some [] => exact Or.inr ⟨finished, called, rfl⟩

theorem Recovering.servesLeft
    (recovering : Recovering (ServesLeft pollNext enough) made this) :
    ServesLeft pollNext (WithTurns 2 enough) made this := by
  have rests : ∀ made (this : CatchError S F R), Recovered made this →
      ServesLeft pollNext (WithTurns 2 enough) made this :=
    fun _ _ recovered => (withinLeft_of_finished recovered.2.2 recovered.1).1
  rcases recovering with ⟨items, recovery, served, related⟩ | recovered
  · exact recovery_steps.servesLeft rests served related
  · exact rests made this recovered

theorem Recovering.withinLeft {polls : Nat}
    (recovering : Recovering (WithinLeft pollNext enough polls) made this) :
    WithinLeft pollNext (WithTurns 2 enough) (polls + 1) made this := by
  have rests : ∀ made (this : CatchError S F R), Recovered made this →
      WithinLeft pollNext (WithTurns 2 enough) 1 made this :=
    fun _ _ recovered => withinLeft_of_finished recovered.2.2 recovered.1
  rcases recovering with ⟨items, recovery, within, related⟩ | recovered
  · refine recovery_steps.withinLeft rests ?_ within related
    rintro recovery made this ⟨rest, nothing, -, -, -, rfl⟩
    exact nothing.symm
  · exact (rests made this recovered).mono (Nat.le_add_left ..)

/-! ### The selector and the source -/

/-- The source of the one state, polled once, is that of the other. -/
def SourcePolled (cx : Context) (this next : CatchError S F R) : Prop :=
  this.recovery = none ∧
    ∃ said : Answer T E, pollNext cx this.source =
      some (said, next.source)

theorem catch_turn_again {cx : Context}
    (turned : CatchError.turn cx this = some (Turn.again (α := Answer T E) next)) :
    next.recovery.isSome = true ∧ SourcePolled (T := T) (E := E) cx this next := by
  match recovery : this.recovery with
  | some stream => exact absurd turned (recovery_leaves recovery next)
  | none =>
      rw [CatchError.turn, recovery] at turned
      split at turned
      · cases turned
      · dsimp only at turned
        split at turned
        case h_3 said =>
          split at turned
          · cases turned
          · cases turned
            exact ⟨rfl, recovery, _, said⟩
        all_goals cases turned

theorem catch_turn_leave {cx : Context} {answer : Answer T E}
    (turned : CatchError.turn cx this = some (.leave answer next)) :
    next.recovery.isSome = this.recovery.isSome ∧
      (next.source = this.source ∨ SourcePolled (T := T) (E := E) cx this next) := by
  rw [CatchError.turn] at turned
  split at turned
  · cases turned
    exact ⟨rfl, Or.inl rfl⟩
  · split at turned
    · rename_i recovering
      rw [recovering]
      split at turned
      · cases turned
      all_goals
        cases turned
        exact ⟨rfl, Or.inl rfl⟩
    · rename_i recovering
      split at turned
      case h_1 => cases turned
      case h_3 =>
        split at turned <;> cases turned
      all_goals
        rename_i said
        cases turned
        exact ⟨rfl, Or.inr ⟨recovering, _, said⟩⟩

/-- A poll leaves the source alone once there is a recovery stream, and polls it at most
once before. -/
theorem catch_poll_source {cx : Context} {answer : Answer T E}
    (polled : pollNext cx this = some (answer, next)) :
    (this.recovery.isSome = true → next.recovery.isSome = true) ∧
      (next.source = this.source ∨ SourcePolled (T := T) (E := E) cx this next) := by
  refine loop_rule
    (fun now => now = this ∨
      (now.recovery.isSome = true ∧ SourcePolled (T := T) (E := E) cx this now))
    (fun _ next => (this.recovery.isSome = true → next.recovery.isSome = true) ∧
      (next.source = this.source ∨ SourcePolled (T := T) (E := E) cx this next)) ?_ ?_
    (Or.inl rfl) polled
  · rintro now next (rfl | ⟨recovering, -⟩) turned
    · exact Or.inr (catch_turn_again turned)
    · rw [(catch_turn_again turned).2.1] at recovering
      cases recovering
  · rintro now answer next (rfl | ⟨recovering, polled⟩) turned
    · obtain ⟨same, source⟩ := catch_turn_leave turned
      exact ⟨fun here => same.trans here, source⟩
    · obtain ⟨same, source⟩ := catch_turn_leave turned
      refine ⟨fun _ => same.trans recovering, Or.inr ⟨polled.1, ?_⟩⟩
      rcases source with kept | again
      · rw [kept]
        exact polled.2
      · rw [again.1] at recovering
        cases recovering

/-! ### From the source on -/

theorem passing_steps {f : F} {ending : StreamEnd E}
    (plain : ∀ err, ending ≠ .error (.business err)) :
    Steps pollNext enough pollNext (WithTurns 2 enough)
      (fun items source made (this : CatchError S F R) =>
        ∃ rest : Option (Course T E), items = rest.map Course.events ∧
          Catches f ending ending.events rest source made this) (Passed f) := by
  apply catch_steps
  · exact fun _ => ⟨rfl, fun source made nothing => ⟨rfl, ⟨rfl, rfl⟩, nothing⟩⟩
  · exact fun err same => absurd same (plain err)

theorem recovering_steps {f : F} {err : E} {recovered : Course T E}
    {left : Option (List (Event T E)) → R → Prop}
    (keeps : ∀ items recovery, left items recovery →
      Polled pollNext enough left items recovery)
    (start : left (some recovered.events) (FnMut.call f err).1) :
    Steps pollNext enough pollNext (WithTurns 2 enough)
      (fun items source made (this : CatchError S F R) =>
        ∃ rest : Option (Course T E), items = rest.map Course.events ∧
          Catches f (.error (.business err)) recovered.events rest source made this)
      (Recovering left) := by
  apply catch_steps
  · exact fun plain => absurd rfl (plain err)
  · intro other same source
    cases same
    exact (recovering_start start source).polled keeps

theorem catch_passes {course : Course T E} (plain : ∀ err, course.ending ≠ .error (.business err))
    (source : S) (f : F) :
    Follows pollNext enough course.events source pollNext
      (WithTurns 2 enough) course.events (CatchError.new source f : CatchError S F R) := by
  have rests : ∀ made (this : CatchError S F R), Passed f made this →
      WithinLeft pollNext (WithTurns 2 enough) 1 made this :=
    fun made this passed => withinLeft_of_finished passed.2.2 passed.1
  refine (passing_steps plain).follows rests ?_
    ⟨some course, rfl, rfl, course.values, rfl, rfl⟩
  rintro source made this ⟨rest, nothing, -, values, rfl, -⟩
  cases nothing

theorem catch_uncalled {course : Course T E}
    (plain : ∀ err, course.ending ≠ .error (.business err)) {source : S} {f : F}
    (served : Serves pollNext enough course.events source) {contexts : List Context}
    (good : ∀ cx ∈ contexts, WithTurns 2 enough cx) :
    ∃ answers final, pollAll pollNext contexts
      (CatchError.new source f : CatchError S F R) = some (answers, final) ∧
        Uncalled f final := by
  have left : ServesLeft pollNext enough (some course.events) source := served
  obtain ⟨answers, final, rest, returned, last, -⟩ := (passing_steps (f := f) plain).pollAll
    (fun _ _ => Passed.polled) left ⟨some course, rfl, rfl, course.values, rfl, rfl⟩ good
  refine ⟨answers, final, returned, ?_⟩
  rcases last with ⟨_, _, _, -, same, -⟩ | passed
  · rw [same]
    exact ⟨rfl, rfl⟩
  · exact passed.2.1

section Business

variable {values : List T} {err : E} {recovered : Course T E} {source : S} {f : F}

theorem catch_recovers
    (served : Serves pollNext enough
      (⟨values, .error (.business err)⟩ : Course T E).events source)
    (recovers : Serves pollNext enough recovered.events (FnMut.call f err).1) :
    Serves pollNext (WithTurns 2 enough) (values.map .next ++ recovered.events)
      (CatchError.new source f : CatchError S F R) := by
  have start : ServesLeft pollNext enough (some recovered.events)
    (FnMut.call f err).1 := recovers
  have left : ServesLeft pollNext enough
    (some (⟨values, .error (.business err)⟩ : Course T E).events) source := served
  have steps := recovering_steps (S := S) (fun _ _ => ServesLeft.polled) start
  exact steps.servesLeft (fun _ _ => Recovering.servesLeft) left
    ⟨some ⟨values, _⟩, rfl, rfl, values, rfl, rfl⟩

theorem catch_ends
    (drains : Drains pollNext enough
      (⟨values, .error (.business err)⟩ : Course T E).events source)
    (recovers : Drains pollNext enough recovered.events (FnMut.call f err).1) :
    Drains pollNext (WithTurns 2 enough) (values.map .next ++ recovered.events)
      (CatchError.new source f : CatchError S F R) := by
  obtain ⟨served, polls, ends⟩ := drains
  obtain ⟨recoveryServed, more, recoveryEnds⟩ := recovers
  have start : WithinLeft pollNext enough more (some recovered.events)
    (FnMut.call f err).1 := ⟨recoveryServed, fun _ => recoveryEnds⟩
  have left : WithinLeft pollNext enough polls
    (some (⟨values, .error (.business err)⟩ : Course T E).events) source :=
      ⟨served, fun _ => ends⟩
  have steps := recovering_steps (S := S) (fun _ _ => WithinLeft.keeps) start
  have within := steps.withinLeft (fun _ _ => Recovering.withinLeft) ?_ left
    ⟨some ⟨values, _⟩, rfl, rfl, values, rfl, rfl⟩
  · exact ⟨within.1, _, within.2 rfl⟩
  · rintro source made this ⟨rest, nothing, -, values, rfl, -⟩
    cases nothing

theorem catch_called
    (served : Serves pollNext enough
      (⟨values, .error (.business err)⟩ : Course T E).events source)
    (recovers : Serves pollNext enough recovered.events (FnMut.call f err).1)
    {contexts : List Context} (good : ∀ cx ∈ contexts, WithTurns 2 enough cx) :
    ∃ answers final, pollAll pollNext contexts
      (CatchError.new source f : CatchError S F R) = some (answers, final) ∧
        (Uncalled f final ∨ Called final) ∧ (none ∈ readies answers → Called final) := by
  have start : ServesLeft pollNext enough (some recovered.events)
    (FnMut.call f err).1 := recovers
  have left : ServesLeft pollNext enough
    (some (⟨values, .error (.business err)⟩ : Course T E).events) source := served
  have steps := recovering_steps (S := S) (fun _ _ => ServesLeft.polled) start
  obtain ⟨answers, final, rest, returned, last, ended⟩ := steps.pollAll
    (fun _ _ => Recovering.polled fun _ _ => ServesLeft.polled) left
    ⟨some ⟨values, _⟩, rfl, rfl, values, rfl, rfl⟩ good
  refine ⟨answers, final, returned, ?_⟩
  rcases last with ⟨_, _, _, -, same, values, -, made⟩ | recovering
  · rw [same]
    refine ⟨Or.inl ⟨rfl, rfl⟩, fun listed => ?_⟩
    cases made.symm.trans (ended listed)
  · exact ⟨Or.inr recovering.called, fun _ => recovering.called⟩

end Business

theorem catch_leaves {final : CatchError S F R} (called : this.recovery.isSome = true)
    {contexts : List Context} {answers : List (Answer T E)}
    (returned : pollAll pollNext contexts this = some (answers, final)) :
    final.source = this.source := by
  refine pollAll_rule (fun (this : CatchError S F R) _ final => this.recovery.isSome = true →
    final.source = this.source) (fun _ _ => rfl) ?_ returned called
  intro cx this answer next answers final polled later called
  obtain ⟨stays, source⟩ := catch_poll_source polled
  have same : next.source = this.source := by
    refine source.resolve_right fun again => ?_
    rw [again.1] at called
    cases called
  exact (later (stays called)).trans same

/-! ### All of it -/

/-- What `catch_error` makes of a source with this course. -/
structure CatchesOnce (enough : Context → Prop) (course : Course T E) (source : S) (f : F) :
    Prop where
  /-- Without a business error at its end, the source is passed on as it is. -/
  passes : (∀ err, course.ending ≠ .error (.business err)) →
    Follows pollNext enough course.events source pollNext
      (WithTurns 2 enough) course.events (CatchError.new source f : CatchError S F R)
  /-- The selector is not called then. -/
  uncalled : (∀ err, course.ending ≠ .error (.business err)) →
    Serves pollNext enough course.events source →
    ∀ contexts, (∀ cx ∈ contexts, WithTurns 2 enough cx) → ∃ answers final,
      pollAll pollNext contexts (CatchError.new source f : CatchError S F R) =
        some (answers, final) ∧ Uncalled f final
  /-- With a business error at its end, its values are followed by the whole recovery
  stream the selector returns for that error. -/
  recovers : ∀ err, course.ending = .error (.business err) → ∀ recovered : Course T E,
    Serves pollNext enough course.events source →
    Serves pollNext enough recovered.events (FnMut.call f err).1 →
    Serves pollNext (WithTurns 2 enough)
      (course.values.map .next ++ recovered.events)
      (CatchError.new source f : CatchError S F R)
  /-- It comes to its end if the two streams do. -/
  ends : ∀ err, course.ending = .error (.business err) → ∀ recovered : Course T E,
    Drains pollNext enough course.events source →
    Drains pollNext enough recovered.events (FnMut.call f err).1 →
    Drains pollNext (WithTurns 2 enough)
      (course.values.map .next ++ recovered.events)
      (CatchError.new source f : CatchError S F R)
  /-- The selector is called once at most, and it was when the end is reached. -/
  called : ∀ err, course.ending = .error (.business err) → ∀ recovered : Course T E,
    Serves pollNext enough course.events source →
    Serves pollNext enough recovered.events (FnMut.call f err).1 →
    ∀ contexts, (∀ cx ∈ contexts, WithTurns 2 enough cx) → ∃ answers final,
      pollAll pollNext contexts (CatchError.new source f : CatchError S F R) =
        some (answers, final) ∧ (Uncalled f final ∨ Called final) ∧
        (none ∈ readies answers → Called final)
  /-- Once it was called, the source is polled no more. -/
  leaves : ∀ contexts answers next,
    pollAll pollNext contexts
        (CatchError.new (Metered.mk source 0) f : CatchError (Metered S) F R) =
      some ((answers : List (Answer T E)), next) →
    Called next → ∀ later rest final, pollAll pollNext later next =
        some ((rest : List (Answer T E)), final) →
      final.source.polls = next.source.polls
  /-- No poll polls the source more than once. -/
  pollsOnce : ∀ cx (this next : CatchError (Metered S) F R)
    (answer : Answer T E),
    pollNext cx this = some (answer, next) →
      next.source.polls ≤ this.source.polls + 1

/-- `catch_error` recovers one business failure. -/
theorem catch_error_recovers_once (enough : Context → Prop) (course : Course T E) (source : S)
    (f : F) : CatchesOnce enough course source f where
  passes := fun plain => catch_passes plain source f
  uncalled := fun plain served contexts good => catch_uncalled plain served good
  recovers := by
    rintro err business recovered served recovers
    cases course
    cases business
    exact catch_recovers served recovers
  ends := by
    rintro err business recovered drains recovers
    cases course
    cases business
    exact catch_ends drains recovers
  called := by
    rintro err business recovered served recovers contexts good
    cases course
    cases business
    exact catch_called served recovers good
  leaves := fun contexts answers next _ called later rest final returned =>
    congrArg Metered.polls (catch_leaves called.2 returned)
  pollsOnce := by
    intro cx this next answer polled
    rcases (catch_poll_source polled).2 with same | ⟨-, said, source⟩
    · rw [same]
      exact Nat.le_succ _
    · exact Nat.le_of_eq (Metered.polls_succ source)

end Polls

/-- A failed source and its recovery, both ready at any time. -/
theorem catch_error_recovers_a_failure :
    let source : Source (Event Nat String) :=
      { items := [.next 1, .error (.business "gone")], schedule := Stream'.const true }
    let selector (reason : String) : Source (Event Nat String) :=
      { items := [.next reason.length, .complete], schedule := Stream'.const true }
    Drains pollNext (WithTurns 2 fun _ => True) [.next 1, .next 4, .complete]
      (CatchError.new source selector : CatchError _ _ (Source (Event Nat String))) := by
  intro source selector
  have once := catch_error_recovers_once (fun _ => True)
    (⟨[1], .error (.business "gone")⟩ : Course Nat String) source selector
  exact once.ends "gone" rfl ⟨[4], .complete⟩ (Source.drains source Source.fair_const_true)
    (Source.drains (selector "gone") Source.fair_const_true)

end IceRpc.Rx
