/-
Module: IceRpc.Proofs.ListFunctions
Purpose: The unary operators as list functions: whatever the schedule of the source,
  what they deliver is made of its values and its end by the list function of their
  name; and `take` and `first_with` leave the source alone after their last value.
Trusted boundary: none
Main exports: accepted, folds, unary_operators_are_list_functions
-/
import Mathlib.Data.List.Destutter
import IceRpc.Rx.Course
import IceRpc.Rx.Transform.Combining
import IceRpc.Rx.Transform.Filtering
import IceRpc.Rx.Transform.Transforming
import IceRpc.Rx.Transform.Utility

namespace IceRpc.Rx

open Lib
open PollStream (pollNext)

variable {S F T U E E2 O Out : Type}

/-! ### List functions with a closure -/

section Closures

/-- The values the closure says yes to. -/
def accepted [FnMut F T Bool] (f : F) : List T → List T
  | [] => []
  | value :: values =>
      if (FnMut.call f value).1 then value :: accepted (FnMut.call f value).2 values
      else accepted (FnMut.call f value).2 values

/-- The running folds. -/
def folds [FnMut F (U × T) U] (f : F) (acc : U) : List T → List U
  | [] => []
  | value :: values =>
      (FnMut.call f (acc, value)).1 ::
        folds (FnMut.call f (acc, value)).2 (FnMut.call f (acc, value)).1 values

/-- The end with its business error replaced. -/
def StreamEnd.mapErr [FnMut F E E2] (f : F) : StreamEnd E → StreamEnd E2
  | .complete => .complete
  | .error (.business err) => .error (.business (FnMut.call f err).1)
  | .error (.technical err) => .error (.technical err)
  | .error .empty => .error .empty
  | .closed => .closed

theorem accepted_eq_filter (f : T → Bool) (values : List T) :
    accepted f values = values.filter f := by
  induction values with
  | nil => rfl
  | cons value values ih =>
      rw [accepted, List.filter_cons]
      exact if_congr Iff.rfl (congrArg (value :: ·) ih) ih

theorem folds_eq_scanl (f : U × T → U) (acc : U) (values : List T) :
    acc :: folds f acc values = values.scanl (fun acc value => f (acc, value)) acc := by
  induction values generalizing acc with
  | nil => rfl
  | cons value values ih =>
      rw [List.scanl_cons, folds]
      exact congrArg (acc :: ·) (ih _)

end Closures

/-! ### Operators that answer once for each answer -/

/-- Conditions under which an operator that answers once for each answer makes of a
course what `spec` says.  Most hold by computation. -/
structure PassesOn (source : O → S) (keep : O → S → O)
    (react : O → S → Option (Event T E) → Option Out × O)
    (spec : O → Course T E → List Out) : Prop where
  kept : ∀ this next, source (keep this next) = next ∧
    spec (keep this next) = spec this := by exact fun _ _ => ⟨rfl, rfl⟩
  value : ∀ this next value values ending, ∃ out after,
    react this next (some (.next value)) = (some out, after) ∧ source after = next ∧
      spec this ⟨value :: values, ending⟩ = out :: spec after ⟨values, ending⟩ := by
    exact fun _ _ _ _ _ => ⟨_, _, rfl, rfl, rfl⟩
  complete : ∀ this next, ∃ out after,
    react this next (some .complete) = (some out, after) ∧ source after = next ∧
      spec this ⟨[], .complete⟩ = [out] := by exact fun _ _ => ⟨_, _, rfl, rfl, rfl⟩
  error : ∀ this next err, ∃ out after,
    react this next (some (.error err)) = (some out, after) ∧ source after = next ∧
      spec this ⟨[], .error err⟩ = [out] := by exact fun _ _ _ => ⟨_, _, rfl, rfl, rfl⟩
  closed : ∀ this next, ∃ after,
    react this next none = (none, after) ∧ source after = next ∧
      spec this ⟨[], .closed⟩ = [] := by exact fun _ _ => ⟨_, rfl, rfl, rfl⟩

/-- Rule for the operators that are a `passOn`. -/
theorem makes_of_passOn [PollStream S (Event T E)] [PollStream O Out]
    {enough : Context → Prop} {source : O → S} {keep : O → S → O}
    {react : O → S → Option (Event T E) → Option Out × O}
    {spec : O → Course T E → List Out} (passes : PassesOn source keep react spec)
    (poll_eq : ∀ cx (this : O), pollNext cx this =
      passOn cx (source this) (keep this) (react this))
    (course : Course T E) (this : O) :
    Makes enough course (source this) (spec this course) this := by
  refine makes_of_step source (fun rest made this => made = rest.map (spec this))
    (fun _ _ => False) 0 nofun ?_ (fun _ _ nothing => nothing) _ this rfl
  intro left _ rest made this reads made_eq cx good
  obtain ⟨answer, next, returned, told⟩ := reads cx good.1
  rw [poll_eq, passOn, returned]
  -- after a terminal event nothing but the end is left
  have drained : ∀ after : O, left (some ⟨[], .closed⟩) (source after) →
      (∃ rest, left rest (source after) ∧ some [] = rest.map (spec after)) ∨ False := by
    intro after here
    refine Or.inl ⟨some ⟨[], .closed⟩, here, ?_⟩
    obtain ⟨_, -, -, nothing⟩ := passes.closed after (source after)
    rw [Option.map_some, nothing]
  cases told with
  | pending here =>
      refine ⟨.pending, keep this next, rfl, Or.inl ⟨rest, ?_, ?_⟩⟩
      · rwa [(passes.kept this next).1]
      · rw [made_eq, (passes.kept this next).2]
  | @value item values ending _ here =>
      obtain ⟨out, after, reacted, rfl, spec_eq⟩ := passes.value this next item values ending
      rw [made_eq, Option.map_some, spec_eq]
      simp only [reacted]
      exact ⟨.ready (some out), after, rfl, rfl, Or.inl ⟨some ⟨values, ending⟩, here, rfl⟩⟩
  | complete here =>
      obtain ⟨out, after, reacted, rfl, spec_eq⟩ := passes.complete this next
      rw [made_eq, Option.map_some, spec_eq]
      simp only [reacted]
      exact ⟨.ready (some out), after, rfl, rfl, drained after here⟩
  | @error err _ here =>
      obtain ⟨out, after, reacted, rfl, spec_eq⟩ := passes.error this next err
      rw [made_eq, Option.map_some, spec_eq]
      simp only [reacted]
      exact ⟨.ready (some out), after, rfl, rfl, drained after here⟩
  | closed here =>
      obtain ⟨after, reacted, rfl, spec_eq⟩ := passes.closed this next
      rw [made_eq, Option.map_some, spec_eq]
      simp only [reacted]
      exact ⟨.ready none, after, rfl, Or.inl ⟨none, here, rfl⟩⟩
  | ended here =>
      obtain ⟨after, reacted, rfl, -⟩ := passes.closed this next
      rw [made_eq]
      simp only [reacted]
      exact ⟨.ready none, after, rfl, Or.inl ⟨none, here, rfl⟩⟩

/-! ### Operators that drop values -/

section Sieves

variable [PollStream S (Event T E)] {enough : Context → Prop}

/-- The values left to be read. -/
def valuesLeft : Option (Course T E) → Nat
  | none => 0
  | some course => course.values.length

/-- Conditions under which a sieve keeps the values that `kept` says. -/
structure Sieves (source : O → S) (put : O → S → O) (accept : O → T → Bool × O)
    (kept : O → List T → List T) : Prop where
  put_source : ∀ this next, source (put this next) = next := by exact fun _ _ => rfl
  put_kept : ∀ this next, kept (put this next) = kept this := by exact fun _ _ => rfl
  accept_source : ∀ this value, source (accept this value).2 = source this
  kept_nil : ∀ this, kept this [] = []
  kept_cons : ∀ this value values, kept this (value :: values) =
    if (accept this value).1 then value :: kept (accept this value).2 values
    else kept (accept this value).2 values

/-- The course of the values that are kept. -/
def keptCourse (kept : O → List T → List T) (this : O) (course : Course T E) :
    Course T E :=
  ⟨kept this course.values, course.ending⟩

variable {source : O → S} {put : O → S → O} {accept : O → T → Bool × O}
  {kept : O → List T → List T}

/-- The loop drops values until it has an answer to pass on. -/
theorem loop_sieve (sieves : Sieves source put accept kept)
    {left : Option (Course T E) → S → Prop}
    (keeps : ∀ course source, left course source → Reads enough left course source)
    {cx : Context} (good : enough cx) {turns : Nat} {rest : Option (Course T E)} {this : O}
    (reads : Reads enough left rest (source this)) (enoughTurns : valuesLeft rest < turns) :
    ∃ answer after, loop (sieve source put accept cx) turns this = some (answer, after) ∧
      Heard (fun made after => ∃ later, left later (source after) ∧
        valuesLeft later ≤ valuesLeft rest ∧
        made = later.map fun course => (keptCourse kept after course).events)
      (rest.map fun course => (keptCourse kept this course).events) answer after := by
  induction turns generalizing rest this with
  | zero => exact absurd enoughTurns (Nat.not_lt_zero _)
  | succ turns ih =>
      obtain ⟨answer, next, returned, told⟩ := reads cx good
      have drained : (some [] : Option (List (Event T E))) =
          (some ⟨[], .closed⟩ : Option (Course T E)).map fun course =>
            (keptCourse kept (put this next) course).events := by
        rw [Option.map_some, keptCourse, sieves.kept_nil]
        rfl
      have put_eq := sieves.put_source this next
      rw [loop, sieve, returned]
      cases told with
      | pending here =>
          refine ⟨.pending, put this next, rfl, rest, ?_, le_rfl, ?_⟩
          · rwa [put_eq]
          · simp only [keptCourse, sieves.put_kept]
      | @value value values ending _ here =>
          have source_eq := (sieves.accept_source (put this next) value).trans put_eq
          rw [Option.map_some, keptCourse, ← sieves.put_kept this next, sieves.kept_cons]
          rcases verdict : accept (put this next) value with ⟨accepted, after⟩
          cases accepted with
          | true =>
              rw [verdict] at source_eq
              simp only [verdict, ↓reduceIte]
              refine ⟨.ready (some (.next value)), after, rfl, rfl, some ⟨values, ending⟩,
                ?_, Nat.le_succ _, rfl⟩
              rwa [source_eq]
          | false =>
              rw [verdict] at source_eq
              simp only [verdict, Bool.false_eq_true, ↓reduceIte]
              have readsOn : Reads enough left (some ⟨values, ending⟩) (source after) := by
                rw [source_eq]
                exact keeps _ _ here
              obtain ⟨answer, final, looped, heard⟩ :=
                ih readsOn (Nat.lt_of_succ_lt_succ enoughTurns)
              refine ⟨answer, final, looped, heard.mono ?_⟩
              rintro made after ⟨later, kept, fewer, made_eq⟩
              exact ⟨later, kept, Nat.le_succ_of_le fewer, made_eq⟩
      | complete here =>
          rw [Option.map_some, keptCourse, sieves.kept_nil]
          refine ⟨.ready (some .complete), put this next, rfl, rfl, some ⟨[], .closed⟩, ?_,
            le_rfl, drained⟩
          rwa [put_eq]
      | @error err _ here =>
          rw [Option.map_some, keptCourse, sieves.kept_nil]
          refine ⟨.ready (some (.error err)), put this next, rfl, rfl, some ⟨[], .closed⟩, ?_,
            le_rfl, drained⟩
          rwa [put_eq]
      | closed here =>
          rw [Option.map_some, keptCourse, sieves.kept_nil]
          refine ⟨.ready none, put this next, rfl, none, ?_, le_rfl, rfl⟩
          rwa [put_eq]
      | ended here =>
          refine ⟨.ready none, put this next, rfl, none, ?_, le_rfl, rfl⟩
          rwa [put_eq]

/-- Rule for the operators that are a sieve. -/
theorem makes_of_sieve [PollStream O (Event T E)] (sieves : Sieves source put accept kept)
    (poll_eq : ∀ cx (this : O), pollNext cx this =
      loop (sieve source put accept cx) cx.turns this)
    (course : Course T E) (this : O) :
    Makes enough course (source this) (keptCourse kept this course).events this := by
  refine makes_of_step source (fun rest made this =>
      valuesLeft rest ≤ course.values.length ∧
        made = rest.map fun course => (keptCourse kept this course).events)
    (fun _ _ => False) 0 nofun ?_ (fun _ _ nothing => nothing.2) _ this ⟨le_rfl, rfl⟩
  rintro left keeps rest made this reads ⟨few, made_eq⟩ cx ⟨good, turns⟩
  obtain ⟨answer, after, looped, heard⟩ :=
    loop_sieve sieves keeps good reads (few.trans_lt turns)
  rw [poll_eq, made_eq]
  refine ⟨answer, after, looped, heard.mono ?_⟩
  rintro made after ⟨later, here, fewer, made_eq⟩
  exact Or.inl ⟨later, here, fewer.trans few, made_eq⟩

end Sieves

/-! ### map, map_err, scan, tap, finalize -/

section Operators

variable [PollStream S (Event T E)] {enough : Context → Prop}

theorem makes_map [FnMut F T U] (course : Course T E) (source : S) (f : F) :
    Makes enough course source
      (⟨calls f course.values, course.ending⟩ : Course U E).events (Map.new source f) := by
  have passes : PassesOn Map.source (fun this source => { this with source := source })
      Map.react fun (this : Map S F) (course : Course T E) =>
        (⟨calls this.f course.values, course.ending⟩ : Course U E).events := {}
  exact makes_of_passOn passes (fun _ _ => rfl) course (Map.new source f)

theorem makes_mapErr [FnMut F E E2] (course : Course T E) (source : S) (f : F) :
    Makes enough course source
      (⟨course.values, course.ending.mapErr f⟩ : Course T E2).events
      (MapErr.new source f) := by
  have passes : PassesOn MapErr.source (fun this source => { this with source := source })
      MapErr.react fun (this : MapErr S F) (course : Course T E) =>
        (⟨course.values, course.ending.mapErr this.f⟩ : Course T E2).events :=
    { error := fun _ _ err => by cases err <;> exact ⟨_, _, rfl, rfl, rfl⟩ }
  exact makes_of_passOn passes (fun _ _ => rfl) course (MapErr.new source f)

theorem makes_scan [FnMut F (U × T) U] (course : Course T E) (source : S) (initial : U)
    (f : F) :
    Makes enough course source
      (⟨folds f initial course.values, course.ending⟩ : Course U E).events
      (Scan.new source initial f) := by
  have passes : PassesOn Scan.source (fun this source => { this with source := source })
      Scan.react fun (this : Scan S F U) (course : Course T E) =>
        (⟨folds this.f this.acc course.values, course.ending⟩ : Course U E).events := {}
  exact makes_of_passOn passes (fun _ _ => rfl) course (Scan.new source initial f)

theorem makes_tap [FnMut F T Unit] (course : Course T E) (source : S) (f : F) :
    Makes enough course source course.events (Tap.new source f) := by
  have passes : PassesOn Tap.source (fun this source => { this with source := source })
      Tap.react fun (_ : Tap S F) (course : Course T E) => course.events := {}
  exact makes_of_passOn passes (fun _ _ => rfl) course (Tap.new source f)

theorem makes_finalize (course : Course T E) (source : S) (f : F) :
    Makes enough course source course.events (Finalize.new source f) := by
  have passes : PassesOn Finalize.source
      (fun this source => { this with source := source }) Finalize.react
      fun (_ : Finalize S F) (course : Course T E) => course.events := {}
  exact makes_of_passOn passes (fun _ _ => rfl) course (Finalize.new source f)

/-! ### filter, skip, distinct_until_changed -/

theorem makes_filter [FnMut F T Bool] (course : Course T E) (source : S) (f : F) :
    Makes enough course source
      (⟨accepted f course.values, course.ending⟩ : Course T E).events
      (Filter.new source f) := by
  have sieves : Sieves Filter.source (fun this source => { this with source := source })
      Filter.accept fun (this : Filter S F) (values : List T) => accepted this.f values :=
    { accept_source := fun _ _ => rfl
      kept_nil := fun _ => rfl
      kept_cons := fun _ _ _ => rfl }
  exact makes_of_sieve sieves (fun _ _ => rfl) course (Filter.new source f)

theorem makes_skip (course : Course T E) (source : S) (n : Nat) :
    Makes enough course source
      (⟨course.values.drop n, course.ending⟩ : Course T E).events (Skip.new source n) := by
  have sieves : Sieves Skip.source (fun this source => { this with source := source })
      Skip.accept fun (this : Skip S) (values : List T) => values.drop this.remaining :=
    { accept_source := fun this value => by
        rw [Skip.accept]
        split <;> rfl
      kept_nil := fun _ => List.drop_nil
      kept_cons := fun this value values => by
        match this with
        | ⟨source, 0⟩ => rfl
        | ⟨source, remaining + 1⟩ => rfl }
  exact makes_of_sieve sieves (fun _ _ => rfl) course (Skip.new source n)

/-- The values that differ from the last one kept before them. -/
def changed [DecidableEq T] : Option T → List T → List T
  | none, values => values.destutter (· ≠ ·)
  | some last, values => (values.destutter' (· ≠ ·) last).tail

theorem destutter'_eq_cons_changed [DecidableEq T] (last : T) (values : List T) :
    values.destutter' (· ≠ ·) last = last :: changed (some last) values := by
  rw [changed]
  induction values with
  | nil => rfl
  | cons value values ih =>
      rw [List.destutter'_cons]
      split
      · rfl
      · exact ih

theorem changed_cons_of_ne [DecidableEq T] {last value : T} (differs : last ≠ value)
    (values : List T) :
    changed (some last) (value :: values) = value :: changed (some value) values := by
  rw [changed, List.destutter'_cons_pos _ differs, destutter'_eq_cons_changed]
  rfl

theorem changed_cons_self [DecidableEq T] (value : T) (values : List T) :
    changed (some value) (value :: values) = changed (some value) values := by
  rw [changed, List.destutter'_cons_neg _ (not_not_intro rfl)]
  rfl

theorem makes_distinctUntilChanged [BEq T] [LawfulBEq T] [DecidableEq T]
    (course : Course T E) (source : S) :
    Makes enough course source
      (⟨course.values.destutter (· ≠ ·), course.ending⟩ : Course T E).events
      (DistinctUntilChanged.new source : DistinctUntilChanged S T) := by
  have sieves : Sieves DistinctUntilChanged.source
      (fun this source => { this with source := source }) DistinctUntilChanged.accept
      fun (this : DistinctUntilChanged S T) values => changed this.last values :=
    { accept_source := fun this value => by
        rw [DistinctUntilChanged.accept]
        split <;> rfl
      kept_nil := fun this => by
        match this with
        | ⟨_, none⟩ => rfl
        | ⟨_, some _⟩ => rfl
      kept_cons := fun this value values => by
        match this with
        | ⟨_, none⟩ => exact destutter'_eq_cons_changed value values
        | ⟨_, some last⟩ =>
            by_cases same : last = value
            · simp [DistinctUntilChanged.accept, changed_cons_self, same]
            · simp [DistinctUntilChanged.accept, changed_cons_of_ne, same] }
  exact makes_of_sieve sieves (fun _ _ => rfl) course (DistinctUntilChanged.new source)

/-! ### take -/

/-- The course of `take`: so many values and then `Complete`, if there are so many. -/
def Course.taken (n : Nat) (course : Course T E) : Course T E :=
  if n ≤ course.values.length then ⟨course.values.take n, .complete⟩ else course

theorem taken_zero (course : Course T E) : course.taken 0 = ⟨[], .complete⟩ := by
  rw [Course.taken, if_pos (Nat.zero_le _), List.take_zero]

theorem taken_succ_nil (n : Nat) (ending : StreamEnd E) :
    (⟨[], ending⟩ : Course T E).taken (n + 1) = ⟨[], ending⟩ :=
  if_neg (Nat.not_succ_le_zero n)

theorem events_taken_succ_cons (n : Nat) (value : T) (values : List T)
    (ending : StreamEnd E) :
    ((⟨value :: values, ending⟩ : Course T E).taken (n + 1)).events =
      .next value :: ((⟨values, ending⟩ : Course T E).taken n).events := by
  by_cases enough : n ≤ values.length <;> simp [Course.taken, Course.events, enough]

theorem makes_take (course : Course T E) (source : S) (n : Nat) :
    Makes enough course source (course.taken n).events (Take.new source n) := by
  refine makes_of_step Take.source
    (fun rest made (this : Take S) => this.done = false ∧ ∃ course, rest = some course ∧
      made = some (course.taken this.remaining).events)
    (fun made this => this.done = true ∧ made.getD [] = []) 1 ?_ ?_ ?_ _ (Take.new source n) ?_
  · rintro made this ⟨done, nothing⟩
    refine withinLeft_of_gone (fun this : Take S => this.done = true) ?_ nothing done
    intro cx this _ done
    exact ⟨this, if_pos done, done⟩
  · rintro left keeps _ _ ⟨source, remaining, done⟩ reads ⟨going, course, rfl, rfl⟩ cx ⟨good, -⟩
    cases going
    obtain ⟨answer, next, returned, told⟩ := reads cx good
    cases remaining with
    | zero =>
        -- the source is left alone
        rw [taken_zero]
        exact ⟨.ready (some .complete), _, rfl, rfl, Or.inr ⟨rfl, rfl⟩⟩
    | succ remaining =>
        have poll_eq := Take.pollNext.eq_def cx ⟨source, remaining + 1, false⟩
        simp only [returned] at poll_eq
        cases told with
        | pending here =>
            exact ⟨.pending, _, poll_eq, Or.inl ⟨_, here, rfl, course, rfl, rfl⟩⟩
        | value here =>
            rw [events_taken_succ_cons]
            exact ⟨_, _, poll_eq, rfl, Or.inl ⟨_, here, rfl, _, rfl, rfl⟩⟩
        | complete here =>
            rw [taken_succ_nil]
            exact ⟨_, _, poll_eq, rfl, Or.inr ⟨rfl, rfl⟩⟩
        | error here =>
            rw [taken_succ_nil]
            exact ⟨_, _, poll_eq, rfl, Or.inr ⟨rfl, rfl⟩⟩
        | closed here =>
            rw [taken_succ_nil]
            exact ⟨_, _, poll_eq, Or.inr ⟨rfl, rfl⟩⟩
  · rintro made this ⟨-, course, nothing, -⟩
    cases nothing
  · exact ⟨rfl, course, rfl, rfl⟩

/-! ### first_with -/

/-- The course of `first_with`: the first value accepted and then `Complete`, if there is
one, or else the end alone. -/
def Course.firstOf [FnMut F T Bool] (f : F) (course : Course T E) : Course T E :=
  match (accepted f course.values).head? with
  | some value => ⟨[value], .complete⟩
  | none => ⟨[], course.ending⟩

theorem firstOf_cons_accepted [FnMut F T Bool] {f : F} {value : T}
    (found : (FnMut.call f value).1 = true) (values : List T) (ending : StreamEnd E) :
    (⟨value :: values, ending⟩ : Course T E).firstOf f = ⟨[value], .complete⟩ := by
  rw [Course.firstOf, accepted, if_pos found]
  rfl

theorem firstOf_cons_refused [FnMut F T Bool] {f : F} {value : T}
    (refused : (FnMut.call f value).1 = false) (values : List T) (ending : StreamEnd E) :
    (⟨value :: values, ending⟩ : Course T E).firstOf f =
      (⟨values, ending⟩ : Course T E).firstOf (FnMut.call f value).2 := by
  rw [Course.firstOf, accepted, refused, if_neg Bool.false_ne_true]
  rfl

/-- Still looking for the first value. -/
def Searching [FnMut F T Bool] (bound : Nat) (rest : Option (Course T E))
    (made : Option (List (Event T E))) (this : First S F) : Prop :=
  this.done = false ∧ this.completed = false ∧ valuesLeft rest ≤ bound ∧
    made = rest.map fun course => (course.firstOf this.f).events

/-- The value was found, or the terminal event was answered. -/
def Found (made : Option (List (Event T E))) (this : First S F) : Prop :=
  (this.done = true ∧ made.getD [] = []) ∨
    (this.done = false ∧ this.completed = true ∧ made = some [.complete])

theorem withinLeft_of_found [FnMut F T Bool] {enough : Context → Prop}
    {made : Option (List (Event T E))} {this : First S F} (found : Found made this) :
    WithinLeft pollNext enough 2 made this := by
  have drained : ∀ {made : Option (List (Event T E))} {this : First S F}, this.done = true →
      made.getD [] = [] → WithinLeft pollNext enough 1 made this := by
    intro made this done nothing
    refine withinLeft_of_gone (fun this : First S F => this.done = true) ?_ nothing done
    intro cx this _ done
    exact ⟨this, if_pos done, done⟩
  rcases found with ⟨done, nothing⟩ | ⟨going, completed, rfl⟩
  · exact (drained done nothing).succ
  · have after : WithinLeft pollNext enough 1 (some [])
        { this with done := true } := drained rfl rfl
    refine after.cons fun cx => ?_
    rw [pollNext, First.instPollStreamEvent]
    simp [First.pollNext, going, completed]

/-- The loop asks about values until one is accepted or there is something else to
answer. -/
theorem loop_first [FnMut F T Bool] {left : Option (Course T E) → S → Prop}
    (keeps : ∀ course source, left course source → Reads enough left course source)
    {cx : Context} (good : enough cx) {bound turns : Nat} {rest : Option (Course T E)}
    {made : Option (List (Event T E))} {this : First S F}
    (reads : Reads enough left rest this.source) (searching : Searching bound rest made this)
    (enoughTurns : valuesLeft rest < turns) :
    ∃ answer after, loop (First.turn cx) turns this = some (answer, after) ∧
      Heard (fun made after =>
        (∃ later, left later after.source ∧ Searching bound later made after) ∨
          Found made after) made answer after := by
  induction turns generalizing rest this made with
  | zero => exact absurd enoughTurns (Nat.not_lt_zero _)
  | succ turns ih =>
      obtain ⟨going, fresh, few, rfl⟩ := searching
      obtain ⟨answer, next, returned, told⟩ := reads cx good
      rw [loop, First.turn, returned]
      cases told with
      | pending here =>
          exact ⟨.pending, _, rfl, Or.inl ⟨rest, here, going, fresh, few, rfl⟩⟩
      | @value value values ending _ here =>
          cases verdict : (FnMut.call this.f value).1 with
          | true =>
              rw [Option.map_some, firstOf_cons_accepted verdict]
              simp only [verdict, ↓reduceIte]
              exact ⟨_, _, rfl, rfl, Or.inr (Or.inr ⟨going, rfl, rfl⟩)⟩
          | false =>
              rw [Option.map_some, firstOf_cons_refused verdict]
              simp only [verdict, Bool.false_eq_true, ↓reduceIte]
              exact ih (keeps _ _ here)
                ⟨going, fresh, (Nat.le_succ _).trans few, rfl⟩
                (Nat.lt_of_succ_lt_succ enoughTurns)
      | complete here => exact ⟨_, _, rfl, rfl, Or.inr (Or.inl ⟨rfl, rfl⟩)⟩
      | error here => exact ⟨_, _, rfl, rfl, Or.inr (Or.inl ⟨rfl, rfl⟩)⟩
      | closed here => exact ⟨_, _, rfl, Or.inl ⟨none, here, going, fresh, few, rfl⟩⟩
      | ended here => exact ⟨_, _, rfl, Or.inl ⟨none, here, going, fresh, few, rfl⟩⟩

theorem makes_first [FnMut F T Bool] (course : Course T E) (source : S) (f : F) :
    Makes enough course source (course.firstOf f).events (First.new source f) := by
  refine makes_of_step First.source (Searching course.values.length) Found 2
    (fun _ _ => withinLeft_of_found) ?_ (fun _ _ nothing => nothing.2.2.2) _
    (First.new source f) ⟨rfl, rfl, le_rfl, rfl⟩
  rintro left keeps rest made this reads searching cx ⟨good, turns⟩
  have poll_eq : pollNext cx this = loop (First.turn cx) cx.turns this := by
    rw [pollNext, First.instPollStreamEvent]
    simp [First.pollNext, searching.1, searching.2.1]
  rw [poll_eq]
  exact loop_first keeps good reads searching (searching.2.2.1.trans_lt turns)

/-! ### start_with -/

theorem makes_startWith (course : Course T E) (source : S) (value : T) :
    Makes enough course source (.next value :: course.events)
      (StartWith.new source value) := by
  have passes : Makes enough course source course.events
      ({ source := source, first := none } : StartWith S T) := by
    refine makes_of_step StartWith.source
      (fun rest made this => this.first = none ∧ made = rest.map Course.events)
      (fun _ _ => False) 0 nofun ?_ (fun _ _ nothing => nothing.2) _
      { source := source, first := none } ⟨rfl, rfl⟩
    rintro left keeps rest _ ⟨source, first⟩ reads ⟨rfl, rfl⟩ cx ⟨good, -⟩
    obtain ⟨answer, next, returned, told⟩ := reads cx good
    have poll_eq := StartWith.pollNext.eq_def cx ⟨source, none⟩
    simp only [returned] at poll_eq
    exact ⟨answer, { source := next, first := none }, poll_eq,
      told.passed fun rest here => Or.inl ⟨rest, here, rfl, rfl⟩⟩
  exact Follows.cons (fun _ => rfl) passes

/-! ### The hook of finalize -/

theorem finalize_poll_ran {cx : Context} {this next : Finalize S F}
    {answer : Answer T E}
    (polled : pollNext cx this = some (answer, next)) :
    (concludes answer = true ∧ next.f = none ∧ next.ran = this.ran ++ this.f.toList) ∨
      (concludes answer = false ∧ next.f = this.f ∧ next.ran = this.ran) := by
  rw [pollNext, Finalize.instPollStreamEvent] at polled
  simp only [Finalize.pollNext, passOn] at polled
  split at polled
  · cases polled
  · cases polled
    exact Or.inr ⟨rfl, rfl, rfl⟩
  · rename_i item source _
    match item with
    | none =>
        cases polled
        exact Or.inl ⟨rfl, rfl, rfl⟩
    | some (.next value) =>
        cases polled
        exact Or.inr ⟨rfl, rfl, rfl⟩
    | some .complete =>
        cases polled
        exact Or.inl ⟨rfl, rfl, rfl⟩
    | some (.error err) =>
        cases polled
        exact Or.inl ⟨rfl, rfl, rfl⟩

/-- The hook runs at the terminal event or at the end, and only once. -/
theorem finalize_ran {contexts : List Context} {this final : Finalize S F}
    {answers : List (Answer T E)}
    (returned : pollAll pollNext contexts this = some (answers, final)) :
    final.ran = if answers.any concludes then this.ran ++ this.f.toList else this.ran := by
  refine pollAll_rule (fun this answers final => final.ran =
    if answers.any concludes then this.ran ++ this.f.toList else this.ran) (fun _ => rfl) ?_
    returned
  intro cx this answer next answers final polled later
  rcases finalize_poll_ran polled with ⟨drained, taken, ran⟩ | ⟨going, kept, ran⟩
  · rw [later, List.any_cons, drained, Bool.true_or, if_pos rfl, taken, ran]
    simp
  · rw [later, List.any_cons, going, Bool.false_or, kept, ran]

/-! ### Leaving the source alone -/

theorem emitted_terminal {event : Event T E} (terminal : ∀ value, event ≠ .next value) :
    emitted [.ready (some event)] = [] := by
  match event with
  | .next value => exact absurd rfl (terminal value)
  | .complete | .error _ => rfl

theorem take_poll_remaining {cx : Context} {this next : Take S}
    {answer : Answer T E}
    (polled : pollNext cx this = some (answer, next)) :
    (emitted [answer]).length + next.remaining = this.remaining := by
  rw [pollNext, Take.instPollStreamEvent] at polled
  simp only [Take.pollNext] at polled
  split at polled
  · cases polled
    exact Nat.zero_add _
  · split at polled
    · cases polled
      exact Nat.zero_add _
    · rename_i more
      split at polled
      · cases polled
      · cases polled
        exact Nat.add_sub_cancel' (Nat.pos_of_ne_zero more)
      · rename_i other _ terminal _
        cases polled
        rw [emitted_terminal fun value same => terminal value (same ▸ rfl)]
        exact Nat.zero_add _
      · cases polled
        exact Nat.zero_add _
      · cases polled
        exact Nat.zero_add _

theorem take_remaining {contexts : List Context} {this final : Take S}
    {answers : List (Answer T E)}
    (returned : pollAll pollNext contexts this = some (answers, final)) :
    (emitted answers).length + final.remaining = this.remaining := by
  refine pollAll_rule (fun this answers final =>
    (emitted answers).length + final.remaining = this.remaining) ?_ ?_ returned
  · exact fun _ => Nat.zero_add _
  · intro cx this answer next answers final polled later
    rw [← List.singleton_append, emitted_append, List.length_append, Nat.add_assoc, later]
    exact take_poll_remaining polled

/-- With nothing remaining, `take` answers without its source. -/
theorem take_rests {this : Take S} (spent : this.remaining = 0) (contexts : List Context) :
    ∃ answers final, pollAll pollNext contexts this = some (answers, final) ∧
      final.source = this.source := by
  let rests (next : Take S) : Prop := next.remaining = 0 ∧ next.source = this.source
  have keeps : ∀ cx next, rests next →
      ∃ answer after, pollNext cx next = some (answer, after) ∧ rests after := by
    rintro cx next ⟨spent, same⟩
    by_cases done : next.done = true
    · exact ⟨_, _, if_pos done, spent, same⟩
    · exact ⟨_, _, (if_neg done).trans (if_pos spent), spent, same⟩
  obtain ⟨answers, final, returned, -, same⟩ := pollAll_of_keeps rests keeps contexts ⟨spent, rfl⟩
  exact ⟨answers, final, returned, same⟩

theorem first_poll_completed [FnMut F T Bool] {cx : Context} {this next : First S F}
    {answer : Answer T E}
    (polled : pollNext cx this = some (answer, next)) :
    (emitted [answer] ≠ [] → next.completed = true) ∧
      (this.completed = true → next.completed = true) := by
  rw [pollNext, First.instPollStreamEvent] at polled
  simp only [First.pollNext] at polled
  split at polled
  · cases polled
    exact ⟨fun some => absurd rfl some, id⟩
  · split at polled
    · cases polled
      exact ⟨fun some => absurd rfl some, id⟩
    · rename_i fresh
      refine ⟨?_, fun completed => absurd completed fresh⟩
      obtain ⟨last, turned⟩ := loop_leaves polled
      rw [First.turn] at turned
      split at turned
      · cases turned
      · split at turned
        rename_i found f _
        split at turned
        · cases turned
          exact fun _ => rfl
        · cases turned
      · rename_i other _ terminal _
        cases turned
        rw [emitted_terminal fun value same => terminal value (same ▸ rfl)]
        exact fun some => absurd rfl some
      · cases turned
        exact fun some => absurd rfl some
      · cases turned
        exact fun some => absurd rfl some

theorem first_completed [FnMut F T Bool] {contexts : List Context} {this final : First S F}
    {answers : List (Answer T E)}
    (returned : pollAll pollNext contexts this = some (answers, final)) :
    (emitted answers ≠ [] → final.completed = true) ∧
      (this.completed = true → final.completed = true) := by
  refine pollAll_rule (fun (this : First S F) answers final =>
    (emitted answers ≠ [] → final.completed = true) ∧
      (this.completed = true → final.completed = true)) ?_ ?_ returned
  · exact fun _ => ⟨fun some => absurd rfl some, id⟩
  · intro cx this answer next answers final polled later
    have now := first_poll_completed polled
    refine ⟨fun some => ?_, fun completed => later.2 (now.2 completed)⟩
    rw [← List.singleton_append, emitted_append] at some
    by_cases here : emitted [answer] = []
    · rw [here] at some
      exact later.1 some
    · exact later.2 (now.1 here)

/-- With its value emitted, `first_with` answers without its source. -/
theorem first_rests [FnMut F T Bool] {this : First S F} (completed : this.completed = true)
    (contexts : List Context) :
    ∃ answers final, pollAll pollNext contexts this = some (answers, final) ∧
      final.source = this.source := by
  let rests (next : First S F) : Prop := next.completed = true ∧ next.source = this.source
  have keeps : ∀ cx next, rests next →
      ∃ answer after, pollNext cx next = some (answer, after) ∧ rests after := by
    rintro cx next ⟨completed, same⟩
    by_cases done : next.done = true
    · exact ⟨_, _, if_pos done, completed, same⟩
    · exact ⟨_, _, (if_neg done).trans (if_pos completed), completed, same⟩
  obtain ⟨answers, final, returned, -, same⟩ :=
    pollAll_of_keeps rests keeps contexts ⟨completed, rfl⟩
  exact ⟨answers, final, returned, same⟩

/-! ### All of them -/

/-- What the unary operators make of a source with this course. -/
structure UnaryOperators (enough : Context → Prop) (course : Course T E) (source : S) :
    Prop where
  map : ∀ {U F : Type} [FnMut F T U] (f : F), Makes enough course source
    (⟨calls f course.values, course.ending⟩ : Course U E).events (Map.new source f)
  mapErr : ∀ {E2 F : Type} [FnMut F E E2] (f : F), Makes enough course source
    (⟨course.values, course.ending.mapErr f⟩ : Course T E2).events (MapErr.new source f)
  filter : ∀ {F : Type} [FnMut F T Bool] (f : F), Makes enough course source
    (⟨accepted f course.values, course.ending⟩ : Course T E).events (Filter.new source f)
  take : ∀ n, Makes enough course source (course.taken n).events (Take.new source n)
  skip : ∀ n, Makes enough course source
    (⟨course.values.drop n, course.ending⟩ : Course T E).events (Skip.new source n)
  scan : ∀ {U F : Type} [FnMut F (U × T) U] (initial : U) (f : F),
    Makes enough course source
      (⟨folds f initial course.values, course.ending⟩ : Course U E).events
      (Scan.new source initial f)
  distinctUntilChanged : ∀ [BEq T] [LawfulBEq T] [DecidableEq T],
    Makes enough course source
      (⟨course.values.destutter (· ≠ ·), course.ending⟩ : Course T E).events
      (DistinctUntilChanged.new source : DistinctUntilChanged S T)
  firstWith : ∀ {F : Type} [FnMut F T Bool] (f : F), Makes enough course source
    (course.firstOf f).events (First.new source f)
  startWith : ∀ value, Makes enough course source (.next value :: course.events)
    (StartWith.new source value)
  tap : ∀ {F : Type} [FnMut F T Unit] (f : F), Makes enough course source course.events
    (Tap.new source f)
  finalize : ∀ {F : Type} (f : F), Makes enough course source course.events
    (Finalize.new source f)
  /-- The hook has run once the terminal event or the end was answered, and once. -/
  finalizeRan : ∀ {F : Type} (f : F) contexts answers final,
    pollAll pollNext contexts (Finalize.new source f) = some (answers, final) →
      final.ran = if answers.any (concludes (T := T) (E := E)) then [f] else []
  /-- Once `take` has emitted its last value, the source is polled no more. -/
  takeRests : ∀ n contexts answers next,
    pollAll pollNext contexts (Take.new (Metered.mk source 0) n) =
        some (answers, next) →
      (emitted (T := T) (E := E) answers).length = n → ∀ later, ∃ rest final,
        pollAll pollNext later next =
            some ((rest : List (Answer T E)), final) ∧
          final.source.polls = next.source.polls
  /-- Once `first_with` has emitted its value, the source is polled no more. -/
  firstWithRests : ∀ {F : Type} [FnMut F T Bool] (f : F) contexts answers next,
    pollAll pollNext contexts (First.new (Metered.mk source 0) f) =
        some (answers, next) →
      emitted (T := T) (E := E) answers ≠ [] → ∀ later, ∃ rest final,
        pollAll pollNext later next =
            some ((rest : List (Answer T E)), final) ∧
          final.source.polls = next.source.polls

/-- The unary operators are list functions, whatever the schedule. -/
theorem unary_operators_are_list_functions (enough : Context → Prop)
    (course : Course T E) (source : S) : UnaryOperators enough course source where
  map := makes_map course source
  mapErr := makes_mapErr course source
  filter := makes_filter course source
  take := makes_take course source
  skip := makes_skip course source
  scan := makes_scan course source
  distinctUntilChanged := makes_distinctUntilChanged course source
  firstWith := makes_first course source
  startWith := makes_startWith course source
  tap := makes_tap course source
  finalize := makes_finalize course source
  finalizeRan := fun f contexts answers final returned => finalize_ran returned
  takeRests := by
    intro n contexts answers next returned all later
    have count : (emitted answers).length + next.remaining = n := take_remaining returned
    have spent : next.remaining = 0 := by omega
    obtain ⟨rest, final, rested, same⟩ := take_rests (T := T) (E := E) spent later
    exact ⟨rest, final, rested, congrArg Metered.polls same⟩
  firstWithRests := by
    intro F _ f contexts answers next returned some later
    obtain ⟨rest, final, rested, same⟩ :=
      first_rests ((first_completed returned).1 some) later
    exact ⟨rest, final, rested, congrArg Metered.polls same⟩

end Operators

/-- Three values and a `Complete`, with a pause before each. -/
theorem unary_operators_of_three_values :
    let source : Source (Event Nat Unit) :=
      { items := [.next 1, .next 2, .next 2, .complete]
        schedule := fun n => n % 2 == 1 }
    let enough : Context → Prop := fun cx => True ∧ 3 < cx.turns
    Drains pollNext enough [.next 10, .next 20, .next 20, .complete]
        (Map.new source fun value => 10 * value) ∧
      Drains pollNext enough [.next 1, .next 2, .complete]
        (DistinctUntilChanged.new source : DistinctUntilChanged _ Nat) ∧
      Drains pollNext enough [.next 2, .next 2, .complete]
        (Skip.new source 1) := by
  intro source enough
  have operators := unary_operators_are_list_functions (fun _ => True)
    (⟨[1, 2, 2], .complete⟩ : Course Nat Unit) source
  have drains : Drains pollNext (fun _ : Context => True) source.items source := by
    refine Source.drains source fun k => ⟨(k + 1) % 2, ?_⟩
    have odd : (k + (k + 1) % 2) % 2 = 1 := by omega
    exact beq_iff_eq.mpr odd
  exact ⟨(operators.map _).drains drains, operators.distinctUntilChanged.drains drains,
    (operators.skip 1).drains drains⟩

end IceRpc.Rx
