/-
Module: IceRpc.Proofs.RetryAttempts
Purpose: `retry_with` runs at most as many attempts as its policy allows, one after the
  other: an attempt starts when the one before has failed and the pause in between is
  past, and what is emitted are the values of all of them, with the end of the last.
Trusted boundary: human-reviewed spec for the marks
Main exports: RetryPolicy.eligible, Retrying.marks, InTurn, Trying, Retries, Retried,
  retry_turn, retry_poll, retry_run, retry_ends, BoundedRetries,
  retry_with_runs_bounded_attempts
-/
import Mathlib.Algebra.Group.Action.Defs
import Mathlib.Algebra.Order.BigOperators.Group.List
import Mathlib.Algebra.Order.Ring.Nat
import IceRpc.Lib.Awaiting
import IceRpc.Rx.Course
import IceRpc.Rx.Transform.ErrorHandling

namespace IceRpc.Rx

open Lib
open PollFuture (poll)
open PollStream (pollNext)

variable {G Fut P T E : Type}

/-! ### The policy -/

/-- The most attempts a policy allows. -/
def RetryPolicy.most (policy : RetryPolicy) : Nat := max policy.attempts 1

/-- The ends that earn another attempt: any error, or only a retryable technical one. -/
def RetryPolicy.eligible (policy : RetryPolicy) : StreamEnd E → Bool
  | .error (.technical transport) => !policy.onlyRetryable || transport.isRetryable
  | .error _ => !policy.onlyRetryable
  | .complete | .closed => false

theorem shouldRetry_iff {attempts : Nat} {policy : RetryPolicy} {err : ObservableError E} :
    shouldRetry attempts policy err = true ↔
      attempts < policy.most ∧ policy.eligible (.error err) = true := by
  unfold shouldRetry RetryPolicy.most
  split
  · rename_i enough
    exact ⟨nofun, fun both => absurd both.1 (Nat.not_lt_of_le enough)⟩
  · rename_i fewer
    rw [and_iff_right (Nat.lt_of_not_le fewer)]
    cases only : policy.onlyRetryable <;> cases err <;>
      simp [RetryPolicy.eligible, only]

/-! ### What a turn does -/

/-- What is noted of a run besides its answers. -/
inductive RetryMark (E : Type) where
  /-- A sleep of this duration has fired. -/
  | fired (duration : Nat)
  /-- The factory was called for an attempt. -/
  | started
  /-- The error of the attempt was read. -/
  | failed (err : ObservableError E)
deriving Repr, DecidableEq

def RetryMark.isStarted : RetryMark E → Bool
  | .started => true
  | _ => false

namespace Retrying

variable [PollStream P (Event T E)] [FnMut G Unit Fut] [PollFuture Fut P]

/-- The stream of the attempt, once its future had its poll. -/
def awaited (cx : Context) (this : Retrying G Fut P) : Option P :=
  match this.pending with
  | none => this.stream
  | some future =>
      match PollFuture.poll cx future with
      | (.ready stream, _) => some stream
      | (.pending, _) => none

def errorMarks (cx : Context) : Option P → List (RetryMark E)
  | none => []
  | some stream =>
      match PollStream.pollNext cx stream with
      | some (.ready (some (.error err)), _) => [.failed err]
      | _ => []

def attemptMarks (cx : Context) (this : Retrying G Fut P) : List (RetryMark E) :=
  (if this.pending.isNone && this.stream.isNone then [.started] else []) ++
    errorMarks cx (this.startAttempt.awaited cx)

/-- The marks of a turn. -/
def marks (cx : Context) (this : Retrying G Fut P) : List (RetryMark E) :=
  if this.finished then []
  else
    match this.sleep with
    | none => this.attemptMarks cx
    | some sleep =>
        match PollFuture.poll cx sleep with
        | (.ready _, _) =>
            .fired sleep.duration :: attemptMarks cx { this with sleep := none }
        | (.pending, _) => []

/-- The marks of a poll. -/
def pollMarks (cx : Context) (this : Retrying G Fut P) : List (RetryMark E) :=
  loopNotes (marks cx) (turn cx) cx.turns this

end Retrying

/-! ### The order of things -/

inductive RetryStage where
  /-- The next attempt may start. -/
  | ready
  | running
  /-- The pause before the next attempt is not past. -/
  | pausing
  /-- The last error was passed on. -/
  | gaveUp
deriving Repr, DecidableEq

/-- What comes after an error that earns another attempt. -/
def RetryPolicy.afterFailure (policy : RetryPolicy) : RetryStage :=
  if policy.delay > 0 then .pausing else .ready

/-- Marks in the right order: an attempt starts first of all, or after the one before has
failed and, with a delay, after a sleep of that delay has fired. -/
inductive InTurn (policy : RetryPolicy) : RetryStage → List (RetryMark E) → Prop
  | first : InTurn policy .ready []
  | started {marks : List (RetryMark E)} : InTurn policy .ready marks →
      InTurn policy .running (marks ++ [.started])
  | retried {marks : List (RetryMark E)} {err : ObservableError E} :
      InTurn policy .running marks → InTurn policy policy.afterFailure (marks ++ [.failed err])
  | gaveUp {marks : List (RetryMark E)} {err : ObservableError E} :
      InTurn policy .running marks → InTurn policy .gaveUp (marks ++ [.failed err])
  | fired {marks : List (RetryMark E)} : InTurn policy .pausing marks →
      InTurn policy .ready (marks ++ [.fired policy.delay])

/-! ### The attempts -/

/-- The future of the factory for the attempt with this index. -/
def nthFuture [FnMut G Unit Fut] (factory : G) (index : Nat) : Fut :=
  (FnMut.call (called factory (List.replicate index ())) ()).1

/-- The sleep before the attempt with this index, which is not the first. -/
def pauseBefore (policy : RetryPolicy) (runtime : Runtime) (index : Nat) : Sleep :=
  { duration := policy.delay, fires := runtime.timers.get (index - 1), waker := none }

/-- The runtime after so many failures. -/
def runtimeAfter (policy : RetryPolicy) (runtime : Runtime) (failures : Nat) : Runtime :=
  if policy.delay > 0 then { runtime with timers := runtime.timers.drop failures } else runtime

theorem duration_of_awaits {enough : Context → Prop} {policy : RetryPolicy} {runtime : Runtime}
    {index rests : Nat} {sleep : Sleep}
    (awaits : Awaits poll enough (pauseBefore policy runtime index) rests sleep) :
    sleep.duration = policy.delay := by
  induction awaits with
  | refl => rfl
  | wait _ _ polled ih =>
      rw [← ih]
      simp only [poll] at polled
      split at polled
      · cases polled
      · cases polled
        rfl

/-- An attempt: the `Pending`s of the sleep before it and of its future, its stream, and
what that has answered. -/
structure Trial (P T E : Type) where
  rests : Nat
  waits : Nat
  stream : P
  heard : List (Answer T E)

/-- The polls that an attempt has taken. -/
def Trial.polls (trial : Trial P T E) : Nat :=
  trial.rests + trial.waits + trial.heard.length

theorem polls_snoc (rests waits : Nat) (stream : P) (heard : List (Answer T E))
    (answer : Answer T E) :
    Trial.polls ⟨rests, waits, stream, heard ++ [answer]⟩ =
      Trial.polls ⟨rests, waits, stream, heard⟩ + 1 := by
  simp only [Trial.polls, List.length_append, List.length_singleton, Nat.add_assoc]

section Attempts

variable [PollStream P (Event T E)] [FnMut G Unit Fut] [PollFuture Fut P]

section

variable (enough : Context → Prop) (factory : G) (policy : RetryPolicy) (runtime : Runtime)
  (course : P → Course T E)

/-- So many `Pending`s of the sleep before the attempt. -/
def Rested (index rests : Nat) : Prop :=
  rests = 0 ∨ 0 < policy.delay ∧
    ∃ sleep, Awaits poll enough (pauseBefore policy runtime index) rests sleep

/-- An attempt that has failed with an error that earns another. -/
def FailedAt (index : Nat) (trial : Trial P T E) : Prop :=
  Rested enough policy runtime index trial.rests ∧
    YieldsAfter poll enough (nthFuture factory index : Fut) trial.waits
      trial.stream ∧
    (∃ state, Reached pollNext enough trial.stream trial.heard state) ∧
    ∃ err, StoppedWith (some (.error err)) trial.heard ∧
      shouldRetry (index + 1) policy err = true

/-- The state after so many failures and calls of the factory. -/
def retryingAt (failures attempts : Nat) (pending : Option Fut) (stream : Option P)
    (sleep : Option Sleep) : Retrying G Fut P :=
  { factory := called factory (List.replicate attempts ()), policy := policy,
    attempts := attempts, pending := pending, stream := stream, sleep := sleep,
    finished := false, runtime := runtimeAfter policy runtime failures }

/-- Where the attempt after so many failures is: the stage, the polls it has taken, and what
its stream has answered. -/
inductive Trying (failures : Nat) :
    RetryStage → Nat → List (Answer T E) → Retrying G Fut P → Prop
  | ready {rests : Nat} : Rested enough policy runtime failures rests →
      Trying failures .ready rests []
        (retryingAt factory policy runtime failures failures none none none)
  | pausing {rests : Nat} {sleep : Sleep} : 0 < policy.delay →
      Awaits poll enough (pauseBefore policy runtime failures) rests sleep →
      Trying failures .pausing rests []
        (retryingAt factory policy runtime failures failures none none (some sleep))
  | waiting {rests waits : Nat} {future : Fut} :
      Rested enough policy runtime failures rests →
      Awaits poll enough (nthFuture factory failures) waits future →
      Trying failures .running (rests + waits) []
        (retryingAt factory policy runtime failures (failures + 1) (some future) none none)
  | streaming {rests waits : Nat} {stream now : P}
      {heard : List (Answer T E)} :
      Rested enough policy runtime failures rests →
      YieldsAfter poll enough (nthFuture factory failures : Fut) waits stream →
      Reached pollNext enough stream heard now → Ongoing heard →
      Trying failures .running
        (Trial.polls ⟨rests, waits, stream, heard⟩) heard
        (retryingAt factory policy runtime failures (failures + 1) none (some now) none)

/-- A `retry_with` that is going on: the attempts that have failed, where the one after them
is, and what was answered and noted. -/
structure Retries (answers : List (Answer T E)) (marks : List (RetryMark E))
    (failed : List (Trial P T E)) (stage : RetryStage) (spent : Nat)
    (heard : List (Answer T E)) (this : Retrying G Fut P) : Prop where
  trying : Trying enough factory policy runtime failed.length stage spent heard this
  failures : ∀ index trial, failed[index]? = some trial →
    FailedAt enough factory policy runtime index trial
  ongoing : Ongoing answers
  spoken : emitted answers = (failed.flatMap fun trial => emitted trial.heard) ++ emitted heard
  inTurn : InTurn policy stage marks
  starts : marks.countP RetryMark.isStarted = this.attempts
  count : answers.length ≤ (failed.map Trial.polls).sum + spent

/-! ### What was emitted -/

/-- Every stream that a future of the factory may yield is served, with this course. -/
def Produces : Prop :=
  ∀ index stream, Yields poll enough (nthFuture factory index) stream →
    Serves pollNext enough (course stream).events stream

/-- Attempts one after the other that each earned another one. -/
def Earned (streams : List P) : Prop :=
  ∀ index stream, streams[index]? = some stream →
    Yields poll enough (nthFuture factory index) stream ∧
      index + 1 < policy.most ∧ policy.eligible (course stream).ending = true

/-- All values of attempts one after the other. -/
def allValues (streams : List P) : List T :=
  streams.flatMap fun stream => (course stream).values

/-- No end so far: all values of the attempts that have failed, and first values of the one
after them. -/
def GoingOn (answers : List (Answer T E)) : Prop :=
  ∃ streams values, Earned enough factory policy course streams ∧ Ongoing answers ∧
    emitted answers = allValues course streams ++ values ∧
    (values = [] ∨ ∃ stream,
      Yields poll enough (nthFuture factory streams.length) stream ∧
        values <+: (course stream).values)

/-- The end: all values of all attempts, and the end of the last, which did not earn another
one or was the last that is allowed. -/
def Retried (answers : List (Answer T E)) : Prop :=
  ∃ streams stream before ends, Earned enough factory policy course streams ∧
    Yields poll enough (nthFuture factory streams.length) stream ∧
    (policy.eligible (course stream).ending = true → streams.length + 1 = policy.most) ∧
    answers = before ++ .ready (course stream).ending.last ::
      List.replicate ends (.ready none) ∧
    Ongoing before ∧ emitted before = allValues course (streams ++ [stream])

omit [PollStream P (Event T E)] [PollFuture Fut P] in
/-- The factory was called for the attempts that were started, in their turn, and no more
often than the policy allows. -/
structure Counted (marks : List (RetryMark E)) (this : Retrying G Fut P) : Prop where
  inTurn : ∃ stage, InTurn policy stage marks
  starts : marks.countP RetryMark.isStarted = this.attempts
  bound : this.attempts ≤ policy.most
  factory : this.factory = called factory (List.replicate this.attempts ())

end

variable {enough : Context → Prop} {factory : G} {policy : RetryPolicy} {runtime : Runtime}
  {answers heard : List (Answer T E)} {marks : List (RetryMark E)}
  {failed : List (Trial P T E)} {stage : RetryStage} {spent : Nat} {this next : Retrying G Fut P}
  {course : P → Course T E} {cx : Context}

theorem FailedAt.earned {index : Nat} {trial : Trial P T E}
    (failed : FailedAt enough factory policy runtime index trial)
    (produces : Produces enough factory course) :
    Yields poll enough (nthFuture factory index) trial.stream ∧
      index + 1 < policy.most ∧ policy.eligible (course trial.stream).ending = true ∧
      emitted trial.heard = (course trial.stream).values := by
  obtain ⟨-, yields, ⟨state, reached⟩, err, stopped, again⟩ := failed
  have yielded := yields.yields
  obtain ⟨fewer, eligible⟩ := shouldRetry_iff.mp again
  have served := produces index trial.stream yielded
  obtain ⟨all, last⟩ := stopped_of_reached served reached stopped rfl
  have same : (StreamEnd.error err).last =
    ((course trial.stream).ending.last : Option (Event T E)) := last
  rw [StreamEnd.last_injective same] at eligible
  exact ⟨yielded, fewer, eligible, all⟩

section

variable (retries :
  Retries enough factory policy runtime answers marks failed stage spent heard this)
include retries

theorem Retries.earned (produces : Produces enough factory course) :
    Earned enough factory policy course (failed.map Trial.stream) := by
  intro index stream listed
  rw [List.getElem?_map] at listed
  obtain ⟨trial, there, rfl⟩ := Option.map_eq_some_iff.mp listed
  obtain ⟨yielded, fewer, eligible, -⟩ := (retries.failures index trial there).earned produces
  exact ⟨yielded, fewer, eligible⟩

theorem Retries.allValues (produces : Produces enough factory course) :
    (failed.flatMap fun trial => emitted trial.heard) =
      Rx.allValues course (failed.map Trial.stream) := by
  rw [Rx.allValues, List.flatMap_map]
  refine List.flatMap_congr fun trial listed => ?_
  obtain ⟨index, there⟩ := List.mem_iff_getElem?.mp listed
  exact ((retries.failures index trial there).earned produces).2.2.2

theorem Retries.failed_lt : failed.length < policy.most := by
  rcases List.eq_nil_or_concat failed with rfl | ⟨before, trial, rfl⟩
  · exact Nat.le_max_right ..
  · rw [List.concat_eq_append] at retries ⊢
    obtain ⟨-, -, -, err, -, again⟩ :=
      retries.failures before.length trial List.getElem?_concat_length
    rw [List.length_append]
    exact (shouldRetry_iff.mp again).1

theorem Retries.goingOn (produces : Produces enough factory course) :
    GoingOn enough factory policy course answers := by
  refine ⟨failed.map Trial.stream, emitted heard, retries.earned produces, retries.ongoing,
    ?_, ?_⟩
  · rw [retries.spoken, retries.allValues produces]
  · rw [List.length_map]
    cases retries.trying with
    | ready | pausing | waiting => exact Or.inl rfl
    | streaming _ yields reached _ =>
        have served := produces _ _ yields.yields
        exact Or.inr ⟨_, yields.yields, emitted_prefix_of_reached served reached⟩

theorem Retries.counted : Counted factory policy marks this where
  inTurn := ⟨stage, retries.inTurn⟩
  starts := retries.starts
  bound := by
    have fewer := retries.failed_lt
    cases retries.trying with
    | ready | pausing => exact Nat.le_of_lt fewer
    | waiting | streaming => exact fewer
  factory := by
    cases retries.trying <;> rfl

/-! ### The moves -/

/-- An answer that is no end. -/
theorem Retries.answer {answer : Answer T E} {now : List (Answer T E)} {more : Nat}
    (trying : Trying enough factory policy runtime failed.length stage more now next)
    (once : more = spent + 1) (goes : concludes answer = false)
    (spoken : emitted now = emitted heard ++ emitted [answer])
    (same : next.attempts = this.attempts) :
    Retries enough factory policy runtime (answers ++ [answer]) marks failed stage more now
      next where
  trying := trying
  failures := retries.failures
  ongoing := retries.ongoing.snoc goes
  spoken := by
    rw [emitted_append, retries.spoken, spoken, List.append_assoc]
  inTurn := retries.inTurn
  starts := retries.starts.trans same.symm
  count := by
    have counted := retries.count
    rw [List.length_append, List.length_singleton]
    omega

/-- A move without an answer. -/
theorem Retries.move {more : List (RetryMark E)} {later : RetryStage}
    (trying : Trying enough factory policy runtime failed.length later spent heard next)
    (inTurn : InTurn policy later (marks ++ more))
    (starts : next.attempts = this.attempts + more.countP RetryMark.isStarted) :
    Retries enough factory policy runtime answers (marks ++ more) failed later spent heard
      next where
  trying := trying
  failures := retries.failures
  ongoing := retries.ongoing
  spoken := retries.spoken
  inTurn := inTurn
  starts := by rw [List.countP_append, retries.starts, starts]
  count := retries.count

end

/-- The sleep has fired. -/
theorem Retries.wake {sleep : Sleep}
    (retries : Retries enough factory policy runtime answers marks failed .pausing spent heard
      (retryingAt factory policy runtime failed.length failed.length none none (some sleep))) :
    Retries enough factory policy runtime answers (marks ++ [.fired sleep.duration]) failed
      .ready spent heard
      (retryingAt factory policy runtime failed.length failed.length none none none) := by
  cases retries.trying with
  | pausing positive awaits =>
      rw [duration_of_awaits awaits]
      exact retries.move (.ready (Or.inr ⟨positive, sleep, awaits⟩)) (.fired retries.inTurn) rfl

omit [PollFuture Fut P] in
/-- The factory is called. -/
theorem startAttempt_eq (failures : Nat) :
    (retryingAt factory policy runtime failures failures none none none :
      Retrying G Fut P).startAttempt =
    retryingAt factory policy runtime failures (failures + 1) (some (nthFuture factory failures))
      none none := by
  have called : (FnMut.call (called factory (List.replicate failures ())) ()).2 =
      called factory (List.replicate (failures + 1) ()) := by
    rw [List.replicate_succ', called_snoc]
  simp only [Retrying.startAttempt, retryingAt, called]
  rfl

theorem Retries.start
    (retries : Retries enough factory policy runtime answers marks failed .ready spent heard
      (retryingAt factory policy runtime failed.length failed.length none none none :
        Retrying G Fut P)) :
    Retries enough factory policy runtime answers (marks ++ [.started]) failed .running spent
      heard (retryingAt factory policy runtime failed.length (failed.length + 1)
        (some (nthFuture factory failed.length)) none none : Retrying G Fut P) := by
  cases retries.trying with
  | ready rested => exact retries.move (.waiting rested .refl) (.started retries.inTurn) rfl

omit [PollStream P (Event T E)] [PollFuture Fut P] in
/-- The pause after a failure. -/
theorem pause_eq (failures : Nat) :
    (retryingAt factory policy runtime failures (failures + 1) none none none :
      Retrying G Fut P).pause =
    retryingAt factory policy runtime (failures + 1) (failures + 1) none none
      (if policy.delay > 0 then some (pauseBefore policy runtime (failures + 1)) else none) := by
  unfold Retrying.pause retryingAt runtimeAfter
  split
  · simp only [Runtime.sleep, pauseBefore, Nat.add_sub_cancel, Stream'.head_drop,
      Stream'.tail_drop, Stream'.drop_succ]
  · rfl

theorem trying_afterFailure (failures : Nat) :
    Trying (T := T) (E := E) enough factory policy runtime (failures + 1) policy.afterFailure 0 []
      (retryingAt factory policy runtime failures (failures + 1) none none none :
        Retrying G Fut P).pause := by
  rw [pause_eq, RetryPolicy.afterFailure]
  split
  · rename_i positive
    exact .pausing positive .refl
  · exact .ready (Or.inl rfl)

/-- An error that earns another attempt. -/
theorem Retries.fail {rests waits : Nat} {stream now : P} {err : ObservableError E}
    (retries : Retries enough factory policy runtime answers marks failed .running
      (Trial.polls ⟨rests, waits, stream, heard⟩) heard
      (retryingAt factory policy runtime failed.length (failed.length + 1) none (some now) none))
    (rested : Rested enough policy runtime failed.length rests)
    (yields : YieldsAfter poll enough (nthFuture factory failed.length : Fut) waits
      stream)
    {last : P} (reached : Reached pollNext enough stream
      (heard ++ [.ready (some (.error err))]) last) (ongoing : Ongoing heard)
    (again : shouldRetry (failed.length + 1) policy err = true) :
    Retries enough factory policy runtime answers (marks ++ [.failed err])
      (failed ++ [⟨rests, waits, stream, heard ++ [.ready (some (.error err))]⟩])
      policy.afterFailure 0 []
      (retryingAt factory policy runtime failed.length (failed.length + 1) none none none :
        Retrying G Fut P).pause where
  trying := by
    rw [List.length_append]
    exact trying_afterFailure failed.length
  failures := by
    intro index trial listed
    rcases Nat.lt_or_ge index failed.length with before | behind
    · rw [List.getElem?_append_left before] at listed
      exact retries.failures index trial listed
    · obtain ⟨place, same⟩ := List.getElem?_eq_some_iff.mp listed
      have here : index = failed.length := by
        rw [List.length_append] at place
        exact Nat.le_antisymm (Nat.le_of_lt_succ place) behind
      subst here
      rw [List.getElem?_concat_length] at listed
      cases listed
      exact ⟨rested, yields, ⟨last, reached⟩, err, ⟨heard, rfl, ongoing⟩, again⟩
  ongoing := retries.ongoing
  spoken := by
    rw [retries.spoken, List.flatMap_append]
    simp [emitted]
  inTurn := .retried retries.inTurn
  starts := by
    rw [List.countP_append, retries.starts, pause_eq]
    rfl
  count := by
    have counted := retries.count
    simp only [List.map_append, List.sum_append, List.map_cons, List.map_nil, List.sum_cons,
      List.sum_nil, Trial.polls, List.length_append, List.length_singleton] at counted ⊢
    omega

/-- What a turn comes to: the attempt has failed and there is another, an answer, or the
end. -/
inductive RetryTurn (enough : Context → Prop) (factory : G) (policy : RetryPolicy)
    (runtime : Runtime) (course : P → Course T E) (answers : List (Answer T E))
    (marks : List (RetryMark E)) (failed : List (Trial P T E)) :
    Turn (Retrying G Fut P) (Answer T E) → Prop
  | again {trial : Trial P T E} {stage : RetryStage} {next : Retrying G Fut P} :
      Retries enough factory policy runtime answers marks (failed ++ [trial]) stage 0 [] next →
      RetryTurn enough factory policy runtime course answers marks failed (.again next)
  | goesOn {stage : RetryStage} {spent : Nat} {heard : List (Answer T E)}
      {answer : Answer T E} {next : Retrying G Fut P} :
      Retries enough factory policy runtime (answers ++ [answer]) marks failed stage spent heard
        next →
      RetryTurn enough factory policy runtime course answers marks failed (.leave answer next)
  | ends {answer : Answer T E} {next : Retrying G Fut P} :
      next.finished = true → Retried enough factory policy course (answers ++ [answer]) →
      Counted factory policy marks next →
      RetryTurn enough factory policy runtime course answers marks failed (.leave answer next)

/-- The end of an attempt that is passed on. -/
theorem Retries.ended {waits : Nat} {stream after : P} {last : Option (Event T E)}
    (retries : Retries enough factory policy runtime answers marks failed stage spent heard this)
    (produces : Produces enough factory course)
    (yields : YieldsAfter poll enough (nthFuture factory failed.length) waits stream)
    (reached : Reached pollNext enough stream (heard ++ [.ready last]) after)
    (ongoing : Ongoing heard) (concluding : concludes (.ready last) = true)
    (passed : ∀ err, last = some (.error err) →
      shouldRetry (failed.length + 1) policy err = false) :
    Retried enough factory policy course (answers ++ [.ready last]) := by
  have served := produces _ _ yields.yields
  obtain ⟨all, last_eq⟩ := concluded_of_reached served ongoing reached concluding
  refine ⟨failed.map Trial.stream, stream, answers, 0, retries.earned produces, ?_, ?_, ?_,
    retries.ongoing, ?_⟩
  · rw [List.length_map]
    exact yields.yields
  · intro eligible
    rw [List.length_map]
    match ending : (course stream).ending with
    | .complete | .closed =>
        rw [ending] at eligible
        cases eligible
    | .error err =>
        rw [ending] at eligible last_eq
        have enough : ¬ failed.length + 1 < policy.most := by
          intro fewer
          have again := shouldRetry_iff.mpr ⟨fewer, eligible⟩
          rw [passed err last_eq] at again
          cases again
        exact Nat.le_antisymm retries.failed_lt (Nat.le_of_not_lt enough)
  · rw [last_eq]
    rfl
  · rw [retries.spoken, retries.allValues produces, all]
    simp [Rx.allValues]

/-- The end of a turn: what the stream of the attempt answers. -/
theorem forward_turn
    (retries : Retries enough factory policy runtime answers marks failed .running spent heard
      this)
    (got : this.pending = none) (good : enough cx) (produces : Produces enough factory course) :
    ∃ turned, this.forward cx = some turned ∧
      RetryTurn enough factory policy runtime course answers
        (marks ++ Retrying.errorMarks cx this.stream) failed turned := by
  cases retries.trying with
  | waiting => cases got
  | @streaming rests waits stream now _ rested yields reached ongoing =>
      have served := produces _ _ yields.yields
      obtain ⟨said, after, polled⟩ := reached.polled served good
      have longer := reached.snoc good polled
      have counted := retries.counted
      let going (stream : Option P) : Retrying G Fut P :=
        retryingAt factory policy runtime failed.length (failed.length + 1) none stream none
      match said with
      | .pending =>
          refine ⟨.leave .pending (going (some after)), ?_, ?_⟩
          · simp only [Retrying.forward, retryingAt, polled, going]
          · simp only [Retrying.errorMarks, retryingAt, polled, List.append_nil]
            exact .goesOn (retries.answer (.streaming rested yields longer (ongoing.snoc rfl))
              (polls_snoc ..) rfl (emitted_append ..) rfl)
      | .ready (some (.next value)) =>
          refine ⟨.leave (.ready (some (.next value))) (going (some after)), ?_, ?_⟩
          · simp only [Retrying.forward, retryingAt, polled, going]
          · simp only [Retrying.errorMarks, retryingAt, polled, List.append_nil]
            exact .goesOn (retries.answer (.streaming rested yields longer (ongoing.snoc rfl))
              (polls_snoc ..) rfl (emitted_append ..) rfl)
      | .ready (some .complete) =>
          refine ⟨.leave (.ready (some .complete)) { going none with finished := true }, ?_, ?_⟩
          · simp only [Retrying.forward, retryingAt, polled, going]
          · simp only [Retrying.errorMarks, retryingAt, polled, List.append_nil]
            exact .ends rfl (retries.ended produces yields longer ongoing rfl nofun)
              ⟨counted.inTurn, counted.starts, counted.bound, counted.factory⟩
      | .ready none =>
          refine ⟨.leave (.ready none) { going none with finished := true }, ?_, ?_⟩
          · simp only [Retrying.forward, retryingAt, polled, going]
          · simp only [Retrying.errorMarks, retryingAt, polled, List.append_nil]
            exact .ends rfl (retries.ended produces yields longer ongoing rfl nofun)
              ⟨counted.inTurn, counted.starts, counted.bound, counted.factory⟩
      | .ready (some (.error err)) =>
          -- only here the policy decides: another attempt, or the error goes downstream
          match again : shouldRetry (failed.length + 1) policy err with
          | true =>
              refine ⟨.again (going none).pause, ?_, ?_⟩
              · simp only [Retrying.forward, retryingAt, polled, going, again, if_true]
              · simp only [Retrying.errorMarks, retryingAt, polled]
                exact .again (retries.fail rested yields longer ongoing again)
          | false =>
              refine ⟨.leave (.ready (some (.error err))) { going none with finished := true },
                ?_, ?_⟩
              · simp only [Retrying.forward, retryingAt, polled, going, again,
                  Bool.false_eq_true, if_false]
              · simp only [Retrying.errorMarks, retryingAt, polled]
                refine .ends rfl (retries.ended produces yields longer ongoing rfl ?_)
                  ⟨⟨_, .gaveUp retries.inTurn⟩, ?_, counted.bound, counted.factory⟩
                · intro other same
                  cases same
                  exact again
                · rw [List.countP_append, retries.starts]
                  rfl

/-- An attempt that was started: its future is awaited first. -/
theorem awaitFactory_turn
    (retries : Retries enough factory policy runtime answers marks failed .running spent heard
      this)
    (good : enough cx) (produces : Produces enough factory course) :
    ∃ turned, this.awaitFactory cx = some turned ∧
      RetryTurn enough factory policy runtime course answers
        (marks ++ Retrying.errorMarks cx (this.awaited cx)) failed turned := by
  cases retries.trying with
  | streaming => exact forward_turn retries rfl good produces
  | @waiting rests waits future rested awaits =>
      match polled : poll cx future with
      | (.pending, next) =>
          refine ⟨.leave .pending (retryingAt factory policy runtime failed.length
            (failed.length + 1) (some next) none none), ?_, ?_⟩
          · simp only [Retrying.awaitFactory, retryingAt, polled]
          · simp only [Retrying.awaited, Retrying.errorMarks, retryingAt, polled,
              List.append_nil]
            exact .goesOn (retries.answer (.waiting rested (awaits.wait good polled)) rfl rfl rfl
              rfl)
      | (.ready stream, next) =>
          have yields : YieldsAfter poll enough (nthFuture factory failed.length)
              waits stream := ⟨future, cx, next, awaits, good, polled⟩
          have inTurn : InTurn policy .running (marks ++ []) := by
            rw [List.append_nil]
            exact retries.inTurn
          have streaming :=
            retries.move (.streaming rested yields (.refl stream) nofun) inTurn rfl
          obtain ⟨turned, forwarded, outcome⟩ := forward_turn streaming rfl good produces
          refine ⟨turned, ?_, ?_⟩
          · simpa only [Retrying.awaitFactory, retryingAt, polled] using forwarded
          · rw [List.append_nil] at outcome
            simpa only [Retrying.awaited, retryingAt, polled] using outcome

/-- One turn of the loop. -/
theorem retry_turn
    (retries : Retries enough factory policy runtime answers marks failed stage spent heard this)
    (good : enough cx) (produces : Produces enough factory course) :
    ∃ turned, this.turn cx = some turned ∧
      RetryTurn enough factory policy runtime course answers (marks ++ this.marks cx) failed
        turned := by
  cases retries.trying with
  | waiting | streaming => exact awaitFactory_turn retries good produces
  | ready => 
      obtain ⟨turned, awaited, outcome⟩ := awaitFactory_turn retries.start good produces
      refine ⟨turned, ?_, ?_⟩
      · rw [← startAttempt_eq] at awaited
        exact awaited
      · rw [← startAttempt_eq, List.append_assoc] at outcome
        exact outcome
  | @pausing rests sleep positive awaits =>
      match polled : poll cx sleep with
      | (.pending, next) =>
          refine ⟨.leave .pending (retryingAt factory policy runtime failed.length failed.length
            none none (some next)), ?_, ?_⟩
          · simp only [Retrying.turn, retryingAt, polled]
            rfl
          · have silent : Retrying.marks cx (retryingAt factory policy runtime failed.length
                failed.length none none (some sleep) : Retrying G Fut P) =
                  ([] : List (RetryMark E)) := by
              simp only [Retrying.marks, retryingAt, polled]
              rfl
            rw [silent, List.append_nil]
            exact .goesOn (retries.answer (.pausing positive (awaits.wait good polled)) rfl rfl
              rfl rfl)
      | (.ready _, next) =>
          -- the turn goes on: the factory is called as soon as the sleep has fired
          obtain ⟨turned, awaited, outcome⟩ :=
            awaitFactory_turn retries.wake.start good produces
          rw [← startAttempt_eq] at awaited
          rw [← startAttempt_eq, List.append_assoc, List.append_assoc] at outcome
          refine ⟨turned, ?_, ?_⟩
          · rw [← awaited]
            simp only [Retrying.turn, retryingAt, polled]
            rfl
          · have noted : Retrying.marks cx (retryingAt factory policy runtime failed.length
                failed.length none none (some sleep) : Retrying G Fut P) =
                  .fired sleep.duration :: Retrying.attemptMarks cx (retryingAt factory policy
                    runtime failed.length failed.length none none none) := by
              simp only [Retrying.marks, retryingAt, polled]
              rfl
            rw [noted]
            exact outcome

/-! ### Whole runs -/

/-- What a `retry_with` has come to: it goes on, or it has ended. -/
def RetriedTo (enough : Context → Prop) (factory : G) (policy : RetryPolicy)
    (runtime : Runtime) (course : P → Course T E) (answers : List (Answer T E))
    (marks : List (RetryMark E)) (this : Retrying G Fut P) : Prop :=
  (∃ failed stage spent heard,
    Retries enough factory policy runtime answers marks failed stage spent heard this) ∨
  this.finished = true ∧ Retried enough factory policy course answers ∧
    Counted factory policy marks this

/-- One poll: the turns it takes are those of the attempts that are left. -/
theorem retry_poll {turns : Nat}
    (retries : Retries enough factory policy runtime answers marks failed stage spent heard this)
    (good : enough cx) (produces : Produces enough factory course)
    (enoughTurns : policy.most ≤ failed.length + turns) :
    ∃ answer next, loop (Retrying.turn cx) turns this = some (answer, next) ∧
      RetriedTo enough factory policy runtime course (answers ++ [answer])
        (marks ++ loopNotes (Retrying.marks cx) (Retrying.turn cx) turns this) next := by
  -- a turn that goes round has used up an attempt, and the policy allows only so many
  induction turns generalizing marks failed stage spent heard this with
  | zero => exact absurd retries.failed_lt (Nat.not_lt_of_le enoughTurns)
  | succ turns ih =>
      obtain ⟨turned, turn_eq, outcome⟩ := retry_turn retries good produces
      cases outcome with
      | again retries =>
          rw [loop_again turn_eq, loopNotes_again turn_eq, ← List.append_assoc]
          apply ih retries
          rw [List.length_append, List.length_singleton]
          omega
      | goesOn retries =>
          rw [loopNotes_leave turn_eq]
          exact ⟨_, _, loop_leave turn_eq (Nat.succ_pos _), Or.inl ⟨_, _, _, _, retries⟩⟩
      | ends finished retried counted =>
          rw [loopNotes_leave turn_eq]
          exact ⟨_, _, loop_leave turn_eq (Nat.succ_pos _), Or.inr ⟨finished, retried, counted⟩⟩

omit [PollStream P (Event T E)] in
/-- Polls after the end answer the end. -/
theorem Retried.snoc (retried : Retried enough factory policy course answers) :
    Retried enough factory policy course (answers ++ [.ready none]) := by
  obtain ⟨streams, stream, before, ends, earned, yields, passed, rfl, rest⟩ := retried
  exact ⟨streams, stream, before, ends + 1, earned, yields, passed, after_end .., rest⟩

/-- A poll after the end. -/
theorem poll_finished (finished : this.finished = true) (turns : 0 < cx.turns) :
    pollNext cx this = some ((.ready none : Answer T E), this) ∧
      this.pollMarks cx = ([] : List (RetryMark E)) := by
  have leaves : this.turn cx = some (.leave (.ready none : Answer T E) this) :=
    if_pos finished
  refine ⟨loop_leave leaves turns, ?_⟩
  obtain ⟨fewer, count⟩ := Nat.exists_eq_succ_of_ne_zero (Nat.ne_zero_of_lt turns)
  rw [Retrying.pollMarks, count, loopNotes_leave leaves]
  exact if_pos finished

theorem retries_new :
    Retries enough factory policy runtime ([] : List (Answer T E)) [] [] .ready
      0 [] (Retrying.new factory policy runtime : Retrying G Fut P) where
  trying := by
    have fresh : (Retrying.new factory policy runtime : Retrying G Fut P) =
        retryingAt factory policy runtime 0 0 none none none := by
      simp [Retrying.new, retryingAt, runtimeAfter, called]
    rw [fresh]
    exact .ready (Or.inl rfl)
  failures := nofun
  ongoing := nofun
  spoken := rfl
  inTurn := .first
  starts := rfl
  count := le_rfl

/-- The run of a `retry_with`. -/
theorem retry_run (runtime : Runtime) (produces : Produces enough factory course)
    (contexts : List Context) (good : ∀ cx ∈ contexts, WithTurns policy.most enough cx) :
    ∃ answers final,
      pollAll pollNext contexts
        (Retrying.new factory policy runtime : Retrying G Fut P) = some (answers, final) ∧
      RetriedTo enough factory policy runtime course answers
        (pollNotes pollNext Retrying.pollMarks contexts
          (Retrying.new factory policy runtime : Retrying G Fut P)) final := by
  refine pollAll_noted (RetriedTo enough factory policy runtime course)
    (Or.inl ⟨_, _, _, _, retries_new⟩) ?_ contexts good
  rintro answers marks now cx there ⟨goodNow, turns⟩
  rcases there with ⟨failed, stage, spent, heard, retries⟩ | ⟨finished, retried, counted⟩
  · exact retry_poll retries goodNow produces (Nat.le_trans turns (Nat.le_add_left ..))
  · have positive : 0 < cx.turns := Nat.lt_of_lt_of_le (Nat.le_max_right ..) turns
    obtain ⟨polled, silent⟩ := poll_finished (T := T) (E := E) finished positive
    refine ⟨_, now, polled, Or.inr ⟨finished, retried.snoc, ?_⟩⟩
    rw [silent, List.append_nil]
    exact counted

/-! ### Coming to the end -/

omit [PollStream P (Event T E)] [FnMut G Unit Fut] [PollFuture Fut P] in
/-- A sleep that answers `Pending` has not fired at any of its polls. -/
theorem silent_of_awaits {sleep now : Sleep} {rests : Nat}
    (awaits : Awaits poll enough sleep rests now) :
    now.fires = sleep.fires.drop rests ∧ ∀ poll < rests, sleep.fires.get poll = false := by
  induction awaits with
  | refl => exact ⟨rfl, nofun⟩
  | @wait rests now next cx _ _ polled ih =>
      obtain ⟨left, before⟩ := ih
      simp only [poll] at polled
      split at polled
      · cases polled
      · rename_i silent
        cases polled
        refine ⟨?_, fun poll below => ?_⟩
        · dsimp only
          rw [left, Stream'.tail_drop]
          rfl
        · rcases Nat.lt_succ_iff_lt_or_eq.mp below with earlier | rfl
          · exact before poll earlier
          · rw [left, Stream'.head_drop] at silent
            exact Bool.eq_false_iff.mpr silent

omit [PollStream P (Event T E)] [FnMut G Unit Fut] [PollFuture Fut P] in
theorem resolvesWithin_of_fires {sleep : Sleep} {poll : Nat}
    (fires : sleep.fires.get poll = true) :
    ResolvesWithin PollFuture.poll enough poll sleep := by
  intro rests now awaits
  by_contra late
  have silent := (silent_of_awaits awaits).2 poll (Nat.lt_of_not_le late)
  rw [fires] at silent
  cases silent

/-- So many polls of each kind are enough for the attempt with this index. -/
structure Settles (enough : Context → Prop) (factory : G) (policy : RetryPolicy)
    (runtime : Runtime) (course : P → Course T E) (index most : Nat) : Prop where
  future : ResolvesWithin poll enough most (nthFuture factory index : Fut)
  stream : ∀ stream, Yields poll enough (nthFuture factory index : Fut) stream →
    WithinLeft pollNext enough most (some (course stream).events) stream
  sleep : 0 < policy.delay →
    ResolvesWithin poll enough most (pauseBefore policy runtime index)

theorem Settles.mono {index most more : Nat}
    (settles : Settles enough factory policy runtime course index most) (fewer : most ≤ more) :
    Settles enough factory policy runtime course index more where
  future := settles.future.mono fewer
  stream stream yields := (settles.stream stream yields).mono fewer
  sleep positive := (settles.sleep positive).mono fewer

theorem Settles.rests_le {index most rests : Nat}
    (settles : Settles enough factory policy runtime course index most)
    (rested : Rested enough policy runtime index rests) : rests ≤ most := by
  rcases rested with rfl | ⟨positive, sleep, awaits⟩
  · exact Nat.zero_le _
  · exact settles.sleep positive rests sleep awaits

theorem Settles.polls_le {index most : Nat} {trial : Trial P T E}
    (settles : Settles enough factory policy runtime course index most)
    (failed : FailedAt enough factory policy runtime index trial) :
    trial.polls ≤ 3 * most := by
  obtain ⟨rested, yields, ⟨state, reached⟩, err, stopped, -⟩ := failed
  have fewRests := settles.rests_le rested
  have fewWaits := yields.le settles.future
  have fewHeard := stopped.length_le (settles.stream _ yields.yields) reached
  rw [Trial.polls]
  omega

theorem Settles.spent_le {failures most : Nat}
    (settles : Settles enough factory policy runtime course failures most)
    (trying : Trying enough factory policy runtime failures stage spent heard this) :
    spent ≤ 3 * most := by
  cases trying with
  | ready rested =>
      have fewRests := settles.rests_le rested
      omega
  | pausing positive awaits =>
      have fewRests := settles.sleep positive _ _ awaits
      omega
  | waiting rested awaits =>
      have fewRests := settles.rests_le rested
      have fewWaits := settles.future _ _ awaits
      omega
  | streaming rested yields reached ongoing =>
      have fewRests := settles.rests_le rested
      have fewWaits := yields.le settles.future
      have fewHeard := ongoing.length_lt (settles.stream _ yields.yields) reached
      rw [Trial.polls]
      dsimp only
      omega

theorem Retries.length_le {most : Nat}
    (retries : Retries enough factory policy runtime answers marks failed stage spent heard this)
    (settles : ∀ index < policy.most,
      Settles enough factory policy runtime course index most) :
    answers.length ≤ policy.most * (3 * most) := by
  have fewer := retries.failed_lt
  have each : ∀ polls ∈ failed.map Trial.polls, polls ≤ 3 * most := by
    intro polls listed
    obtain ⟨trial, there, rfl⟩ := List.mem_map.mp listed
    obtain ⟨index, place⟩ := List.mem_iff_getElem?.mp there
    have below := (List.getElem?_eq_some_iff.mp place).1
    exact (settles index (Nat.lt_trans below fewer)).polls_le (retries.failures index trial place)
  have fewPolls := List.sum_le_card_nsmul _ (3 * most) each
  rw [List.length_map, smul_eq_mul] at fewPolls
  have fewSpent := (settles failed.length fewer).spent_le retries.trying
  calc answers.length ≤ (failed.map Trial.polls).sum + spent := retries.count
    _ ≤ failed.length * (3 * most) + 3 * most := Nat.add_le_add fewPolls fewSpent
    _ = (failed.length + 1) * (3 * most) := (Nat.succ_mul ..).symm
    _ ≤ policy.most * (3 * most) := Nat.mul_le_mul_right _ fewer

/-- A `retry_with` of attempts that come to their ends, with timers that fire, comes to its
end. -/
theorem retry_ends (produces : Produces enough factory course)
    (futures : ∀ index, ∃ waits,
      ResolvesWithin poll enough waits (nthFuture factory index : Fut))
    (streams : ∀ index, ∃ polls, ∀ stream,
      Yields poll enough (nthFuture factory index : Fut) stream →
      EndsWithin pollNext enough polls stream)
    (timers : 0 < policy.delay → ∀ index, ∃ poll, (runtime.timers.get index).get poll = true) :
    ∃ polls, ∀ contexts, (∀ cx ∈ contexts, WithTurns policy.most enough cx) →
      polls ≤ contexts.length → ∃ answers final,
        pollAll pollNext contexts
          (Retrying.new factory policy runtime : Retrying G Fut P) = some (answers, final) ∧
        Retried enough factory policy course answers := by
  have each : ∀ index, ∃ most, Settles enough factory policy runtime course index most := by
    intro index
    obtain ⟨waits, resolves⟩ := futures index
    obtain ⟨polls, ends⟩ := streams index
    have wakes : ∃ rests, 0 < policy.delay →
        ResolvesWithin poll enough rests (pauseBefore policy runtime index) := by
      by_cases positive : 0 < policy.delay
      · obtain ⟨rests, fires⟩ := timers positive (index - 1)
        exact ⟨rests, fun _ => resolvesWithin_of_fires fires⟩
      · exact ⟨0, fun delayed => absurd delayed positive⟩
    obtain ⟨rests, wakes⟩ := wakes
    refine ⟨max waits (max polls rests), ?_, fun stream yields => ?_, fun positive => ?_⟩
    · exact resolves.mono (Nat.le_max_left ..)
    · have within : WithinLeft pollNext enough polls (some (course stream).events)
          stream := ⟨produces index stream yields, fun _ => ends stream yields⟩
      exact within.mono (Nat.le_trans (Nat.le_max_left ..) (Nat.le_max_right ..))
    · exact (wakes positive).mono (Nat.le_trans (Nat.le_max_right ..) (Nat.le_max_right ..))
  obtain ⟨most, settles⟩ :=
    exists_common_bound (fun _ _ _ fewer settles => settles.mono fewer) each policy.most
  refine ⟨policy.most * (3 * most) + 1, fun contexts good long => ?_⟩
  obtain ⟨answers, final, returned, there⟩ := retry_run runtime produces contexts good
  rcases there with ⟨failed, stage, spent, heard, retries⟩ | ⟨-, retried, -⟩
  · have few := retries.length_le settles
    rw [pollAll_length returned] at few
    exact absurd (Nat.le_trans long few) (Nat.not_succ_le_self _)
  · exact ⟨answers, final, returned, retried⟩

/-! ### All of it -/

/-- What `retry_with` makes of a factory whose streams have these courses. -/
structure BoundedRetries (enough : Context → Prop) (factory : G) (policy : RetryPolicy)
    (runtime : Runtime) (course : P → Course T E) : Prop where
  /-- At any moment the values emitted are those of the attempts so far, with the end of the
  last once it is not retried, and the factory was called in turn and no more often than
  allowed. -/
  runs : Produces enough factory course → ∀ contexts,
    (∀ cx ∈ contexts, WithTurns policy.most enough cx) → ∃ answers final,
      pollAll pollNext contexts
        (Retrying.new factory policy runtime : Retrying G Fut P) = some (answers, final) ∧
      (GoingOn enough factory policy course answers ∨
        Retried enough factory policy course answers) ∧
      Counted factory policy (pollNotes pollNext Retrying.pollMarks contexts
        (Retrying.new factory policy runtime : Retrying G Fut P)) final
  /-- It comes to its end if the futures and the streams do and the timers fire. -/
  ends : Produces enough factory course →
    (∀ index, ∃ waits,
      ResolvesWithin poll enough waits (nthFuture factory index : Fut)) →
    (∀ index, ∃ polls, ∀ stream,
      Yields poll enough (nthFuture factory index : Fut) stream →
      EndsWithin pollNext enough polls stream) →
    (0 < policy.delay → ∀ index, ∃ poll, (runtime.timers.get index).get poll = true) →
    ∃ polls, ∀ contexts, (∀ cx ∈ contexts, WithTurns policy.most enough cx) →
      polls ≤ contexts.length → ∃ answers final,
        pollAll pollNext contexts
          (Retrying.new factory policy runtime : Retrying G Fut P) = some (answers, final) ∧
        Retried enough factory policy course answers

/-- `retry_with` runs a bounded number of attempts, one after the other. -/
theorem retry_with_runs_bounded_attempts (enough : Context → Prop) (factory : G)
    (policy : RetryPolicy) (runtime : Runtime) (course : P → Course T E) :
    BoundedRetries enough factory policy runtime course where
  runs := by
    intro produces contexts good
    obtain ⟨answers, final, returned, there⟩ := retry_run runtime produces contexts good
    refine ⟨answers, final, returned, ?_⟩
    rcases there with ⟨failed, stage, spent, heard, retries⟩ | ⟨-, retried, counted⟩
    · exact ⟨Or.inl (retries.goingOn produces), retries.counted⟩
    · exact ⟨Or.inr retried, counted⟩
  ends := retry_ends

end Attempts

/-- A future that is ready at once. -/
structure Ready (Out : Type) where
  value : Out

instance {Out : Type} : PollFuture (Ready Out) Out where
  poll _ future := (.ready future.value, future)

theorem awaits_ready {Out : Type} {enough : Context → Prop} {future now : Ready Out}
    {waits : Nat} (awaits : Awaits poll enough future waits now) :
    waits = 0 ∧ now = future := by
  cases awaits with
  | refl => exact ⟨rfl, rfl⟩
  | wait _ _ polled => cases polled

/-- Two attempts that emit a value and fail. -/
theorem retry_with_of_two_attempts :
    let stream : Source (Event Nat Unit) :=
      { items := [.next 1, .error (.business ())], schedule := Stream'.const true }
    let factory (_ : Unit) : Ready (Source (Event Nat Unit)) := ⟨stream⟩
    let policy : RetryPolicy := { attempts := 2, delay := 5 }
    let runtime : Runtime :=
      { timers := Stream'.const (Stream'.const true), clock := Stream'.const 0 }
    ∃ polls, ∀ contexts, (∀ cx ∈ contexts, WithTurns 2 (fun _ => True) cx) →
      polls ≤ contexts.length → ∃ answers final,
        pollAll pollNext contexts (Retrying.new factory policy runtime :
          Retrying _ (Ready (Source (Event Nat Unit))) (Source (Event Nat Unit))) =
            some (answers, final) ∧
        Retried (fun _ => True) factory policy
          (fun _ => (⟨[1], .error (.business ())⟩ : Course Nat Unit)) answers := by
  intro stream factory policy runtime
  have yielded : ∀ index other, Yields poll (fun _ => True)
      (nthFuture factory index) other → other = stream := by
    rintro index other ⟨waits, now, cx, next, awaits, -, polled⟩
    obtain ⟨-, rfl⟩ := awaits_ready awaits
    rw [nthFuture, called_eq_self] at polled
    cases polled
    rfl
  have drains : Drains pollNext (fun _ : Context => True) stream.items stream :=
    Source.drains stream Source.fair_const_true
  have bounded := retry_with_runs_bounded_attempts (fun _ => True) factory policy runtime
    (fun _ => (⟨[1], .error (.business ())⟩ : Course Nat Unit))
  apply bounded.ends
  · intro index other yields
    rw [yielded index other yields]
    exact drains.1
  · intro index
    refine ⟨0, fun count now awaits => ?_⟩
    exact Nat.le_of_eq (awaits_ready awaits).1
  · intro index
    obtain ⟨polls, ends⟩ := drains.2
    refine ⟨polls, fun other yields => ?_⟩
    rw [yielded index other yields]
    exact ends
  · intro _ index
    exact ⟨0, rfl⟩

end IceRpc.Rx
