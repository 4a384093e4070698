/-
Module: IceRpc.Rx.Subscribe
Purpose: The pushing task of a subscription (`ice-rpc-rx/src/subscribe.rs`): the loop
  that races the next event of a stream against the subscription's token, with its
  callbacks, and the cancellation of the token at any moment.
Trusted boundary: human-reviewed spec; a stream is what its polls answer
Main exports: Callback, PushOutcome, PushPhase, PushTask, PushAction, PushTask.step
-/
import IceRpc.Lib.Poll
import IceRpc.Types.Event

namespace IceRpc

open Lib (Poll)

variable {T E : Type}

/-- A callback of the observer. -/
inductive Callback (T E : Type) where
  | next (value : T)
  | error (error : ObservableError E)
  | complete
deriving Repr, DecidableEq

/-- What the race of an iteration answers. -/
inductive PushOutcome (T E : Type) where
  | event (event : Option (Event T E))
  | cancelled
deriving Repr, DecidableEq

/-- Where the push loop stands.  `late` says of an iteration that its token was
cancelled before it started. -/
inductive PushPhase (T E : Type) where
  /-- An iteration starts next. -/
  | looping
  /-- The race waits for its next poll, which may begin with either side. -/
  | racing (late : Bool)
  /-- The poll of the race found the stream pending and goes on with the token. -/
  | tokenNext (late : Bool)
  /-- The poll of the race found the token unset and goes on with the stream. -/
  | streamNext (late : Bool)
  /-- The race has its answer. -/
  | won (late : Bool) (outcome : PushOutcome T E)
  /-- The loop is left. -/
  | returned
  /-- The end of the loop is signalled. -/
  | signalled
deriving Repr, DecidableEq

/-- The pushing task: the token of its subscription, the number of polls its stream
got, and the callbacks invoked so far, each marked with `late` of its iteration. -/
structure PushTask (T E : Type) where
  cancelled : Bool
  polls : Nat
  phase : PushPhase T E
  callbacks : List (Bool × Callback T E)
deriving Repr, DecidableEq

/-- One step of the task, or of the holder of the subscription. -/
inductive PushAction where
  /-- `Subscription::unsubscribe`, or the drop of the subscription. -/
  | cancel
  | startIteration
  | pollStream
  | pollToken
  /-- The outcome of the race is handed to the observer. -/
  | deliver
  /-- `spawn_push` signals the end of the loop. -/
  | signal
deriving Repr, DecidableEq

namespace PushTask

/-- `spawn_push`. -/
def spawn : PushTask T E :=
  { cancelled := false, polls := 0, phase := .looping, callbacks := [] }

/-- The stream's side of the race: `answer` is what this poll of the stream
answers. -/
def pollStream (task : PushTask T E) (late : Bool) (answer : Poll (Option (Event T E)))
    (whenPending : PushPhase T E) : PushTask T E :=
  { task with
    polls := task.polls + 1
    phase :=
      match answer with
      | .ready event => .won late (.event event)
      | .pending => whenPending }

/-- The token's side of the race. -/
def pollToken (task : PushTask T E) (late : Bool) (whenPending : PushPhase T E) :
    PushTask T E :=
  { task with phase := if task.cancelled then .won late .cancelled else whenPending }

/-- The match on the outcome of the race. -/
def deliver (task : PushTask T E) (late : Bool) : PushOutcome T E → PushTask T E
  | .cancelled => { task with phase := .returned }
  | .event (some (.next value)) =>
      { task with
        phase := .looping
        callbacks := task.callbacks ++ [(late, .next value)] }
  | .event (some .complete) | .event none =>
      { task with
        phase := .returned
        callbacks := task.callbacks ++ [(late, .complete)] }
  | .event (some (.error err)) =>
      { task with
        phase := .returned
        callbacks := task.callbacks ++ [(late, .error err)] }

/-- One step of `run_push` on the stream whose polls answer `answers`.  The race polls
its two sides in either order, each once. -/
def step (answers : Nat → Poll (Option (Event T E))) (task : PushTask T E) :
    PushAction → Option (PushTask T E)
  | .cancel => some { task with cancelled := true }
  | .startIteration =>
      match task.phase with
      | .looping => some { task with phase := .racing task.cancelled }
      | _ => none
  | .pollStream =>
      match task.phase with
      | .racing late => some (task.pollStream late (answers task.polls) (.tokenNext late))
      | .streamNext late => some (task.pollStream late (answers task.polls) (.racing late))
      | _ => none
  | .pollToken =>
      match task.phase with
      | .racing late => some (task.pollToken late (.streamNext late))
      | .tokenNext late => some (task.pollToken late (.racing late))
      | _ => none
  | .deliver =>
      match task.phase with
      | .won late outcome => some (task.deliver late outcome)
      | _ => none
  | .signal =>
      match task.phase with
      | .returned => some { task with cancelled := true, phase := .signalled }
      | _ => none

end PushTask

end IceRpc
