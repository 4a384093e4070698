/-
Module: IceRpc.Rx.Transform.ErrorHandling
Purpose: `catch_error` and `retry_with`
  (`ice-rpc-rx/src/transform/error_handling.rs`).
Trusted boundary: human-reviewed spec
Main exports: CatchError, RetryPolicy, shouldRetry, Retrying, retryWith
-/
import IceRpc.Rx.Stream

namespace IceRpc.Rx

open Lib

variable {S F R G Fut P T E : Type}

/-! ### catch_error -/

structure CatchError (S F R : Type) where
  source : S
  /-- The selector, consumed by the first business error. -/
  f : Option F
  /-- The recovery stream replaces the failed source entirely. -/
  recovery : Option R
  finished : Bool

namespace CatchError

def new (source : S) (f : F) : CatchError S F R :=
  { source := source, f := some f, recovery := none, finished := false }

variable [PollStream S (Event T E)] [PollStream R (Event T E)] [FnMut F E R]

/-- One turn of the loop of `CatchError::poll_next`.  A business error without a
selector is the panic of its `expect`. -/
def turn (cx : Context) (this : CatchError S F R) :
    Option (Turn (CatchError S F R) (Answer T E)) :=
  if this.finished then
    some (.leave (.ready none) this)
  else
    match this.recovery with
    | some recovery =>
        match PollStream.pollNext cx recovery with
        | none => none
        | some (.ready (some event), recovery) =>
            some (.leave (.ready (some event))
              { this with recovery := some recovery, finished := event.isTerminal })
        | some (.ready none, recovery) =>
            some (.leave (.ready none)
              { this with recovery := some recovery, finished := true })
        | some (.pending, recovery) =>
            some (.leave .pending { this with recovery := some recovery })
    | none =>
        match PollStream.pollNext cx this.source with
        | none => none
        | some (.ready (some (.next value)), source) =>
            some (.leave (.ready (some (.next value))) { this with source := source })
        | some (.ready (some (.error (.business err))), source) =>
            match this.f with
            | none => none
            | some f =>
                some (.again
                  { this with
                    source := source, f := none, recovery := some (FnMut.call f err).1 })
        | some (.ready (some (.error other)), source) =>
            some (.leave (.ready (some (.error other)))
              { this with source := source, finished := true })
        | some (.ready (some .complete), source) =>
            some (.leave (.ready (some .complete))
              { this with source := source, finished := true })
        | some (.ready none, source) =>
            some (.leave (.ready none) { this with source := source, finished := true })
        | some (.pending, source) => some (.leave .pending { this with source := source })

/-- `CatchError::poll_next`. -/
def pollNext (cx : Context) (this : CatchError S F R) :
    Option (Answer T E × CatchError S F R) :=
  loop (turn cx) cx.turns this

instance : PollStream (CatchError S F R) (Event T E) where
  pollNext := pollNext

end CatchError

/-! ### retry_with -/

/-- The policy of `retry_with`; `delay` is in nanoseconds. -/
structure RetryPolicy where
  attempts : Nat := 1
  delay : Nat := 0
  onlyRetryable : Bool := false
deriving Repr, DecidableEq

/-- `should_retry`. -/
def shouldRetry (attempts : Nat) (policy : RetryPolicy) (error : ObservableError E) : Bool :=
  if max policy.attempts 1 ≤ attempts then false
  else if !policy.onlyRetryable then true
  else
    match error with
    | .technical transport => transport.isRetryable
    | _ => false

structure Retrying (G Fut P : Type) where
  factory : G
  policy : RetryPolicy
  /-- Attempts started so far. -/
  attempts : Nat
  /-- The factory's future, until it yields the attempt's stream. -/
  pending : Option Fut
  /-- The stream of the current attempt. -/
  stream : Option P
  /-- Pause before the next attempt. -/
  sleep : Option Sleep
  finished : Bool
  runtime : Runtime

namespace Retrying

def new (factory : G) (policy : RetryPolicy) (runtime : Runtime) : Retrying G Fut P :=
  { factory := factory, policy := policy, attempts := 0, pending := none, stream := none,
    sleep := none, finished := false, runtime := runtime }

/-- The pause before the next attempt, when the policy asks for one. -/
def pause (this : Retrying G Fut P) : Retrying G Fut P :=
  if this.policy.delay > 0 then
    let (sleep, runtime) := this.runtime.sleep this.policy.delay
    { this with sleep := some sleep, runtime := runtime }
  else this

/-- The end of a turn: the events of the attempt are forwarded. -/
def forward [PollStream P (Event T E)] (cx : Context) (this : Retrying G Fut P) :
    Option (Turn (Retrying G Fut P) (Answer T E)) :=
  match this.stream with
  | none => some (.again this)
  | some stream =>
      match PollStream.pollNext cx stream with
      | none => none
      | some (.ready (some (.next value)), stream) =>
          some (.leave (.ready (some (.next value))) { this with stream := some stream })
      | some (.ready (some (.error err)), _) =>
          if shouldRetry this.attempts this.policy err then
            some (.again (pause { this with stream := none }))
          else
            some (.leave (.ready (some (.error err)))
              { this with stream := none, finished := true })
      | some (.ready (some .complete), _) =>
          some (.leave (.ready (some .complete))
            { this with stream := none, finished := true })
      | some (.ready none, _) =>
          some (.leave (.ready none) { this with stream := none, finished := true })
      | some (.pending, stream) => some (.leave .pending { this with stream := some stream })

variable [PollStream P (Event T E)] [FnMut G Unit Fut] [PollFuture Fut P]

/-- The factory builds a fresh stream for every attempt. -/
def startAttempt (this : Retrying G Fut P) : Retrying G Fut P :=
  if this.pending.isNone && this.stream.isNone then
    let (future, factory) := FnMut.call this.factory ()
    { this with factory := factory, attempts := this.attempts + 1, pending := some future }
  else this

/-- The factory's future is awaited before its stream is forwarded. -/
def awaitFactory (cx : Context) (this : Retrying G Fut P) :
    Option (Turn (Retrying G Fut P) (Answer T E)) :=
  match this.pending with
  | none => this.forward cx
  | some future =>
      match PollFuture.poll cx future with
      | (.ready stream, _) => forward cx { this with pending := none, stream := some stream }
      | (.pending, future) => some (.leave .pending { this with pending := some future })

/-- One turn of the loop of `Retrying::poll_next`. -/
def turn (cx : Context) (this : Retrying G Fut P) :
    Option (Turn (Retrying G Fut P) (Answer T E)) :=
  if this.finished then
    some (.leave (.ready none) this)
  else
    match this.sleep with
    | none => this.startAttempt.awaitFactory cx
    | some sleep =>
        match PollFuture.poll cx sleep with
        | (.ready _, _) => ({ this with sleep := none }).startAttempt.awaitFactory cx
        | (.pending, sleep) => some (.leave .pending { this with sleep := some sleep })

/-- `Retrying::poll_next`. -/
def pollNext (cx : Context) (this : Retrying G Fut P) :
    Option (Answer T E × Retrying G Fut P) :=
  loop (turn cx) cx.turns this

instance : PollStream (Retrying G Fut P) (Event T E) where
  pollNext := pollNext

end Retrying

/-! ### The methods -/

/-- `Observable::catch_error`. -/
def Observable.catchError [FnMut F E (Observable T E)] (contexts : Stream' Context)
    (source : Observable T E) (f : F) : Observable T E :=
  fromStream contexts (CatchError.new (R := Observable T E) source f)

/-- `retry_with`. -/
def retryWith [FnMut G Unit Fut] [PollFuture Fut (Observable T E)]
    (contexts : Stream' Context) (runtime : Runtime) (factory : G) (policy : RetryPolicy) :
    Observable T E :=
  .fromStream contexts
    (Retrying.new factory policy runtime : Retrying G Fut (Observable T E))

end IceRpc.Rx
