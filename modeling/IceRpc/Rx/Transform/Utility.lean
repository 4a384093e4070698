/-
Module: IceRpc.Rx.Transform.Utility
Purpose: `tap`, `finalize`, `delay` and `timeout`
  (`ice-rpc-rx/src/transform/utility.rs`).
Trusted boundary: human-reviewed spec
Main exports: Tap, Finalize, Delay, Timeout
-/
import IceRpc.Rx.Stream

namespace IceRpc.Rx

open Lib

variable {S F T E : Type}

/-! ### tap -/

structure Tap (S F : Type) where
  source : S
  f : F

namespace Tap

def new (source : S) (f : F) : Tap S F := { source := source, f := f }

/-- What becomes of an answer of the source. -/
def react [FnMut F T Unit] (this : Tap S F) (source : S) :
    Option (Event T E) → Option (Event T E) × Tap S F
  | some (.next value) =>
      (some (.next value), { source := source, f := (FnMut.call this.f value).2 })
  | some other => (some other, { this with source := source })
  | none => (none, { this with source := source })

/-- `Tap::poll_next`. -/
def pollNext [PollStream S (Event T E)] [FnMut F T Unit] (cx : Context) (this : Tap S F) :
    Option (Answer T E × Tap S F) :=
  passOn cx this.source (fun source => { this with source := source }) this.react

instance [PollStream S (Event T E)] [FnMut F T Unit] : PollStream (Tap S F) (Event T E) where
  pollNext := pollNext

end Tap

/-! ### finalize -/

/-- `ran` collects the hooks that were run. -/
structure Finalize (S F : Type) where
  source : S
  f : Option F
  ran : List F

namespace Finalize

def new (source : S) (f : F) : Finalize S F := { source := source, f := some f, ran := [] }

/-- The hook is taken and run, if it is still there. -/
def finish (this : Finalize S F) : Finalize S F :=
  { this with f := none, ran := this.ran ++ this.f.toList }

/-- What becomes of an answer of the source. -/
def react (this : Finalize S F) (source : S) :
    Option (Event T E) → Option (Event T E) × Finalize S F
  | some event =>
      if event.isTerminal then (some event, finish { this with source := source })
      else (some event, { this with source := source })
  | none => (none, finish { this with source := source })

/-- `Finalize::poll_next`. -/
def pollNext [PollStream S (Event T E)] (cx : Context) (this : Finalize S F) :
    Option (Answer T E × Finalize S F) :=
  passOn cx this.source (fun source => { this with source := source }) this.react

instance [PollStream S (Event T E)] : PollStream (Finalize S F) (Event T E) where
  pollNext := pollNext

end Finalize

/-! ### delay -/

/-- `DELAY_READ_AHEAD`. -/
def delayReadAhead : Nat := 64

structure Delay (S T E : Type) where
  source : S
  duration : Nat
  /-- Events read ahead with their release instant. -/
  queue : List (Nat × Event T E)
  /-- Timer armed for the head of `queue`, when one is waiting. -/
  sleep : Option Sleep
  sourceFinished : Bool
  runtime : Runtime

namespace Delay

def new (source : S) (duration : Nat) (runtime : Runtime) : Delay S T E :=
  { source := source, duration := duration, queue := [], sleep := none,
    sourceFinished := false, runtime := runtime }

/-- Arm a timer for the head of the queue, unless one is armed. -/
def arm (this : Delay S T E) (wait : Nat) : Delay S T E :=
  match this.sleep with
  | some _ => this
  | none =>
      let (sleep, runtime) := this.runtime.sleep wait
      { this with sleep := some sleep, runtime := runtime }

/-- The end of a turn: nothing is due, wait for the head's deadline.  The first
component is the number of events this poll has read. -/
def awaitTimer (cx : Context) (read : Nat) (this : Delay S T E) :
    Turn (Nat × Delay S T E) (Answer T E) :=
  match this.sleep with
  | none => .leave .pending (read, this)
  | some sleep =>
      match PollFuture.poll cx sleep with
      | (.ready _, _) => .again (read, { this with sleep := none })
      | (.pending, sleep) => .leave .pending (read, { this with sleep := some sleep })

variable [PollStream S (Event T E)]

/-- The middle of a turn: drain a bounded batch. -/
def readAhead (cx : Context) (read : Nat) (this : Delay S T E) :
    Option (Turn (Nat × Delay S T E) (Answer T E)) :=
  if !this.sourceFinished && decide (read < delayReadAhead) then
    match PollStream.pollNext cx this.source with
    | none => none
    | some (.ready (some event), source) =>
        let (now, runtime) := this.runtime.now
        some (.again (read + 1,
          { this with
            source := source, runtime := runtime,
            queue := this.queue ++ [(now + this.duration, event)] }))
    | some (.ready none, source) =>
        some (.again (read, { this with source := source, sourceFinished := true }))
    | some (.pending, source) => some (awaitTimer cx read { this with source := source })
  else
    some (awaitTimer cx read this)

/-- One turn of the loop of `Delay::poll_next`. -/
def turn (cx : Context) (read : Nat) (this : Delay S T E) :
    Option (Turn (Nat × Delay S T E) (Answer T E)) :=
  match this.queue with
  | (deadline, event) :: queue =>
      let (now, runtime) := this.runtime.now
      if deadline ≤ now then
        some (.leave (.ready (some event))
          (read, { this with queue := queue, sleep := none, runtime := runtime }))
      else
        (arm { this with runtime := runtime } (deadline - now)).readAhead cx read
  | [] =>
      if this.sourceFinished then
        some (.leave (.ready none) (read, { this with sleep := none }))
      else
        readAhead cx read { this with sleep := none }

/-- `Delay::poll_next`. -/
def pollNext (cx : Context) (this : Delay S T E) :
    Option (Answer T E × Delay S T E) :=
  (loop (fun here => turn cx here.1 here.2) cx.turns (0, this)).map
    fun (answer, _, this) => (answer, this)

instance : PollStream (Delay S T E) (Event T E) where
  pollNext := pollNext

theorem pollNext_eq {cx : Context} {this next : Delay S T E}
    {answer : Answer T E}
    (polled : PollStream.pollNext cx this = some (answer, next)) :
    ∃ read, loop (fun here => turn cx here.1 here.2) cx.turns (0, this) =
      some (answer, read, next) := by
  obtain ⟨⟨returned, read, final⟩, looped, same⟩ := Option.map_eq_some_iff.mp polled
  cases same
  exact ⟨read, looped⟩

end Delay

/-! ### timeout -/

structure Timeout (S : Type) where
  source : S
  duration : Nat
  sleep : Option Sleep
  done : Bool
  runtime : Runtime

namespace Timeout

def new (source : S) (duration : Nat) (runtime : Runtime) : Timeout S :=
  { source := source, duration := duration, sleep := none, done := false,
    runtime := runtime }

/-- The silence timer, armed if none is. -/
def armed (this : Timeout S) : Sleep × Runtime :=
  match this.sleep with
  | some sleep => (sleep, this.runtime)
  | none => this.runtime.sleep this.duration

/-- `Timeout::poll_next`. -/
def pollNext [PollStream S (Event T E)] (cx : Context) (this : Timeout S) :
    Option (Answer T E × Timeout S) :=
  if this.done then
    some (.ready none, this)
  else
    let (sleep, runtime) := this.armed
    match PollStream.pollNext cx this.source with
    | none => none
    | some (.ready (some event), source) =>
        -- reset the silence deadline after every received event
        let (sleep, runtime) := runtime.sleep this.duration
        some (.ready (some event),
          { this with
            source := source, sleep := some sleep, runtime := runtime,
            done := event.isTerminal })
    | some (.ready none, source) =>
        some (.ready none,
          { this with source := source, sleep := some sleep, runtime := runtime })
    | some (.pending, source) =>
        match PollFuture.poll cx sleep with
        | (.ready _, sleep) =>
            some (.ready (some (.error (.technical .timeout))),
              { this with
                source := source, sleep := some sleep, runtime := runtime, done := true })
        | (.pending, sleep) =>
            some (.pending,
              { this with source := source, sleep := some sleep, runtime := runtime })

instance [PollStream S (Event T E)] : PollStream (Timeout S) (Event T E) where
  pollNext := pollNext

end Timeout

/-! ### The methods -/

namespace Observable

/-- `Observable::tap`. -/
def tap [FnMut F T Unit] (contexts : Stream' Context) (source : Observable T E) (f : F) :
    Observable T E :=
  fromStream contexts (Tap.new source f)

/-- `Observable::finalize`. -/
def finalize (contexts : Stream' Context) (source : Observable T E) (f : F) :
    Observable T E :=
  fromStream contexts (Finalize.new source f)

/-- `Observable::delay`. -/
def delay (contexts : Stream' Context) (source : Observable T E) (duration : Nat)
    (runtime : Runtime) : Observable T E :=
  fromStream contexts (Delay.new source duration runtime : Delay (Observable T E) T E)

/-- `Observable::timeout`. -/
def timeout (contexts : Stream' Context) (source : Observable T E) (duration : Nat)
    (runtime : Runtime) : Observable T E :=
  fromStream contexts (Timeout.new source duration runtime)

end Observable

end IceRpc.Rx
