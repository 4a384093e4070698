/-
Module: IceRpc.Transport.Notify
Purpose: The coalescing of wake-up notifications (`ice-rpc/src/transport/notify.rs`): one
  coalescer with any number of concurrent calls of `should_notify`.
Trusted boundary: human-reviewed spec; loads and stores of the atomic are interleaved
Main exports: notifyCoalesceWindow, NotifyPhase, NotifyCall, Coalescer, NotifyAction,
  Coalescer.step
-/

namespace IceRpc

/-- `NOTIFY_COALESCE_WINDOW`, in microseconds. -/
def notifyCoalesceWindow : UInt64 := 100

/-- `NEVER`: this coalescer has never notified. -/
def never : UInt64 := 0

/-- `u64::saturating_sub`. -/
def saturatingSub (first second : UInt64) : UInt64 :=
  if second ≤ first then first - second else 0

/-- Where a call of `should_notify` stands. -/
inductive NotifyPhase where
  /-- The clock is read; about to load. -/
  | loading
  /-- What was loaded lies outside the window; about to store. -/
  | storing
  | answering (answer : Bool)
  | returned (answer : Bool)
  /-- The shift of the reading overflowed, where overflow is checked. -/
  | panicked
deriving Repr, DecidableEq

/-- A call of `should_notify`, with its reading of `clock_us`. -/
structure NotifyCall where
  reading : UInt64
  phase : NotifyPhase
deriving Repr, DecidableEq

/-- The local `now`: the reading, shifted by one. -/
def NotifyCall.now (call : NotifyCall) : UInt64 := call.reading + 1

/-- `Coalescer`, with the calls on it in the order in which they read the clock. -/
structure Coalescer where
  last : UInt64
  calls : List NotifyCall
deriving Repr, DecidableEq

/-- The steps of the calls. -/
inductive NotifyAction where
  /-- A call starts and reads the clock. -/
  | call (reading : UInt64)
  | load (index : Nat)
  | store (index : Nat)
  | answer (index : Nat)
deriving Repr, DecidableEq

namespace Coalescer

/-- `Coalescer::new`. -/
def new : Coalescer := { last := never, calls := [] }

def setPhase (coalescer : Coalescer) (index : Nat) (call : NotifyCall) (phase : NotifyPhase) :
    Coalescer :=
  { coalescer with calls := coalescer.calls.set index { call with phase := phase } }

/-- Whether the time that was loaded suppresses a notification at `now`. -/
def suppresses (previous now : UInt64) : Bool :=
  previous ≠ never && saturatingSub now previous < notifyCoalesceWindow

/-- One step of `should_notify`; `checked` tells whether the build checks for overflow, as a
debug build does. -/
def step (checked : Bool) (coalescer : Coalescer) : NotifyAction → Option Coalescer
  | .call reading =>
      let overflows := checked && reading.toNat + 1 = UInt64.size
      let phase := if overflows then .panicked else .loading
      some { coalescer with
        calls := coalescer.calls ++ [{ reading := reading, phase := phase }] }
  | .load index => do
      let call ← coalescer.calls[index]?
      match call.phase with
      | .loading =>
          if suppresses coalescer.last call.now then
            some (coalescer.setPhase index call (.answering false))
          else
            some (coalescer.setPhase index call .storing)
      | _ => none
  | .store index => do
      let call ← coalescer.calls[index]?
      match call.phase with
      | .storing =>
          some { coalescer.setPhase index call (.answering true) with last := call.now }
      | _ => none
  | .answer index => do
      let call ← coalescer.calls[index]?
      match call.phase with
      | .answering answer => some (coalescer.setPhase index call (.returned answer))
      | _ => none

end Coalescer

end IceRpc
