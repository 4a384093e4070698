/-
Module: IceRpc.Transport.Pump
Purpose: The receive loop of both dispatch threads (`ice-rpc/src/transport/pump.rs`) and
  the wait it blocks in (`ice-rpc/src/transport/waitset.rs`), beside the senders.
Trusted boundary: human-reviewed spec; what iceoryx2 and the OS answer is an input
Main exports: Wakeup, waitForWakeup, Dispatcher, DispatcherAction, Dispatcher.step
-/
import IceRpc.Types.Header

namespace IceRpc

/-- `SIGNAL_CHECK_SAMPLES`. -/
def signalCheckSamples : UInt32 := 256

/-- `IDLE_SPINS`. -/
def maxIdleSpins : UInt32 := 2000

/-- What a wait on the `WaitSet` comes back with: whether the notification fired, and
whether it was a request to terminate or an interrupt that ended it. -/
structure Wakeup where
  notified : Bool
  terminated : Bool
deriving Repr, DecidableEq

/-- `wait_for_wakeup`: whether there may be something to poll, and whether a shutdown
was requested. -/
def waitForWakeup (wakeup : Wakeup) : Bool × Bool :=
  if wakeup.terminated then (true, true) else (wakeup.notified, false)

/-- Where the thread stands.  An iteration that blocks is not one step: the senders run
on between the receive that found nothing, the return of the `WaitSet` and the
`try_wait` that clears the notification. -/
inductive DispatcherPhase where
  | polling
  | waiting
  | woken (wakeup : Wakeup)
  | stopped
deriving Repr, DecidableEq

/-- A dispatch thread: the counters of its loop, the samples handed to `handle` and
whether the token that `stop` reads is cancelled, by another thread or by its own
`request_shutdown`; and its subscriber's buffer, the notification its listener holds, and
how many senders of these samples have not yet asked `should_notify`. -/
structure Dispatcher (α : Type) where
  idleSpins : UInt32
  signalTicks : UInt32
  phase : DispatcherPhase
  handled : List α
  shutdown : Bool
  buffer : List α
  notification : Bool
  owed : Nat
deriving Repr, DecidableEq

inductive DispatcherAction (α : Type) where
  | send (content : α)
  /-- A sender asks `should_notify`, which may coalesce its notification away. -/
  | notify (answer : Bool)
  /-- A notification for a sample that this subscriber did not take. -/
  | stray
  /-- Another thread cancels the token. -/
  | cancel
  /-- The thread goes through the head of the loop: whether the receive fails, and the
  termination flag of the process. -/
  | poll (failing terminating : Bool)
  /-- The `WaitSet` returns: for the notification, for a signal, or at the deadline. -/
  | wake (wakeup : Wakeup)
  /-- `try_wait`, and back to the head of the loop. -/
  | resume
deriving Repr, DecidableEq

namespace Dispatcher

variable {α : Type}

def new : Dispatcher α :=
  { idleSpins := 0, signalTicks := 0, phase := .polling, handled := [], shutdown := false
    buffer := [], notification := false, owed := 0 }

/-- A sample was received.  Only every `SIGNAL_CHECK_SAMPLES`-th one looks at the
termination flag, and a loop that breaks there does not handle it. -/
def onSample (dispatcher : Dispatcher α) (terminating : Bool) (content : α)
    (rest : List α) : Dispatcher α :=
  let ticks := dispatcher.signalTicks + 1
  let taken := { dispatcher with idleSpins := 0, signalTicks := ticks, buffer := rest }
  if ticks &&& (signalCheckSamples - 1) = 0 && terminating then
    { taken with shutdown := true, phase := .stopped }
  else
    { taken with handled := dispatcher.handled ++ [content] }

/-- One iteration of `run_receive_loop`, up to the `WaitSet` if it blocks. -/
def poll (dispatcher : Dispatcher α) (failing terminating : Bool) : Dispatcher α :=
  if dispatcher.shutdown then { dispatcher with phase := .stopped }
  else if failing then { dispatcher with idleSpins := 0 }
  else match dispatcher.buffer with
    | content :: rest => dispatcher.onSample terminating content rest
    | [] =>
        if dispatcher.idleSpins < maxIdleSpins then
          { dispatcher with idleSpins := dispatcher.idleSpins + 1 }
        else
          { dispatcher with phase := .waiting }

/-- `try_wait`, and the end of the iteration that blocked: only a notification means
something to poll. -/
def resumed (dispatcher : Dispatcher α) (wakeup : Wakeup) : Dispatcher α :=
  let woken := waitForWakeup wakeup
  { dispatcher with
    notification := false
    phase := .polling
    idleSpins := if woken.1 then 0 else maxIdleSpins
    shutdown := dispatcher.shutdown || woken.2 }

/-- One step of the thread or of a sender. -/
def step (dispatcher : Dispatcher α) : DispatcherAction α → Option (Dispatcher α)
  | .send content =>
      some { dispatcher with
        buffer := dispatcher.buffer ++ [content], owed := dispatcher.owed + 1 }
  | .notify answer =>
      if 0 < dispatcher.owed then
        some { dispatcher with
          notification := dispatcher.notification || answer, owed := dispatcher.owed - 1 }
      else
        none
  | .stray => some { dispatcher with notification := true }
  | .cancel => some { dispatcher with shutdown := true }
  | .poll failing terminating =>
      if dispatcher.phase = .polling then some (dispatcher.poll failing terminating)
      else none
  | .wake wakeup =>
      -- the notification is reported only while the listener holds it
      if dispatcher.phase = .waiting ∧ (wakeup.notified → dispatcher.notification) then
        some { dispatcher with phase := .woken wakeup }
      else
        none
  | .resume =>
      match dispatcher.phase with
      | .woken wakeup => some (dispatcher.resumed wakeup)
      | _ => none

end Dispatcher

end IceRpc
