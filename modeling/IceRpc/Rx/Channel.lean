/-
Module: IceRpc.Rx.Channel
Purpose: An observable over a local channel: the sender clones that push into it
  (`ice-rpc-rx/src/event.rs`) and the four ways to read it (`recv`, `next` and their
  blocking twins, `ice-rpc-rx/src/stream.rs`).
Trusted boundary: human-reviewed spec; the channel is a model of async_channel: a queue
  that is closed once the last sender is dropped
Main exports: RecvError, ChannelStream, ChannelStream.recv, ChannelStream.next,
  ChannelStream.recvBlocking, ChannelStream.nextBlocking, ChannelAction, ChannelStream.step
-/
import IceRpc.Lib.Run
import IceRpc.Types.Event

namespace IceRpc.Rx

open Lib

variable {T E : Type}

/-- `async_channel::RecvError`: the channel is empty and closed. -/
inductive RecvError where
  | closed
deriving Repr, DecidableEq

/-- An observable over a channel: the events queued, the bound of the queue if it has
one, the sender clones alive, and whether a terminal was delivered. -/
structure ChannelStream (T E : Type) where
  queue : List (Event T E)
  capacity : Option Nat
  senders : Nat
  terminated : Bool
deriving Repr, DecidableEq

/-- What `next` answers. -/
abbrev NextResult (T E : Type) := Option (Except (ObservableError E) T)

namespace ChannelStream

/-- `channel` or, without a bound, `unbounded_channel`: one sender, one observable. -/
def new (capacity : Option Nat) : ChannelStream T E :=
  { queue := [], capacity := capacity, senders := 1, terminated := false }

variable (this : ChannelStream T E)

/-- The queue takes one event more. -/
def hasRoom : Bool :=
  match this.capacity with
  | none => true
  | some bound => decide (this.queue.length < bound)

/-- `Sender::send_event`, when it succeeds. -/
def sendEvent (event : Event T E) : Option (ChannelStream T E) :=
  if this.senders = 0 ∨ this.hasRoom = false then none
  else some { this with queue := this.queue ++ [event] }

/-- `Sender::clone`. -/
def cloneSender : Option (ChannelStream T E) :=
  if this.senders = 0 then none else some { this with senders := this.senders + 1 }

/-- A sender is dropped. -/
def dropSender : Option (ChannelStream T E) :=
  if this.senders = 0 then none else some { this with senders := this.senders - 1 }

/-- `Receiver::recv`, once it resolves: the next event, or the close of an empty
channel. -/
def receive : Option (Except RecvError (Event T E) × ChannelStream T E) :=
  match this.queue with
  | event :: queue => some (.ok event, { this with queue := queue })
  | [] => if this.senders = 0 then some (.error .closed, this) else none

/-- The flag set when a terminal is delivered. -/
def deliver : Except RecvError (Event T E) × ChannelStream T E →
    Except RecvError (Event T E) × ChannelStream T E
  | (.ok event, this) =>
      (.ok event, if event.isTerminal then { this with terminated := true } else this)
  | (.error err, this) => (.error err, this)

/-- `Observable::recv`. -/
def recv : Option (Except RecvError (Event T E) × ChannelStream T E) :=
  this.receive.map deliver

/-- `Observable::recv_blocking`. -/
def recvBlocking : Option (Except RecvError (Event T E) × ChannelStream T E) :=
  this.receive.map deliver

/-- The value read off an event: an abrupt end is reported once. -/
def nextOf : Except RecvError (Event T E) × ChannelStream T E →
    NextResult T E × ChannelStream T E
  | (.ok (.next value), this) => (some (.ok value), this)
  | (.ok (.error err), this) => (some (.error err), this)
  | (.ok .complete, this) => (none, this)
  | (.error _, this) =>
      if this.terminated then (none, this)
      else
        (some (.error (.technical (.transportError "stream closed before completion"))),
          { this with terminated := true })

/-- `Observable::next`, once it resolves. -/
def next : Option (NextResult T E × ChannelStream T E) :=
  this.recv.map nextOf

/-- `Observable::next_blocking`, once it returns. -/
def nextBlocking : Option (NextResult T E × ChannelStream T E) :=
  this.recvBlocking.map nextOf

end ChannelStream

/-- What the producers and the consumer of a channel do. -/
inductive ChannelAction (T E : Type) where
  | cloneSender
  | push (event : Event T E)
  | dropSender
  /-- A call of `next` that returns. -/
  | next
  /-- A call of `next_blocking` that returns. -/
  | nextBlocking
deriving Repr, DecidableEq

/-- The event that is pushed. -/
def ChannelAction.pushed : ChannelAction T E → Option (Event T E)
  | .push event => some event
  | _ => none

namespace ChannelStream

/-- One step of a channel. -/
def step (this : ChannelStream T E) : ChannelAction T E → Option (ChannelStream T E)
  | .cloneSender => this.cloneSender
  | .push event => this.sendEvent event
  | .dropSender => this.dropSender
  | .next => this.next.map Prod.snd
  | .nextBlocking => this.nextBlocking.map Prod.snd

/-- What the consumer is answered in a step. -/
def answered (this : ChannelStream T E) : ChannelAction T E → List (NextResult T E)
  | .next => (this.next.map Prod.fst).toList
  | .nextBlocking => (this.nextBlocking.map Prod.fst).toList
  | _ => []

/-- All answers of a run, in their order. -/
def answers (this : ChannelStream T E) (actions : List (ChannelAction T E)) :
    List (NextResult T E) :=
  trail step answered this actions

end ChannelStream

end IceRpc.Rx
