/-
Module: IceRpc.Rx.Subject
Purpose: The multicast source (`ice-rpc-rx/src/subject.rs`): its replay buffer, its
  terminal state and the queues of its subscribers, operation by operation in the
  order of the emit lock.
Trusted boundary: human-reviewed spec; a subscriber's unbounded queue is the list of
  the events it was sent
Main exports: SubjectState, Subject, Subject.replay, Subject.subscribe, Subject.next,
  Subject.complete, Subject.error, SubjectCall, Subject.perform
-/
import Mathlib.Logic.Function.Basic
import IceRpc.Types.Event

namespace IceRpc

variable {T E : Type}

/-- Name of a subscriber's channel. -/
abbrev ChannelId := Nat

/-- The unbounded channel of one subscriber: the events sent into it, and whether its
receiver was dropped. -/
structure SubscriberChannel (T E : Type) where
  received : List (Event T E)
  closed : Bool

/-- `Sender::send_event`: a closed channel takes nothing, and the failure is
ignored. -/
def SubscriberChannel.sendEvent (channel : SubscriberChannel T E) (event : Event T E) :
    SubscriberChannel T E :=
  if channel.closed then channel
  else { channel with received := channel.received ++ [event] }

/-- The state behind the lock of a subject. -/
structure SubjectState (T E : Type) where
  replay : List T
  capacity : Nat
  completed : Bool
  error : Option (ObservableError E)
  subscribers : List ChannelId

/-- `State::is_terminated`. -/
def SubjectState.isTerminated (state : SubjectState T E) : Bool :=
  state.completed || state.error.isSome

/-- `State::terminal_event`: the event a late subscriber observes after the replayed
values. -/
def SubjectState.terminalEvent (state : SubjectState T E) : Option (Event T E) :=
  match state.error with
  | some err => some (.error err)
  | none => if state.completed then some .complete else none

/-- A subject and the channels of all subscribers it ever had, the dropped ones
included. -/
structure Subject (T E : Type) where
  state : SubjectState T E
  channels : ChannelId → SubscriberChannel T E
  nextChannel : ChannelId

namespace Subject

/-- `Subject::replay`: a subject that keeps the last `capacity` values. -/
def replay (capacity : Nat) : Subject T E :=
  { state :=
      { replay := []
        capacity := capacity
        completed := false
        error := none
        subscribers := [] }
    channels := fun _ => { received := [], closed := false }
    nextChannel := 0 }

/-- `Subject::new`. -/
def new : Subject T E := replay 0

variable (subject : Subject T E)

/-- `State::retain_live`: forget the subscribers whose receiver is gone. -/
def retainLive : Subject T E :=
  { subject with
    state :=
      { subject.state with
        subscribers := subject.state.subscribers.filter fun id =>
          !(subject.channels id).closed } }

/-- Send an event into one channel. -/
def sendTo (event : Event T E) (channels : ChannelId → SubscriberChannel T E)
    (id : ChannelId) : ChannelId → SubscriberChannel T E :=
  Function.update channels id ((channels id).sendEvent event)

/-- Send an event to the subscribers, one after the other. -/
def broadcast (event : Event T E) : Subject T E :=
  { subject with
    channels := subject.state.subscribers.foldl (sendTo event) subject.channels }

/-- `Subject::subscribe`: a new channel with what the subject kept, registered unless
the subject is terminated. -/
def subscribe : Subject T E :=
  let kept := subject.state.replay.map Event.next ++
    subject.state.terminalEvent.toList
  { state :=
      { subject.state with
        subscribers :=
          if subject.state.isTerminated then subject.state.subscribers
          else subject.state.subscribers ++ [subject.nextChannel] }
    channels := Function.update subject.channels subject.nextChannel
      { received := kept, closed := false }
    nextChannel := subject.nextChannel + 1 }

/-- The sliding window of `next`. -/
def pushReplay (state : SubjectState T E) (value : T) : SubjectState T E :=
  if 0 < state.capacity then
    let kept := if state.replay.length = state.capacity then state.replay.tail
      else state.replay
    { state with replay := kept ++ [value] }
  else
    state

/-- `Subject::next`. -/
def next (value : T) : Subject T E :=
  if subject.state.isTerminated then subject
  else
    ({ subject with state := pushReplay subject.state value }.retainLive).broadcast
      (.next value)

/-- `Subject::complete`. -/
def complete : Subject T E :=
  if subject.state.isTerminated then subject
  else
    ({ subject with state := { subject.state with completed := true } }.retainLive).broadcast
      .complete

/-- `Subject::error`: the error of a subject is a business error. -/
def error (err : E) : Subject T E :=
  if subject.state.isTerminated then subject
  else
    ({ subject with
        state := { subject.state with error := some (.business err) } }.retainLive).broadcast
      (.error (.business err))

/-- The drop of a subscriber's stream. -/
def drop (id : ChannelId) : Subject T E :=
  { subject with
    channels := Function.update subject.channels id
      { subject.channels id with closed := true } }

end Subject

/-- What can happen to a subject, in the order of the emit lock. -/
inductive SubjectCall (T E : Type) where
  | subscribe
  | next (value : T)
  | complete
  | error (err : E)
  | drop (subscriber : ChannelId)

/-- One operation on a subject. -/
def Subject.perform (subject : Subject T E) : SubjectCall T E → Subject T E
  | .subscribe => subject.subscribe
  | .next value => subject.next value
  | .complete => subject.complete
  | .error err => subject.error err
  | .drop subscriber => subject.drop subscriber

end IceRpc
