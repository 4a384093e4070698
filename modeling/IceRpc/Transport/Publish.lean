/-
Module: IceRpc.Transport.Publish
Purpose: Publication of one sample, the retrying write both sides go through
  (`ice-rpc/src/transport/publish.rs`), over an iceoryx2 topic: a send offers the
  sample to every connected subscriber.  Which of them take it is not for this code to
  say, so it is an input, and results that rest on it name what they assume.
Trusted boundary: human-reviewed spec; the topic is a model of iceoryx2
Main exports: Topic, Topic.send, Conditions, Conditions.TakenByRoom, tryPublish, publishAttempt,
  publishUntilDelivered, publishOneWay, PublisherPort, PublisherPort.step
-/
import IceRpc.Types.Event
import IceRpc.Types.Header

namespace IceRpc

/-- Who a subscription belongs to.  Consumers and observers are numbered. -/
inductive Port where
  | provider
  | consumer (id : Nat)
  | observer (id : Nat)
deriving Repr, DecidableEq

/-- A published sample as it lies in a buffer: user header and payload. -/
structure Frame where
  header : RpcHeader
  payload : Bytes
deriving Repr, DecidableEq

/-- A connected subscriber and its bounded buffer. -/
structure Subscriber where
  port : Port
  capacity : Nat
  buffer : List Frame
deriving Repr, DecidableEq

namespace Subscriber

def hasRoom (subscriber : Subscriber) : Bool :=
  decide (subscriber.buffer.length < subscriber.capacity)

/-- The sample is put into the buffer of a subscriber that takes it. -/
def offer (takes : Subscriber → Bool) (frame : Frame) (subscriber : Subscriber) : Subscriber :=
  if takes subscriber then
    { subscriber with buffer := subscriber.buffer ++ [frame] }
  else
    subscriber

end Subscriber

/-- The subscribers connected to a pub/sub service. -/
abbrev Topic := List Subscriber

/-- What a send did: the topic after it, and the subscribers that took the
sample. -/
structure Sent where
  topic : Topic
  takers : List Port
deriving Repr, DecidableEq

namespace Topic

/-- `number_of_subscribers`. -/
def numberOfSubscribers (topic : Topic) : Nat := topic.length

/-- A send that reaches nobody. -/
def untouched (topic : Topic) : Sent := { topic := topic, takers := [] }

/-- `SampleMut::send`; it answers the number of takers. -/
def send (topic : Topic) (takes : Subscriber → Bool) (frame : Frame) : Sent :=
  { topic := topic.map (Subscriber.offer takes frame)
    takers := (topic.filter takes).map Subscriber.port }

end Topic

/-- What one iteration of the retry loop meets: the shutdown tokens, the topic
when its subscribers are counted and when the sample is sent, who takes the sample,
the failures of the loan and of the send, the deadline, and the OS termination flag. -/
structure Conditions where
  shutdown : Bool
  counted : Topic
  loanError : Option String
  sendError : Option String
  topic : Topic
  takes : Subscriber → Bool
  expired : Bool
  terminating : Bool

/-- Overflow is disabled and a send waits for nobody: a subscriber takes the sample
exactly if its buffer has room. -/
def Conditions.TakenByRoom (met : Conditions) : Prop :=
  ∀ subscriber ∈ met.topic, met.takes subscriber = subscriber.hasRoom

/-- `try_publish`: loan, write, send.  A zero-length payload still needs a
sample, and a failed loan or send reaches nobody. -/
def tryPublish (header : RpcHeader) (payload : Bytes) (met : Conditions) :
    Except RpcError Bool × Sent :=
  let payload := if payload.isEmpty then [0] else payload
  match met.loanError with
  | some err => (.error (transportError "loan sample" err), met.topic.untouched)
  | none =>
      match met.sendError with
      | some err => (.error (transportError "send sample" err), met.topic.untouched)
      | none =>
          let sent := met.topic.send met.takes { header := header, payload := payload }
          (.ok (decide (sent.takers.length > 0)), sent)

/-- `PUBLISH_SPIN_ATTEMPTS`. -/
def publishSpinAttempts : Nat := 4096

/-- `backoff`: a burst of yields, then short sleeps that sample the termination
flag.  Answers the attempts counted so far. -/
def backoff (attempts : Nat) (met : Conditions) : Except RpcError Nat :=
  if attempts < publishSpinAttempts then
    .ok (attempts + 1)
  else if met.terminating then
    .error .cancelled
  else
    .ok attempts

/-- How one iteration of the loop ended. -/
inductive Progress where
  | retry (attempts : Nat)
  | returned (result : Except RpcError Unit)

/-- The tail of an iteration that delivered nothing. -/
def Progress.ofBackoff (attempts : Nat) (met : Conditions) : Progress :=
  match backoff attempts met with
  | .ok attempts => .retry attempts
  | .error err => .returned (.error err)

/-- One iteration of `publish_until_delivered`, with the takers of its send. -/
def publishAttempt (header : RpcHeader) (payload : Bytes) (attempts : Nat)
    (met : Conditions) : Progress × List Port :=
  if met.shutdown then
    (.returned (.error .cancelled), [])
  else if met.counted.numberOfSubscribers = 0 then
    if met.expired then
      (.returned (.error
        (.transportError "no subscriber connected (is the provider running?)")), [])
    else
      (.ofBackoff attempts met, [])
  else
    match tryPublish header payload met with
    | (.error err, sent) => (.returned (.error err), sent.takers)
    | (.ok true, sent) => (.returned (.ok ()), sent.takers)
    | (.ok false, sent) =>
        -- Subscriber connected but buffer full: backpressure, not a missing peer.
        if met.expired then
          (.returned (.error
            (.transportError "delivery refused: the subscriber buffer stayed full")),
            sent.takers)
        else
          (.ofBackoff attempts met, sent.takers)

/-- `publish_until_delivered` over the conditions its iterations meet, with
everyone who took the sample in the course of the run.  `none` when the
conditions run out before it returned. -/
def publishUntilDelivered (header : RpcHeader) (payload : Bytes) :
    Nat → List Conditions → Option (Except RpcError Unit × List Port)
  | _, [] => none
  | attempts, met :: later =>
      match publishAttempt header payload attempts met with
      | (.returned result, takers) => some (result, takers)
      | (.retry attempts, takers) =>
          (publishUntilDelivered header payload attempts later).map
            fun (result, others) => (result, takers ++ others)

/-- `publish_one_way`: one sample, once, if a subscriber is connected. -/
def publishOneWay (header : RpcHeader) (payload : Bytes) (met : Conditions) :
    Except RpcError Bool × List Port :=
  if met.counted.numberOfSubscribers = 0 then
    (.ok false, [])
  else
    let (result, sent) := tryPublish header payload met
    (result, sent.takers)

/-! ### The threads of one publisher port -/

/-- What a thread calls once its header is stamped. -/
inductive PublishMode where
  /-- `publish_until_delivered`: a request, or a response of a hub. -/
  | untilDelivered
  /-- `publish_one_way`, from `send_one_way`. -/
  | oneWay
  /-- `publish_best_effort`, from `publish_cancel`. -/
  | bestEffort
deriving Repr, DecidableEq

/-- A publication under way: the stamped header, and the attempts so far. -/
structure Publication where
  mode : PublishMode
  header : RpcHeader
  payload : Bytes
  attempts : Nat
deriving Repr, DecidableEq

/-- One iteration of a publication: the attempts to go on with, unless it returned,
and the subscribers that took the sample. -/
def Publication.attempt (publication : Publication) (met : Conditions) :
    Option Nat × List Port :=
  match publication.mode with
  | .untilDelivered =>
      match publishAttempt publication.header publication.payload publication.attempts met with
      | (.retry attempts, takers) => (some attempts, takers)
      | (.returned _, takers) => (none, takers)
  | .oneWay => (none, (publishOneWay publication.header publication.payload met).2)
  | .bestEffort => (none, (tryPublish publication.header [] met).2.takers)

/-- A publisher port: its atomic sample counter, the publications of its threads, and
the samples that a subscriber took, in the order they were sent. -/
structure PublisherPort where
  seq : UInt64
  pending : List Publication
  sent : List RpcHeader
deriving Repr, DecidableEq

/-- A step of one of the threads that share a port. -/
inductive PortAction where
  /-- `fetch_add`: the header is stamped, and its publication may begin. -/
  | stamp (mode : PublishMode) (header : RpcHeader) (payload : Bytes)
  /-- The publication at this index goes through one iteration. -/
  | attempt (index : Nat) (met : Conditions)

namespace PublisherPort

def new : PublisherPort := { seq := 0, pending := [], sent := [] }

/-- One step of a port. -/
def step (port : PublisherPort) : PortAction → Option PublisherPort
  | .stamp mode header payload =>
      some { port with
        seq := port.seq + 1
        pending := port.pending ++
          [{ mode := mode, header := header.withSeq port.seq, payload := payload,
             attempts := 0 }] }
  | .attempt index met =>
      port.pending[index]?.map fun publication =>
        let (more, takers) := publication.attempt met
        { port with
          pending :=
            match more with
            | some attempts => port.pending.set index { publication with attempts := attempts }
            | none => port.pending.eraseIdx index
          sent := if takers.isEmpty then port.sent else port.sent ++ [publication.header] }

end PublisherPort

end IceRpc
