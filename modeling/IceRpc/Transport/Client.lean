/-
Module: IceRpc.Transport.Client
Purpose: The consumer side of one channel (`ice-rpc/src/transport/client.rs`):
  the handler table, the life of each `native_call`, the response dispatcher and
  the drop of a response stream, as threads that interleave step by step.
Trusted boundary: human-reviewed spec
Main exports: handleSample, ConsumerPorts, ClientAction, ConsumerPorts.step,
  streamReceives
-/
import Mathlib.Logic.Function.Basic
import IceRpc.Lib.Ending
import IceRpc.Lib.Run
import IceRpc.Transport.Publish
import IceRpc.Types.Wire

namespace IceRpc

variable {T E : Type}

/-! ### The response handler of one call -/

/-- What the handler of a call does with one sample: the event it sends, the
follow-up of a folded pair, and whether the call is over. -/
structure Delivery (T E : Type) where
  event : Event T E
  followUp : Option (Event T E)
  terminal : Bool
deriving DecidableEq

/-- Both events of a delivery, in the order they are sent. -/
def Delivery.events (delivery : Delivery T E) : List (Event T E) :=
  delivery.event :: delivery.followUp.toList

/-- The `ResponseHandler` of a call: a bare `RpcError` under the kind `rpcError`,
the method's wire event otherwise.  What does not decode ends the call. -/
def handleSample (rkyv : Rkyv T E) (sample : Sample) : Delivery T E :=
  if sample.kind = .rpcError then
    let err :=
      match rkyv.decodeRpc sample.payload with
      | .ok err => err
      | .error e => transportError "decode rpc error" e
    { event := .error (.technical err), followUp := none, terminal := true }
  else
    match rkyv.decodeWire sample.payload with
    | .ok wire =>
        { event := (normalizeWireEvent wire).1
          followUp := (normalizeWireEvent wire).2
          terminal := wire.isTerminal }
    | .error e =>
        { event := .error (.technical (transportError "decode response" e))
          followUp := none
          terminal := true }

/-- The sample ends the call it belongs to. -/
def endsCall (rkyv : Rkyv T E) (sample : Sample) : Bool :=
  (handleSample rkyv sample).terminal

/-- What the stream of a call is to receive for the samples of that call: their
normalization up to and including the first sample that ends the call. -/
def streamReceives (rkyv : Rkyv T E) (samples : List Sample) : List (Event T E) :=
  (Lib.upToFirst (endsCall rkyv) samples).flatMap fun sample =>
    (handleSample rkyv sample).events

/-! ### The threads of one channel -/

/-- Where the life of a call stands. -/
inductive Phase where
  /-- `native_call` is inside `publish_until_delivered`. -/
  | publishing (attempts : Nat)
  /-- The publication failed; the handler is about to be released. -/
  | refused (err : RpcError)
  /-- `native_call` returned `Err`. -/
  | failed (err : RpcError)
  /-- `native_call` returned the response stream, which is alive. -/
  | live
  /-- The drop of the stream read its `terminated` flag. -/
  | dropping (terminated : Bool)
  /-- The cleanup found an abandoned call in flight. -/
  | cancelling
  /-- The cleanup is done; the receiver is not closed yet. -/
  | closing
  | dropped
deriving Repr, DecidableEq

/-- Where a call goes after one iteration of its publication. -/
def Phase.ofProgress : Progress → Phase
  | .retry attempts => .publishing attempts
  | .returned (.error err) => .refused err
  | .returned (.ok ()) => .live

/-- One `native_call`: its codec, its request, its response channel (events
waiting in it and events its stream has taken), and the `terminated` flag of the
stream. -/
structure Call (T E : Type) where
  rkyv : Rkyv T E
  header : RpcHeader
  payload : Bytes
  phase : Phase
  queue : List (Event T E)
  taken : List (Event T E)
  terminated : Bool

/-- A call that has just registered its handler. -/
def Call.registered (rkyv : Rkyv T E) (header : RpcHeader) (payload : Bytes) :
    Call T E :=
  { rkyv := rkyv
    header := header
    payload := payload
    phase := .publishing 0
    queue := []
    taken := []
    terminated := false }

/-- Every event the channel of the call accepted, in order. -/
def Call.received (call : Call T E) : List (Event T E) := call.taken ++ call.queue

/-- The receiving end exists. -/
def Call.isOpen (call : Call T E) : Bool :=
  match call.phase with
  | .failed _ | .dropped => false
  | _ => true

/-- What the dispatcher still has to do for the sample at hand. -/
inductive Work (T E : Type) where
  | sending (delivery : Delivery T E)
  | sendingFollowUp (event : Event T E) (terminal : Bool)
  | releasing
deriving DecidableEq

/-- The work left once every event of a sample was sent. -/
def Work.finished (terminal : Bool) : Option (Work T E) :=
  if terminal then some .releasing else none

/-- The work left once the first event of a delivery was accepted. -/
def Delivery.afterFirst (delivery : Delivery T E) : Option (Work T E) :=
  match delivery.followUp with
  | some event => some (.sendingFollowUp event delivery.terminal)
  | none => Work.finished delivery.terminal

/-- The request sample an attempt with these takers adds to the record. -/
def delivered (header : RpcHeader) (takers : List Port) : List RpcHeader :=
  if takers.isEmpty then [] else [header]

/-- The consumed channel.  `requests` and `cancels` record the request samples a
subscriber took and the Cancel samples handed to the publisher. -/
structure ConsumerPorts (T E : Type) where
  handlers : CorrelationId → Option (Rkyv T E)
  calls : CorrelationId → Option (Call T E)
  dispatcher : Option (CorrelationId × Work T E)
  seq : UInt64
  requests : List RpcHeader
  cancels : List RpcHeader

/-- One atomic step of one of the threads of a channel. -/
inductive ClientAction (T E : Type) where
  /-- `native_call` builds its header and registers its handler. -/
  | call (cid : CorrelationId) (rkyv : Rkyv T E) (methodId : UInt32)
      (service : ServiceRef) (trace : TraceContext) (payload : Bytes) (now : UInt64)
  /-- One iteration of the publication of a call. -/
  | attempt (cid : CorrelationId) (met : Conditions)
  /-- A failed publication releases the handler and returns the error. -/
  | giveUp (cid : CorrelationId)
  /-- The dispatcher takes up a response sample and looks its handler up. -/
  | sample (header : RpcHeader) (payload : Bytes)
  /-- The handler at work performs its next `try_send_event`. -/
  | trySend
  /-- The handler at work performs its `release_handler`. -/
  | release
  /-- The consumer receives the next event of its stream. -/
  | recv (cid : CorrelationId)
  /-- The consumer starts to drop its stream. -/
  | drop (cid : CorrelationId)
  /-- The cleanup of a dropped stream releases the handler. -/
  | cleanup (cid : CorrelationId)
  /-- The cleanup publishes the Cancel of an abandoned call. -/
  | publishCancel (cid : CorrelationId) (now : UInt64)
  /-- The receiver of a dropped stream closes. -/
  | close (cid : CorrelationId)

namespace ConsumerPorts

/-- A channel on which nothing happened yet. -/
def new : ConsumerPorts T E :=
  { handlers := fun _ => none
    calls := fun _ => none
    dispatcher := none
    seq := 0
    requests := []
    cancels := [] }

variable (ports : ConsumerPorts T E)

def setCall (cid : CorrelationId) (call : Call T E) : ConsumerPorts T E :=
  { ports with calls := Function.update ports.calls cid (some call) }

/-- `release_handler`: remove the entry and answer whether it was still there. -/
def releaseHandler (cid : CorrelationId) : ConsumerPorts T E × Bool :=
  ({ ports with handlers := Function.update ports.handlers cid none },
    (ports.handlers cid).isSome)

/-- `try_send_event` on the unbounded channel of a call: refused only once the
receiver is gone. -/
def trySendEvent (cid : CorrelationId) (event : Event T E) : ConsumerPorts T E × Bool :=
  match ports.calls cid with
  | some call =>
      if call.isOpen then
        (ports.setCall cid { call with queue := call.queue ++ [event] }, true)
      else
        (ports, false)
  | none => (ports, false)

/-- The header `native_call` builds. -/
def requestHeader (cid : CorrelationId) (methodId : UInt32) (service : ServiceRef)
    (trace : TraceContext) (now : UInt64) : RpcHeader :=
  (((RpcHeader.request cid methodId service.id service.version now).withTrace
    trace).withSpanId trace.parentSpanId).withSeq ports.seq

/-- The header of the Cancel `publish_cancel` builds. -/
def cancelHeader (call : Call T E) (now : UInt64) : RpcHeader :=
  (RpcHeader.cancelFrom call.header now).withSeq ports.seq

/-- `native_call` up to the registration of its handler.  Correlation ids are
fresh. -/
def call (cid : CorrelationId) (rkyv : Rkyv T E) (methodId : UInt32) (service : ServiceRef)
    (trace : TraceContext) (payload : Bytes) (now : UInt64) : Option (ConsumerPorts T E) :=
  match ports.calls cid with
  | some _ => none
  | none =>
      let header := ports.requestHeader cid methodId service trace now
      some
        { ports with
          handlers := Function.update ports.handlers cid (some rkyv)
          calls := Function.update ports.calls cid
            (some (.registered rkyv header payload))
          seq := ports.seq + 1 }

/-- One iteration of `publish_until_delivered` inside `native_call`. -/
def attempt (cid : CorrelationId) (met : Conditions) : Option (ConsumerPorts T E) :=
  match ports.calls cid with
  | some call =>
      match call.phase with
      | .publishing attempts =>
          let attempted := publishAttempt call.header call.payload attempts met
          some
            { ports.setCall cid { call with phase := .ofProgress attempted.1 } with
              requests := ports.requests ++ delivered call.header attempted.2 }
      | _ => none
  | none => none

/-- The error exit of `native_call`. -/
def giveUp (cid : CorrelationId) : Option (ConsumerPorts T E) :=
  match ports.calls cid with
  | some call =>
      match call.phase with
      | .refused err =>
          some ((ports.releaseHandler cid).1.setCall cid
            { call with phase := .failed err })
      | _ => none
  | none => none

/-- The dispatcher clones the handler out of the table; a sample without one is
skipped. -/
def sample (header : RpcHeader) (payload : Bytes) : Option (ConsumerPorts T E) :=
  match ports.dispatcher with
  | some _ => none
  | none =>
      match ports.handlers header.correlationId with
      | some rkyv =>
          some
            { ports with
              dispatcher := some (header.correlationId,
                .sending (handleSample rkyv ⟨header.eventKind, payload⟩)) }
      | none => some ports

/-- The next `try_send_event` of the handler at work.  A refused first event
ends the handler; the answer for a follow-up is ignored. -/
def trySend : Option (ConsumerPorts T E) :=
  match ports.dispatcher with
  | some (cid, .sending delivery) =>
      let sent := ports.trySendEvent cid delivery.event
      some
        { sent.1 with
          dispatcher :=
            if sent.2 then delivery.afterFirst.map (Prod.mk cid)
            else some (cid, .releasing) }
  | some (cid, .sendingFollowUp event terminal) =>
      let sent := ports.trySendEvent cid event
      some { sent.1 with dispatcher := (Work.finished terminal).map (Prod.mk cid) }
  | _ => none

/-- The `release_handler` of the handler at work. -/
def release : Option (ConsumerPorts T E) :=
  match ports.dispatcher with
  | some (cid, .releasing) =>
      some { (ports.releaseHandler cid).1 with dispatcher := none }
  | _ => none

/-- `Observable::recv` on a stream with an event waiting. -/
def recv (cid : CorrelationId) : Option (ConsumerPorts T E) :=
  match ports.calls cid with
  | some call =>
      match call.phase, call.queue with
      | .live, event :: queue =>
          some (ports.setCall cid
            { call with
              queue := queue
              taken := call.taken ++ [event]
              terminated := call.terminated || event.isTerminal })
      | _, _ => none
  | none => none

/-- `Observable::drop` reads the flag before it runs the cleanup. -/
def drop (cid : CorrelationId) : Option (ConsumerPorts T E) :=
  match ports.calls cid with
  | some call =>
      match call.phase with
      | .live =>
          some (ports.setCall cid { call with phase := .dropping call.terminated })
      | _ => none
  | none => none

/-- The cleanup releases the handler: only a call that is still in flight and
delivered no terminal event is abandoned. -/
def cleanup (cid : CorrelationId) : Option (ConsumerPorts T E) :=
  match ports.calls cid with
  | some call =>
      match call.phase with
      | .dropping terminated =>
          let released := ports.releaseHandler cid
          some (released.1.setCall cid
            { call with
              phase := if !terminated && released.2 then .cancelling else .closing })
      | _ => none
  | none => none

/-- `publish_cancel`: one sample that consumes the channel sequence, best
effort. -/
def publishCancel (cid : CorrelationId) (now : UInt64) : Option (ConsumerPorts T E) :=
  match ports.calls cid with
  | some call =>
      match call.phase with
      | .cancelling =>
          some
            { ports.setCall cid { call with phase := .closing } with
              seq := ports.seq + 1
              cancels := ports.cancels ++ [ports.cancelHeader call now] }
      | _ => none
  | none => none

/-- The receiver goes with the stream. -/
def close (cid : CorrelationId) : Option (ConsumerPorts T E) :=
  match ports.calls cid with
  | some call =>
      match call.phase with
      | .closing => some (ports.setCall cid { call with phase := .dropped })
      | _ => none
  | none => none

/-- One step of the channel; `none` when the action is not enabled. -/
def step : ClientAction T E → Option (ConsumerPorts T E)
  | .call cid rkyv methodId service trace payload now =>
      ports.call cid rkyv methodId service trace payload now
  | .attempt cid met => ports.attempt cid met
  | .giveUp cid => ports.giveUp cid
  | .sample header payload => ports.sample header payload
  | .trySend => ports.trySend
  | .release => ports.release
  | .recv cid => ports.recv cid
  | .drop cid => ports.drop cid
  | .cleanup cid => ports.cleanup cid
  | .publishCancel cid now => ports.publishCancel cid now
  | .close cid => ports.close cid

end ConsumerPorts

end IceRpc
