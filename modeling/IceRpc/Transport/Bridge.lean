/-
Module: IceRpc.Transport.Bridge
Purpose: The bridge from a service `Observable` to the samples the transport
  publishes (`ice-rpc/src/transport/bridge.rs`), and the per-service method table.
Trusted boundary: human-reviewed spec
Main exports: Observable, WireFolding, WireFolding.pollNext, frame, Responding,
  Responding.turn, observableToResponses, emitRpcError, ServiceDispatcher
-/
import Mathlib.Logic.Function.Iterate
import IceRpc.Lib.Poll
import IceRpc.Types.Wire

namespace IceRpc

open Lib (Poll Source)

variable {T E S F : Type}

/-- Sink of the encoded responses of one call.  `false` asks the producer to
stop: the transport answers it when a response could not be published. -/
structure ResponseEmitter (S : Type) where
  emit : S → EventKind → Bytes → S × Bool

/-- An emitter that collects the samples in memory and accepts them all. -/
def collectEmitter : ResponseEmitter (List Sample) where
  emit samples kind payload := (samples ++ [⟨kind, payload⟩], true)

/-- Pull side of a stream.  The three backings of the source (`Channel`, `Inline`,
`Pipeline`) differ only in when they answer, which is the schedule of the
source; `terminated` records that a terminal event was delivered. -/
structure Observable (T E : Type) where
  source : Source (Event T E)
  terminated : Bool

/-- `Observable::poll_next`. -/
def Observable.pollNext (observable : Observable T E) :
    Poll (Option (Event T E)) × Observable T E :=
  match observable.source.poll with
  | (.ready (some event), source) =>
      (.ready (some event),
        { source := source
          terminated := observable.terminated || event.isTerminal })
  | (polled, source) => (polled, { observable with source := source })

/-- Folds a stream of events into the wire events the transport publishes.
`pending` is the look-ahead: the event read while seeking a `Complete`. -/
structure WireFolding (T E : Type) where
  source : Observable T E
  pending : Option (Event T E)

namespace WireFolding

/-- `WireFolding::new`. -/
def new (source : Observable T E) : WireFolding T E :=
  { source := source, pending := none }

/-- The fold of one event, once it is known. -/
def foldEvent (folding : WireFolding T E) :
    Event T E → Poll (Option (WireEvent T E)) × WireFolding T E
  | .next value =>
      -- The `Complete` may already be available: the pair is one sample.
      match folding.source.pollNext with
      | (.ready (some .complete), source) =>
          (.ready (some (.completeWith value)), { folding with source := source })
      | (.ready other, source) =>
          (.ready (some (.next value)), { source := source, pending := other })
      | (.pending, source) =>
          (.ready (some (.next value)), { folding with source := source })
  | other => (.ready (some (WireEvent.ofEvent other)), folding)

/-- `WireFolding::poll_next`: the look-ahead event or the next one, then the
fold, so a value never separates from its `Complete`. -/
def pollNext (folding : WireFolding T E) :
    Poll (Option (WireEvent T E)) × WireFolding T E :=
  match folding.pending with
  | some event => foldEvent { folding with pending := none } event
  | none =>
      match folding.source.pollNext with
      | (.ready (some event), source) =>
          foldEvent { folding with source := source } event
      | (.ready none, source) => (.ready none, { folding with source := source })
      | (.pending, source) => (.pending, { folding with source := source })

end WireFolding

/-- Bare `RpcError` for a technical error, the wire event otherwise. -/
def frame (rkyv : Rkyv T E) : WireEvent T E → EventKind × Option Bytes
  | .rpcError err => (.rpcError, rkyv.encodeRpc err)
  | wire => (wire.kind, rkyv.encodeWire wire)

/-- Why `observable_to_responses` returned. -/
inductive Outcome where
  /-- The source is exhausted, or closed abruptly. -/
  | exhausted
  /-- `emit` answered `false`. -/
  | refused
  /-- A response could not be encoded. -/
  | unencodable
deriving Repr, DecidableEq

/-- State of one `observable_to_responses`: the folded stream, the emitter, the
samples handed to it so far, and the outcome once the loop returned. -/
structure Responding (T E S : Type) where
  stream : WireFolding T E
  sink : S
  samples : List Sample
  outcome : Option Outcome

namespace Responding

/-- The loop about to await its first wire event. -/
def start (events : List (Event T E)) (schedule : Stream' Bool) (sink : S) :
    Responding T E S :=
  { stream := .new
      { source := { items := events, schedule := schedule }, terminated := false }
    sink := sink
    samples := []
    outcome := none }

/-- One turn of the loop: poll the next wire event once, frame it, emit it. -/
def turn (rkyv : Rkyv T E) (emitter : ResponseEmitter S)
    (responding : Responding T E S) : Responding T E S :=
  match responding.outcome with
  | some _ => responding
  | none =>
      match responding.stream.pollNext with
      | (.pending, stream) => { responding with stream := stream }
      | (.ready none, stream) =>
          { responding with stream := stream, outcome := some .exhausted }
      | (.ready (some wire), stream) =>
          match frame rkyv wire with
          | (_, none) =>
              { responding with stream := stream, outcome := some .unencodable }
          | (kind, some bytes) =>
              let emitted := emitter.emit responding.sink kind bytes
              { stream := stream
                sink := emitted.1
                samples := responding.samples ++ [⟨kind, bytes⟩]
                outcome := if emitted.2 then none else some .refused }

end Responding

/-- `observable_to_responses`, driven for a number of polls of its stream. -/
def observableToResponses (rkyv : Rkyv T E) (emitter : ResponseEmitter S)
    (turns : Nat) (responding : Responding T E S) : Responding T E S :=
  (Responding.turn rkyv emitter)^[turns] responding

/-- `emit_rpc_error`: encode a transport-level technical error and emit it. -/
def emitRpcError (rkyv : Rkyv T E) (emitter : ResponseEmitter S) (err : RpcError)
    (sink : S) : S × Bool :=
  match rkyv.encodeRpc err with
  | some bytes => emitter.emit sink .rpcError bytes
  | none => (sink, false)

/-! ### The method table of a service -/

/-- One registered method: its handler, which builds the task of a request without
running it, and whether a call of it expects no answer. -/
structure MethodEntry (F : Type) where
  handler : RpcHeader → Bytes → F
  oneway : Bool

/-- Per-service table of method handlers. -/
structure ServiceDispatcher (F : Type) where
  service : ServiceRef
  handlers : UInt32 → Option (MethodEntry F)

/-- One dispatched request: the task that serves it, and whether a response is
expected. -/
structure DispatchedRequest (F : Type) where
  task : F
  expectsResponse : Bool

namespace ServiceDispatcher

/-- `ServiceDispatcher::new`. -/
def new (service : ServiceRef) : ServiceDispatcher F :=
  { service := service, handlers := fun _ => none }

/-- The insertion both registrations share. -/
def insert (dispatcher : ServiceDispatcher F) (methodId : UInt32)
    (entry : MethodEntry F) : ServiceDispatcher F :=
  { dispatcher with
    handlers := fun id => if id = methodId then some entry else dispatcher.handlers id }

/-- `ServiceDispatcher::method`. -/
def method (dispatcher : ServiceDispatcher F) (methodId : UInt32)
    (handler : RpcHeader → Bytes → F) : ServiceDispatcher F :=
  dispatcher.insert methodId { handler := handler, oneway := false }

/-- `ServiceDispatcher::oneway_method`. -/
def onewayMethod (dispatcher : ServiceDispatcher F) (methodId : UInt32)
    (handler : RpcHeader → Bytes → F) : ServiceDispatcher F :=
  dispatcher.insert methodId { handler := handler, oneway := true }

/-- `ServiceDispatcher::dispatch`: one lookup finds the handler and tells whether
the call is answered. -/
def dispatch (dispatcher : ServiceDispatcher F) (methodId : UInt32)
    (header : RpcHeader) (payload : Bytes) : Option (DispatchedRequest F) :=
  (dispatcher.handlers methodId).map fun entry =>
    { task := entry.handler header payload, expectsResponse := !entry.oneway }

end ServiceDispatcher

end IceRpc
