/-
Module: IceRpc.Transport.JsonHost
Purpose: The provider-side JSON handler (`ice-rpc/src/transport/json_host.rs`) and
  everything a JSON host can do with the one call it serves.
Trusted boundary: human-reviewed spec
Main exports: JsonServing, jsonHostHandler, HostAction, JsonServing.step
-/
import IceRpc.Json
import IceRpc.Transport.Bridge

namespace IceRpc

open Lib (Poll)

variable {T E S : Type}

/-- A sample handed to the emitter of a call, and what the emitter answered. -/
structure Emission where
  sample : Sample
  accepted : Bool
deriving Repr, DecidableEq

/-- State of one served call: the stream of the host's events, whether the deadline
of the first one elapsed, the emitter, what was emitted, and whether the handler
returned. -/
structure JsonServing (S : Type) where
  stream : JsonCallStream
  elapsed : Bool
  sink : S
  emitted : List Emission
  returned : Bool

namespace JsonServing

/-- The task of a call before it did anything. -/
def begin (sink : S) : JsonServing S :=
  { stream := .channel, elapsed := false, sink := sink, emitted := [],
    returned := false }

variable (rkyv : Rkyv T E) (serde : Serde T E) (emitter : ResponseEmitter S)
  (serving : JsonServing S)

/-- `ResponseEmitter::emit`; the handler ignores the answer. -/
def emit (sample : Sample) : JsonServing S :=
  let emitted := emitter.emit serving.sink sample.kind sample.payload
  { serving with
    sink := emitted.1
    emitted := serving.emitted ++ [{ sample := sample, accepted := emitted.2 }] }

/-- `emit_rpc_error`, then return: the common body of `reject_json_request`,
`reject_json_dispatch` and `reject_json_response`. -/
def rejectWith (err : RpcError) : JsonServing S :=
  match rkyv.encodeRpc err with
  | some bytes =>
      { serving.emit emitter ⟨.rpcError, bytes⟩ with returned := true }
  | none => { serving with returned := true }

/-- `reject_json_request`. -/
def rejectJsonRequest : JsonServing S :=
  serving.rejectWith rkyv emitter .serializationError

/-- `reject_json_dispatch`. -/
def rejectJsonDispatch (message : String) : JsonServing S :=
  serving.rejectWith rkyv emitter (.internal message)

/-- `reject_json_response`. -/
def rejectJsonResponse : JsonServing S :=
  serving.rejectWith rkyv emitter .serializationError

/-- What the loop does with one answer of the stream. -/
def onEvent : Option JsonCallEvent → JsonServing S
  | none => { serving with returned := true }
  | some (.failed message) => serving.rejectJsonDispatch rkyv emitter message
  | some (.event value) =>
      match eventFromJson rkyv serde value with
      | some sample => serving.emit emitter sample
      | none => serving.rejectJsonResponse rkyv emitter

/-- One poll of the loop of `json_host_handler`. -/
def poll (timerFirst : Bool) : Option (JsonServing S) :=
  if serving.returned then
    none
  else
    match serving.stream.next serving.elapsed timerFirst with
    | (.pending, stream) => some { serving with stream := stream }
    | (.ready answer, stream) =>
        some ({ serving with stream := stream }.onEvent rkyv serde emitter answer)

/-- `Sender::try_send` of a host that still holds a sender. -/
def push (value : Json) : JsonServing S :=
  { serving with
    stream := { serving.stream with queue := serving.stream.queue ++ [value] } }

def closeSender : JsonServing S :=
  { serving with stream := { serving.stream with closed := true } }

end JsonServing

/-- What a JSON host, the clock and the handler's executor can do with one call. -/
inductive HostAction where
  /-- A host pushes any value into its sender. -/
  | push (value : Json)
  /-- `NodeJsBridge::emit_event`: push one intermediate event. -/
  | emitEvent (event : Json)
  /-- `NodeJsBridge::resolve`: push the terminal event and drop the sender. -/
  | resolve (event : Json)
  /-- The host drops its sender, or is shut down. -/
  | close
  /-- The deadline of the first event elapses. -/
  | elapse
  /-- The handler polls its stream. -/
  | poll (timerFirst : Bool)

namespace JsonServing

/-- One step of a served call; a host without its sender can do nothing more, and
a malformed envelope leaves the call as it is. -/
def step (rkyv : Rkyv T E) (serde : Serde T E) (emitter : ResponseEmitter S)
    (serving : JsonServing S) : HostAction → Option (JsonServing S)
  | .push value =>
      if serving.stream.closed then none else some (serving.push value)
  | .emitEvent event =>
      if serving.stream.closed then none
      else
        match nextEnvelope event with
        | .ok envelope => some (serving.push envelope)
        | .error _ => some serving
  | .resolve event =>
      if serving.stream.closed then none
      else
        match terminalEnvelope event with
        | .ok envelope => some (serving.push envelope).closeSender
        | .error _ => some serving
  | .close => if serving.stream.closed then none else some serving.closeSender
  | .elapse => some { serving with elapsed := true }
  | .poll timerFirst => serving.poll rkyv serde emitter timerFirst

end JsonServing

/-- `json_host_handler` up to its event loop: the arguments as converted by
`request_to_value`, and the host's refusal of the call if `dispatch_json` fails.  A
host that answers before it returns pushes before the first poll. -/
def jsonHostHandler (rkyv : Rkyv T E) (emitter : ResponseEmitter S)
    (args : Option Json) (dispatchJson : Json → Except String Unit) (sink : S) :
    JsonServing S :=
  match args with
  | none => (JsonServing.begin sink).rejectJsonRequest rkyv emitter
  | some args =>
      match dispatchJson args with
      | .error message => (JsonServing.begin sink).rejectJsonDispatch rkyv emitter message
      | .ok () => JsonServing.begin sink

end IceRpc
