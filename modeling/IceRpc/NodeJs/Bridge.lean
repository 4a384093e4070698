/-
Module: IceRpc.NodeJs.Bridge
Purpose: The bridge of a Node.js gateway (`ice-rpc-nodejs/src/bridge.rs`): the table of
  pending calls, the calls it hands to the JavaScript dispatcher, and what JavaScript,
  the deadline and the transport do to the calls being served.
Trusted boundary: human-reviewed spec; `start_call` is one step, since JavaScript
  learns of a call from the callback only
Main exports: PendingCalls, Gateway, Gateway.startCall, Gateway.emitEvent,
  Gateway.resolve, GatewayAction, Gateway.step
-/
import IceRpc.Transport.JsonHost
import IceRpc.Types.Header

namespace IceRpc

variable {T E S : Type}

/-! ### Failures -/

namespace GatewayErrorCode

/-- `GatewayErrorCode::as_str`. -/
def asStr : GatewayErrorCode → String
  | .invalidArgs => "E_INVALID_ARGS"
  | .callback => "E_CALLBACK"
  | .pendingLimit => "E_PENDING_LIMIT"
  | .duplicateCid => "E_DUPLICATE_CID"
  | .invalidCid => "E_INVALID_CID"
  | .unknownCid => "E_UNKNOWN_CID"

end GatewayErrorCode

/-- `GatewayError::rendered`. -/
def GatewayError.rendered (error : GatewayError) : String :=
  error.code.asStr ++ ": " ++ error.message

/-- `parse_cid`. -/
def parseCid (correlationIdHex : String) : Except GatewayError CorrelationId :=
  match parseCorrelationId correlationIdHex with
  | some cid => .ok cid
  | none =>
      .error
        { code := .invalidCid
          message := "'" ++ correlationIdHex ++ "' is not a hexadecimal correlation id" }

/-- `unknown_cid`. -/
def unknownCid (correlationIdHex : String) : GatewayError :=
  { code := .unknownCid
    message := "no pending call for '" ++ correlationIdHex ++
      "' (expired or already answered)" }

/-! ### The table -/

/-- `MAX_PENDING_CALLS`. -/
def maxPendingCalls : Nat := 4096

/-- The calls JavaScript has not closed yet: the sender of each, named by the number
of the call, under its id. -/
structure PendingCalls where
  entries : List (CorrelationId × Nat)
  distinct : (entries.map Prod.fst).Nodup

namespace PendingCalls

/-- The empty table. -/
def new : PendingCalls := ⟨[], List.nodup_nil⟩

/-- The id is in the table. -/
def containsKey (pending : PendingCalls) (cid : CorrelationId) : Prop :=
  cid ∈ pending.entries.map Prod.fst

instance (pending : PendingCalls) (cid : CorrelationId) :
    Decidable (pending.containsKey cid) :=
  inferInstanceAs (Decidable (cid ∈ pending.entries.map Prod.fst))

/-- `PendingCalls::insert`. -/
def insert (pending : PendingCalls) (cid : CorrelationId) (sender : Nat) :
    Except GatewayError PendingCalls :=
  if maxPendingCalls ≤ pending.entries.length then
    .error
      { code := .pendingLimit
        message := toString maxPendingCalls ++ " calls already await a JavaScript answer" }
  else if fresh : pending.containsKey cid then
    .error
      { code := .duplicateCid
        message := "correlation id '" ++ fmtCorrelationId cid ++ "' is already in flight" }
  else
    .ok
      { entries := (cid, sender) :: pending.entries
        distinct := List.nodup_cons.mpr ⟨fresh, pending.distinct⟩ }

/-- `PendingCalls::sender`. -/
def sender (pending : PendingCalls) (cid : CorrelationId) : Option Nat :=
  pending.entries.lookup cid

/-- `PendingCalls::take`. -/
def take (pending : PendingCalls) (cid : CorrelationId) : Option Nat × PendingCalls :=
  (pending.entries.lookup cid,
    { entries := pending.entries.filter fun entry => entry.1 ≠ cid
      distinct := pending.distinct.sublist (List.filter_sublist.map Prod.fst) })

end PendingCalls

/-! ### The gateway -/

/-- A call of a JSON handler; `dropped` once its task is dropped by the transport. -/
structure GatewayCall (S : Type) where
  cid : CorrelationId
  serving : JsonServing S
  dropped : Bool

namespace GatewayCall

/-- The handler task holds the event stream. -/
def holdsStream (call : GatewayCall S) : Bool :=
  !call.dropped && !call.serving.returned

/-- JavaScript has closed the call: its sender is gone. -/
def closedByHost (call : GatewayCall S) : Bool :=
  call.serving.stream.closed

/-- `Sender::try_send`: refused once the stream is dropped. -/
def trySend (call : GatewayCall S) (value : Json) : Option (GatewayCall S) :=
  if call.holdsStream then
    some { call with serving := call.serving.push value }
  else
    none

end GatewayCall

/-- The gateway: the table, and the calls handed to handlers so far. -/
structure Gateway (S : Type) where
  pending : PendingCalls
  calls : List (GatewayCall S)

namespace Gateway

/-- A gateway that has served nothing yet. -/
def new : Gateway S := { pending := .new, calls := [] }

variable (gateway : Gateway S)

/-- `NodeJsBridge::start_call`, for the call with the next number: the table
afterwards, and the failure if there is one.  `refused` is the status of the callback
when it is not `Ok`. -/
def startCall (cid : CorrelationId) (refused : Option String) :
    PendingCalls × Except GatewayError Unit :=
  match gateway.pending.insert cid gateway.calls.length with
  | .error err => (gateway.pending, .error err)
  | .ok pending =>
      match refused with
      | none => (pending, .ok ())
      | some status =>
          ((pending.take cid).2,
            .error
              { code := .callback
                message := "the JS dispatcher is not reachable (" ++ status ++ ")" })

/-- The call of a request that got this far in its handler. -/
def addCall (call : GatewayCall S) : Gateway S :=
  { gateway with calls := gateway.calls ++ [call] }

/-- A request served by `json_host_handler`; `args` are its arguments as converted by
`request_to_value`. -/
def request (rkyv : Rkyv T E) (emitter : ResponseEmitter S) (gateway : Gateway S)
    (cid : CorrelationId) (args : Option Json) (refused : Option String) (sink : S) :
    Gateway S :=
  let started : PendingCalls × Except GatewayError Unit :=
    match args with
    | none => (gateway.pending, .ok ())
    | some _ => gateway.startCall cid refused
  { gateway with pending := started.1 }.addCall
    { cid := cid
      serving := jsonHostHandler rkyv emitter args
        (fun _ => started.2.mapError GatewayError.rendered) sink
      dropped := false }

/-- A request served by `json_host_oneway_handler`, which drops the stream it gets. -/
def onewayRequest (cid : CorrelationId) (args : Option Json) (refused : Option String) (sink : S) :
    Gateway S :=
  match args with
  | none => gateway
  | some _ =>
      match gateway.startCall cid refused with
      | (pending, .ok ()) =>
          { gateway with pending := pending }.addCall
            { cid := cid, serving := .begin sink, dropped := true }
      | (pending, .error _) => { gateway with pending := pending }

/-- Replace the call of a number. -/
def setCall (index : Nat) (call : GatewayCall S) : Gateway S :=
  { gateway with calls := gateway.calls.set index call }

/-- `NodeJsBridge::emit_event`. -/
def emitEvent (correlationIdHex : String) (event : Json) : Except GatewayError (Gateway S) := do
  let cid ← parseCid correlationIdHex
  let envelope ← nextEnvelope event
  match gateway.pending.sender cid with
  | none => .error (unknownCid correlationIdHex)
  | some index =>
      match (gateway.calls[index]?).bind fun call => call.trySend envelope with
      | some sent => .ok (gateway.setCall index sent)
      | none =>
          .error
            { code := .callback
              message := "the call was closed while pushing an event" }

/-- `NodeJsBridge::resolve`: the terminal event is sent at best effort, and the sender
is dropped. -/
def resolve (correlationIdHex : String) (event : Json) : Except GatewayError (Gateway S) := do
  let cid ← parseCid correlationIdHex
  let envelope ← terminalEnvelope event
  match gateway.pending.take cid with
  | (none, _) => .error (unknownCid correlationIdHex)
  | (some index, pending) =>
      match gateway.calls[index]? with
      | none => .ok { gateway with pending := pending }
      | some call =>
          let sent := (call.trySend envelope).getD call
          .ok ({ gateway with pending := pending }.setCall index
            { sent with serving := sent.serving.closeSender })

end Gateway

/-- What happens to a gateway. -/
inductive GatewayAction (S : Type) where
  | request (cid : CorrelationId) (args : Option Json) (refused : Option String) (sink : S)
  | onewayRequest (cid : CorrelationId) (args : Option Json) (refused : Option String)
      (sink : S)
  /-- `emitNodejsEvent` of the addon. -/
  | emitEvent (correlationIdHex : String) (event : Json)
  /-- `resolveNodejsCall` of the addon. -/
  | resolve (correlationIdHex : String) (event : Json)
  /-- The deadline of a call's first event elapses. -/
  | elapse (index : Nat)
  /-- The handler task of a call is polled. -/
  | poll (index : Nat) (timerFirst : Bool)
  /-- A remote cancellation drops the handler task of a call. -/
  | drop (index : Nat)

namespace Gateway

/-- Do something to a call whose handler task still holds its stream. -/
def atHandler (gateway : Gateway S) (index : Nat)
    (act : GatewayCall S → Option (GatewayCall S)) : Option (Gateway S) := do
  let call ← gateway.calls[index]?
  if call.holdsStream then
    let next ← act call
    pure (gateway.setCall index next)
  else
    none

/-- One step of the gateway.  A failed call of JavaScript leaves it as it is. -/
def step (rkyv : Rkyv T E) (serde : Serde T E) (emitter : ResponseEmitter S)
    (gateway : Gateway S) : GatewayAction S → Option (Gateway S)
  | .request cid args refused sink =>
      some (gateway.request rkyv emitter cid args refused sink)
  | .onewayRequest cid args refused sink =>
      some (gateway.onewayRequest cid args refused sink)
  | .emitEvent correlationIdHex event =>
      match gateway.emitEvent correlationIdHex event with
      | .ok next => some next
      | .error _ => some gateway
  | .resolve correlationIdHex event =>
      match gateway.resolve correlationIdHex event with
      | .ok next => some next
      | .error _ => some gateway
  | .elapse index =>
      gateway.atHandler index fun call =>
        some { call with serving := { call.serving with elapsed := true } }
  | .poll index timerFirst =>
      gateway.atHandler index fun call => do
        let serving ← call.serving.poll rkyv serde emitter timerFirst
        pure { call with serving := serving }
  | .drop index =>
      gateway.atHandler index fun call => some { call with dropped := true }

end Gateway

end IceRpc
