/-
Module: IceRpc.Json
Purpose: The JSON side of a provider: the values a JSON host pushes, the stream of
  one call (`ice-rpc/src/json.rs`), their conversion to wire samples, and the
  envelopes of the Node.js bridge (`ice-rpc-nodejs/src/bridge.rs`).
Trusted boundary: human-reviewed spec; `serde_json::from_value` is a parameter
Main exports: Json, eventFromJson, JsonCallStream, JsonCallStream.next,
  nextEnvelope, terminalEnvelope
-/
import IceRpc.Lib.Poll
import IceRpc.Types.Wire

namespace IceRpc

open Lib (Poll)

variable {T E : Type}

/-- A `serde_json::Value`.  Numbers keep their literal; the keys of an object are
distinct, so a field is found by the first entry of its name. -/
inductive Json where
  | null
  | bool (value : Bool)
  | number (literal : String)
  | string (text : String)
  | array (items : List Json)
  | object (fields : List (String × Json))

/-- `serde_json::from_value`, for the two result types of a method. -/
structure Serde (T E : Type) where
  value : Json → Option T
  err : Json → Option E

/-- The `type` of an envelope. -/
inductive EnvelopeType where
  | next
  | complete
  | error
deriving Repr, DecidableEq

/-- The `type` field of an envelope: `next` when it is absent or no string, and
nothing when it is a string of another meaning. -/
def envelopeType (fields : List (String × Json)) : Option EnvelopeType :=
  match fields.lookup "type" with
  | some (.string "complete") => some .complete
  | some (.string "error") => some .error
  | some (.string "next") => some .next
  | some (.string _) => none
  | _ => some .next

/-- The wire event a JSON host asked for. -/
def wireFromJson (serde : Serde T E) : Json → Option (WireEvent T E)
  | .object fields =>
      match envelopeType fields with
      | some .next => do
          let data ← fields.lookup "data"
          let value ← serde.value data
          pure (.next value)
      | some .complete =>
          match fields.lookup "data" with
          | some data => (serde.value data).map .completeWith
          | none => some .complete
      | some .error => do
          let data ← fields.lookup "data"
          let err ← serde.err data
          pure (.error err)
      | none => none
  | _ => none

/-- `event_from_json`: the sample of that wire event, under its kind. -/
def eventFromJson (rkyv : Rkyv T E) (serde : Serde T E) (value : Json) :
    Option Sample := do
  let wire ← wireFromJson serde value
  let bytes ← rkyv.encodeWire wire
  pure { kind := wire.kind, payload := bytes }

/-- One step of a call to a JSON host, as the handler reads it. -/
inductive JsonCallEvent where
  | event (value : Json)
  | failed (message : String)

/-- The events of one call: the channel the host pushes into, whether its last
sender is gone, and whether a first event was read. -/
structure JsonCallStream where
  queue : List Json
  closed : Bool
  answered : Bool

namespace JsonCallStream

/-- `JsonCallStream::channel`. -/
def channel : JsonCallStream :=
  { queue := [], closed := false, answered := false }

/-- `Receiver::recv`: the next value, or the end once the senders are gone. -/
def recv (stream : JsonCallStream) : Poll (Option Json) × JsonCallStream :=
  match stream.queue with
  | value :: queue => (.ready (some value), { stream with queue := queue })
  | [] => (if stream.closed then .ready none else .pending, stream)

/-- `JSON_CALL_TIMEOUT` elapsed before the first event. -/
def timedOut : JsonCallEvent :=
  .failed "the JSON host did not answer within 30s"

/-- One poll of `JsonCallStream::next`.  Only the first event has a deadline; when
the deadline has elapsed and the channel answers too, either may win the race. -/
def next (stream : JsonCallStream) (elapsed timerFirst : Bool) :
    Poll (Option JsonCallEvent) × JsonCallStream :=
  let received := stream.recv
  if stream.answered then
    match received with
    | (.ready (some value), stream) => (.ready (some (.event value)), stream)
    | (.ready none, stream) => (.ready none, stream)
    | (.pending, stream) => (.pending, stream)
  else if elapsed && timerFirst then
    (.ready (some timedOut), stream)
  else
    match received with
    | (.ready (some value), stream) =>
        (.ready (some (.event value)), { stream with answered := true })
    | (.ready none, stream) => (.ready none, stream)
    | (.pending, stream) =>
        (if elapsed then .ready (some timedOut) else .pending, stream)

end JsonCallStream

/-! ### Envelopes of the Node.js bridge -/

/-- Codes of the gateway failures the bridge can cause. -/
inductive GatewayErrorCode where
  | invalidArgs
  | callback
  | pendingLimit
  | duplicateCid
  | invalidCid
  | unknownCid
deriving Repr, DecidableEq

structure GatewayError where
  code : GatewayErrorCode
  message : String
deriving Repr, DecidableEq

def invalidEnvelope (message : String) : GatewayError :=
  { code := .invalidArgs, message := message }

/-- `REMOVED_ENVELOPE`. -/
def removedEnvelope : String :=
  "the `\x7b type, data \x7d` envelope was removed: use `\x7b data \x7d` or " ++
    "`\x7b error \x7d` (resolveNodejsCall), and " ++
    "`emitNodejsEvent(correlationId, \x7b data \x7d)`"

/-- `next_envelope`: the envelope of an intermediate event. -/
def nextEnvelope : Json → Except GatewayError Json
  | .object fields =>
      if (fields.lookup "type").isSome then
        .error (invalidEnvelope removedEnvelope)
      else
        match fields.lookup "data" with
        | some data => .ok (.object [("type", .string "next"), ("data", data)])
        | none =>
            .error (invalidEnvelope
              "emitNodejsEvent expects `\x7b data \x7d`: the key is missing")
  | _ => .error (invalidEnvelope "emitNodejsEvent expects `\x7b data \x7d`")

/-- `terminal_envelope`: the envelope of the event that closes a call. -/
def terminalEnvelope : Json → Except GatewayError Json
  | .object fields =>
      if (fields.lookup "type").isSome then
        .error (invalidEnvelope removedEnvelope)
      else
        match fields.lookup "data", fields.lookup "error" with
        | some data, _ => .ok (.object [("type", .string "complete"), ("data", data)])
        | none, some err => .ok (.object [("type", .string "error"), ("data", err)])
        | none, none => .ok (.object [("type", .string "complete")])
  | .null => .ok (.object [("type", .string "complete")])
  | _ =>
      .error (invalidEnvelope
        "resolveNodejsCall expects `\x7b data \x7d`, `\x7b error \x7d` or `\x7b\x7d`")

end IceRpc
