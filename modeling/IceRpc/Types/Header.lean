/-
Module: IceRpc.Types.Header
Purpose: The zero-copy RPC header and the kinds of samples it labels
  (`ice-rpc/src/types/header.rs`, `ice-rpc/src/types/consts.rs`).
Trusted boundary: human-reviewed spec
Main exports: EventKind, EventKind.fromU8, RpcHeader, ServiceRef,
  RpcHeader.request, RpcHeader.responseFrom, RpcHeader.cancelFrom, fnv1aU32,
  serviceIdOf, methodIdOf, fmtCorrelationId, parseCorrelationId
-/

namespace IceRpc

/-- `CORRELATION_ID_LEN`. -/
def correlationIdLen : Nat := 16

/-- Request/response correlation id: 16 bytes. -/
abbrev CorrelationId := Vector UInt8 correlationIdLen

/-- `PROTOCOL_VERSION`: the framing version of this build. -/
def protocolVersion : UInt16 := 2

/-- Kind of the sample carried by a header. -/
inductive EventKind where
  | request
  | next
  | complete
  | error
  | rpcError
  | cancel
deriving Repr, DecidableEq

namespace EventKind

/-- `EventKind::is_terminal`. -/
def isTerminal : EventKind → Bool
  | .complete | .error | .rpcError => true
  | .request | .next | .cancel => false

/-- Wire value of a kind. -/
def asU8 : EventKind → UInt8
  | .request => 0
  | .next => 1
  | .complete => 2
  | .error => 3
  | .rpcError => 4
  | .cancel => 5

/-- Decode a wire value.  Fail-closed: an unknown value never reads as a
successful completion. -/
def fromU8 (value : UInt8) : EventKind :=
  match value with
  | 0 => .request
  | 1 => .next
  | 2 => .complete
  | 3 => .error
  | 4 => .rpcError
  | 5 => .cancel
  | _ => .error

/-- `EventKind::label`. -/
def label : EventKind → String
  | .request => "request"
  | .next => "next"
  | .complete => "complete"
  | .error => "error"
  | .rpcError => "rpc-error"
  | .cancel => "cancel"

/-- The wire value of every kind decodes back to that kind. -/
@[simp] theorem fromU8_asU8 (kind : EventKind) : fromU8 kind.asU8 = kind := by
  cases kind <;> rfl

end EventKind

/-- W3C trace context propagated with a sample. -/
structure TraceContext where
  traceId : Vector UInt8 16
  parentSpanId : UInt64
  flags : UInt8
deriving Repr, DecidableEq

/-- Zero-copy header attached to every request and response sample. -/
structure RpcHeader where
  correlationId : CorrelationId
  timestampNs : UInt64
  seq : UInt64
  traceId : Vector UInt8 16
  parentSpanId : UInt64
  spanId : UInt64
  serviceId : UInt32
  methodId : UInt32
  traceparentVersion : UInt8
  eventKindByte : UInt8
  protocolVersion : UInt16
  serviceVersion : UInt16
  flags : UInt8
deriving Repr, DecidableEq

namespace RpcHeader

/-- `RpcHeader::event_kind`: the kind of the sample. -/
def eventKind (header : RpcHeader) : EventKind :=
  EventKind.fromU8 header.eventKindByte

/-- `RpcHeader::with_seq`. -/
def withSeq (header : RpcHeader) (seq : UInt64) : RpcHeader :=
  { header with seq := seq }

/-- `RpcHeader::request`: the header of a new call.  `correlationId` is the answer
of `next_correlation_id` and `now` the reading of `now_ns`. -/
def request (correlationId : CorrelationId) (methodId serviceId : UInt32)
    (serviceVersion : UInt16) (now : UInt64) : RpcHeader :=
  { correlationId := correlationId
    serviceId := serviceId
    methodId := methodId
    traceparentVersion := 0
    eventKindByte := EventKind.request.asU8
    protocolVersion := IceRpc.protocolVersion
    serviceVersion := serviceVersion
    traceId := Vector.replicate 16 0
    parentSpanId := 0
    spanId := 0
    flags := 0
    seq := 0
    timestampNs := now }

/-- `RpcHeader::with_trace`. -/
def withTrace (header : RpcHeader) (trace : TraceContext) : RpcHeader :=
  { header with
    traceId := trace.traceId
    parentSpanId := trace.parentSpanId
    flags := trace.flags }

/-- `RpcHeader::with_span_id`. -/
def withSpanId (header : RpcHeader) (spanId : UInt64) : RpcHeader :=
  { header with spanId := spanId }

/-- `RpcHeader::response_from`.  A response echoes the trace of the request it
answers; `now` is the reading of `now_ns`. -/
def responseFrom (request : RpcHeader) (kind : EventKind)
    (serviceVersion : UInt16) (now : UInt64) : RpcHeader :=
  { correlationId := request.correlationId
    serviceId := request.serviceId
    methodId := 0
    traceparentVersion := request.traceparentVersion
    eventKindByte := kind.asU8
    protocolVersion := IceRpc.protocolVersion
    serviceVersion := serviceVersion
    traceId := request.traceId
    parentSpanId := request.parentSpanId
    spanId := 0
    flags := request.flags
    seq := 0
    timestampNs := now }

/-- `RpcHeader::cancel_from`: the header of the Cancel that abandons `request`. -/
def cancelFrom (request : RpcHeader) (now : UInt64) : RpcHeader :=
  { correlationId := request.correlationId
    serviceId := request.serviceId
    methodId := 0
    traceparentVersion := request.traceparentVersion
    eventKindByte := EventKind.cancel.asU8
    protocolVersion := IceRpc.protocolVersion
    serviceVersion := request.serviceVersion
    traceId := request.traceId
    parentSpanId := request.parentSpanId
    spanId := 0
    flags := request.flags
    seq := 0
    timestampNs := now }

@[simp] theorem withSeq_eventKind (header : RpcHeader) (seq : UInt64) :
    (header.withSeq seq).eventKind = header.eventKind := rfl

@[simp] theorem withSeq_correlationId (header : RpcHeader) (seq : UInt64) :
    (header.withSeq seq).correlationId = header.correlationId := rfl

@[simp] theorem responseFrom_eventKind (request : RpcHeader) (kind : EventKind)
    (serviceVersion : UInt16) (now : UInt64) :
    (responseFrom request kind serviceVersion now).eventKind = kind :=
  EventKind.fromU8_asU8 kind

@[simp] theorem responseFrom_correlationId (request : RpcHeader)
    (kind : EventKind) (serviceVersion : UInt16) (now : UInt64) :
    (responseFrom request kind serviceVersion now).correlationId =
      request.correlationId := rfl

end RpcHeader

/-- Identity of a service contract: its id inside the channel and its interface
version. -/
structure ServiceRef where
  id : UInt32
  version : UInt16
deriving Repr, DecidableEq

/-! ### Names on the wire -/

/-- `fnv1a_u32`: the FNV-1a hash, in wrapping 32-bit arithmetic. -/
def fnv1aU32 (bytes : List UInt8) : UInt32 :=
  bytes.foldl (fun hash byte => (hash ^^^ byte.toUInt32) * 0x01000193) 0x811c9dc5

/-- `service_id_of`. -/
def serviceIdOf (name : String) : UInt32 := fnv1aU32 name.toUTF8.data.toList

/-- `method_id_of`. -/
def methodIdOf (name : String) : UInt32 := fnv1aU32 name.toUTF8.data.toList

/-! ### Correlation ids as text -/

/-- A lowercase hexadecimal digit. -/
def hexChar (digit : Nat) : Char :=
  if digit < 10 then Char.ofNat (48 + digit) else Char.ofNat (87 + digit)

/-- `fmt_correlation_id`: the 36-character dashed form. -/
def fmtCorrelationId (cid : CorrelationId) : String :=
  let digits := cid.toList.flatMap fun byte =>
    [hexChar (byte.toNat / 16), hexChar (byte.toNat % 16)]
  String.ofList <|
    digits.take 8 ++ ['-'] ++ (digits.drop 8).take 4 ++ ['-'] ++ (digits.drop 12).take 4 ++
      ['-'] ++ (digits.drop 16).take 4 ++ ['-'] ++ digits.drop 20

/-- The value of a hexadecimal digit, of either case. -/
def hexDigit (byte : UInt8) : Option UInt8 :=
  if 48 ≤ byte && byte ≤ 57 then some (byte - 48)
  else if 97 ≤ byte && byte ≤ 102 then some (byte - 97 + 10)
  else if 65 ≤ byte && byte ≤ 70 then some (byte - 65 + 10)
  else none

/-- The digits of an id, from its byte at `index` on; `dashed` tells where dashes
belong. -/
def hexDigits (dashed : Bool) (index : Nat) : List UInt8 → Option (List UInt8)
  | [] => some []
  | byte :: bytes =>
      if dashed && (index == 8 || index == 13 || index == 18 || index == 23) then
        if byte ≠ 45 then none else hexDigits dashed (index + 1) bytes
      else do
        let digit ← hexDigit byte
        let digits ← hexDigits dashed (index + 1) bytes
        pure (digit :: digits)

/-- `parse_correlation_id`: both the dashed and the undashed form. -/
def parseCorrelationId (text : String) : Option CorrelationId :=
  let bytes := text.toUTF8.data.toList
  let undashedLen := correlationIdLen * 2
  if bytes.length = undashedLen || bytes.length = undashedLen + 4 then do
    let digits ← hexDigits (decide (bytes.length ≠ undashedLen)) 0 bytes
    if digits.length = undashedLen then
      pure (Vector.ofFn fun index =>
        (digits.getD (2 * index.val) 0 <<< 4) ||| digits.getD (2 * index.val + 1) 0)
    else
      none
  else
    none

end IceRpc
