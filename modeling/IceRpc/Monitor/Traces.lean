/-
Module: IceRpc.Monitor.Traces
Purpose: The trace stream of the observer: the rendering of a record, the bounded queue to
  the writer thread and the writer itself (`ice-rpc-monitor/src/traces.rs`), and the
  records the observer emits (`Monitor::emit_trace`, `ice-rpc-monitor/src/collector.rs`).
Trusted boundary: human-reviewed spec; `serde_json::Value::to_string` and the payload
  decoders are parameters, and writing to the output succeeds
Main exports: TraceFormat, NoNewline, TraceRecord, TraceRecord.render, TraceSink, TraceSink.emit,
  TraceAction, TraceSink.step, traceRecord
-/
import IceRpc.Json
import IceRpc.Monitor.Collector
import IceRpc.Types.Context

namespace IceRpc

/-! ### Records -/

/-- The text has no line break. -/
def NoNewline (text : String) : Prop := '\n' ∉ text.toList

instance (text : String) : Decidable (NoNewline text) :=
  inferInstanceAs (Decidable ('\n' ∉ text.toList))

/-- Output format of the trace stream. -/
inductive TraceFormat where
  | json
  | human
deriving Repr, DecidableEq

/-- One completed call, ready to be serialised. -/
structure TraceRecord where
  callId : String
  traceId : Option String
  parentSpanId : UInt64
  channel : String
  serviceId : UInt32
  method : String
  eventKind : String
  emitterPid : UInt32
  requestBytes : Nat
  responseBytes : Nat
  latencyUs : UInt64
  requestText : Option String
  responseText : Option String
deriving Repr, DecidableEq

namespace TraceRecord

/-- `format!`: every literal piece followed by its argument. -/
def written : List (String × String) → String
  | [] => ""
  | (piece, argument) :: rest => piece ++ argument ++ written rest

variable (record : TraceRecord)

/-- What `to_human` writes, piece by piece: the metadata, the distributed trace when there is
one, and the payload texts in detail mode. -/
def humanPieces : List (String × String) :=
  [("[msg] cid=", record.callId),
    (" channel=", record.channel),
    (" service=", toString record.serviceId.toNat),
    (" method=", record.method),
    (" kind=", record.eventKind),
    (" latency_us=", toString record.latencyUs.toNat),
    (" request_bytes=", toString record.requestBytes),
    (" response_bytes=", toString record.responseBytes),
    (" emitter_pid=", toString record.emitterPid.toNat)] ++
  (match record.traceId with
    | some traceId =>
        [(" trace=", traceId), (" parent_span=", toString record.parentSpanId.toNat)]
    | none => []) ++
  (record.requestText.toList.map fun text => (" request=", text)) ++
  (record.responseText.toList.map fun text => (" response=", text))

/-- `TraceRecord::to_human`. -/
def toHuman : String := written record.humanPieces

/-- `json!` of an optional text: `null` when there is none. -/
def orNull : Option String → Json
  | some text => .string text
  | none => .null

/-- `json!` of an unsigned number. -/
def number (value : Nat) : Json := .number (toString value)

/-- A field that is omitted without its text. -/
def field (name : String) (text : Option String) : List (String × Json) :=
  text.toList.map fun text => (name, .string text)

/-- The object `TraceRecord::to_json` prints; its map keeps the keys in order. -/
def toObject : Json :=
  .object <|
    [("call_id", .string record.callId),
      ("channel", .string record.channel),
      ("emitter_pid", number record.emitterPid.toNat),
      ("event_kind", .string record.eventKind),
      ("latency_us", number record.latencyUs.toNat),
      ("method", .string record.method),
      ("parent_span_id", number record.parentSpanId.toNat)] ++
    field "request" record.requestText ++
    [("request_bytes", number record.requestBytes)] ++
    field "response" record.responseText ++
    [("response_bytes", number record.responseBytes),
      ("service_id", number record.serviceId.toNat),
      ("trace_id", orNull record.traceId)]

/-- `TraceRecord::render`, with `toText` for `serde_json::Value::to_string`. -/
def render (toText : Json → String) (format : TraceFormat) (record : TraceRecord) : String :=
  match format with
  | .json => toText record.toObject
  | .human => record.toHuman

/-- The texts of a record, in the order a human-readable line has them. -/
def texts : List String :=
  [record.callId, record.channel, record.method, record.eventKind] ++
    record.traceId.toList ++ record.requestText.toList ++ record.responseText.toList

/-- No text of the record breaks the line. -/
def OneLine : Prop :=
  ∀ text ∈ record.texts, NoNewline text

instance (record : TraceRecord) : Decidable record.OneLine :=
  inferInstanceAs (Decidable (∀ text ∈ record.texts, NoNewline text))

end TraceRecord

/-! ### The sink -/

/-- Where the writer thread stands. -/
inductive WriterPhase where
  /-- About to call `recv`. -/
  | idle
  /-- Inside `recv`, which found the queue empty. -/
  | waiting
  /-- About to write the line it received. -/
  | holding (line : String)
  /-- The line is written, the newline after it is not. -/
  | wrote (line : String)
  /-- `recv` reported that the sender is gone; the thread is over. -/
  | ended
deriving Repr, DecidableEq

/-- `TraceSink`, with the queue, the writer thread and what it has written. -/
structure TraceSink where
  format : TraceFormat
  capacity : Nat
  /-- Whether the sender is still there. -/
  sender : Bool
  queue : List String
  writer : WriterPhase
  output : String
  dropped : UInt64
deriving Repr, DecidableEq

/-- What happens to a sink: a call of `emit`, a step of the writer thread, or the drop. -/
inductive TraceAction where
  | emit (record : TraceRecord)
  /-- `recv` is called, or returns. -/
  | recv
  /-- `write_all` of the line. -/
  | writeLine
  /-- `write_all` of the newline. -/
  | writeNewline
  /-- `drop(self.sender.take())`; the join that follows waits for the writer's end. -/
  | close
deriving Repr, DecidableEq

namespace TraceSink

/-- `TraceSink::spawn`. -/
def spawn (capacity : Nat) (format : TraceFormat) : TraceSink :=
  { format := format
    capacity := capacity
    sender := true
    queue := []
    writer := .idle
    output := ""
    dropped := 0 }

/-- Whether `try_send` succeeds.  A channel of capacity zero hands its value to a receiver
that is waiting, and to no other. -/
def accepts (sink : TraceSink) : Bool :=
  sink.sender &&
    if sink.capacity = 0 then sink.writer = .waiting else sink.queue.length < sink.capacity

/-- A successful `try_send`. -/
def send (sink : TraceSink) (line : String) : TraceSink :=
  if sink.capacity = 0 then { sink with writer := .holding line }
  else { sink with queue := sink.queue ++ [line] }

/-- `TraceSink::emit`. -/
def emit (toText : Json → String) (sink : TraceSink) (record : TraceRecord) : TraceSink :=
  if sink.accepts then sink.send (record.render toText sink.format)
  else { sink with dropped := sink.dropped + 1 }

/-- `recv`: the next line, or the end when the sender is gone, or the wait. -/
def recv (sink : TraceSink) : TraceSink :=
  match sink.queue with
  | line :: rest => { sink with queue := rest, writer := .holding line }
  | [] => { sink with writer := if sink.sender then .waiting else .ended }

/-- One step of the sink; `none` when the writer is not at that point. -/
def step (toText : Json → String) (sink : TraceSink) : TraceAction → Option TraceSink
  | .emit record => some (sink.emit toText record)
  | .recv =>
      match sink.writer with
      | .idle => some sink.recv
      | .waiting => some sink.recv
      | _ => none
  | .writeLine =>
      match sink.writer with
      | .holding line =>
          some { sink with writer := .wrote line, output := sink.output ++ line }
      | _ => none
  | .writeNewline =>
      match sink.writer with
      | .wrote _ => some { sink with writer := .idle, output := sink.output ++ "\n" }
      | _ => none
  | .close => if sink.sender then some { sink with sender := false } else none

end TraceSink

/-! ### The records the observer emits -/

/-- `Sample`, one drained sample: its payload in detail mode, its length alone otherwise. -/
inductive DrainedSample where
  | metaOnly (payloadLen : Nat)
  | full (payload : List UInt8)
deriving Repr, DecidableEq

/-- `Sample::payload_len`. -/
def DrainedSample.payloadLen : DrainedSample → Nat
  | .metaOnly payloadLen => payloadLen
  | .full payload => payload.length

/-- `undecoded`. -/
def undecoded (payloadLen : Nat) : String :=
  "<" ++ toString payloadLen ++ " bytes, no decoder>"

/-- What turns payloads into text: `decode_aligned::<RpcError>` with the error's `Display`,
and the registry's `response`. -/
structure TraceDecoders where
  rpcError : List UInt8 → Option String
  response : UInt32 → String → List UInt8 → Option String

/-- The text of the terminal response, in detail mode only. -/
def responseText (decoders : TraceDecoders) (header : RpcHeader) (call : PendingCall) :
    DrainedSample → Option String
  | .full payload =>
      some <|
        if header.eventKind = .rpcError then
          ((decoders.rpcError payload).map ("rpc error: " ++ ·)).getD (undecoded payload.length)
        else
          (decoders.response call.serviceId call.method payload).getD
            (undecoded payload.length)
  | .metaOnly _ => none

/-- `TraceContext::trace_id_hex`. -/
def TraceContext.traceIdHex (trace : TraceContext) : String :=
  String.ofList <| trace.traceId.toList.flatMap fun byte =>
    [hexChar (byte.toNat / 16), hexChar (byte.toNat % 16)]

/-- The record `Monitor::emit_trace` builds; `requestText` is that of the pending call. -/
def traceRecord (decoders : TraceDecoders) (channel : String) (header : RpcHeader)
    (emitterPid : UInt32) (sample : DrainedSample) (call : PendingCall)
    (requestText : Option String) (kind : EventKind) : TraceRecord :=
  let trace := header.trace
  { callId := fmtCorrelationId header.correlationId
    traceId := if trace.isPresent then some trace.traceIdHex else none
    parentSpanId := trace.parentSpanId
    channel := channel
    serviceId := header.serviceId
    method := call.method
    eventKind := kind.label
    emitterPid := emitterPid
    requestBytes := call.requestBytes
    responseBytes := sample.payloadLen
    latencyUs := UInt64.ofNat ((header.timestampNs.toNat - call.requestTsNs.toNat) / 1000)
    requestText := requestText
    responseText := responseText decoders header call sample }

end IceRpc
