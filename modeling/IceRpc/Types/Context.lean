/-
Module: IceRpc.Types.Context
Purpose: The ambient identity of a call (`ice-rpc/src/types/context.rs`): trace
  contexts, call contexts, the two thread-local slots with the scopes that restore
  them, and one thread that polls handler tasks, each wrapped by `call_scoped` and,
  when it expects a response, by `CancellableCall`.
Trusted boundary: human-reviewed spec; the `tracing` feature is on
Main exports: Mint, TraceContext.continuedOrRoot, CallContext, CallContext.new,
  CallContext.localCall, Slots, AmbientScope, Code, Thread.exec, HandlerTask, Worker,
  Worker.step
-/
import IceRpc.Transport.Server

namespace IceRpc

/-! ### Identifiers -/

/-- The process-wide counters as one thread reads them: what its successive
`fetch_add`s answer.  Other threads take the values in between. -/
structure Mint where
  pid : UInt32
  correlationCounter : Nat → UInt64
  spanCounter : Nat → UInt64

/-- How many identifiers of each kind the thread has taken. -/
structure Taken where
  correlationIds : Nat
  spanIds : Nat
deriving Repr, DecidableEq

/-- `u64::to_be_bytes`. -/
def beBytes (value : UInt64) : Vector UInt8 8 :=
  Vector.ofFn fun index => (value >>> UInt64.ofNat (56 - 8 * index.val)).toUInt8

variable (mint : Mint) (taken : Taken)

/-- `next_correlation_id`: `pid ++ counter`. -/
def nextCorrelationId : CorrelationId × Taken :=
  (beBytes mint.pid.toUInt64 ++ beBytes (mint.correlationCounter taken.correlationIds),
    { taken with correlationIds := taken.correlationIds + 1 })

/-- `next_span_id`. -/
def nextSpanId : UInt64 × Taken :=
  let z := (mint.pid.toUInt64 <<< 32) ^^^ mint.spanCounter taken.spanIds
  let z := (z ^^^ (z >>> 30)) * 0xbf58476d1ce4e5b9
  let z := (z ^^^ (z >>> 27)) * 0x94d049bb133111eb
  ((z ^^^ (z >>> 31)) ||| 1, { taken with spanIds := taken.spanIds + 1 })

/-! ### Traces -/

/-- `RpcHeader::trace`. -/
def RpcHeader.trace (header : RpcHeader) : TraceContext :=
  { traceId := header.traceId
    parentSpanId := header.parentSpanId
    flags := header.flags }

namespace TraceContext

/-- `TraceContext::is_present`. -/
def isPresent (trace : TraceContext) : Bool :=
  decide (trace.traceId ≠ Vector.replicate 16 0)

/-- `TraceContext::new_root`. -/
def newRoot : TraceContext × Taken :=
  let (traceId, taken) := nextCorrelationId mint taken
  ({ traceId := traceId, parentSpanId := 0, flags := 0 }, taken)

/-- `TraceContext::child_of`. -/
def childOf (trace : TraceContext) (spanId : UInt64) : TraceContext :=
  { traceId := trace.traceId, parentSpanId := spanId, flags := trace.flags }

/-- `TraceContext::continued_or_root`. -/
def continuedOrRoot (trace : TraceContext) (spanId : UInt64) : TraceContext × Taken :=
  if trace.isPresent then
    (trace.childOf spanId, taken)
  else
    let (traceId, taken) := nextCorrelationId mint taken
    ({ traceId := traceId, parentSpanId := spanId, flags := trace.flags }, taken)

end TraceContext

/-! ### Call contexts -/

/-- Read-only view of the call being served. -/
structure CallContext where
  correlationId : CorrelationId
  serviceName : String
  serviceId : UInt32
  serviceVersion : UInt16
  method : String
  receivedAtNs : UInt64
  trace : TraceContext
  spanId : UInt64
deriving Repr, DecidableEq

namespace CallContext

/-- `CallContext::new`. -/
def new (header : RpcHeader) (serviceName method : String) : CallContext × Taken :=
  let (spanId, taken) := nextSpanId mint taken
  ({ correlationId := header.correlationId
     serviceName := serviceName
     serviceId := header.serviceId
     serviceVersion := header.serviceVersion
     method := method
     receivedAtNs := header.timestampNs
     trace := header.trace
     spanId := spanId }, taken)

/-- `CallContext::child_trace`. -/
def childTrace (context : CallContext) : TraceContext × Taken :=
  context.trace.continuedOrRoot mint taken context.spanId

/-- `CallContext::local`; `current` is the ambient context. -/
def localCall (current : Option CallContext) (service : ServiceRef) (serviceName method : String) :
    CallContext × Taken :=
  let (correlationId, taken) := nextCorrelationId mint taken
  let (trace, taken) :=
    match current with
    | some parent => parent.childTrace mint taken
    | none => TraceContext.newRoot mint taken
  let (spanId, taken) := nextSpanId mint taken
  ({ correlationId := correlationId
     serviceName := serviceName
     serviceId := service.id
     serviceVersion := service.version
     method := method
     receivedAtNs := 0
     trace := trace
     spanId := spanId }, taken)

end CallContext

/-- A request about to be emitted; `seq` is the answer of the channel's sequence and
`now` the reading of `now_ns`. -/
structure Outgoing where
  methodId : UInt32
  service : ServiceRef
  seq : UInt64
  now : UInt64
deriving Repr, DecidableEq

/-- The header that `native_call` and `send_one_way` publish; `current` is the ambient
context. -/
def Outgoing.header (current : Option CallContext) (outgoing : Outgoing) : RpcHeader × Taken :=
  let (trace, taken) :=
    match current with
    | some context => context.childTrace mint taken
    | none =>
        let (root, taken) := TraceContext.newRoot mint taken
        let (spanId, taken) := nextSpanId mint taken
        root.continuedOrRoot mint taken spanId
  let (correlationId, taken) := nextCorrelationId mint taken
  let header := RpcHeader.request correlationId outgoing.methodId outgoing.service.id
    outgoing.service.version outgoing.now
  (((header.withTrace trace).withSpanId trace.parentSpanId).withSeq outgoing.seq, taken)

/-! ### The thread-local slots -/

/-- `CURRENT` and `CURRENT_CANCEL`. -/
structure Slots where
  current : Option CallContext
  currentCancel : Option TokenId
deriving Repr, DecidableEq

/-- `AmbientScope`. -/
structure AmbientScope where
  previous : Option CallContext

/-- `AmbientCancelScope`. -/
structure AmbientCancelScope where
  previous : Option TokenId

/-- `CallContext::enter_ambient`. -/
def CallContext.enterAmbient (context : CallContext) (slots : Slots) :
    AmbientScope × Slots :=
  ({ previous := slots.current }, { slots with current := some context })

/-- `AmbientScope::drop`. -/
def AmbientScope.drop (scope : AmbientScope) (slots : Slots) : Slots :=
  { slots with current := scope.previous }

/-- `install_call_cancellation`. -/
def installCallCancellation (token : TokenId) (slots : Slots) :
    AmbientCancelScope × Slots :=
  ({ previous := slots.currentCancel }, { slots with currentCancel := some token })

/-- `AmbientCancelScope::drop`. -/
def AmbientCancelScope.drop (scope : AmbientCancelScope) (slots : Slots) : Slots :=
  { slots with currentCancel := scope.previous }

/-! ### Running code -/

/-- A future of `local_call_scoped`. -/
structure LocalCall where
  id : Nat
  service : ServiceRef
  serviceName : String
  method : String
deriving Repr, DecidableEq

/-- What the code of a task does within one poll, as far as call identities go.  It
may go on differently for whatever it reads. -/
inductive Code where
  | done
  /-- `CallContext::current` and `CallContext::cancellation`. -/
  | observe (rest : Option CallContext → Option TokenId → Code)
  /-- `native_call` or `send_one_way`. -/
  | emit (outgoing : Outgoing) (rest : RpcHeader → Code)
  /-- A poll of an in-process call, in which the callee does `body`. -/
  | pollLocal (call : LocalCall) (body rest : Code)

/-- What can be seen of running code. -/
inductive Seen where
  | observed (context : Option CallContext) (token : Option TokenId)
  | emitted (header : RpcHeader)
  /-- An in-process call got its context. -/
  | called (context : CallContext)
deriving Repr, DecidableEq

/-- A thread: its slots, the identifiers it has taken, the contexts of the in-process
calls polled on it, and what was seen. -/
structure Thread where
  slots : Slots
  taken : Taken
  locals : Nat → Option CallContext
  seen : List Seen

namespace Thread

/-- The context of an in-process call: built in its first poll and kept in its
future. -/
def localContext (mint : Mint) (thread : Thread) (call : LocalCall) :
    CallContext × Thread :=
  match thread.locals call.id with
  | some context => (context, thread)
  | none =>
      let (context, taken) := CallContext.localCall mint thread.taken thread.slots.current
        call.service call.serviceName call.method
      (context, { thread with
        taken := taken
        locals := fun id => if id = call.id then some context else thread.locals id
        seen := thread.seen ++ [.called context] })

/-- Run the code of one poll. -/
def exec (mint : Mint) : Code → Thread → Thread
  | .done, thread => thread
  | .observe rest, thread =>
      exec mint (rest thread.slots.current thread.slots.currentCancel)
        { thread with
          seen := thread.seen ++
            [.observed thread.slots.current thread.slots.currentCancel] }
  | .emit outgoing rest, thread =>
      let sent := outgoing.header mint thread.taken thread.slots.current
      exec mint (rest sent.1)
        { thread with
          taken := sent.2
          seen := thread.seen ++ [.emitted sent.1] }
  | .pollLocal call body rest, thread =>
      let known := thread.localContext mint call
      let entered := known.1.enterAmbient known.2.slots
      let thread := exec mint body { known.2 with slots := entered.2 }
      exec mint rest { thread with slots := entered.1.drop thread.slots }

end Thread

/-! ### Handler tasks -/

/-- A handler task: the context `call_scoped` holds, and the token `CancellableCall`
holds when the call expects a response. -/
structure HandlerTask where
  context : CallContext
  token : Option TokenId
deriving Repr, DecidableEq

/-- `CallScope::poll`. -/
def CallContext.scopedPoll (mint : Mint) (context : CallContext) (code : Code)
    (thread : Thread) : Thread :=
  let entered := context.enterAmbient thread.slots
  let thread := Thread.exec mint code { thread with slots := entered.2 }
  { thread with slots := entered.1.drop thread.slots }

/-- One poll of a handler task, in which its code does `code`: `CallScope::poll`, for
a call that expects a response inside `CancellableCall::poll`. -/
def HandlerTask.poll (mint : Mint) (cancelled : TokenId → Bool) (task : HandlerTask)
    (code : Code) (thread : Thread) : Thread :=
  match task.token with
  | none => task.context.scopedPoll mint code thread
  | some token =>
      if cancelled token then
        thread
      else
        let installed := installCallCancellation token thread.slots
        let thread := task.context.scopedPoll mint code
          { thread with slots := installed.2 }
        { thread with slots := installed.1.drop thread.slots }

/-- A thread with the handler tasks it polls and the tokens that are cancelled. -/
structure Worker where
  thread : Thread
  tasks : List HandlerTask
  cancelled : TokenId → Bool

/-- One step of a worker. -/
inductive WorkerAction where
  /-- A request is dispatched to the handler of a method. -/
  | accept (header : RpcHeader) (serviceName method : String) (token : Option TokenId)
  /-- A token is cancelled, by whomever. -/
  | cancel (token : TokenId)
  /-- A task is polled and its code does `code`. -/
  | poll (task : Nat) (code : Code)

namespace Worker

/-- A worker without tasks, on a thread whose slots hold `slots`. -/
def new (slots : Slots) : Worker :=
  { thread :=
      { slots := slots
        taken := { correlationIds := 0, spanIds := 0 }
        locals := fun _ => none
        seen := [] }
    tasks := []
    cancelled := fun _ => false }

/-- One step of the worker. -/
def step (mint : Mint) (worker : Worker) : WorkerAction → Option Worker
  | .accept header serviceName method token =>
      let made := CallContext.new mint worker.thread.taken header serviceName method
      some { worker with
        thread := { worker.thread with taken := made.2 }
        tasks := worker.tasks ++ [{ context := made.1, token := token }] }
  | .cancel token =>
      some { worker with
        cancelled := fun other => if other = token then true else worker.cancelled other }
  | .poll task code =>
      match worker.tasks[task]? with
      | none => none
      | some polled =>
          some { worker with
            thread := polled.poll mint worker.cancelled code worker.thread }

end Worker

end IceRpc
