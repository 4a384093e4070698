/-
Module: IceRpc.Transport.Server
Purpose: The provider side of one channel (`ice-rpc/src/transport/server.rs`): the
  routing of a request sample, the registry of in-flight calls, and the polls and
  drops of the tasks that serve them, as threads that interleave step by step.
Trusted boundary: human-reviewed spec; what a handler does in a poll is an input
Main exports: RequestRejection, Provider, Provider.handleRequest, ProviderAction,
  Provider.step
-/
import Mathlib.Logic.Function.Basic
import IceRpc.Transport.Bridge
import IceRpc.Transport.Publish

namespace IceRpc

variable {T E F : Type}

/-! ### Publishing responses -/

/-- The response publisher of a channel: its sample sequence, and the samples handed
to `publish_until_delivered`. -/
structure ResponseHub where
  seq : UInt64
  responses : List Frame
deriving DecidableEq

/-- What a response publication meets: the reading of `now_ns`, and whether the
sample could be delivered. -/
structure PublishOutcome where
  now : UInt64
  delivered : Bool

namespace ResponseHub

/-- `ResponseHub::publish`. -/
def publish (hub : ResponseHub) (outcome : PublishOutcome) (kind : EventKind)
    (request : RpcHeader) (payload : Bytes) : ResponseHub × Bool :=
  let header := (RpcHeader.responseFrom request kind request.serviceVersion
    outcome.now).withSeq hub.seq
  ({ seq := hub.seq + 1, responses := hub.responses ++ [⟨header, payload⟩] },
    outcome.delivered)

/-- `ResponseHub::emitter`: the sink of the responses of one call. -/
def emitter (outcome : PublishOutcome) (request : RpcHeader) :
    ResponseEmitter ResponseHub where
  emit hub kind payload := hub.publish outcome kind request payload

end ResponseHub

/-! ### Rejections -/

/-- The eight-digit hexadecimal form of an id, `{:#010x}`. -/
def hexId (id : UInt32) : String :=
  let digits := Nat.toDigits 16 id.toNat
  "0x" ++ String.ofList (List.replicate (8 - digits.length) '0' ++ digits)

/-- Reason a request must not reach its handler. -/
inductive RequestRejection where
  | protocol (actual : UInt16)
  | serviceVersion (expected actual : UInt16)
deriving Repr, DecidableEq

namespace RequestRejection

/-- `RequestRejection::classify`: the protocol is checked first. -/
def classify (dispatcher : ServiceDispatcher F) (header : RpcHeader) :
    Option RequestRejection :=
  if header.protocolVersion ≠ IceRpc.protocolVersion then
    some (.protocol header.protocolVersion)
  else if header.serviceVersion ≠ dispatcher.service.version then
    some (.serviceVersion dispatcher.service.version header.serviceVersion)
  else
    none

/-- `RequestRejection::rpc_error`. -/
def rpcError : RequestRejection → RpcError
  | .protocol actual =>
      .protocolMismatch ("protocol_version " ++ toString actual.toNat ++ " != " ++
        toString IceRpc.protocolVersion.toNat)
  | .serviceVersion expected actual => .incompatibleVersion expected actual

end RequestRejection

/-! ### The registry and the tasks -/

/-- Name of a cancellation token. -/
abbrev TokenId := Nat

/-- Where a wrapped task stands in `CancellableCall::poll`. -/
inductive TaskPhase where
  /-- Between two polls. -/
  | waiting
  /-- The token was read as not cancelled; the handler is polled next. -/
  | polling
  /-- The handler answered `Pending`; the token is polled next. -/
  | polled
  /-- The poll answered `Ready`; the future is dropped next. -/
  | finished
  /-- The future is dropped. -/
  | gone
deriving Repr, DecidableEq

/-- A task wrapped by `CancellableCall`, with the number of polls its handler got. -/
structure Task (F : Type) where
  cid : CorrelationId
  body : F
  phase : TaskPhase
  handlerPolls : Nat

/-- The future exists. -/
def Task.alive (task : Task F) : Bool := decide (task.phase ≠ .gone)

/-- The provided channel.  A wrapped task is named by its token; `oneway` are the
one-way tasks handed to the executor; `inline` is the task `run_or_spawn` polls on
the dispatch thread. -/
structure Provider (F : Type) where
  hub : ResponseHub
  inFlight : CorrelationId → Option TokenId
  cancelled : TokenId → Bool
  nextToken : Nat
  tasks : TokenId → Option (Task F)
  oneway : List F
  inline : Option TokenId

namespace Provider

/-- A channel that has served nothing yet. -/
def new : Provider F :=
  { hub := { seq := 0, responses := [] }
    inFlight := fun _ => none
    cancelled := fun _ => false
    nextToken := 0
    tasks := fun _ => none
    oneway := []
    inline := none }

variable (provider : Provider F)

/-- `InFlightCalls::register`: a new token, recorded as in flight. -/
def register (cid : CorrelationId) : Provider F × TokenId :=
  let token := provider.nextToken
  ({ provider with
      inFlight := Function.update provider.inFlight cid (some token)
      cancelled := Function.update provider.cancelled token false
      nextToken := token + 1 },
    token)

/-- `InFlightCalls::cancel`: fire the token of a call in flight.  The entry stays. -/
def cancel (cid : CorrelationId) : Provider F × Bool :=
  match provider.inFlight cid with
  | some token =>
      ({ provider with cancelled := Function.update provider.cancelled token true },
        true)
  | none => (provider, false)

/-- `InFlightCalls::unregister`. -/
def unregister (cid : CorrelationId) : Provider F :=
  { provider with inFlight := Function.update provider.inFlight cid none }

/-- `reject`: answer a request that cannot be served. -/
def reject (rkyv : Rkyv T E) (provider : Provider F) (outcome : PublishOutcome)
    (header : RpcHeader) (err : RpcError) : Provider F :=
  { provider with
    hub := (emitRpcError rkyv (ResponseHub.emitter outcome header) err
      provider.hub).1 }

/-- The wrapped task of an accepted call, registered before it runs and about to be
polled inline by `run_or_spawn`. -/
def accept (cid : CorrelationId) (body : F) : Provider F :=
  let registered := provider.register cid
  { registered.1 with
    tasks := Function.update registered.1.tasks registered.2
      (some { cid := cid, body := body, phase := .waiting, handlerPolls := 0 })
    inline := some registered.2 }

/-- `handle_request`: route one sample of the request channel. -/
def handleRequest (rkyv : Rkyv T E) (table : UInt32 → Option (ServiceDispatcher F))
    (provider : Provider F) (outcome : PublishOutcome) (header : RpcHeader)
    (payload : Bytes) : Provider F :=
  match header.eventKind with
  | .request =>
      match table header.serviceId with
      | none =>
          provider.reject rkyv outcome header (.unknownService (hexId header.serviceId))
      | some dispatcher =>
          match RequestRejection.classify dispatcher header with
          | some rejection => provider.reject rkyv outcome header rejection.rpcError
          | none =>
              match dispatcher.dispatch header.methodId header payload with
              | some dispatched =>
                  if dispatched.expectsResponse then
                    provider.accept header.correlationId dispatched.task
                  else
                    { provider with oneway := provider.oneway ++ [dispatched.task] }
              | none =>
                  provider.reject rkyv outcome header
                    (.unknownMethod (hexId header.methodId))
  | .cancel => (provider.cancel header.correlationId).1
  | _ => provider

end Provider

/-- One atomic step of one of the threads of a provided channel. -/
inductive ProviderAction where
  /-- The dispatch thread handles a sample of the request channel. -/
  | sample (header : RpcHeader) (payload : Bytes) (outcome : PublishOutcome)
  /-- `run_or_spawn` without a runtime to poll on hands its task over unpolled. -/
  | detach
  /-- A poll of a wrapped task begins: it reads its token. -/
  | beginPoll (token : TokenId)
  /-- The poll runs the handler, which is ready or not. -/
  | pollHandler (token : TokenId) (ready : Bool)
  /-- The poll ends with `poll_cancelled_cached`. -/
  | pollToken (token : TokenId)
  /-- The future is dropped: it is finished, or its executor gives it up. -/
  | drop (token : TokenId)

namespace Provider

variable (provider : Provider F)

def setTask (token : TokenId) (task : Task F) : Provider F :=
  { provider with tasks := Function.update provider.tasks token (some task) }

/-- The dispatch thread is done with a task it polled inline. -/
def leave (token : TokenId) : Provider F :=
  { provider with
    inline := if provider.inline = some token then none else provider.inline }

/-- The spawn of a task `run_or_spawn` did not poll. -/
def detach : Option (Provider F) :=
  match provider.inline with
  | some token =>
      match provider.tasks token with
      | some task =>
          if task.phase = .waiting then some (provider.leave token) else none
      | none => none
  | none => none

/-- `CancellableCall::poll`, first lines: a cancelled call is over. -/
def beginPoll (token : TokenId) : Option (Provider F) :=
  match provider.tasks token with
  | some task =>
      match task.phase with
      | .waiting =>
          some (provider.setTask token
            { task with
              phase := if provider.cancelled token then .finished else .polling })
      | _ => none
  | none => none

/-- The poll of the handler. -/
def pollHandler (token : TokenId) (ready : Bool) : Option (Provider F) :=
  match provider.tasks token with
  | some task =>
      match task.phase with
      | .polling =>
          some (provider.setTask token
            { task with
              phase := if ready then .finished else .polled
              handlerPolls := task.handlerPolls + 1 })
      | _ => none
  | none => none

/-- The poll of the token behind a pending handler: a Cancel fired meanwhile is seen
at once, and a pending task goes to the executor. -/
def pollToken (token : TokenId) : Option (Provider F) :=
  match provider.tasks token with
  | some task =>
      match task.phase with
      | .polled =>
          if provider.cancelled token then
            some (provider.setTask token { task with phase := .finished })
          else
            some ((provider.setTask token { task with phase := .waiting }).leave token)
      | _ => none
  | none => none

/-- The drop of the future runs its `InFlightGuard`. -/
def drop (token : TokenId) : Option (Provider F) :=
  match provider.tasks token with
  | some task =>
      if task.phase = .finished ∨
          (task.phase = .waiting ∧ provider.inline ≠ some token) then
        some (((provider.unregister task.cid).setTask token
          { task with phase := .gone }).leave token)
      else
        none
  | none => none

/-- One step of the channel; `none` when the action is not enabled.  The dispatch
thread handles a sample only once it is done with the one before. -/
def step (rkyv : Rkyv T E) (table : UInt32 → Option (ServiceDispatcher F))
    (provider : Provider F) : ProviderAction → Option (Provider F)
  | .sample header payload outcome =>
      match provider.inline with
      | some _ => none
      | none => some (provider.handleRequest rkyv table outcome header payload)
  | .detach => provider.detach
  | .beginPoll token => provider.beginPoll token
  | .pollHandler token ready => provider.pollHandler token ready
  | .pollToken token => provider.pollToken token
  | .drop token => provider.drop token

end Provider

end IceRpc
