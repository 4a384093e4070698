/-
Module: IceRpc.Transport.Channel
Purpose: One whole channel: any number of consumer processes, the provider that
  serves them, and the two topics between them.  The pieces are those of
  `ice-rpc/src/transport/{client,publish,server,bridge}.rs`; here they meet, and their
  threads interleave step by step.
Trusted boundary: human-reviewed spec; the topics are a model of iceoryx2
Main exports: Channel, ChannelAction, Channel.step
-/
import IceRpc.Transport.Client
import IceRpc.Transport.Server

namespace IceRpc

open Function (update)

variable {T E : Type}

/-! ### The topics of a channel -/

/-- The sample a publication puts on its topic: a zero-length payload still needs
one byte. -/
def Frame.sent (header : RpcHeader) (payload : Bytes) : Frame :=
  { header := header, payload := if payload.isEmpty then [0] else payload }

namespace Topic

/-- The topic after an attempt that these subscribers took. -/
def afterAttempt (topic : Topic) (takes : Subscriber → Bool) (header : RpcHeader)
    (payload : Bytes) (takers : List Port) : Topic :=
  if takers.isEmpty then topic else (topic.send takes (.sent header payload)).topic

/-- The samples that wait for a subscriber. -/
def waiting (topic : Topic) (port : Port) : List Frame :=
  ((topic.find? fun subscriber => subscriber.port = port).map Subscriber.buffer).getD []

/-- A subscriber has taken the first sample out of its buffer. -/
def received (topic : Topic) (port : Port) (rest : List Frame) : Topic :=
  topic.map fun subscriber =>
    if subscriber.port = port then { subscriber with buffer := rest } else subscriber

/-- A port subscribes; a port has one subscriber. -/
def join (topic : Topic) (port : Port) (capacity : Nat) : Option Topic :=
  if port ∈ topic.map Subscriber.port then none
  else some (topic ++ [{ port := port, capacity := capacity, buffer := [] }])

/-- A subscriber goes, with the samples that waited for it. -/
def leave (topic : Topic) (port : Port) : Topic :=
  topic.filter fun subscriber => subscriber.port ≠ port

end Topic

/-! ### Answering a call -/

/-- What the task of a call answers from: the events of the observable its service
method returns, and when a poll finds them. -/
structure Handling (T E : Type) where
  events : List (Event T E)
  schedule : Stream' Bool

/-- The services of a provider, by their id. -/
abbrev Services (T E : Type) := UInt32 → Option (ServiceDispatcher (Handling T E))

/-- Sink of one turn of `observable_to_responses`: the sample it emits goes to the
publisher, whose answer comes when the publication returns. -/
def handOver : ResponseEmitter (Option Sample) where
  emit _ kind payload := (some ⟨kind, payload⟩, true)

/-- A task at work: the request its emitter answers, and the loop of its responses. -/
structure Answering (T E : Type) where
  request : RpcHeader
  responding : Responding T E (Option Sample)

namespace Answering

/-- The task of a handled request, before its first poll. -/
def start (request : RpcHeader) (handling : Handling T E) : Answering T E :=
  { request := request
    responding := .start handling.events handling.schedule none }

/-- The loop with an empty sink. -/
def ready (serving : Answering T E) : Responding T E (Option Sample) :=
  { serving.responding with sink := none }

/-- The next turn of the loop. -/
def turn (rkyv : Rkyv T E) (serving : Answering T E) : Answering T E :=
  { serving with responding := serving.ready.turn rkyv handOver }

/-- `emit` answered `false`. -/
def refused (serving : Answering T E) : Answering T E :=
  { serving with responding := { serving.responding with outcome := some .refused } }

/-- The loops once the publication of this thread has failed. -/
def refuse (loops : TokenId → Option (Answering T E)) :
    Option TokenId → TokenId → Option (Answering T E)
  | some token => update loops token ((loops token).map refused)
  | none => loops

end Answering

/-- The sample a hub was handed since an earlier state of it. -/
def ResponseHub.since (later earlier : ResponseHub) : Option Frame :=
  later.responses[earlier.responses.length]?

/-- The publication of a sample handed to the hub. -/
def Publication.ofFrame (frame : Frame) : Publication :=
  { mode := .untilDelivered, header := frame.header, payload := frame.payload, attempts := 0 }

/-! ### The channel -/

/-- A channel.  `serving` holds the loops of the provider's tasks; `outbox` the
publications that block the thread they run on, of a task or, under `none`, of the
rejection the dispatch thread answers.  The last three fields are records: the
request samples the provider took up, the response samples that some subscriber took,
and the response samples each consumer took up, all in order. -/
structure Channel (T E : Type) where
  consumers : Nat → ConsumerPorts T E
  issued : List CorrelationId
  requests : Topic
  provider : Provider (Handling T E)
  serving : TokenId → Option (Answering T E)
  outbox : Option TokenId → Option Publication
  responses : Topic
  handled : List Frame
  log : List Frame
  heard : Nat → List Frame

/-- One atomic step of one of the threads of a channel.  The conditions of an attempt
leave the topic to the channel. -/
inductive ChannelAction (T E : Type) where
  | joinRequests (port : Port) (capacity : Nat)
  | leaveRequests (port : Port)
  | joinResponses (port : Port) (capacity : Nat)
  | leaveResponses (port : Port)
  /-- `native_call` of a consumer, up to the registration of its handler. -/
  | call (id : Nat) (cid : CorrelationId) (methodId : UInt32) (service : ServiceRef)
      (trace : TraceContext) (payload : Bytes) (now : UInt64)
  /-- One iteration of the publication of a request. -/
  | attempt (id : Nat) (cid : CorrelationId) (met : Conditions)
  /-- `send_one_way`. -/
  | notify (id : Nat) (cid : CorrelationId) (methodId : UInt32) (service : ServiceRef)
      (trace : TraceContext) (payload : Bytes) (now : UInt64) (met : Conditions)
  /-- `publish_cancel`. -/
  | cancel (id : Nat) (cid : CorrelationId) (now : UInt64) (met : Conditions)
  /-- A step of a consumer that touches no topic. -/
  | advance (id : Nat) (action : ClientAction T E)
  /-- The response dispatcher of a consumer takes up its next sample. -/
  | receive (id : Nat)
  /-- The dispatch thread of the provider takes up its next sample. -/
  | dispatch (now : UInt64)
  /-- A step of the provider that runs no handler. -/
  | attend (action : ProviderAction)
  /-- The poll of a task runs the next turn of its loop. -/
  | turn (token : TokenId) (now : UInt64)
  /-- One iteration of the publication of a response. -/
  | publish (owner : Option TokenId) (met : Conditions)

/-- The step needs nothing but the consumer's own state. -/
def ClientAction.isLocal : ClientAction T E → Bool
  | .giveUp _ | .trySend | .release | .recv _ | .drop _ | .cleanup _ | .close _ => true
  | .call .. | .attempt .. | .sample .. | .publishCancel .. => false

/-- The step needs nothing but the provider's own state. -/
def ProviderAction.isLocal : ProviderAction → Bool
  | .detach | .beginPoll _ | .pollToken _ | .drop _ => true
  | .sample .. | .pollHandler .. => false

namespace Channel

/-- A channel nobody has joined. -/
def new : Channel T E :=
  { consumers := fun _ => .new
    issued := []
    requests := []
    provider := .new
    serving := fun _ => none
    outbox := fun _ => none
    responses := []
    handled := []
    log := []
    heard := fun _ => [] }

variable (rkyv : Rkyv T E) (table : Services T E) (channel : Channel T E)

def setConsumer (id : Nat) (ports : ConsumerPorts T E) : Channel T E :=
  { channel with consumers := update channel.consumers id ports }

/-- A consumer has made an attempt to publish a request, which these subscribers took. -/
def requested (id : Nat) (ports : ConsumerPorts T E) (header : RpcHeader) (payload : Bytes)
    (takes : Subscriber → Bool) (takers : List Port) : Channel T E :=
  { channel.setConsumer id ports with
    requests := channel.requests.afterAttempt takes header payload takers }

/-- A consumer has taken the first sample of its buffer. -/
def heardBy (id : Nat) (ports : ConsumerPorts T E) (frame : Frame) (rest : List Frame) :
    Channel T E :=
  { channel.setConsumer id ports with
    responses := channel.responses.received (.consumer id) rest
    heard := update channel.heard id (channel.heard id ++ [frame]) }

/-- `native_call`: the id is one no process has used. -/
def call (id : Nat) (cid : CorrelationId) (methodId : UInt32) (service : ServiceRef)
    (trace : TraceContext) (payload : Bytes) (now : UInt64) : Option (Channel T E) :=
  if channel.issued.contains cid then none
  else
    ((channel.consumers id).step (.call cid rkyv methodId service trace payload now)).map
      fun ports => { channel.setConsumer id ports with issued := channel.issued ++ [cid] }

/-- An iteration of the publication of a request, on the request topic. -/
def attempt (id : Nat) (cid : CorrelationId) (met : Conditions) : Option (Channel T E) :=
  match (channel.consumers id).calls cid with
  | some call =>
      match call.phase with
      | .publishing attempts =>
          let met := { met with topic := channel.requests }
          let takers := (publishAttempt call.header call.payload attempts met).2
          ((channel.consumers id).step (.attempt cid met)).map fun ports =>
            channel.requested id ports call.header call.payload met.takes takers
      | _ => none
  | none => none

/-- `send_one_way`: a header like that of a call, and one attempt. -/
def notify (id : Nat) (cid : CorrelationId) (methodId : UInt32) (service : ServiceRef)
    (trace : TraceContext) (payload : Bytes) (now : UInt64) (met : Conditions) :
    Option (Channel T E) :=
  if channel.issued.contains cid then none
  else
    let ports := channel.consumers id
    let header := ports.requestHeader cid methodId service trace now
    let takers := (publishOneWay header payload { met with topic := channel.requests }).2
    let ports := { ports with seq := ports.seq + 1 }
    some { channel.requested id ports header payload met.takes takers with
      issued := channel.issued ++ [cid] }

/-- `publish_cancel`, best effort on the request topic. -/
def cancel (id : Nat) (cid : CorrelationId) (now : UInt64) (met : Conditions) :
    Option (Channel T E) :=
  match (channel.consumers id).calls cid with
  | some call =>
      let header := (channel.consumers id).cancelHeader call now
      ((channel.consumers id).step (.publishCancel cid now)).map fun ports =>
        { channel.setConsumer id ports with
          requests :=
            (tryPublish header [] { met with topic := channel.requests }).2.topic }
  | none => none

/-- The response dispatcher of a consumer takes its next sample out of its buffer. -/
def receive (id : Nat) : Option (Channel T E) :=
  match channel.responses.waiting (.consumer id) with
  | frame :: rest =>
      ((channel.consumers id).step (.sample frame.header frame.payload)).map fun ports =>
        channel.heardBy id ports frame rest
  | [] => none

/-- The loops once a request was routed: that of a new task is about to start. -/
def adopt (request : RpcHeader) (provider : Provider (Handling T E)) :
    TokenId → Option (Answering T E) :=
  match provider.inline with
  | some token =>
      update channel.serving token
        ((provider.tasks token).map fun task => .start request task.body)
  | none => channel.serving

/-- The provider has routed the first sample of its buffer. -/
def dispatched (frame : Frame) (rest : List Frame) (provider : Provider (Handling T E)) :
    Channel T E :=
  { channel with
    requests := channel.requests.received .provider rest
    provider := provider
    serving := channel.adopt frame.header provider
    outbox := update channel.outbox none
      ((provider.hub.since channel.provider.hub).map .ofFrame)
    handled := channel.handled ++ [frame] }

/-- The dispatch thread takes its next sample, once it is done with the one before:
with the task it polls inline, or with the publication of a rejection. -/
def dispatch (now : UInt64) : Option (Channel T E) :=
  match channel.provider.inline, channel.outbox none, channel.requests.waiting .provider with
  | none, none, frame :: rest =>
      some (channel.dispatched frame rest (channel.provider.handleRequest rkyv table
        { now := now, delivered := true } frame.header frame.payload))
  | _, _, _ => none

/-- A step of the provider that runs no handler. -/
def attend (action : ProviderAction) : Option (Channel T E) :=
  if action.isLocal then
    (channel.provider.step rkyv table action).map fun provider =>
      { channel with provider := provider }
  else
    none

/-- The poll of a task goes on with its loop: it emits a sample and waits for its
publication, or it is pending, or the task is done. -/
def turn (token : TokenId) (now : UInt64) : Option (Channel T E) :=
  match channel.provider.tasks token, channel.serving token, channel.outbox (some token) with
  | some task, some serving, none =>
      if task.phase = .polling then
        let turned := serving.turn rkyv
        match turned.responding.sink with
        | some sample =>
            let hub := (channel.provider.hub.publish { now := now, delivered := true }
              sample.kind serving.request sample.payload).1
            some
              { channel with
                provider := { channel.provider with hub := hub }
                serving := update channel.serving token (some turned)
                outbox := update channel.outbox (some token)
                  ((hub.since channel.provider.hub).map .ofFrame) }
        | none =>
            (channel.provider.pollHandler token turned.responding.outcome.isSome).map
              fun provider =>
                { channel with
                  provider := provider
                  serving := update channel.serving token (some turned) }
      else
        none
  | _, _, _ => none

/-- An iteration of the publication of a response, on the response topic. -/
def publish (owner : Option TokenId) (met : Conditions) : Option (Channel T E) :=
  match channel.outbox owner with
  | some publication =>
      let attempted := publishAttempt publication.header publication.payload
        publication.attempts { met with topic := channel.responses }
      let next :=
        { channel with
          responses := channel.responses.afterAttempt met.takes publication.header
            publication.payload attempted.2
          log := channel.log ++
            (delivered publication.header attempted.2).map (Frame.sent · publication.payload) }
      match attempted.1 with
      | .retry attempts =>
          some { next with
            outbox := update channel.outbox owner
              (some { publication with attempts := attempts }) }
      | .returned (.ok ()) =>
          some { next with outbox := update channel.outbox owner none }
      | .returned (.error _) =>
          some { next with
            outbox := update channel.outbox owner none
            serving := Answering.refuse channel.serving owner }
  | none => none

/-- One step of the channel; `none` when the action is not enabled. -/
def step : ChannelAction T E → Option (Channel T E)
  | .joinRequests port capacity =>
      (channel.requests.join port capacity).map fun topic =>
        { channel with requests := topic }
  | .leaveRequests port => some { channel with requests := channel.requests.leave port }
  | .joinResponses port capacity =>
      (channel.responses.join port capacity).map fun topic =>
        { channel with responses := topic }
  | .leaveResponses port => some { channel with responses := channel.responses.leave port }
  | .call id cid methodId service trace payload now =>
      channel.call rkyv id cid methodId service trace payload now
  | .attempt id cid met => channel.attempt id cid met
  | .notify id cid methodId service trace payload now met =>
      channel.notify id cid methodId service trace payload now met
  | .cancel id cid now met => channel.cancel id cid now met
  | .advance id action =>
      if action.isLocal then
        ((channel.consumers id).step action).map (channel.setConsumer id)
      else
        none
  | .receive id => channel.receive id
  | .dispatch now => channel.dispatch rkyv table now
  | .attend action => channel.attend rkyv table action
  | .turn token now => channel.turn rkyv token now
  | .publish owner met => channel.publish owner met

end Channel

end IceRpc
