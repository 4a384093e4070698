/-
Module: IceRpc.Proofs.ChannelOwners
Purpose: Who answers the requests of a channel, over any sequence of registrations
  and starts.  One thread serves a channel, and one dispatcher each of its services,
  exactly when no registration made after the seal goes to a channel that has a
  thread already.
Trusted boundary: none
Main exports: RequestAnswer, answerOf, handleRequest_answer, Registrations,
  Registrations.step, Registrations.Consistent, one_owner_iff
-/
import Mathlib.Data.List.Nodup
import IceRpc.Proofs.Registration

namespace IceRpc

open Lib

variable {T E F : Type}

/-! ### The answer of one thread to a request -/

/-- What a thread does with a request. -/
inductive RequestAnswer (F : Type) where
  | unknownService (id : UInt32)
  | rejected (rejection : RequestRejection)
  | unknownMethod (id : UInt32)
  | served (request : DispatchedRequest F)

/-- The answer of the dispatcher a request is routed to. -/
def ServiceDispatcher.answer (dispatcher : ServiceDispatcher F) (header : RpcHeader)
    (payload : Bytes) : RequestAnswer F :=
  match RequestRejection.classify dispatcher header with
  | some rejection => .rejected rejection
  | none =>
      match dispatcher.dispatch header.methodId header payload with
      | some request => .served request
      | none => .unknownMethod header.methodId

/-- The answer of a thread with the given table. -/
def answerOf (table : UInt32 → Option (ServiceDispatcher F)) (header : RpcHeader)
    (payload : Bytes) : RequestAnswer F :=
  match table header.serviceId with
  | none => .unknownService header.serviceId
  | some dispatcher => dispatcher.answer header payload

/-- What a thread makes of its answer. -/
def Provider.perform (rkyv : Rkyv T E) (provider : Provider F) (outcome : PublishOutcome)
    (header : RpcHeader) : RequestAnswer F → Provider F
  | .unknownService id =>
      provider.reject rkyv outcome header (.unknownService (hexId id))
  | .rejected rejection => provider.reject rkyv outcome header rejection.rpcError
  | .unknownMethod id =>
      provider.reject rkyv outcome header (.unknownMethod (hexId id))
  | .served request =>
      if request.expectsResponse then
        provider.accept header.correlationId request.task
      else
        { provider with oneway := provider.oneway ++ [request.task] }

/-- `handle_request` performs the answer of its table. -/
theorem handleRequest_answer (rkyv : Rkyv T E)
    (table : UInt32 → Option (ServiceDispatcher F)) (provider : Provider F)
    (outcome : PublishOutcome) {header : RpcHeader} (payload : Bytes)
    (request : header.eventKind = .request) :
    provider.handleRequest rkyv table outcome header payload =
      provider.perform rkyv outcome header (answerOf table header payload) := by
  unfold Provider.handleRequest answerOf
  rw [request]
  cases table header.serviceId with
  | none => rfl
  | some dispatcher =>
      simp only [ServiceDispatcher.answer]
      cases RequestRejection.classify dispatcher header with
      | some rejection => rfl
      | none =>
          simp only
          cases dispatcher.dispatch header.methodId header payload with
          | none => rfl
          | some request => rfl

/-! ### Sequences of registrations and starts -/

/-- A call of one of the two entry points. -/
inductive RegistrationCall (F : Type) where
  | register (channel : String) (service : RegisteredChannelService F)
  | start

/-- A process that registers and starts its services one call after the other, and
the registrations that returned `Ok`. -/
structure Registrations (F : Type) where
  providing : Providing F
  accepted : List (String × RegisteredChannelService F)

namespace Registrations

def new : Registrations F := { providing := .new, accepted := [] }

/-- One call, run to its end. -/
def step (state : Registrations F) : RegistrationCall F → Option (Registrations F)
  | .register channel service =>
      match state.providing.registerNativeService channel service with
      | (.ok _, providing) =>
          some
            { providing := providing
              accepted := state.accepted ++ [(channel, service)] }
      | (.error _, providing) => some { state with providing := providing }
  | .start =>
      some { state with providing := state.providing.startRegisteredChannels }

/-- The answers a request on a channel gets: every thread of the channel receives
it. -/
def answers (state : Registrations F) (channel : String) (header : RpcHeader)
    (payload : Bytes) : List (RequestAnswer F) :=
  (state.providing.threadsOf channel).map fun provided =>
    answerOf provided.table header payload

/-- The id a service answers to. -/
def idOf (entry : String × RegisteredChannelService F) : UInt32 :=
  entry.2.dispatcher.service.id

/-- On each channel a service id was accepted at most once and is carried by at most
one started dispatcher; and once the channels are started, a request for an accepted
service gets one answer, that of its dispatcher. -/
structure OneOwner (state : Registrations F) : Prop where
  acceptedOnce : ∀ channel,
    ((state.accepted.filter (·.1 = channel)).map idOf).Nodup
  startedOnce : ∀ channel,
    (((entries state.providing.threads).filter (·.1 = channel)).map idOf).Nodup
  served : state.providing.channelsSealed = true →
    ∀ channel service, (channel, service) ∈ state.accepted →
      ∀ header payload, header.eventKind = .request →
        header.serviceId = service.dispatcher.service.id →
        state.answers channel header payload =
          [service.dispatcher.answer header payload]

/-- A registration made after the seal goes to a channel without a thread. -/
def OwnChannel (state : Registrations F) : RegistrationCall F → Prop
  | .register channel _ =>
      state.providing.channelsSealed = true → state.providing.threadsOf channel = []
  | .start => True

end Registrations

/-! ### Channels with distinct names and services -/

/-- Distinct channels, each with services, of distinct ids. -/
structure Distinct (channels : List (ProvidedChannel F)) : Prop where
  names : (channels.map (·.channel)).Nodup
  inhabited : ∀ provided ∈ channels, provided.services ≠ []
  ids : ∀ provided ∈ channels,
    (provided.services.map fun service => service.dispatcher.service.id).Nodup

theorem distinct_nil : Distinct ([] : List (ProvidedChannel F)) :=
  ⟨List.nodup_nil, by simp, by simp⟩

/-- No conflicting name, no service of that id. -/
theorem conflictingName_eq_none {services : List (RegisteredChannelService F)}
    {id : UInt32} (free : conflictingName services id = none) :
    id ∉ services.map fun service => service.dispatcher.service.id := by
  intro member
  obtain ⟨service, among, same⟩ := List.mem_map.mp member
  rw [conflictingName, Option.map_eq_none_iff, List.find?_eq_none] at free
  exact free service among (by simpa using same)

/-- A registration that joins keeps the channels and their services distinct. -/
theorem joinRegistry_ok_distinct {channel : String}
    {service : RegisteredChannelService F} {registry joined : List (ProvidedChannel F)}
    (accepted : joinRegistry channel service registry = .ok joined)
    (distinct : Distinct registry) : Distinct joined := by
  have inhabited := (joinRegistry_ok_inhabited accepted distinct.inhabited).2
  obtain ⟨names, -, ids⟩ := distinct
  rcases joinRegistry_ok accepted with
    ⟨before, services, after, rfl, free, rfl⟩ | ⟨fresh, rfl⟩
  · refine ⟨by simpa using names, inhabited, ?_⟩
    rw [List.forall_mem_append, List.forall_mem_cons] at ids ⊢
    refine ⟨ids.1, ?_, ids.2.2⟩
    rw [List.map_append, List.map_singleton, ← List.concat_eq_append, List.nodup_concat]
    exact ⟨conflictingName_eq_none free, ids.2.1⟩
  · refine ⟨?_, inhabited, ?_⟩
    · rw [List.map_append, List.map_singleton, ← List.concat_eq_append,
        List.nodup_concat]
      exact ⟨fresh, names⟩
    · rw [List.forall_mem_append]
      exact ⟨ids, by simp⟩

/-- The services of the channels of one name. -/
theorem entries_filter (channels : List (ProvidedChannel F)) (channel : String) :
    entries (channels.filter (·.channel = channel)) =
      (entries channels).filter (·.1 = channel) := by
  induction channels with
  | nil => rfl
  | cons provided channels ih =>
      rw [entries_cons, List.filter_append, ← ih, List.filter_map]
      rcases eq_or_ne provided.channel channel with same | different
      · rw [List.filter_cons_of_pos (by simpa using same), entries_cons]
        simp [Function.comp_def, same]
      · rw [List.filter_cons_of_neg (by simpa using different)]
        simp [Function.comp_def, different]

/-- On distinct channels no service id occurs twice under one name. -/
theorem Distinct.idOf_nodup {channels : List (ProvidedChannel F)}
    (distinct : Distinct channels) (channel : String) :
    (((entries channels).filter (·.1 = channel)).map Registrations.idOf).Nodup := by
  rw [← entries_filter]
  by_cases among : channel ∈ channels.map (·.channel)
  · obtain ⟨provided, member, rfl⟩ := List.mem_map.mp among
    rw [filter_key_of_nodup distinct.names member]
    simpa [entries, Registrations.idOf, Function.comp_def] using
      distinct.ids provided member
  · have none_ : channels.filter (·.channel = channel) = [] := by
      rw [List.filter_eq_nil_iff]
      intro provided member same
      exact among (List.mem_map.mpr ⟨provided, member, by simpa using same⟩)
    rw [none_]
    exact List.nodup_nil

/-- A thread whose services have distinct ids finds each of them. -/
theorem ProvidedChannel.table_of_mem {provided : ProvidedChannel F}
    (ids : (provided.services.map fun service => service.dispatcher.service.id).Nodup)
    {service : RegisteredChannelService F} (member : service ∈ provided.services) :
    provided.table service.dispatcher.service.id = some service.dispatcher := by
  have alone := filter_key_of_nodup ids member
  rw [table, ← List.head?_filter, List.filter_reverse, alone]
  rfl

namespace Registrations

/-! ### What every sequence of calls keeps -/

/-- Before the seal there are no threads and after it no registry; channels and
services are distinct in the registry, services within each thread; and the accepted
registrations are the services of the registry and of the threads. -/
structure Consistent (state : Registrations F) : Prop where
  registry : Distinct state.providing.registry
  inhabited : ∀ provided ∈ state.providing.threads, provided.services ≠ []
  ids : ∀ provided ∈ state.providing.threads,
    (provided.services.map fun service => service.dispatcher.service.id).Nodup
  unsealed : state.providing.channelsSealed = false → state.providing.threads = []
  sealed : state.providing.channelsSealed = true → state.providing.registry = []
  accepted : state.accepted.Perm
    (entries state.providing.threads ++ entries state.providing.registry)

theorem consistent_new : Consistent (new : Registrations F) where
  registry := distinct_nil
  inhabited := by simp [new, Providing.new]
  ids := by simp [new, Providing.new]
  unsealed := fun _ => rfl
  sealed := fun _ => rfl
  accepted := .refl _

/-- What one call can do: join the registry or be refused there, start a thread of its
own behind the seal, start the registered channels, or nothing. -/
inductive Moves : Registrations F → RegistrationCall F → Registrations F → Prop
  | spawn {state channel service} (behind : state.providing.channelsSealed = true) :
      Moves state (.register channel service)
        { providing :=
            { state.providing with
              threads := state.providing.threads ++ [⟨channel, [service]⟩] }
          accepted := state.accepted ++ [(channel, service)] }
  | join {state channel service registry}
      (before : state.providing.channelsSealed = false)
      (joined : joinRegistry channel service state.providing.registry = .ok registry) :
      Moves state (.register channel service)
        { providing := { state.providing with registry := registry }
          accepted := state.accepted ++ [(channel, service)] }
  | refuse {state channel service refusal}
      (before : state.providing.channelsSealed = false)
      (refused : joinRegistry channel service state.providing.registry =
        .error refusal) :
      Moves state (.register channel service) state
  | start {state} (before : state.providing.channelsSealed = false) :
      Moves state .start
        { state with
          providing :=
            { channelsSealed := true
              registry := []
              threads := state.providing.threads ++ state.providing.registry } }
  | again {state} (behind : state.providing.channelsSealed = true) :
      Moves state .start state

theorem step_moves {state next : Registrations F} {call : RegistrationCall F}
    (performed : state.step call = some next) : Moves state call next := by
  cases call with
  | register channel service =>
      simp only [step, Providing.registerNativeService] at performed
      cases flag : state.providing.channelsSealed with
      | true =>
          rw [if_pos flag] at performed
          cases performed
          exact .spawn flag
      | false =>
          rw [if_neg (by simp [flag])] at performed
          cases joined : joinRegistry channel service state.providing.registry with
          | ok registry =>
              simp only [joined] at performed
              cases performed
              exact .join flag joined
          | error refusal =>
              simp only [joined] at performed
              cases performed
              exact .refuse flag joined
  | start =>
      simp only [step, Providing.startRegisteredChannels] at performed
      cases flag : state.providing.channelsSealed with
      | true =>
          simp only [flag, if_true] at performed
          cases performed
          exact .again flag
      | false =>
          simp only [flag] at performed
          cases performed
          exact .start flag

/-- Every call keeps the sequence consistent. -/
theorem consistent_step {state next : Registrations F} {call : RegistrationCall F}
    (inv : Consistent state) (performed : state.step call = some next) :
    Consistent next := by
  cases step_moves performed with
  | @spawn channel service behind =>
      refine ⟨inv.registry, ?_, ?_, ?_, inv.sealed, ?_⟩
      · rw [List.forall_mem_append]
        exact ⟨inv.inhabited, by simp⟩
      · rw [List.forall_mem_append]
        exact ⟨inv.ids, by simp⟩
      · intro unsealed
        rw [behind] at unsealed
        cases unsealed
      · have before := inv.accepted
        rw [inv.sealed behind, entries_nil, List.append_nil] at before ⊢
        rw [entries_append]
        exact before.append_right _
  | @join channel service registry before joined =>
      refine ⟨joinRegistry_ok_distinct joined inv.registry, inv.inhabited, inv.ids,
        inv.unsealed, ?_, ?_⟩
      · intro sealed
        rw [before] at sealed
        cases sealed
      · have added := joinRegistry_ok_perm joined
        have all := inv.accepted.append_right [(channel, service)]
        rw [List.append_assoc] at all
        exact all.trans (added.symm.append_left _)
  | refuse before refused => exact inv
  | start before =>
      have noThreads := inv.unsealed before
      have all := inv.accepted
      rw [noThreads] at all
      refine ⟨distinct_nil, ?_, ?_, ?_, fun _ => rfl, ?_⟩
      · rw [noThreads]
        exact inv.registry.inhabited
      · rw [noThreads]
        exact inv.registry.ids
      · intro unsealed
        cases unsealed
      · simpa [noThreads] using all
  | again behind => exact inv

/-! ### One thread for each channel -/

/-- No two threads are subscribed to one channel. -/
def Solo (state : Registrations F) : Prop :=
  (state.providing.threads.map (·.channel)).Nodup

theorem threadsOf_eq_nil_iff (providing : Providing F) (channel : String) :
    providing.threadsOf channel = [] ↔ channel ∉ providing.threads.map (·.channel) := by
  simp [Providing.threadsOf, List.filter_eq_nil_iff]

/-- A call keeps the threads on channels of their own exactly when it does not go to
the channel of a thread behind the seal. -/
theorem solo_step {state next : Registrations F} {call : RegistrationCall F}
    (inv : Consistent state) (now : Solo state)
    (performed : state.step call = some next) :
    Solo next ↔ OwnChannel state call := by
  cases step_moves performed with
  | @spawn channel service behind =>
      simp only [Solo, OwnChannel, List.map_append, List.map_cons, List.map_nil]
      rw [← List.concat_eq_append, List.nodup_concat, threadsOf_eq_nil_iff]
      exact ⟨fun both _ => both.1, fun fresh => ⟨fresh behind, now⟩⟩
  | join before joined =>
      refine iff_of_true now ?_
      intro sealed
      rw [before] at sealed
      cases sealed
  | refuse before refused =>
      refine iff_of_true now ?_
      intro sealed
      rw [before] at sealed
      cases sealed
  | start before =>
      refine iff_of_true ?_ trivial
      rw [Solo, inv.unsealed before]
      exact inv.registry.names
  | again behind => exact iff_of_true now trivial

/-- Two threads of one channel stay. -/
theorem not_solo_step {state next : Registrations F} {call : RegistrationCall F}
    (inv : Consistent state) (shared : ¬ Solo state)
    (performed : state.step call = some next) : ¬ Solo next := by
  intro solo
  apply shared
  cases step_moves performed with
  | spawn behind =>
      rw [Solo, List.map_append] at solo
      exact (List.nodup_append.mp solo).1
  | join before joined => exact solo
  | refuse before refused => exact solo
  | start before =>
      rw [Solo, inv.unsealed before]
      exact List.nodup_nil
  | again behind => exact solo

/-- A service accepted and started is a service of a thread of its channel. -/
theorem Consistent.thread_of_accepted {state : Registrations F} (inv : Consistent state)
    (sealed : state.providing.channelsSealed = true) {channel : String}
    {service : RegisteredChannelService F} (member : (channel, service) ∈ state.accepted) :
    ∃ provided ∈ state.providing.threads, provided.channel = channel ∧
      service ∈ provided.services := by
  have among := inv.accepted.mem_iff.mp member
  rw [inv.sealed sealed, entries_nil, List.append_nil, entries, List.mem_flatMap] at among
  obtain ⟨provided, isThread, here⟩ := among
  obtain ⟨found, isService, same⟩ := List.mem_map.mp here
  cases same
  exact ⟨provided, isThread, rfl, isService⟩

/-- With one thread for each channel every service has one owner. -/
theorem Consistent.oneOwner {state : Registrations F} (inv : Consistent state)
    (solo : Solo state) : OneOwner state := by
  have threads : Distinct state.providing.threads := ⟨solo, inv.inhabited, inv.ids⟩
  refine ⟨?_, threads.idOf_nodup, ?_⟩
  · intro channel
    have same := (inv.accepted.filter (·.1 = channel)).map idOf
    apply same.nodup_iff.mpr
    cases flag : state.providing.channelsSealed with
    | false =>
        rw [inv.unsealed flag]
        exact inv.registry.idOf_nodup channel
    | true =>
        rw [inv.sealed flag, entries_nil, List.append_nil]
        exact threads.idOf_nodup channel
  · intro sealed channel service member header payload _ addressed
    obtain ⟨provided, isThread, rfl, isService⟩ := inv.thread_of_accepted sealed member
    have alone : state.providing.threadsOf provided.channel = [provided] :=
      filter_key_of_nodup solo isThread
    have found := ProvidedChannel.table_of_mem (inv.ids provided isThread) isService
    rw [answers, alone, List.map_singleton, answerOf, addressed, found]

/-- With two threads on one channel a request gets two answers. -/
theorem OneOwner.solo {state : Registrations F} (owner : OneOwner state)
    (inv : Consistent state) : Solo state := by
  cases flag : state.providing.channelsSealed with
  | false =>
      rw [Solo, inv.unsealed flag]
      exact List.nodup_nil
  | true =>
      apply List.nodup_iff_count_le_one.mpr
      intro channel
      rcases Nat.eq_zero_or_pos
        ((state.providing.threads.map (·.channel)).count channel) with none_ | some_
      · omega
      · obtain ⟨provided, isThread, rfl⟩ :=
          List.mem_map.mp (List.count_pos_iff.mp some_)
        obtain ⟨service, isService⟩ :=
          List.exists_mem_of_ne_nil _ (inv.inhabited provided isThread)
        have accepted : (provided.channel, service) ∈ state.accepted := by
          apply inv.accepted.mem_iff.mpr
          apply List.mem_append_left
          exact List.mem_flatMap.mpr
            ⟨provided, isThread, List.mem_map.mpr ⟨service, isService, rfl⟩⟩
        -- a request for this service gets as many answers as the channel has threads
        have single := owner.served flag _ _ accepted
          (RpcHeader.request (Vector.replicate 16 0) 0 service.dispatcher.service.id 0 0)
          [] rfl rfl
        have lengths := congrArg List.length single
        rw [answers, List.length_map] at lengths
        rw [List.count_eq_countP, List.countP_map, List.countP_eq_length_filter]
        exact Nat.le_of_eq lengths

end Registrations

/-- Over every sequence of registrations and starts: each channel has one owner for a
service id, and a request for an accepted service gets the one answer of its
dispatcher, exactly when no registration made after the seal goes to a channel that
has a thread. -/
theorem one_owner_iff {calls : List (RegistrationCall F)} {final : Registrations F}
    (performed : run Registrations.step .new calls = some final) :
    final.OneOwner ↔
      StepsMeet Registrations.step Registrations.OwnChannel .new calls := by
  have inv : final.Consistent := run_invariant Registrations.Consistent
    Registrations.consistent_new
    (fun _ _ _ inv moved => Registrations.consistent_step inv moved) performed
  have solo := final_iff_stepsMeet Registrations.Consistent Registrations.Solo
    Registrations.OwnChannel
    (fun _ _ _ inv moved => Registrations.consistent_step inv moved)
    (fun _ _ _ inv now moved => Registrations.solo_step inv now moved)
    (fun _ _ _ inv shared moved => Registrations.not_solo_step inv shared moved)
    Registrations.consistent_new List.nodup_nil performed
  rw [← solo]
  exact ⟨fun owner => owner.solo inv, inv.oneOwner⟩

/-- A dispatcher with one answering method. -/
def servingDispatcher (id : UInt32) : ServiceDispatcher Unit :=
  (bareDispatcher id).method 1 fun _ _ => ()

/-- Two services on one channel, then the start, then a service on another channel. -/
def ownChannels : List (RegistrationCall Unit) :=
  [.register "orders" ⟨0, "Orders", servingDispatcher 7⟩,
    .register "orders" ⟨1, "Billing", servingDispatcher 8⟩, .start,
    .register "stock" ⟨2, "Stock", servingDispatcher 9⟩]

/-- One service before the start, and one on the same channel after it. -/
def sharedChannel : List (RegistrationCall Unit) :=
  [.register "orders" ⟨0, "Orders", servingDispatcher 7⟩, .start,
    .register "orders" ⟨1, "Billing", servingDispatcher 8⟩]

/-- The state a sequence of calls ends in. -/
def Registrations.after (calls : List (RegistrationCall Unit)) : Registrations Unit :=
  (run Registrations.step .new calls).getD .new

/-- A request for method `1` of a service of version `1`. -/
def requestFor (serviceId : UInt32) : RpcHeader :=
  RpcHeader.request (Vector.replicate 16 0) 1 serviceId 1 0

theorem one_owner_own_channels :
    run Registrations.step .new ownChannels =
        some (Registrations.after ownChannels) ∧
      (Registrations.after ownChannels).OneOwner := by
  have performed : run Registrations.step .new ownChannels =
      some (Registrations.after ownChannels) := rfl
  refine ⟨performed, (one_owner_iff performed).mpr ?_⟩
  refine ⟨nofun, ?_⟩
  rintro _ ⟨⟩
  refine ⟨nofun, ?_⟩
  rintro _ ⟨⟩
  refine ⟨trivial, ?_⟩
  rintro _ ⟨⟩
  exact ⟨fun _ => rfl, fun _ _ => trivial⟩

/-- A request for the service registered before the start is served by its dispatcher,
and answered `UnknownService` by the thread of the later registration. -/
theorem two_answers_shared_channel :
    run Registrations.step .new sharedChannel =
        some (Registrations.after sharedChannel) ∧
      (Registrations.after sharedChannel).answers "orders" (requestFor 7) [] =
        [.served ⟨(), true⟩, .unknownService 7] ∧
      ¬ (Registrations.after sharedChannel).OneOwner := by
  refine ⟨rfl, rfl, ?_⟩
  intro owner
  have single := owner.served rfl "orders" ⟨0, "Orders", servingDispatcher 7⟩
    (List.Mem.head _) (requestFor 7) [] rfl rfl
  cases single

end IceRpc
