/-
Module: IceRpc.Proofs.ChannelRequests
Purpose: The request side of a whole channel.  Whatever the threads of all processes
  do, the provider takes up a request at most once, as its caller built it, and never
  behind a Cancel of the same call.
Trusted boundary: none
Main exports: Channel.Callers, Channel.Requests, Channel.Asked, Channel.asked_step,
  Channel.asked_run, requests_taken_once
-/
import Mathlib.Data.List.Pairwise
import IceRpc.Proofs.ChannelSteps

namespace IceRpc

variable {T E : Type}

namespace Channel

/-! ### The calls of all consumers -/

/-- Every call uses the codec of the channel under an id of its own. -/
structure Callers (rkyv : Rkyv T E) (consumers : Nat → ConsumerPorts T E)
    (issued : List CorrelationId) : Prop where
  keyed : ∀ id, (consumers id).Keyed
  codec : ∀ id cid call, (consumers id).calls cid = some call → call.rkyv = rkyv
  listed : ∀ id cid call, (consumers id).calls cid = some call → cid ∈ issued
  single : ∀ id other cid call found, (consumers id).calls cid = some call →
    (consumers other).calls cid = some found → id = other

/-- The request samples that reached the provider, `seen`, are those of the calls:
each unaltered, once its publication is over, and the first sample of its id. -/
structure Requests (consumers : Nat → ConsumerPorts T E) (issued : List CorrelationId)
    (seen : List Frame) : Prop where
  asked : ∀ frame ∈ seen, frame.header.correlationId ∈ issued
  published : ∀ frame ∈ seen, ∀ id call,
    (consumers id).calls frame.header.correlationId = some call →
      call.isPublishing = false
  unaltered : ∀ frame ∈ seen, ∀ id call,
    (consumers id).calls frame.header.correlationId = some call →
      frame.header.eventKind = .request → frame = .sent call.header call.payload
  ordered : seen.Pairwise fun earlier later =>
    earlier.header.correlationId = later.header.correlationId →
      later.header.eventKind ≠ .request

/-- Every call of the later state was there before, with the same request, or is a new
one of this caller under an id of `more` that nobody used. -/
def Follows (rkyv : Rkyv T E) (issued more : List CorrelationId) (caller : Nat)
    (consumers later : Nat → ConsumerPorts T E) : Prop :=
  ∀ id cid call, (later id).calls cid = some call →
    (∃ old, (consumers id).calls cid = some old ∧ old.SameRequest call) ∨
      (id = caller ∧ cid ∈ more ∧ cid ∉ issued ∧ call.rkyv = rkyv ∧
        call.header.correlationId = cid)

section Callers

variable {rkyv : Rkyv T E} {consumers later : Nat → ConsumerPorts T E}
  {issued more : List CorrelationId} {seen : List Frame} {id : Nat}
  {ports : ConsumerPorts T E}

theorem Follows.refl (consumers : Nat → ConsumerPorts T E) :
    Follows rkyv issued more id consumers consumers :=
  fun _ _ call current => Or.inl ⟨call, current, .refl call⟩

/-- A step of one consumer, which makes a call only under a fresh id. -/
theorem follows_update {act : ClientAction T E} (keyed : ∀ id, (consumers id).Keyed)
    (stepped : (consumers id).step act = some ports)
    (fresh : ∀ cid codec methodId service trace payload now,
      act = .call cid codec methodId service trace payload now →
        codec = rkyv ∧ cid ∈ more ∧ cid ∉ issued) :
    Follows rkyv issued more id consumers (Function.update consumers id ports) := by
  intro other cid call current
  rcases eq_or_ne other id with rfl | different
  · rw [Function.update_self] at current
    rcases ConsumerPorts.step_request (keyed other) stepped current with
      kept | ⟨-, _, _, _, _, _, _, isCall, isNew⟩
    · exact Or.inl kept
    · obtain ⟨isCodec, new, unused⟩ := fresh _ _ _ _ _ _ _ isCall
      subst isNew
      exact Or.inr ⟨rfl, new, unused, isCodec, rfl⟩
  · rw [Function.update_of_ne different] at current
    exact Or.inl ⟨call, current, .refl call⟩

theorem Callers.follow (inv : Callers rkyv consumers issued)
    (follows : Follows rkyv issued more id consumers later) :
    Callers rkyv later (issued ++ more) := by
  constructor
  · intro id cid call current
    rcases follows id cid call current with ⟨old, was, same⟩ | ⟨-, -, -, -, isCid⟩
    · rw [same.header]
      exact inv.keyed id cid old was
    · exact isCid
  · intro id cid call current
    rcases follows id cid call current with ⟨old, was, same⟩ | ⟨-, -, -, isCodec, -⟩
    · rw [same.codec]
      exact inv.codec id cid old was
    · exact isCodec
  · intro id cid call current
    rcases follows id cid call current with ⟨old, was, -⟩ | ⟨-, new, -⟩
    · exact List.mem_append_left more (inv.listed id cid old was)
    · exact List.mem_append_right issued new
  · intro one two cid call found current isFound
    rcases follows one cid call current with ⟨old, was, -⟩ | ⟨isOne, -, fresh, -⟩ <;>
      rcases follows two cid found isFound with ⟨other, too, -⟩ | ⟨isTwo, -, unused, -⟩
    · exact inv.single one two cid old other was too
    · exact absurd (inv.listed one cid old was) unused
    · exact absurd (inv.listed two cid other too) fresh
    · exact isOne.trans isTwo.symm

/-- The samples seen so far are not those of a call that is only being made. -/
theorem Requests.follow (inv : Requests consumers issued seen)
    (follows : Follows rkyv issued more id consumers later) {now : List Frame}
    (fewer : now.Sublist seen) : Requests later (issued ++ more) now := by
  have kept : ∀ frame ∈ now, ∀ id call,
      (later id).calls frame.header.correlationId = some call →
      ∃ old, (consumers id).calls frame.header.correlationId = some old ∧
        old.SameRequest call := by
    intro frame member id call current
    rcases follows id _ call current with kept | ⟨-, -, fresh, -⟩
    · exact kept
    · exact absurd (inv.asked frame (fewer.subset member)) fresh
  constructor
  · intro frame member
    exact List.mem_append_left more (inv.asked frame (fewer.subset member))
  · intro frame member id call current
    obtain ⟨old, was, same⟩ := kept frame member id call current
    exact same.notAgain (inv.published frame (fewer.subset member) id old was)
  · intro frame member id call current isRequest
    obtain ⟨old, was, same⟩ := kept frame member id call current
    rw [same.header, same.payload]
    exact inv.unaltered frame (fewer.subset member) id old was isRequest
  · exact inv.ordered.sublist fewer

/-- One more sample reaches the provider. -/
theorem Requests.push (inv : Requests consumers issued seen) {frame : Frame}
    (listed : frame.header.correlationId ∈ issued)
    (settled : ∀ id call, (consumers id).calls frame.header.correlationId = some call →
      call.isPublishing = false ∧
        (frame.header.eventKind = .request → frame = .sent call.header call.payload))
    (first : frame.header.eventKind = .request →
      ∀ earlier ∈ seen, earlier.header.correlationId ≠ frame.header.correlationId) :
    Requests consumers issued (seen ++ [frame]) := by
  constructor
  · exact List.forall_mem_append.mpr ⟨inv.asked, List.forall_mem_singleton.mpr listed⟩
  · refine List.forall_mem_append.mpr ⟨inv.published, List.forall_mem_singleton.mpr ?_⟩
    exact fun id call current => (settled id call current).1
  · refine List.forall_mem_append.mpr ⟨inv.unaltered, List.forall_mem_singleton.mpr ?_⟩
    exact fun id call current => (settled id call current).2
  · rw [List.pairwise_append]
    refine ⟨inv.ordered, List.pairwise_singleton _ _, ?_⟩
    intro earlier before last isLast sameId isRequest
    rw [List.mem_singleton.mp isLast] at sameId isRequest
    exact first isRequest earlier before sameId

end Callers

/-! ### Every step -/

/-- The request samples the provider took up, then those that wait for it. -/
def seen (channel : Channel T E) : List Frame :=
  channel.handled ++ channel.requests.waiting .provider

/-- The request side of a channel is in order. -/
structure Asked (rkyv : Rkyv T E) (channel : Channel T E) : Prop where
  callers : Callers rkyv channel.consumers channel.issued
  requests : Requests channel.consumers channel.issued channel.seen

section Steps

variable {rkyv : Rkyv T E} {table : Services T E} {channel next : Channel T E}
  {more : List CorrelationId} {id : Nat}

/-- A step of a consumer that makes no call. -/
theorem Asked.quiet (inv : Asked rkyv channel) {act : ClientAction T E}
    {ports : ConsumerPorts T E} (stepped : (channel.consumers id).step act = some ports)
    (noCall : ∀ cid codec methodId service trace payload now,
      act ≠ .call cid codec methodId service trace payload now) :
    Follows rkyv channel.issued [] id channel.consumers
      (Function.update channel.consumers id ports) :=
  follows_update inv.callers.keyed stepped fun _ _ _ _ _ _ _ isCall =>
    absurd isCall (noCall _ _ _ _ _ _ _)

/-- A step that shows the provider nothing new. -/
theorem Asked.follow (inv : Asked rkyv channel)
    (follows : Follows rkyv channel.issued more id channel.consumers next.consumers)
    (issued : next.issued = channel.issued ++ more)
    (fewer : next.seen.Sublist channel.seen) : Asked rkyv next :=
  ⟨issued ▸ inv.callers.follow follows, issued ▸ inv.requests.follow follows fewer⟩

/-- A step that may show the provider one sample. -/
theorem Asked.push (inv : Asked rkyv channel)
    (follows : Follows rkyv channel.issued more id channel.consumers next.consumers)
    (issued : next.issued = channel.issued ++ more) (handled : next.handled = channel.handled)
    {frame : Frame} {shown : Prop}
    (waiting : next.requests.waiting .provider = channel.requests.waiting .provider ∨
      (shown ∧ next.requests.waiting .provider =
        channel.requests.waiting .provider ++ [frame]))
    (listed : frame.header.correlationId ∈ next.issued)
    (settled : shown → ∀ id call,
      (next.consumers id).calls frame.header.correlationId = some call →
        call.isPublishing = false ∧
          (frame.header.eventKind = .request → frame = .sent call.header call.payload))
    (first : frame.header.eventKind = .request → ∀ earlier ∈ channel.seen,
      earlier.header.correlationId ≠ frame.header.correlationId) : Asked rkyv next := by
  rcases waiting with same | ⟨isShown, pushed⟩
  · refine inv.follow follows issued ?_
    rw [seen, handled, same]
    exact List.Sublist.refl _
  · refine ⟨issued ▸ inv.callers.follow follows, ?_⟩
    rw [seen, handled, pushed, ← List.append_assoc]
    exact (issued ▸ inv.requests.follow follows (List.Sublist.refl _)).push listed
      (settled isShown) first

/-- The call that a consumer makes under an id is the only one there is. -/
theorem Callers.only {consumers : Nat → ConsumerPorts T E} {issued : List CorrelationId}
    (callers : Callers rkyv consumers issued) {cid : CorrelationId} {call : Call T E}
    (current : (consumers id).calls cid = some call) {other : Nat} {found : Call T E}
    (isFound : (consumers other).calls cid = some found) : found = call := by
  obtain rfl := callers.single id other cid call found current isFound
  exact Option.some.inj (isFound.symm.trans current)

variable {cid : CorrelationId} {met : Conditions} {call : Call T E} {attempts : Nat}
  {ports : ConsumerPorts T E}

/-- The publication of a request shows it to the provider once at most: it returns
with the attempt that somebody took. -/
theorem asked_attempt (inv : Asked rkyv channel)
    (current : (channel.consumers id).calls cid = some call)
    (phase : call.phase = .publishing attempts)
    (stepped : (channel.consumers id).step
      (.attempt cid { met with topic := channel.requests }) = some ports) :
    Asked rkyv (channel.requested id ports call.header call.payload met.takes
      (publishAttempt call.header call.payload attempts
        { met with topic := channel.requests }).2) := by
  have isCid := inv.callers.keyed id cid call current
  have follows := inv.quiet stepped (by simp)
  refine inv.push follows (List.append_nil _).symm rfl
    (channel.requests.waiting_afterAttempt .provider _ call.header call.payload _) ?_ ?_ ?_
  · exact isCid ▸ inv.callers.listed id cid call current
  · intro taken other found isFound
    have returned := (publishAttempt_takers _ _ _ _).mp taken
    have after : (Function.update channel.consumers id ports id).calls cid =
        some { call with phase := .live } := by
      simp only [ConsumerPorts.step, ConsumerPorts.attempt, current, phase, returned] at stepped
      cases stepped
      simp [ConsumerPorts.setCall, Phase.ofProgress]
    cases (inv.callers.follow follows).only after (isCid ▸ isFound)
    exact ⟨rfl, fun _ => rfl⟩
  · intro _ earlier before sameId
    have notYet := inv.requests.published earlier before id call
      (by rw [sameId]; exact isCid ▸ current)
    simp [Call.isPublishing, phase] at notYet

theorem asked_notify {methodId : UInt32} {service : ServiceRef} {trace : TraceContext}
    {payload : Bytes} {now : UInt64} (inv : Asked rkyv channel) (takes : Subscriber → Bool)
    (takers : List Port) (fresh : cid ∉ channel.issued) :
    Asked rkyv { channel.requested id
        { channel.consumers id with seq := (channel.consumers id).seq + 1 }
        ((channel.consumers id).requestHeader cid methodId service trace now) payload
        takes takers with
      issued := channel.issued ++ [cid] } := by
  have sameCalls : ∀ other, ((Function.update channel.consumers id
      { channel.consumers id with seq := (channel.consumers id).seq + 1 }) other).calls =
        (channel.consumers other).calls := by
    intro other
    rcases eq_or_ne other id with rfl | different
    · rw [Function.update_self]
    · rw [Function.update_of_ne different]
  have follows : Follows rkyv channel.issued [cid] id channel.consumers _ :=
    fun other key call current => Or.inl ⟨call, sameCalls other ▸ current, .refl call⟩
  refine inv.push follows rfl rfl
    (channel.requests.waiting_afterAttempt .provider takes _ payload takers) ?_ ?_ ?_
  · exact List.mem_append_right _ (List.mem_singleton.mpr rfl)
  · -- Nobody calls under an id that was only now issued.
    intro _ other call current
    exact absurd (inv.callers.listed other cid call (sameCalls other ▸ current)) fresh
  · intro _ earlier before sameId
    have listed := inv.requests.asked earlier before
    rw [sameId] at listed
    exact fresh listed

theorem asked_cancel {now : UInt64} (inv : Asked rkyv channel)
    (current : (channel.consumers id).calls cid = some call)
    (stepped : (channel.consumers id).step (.publishCancel cid now) = some ports) :
    Asked rkyv { channel.setConsumer id ports with
      requests := (tryPublish ((channel.consumers id).cancelHeader call now) []
        { met with topic := channel.requests }).2.topic } := by
  have isCid : ((channel.consumers id).cancelHeader call now).correlationId = cid :=
    inv.callers.keyed id cid call current
  have follows := inv.quiet stepped (by simp)
  refine inv.push follows (List.append_nil _).symm rfl ((Topic.waiting_tryPublish .provider _ []
    { met with topic := channel.requests }).imp_right fun pushed => ⟨trivial, pushed⟩) ?_ ?_ ?_
  · exact isCid ▸ inv.callers.listed id cid call current
  · intro _ other found isFound
    have after : (Function.update channel.consumers id ports id).calls cid =
        some { call with phase := .closing } := by
      simp only [ConsumerPorts.step, ConsumerPorts.publishCancel, current] at stepped
      split at stepped
      · cases stepped
        simp [ConsumerPorts.setCall]
      · cases stepped
    cases (inv.callers.follow follows).only after (isCid ▸ isFound)
    exact ⟨rfl, fun isRequest => EventKind.noConfusion isRequest⟩
  · intro isRequest
    cases isRequest

/-- Every step keeps the request side in order. -/
theorem asked_step {action : ChannelAction T E} (inv : Asked rkyv channel)
    (performed : channel.step rkyv table action = some next) : Asked rkyv next := by
  have still : Follows rkyv channel.issued [] 0 channel.consumers channel.consumers := .refl _
  have noMore := (List.append_nil channel.issued).symm
  cases step_steps performed with
  | joinRequests joined =>
      refine inv.follow still noMore ?_
      rw [seen, Topic.waiting_join joined]
      exact List.Sublist.refl _
  | leaveRequests port =>
      refine inv.follow still noMore ?_
      rw [seen, Topic.waiting_leave]
      split
      · rw [List.append_nil]
        exact List.sublist_append_left ..
      · exact List.Sublist.refl _
  | call fresh stepped =>
      refine inv.follow (follows_update inv.callers.keyed stepped ?_) rfl
        (List.Sublist.refl _)
      rintro _ _ _ _ _ _ _ isCall
      cases isCall
      exact ⟨rfl, List.mem_singleton.mpr rfl, fresh⟩
  | attempt current phase stepped => exact asked_attempt inv current phase stepped
  | notify takers fresh => exact asked_notify inv _ takers fresh
  | cancel current stepped => exact asked_cancel inv current stepped
  | advance isLocal stepped =>
      refine inv.follow (inv.quiet stepped ?_) noMore (List.Sublist.refl _)
      rintro _ _ _ _ _ _ _ rfl
      cases isLocal
  | receive found stepped =>
      exact inv.follow (inv.quiet stepped (by simp)) noMore (List.Sublist.refl _)
  | dispatch idle free found routed =>
      refine inv.follow still noMore ?_
      rw [seen, seen, dispatched, Topic.waiting_received found, if_pos rfl, found]
      simp
  | joinResponses | leaveResponses | attend | emit | rest | retry | deliver | fail =>
      exact inv.follow still noMore (List.Sublist.refl _)

theorem asked_new : Asked rkyv (new : Channel T E) where
  callers :=
    { keyed := fun _ => ConsumerPorts.keyed_new
      codec := fun _ _ _ current => by cases current
      listed := fun _ _ _ current => by cases current
      single := fun _ _ _ _ _ current => by cases current }
  requests :=
    { asked := fun _ member => by cases member
      published := fun _ member => by cases member
      unaltered := fun _ member => by cases member
      ordered := List.Pairwise.nil }

theorem asked_run {actions : List (ChannelAction T E)} {final : Channel T E}
    (performed : Lib.run (step rkyv table) new actions = some final) : Asked rkyv final :=
  Lib.run_invariant (Asked rkyv) asked_new (fun _ _ _ => asked_step) performed

end Steps

end Channel

/-! ### What reaches the provider -/

/-- In every run of a channel, whatever its processes do and in whatever order, the
provider takes up the request of a call at most once and never behind another sample
of the same call, such as its Cancel; and what it takes up is the request the caller
built, byte for byte. -/
theorem requests_taken_once (rkyv : Rkyv T E) (table : Services T E)
    (actions : List (ChannelAction T E)) (final : Channel T E)
    (performed : Lib.run (Channel.step rkyv table) .new actions = some final) :
    (final.handled.Pairwise fun earlier later =>
      earlier.header.correlationId = later.header.correlationId →
        later.header.eventKind ≠ .request) ∧
    ∀ frame ∈ final.handled, frame.header.eventKind = .request → ∀ id call,
      (final.consumers id).calls frame.header.correlationId = some call →
      frame = .sent call.header call.payload := by
  have inv := Channel.asked_run performed
  constructor
  · exact inv.requests.ordered.sublist (List.sublist_append_left ..)
  · intro frame member isRequest id call current
    exact inv.requests.unaltered frame (List.mem_append_left _ member) id call current
      isRequest

/-- A service with a method that answers with the bytes it is given, and a one-way one. -/
def byteTable : Services UInt8 UInt8 := fun id =>
  if id = 2 then
    let echo : RpcHeader → Bytes → Handling UInt8 UInt8 := fun _ payload =>
      { events := payload.map Event.next ++ [.complete], schedule := Stream'.const true }
    some (((ServiceDispatcher.new { id := 2, version := 3 }).method 1 echo).onewayMethod 4 echo)
  else
    none

/-- Two consumers call that service, the first of them twice; it gives its second call
up, and the other one sends a one-way request.  The provider answers the first calls,
and both consumers take up all there is to take up. -/
def threeCalls : List (ChannelAction UInt8 UInt8) :=
  let service : ServiceRef := { id := 2, version := 3 }
  let trace : TraceContext := { traceId := Vector.replicate 16 0, parentSpanId := 0, flags := 0 }
  [.joinRequests .provider 8, .joinResponses (.consumer 0) 8, .joinResponses (.consumer 1) 8,
    .call 0 (idOf 1) 1 service trace [7] 0, .call 1 (idOf 2) 1 service trace [9] 0,
    .call 0 (idOf 3) 1 service trace [5] 0, .attempt 0 (idOf 1) providerListening,
    .attempt 1 (idOf 2) providerListening, .attempt 0 (idOf 3) providerListening,
    .notify 1 (idOf 4) 4 service trace [6] 0 providerListening,
    .advance 0 (.drop (idOf 3)), .advance 0 (.cleanup (idOf 3)),
    .cancel 0 (idOf 3) 0 providerListening,
    -- the provider: two answers, a task that waits, the one-way request and the Cancel
    .dispatch 0, .attend (.beginPoll 0), .turn 0 0, .publish (some 0) providerListening,
    .turn 0 0, .attend (.drop 0), .dispatch 0, .attend (.beginPoll 1), .turn 1 0,
    .publish (some 1) providerListening, .turn 1 0, .attend (.drop 1), .dispatch 0,
    .attend .detach, .dispatch 0, .dispatch 0,
    -- each consumer takes up both samples and keeps its own
    .receive 0, .advance 0 .trySend, .advance 0 .trySend, .advance 0 .release, .receive 0,
    .receive 1, .receive 1, .advance 1 .trySend, .advance 1 .trySend, .advance 1 .release]

/-- The five request samples of that run, the last of them the Cancel of the third. -/
theorem requests_taken_once_byte :
    ∃ final third, Lib.run (Channel.step plainCodec byteTable) .new threeCalls = some final ∧
      (final.handled.map fun frame => (frame.header.correlationId, frame.header.eventKind)) =
        [(idOf 1, .request), (idOf 2, .request), (idOf 3, .request), (idOf 4, .request),
          (idOf 3, .cancel)] ∧
      (final.handled.Pairwise fun earlier later =>
        earlier.header.correlationId = later.header.correlationId →
          later.header.eventKind ≠ .request) ∧
      (final.consumers 0).calls (idOf 3) = some third ∧
      final.handled[2]? = some (.sent third.header third.payload) := by
  obtain ⟨once, unaltered⟩ := requests_taken_once plainCodec byteTable threeCalls _ rfl
  refine ⟨_, _, rfl, rfl, once, rfl, ?_⟩
  exact congrArg some (unaltered _ (.tail _ (.tail _ (.head _))) rfl 0 _ rfl)

end IceRpc
