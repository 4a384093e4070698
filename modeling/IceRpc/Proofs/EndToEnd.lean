/-
Module: IceRpc.Proofs.EndToEnd
Purpose: A call over a channel against the same call made in place.  Whatever the
  consumers, the provider and the topics between them do, the stream of a call receives
  nothing that its own service method did not emit, in the order it was emitted and at
  most once; all of it, up to the end of the stream, when no sample for it was lost.
Trusted boundary: none
Main exports: Channel.Sound, Channel.Heeds, call_receives_sublist, call_receives_answer
-/
import Mathlib.Data.List.Flatten
import IceRpc.Proofs.ChannelCourse
import IceRpc.Proofs.ConsumerStream

namespace IceRpc

open Lib (Unended)

variable {T E : Type}
variable {cid : CorrelationId} {id : Nat} {samples : List Sample} {call : Call T E}

/-! ### What framed samples are to a stream -/

theorem Framed.events {rkyv : Rkyv T E} (roundTrips : rkyv.RoundTrips) {sent : List (Event T E)}
    (framed : Framed rkyv samples sent) :
    samples.flatMap (fun sample => (handleSample rkyv sample).events) =
      sent.map Event.onWire := by
  induction framed with
  | nil => rfl
  | @snoc samples sent wire consumed kind bytes before stands framed ih =>
      obtain ⟨expansion, -⟩ := handleSample_frame roundTrips framed
      rw [List.flatMap_append, ih, List.flatMap_singleton, expansion, stands.normalized_eq,
        List.map_append]

theorem WireFolding.StandsFor.isTerminal_iff {wire : WireEvent T E}
    {consumed : List (Event T E)} (stands : WireFolding.StandsFor wire consumed) :
    wire.isTerminal = false ↔ Unended Event.isTerminal consumed := by
  cases stands with
  | single event =>
      rcases event with _ | _ | (_ | _ | _) <;>
        simp [WireEvent.ofEvent, WireEvent.isTerminal]
  | folded value => simp [WireEvent.isTerminal]

/-- A consumer reads the end of a call off its samples where its events end. -/
theorem Framed.unended_iff {rkyv : Rkyv T E} (roundTrips : rkyv.RoundTrips)
    {sent : List (Event T E)} (framed : Framed rkyv samples sent) :
    Unended (endsCall rkyv) samples ↔ Unended Event.isTerminal sent := by
  induction framed with
  | nil => simp
  | @snoc samples sent wire consumed kind bytes before stands framed ih =>
      obtain ⟨-, ends⟩ := handleSample_frame roundTrips framed
      rw [Lib.unended_append, Lib.unended_append, ih, Lib.unended_singleton, ends,
        stands.isTerminal_iff]

/-- The stream of a call whose samples are framed receives the events behind them, up
to the first terminal one. -/
theorem Framed.streamReceives_eq {rkyv : Rkyv T E} (roundTrips : rkyv.RoundTrips)
    {sent : List (Event T E)} (framed : Framed rkyv samples sent) :
    streamReceives rkyv samples =
      Lib.upToFirst Event.isTerminal (sent.map Event.onWire) := by
  have sameEnd : ∀ events : List (Event T E),
      Unended Event.isTerminal (events.map Event.onWire) ↔
        Unended Event.isTerminal events := by
    intro events
    simp [Unended, Event.onWire_isTerminal]
  induction framed with
  | nil => rfl
  | @snoc samples sent wire consumed kind bytes before stands framed ih =>
      rw [List.map_append]
      by_cases going : Unended Event.isTerminal sent
      · obtain ⟨expansion, -⟩ := handleSample_frame roundTrips framed
        have whole : Lib.upToFirst Event.isTerminal (consumed.map Event.onWire) =
            consumed.map Event.onWire := by
          cases stands with
          | single event => simp [Lib.upToFirst]
          | folded value => simp [Lib.upToFirst, Event.onWire_isTerminal]
        rw [streamReceives_snoc_of_unended _ ((before.unended_iff roundTrips).mpr going),
          ih, expansion, stands.normalized_eq,
          Lib.upToFirst_append_of_unended _ ((sameEnd sent).mpr going), whole,
          Lib.upToFirst_of_unended ((sameEnd sent).mpr going)]
      · rw [streamReceives_snoc_of_ended _
            (fun unended => going ((before.unended_iff roundTrips).mp unended)),
          ih, Lib.upToFirst_append_of_ended _ (fun unended => going ((sameEnd sent).mp unended))]

/-! ### The provider's side of every run -/

namespace Channel

variable {rkyv : Rkyv T E} {table : Services T E}
  {channel next final : Channel T E} {action : ChannelAction T E}

/-- Both sides of a channel are in order. -/
structure Sound (rkyv : Rkyv T E) (table : Services T E) (channel : Channel T E) : Prop where
  asked : Asked rkyv channel
  fresh : channel.desk.Fresh
  course : ∀ cid, channel.desk.Course rkyv table cid

theorem sound_new : Sound rkyv table (new : Channel T E) where
  asked := asked_new
  fresh _ _ := ⟨rfl, rfl⟩
  course _ := .idle ⟨rfl, fun _ _ => (Option.some_ne_none _).symm, fun _ => rfl⟩

theorem sound_step (codec : rkyv.Solid) (sound : Sound rkyv table channel)
    (performed : channel.step rkyv table action = some next) : Sound rkyv table next := by
  have asked := asked_step sound.asked performed
  rcases step_desk sound.asked performed with same | move
  · exact ⟨asked, same ▸ sound.fresh, same ▸ sound.course⟩
  · exact ⟨asked, Desk.fresh_moves move sound.fresh,
      Desk.course_moves codec move sound.fresh sound.course⟩

/-- An id that was not issued was never answered. -/
theorem Sound.unheard (sound : Sound rkyv table channel) (fresh : cid ∉ channel.issued) :
    own cid channel.log = [] := by
  have unseen : ∀ {request owner samples},
      channel.desk.Answers cid request owner samples → False := by
    intro request owner samples answers
    have listed := sound.asked.requests.asked request
      (List.mem_append_left _ answers.taken.handled)
    rw [answers.taken.isCid] at listed
    exact fresh listed
  cases sound.course cid with
  | idle idle => exact List.map_eq_nil_iff.mp idle.silent
  | rejected rejected => exact (unseen rejected.answers).elim
  | served served => exact (unseen served.answers).elim

/-! ### The samples a consumer takes up -/

/-- The response samples a consumer took up, then those that wait for it. -/
def offered (channel : Channel T E) (id : Nat) : List Frame :=
  channel.heard id ++ channel.responses.waiting (.consumer id)

/-- What a step does to the log and to what a consumer is offered. -/
inductive Offers (channel next : Channel T E) (id : Nat) : ChannelAction T E → Prop where
  | same {action : ChannelAction T E} (sameLog : next.log = channel.log)
      (sameOffer : next.offered id = channel.offered id) : Offers channel next id action
  /-- The consumer leaves, and loses what waited for it. -/
  | left (sameLog : next.log = channel.log) (kept : next.offered id = channel.heard id) :
      Offers channel next id (.leaveResponses (.consumer id))
  /-- A sample is taken, by this consumer or without it. -/
  | sent {owner : Option TokenId} {met : Conditions} {publication : Publication}
      (current : channel.outbox owner = some publication)
      (taken : (publishAttempt publication.header publication.payload publication.attempts
        { met with topic := channel.responses }).2 ≠ [])
      (logged : next.log =
        channel.log ++ [.sent publication.header publication.payload])
      (offered : next.offered id = channel.offered id ++
        if channel.responses.takesFor met.takes (.consumer id) then
          [.sent publication.header publication.payload] else []) :
      Offers channel next id (.publish owner met)

theorem step_offers (id : Nat) (performed : channel.step rkyv table action = some next) :
    Offers channel next id action := by
  cases step_steps performed with
  | deliver current taken =>
      exact .sent current taken rfl (by
        rw [offered, offered, Topic.waiting_send, List.append_assoc])
  | leaveResponses port =>
      by_cases isPort : port = .consumer id
      · subst isPort
        exact .left rfl (by simp [offered, Topic.waiting_leave])
      · exact .same rfl (by simp [offered, Topic.waiting_leave, Ne.symm isPort])
  | joinResponses joined => exact .same rfl (by simp only [offered, Topic.waiting_join joined])
  | receive found stepped =>
      rename_i other frame rest ports
      refine .same rfl ?_
      simp only [offered, heardBy, Topic.waiting_received found]
      rcases eq_or_ne id other with rfl | different
      · simp [found]
      · simp [different]
  | joinRequests | leaveRequests | call | attempt | notify | cancel | advance | dispatch
  | attend | emit | rest | retry | fail => exact .same rfl rfl

/-- What a consumer is offered was taken off the wire, in order. -/
theorem offered_sublist_step (before : (channel.offered id).Sublist channel.log)
    (performed : channel.step rkyv table action = some next) :
    (next.offered id).Sublist next.log := by
  cases step_offers id performed with
  | same sameLog sameOffer =>
      rw [sameLog, sameOffer]
      exact before
  | left sameLog kept =>
      rw [sameLog, kept]
      exact (List.sublist_append_left ..).trans before
  | sent current taken logged offered =>
      rw [logged, offered]
      split
      · exact before.append (List.Sublist.refl _)
      · exact before.append (List.nil_sublist _)

/-- A step loses no sample of the call: the consumer does not leave, and whenever a
sample of the call is taken by anyone, the consumer takes it too. -/
def Heeds (id : Nat) (cid : CorrelationId) (channel : Channel T E) :
    ChannelAction T E → Prop
  | .publish owner met => ∀ publication, channel.outbox owner = some publication →
      publication.header.correlationId = cid →
      (publishAttempt publication.header publication.payload publication.attempts
        { met with topic := channel.responses }).2 ≠ [] →
      channel.responses.takesFor met.takes (.consumer id) = true
  | .leaveResponses port => port ≠ .consumer id
  | _ => True

theorem offered_own_step (before : own cid (channel.offered id) = own cid channel.log)
    (heeds : Heeds id cid channel action) (performed : channel.step rkyv table action = some next) :
    own cid (next.offered id) = own cid next.log := by
  cases step_offers id performed with
  | same sameLog sameOffer =>
      rw [sameLog, sameOffer]
      exact before
  | left sameLog kept => exact absurd rfl heeds
  | sent current taken logged offered =>
      rename_i owner met publication
      rw [logged, offered, own_append, own_append, before]
      by_cases isCid : publication.header.correlationId = cid
      · rw [heeds publication current isCid taken, if_pos rfl]
      · have notOwn : own cid [.sent publication.header publication.payload] = [] := by
          simp [own, Frame.sent, isCid]
        rw [notOwn]
        split
        · rw [notOwn]
        · rfl

end Channel

/-! ### The streams of the consumers -/

/-- What a mark makes of the samples taken up for a call. -/
def CallMark.recorded (samples : List Sample) (mark : Option CallMark) : List Sample :=
  mark.toList.foldl CallMark.record samples

theorem sinceRegistered_samples (samples : List Sample) :
    sinceRegistered (samples.map CallMark.sample) = samples := by
  induction samples using List.reverseRecOn with
  | nil => rfl
  | append_singleton samples sample ih =>
      rw [List.map_append, List.map_singleton, sinceRegistered_append, ih]
      rfl

theorem streamInv_moved {here there : CallView T E} {act : CallAction T E}
    (inv : StreamInv samples here) (move : here.Moves act there) :
    StreamInv (CallMark.recorded samples act.mark) there := by
  rw [← sinceRegistered_samples samples] at inv
  have moved := streamInv_moves inv move
  rwa [sinceRegistered, List.foldl_append, ← sinceRegistered,
    sinceRegistered_samples] at moved

/-- A step of a consumer, seen by the stream of one call. -/
theorem ConsumerPorts.step_stream {ports next : ConsumerPorts T E} {action : ClientAction T E}
    (keyed : ports.Keyed) (inv : StreamInv samples (ports.view cid))
    (stepped : ports.step action = some next) :
    StreamInv (CallMark.recorded samples (action.mark cid)) (next.view cid) := by
  have agree := marks_agree cid stepped
  cases label : ports.label cid action with
  | none =>
      rw [label] at agree
      rw [← agree, ports.step_rests keyed stepped label]
      exact inv
  | some act =>
      rw [label] at agree
      rw [← agree]
      exact streamInv_moved inv (ports.step_moves keyed stepped label)

namespace Channel

variable {rkyv : Rkyv T E} {table : Services T E}
  {channel next final : Channel T E} {action : ChannelAction T E}

/-- The samples of a call that its consumer took up. -/
def heardOf (channel : Channel T E) (id : Nat) (cid : CorrelationId) : List Sample :=
  (own cid (channel.heard id)).map Frame.sample

/-- Every stream has received what it is to receive for the samples its consumer took
up. -/
def Streams (channel : Channel T E) : Prop :=
  ∀ id cid, StreamInv (channel.heardOf id cid) ((channel.consumers id).view cid)

/-- A step of one consumer that takes up no sample. -/
theorem Streams.consumer (streams : channel.Streams) (sound : Sound rkyv table channel)
    {ports : ConsumerPorts T E} {act : ClientAction T E}
    (stepped : (channel.consumers id).step act = some ports)
    (recorded : ∀ cid, CallMark.recorded (channel.heardOf id cid) (act.mark cid) =
      channel.heardOf id cid) (cid : CorrelationId) (other : Nat) :
    StreamInv (channel.heardOf other cid)
      ((Function.update channel.consumers id ports other).view cid) := by
  rcases eq_or_ne other id with rfl | different
  · have moved := ConsumerPorts.step_stream (sound.asked.callers.keyed other)
      (streams other cid) stepped
    rw [recorded] at moved
    rwa [Function.update_self]
  · rw [Function.update_of_ne different]
    exact streams other cid

theorem streams_receive {frame : Frame} {rest : List Frame} {ports : ConsumerPorts T E}
    (streams : channel.Streams) (sound : Sound rkyv table channel)
    (stepped : (channel.consumers id).step (.sample frame.header frame.payload) = some ports) :
    (channel.heardBy id ports frame rest).Streams := by
  intro other cid
  rcases eq_or_ne other id with rfl | different
  · have moved := ConsumerPorts.step_stream (sound.asked.callers.keyed other)
      (streams other cid) stepped
    have heard : CallMark.recorded (channel.heardOf other cid)
        (ClientAction.mark cid (.sample frame.header frame.payload : ClientAction T E)) =
        (own cid (channel.heard other ++ [frame])).map Frame.sample := by
      by_cases isCid : frame.header.correlationId = cid
      · simp [ClientAction.mark, isCid, CallMark.recorded, CallMark.record, heardOf, own,
          Frame.sample]
      · simp [ClientAction.mark, isCid, CallMark.recorded, heardOf, own]
    rw [heard] at moved
    simpa [heardOf, heardBy, setConsumer] using moved
  · simpa [heardOf, heardBy, setConsumer, different] using streams other cid

/-- Every step keeps every stream in step with the samples taken up for it. -/
theorem streams_step (streams : channel.Streams) (sound : Sound rkyv table channel)
    (offers : ∀ id, (channel.offered id).Sublist channel.log)
    (performed : channel.step rkyv table action = some next) : next.Streams := by
  cases step_steps performed with
  | call fresh stepped =>
      rename_i id cid methodId service trace payload now ports
      -- A new call starts without samples: its id was never answered.
      have none : own cid (channel.heard id) = [] := by
        apply List.sublist_nil.mp
        rw [← sound.unheard fresh]
        exact ((List.sublist_append_left ..).trans (offers id)).filter _
      refine fun other key => streams.consumer sound stepped ?_ key other
      intro key
      by_cases same : cid = key
      · subst same
        simp [ClientAction.mark, CallMark.recorded, CallMark.record, heardOf, none]
      · simp [ClientAction.mark, same, CallMark.recorded]
  | receive found stepped => exact streams_receive streams sound stepped
  | attempt current phase stepped =>
      exact fun other key => streams.consumer sound stepped (fun _ => rfl) key other
  | cancel current stepped =>
      exact fun other key => streams.consumer sound stepped (fun _ => rfl) key other
  | notify takers fresh =>
      rename_i id cid methodId service trace payload now met
      intro other key
      show StreamInv (channel.heardOf other key) _
      rcases eq_or_ne other id with rfl | different
      · simp only [requested, setConsumer, Function.update_self]
        exact streams other key
      · simp only [requested, setConsumer, Function.update_of_ne different]
        exact streams other key
  | advance isLocal stepped =>
      rename_i id act ports
      refine fun other key => streams.consumer sound stepped ?_ key other
      intro cid
      cases act <;> simp [ClientAction.isLocal] at isLocal <;>
        simp [ClientAction.mark, CallMark.recorded]
      split <;> rfl
  | joinRequests | leaveRequests | joinResponses | leaveResponses | dispatch | attend | emit
  | rest | retry | deliver | fail => exact streams

/-- What every reachable state of a channel satisfies. -/
structure Reached (rkyv : Rkyv T E) (table : Services T E) (channel : Channel T E) :
    Prop where
  sound : Sound rkyv table channel
  offers : ∀ id, (channel.offered id).Sublist channel.log
  streams : channel.Streams

theorem reached_run (codec : rkyv.Solid) {actions : List (ChannelAction T E)}
    (performed : Lib.run (step rkyv table) new actions = some final) :
    Reached rkyv table final := by
  have start : Reached rkyv table new :=
    ⟨sound_new, fun _ => List.Sublist.refl _, fun _ _ => streamInv_unused⟩
  apply Lib.run_invariant (Reached rkyv table) start _ performed
  intro channel action next inv stepped
  exact ⟨sound_step codec inv.sound stepped,
    fun id => offered_sublist_step (inv.offers id) stepped,
    streams_step inv.streams inv.sound inv.offers stepped⟩

/-! ### What the log of a call holds -/

/-- The request taken up under the id of a call is that of the call. -/
theorem Reached.request_eq (reached : Reached rkyv table channel)
    (current : (channel.consumers id).calls cid = some call) {request : Frame}
    (taken : Desk.TakenUp channel.desk.handled cid request) :
    request = .sent call.header call.payload := by
  apply reached.sound.asked.requests.unaltered request
    (List.mem_append_left _ taken.handled) id call _ taken.isRequest
  rw [taken.isCid]
  exact current

/-- The samples of a call that were taken are the first of those that its answer is
framed into. -/
theorem Reached.framed (reached : Reached rkyv table channel)
    (current : (channel.consumers id).calls cid = some call) :
    ∃ samples sent, channel.desk.logged cid <+: samples ∧ Framed rkyv samples sent ∧
      sent.map Event.onWire <+: answer table (.sent call.header call.payload) := by
  cases reached.sound.course cid with
  | idle idle =>
      exact ⟨[], [], idle.silent ▸ List.prefix_refl _, .nil, List.nil_prefix⟩
  | @rejected request err bytes rejected =>
      refine ⟨_, _, (List.prefix_append _ _).trans rejected.answers.within,
        framed_rpcError rejected.encoded, ?_⟩
      rw [← reached.request_eq current rejected.answers.taken, rejected.answered]
      exact List.prefix_refl _
  | @served request token handling serving sent served =>
      refine ⟨_, sent, (List.prefix_append _ _).trans served.answers.within,
        served.accounts.framed, ?_⟩
      rw [← reached.request_eq current served.answers.taken, served.answered]
      apply List.IsPrefix.map
      by_cases unencodable : serving.responding.outcome = some .unencodable
      · obtain ⟨wire, consumed, -, -, balance⟩ := served.accounts.unencodable unencodable
        exact ⟨_, balance.symm⟩
      · exact ⟨_, (served.accounts.balance unencodable).symm⟩

theorem Reached.received_within (reached : Reached rkyv table channel)
    (current : (channel.consumers id).calls cid = some call) :
    call.received <+: streamReceives rkyv (channel.heardOf id cid) := by
  have within := (reached.streams id cid).within call current
  rw [reached.sound.asked.callers.codec id cid call current] at within
  exact (List.prefix_append _ _).trans within

end Channel

/-! ### A call over the channel and the call it stands for -/

theorem plainCodec_solid : plainCodec.Solid where
  wire wire encoded := by cases wire <;> cases encoded
  rpc err encoded := by cases err <;> cases encoded

theorem streamReceives_mono (rkyv : Rkyv T E) {first second : List Sample}
    (shorter : first <+: second) :
    streamReceives rkyv first <+: streamReceives rkyv second := by
  have cut : Lib.upToFirst (endsCall rkyv) first <+: Lib.upToFirst (endsCall rkyv) second :=
    Lib.upToFirst_mono shorter
  obtain ⟨rest, split⟩ := cut
  rw [streamReceives, streamReceives, ← split, List.flatMap_append]
  exact List.prefix_append _ _

/-- Over every run of a channel, with any number of consumers, calls, observers and
cancellations in any interleaving: the stream of a call has received, in order, some
of the events that its request is to be answered with, each at most once, and none
from elsewhere. -/
theorem call_receives_sublist (rkyv : Rkyv T E) (roundTrips : rkyv.RoundTrips)
    (solid : rkyv.Solid) (table : Services T E)
    (actions : List (ChannelAction T E)) (final : Channel T E)
    (performed : Lib.run (Channel.step rkyv table) .new actions = some final)
    (id : Nat) (cid : CorrelationId) (call : Call T E)
    (current : (final.consumers id).calls cid = some call) :
    call.received.Sublist (answer table (.sent call.header call.payload)) := by
  have reached := Channel.reached_run solid performed
  obtain ⟨samples, sent, logged, framed, answered⟩ := reached.framed current
  have heard : (final.heardOf id cid).Sublist samples := by
    have offered : (final.heard id).Sublist final.log :=
      (List.sublist_append_left ..).trans (reached.offers id)
    exact ((offered.filter _).map _).trans logged.sublist
  have taken : (Lib.upToFirst (endsCall rkyv) (final.heardOf id cid)).Sublist samples :=
    (Lib.upToFirst_isPrefix _).sublist.trans heard
  have events := taken.flatMap fun sample => (handleSample rkyv sample).events
  rw [framed.events roundTrips] at events
  exact ((reached.received_within current).sublist.trans events).trans answered.sublist

/-- The values and completions of two calls of two consumers, each of which took up the
samples of both. -/
theorem call_receives_sublist_byte :
    ∃ final first second,
      Lib.run (Channel.step plainCodec byteTable) .new threeCalls = some final ∧
      (final.consumers 0).calls (idOf 1) = some first ∧
      (final.consumers 1).calls (idOf 2) = some second ∧
      (final.heard 0).length = 2 ∧ (final.heard 1).length = 2 ∧
      first.received.Sublist [.next 7, .complete] ∧
      second.received.Sublist [.next 9, .complete] := by
  have receives := call_receives_sublist plainCodec plainCodec_roundTrips plainCodec_solid
    byteTable threeCalls _ rfl
  exact ⟨_, _, _, rfl, rfl, rfl, rfl, rfl, receives 0 (idOf 1) _ rfl, receives 1 (idOf 2) _ rfl⟩

/-- The call is answered to its end and its consumer has taken up all of it: the task
ran out of events, or the rejection was taken. -/
structure Channel.Finished (channel : Channel T E) (id : Nat) (cid : CorrelationId) :
    Prop where
  drained : own cid (channel.responses.waiting (.consumer id)) = []
  idle : (channel.consumers id).workFor cid = none
  answered :
    (∃ token task serving, channel.provider.tasks token = some task ∧ task.cid = cid ∧
      channel.serving token = some serving ∧
      serving.responding.outcome = some .exhausted) ∨
    (own cid channel.log ≠ [] ∧
      ∀ token task, channel.provider.tasks token = some task → task.cid ≠ cid)

/-- The whole answer of a finished call is behind the samples of its log. -/
theorem Channel.Reached.finished {rkyv : Rkyv T E} {table : Services T E} {channel : Channel T E}
    (reached : Channel.Reached rkyv table channel)
    (current : (channel.consumers id).calls cid = some call) (finished : channel.Finished id cid) :
    ∃ sent, Framed rkyv (channel.desk.logged cid) sent ∧
      sent.map Event.onWire = answer table (.sent call.header call.payload) := by
  rcases finished.answered with
    ⟨token, task, serving, isTask, isCid, works, exhausted⟩ | ⟨taken, nobody⟩
  · have isRole : channel.desk.role token = some (cid, task.body) := by
      simp [Channel.desk, isTask, Task.role, isCid]
    obtain ⟨request, found, sent, served⟩ :=
      (reached.sound.course cid).served_of_role isRole
    cases served.works.symm.trans works
    have noOutbox : channel.desk.outbox (some token) = none := by
      by_contra busy
      obtain ⟨publication, isBusy⟩ := Option.ne_none_iff_exists'.mp busy
      have running := (served.busy publication isBusy).2
      rw [exhausted] at running
      cases running
    have whole := served.exactly (by simp [exhausted])
    rw [Desk.pending, noOutbox, samplesOf_none, List.append_nil] at whole
    have balance := served.accounts.balance (by simp [exhausted])
    rw [served.accounts.exhausted exhausted, List.append_nil] at balance
    refine ⟨sent, by rw [whole]; exact served.accounts.framed, ?_⟩
    rw [← balance, ← served.answered, reached.request_eq current served.answers.taken]
  · cases reached.sound.course cid with
    | idle idle => exact absurd (List.map_eq_nil_iff.mp idle.silent) taken
    | served served =>
        obtain ⟨task, isTask, isRole⟩ := Option.map_eq_some_iff.mp served.role
        exact absurd (congrArg Prod.fst isRole) (nobody _ task isTask)
    | @rejected request err bytes rejected =>
        have one : channel.desk.logged cid = [⟨.rpcError, bytes⟩] := by
          have within := (List.prefix_append _ _).trans rejected.answers.within
          rcases List.prefix_cons_iff.mp within with empty | ⟨rest, whole, noMore⟩
          · exact absurd (List.map_eq_nil_iff.mp empty) taken
          · rw [whole, List.prefix_nil.mp noMore]
        refine ⟨_, by rw [one]; exact framed_rpcError rejected.encoded, ?_⟩
        rw [← reached.request_eq current rejected.answers.taken, rejected.answered]
        rfl

/-- A call none of whose samples was taken by others only receives a first
part of its answer, cut at the first terminal event; and once the answer is finished
and taken up, exactly that: the channel then makes no difference to the caller. -/
theorem call_receives_answer (rkyv : Rkyv T E) (roundTrips : rkyv.RoundTrips)
    (solid : rkyv.Solid) (table : Services T E)
    (actions : List (ChannelAction T E)) (final : Channel T E)
    (performed : Lib.run (Channel.step rkyv table) .new actions = some final)
    (id : Nat) (cid : CorrelationId) (call : Call T E)
    (current : (final.consumers id).calls cid = some call)
    (heeds : Lib.StepsMeet (Channel.step rkyv table) (Channel.Heeds id cid) .new actions) :
    call.received <+:
        Lib.upToFirst Event.isTerminal (answer table (.sent call.header call.payload)) ∧
      (final.Finished id cid → call.attached = true →
        call.received =
          Lib.upToFirst Event.isTerminal
            (answer table (.sent call.header call.payload))) := by
  have reached := Channel.reached_run solid performed
  have offered : own cid (final.offered id) = own cid final.log :=
    Lib.run_invariant_of_stepsMeet
      (fun channel => own cid (channel.offered id) = own cid channel.log)
      (Channel.Heeds id cid)
      (fun _ _ _ before cond stepped => Channel.offered_own_step before cond stepped)
      rfl heeds performed
  rw [Channel.offered, own_append] at offered
  constructor
  · obtain ⟨samples, sent, logged, framed, answered⟩ := reached.framed current
    have heard : final.heardOf id cid <+: samples := by
      have first : own cid (final.heard id) <+: own cid final.log := ⟨_, offered⟩
      exact (first.map _).trans logged
    have within := (reached.received_within current).trans (streamReceives_mono rkyv heard)
    rw [framed.streamReceives_eq roundTrips] at within
    exact within.trans (Lib.upToFirst_mono answered)
  · intro finished attached
    obtain ⟨sent, framed, answered⟩ := reached.finished current finished
    rw [finished.drained, List.append_nil] at offered
    have exactly := ((reached.streams id cid).attached call current attached).exactly
    have noWork : todo ((final.consumers id).view cid).work = [] := by
      rw [show ((final.consumers id).view cid).work = none from finished.idle]
      rfl
    rw [noWork, List.append_nil, reached.sound.asked.callers.codec id cid call current,
      Channel.heardOf, offered] at exactly
    rw [exactly, ← answered]
    exact framed.streamReceives_eq roundTrips

/-- The second of these calls, whose consumer took up all of its answer. -/
theorem call_receives_answer_byte :
    ∃ final call, Lib.run (Channel.step plainCodec byteTable) .new threeCalls = some final ∧
      (final.consumers 1).calls (idOf 2) = some call ∧
      call.received = [.next 9, .complete] := by
  have heeds : Lib.StepsMeet (Channel.step plainCodec byteTable)
      (Channel.Heeds 1 (idOf 2)) .new threeCalls := by
    iterate 16 refine Lib.stepsMeet_cons rfl trivial ?_
    refine Lib.stepsMeet_cons rfl (fun _ _ _ _ => rfl) ?_
    iterate 5 refine Lib.stepsMeet_cons rfl trivial ?_
    refine Lib.stepsMeet_cons rfl (fun _ _ _ _ => rfl) ?_
    iterate 16 refine Lib.stepsMeet_cons rfl trivial ?_
    trivial
  obtain ⟨-, exactly⟩ := call_receives_answer plainCodec plainCodec_roundTrips
    plainCodec_solid byteTable threeCalls _ rfl 1 (idOf 2) _ rfl heeds
  refine ⟨_, _, rfl, rfl, exactly ⟨rfl, rfl, Or.inl ⟨1, _, _, rfl, rfl, rfl, rfl⟩⟩ rfl⟩

end IceRpc
