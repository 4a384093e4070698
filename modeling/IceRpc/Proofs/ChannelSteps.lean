/-
Module: IceRpc.Proofs.ChannelSteps
Purpose: What the steps of a whole channel do: to the buffers of its topics, to the
  request of a call, and, step by step, to the state.
Trusted boundary: none
Main exports: Topic.waiting_send, Topic.waiting_afterAttempt, Call.SameRequest,
  ConsumerPorts.step_request, Channel.Steps, Channel.step_steps
-/
import IceRpc.Proofs.CallLife
import IceRpc.Proofs.Delivery
import IceRpc.Transport.Channel

namespace IceRpc

variable {T E : Type}

/-! ### The buffers of a topic -/

namespace Topic

variable {topic : Topic} {port : Port}

/-- The first subscriber of the port takes a sample. -/
def takesFor (topic : Topic) (takes : Subscriber → Bool) (port : Port) : Bool :=
  (topic.find? fun subscriber => subscriber.port = port).any takes

theorem find?_map_port (change : Subscriber → Subscriber)
    (samePort : ∀ subscriber, (change subscriber).port = subscriber.port) :
    (topic.map change).find? (fun subscriber => subscriber.port = port) =
      (topic.find? fun subscriber => subscriber.port = port).map change := by
  rw [List.find?_map]
  congr 2
  funext subscriber
  simp [samePort]

/-- A send reaches the buffer of a port exactly when the port takes it. -/
theorem waiting_send (takes : Subscriber → Bool) (frame : Frame) :
    (topic.send takes frame).topic.waiting port =
      topic.waiting port ++ if topic.takesFor takes port then [frame] else [] := by
  have samePort : ∀ subscriber : Subscriber,
      (subscriber.offer takes frame).port = subscriber.port := by
    intro subscriber
    unfold Subscriber.offer
    split <;> rfl
  unfold waiting takesFor send
  rw [find?_map_port _ samePort]
  cases topic.find? fun subscriber => subscriber.port = port with
  | none => simp
  | some subscriber =>
      cases taken : takes subscriber <;> simp [Subscriber.offer, taken]

/-- An attempt puts its sample into a buffer, or nothing. -/
theorem waiting_afterAttempt (port : Port) (takes : Subscriber → Bool) (header : RpcHeader)
    (payload : Bytes)
    (takers : List Port) :
    (topic.afterAttempt takes header payload takers).waiting port = topic.waiting port ∨
      (takers ≠ [] ∧ (topic.afterAttempt takes header payload takers).waiting port =
        topic.waiting port ++ [.sent header payload]) := by
  unfold afterAttempt
  split
  · exact Or.inl rfl
  · rename_i taken
    rw [waiting_send]
    split
    · exact Or.inr ⟨by simpa using taken, rfl⟩
    · exact Or.inl (List.append_nil _)

/-- `try_publish` puts the sample it was given into a buffer, or nothing. -/
theorem waiting_tryPublish (port : Port) (header : RpcHeader) (payload : Bytes)
    (met : Conditions) :
    (tryPublish header payload met).2.topic.waiting port = met.topic.waiting port ∨
      (tryPublish header payload met).2.topic.waiting port =
        met.topic.waiting port ++ [.sent header payload] := by
  cases loan : met.loanError with
  | some err => exact Or.inl (by simp [tryPublish, loan, untouched])
  | none =>
      cases send : met.sendError with
      | some err => exact Or.inl (by simp [tryPublish, loan, send, untouched])
      | none =>
          have sent : (tryPublish header payload met).2 =
              met.topic.send met.takes (.sent header payload) := by
            simp [tryPublish, loan, send, Frame.sent]
          rw [sent, waiting_send]
          split
          · exact Or.inr rfl
          · exact Or.inl (List.append_nil _)

theorem waiting_received {other : Port} {frame : Frame} {rest : List Frame}
    (found : topic.waiting port = frame :: rest) :
    (topic.received port rest).waiting other =
      if other = port then rest else topic.waiting other := by
  unfold received
  have samePort : ∀ subscriber : Subscriber,
      (if subscriber.port = port then { subscriber with buffer := rest }
        else subscriber).port = subscriber.port := by
    intro subscriber
    split <;> rfl
  rw [waiting, find?_map_port _ samePort]
  cases first : topic.find? fun subscriber => subscriber.port = other with
  | none =>
      split
      · rename_i same
        rw [same] at first
        simp [waiting, first] at found
      · simp [waiting, first]
  | some subscriber =>
      have isOther : subscriber.port = other := by
        simpa using List.find?_some first
      split
      · rename_i same
        simp [isOther, same]
      · rename_i different
        simp [waiting, first, isOther, different]

theorem waiting_join {joined : Topic} {capacity : Nat} {other : Port}
    (performed : topic.join port capacity = some joined) :
    joined.waiting other = topic.waiting other := by
  unfold join at performed
  split at performed
  · cases performed
  · cases performed
    unfold waiting
    rw [List.find?_append]
    cases topic.find? fun subscriber => subscriber.port = other with
    | some subscriber => rfl
    | none =>
        by_cases same : port = other <;> simp [same]

theorem waiting_leave {other : Port} :
    (topic.leave port).waiting other = if other = port then [] else topic.waiting other := by
  unfold leave waiting
  split
  · rename_i same
    have nobody : (topic.filter fun subscriber => subscriber.port ≠ port).find?
        (fun subscriber => subscriber.port = other) = none := by
      apply List.find?_eq_none.mpr
      intro subscriber member
      have stayed := (List.mem_filter.mp member).2
      rw [same]
      simpa using stayed
    rw [nobody]
    rfl
  · rename_i different
    rw [List.find?_filter]
    congr 2
    congr 1
    funext subscriber
    by_cases isOther : subscriber.port = other
    · simp [isOther, different]
    · simp [isOther]

end Topic

/-! ### What a step asks of a consumer -/

/-- The publication of the request has not returned. -/
def Call.isPublishing (call : Call T E) : Bool :=
  match call.phase with
  | .publishing _ => true
  | _ => false

/-- The call goes on with the request it was made with, and does not publish it
again. -/
structure Call.SameRequest (old call : Call T E) : Prop where
  codec : call.rkyv = old.rkyv
  header : call.header = old.header
  payload : call.payload = old.payload
  notAgain : old.isPublishing = false → call.isPublishing = false

theorem Call.SameRequest.refl (call : Call T E) : call.SameRequest call :=
  ⟨rfl, rfl, rfl, id⟩

/-- A move keeps the request of its call, unless it is what makes the call. -/
theorem CallView.moves_request {before after : CallView T E} {act : CallAction T E}
    (move : before.Moves act after) {call : Call T E} (current : after.call = some call) :
    (∃ old, before.call = some old ∧ old.SameRequest call) ∨
      (before.call = none ∧ ∃ rkyv header payload, act = .call rkyv header payload ∧
        call = .registered rkyv header payload) := by
  cases move with
  | call rkyv header payload fresh =>
      cases current
      exact Or.inr ⟨fresh, rkyv, header, payload, rfl, rfl⟩
  | skip | take | refuseFirst | refuseFollowUp | release =>
      exact Or.inl ⟨call, current, .refl call⟩
  | attempt met was phase =>
      cases current
      exact Or.inl ⟨_, was, rfl, rfl, rfl, fun notNow => by
        simp [Call.isPublishing, phase] at notNow⟩
  | sendFirst working was | sendFollowUp working was | recv was =>
      cases current
      exact Or.inl ⟨_, was, rfl, rfl, rfl, fun notNow => notNow⟩
  | giveUp was | drop was | publishCancel header was | close was =>
      cases current
      exact Or.inl ⟨_, was, rfl, rfl, rfl, fun _ => rfl⟩
  | cleanup was =>
      cases current
      refine Or.inl ⟨_, was, rfl, rfl, rfl, fun _ => ?_⟩
      simp only [Call.isPublishing]
      split_ifs <;> rfl

/-- A step of a consumer keeps the requests of its calls, unless it makes a call. -/
theorem ConsumerPorts.step_request {ports next : ConsumerPorts T E}
    {action : ClientAction T E} (keyed : ports.Keyed)
    (performed : ports.step action = some next) {cid : CorrelationId} {call : Call T E}
    (current : next.calls cid = some call) :
    (∃ old, ports.calls cid = some old ∧ old.SameRequest call) ∨
      (ports.calls cid = none ∧ ∃ rkyv methodId service trace payload now,
        action = .call cid rkyv methodId service trace payload now ∧
          call = .registered rkyv (ports.requestHeader cid methodId service trace now)
            payload) := by
  obtain ⟨id, act, ⟨move, others⟩, labelled, -⟩ := step_at_one_call keyed performed
  by_cases same : cid = id
  · subst same
    rcases CallView.moves_request move current with
      kept | ⟨fresh, rkyv, header, payload, isCall, isNew⟩
    · exact Or.inl kept
    · subst isCall
      refine Or.inr ⟨fresh, ?_⟩
      cases action <;> simp [label] at labelled
      obtain ⟨rfl, rfl, rfl, rfl⟩ := labelled
      exact ⟨_, _, _, _, _, _, rfl, isNew⟩
  · have unchanged := congrArg CallView.call (others cid same)
    exact Or.inl ⟨call, unchanged.symm.trans current, .refl call⟩

namespace Channel

/-! ### What the steps do -/

section

variable (rkyv : Rkyv T E) (table : Services T E) (channel : Channel T E)

/-- A step of a channel, with what it found and the state it leads to. -/
inductive Steps : ChannelAction T E → Channel T E → Prop where
  | joinRequests {port capacity topic}
      (joined : channel.requests.join port capacity = some topic) :
      Steps (.joinRequests port capacity) { channel with requests := topic }
  | leaveRequests (port : Port) :
      Steps (.leaveRequests port) { channel with requests := channel.requests.leave port }
  | joinResponses {port capacity topic}
      (joined : channel.responses.join port capacity = some topic) :
      Steps (.joinResponses port capacity) { channel with responses := topic }
  | leaveResponses (port : Port) : Steps (.leaveResponses port)
      { channel with responses := channel.responses.leave port }
  | call {id cid methodId service trace payload now ports}
      (fresh : cid ∉ channel.issued)
      (stepped : (channel.consumers id).step
        (.call cid rkyv methodId service trace payload now) = some ports) :
      Steps (.call id cid methodId service trace payload now)
        { channel.setConsumer id ports with issued := channel.issued ++ [cid] }
  | attempt {id cid met call attempts ports}
      (current : (channel.consumers id).calls cid = some call)
      (phase : call.phase = .publishing attempts)
      (stepped : (channel.consumers id).step
        (.attempt cid { met with topic := channel.requests }) = some ports) :
      Steps (.attempt id cid met) (channel.requested id ports call.header call.payload met.takes
        (publishAttempt call.header call.payload attempts
          { met with topic := channel.requests }).2)
  | notify {id cid methodId service trace payload now met} (takers : List Port)
      (fresh : cid ∉ channel.issued) :
      Steps (.notify id cid methodId service trace payload now met)
        { channel.requested id
            { channel.consumers id with seq := (channel.consumers id).seq + 1 }
            ((channel.consumers id).requestHeader cid methodId service trace now) payload
            met.takes takers with
          issued := channel.issued ++ [cid] }
  | cancel {id cid now met call ports}
      (current : (channel.consumers id).calls cid = some call)
      (stepped : (channel.consumers id).step (.publishCancel cid now) = some ports) :
      Steps (.cancel id cid now met)
        { channel.setConsumer id ports with
          requests := (tryPublish ((channel.consumers id).cancelHeader call now) []
            { met with topic := channel.requests }).2.topic }
  | advance {id act ports} (isLocal : act.isLocal = true)
      (stepped : (channel.consumers id).step act = some ports) :
      Steps (.advance id act) (channel.setConsumer id ports)
  | receive {id frame rest ports}
      (found : channel.responses.waiting (.consumer id) = frame :: rest)
      (stepped : (channel.consumers id).step (.sample frame.header frame.payload) =
        some ports) :
      Steps (.receive id) (channel.heardBy id ports frame rest)
  | dispatch {now frame rest provider} (idle : channel.provider.inline = none)
      (free : channel.outbox none = none)
      (found : channel.requests.waiting .provider = frame :: rest)
      (routed : channel.provider.handleRequest rkyv table
        { now := now, delivered := true } frame.header frame.payload = provider) :
      Steps (.dispatch now) (channel.dispatched frame rest provider)
  | attend {act provider} (isLocal : act.isLocal = true)
      (stepped : channel.provider.step rkyv table act = some provider) :
      Steps (.attend act) { channel with provider := provider }
  /-- A turn that hands a sample to the publisher. -/
  | emit {token now task serving sample hub}
      (current : channel.provider.tasks token = some task)
      (works : channel.serving token = some serving)
      (empty : channel.outbox (some token) = none)
      (emitted : (serving.turn rkyv).responding.sink = some sample)
      (published : (channel.provider.hub.publish { now := now, delivered := true }
        sample.kind serving.request sample.payload).1 = hub) :
      Steps (.turn token now)
        { channel with
          provider := { channel.provider with hub := hub }
          serving := Function.update channel.serving token (some (serving.turn rkyv))
          outbox := Function.update channel.outbox (some token)
            ((hub.since channel.provider.hub).map .ofFrame) }
  /-- A turn that does not. -/
  | rest {token now serving ready provider}
      (works : channel.serving token = some serving)
      (empty : channel.outbox (some token) = none)
      (silent : (serving.turn rkyv).responding.sink = none)
      (polled : channel.provider.pollHandler token ready = some provider) :
      Steps (.turn token now)
        { channel with
          provider := provider
          serving := Function.update channel.serving token (some (serving.turn rkyv)) }
  | retry {owner met publication} (attempts : Nat)
      (current : channel.outbox owner = some publication) :
      Steps (.publish owner met)
        { channel with
          outbox := Function.update channel.outbox owner
            (some { publication with attempts := attempts }) }
  | deliver {owner met publication}
      (current : channel.outbox owner = some publication)
      (taken : (publishAttempt publication.header publication.payload publication.attempts
        { met with topic := channel.responses }).2 ≠ []) :
      Steps (.publish owner met)
        { channel with
          responses := (channel.responses.send met.takes
            (.sent publication.header publication.payload)).topic
          log := channel.log ++ [.sent publication.header publication.payload]
          outbox := Function.update channel.outbox owner none }
  | fail {owner met publication} (current : channel.outbox owner = some publication) :
      Steps (.publish owner met)
        { channel with
          outbox := Function.update channel.outbox owner none
          serving := Answering.refuse channel.serving owner }

end

variable {rkyv : Rkyv T E} {table : Services T E} {channel next : Channel T E}

theorem turn_steps {token : TokenId} {now : UInt64}
    (performed : channel.turn rkyv token now = some next) :
    Steps rkyv table channel (.turn token now) next := by
  unfold turn at performed
  split at performed
  · rename_i task serving current works empty
    split at performed
    · simp only at performed
      split at performed
      · rename_i sample emitted
        cases performed
        exact .emit current works empty emitted rfl
      · rename_i silent
        obtain ⟨provider, polled, rfl⟩ := Option.map_eq_some_iff.mp performed
        exact .rest works empty silent polled
    · cases performed
  · cases performed

theorem publish_steps {owner : Option TokenId} {met : Conditions}
    (performed : channel.publish owner met = some next) :
    Steps rkyv table channel (.publish owner met) next := by
  unfold publish at performed
  split at performed
  · rename_i publication current
    simp only at performed
    rcases publishAttempt_cases publication.header publication.payload
      publication.attempts { met with topic := channel.responses } with
      ⟨takers, attempted, -, taken⟩ | ⟨progress, attempted, notOk⟩
    · rw [attempted] at performed
      have sent : channel.responses.afterAttempt met.takes publication.header
          publication.payload takers = (channel.responses.send met.takes
            (.sent publication.header publication.payload)).topic := by
        simp [Topic.afterAttempt, taken]
      simp only [sent, delivered, List.isEmpty_eq_false_iff.mpr taken] at performed
      cases performed
      exact .deliver current (by rw [attempted]; exact taken)
    · rw [attempted] at performed
      simp only [Topic.afterAttempt, delivered, List.isEmpty_nil, if_true, List.map_nil,
        List.append_nil] at performed
      split at performed
      · cases performed
        exact .retry _ current
      · exact absurd rfl notOk
      · cases performed
        exact .fail current
  · cases performed

/-- Every step of a channel is one of these. -/
theorem step_steps {action : ChannelAction T E}
    (performed : channel.step rkyv table action = some next) :
    Steps rkyv table channel action next := by
  cases action with
  | joinRequests port capacity =>
      obtain ⟨topic, joined, rfl⟩ := Option.map_eq_some_iff.mp performed
      exact .joinRequests joined
  | joinResponses port capacity =>
      obtain ⟨topic, joined, rfl⟩ := Option.map_eq_some_iff.mp performed
      exact .joinResponses joined
  | leaveRequests port =>
      cases performed
      exact .leaveRequests port
  | leaveResponses port =>
      cases performed
      exact .leaveResponses port
  | call id cid methodId service trace payload now =>
      simp only [step, call] at performed
      split at performed
      · cases performed
      · rename_i fresh
        obtain ⟨ports, stepped, rfl⟩ := Option.map_eq_some_iff.mp performed
        exact .call (by simpa using fresh) stepped
  | attempt id cid met =>
      simp only [step, attempt] at performed
      split at performed
      · rename_i call current
        split at performed
        · rename_i attempts phase
          obtain ⟨ports, stepped, rfl⟩ := Option.map_eq_some_iff.mp performed
          exact .attempt current phase stepped
        · cases performed
      · cases performed
  | notify id cid methodId service trace payload now met =>
      simp only [step, notify] at performed
      split at performed
      · cases performed
      · rename_i fresh
        cases performed
        exact .notify _ (by simpa using fresh)
  | cancel id cid now met =>
      simp only [step, cancel] at performed
      split at performed
      · rename_i call current
        obtain ⟨ports, stepped, rfl⟩ := Option.map_eq_some_iff.mp performed
        exact .cancel current stepped
      · cases performed
  | advance id act =>
      simp only [step] at performed
      split at performed
      · rename_i isLocal
        obtain ⟨ports, stepped, rfl⟩ := Option.map_eq_some_iff.mp performed
        exact .advance isLocal stepped
      · cases performed
  | receive id =>
      simp only [step, receive] at performed
      split at performed
      · rename_i frame rest found
        obtain ⟨ports, stepped, rfl⟩ := Option.map_eq_some_iff.mp performed
        exact .receive found stepped
      · cases performed
  | dispatch now =>
      simp only [step, dispatch] at performed
      split at performed
      · rename_i frame rest idle free found
        cases performed
        exact .dispatch idle free found rfl
      · cases performed
  | attend act =>
      simp only [step, attend] at performed
      split at performed
      · rename_i isLocal
        obtain ⟨provider, stepped, rfl⟩ := Option.map_eq_some_iff.mp performed
        exact .attend isLocal stepped
      · cases performed
  | turn token now => exact turn_steps performed
  | publish owner met => exact publish_steps performed

end Channel

end IceRpc
