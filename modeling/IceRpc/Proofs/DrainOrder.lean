/-
Module: IceRpc.Proofs.DrainOrder
Purpose: The counters of the observer after a set of calls was drained, in whatever
  order its two directions were interleaved: one latency per call, nothing in flight,
  no orphan, nothing deferred, as long as no response is drained directly while an
  earlier one of its call is still deferred.
Trusted boundary: none
Main exports: Monitor.WithinLimits, Monitor.SettledFirst, Monitor.Remaining,
  Monitor.Shows.step, Monitor.Shows.drain, Monitor.Verdict, drain_order_irrelevant
-/
import IceRpc.Proofs.MonitorTraffic
import IceRpc.Proofs.ObservedCalls

namespace IceRpc

open Lib

namespace Monitor

variable {channel : String} {header : RpcHeader} {now : Nat} {oldest : Option CorrelationId}
  {calls : List ObservedCall} {views : CorrelationId → Standing}

/-! ### What the runs are held to -/

/-- The step reaches neither the time to live of a call, nor the grace of a deferred
response, nor a capacity. -/
def WithinLimits (monitor : Monitor) : MonitorAction → Prop
  | .request .. => monitor.correlate.entries.len < monitor.correlate.max
  | .response _ header _ _ =>
      monitor.deferred.len < maxDeferred ∧
        ∀ entry, monitor.deferred.lookup header.correlationId = some entry →
          entry.samples.length < maxDeferredSamples
  | .resolveDeferred _ now =>
      ∀ cid entry, monitor.deferred.lookup cid = some entry →
        now - entry.since < orphanGrace
  | .sweep now =>
      ∀ cid call, monitor.correlate.entries.lookup cid = some call →
        now cid - call.started < monitor.correlate.ttl

/-- A response is drained while its request is tracked only if no earlier response of
its call is still deferred. -/
def SettledFirst (monitor : Monitor) : MonitorAction → Prop
  | .response _ header _ _ =>
      monitor.correlate.contains header.correlationId = true →
        monitor.deferred.lookup header.correlationId = none
  | _ => True

/-! ### A request is drained, a response is deferred -/

section

variable {names : MethodNames} {calls : List ObservedCall}
  {views : CorrelationId → Standing} {monitor next : Monitor} {call : ObservedCall}

theorem onRequest_eq {payloadLen : Nat}
    (room : monitor.correlate.entries.len < monitor.correlate.max)
    (performed : monitor.onRequest names call.channel call.request payloadLen now oldest =
      some next) :
    next = { monitor with
      metrics := (monitor.metrics.onRequest call.channel call.request.serviceId
        (methodOf names call.request)).onInflight call.channel call.request.serviceId 1
      correlate := { monitor.correlate with
        entries := monitor.correlate.entries.insert call.cid
          { channel := call.channel
            serviceId := call.request.serviceId
            method := methodOf names call.request
            requestTsNs := call.request.timestampNs
            requestBytes := payloadLen
            firstResponseSeen := false
            started := now } } } := by
  simp only [onRequest, call.isRequest, ne_eq, not_true_eq_false, if_false,
    Correlate.insert, Nat.not_le.mpr room] at performed
  cases performed
  rfl

theorem Shows.ask (shows : Shows names calls views monitor)
    (distinct : (calls.map ObservedCall.cid).Nodup) (listed : call ∈ calls)
    (unasked : (views call.cid).asked = false)
    (room : monitor.correlate.entries.len < monitor.correlate.max) {payloadLen : Nat}
    (performed : monitor.onRequest names call.channel call.request payloadLen now oldest =
      some next) :
    Shows names calls
      (Function.update views call.cid { views call.cid with asked := true }) next := by
  have nothing := (shows.sound call listed).1 unasked
  have tracked : call.isTracked { views call.cid with asked := true } = true := by
    apply isTracked_of_prefix rfl call.responses_ne_nil
    rw [nothing]
    exact List.prefix_refl _
  have untracked : call.isTracked (views call.cid) = false := by
    rw [ObservedCall.isTracked, unasked]
    rfl
  rw [onRequest_eq room performed]
  apply shows.move distinct listed
  constructor
  · refine ⟨?_, (shows.sound call listed).2⟩
    intro isFalse
    cases isFalse
  · rw [ObservedCall.Tracks, if_pos tracked]
    refine ⟨payloadLen, now, ?_⟩
    rw [AList.lookup_insert, nothing]
    rfl
  · exact fun _ different => AList.lookup_insert_ne different
  · exact shows.held call listed
  · exact fun _ _ => rfl
  · intro key
    rw [ObservedCall.flightShare, ObservedCall.flightShare, untracked, if_pos tracked]
    show Function.update monitor.metrics.inflight call.serviceKey
      (monitor.metrics.inflight call.serviceKey + 1) key + _ = _
    by_cases same : key = call.serviceKey
    · subst same
      simp
    · simp [Function.update_of_ne same, Ne.symm same]
  · exact fun _ => List.Perm.refl _
  · rfl
  · rfl
  · rfl

theorem Shows.counted (shows : Shows names calls views monitor) (channel : String)
    (header : RpcHeader) :
    Shows names calls views (monitor.counted channel header) :=
  ⟨shows.sound, shows.tracked, shows.held, shows.strange, shows.inflight, shows.latency,
    shows.matched, shows.adopted, shows.inTime⟩

theorem onResponse_of_unknown (now : Nat) (oldest : Option CorrelationId)
    (unknown : monitor.correlate.entries.lookup header.correlationId = none)
    (room : monitor.deferred.len < maxDeferred) :
    monitor.onResponse channel header now oldest =
      some ((monitor.counted channel header).holdResponse channel header now) := by
  have unbounded : (monitor.counted channel header).boundDeferred oldest =
      some (monitor.counted channel header) :=
    if_neg (Nat.not_le.mpr room)
  rw [onResponse_of_untracked now oldest unknown, deferResponse, unbounded]
  rfl

theorem Shows.hold (shows : Shows names calls views monitor)
    (distinct : (calls.map ObservedCall.cid).Nodup) (listed : call ∈ calls)
    (unasked : (views call.cid).asked = false)
    {response : String × RpcHeader} (own : response.2.correlationId = call.cid)
    (room : ∀ entry, monitor.deferred.lookup call.cid = some entry →
      entry.samples.length < maxDeferredSamples) (now : Nat) :
    Shows names calls
      (Function.update views call.cid
        { views call.cid with waiting := (views call.cid).waiting ++ [response] })
      (monitor.holdResponse response.1 response.2 now) := by
  have nothing := (shows.sound call listed).1 unasked
  have holds := shows.held call listed
  -- the buffer gets the response, behind those already there
  have kept : ∃ channel since, monitor.holdResponse response.1 response.2 now =
      { monitor with
        deferred := monitor.deferred.insert call.cid
          { channel := channel
            samples := ((views call.cid).waiting ++ [response]).map Prod.snd
            since := since } } := by
    unfold holdResponse
    rw [own]
    dsimp only
    by_cases waits : (views call.cid).waiting = []
    · rw [(Standing.holds_of_settled waits).mp holds, waits]
      exact ⟨response.1, now, rfl⟩
    · obtain ⟨channel, since, entry⟩ := (Standing.holds_of_waiting waits).mp holds
      simp only [entry, Nat.not_le.mpr (room _ entry), if_false]
      exact ⟨channel, since, by simp⟩
  obtain ⟨channel, since, held⟩ := kept
  rw [held]
  apply shows.move distinct listed
  constructor
  · exact ⟨fun _ => nothing, fun _ => nothing⟩
  · exact shows.tracked call listed
  · exact fun _ _ => rfl
  · rw [Standing.Holds, AList.lookup_insert]
    simp
  · exact fun _ different => AList.lookup_insert_ne different
  · exact fun _ => rfl
  · exact fun _ => List.Perm.refl _
  · rfl
  · rfl
  · rfl

/-! ### What is still to be drained -/

/-- What is left of the samples, for the calls where they stand. -/
structure Remaining (calls : List ObservedCall) (views : CorrelationId → Standing)
    (actions : List MonitorAction) : Prop where
  requests : (actions.filterMap MonitorAction.requestSample).Perm
    (bag ObservedCall.requestShare calls views)
  responses : ∀ call ∈ calls, (views call.cid).done ++ (views call.cid).waiting ++
    actions.filterMap (MonitorAction.responseOf call.cid) = call.responses
  known : ∀ action ∈ actions, ∀ response, action.responseSample = some response →
    ∃ call ∈ calls, call.cid = response.2.correlationId

section

variable {action : MonitorAction} {actions : List MonitorAction}

theorem Remaining.seen (remaining : Remaining calls views actions) (listed : call ∈ calls) :
    (views call.cid).done ++ (views call.cid).waiting <+: call.responses :=
  ⟨_, remaining.responses call listed⟩

variable (remaining : Remaining calls views (action :: actions))
include remaining

theorem Remaining.tail_known :
    ∀ action ∈ actions, ∀ response, action.responseSample = some response →
      ∃ call ∈ calls, call.cid = response.2.correlationId :=
  fun other member => remaining.known other (List.mem_cons_of_mem _ member)

/-- A step that drains no response leaves those still to come. -/
theorem Remaining.responses_of_none (noResponse : action.responseSample = none)
    (listed : call ∈ calls) :
    (views call.cid).done ++ (views call.cid).waiting ++
      actions.filterMap (MonitorAction.responseOf call.cid) = call.responses := by
  have responses := remaining.responses call listed
  have nothing : action.responseOf call.cid = none := by
    rw [MonitorAction.responseOf, noResponse]
    rfl
  rwa [List.filterMap_cons_none nothing] at responses

/-- A step that drains nothing and leaves requests and responses where they were. -/
theorem Remaining.skip {after : CorrelationId → Standing} (noRequest : action.requestSample = none)
    (noResponse : action.responseSample = none)
    (asked : ∀ cid, (after cid).asked = (views cid).asked)
    (seen : ∀ cid, (after cid).done ++ (after cid).waiting =
      (views cid).done ++ (views cid).waiting) : Remaining calls after actions := by
  refine ⟨?_, ?_, remaining.tail_known⟩
  · have requests := remaining.requests
    rw [List.filterMap_cons_none noRequest] at requests
    have same : bag ObservedCall.requestShare calls after =
        bag ObservedCall.requestShare calls views := by
      simp only [bag, ObservedCall.requestShare, asked]
    rw [same]
    exact requests
  · intro call listed
    rw [seen]
    exact remaining.responses_of_none noResponse listed

/-- A drained request is that of a call not asked yet. -/
theorem Remaining.request (drained : action.requestSample = some (channel, header)) :
    ∃ call ∈ calls, (views call.cid).asked = false ∧ channel = call.channel ∧
      header = call.request := by
  have requests := remaining.requests
  rw [List.filterMap_cons_some drained] at requests
  have listed := requests.mem_iff.mp (List.mem_cons_self ..)
  obtain ⟨call, member, share⟩ := List.mem_flatMap.mp listed
  unfold ObservedCall.requestShare at share
  split at share
  · cases share
  · rename_i unasked
    cases List.mem_singleton.mp share
    exact ⟨call, member, Bool.eq_false_iff.mpr unasked, rfl, rfl⟩

theorem Remaining.ask (distinct : (calls.map ObservedCall.cid).Nodup) (listed : call ∈ calls)
    (unasked : (views call.cid).asked = false)
    (drained : action.requestSample = some (call.channel, call.request))
    (noResponse : action.responseSample = none) :
    Remaining calls (Function.update views call.cid { views call.cid with asked := true })
      actions := by
  refine ⟨?_, ?_, remaining.tail_known⟩
  · have requests := remaining.requests
    rw [List.filterMap_cons_some drained] at requests
    have total := flatMap_update_perm ObservedCall.requestShare ObservedCall.cid views
      distinct listed { views call.cid with asked := true }
    have before : call.requestShare (views call.cid) = [(call.channel, call.request)] := by
      simp [ObservedCall.requestShare, unasked]
    have after : call.requestShare { views call.cid with asked := true } = [] := rfl
    rw [before, after, List.append_nil] at total
    have first := total.symm.trans (List.perm_append_singleton _ _)
    exact (requests.trans first).cons_inv
  · apply forall_mem_update
      (fun (other : ObservedCall) (view : Standing) => view.done ++ view.waiting ++
        actions.filterMap (MonitorAction.responseOf other.cid) = other.responses)
      distinct listed
    · exact remaining.responses_of_none noResponse listed
    · exact fun other member _ => remaining.responses_of_none noResponse member

/-- A drained response is the next of its call. -/
theorem Remaining.hear {response : String × RpcHeader}
    (distinct : (calls.map ObservedCall.cid).Nodup)
    (drained : action.responseSample = some response) (noRequest : action.requestSample = none) :
    ∃ call ∈ calls, call.cid = response.2.correlationId ∧
      (views call.cid).done ++ (views call.cid).waiting ++ [response] <+:
        call.responses ∧
      ∀ after, after.asked = (views call.cid).asked →
        after.done ++ after.waiting =
          (views call.cid).done ++ (views call.cid).waiting ++ [response] →
        Remaining calls (Function.update views call.cid after) actions := by
  obtain ⟨call, listed, own⟩ := remaining.known action (List.mem_cons_self ..) response drained
  have mine : action.responseOf call.cid = some response := by
    rw [MonitorAction.responseOf, drained, Option.filter_some, own]
    simp
  have next := remaining.responses call listed
  rw [List.filterMap_cons_some mine] at next
  have upToNow : (views call.cid).done ++ (views call.cid).waiting ++ [response] ++
      actions.filterMap (MonitorAction.responseOf call.cid) = call.responses := by
    rw [← next]
    simp
  refine ⟨call, listed, own, ⟨_, upToNow⟩, ?_⟩
  intro after asked seen
  refine ⟨?_, ?_, remaining.tail_known⟩
  · have requests := remaining.requests
    rw [List.filterMap_cons_none noRequest] at requests
    have total := flatMap_update_perm ObservedCall.requestShare ObservedCall.cid views
      distinct listed after
    have same : call.requestShare after = call.requestShare (views call.cid) := by
      rw [ObservedCall.requestShare, ObservedCall.requestShare, asked]
    rw [same] at total
    exact requests.trans ((List.perm_append_right_iff _).mp total).symm
  · apply forall_mem_update
      (fun (other : ObservedCall) (view : Standing) => view.done ++ view.waiting ++
        actions.filterMap (MonitorAction.responseOf other.cid) = other.responses)
      distinct listed
    · rw [seen]
      exact upToNow
    · intro other member different
      have responses := remaining.responses other member
      have others : action.responseOf other.cid = none := by
        rw [MonitorAction.responseOf, drained, Option.filter_some, ← own]
        simp [Ne.symm different]
      rwa [List.filterMap_cons_none others] at responses

end

/-! ### The deferred responses are resolved -/

section

variable (shows : Shows names calls views monitor)
include shows

theorem Shows.asked_of_contains (listed : call ∈ calls)
    (contained : monitor.correlate.contains call.cid = true) : (views call.cid).asked = true := by
  have tracked := shows.tracked call listed
  rw [ObservedCall.Tracks] at tracked
  split at tracked
  · rename_i isTracked
    exact (Bool.and_eq_true_iff.mp isTracked).1
  · rw [Correlate.contains, tracked] at contained
    cases contained

/-- A call with deferred responses whose request is known is in the table. -/
theorem Shows.contains_of_waiting (listed : call ∈ calls) (asked : (views call.cid).asked = true)
    (waits : (views call.cid).waiting ≠ []) : monitor.correlate.contains call.cid = true := by
  have nothing := (shows.sound call listed).2 waits
  have isTracked : call.isTracked (views call.cid) = true := by
    apply isTracked_of_prefix asked call.responses_ne_nil
    rw [nothing]
    exact List.prefix_refl _
  obtain ⟨pending, entry⟩ := shows.entry listed isTracked
  rw [Correlate.contains, entry]
  rfl

theorem Shows.mem_deferred (listed : call ∈ calls) (waits : (views call.cid).waiting ≠ []) :
    call.cid ∈ monitor.deferred.keys := by
  obtain ⟨channel, since, entry⟩ :=
    (Standing.holds_of_waiting waits).mp (shows.held call listed)
  apply AList.lookup_isSome.mp
  rw [entry]
  rfl

theorem Shows.known_of_ready {cid : CorrelationId} (isReady : cid ∈ monitor.ready) :
    ∃ call ∈ calls, call.cid = cid ∧ (views cid).asked = true := by
  obtain ⟨deferred, contained⟩ := List.mem_filter.mp isReady
  have isCall : cid ∈ calls.map ObservedCall.cid := by
    by_contra unknown
    have found : (monitor.deferred.lookup cid).isSome := AList.lookup_isSome.mpr deferred
    rw [shows.strange cid unknown] at found
    cases found
  obtain ⟨call, listed, rfl⟩ := List.mem_map.mp isCall
  exact ⟨call, listed, rfl, shows.asked_of_contains listed contained⟩

/-- Resolving settles every call whose request is known. -/
theorem Shows.resolve (distinct : (calls.map ObservedCall.cid).Nodup)
    (seen : ∀ call ∈ calls, (views call.cid).done ++ (views call.cid).waiting <+: call.responses)
    {order : List CorrelationId}
    (fresh : ∀ cid entry, monitor.deferred.lookup cid = some entry →
      now - entry.since < orphanGrace) (performed : monitor.resolveDeferred order now = some next) :
    ∃ after, Shows names calls after next ∧
      (∀ cid, (after cid).asked = (views cid).asked) ∧
      (∀ cid, (after cid).done ++ (after cid).waiting =
        (views cid).done ++ (views cid).waiting) ∧
      ∀ call ∈ calls, (after call.cid).asked = true → (after call.cid).waiting = [] := by
  unfold resolveDeferred at performed
  split at performed
  · rename_i empty
    cases performed
    refine ⟨views, shows, fun _ => rfl, fun _ => rfl, ?_⟩
    intro call listed _
    by_contra waits
    have deferred := shows.mem_deferred listed waits
    rw [AList.keys, List.isEmpty_iff.mp empty] at deferred
    cases deferred
  · split at performed
    · rename_i isOrder
      cases performed
      refine ⟨settleAll order views, ?_, ?_, ?_, ?_⟩
      · rw [expireDeferred_of_none]
        · exact shows.replayAll distinct
            (fun cid member => shows.known_of_ready (isOrder.mem_iff.mp member)) seen
        · intro cid entry found
          exact decide_eq_false
            (Nat.not_le.mpr (fresh cid entry (lookup_of_replayAll found)))
      · intro cid
        unfold settleAll
        split
        · exact settle_asked _
        · rfl
      · intro cid
        unfold settleAll
        split
        · exact settle_seen _
        · rfl
      · intro call listed asked
        unfold settleAll at asked ⊢
        split at asked
        · rename_i member
          rw [if_pos member]
          exact settle_waiting (by simpa using asked)
        · rename_i absent
          rw [if_neg absent]
          by_contra waits
          have isReady : call.cid ∈ monitor.ready := List.mem_filter.mpr
            ⟨shows.mem_deferred listed waits, shows.contains_of_waiting listed asked waits⟩
          exact absent (isOrder.mem_iff.mpr isReady)
    · cases performed

/-! ### Runs -/

/-- A response whose request is not known yet is deferred. -/
theorem Shows.hear_unasked (distinct : (calls.map ObservedCall.cid).Nodup) (listed : call ∈ calls)
    (own : header.correlationId = call.cid) (unasked : (views call.cid).asked = false)
    (limits : monitor.WithinLimits (.response channel header now oldest))
    (performed : monitor.onResponse channel header now oldest = some next) :
    Shows names calls
      (Function.update views call.cid
        { views call.cid with waiting := (views call.cid).waiting ++ [(channel, header)] })
      next := by
  have unknown : monitor.correlate.entries.lookup header.correlationId = none := by
    have tracked := shows.tracked call listed
    rw [ObservedCall.Tracks, ObservedCall.isTracked, unasked] at tracked
    rw [own]
    exact tracked
  rw [onResponse_of_unknown now oldest unknown limits.1] at performed
  cases performed
  have room : ∀ entry, (monitor.counted channel header).deferred.lookup call.cid =
      some entry → entry.samples.length < maxDeferredSamples := by
    intro entry found
    apply limits.2 entry
    rw [own]
    exact found
  have ownSample : ((channel, header) : String × RpcHeader).2.correlationId = call.cid := own
  exact (shows.counted channel header).hold distinct listed unasked ownSample room now

/-- A response whose request is known is accounted for: nothing of its call is
deferred, so it is the next one. -/
theorem Shows.hear_asked (distinct : (calls.map ObservedCall.cid).Nodup) (listed : call ∈ calls)
    (own : header.correlationId = call.cid) (asked : (views call.cid).asked = true)
    (seen : (views call.cid).done ++ (views call.cid).waiting ++ [(channel, header)] <+:
      call.responses) (settled : monitor.SettledFirst (.response channel header now oldest))
    (performed : monitor.onResponse channel header now oldest = some next) :
    (views call.cid).waiting = [] ∧
      Shows names calls
        (Function.update views call.cid
          { views call.cid with done := (views call.cid).done ++ [(channel, header)] })
        next := by
  have isTracked : call.isTracked (views call.cid) = true := by
    rw [List.append_assoc] at seen
    exact isTracked_of_prefix asked (List.concat_ne_nil _ _) seen
  obtain ⟨pending, entry⟩ := shows.entry listed isTracked
  rw [← own] at entry
  have nothing : (views call.cid).waiting = [] := by
    by_contra waits
    have contained : monitor.correlate.contains header.correlationId = true := by
      rw [Correlate.contains, entry]
      rfl
    have found : (monitor.deferred.lookup call.cid).isSome :=
      AList.lookup_isSome.mpr (shows.mem_deferred listed waits)
    rw [← own, settled contained] at found
    cases found
  rw [onResponse_of_tracked now oldest entry, own] at performed
  cases performed
  rw [nothing, List.append_nil] at seen
  exact ⟨nothing, (shows.counted channel header).replaySample distinct listed asked nothing
    seen⟩

/-- One step within the limits: the calls move on as their samples are drained, and
are settled when the deferred responses are resolved. -/
theorem Shows.step {action : MonitorAction} {actions : List MonitorAction}
    (distinct : (calls.map ObservedCall.cid).Nodup)
    (remaining : Remaining calls views (action :: actions)) (limits : monitor.WithinLimits action)
    (settled : monitor.SettledFirst action) (performed : monitor.step names action = some next) :
    ∃ after, Shows names calls after next ∧ Remaining calls after actions ∧
      ((∃ order now, action = .resolveDeferred order now) →
        ∀ call ∈ calls, (after call.cid).asked = true → (after call.cid).waiting = []) := by
  cases action with
  | request channel header payloadLen now oldest =>
      obtain ⟨call, listed, unasked, rfl, rfl⟩ := remaining.request rfl
      exact ⟨_, shows.ask distinct listed unasked limits performed,
        remaining.ask distinct listed unasked rfl rfl, nofun⟩
  | response channel header now oldest =>
      obtain ⟨call, listed, own, seen, later⟩ := remaining.hear distinct rfl rfl
      cases asked : (views call.cid).asked with
      | false =>
          have shown := shows.hear_unasked distinct listed own.symm asked limits performed
          refine ⟨_, shown, later _ rfl ?_, nofun⟩
          rw [List.append_assoc]
      | true =>
          obtain ⟨nothing, shown⟩ :=
            shows.hear_asked distinct listed own.symm asked seen settled performed
          refine ⟨_, shown, later _ rfl ?_, nofun⟩
          rw [nothing, List.append_nil, List.append_nil]
  | resolveDeferred order now =>
      obtain ⟨after, shown, asked, seen, waiting⟩ :=
        shows.resolve distinct (fun call listed => remaining.seen listed) limits performed
      exact ⟨after, shown, remaining.skip rfl rfl asked seen, fun _ => waiting⟩
  | sweep now =>
      have same := sweep_of_none limits
      cases performed
      rw [same]
      exact ⟨views, shows, remaining.skip rfl rfl (fun _ => rfl) fun _ => rfl, nofun⟩

/-- A run that ends with a resolution: every call that was asked is settled. -/
theorem Shows.drain {actions : List MonitorAction} {order : List CorrelationId} {final : Monitor}
    (distinct : (calls.map ObservedCall.cid).Nodup)
    (remaining : Remaining calls views (actions ++ [.resolveDeferred order now]))
    (limits : StepsMeet (Monitor.step names) WithinLimits monitor
      (actions ++ [.resolveDeferred order now]))
    (settled : StepsMeet (Monitor.step names) SettledFirst monitor
      (actions ++ [.resolveDeferred order now]))
    (performed : run (Monitor.step names) monitor (actions ++ [.resolveDeferred order now]) =
      some final) :
    ∃ after, Shows names calls after final ∧ Remaining calls after [] ∧
      ∀ call ∈ calls, (after call.cid).asked = true → (after call.cid).waiting = [] := by
  induction actions generalizing views monitor with
  | nil =>
      obtain ⟨next, first, rest⟩ := Option.bind_eq_some_iff.mp performed
      cases rest
      obtain ⟨after, shown, left, waiting⟩ :=
        shows.step distinct remaining limits.1 settled.1 first
      exact ⟨after, shown, left, waiting ⟨order, now, rfl⟩⟩
  | cons action actions ih =>
      obtain ⟨next, first, rest⟩ := Option.bind_eq_some_iff.mp performed
      obtain ⟨after, shown, left, -⟩ :=
        shows.step distinct remaining limits.1 settled.1 first
      exact ih shown left (limits.2 next first) (settled.2 next first) rest

end

end

/-! ### The verdict -/

/-- What the observer reports of a set of calls, in terms of the calls alone. -/
structure Verdict (names : MethodNames) (calls : List ObservedCall) (final : Monitor) :
    Prop where
  latency : ∀ key, (final.metrics.latency key).Perm
    ((calls.filter fun call => call.methodKey names = key).map ObservedCall.latencyNs)
  inflight : ∀ key, final.metrics.inflight key = 0
  orphan : ∀ channel, final.metrics.orphan channel = 0
  deferred : ∀ cid, final.deferred.lookup cid = none
  requests : ∀ key, final.metrics.requests key =
    (calls.map (ObservedCall.methodKey names)).count key
  responses : ∀ key, final.metrics.responses key =
    ((calls.flatMap ObservedCall.responses).map responseKey).count key
  unmatched : ∀ channel, final.metrics.unmatched channel = 0
  clockSkew : final.metrics.clockSkew = 0

theorem bag_of_single {β : Type} {share : ObservedCall → Standing → List β}
    {single : ObservedCall → β}
    (each : ∀ call ∈ calls, share call (views call.cid) = [single call]) :
    bag share calls views = calls.map single := by
  rw [bag, List.flatMap_congr each]
  exact List.flatMap_pure_eq_map single calls

/-- At the start everything is still to be drained. -/
theorem remaining_unseen {actions : List MonitorAction} (observed : Observes calls actions) :
    Remaining calls (fun _ => .unseen) actions := by
  constructor
  · rw [bag_of_single fun _ _ => rfl]
    exact observed.requests
  · intro call listed
    exact observed.inOrder call listed
  · intro action member response drained
    have sample : response ∈ actions.filterMap MonitorAction.responseSample :=
      List.mem_filterMap.mpr ⟨action, member, drained⟩
    obtain ⟨call, listed, own⟩ :=
      List.mem_flatMap.mp (observed.responses.mem_iff.mp sample)
    exact ⟨call, listed, (call.sameCall response own).symm⟩

/-- A resolution drains no sample. -/
theorem observes_resolve {actions : List MonitorAction} (observed : Observes calls actions)
    (order : List CorrelationId) (now : Nat) :
    Observes calls (actions ++ [.resolveDeferred order now]) := by
  refine ⟨observed.distinct, ?_, ?_, fun call listed => ?_⟩
  · rw [List.filterMap_append]
    exact (List.append_nil _).symm ▸ observed.requests
  · rw [List.filterMap_append]
    exact (List.append_nil _).symm ▸ observed.responses
  · rw [List.filterMap_append, observed.inOrder call listed]
    exact List.append_nil _

/-- A call of which nothing is left to drain, and nothing deferred, is finished. -/
theorem finished (remaining : Remaining calls views [])
    (settled : ∀ call ∈ calls, (views call.cid).asked = true → (views call.cid).waiting = []) :
    ∀ call ∈ calls, (views call.cid).asked = true ∧ (views call.cid).waiting = [] ∧
      (views call.cid).done = call.responses := by
  intro call listed
  have nothing := List.flatMap_eq_nil_iff.mp remaining.requests.nil_eq.symm call listed
  have asked : (views call.cid).asked = true := by
    by_contra unasked
    simp [ObservedCall.requestShare, unasked] at nothing
  have empty := settled call listed asked
  have seen := remaining.responses call listed
  rw [empty] at seen
  exact ⟨asked, empty, by simpa using seen⟩

theorem bag_flight_of_finished (finished : ∀ call ∈ calls, (views call.cid).done = call.responses) :
    bag ObservedCall.flightShare calls views = [] := by
  apply List.flatMap_eq_nil_iff.mpr
  intro call listed
  simp [ObservedCall.flightShare, ObservedCall.isTracked, finished call listed]

theorem bag_latency_of_finished {names : MethodNames}
    (finished : ∀ call ∈ calls, (views call.cid).done = call.responses) :
    bag (ObservedCall.latencyShare names) calls views =
      calls.map fun call => (call.methodKey names, call.latencyNs) := by
  apply bag_of_single
  intro call listed
  rw [ObservedCall.latencyShare, finished call listed, if_neg]
  rw [List.isEmpty_iff]
  exact call.responses_ne_nil

theorem ofKey_map (names : MethodNames) (key : String × UInt32 × String)
    (calls : List ObservedCall) :
    ofKey key (calls.map fun call => (call.methodKey names, call.latencyNs)) =
      (calls.filter fun call => call.methodKey names = key).map ObservedCall.latencyNs := by
  rw [ofKey, List.filter_map, List.map_map]
  rfl

end Monitor

/-- **Drain order.** Whatever the interleaving of the two directions and wherever the
deferred responses are resolved, the observer ends with the same metrics, told by the
calls alone: one latency each, that of its first response, nothing in flight, no
orphan and nothing deferred. -/
theorem drain_order_irrelevant (names : MethodNames) (max ttl : Nat)
    (calls : List ObservedCall) (actions : List MonitorAction)
    (order : List CorrelationId) (now : Nat) (final : Monitor)
    (observed : Observes calls actions)
    (performed : run (Monitor.step names) (Monitor.new max ttl)
      (actions ++ [.resolveDeferred order now]) = some final)
    (limits : StepsMeet (Monitor.step names) Monitor.WithinLimits (Monitor.new max ttl)
      (actions ++ [.resolveDeferred order now]))
    (settled : StepsMeet (Monitor.step names) Monitor.SettledFirst (Monitor.new max ttl)
      (actions ++ [.resolveDeferred order now])) :
    Monitor.Verdict names calls final := by
  have whole := Monitor.observes_resolve observed order now
  obtain ⟨views, shows, remaining, waiting⟩ :=
    (Monitor.shows_new names calls max ttl).drain observed.distinct
      (Monitor.remaining_unseen whole) limits settled performed
  have all := Monitor.finished remaining waiting
  have done := fun call listed => (all call listed).2.2
  obtain ⟨requests, responses⟩ := Monitor.run_traffic performed
  refine
    { latency := ?_, inflight := ?_, orphan := shows.adopted, deferred := ?_,
      requests := ?_, responses := ?_, unmatched := shows.matched,
      clockSkew := shows.inTime }
  · intro key
    have observations := shows.latency key
    rwa [Monitor.bag_latency_of_finished done, Monitor.ofKey_map] at observations
  · intro key
    rw [shows.inflight key, Monitor.bag_flight_of_finished done]
    rfl
  · intro cid
    by_cases known : cid ∈ calls.map ObservedCall.cid
    · obtain ⟨call, listed, rfl⟩ := List.mem_map.mp known
      exact (Standing.holds_of_settled (all call listed).2.1).mp (shows.held call listed)
    · exact shows.strange cid known
  · intro key
    rw [requests key]
    exact (requestKeys_perm names whole).count_eq key
  · intro key
    rw [responses key]
    exact (responseKeys_perm whole).count_eq key

/-- The request of a stream of one value. -/
def streamRequest : RpcHeader := .request (Vector.replicate 16 7) 1 2 1 10

/-- A sample of the stream. -/
def streamSample (kind : EventKind) (timestampNs : UInt64) : RpcHeader :=
  .responseFrom streamRequest kind 1 timestampNs

/-- A stream of one value, observed five nanoseconds after the request and ended
twenty after it. -/
def streamCall : ObservedCall where
  channel := "Svc"
  request := streamRequest
  responses := [("Svc", streamSample .next 15), ("Svc", streamSample .complete 30)]
  isRequest := rfl
  sameCall := by decide
  ends := ⟨[("Svc", streamSample .next 15)], _, rfl, by decide, rfl⟩
  notBefore := by decide

/-- The value is drained before the request and resolved before the end is. -/
def settledDrain : List MonitorAction :=
  [.response "Svc" (streamSample .next 15) 0 none,
    .request "Svc" streamRequest 0 0 none,
    .resolveDeferred [streamRequest.correlationId] 0,
    .response "Svc" (streamSample .complete 30) 0 none]

/-- The value is drained before the request, and the end before the resolution. -/
def overtakenDrain : List MonitorAction :=
  [.response "Svc" (streamSample .next 15) 0 none,
    .request "Svc" streamRequest 0 0 none,
    .response "Svc" (streamSample .complete 30) 0 none]

/-- At the first instant nothing has waited too long. -/
theorem withinLimits_start (monitor : Monitor) (order : List CorrelationId) :
    monitor.WithinLimits (.resolveDeferred order 0) := by
  intro cid entry _
  rw [Nat.zero_sub]
  decide

theorem drain_order_irrelevant_settled :
    ∃ final, run (Monitor.step fun _ _ => some "ping") (.new 8 100)
        (settledDrain ++ [.resolveDeferred [] 0]) = some final ∧
      Monitor.Verdict (fun _ _ => some "ping") [streamCall] final := by
  obtain ⟨final, performed⟩ : ∃ final, run (Monitor.step fun _ _ => some "ping")
      (.new 8 100) (settledDrain ++ [.resolveDeferred [] 0]) = some final := ⟨_, rfl⟩
  refine ⟨final, performed, drain_order_irrelevant _ 8 100 [streamCall] settledDrain [] 0 _
    ⟨by decide, List.Perm.refl _, List.Perm.refl _, ?_⟩ performed ?_ ?_⟩
  · intro call listed
    cases List.mem_singleton.mp listed
    rfl
  · refine ⟨⟨by decide, nofun⟩, ?_⟩
    rintro _ ⟨⟩
    refine ⟨Nat.zero_lt_succ 7, ?_⟩
    rintro _ ⟨⟩
    refine ⟨withinLimits_start _ _, ?_⟩
    rintro _ ⟨⟩
    refine ⟨⟨by decide, nofun⟩, ?_⟩
    rintro _ ⟨⟩
    exact ⟨withinLimits_start _ _, fun _ _ => trivial⟩
  · refine ⟨nofun, ?_⟩
    rintro _ ⟨⟩
    refine ⟨trivial, ?_⟩
    rintro _ ⟨⟩
    refine ⟨trivial, ?_⟩
    rintro _ ⟨⟩
    refine ⟨fun _ => rfl, ?_⟩
    rintro _ ⟨⟩
    exact ⟨trivial, fun _ _ => trivial⟩

/-- The same samples, with the end drained before the resolution: the latency is that
of the end, fifteen nanoseconds too long, and the value stays deferred. -/
theorem drain_order_overtaken :
    Observes [streamCall] overtakenDrain ∧
    StepsMeet (Monitor.step fun _ _ => some "ping") Monitor.WithinLimits (.new 8 100)
      (overtakenDrain ++ [.resolveDeferred [] 0]) ∧
    ∃ final, run (Monitor.step fun _ _ => some "ping") (.new 8 100)
        (overtakenDrain ++ [.resolveDeferred [] 0]) = some final ∧
      final.metrics.latency (streamCall.methodKey fun _ _ => some "ping") = [20] ∧
      streamCall.latencyNs = 5 ∧
      (final.deferred.lookup streamCall.cid).isSome ∧
      ¬ Monitor.Verdict (fun _ _ => some "ping") [streamCall] final := by
  refine ⟨⟨by decide, List.Perm.refl _, List.Perm.refl _, ?_⟩, ?_, _, rfl, by decide, rfl,
    by decide, ?_⟩
  · intro call listed
    cases List.mem_singleton.mp listed
    rfl
  · refine ⟨⟨by decide, nofun⟩, ?_⟩
    rintro _ ⟨⟩
    refine ⟨Nat.zero_lt_succ 7, ?_⟩
    rintro _ ⟨⟩
    refine ⟨⟨by decide, ?_⟩, ?_⟩
    · rintro _ ⟨⟩
      decide
    rintro _ ⟨⟩
    exact ⟨withinLimits_start _ _, fun _ _ => trivial⟩
  · intro verdict
    have settled := verdict.deferred streamCall.cid
    revert settled
    decide

end IceRpc
