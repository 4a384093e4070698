/-
Module: IceRpc.Proofs.MonitorTraffic
Purpose: After every run of the observer its traffic counters count what was drained,
  key by key, whatever was evicted, deferred or swept on the way.
Trusted boundary: none
Main exports: Monitor.counted, Monitor.onResponse_of_tracked,
  Monitor.onResponse_of_untracked, Monitor.SameTraffic, Monitor.step_traffic,
  Monitor.run_traffic, requestKeys_perm, responseKeys_perm
-/
import IceRpc.Proofs.ObservedCalls

namespace IceRpc

open Lib

namespace Monitor

/-- The observer with one response more counted. -/
def counted (monitor : Monitor) (channel : String) (header : RpcHeader) : Monitor :=
  { monitor with
    metrics := monitor.metrics.onResponse channel header.serviceId header.eventKind.label }

section

variable {monitor : Monitor} {channel : String} {header : RpcHeader} {call : PendingCall}

/-- A response of a tracked call is accounted for at once. -/
theorem onResponse_of_tracked (now : Nat) (oldest : Option CorrelationId)
    (found : monitor.correlate.entries.lookup header.correlationId = some call) :
    monitor.onResponse channel header now oldest =
      some ((monitor.counted channel header).replaySample header.correlationId header) := by
  have foundCounted : (monitor.counted channel header).correlate.entries.lookup
      header.correlationId = some call := found
  simp only [onResponse, replaySample, onResponse_of_lookup _ found,
    onResponse_of_lookup _ foundCounted]
  rfl

/-- A response of a call that is not tracked is deferred. -/
theorem onResponse_of_untracked (now : Nat) (oldest : Option CorrelationId)
    (unknown : monitor.correlate.entries.lookup header.correlationId = none) :
    monitor.onResponse channel header now oldest =
      (monitor.counted channel header).deferResponse channel header now oldest := by
  simp only [onResponse, Correlate.onResponse, unknown]
  rfl

end

/-- Neither a request nor a response more is counted. -/
structure SameTraffic (monitor next : Monitor) : Prop where
  requests : next.metrics.requests = monitor.metrics.requests
  responses : next.metrics.responses = monitor.metrics.responses

theorem SameTraffic.trans {first second third : Monitor} (one : SameTraffic first second)
    (two : SameTraffic second third) : SameTraffic first third :=
  ⟨two.requests.trans one.requests, two.responses.trans one.responses⟩

/-- A fold of steps that count no traffic counts none. -/
theorem SameTraffic.foldl {α : Type} {step : Monitor → α → Monitor}
    (each : ∀ monitor item, SameTraffic monitor (step monitor item)) (items : List α)
    (monitor : Monitor) : SameTraffic monitor (items.foldl step monitor) where
  requests := foldl_keeps (fun monitor => monitor.metrics.requests)
    (fun monitor item => (each monitor item).requests) items monitor
  responses := foldl_keeps (fun monitor => monitor.metrics.responses)
    (fun monitor item => (each monitor item).responses) items monitor

theorem completeResponse_traffic (monitor : Monitor) (header : RpcHeader)
    (call : PendingCall) : SameTraffic monitor (monitor.completeResponse header call) := by
  unfold completeResponse
  constructor <;> dsimp only <;> split <;> (try split) <;> (try split) <;> rfl

theorem replaySample_traffic (cid : CorrelationId) (monitor : Monitor)
    (header : RpcHeader) : SameTraffic monitor (monitor.replaySample cid header) := by
  unfold replaySample
  split
  · refine SameTraffic.trans ?_ (completeResponse_traffic _ _ _)
    exact ⟨rfl, rfl⟩
  · exact ⟨rfl, rfl⟩

theorem replay_traffic (monitor : Monitor) (cid : CorrelationId) :
    SameTraffic monitor (monitor.replay cid) := by
  unfold replay
  split
  · exact ⟨rfl, rfl⟩
  · refine SameTraffic.trans ?_ (SameTraffic.foldl (replaySample_traffic cid) _ _)
    exact ⟨rfl, rfl⟩

theorem dropDeferred_traffic (monitor : Monitor) (cid : CorrelationId) :
    SameTraffic monitor (monitor.dropDeferred cid) := by
  unfold dropDeferred
  split <;> exact ⟨rfl, rfl⟩

theorem holdResponse_traffic (monitor : Monitor) (channel : String) (header : RpcHeader)
    (now : Nat) : SameTraffic monitor (monitor.holdResponse channel header now) := by
  unfold holdResponse
  dsimp only
  split
  · exact ⟨rfl, rfl⟩
  · split
    · exact dropDeferred_traffic _ _
    · exact ⟨rfl, rfl⟩

theorem deferResponse_traffic {monitor next : Monitor} {channel : String}
    {header : RpcHeader} {now : Nat} {oldest : Option CorrelationId}
    (performed : monitor.deferResponse channel header now oldest = some next) :
    SameTraffic monitor next := by
  obtain ⟨bounded, isBounded, rfl⟩ := Option.map_eq_some_iff.mp performed
  refine SameTraffic.trans ?_ (holdResponse_traffic bounded channel header now)
  unfold boundDeferred at isBounded
  split at isBounded
  · split at isBounded
    · split at isBounded
      · cases isBounded
        exact ⟨rfl, rfl⟩
      · cases isBounded
        exact dropDeferred_traffic _ _
    · cases isBounded
  · cases isBounded
    exact ⟨rfl, rfl⟩

/-- Nor does giving up calls count traffic. -/
theorem giveUp_traffic (calls : List PendingCall) (metrics : Metrics) :
    (calls.foldl giveUp metrics).requests = metrics.requests ∧
      (calls.foldl giveUp metrics).responses = metrics.responses := by
  constructor
  · exact foldl_keeps _ (by intros; rfl) calls metrics
  · exact foldl_keeps _ (by intros; rfl) calls metrics

theorem expireDeferred_traffic (monitor : Monitor) (now : Nat) :
    SameTraffic monitor (monitor.expireDeferred now) := by
  constructor
  · exact foldl_keeps Metrics.requests (by intros; rfl) _ _
  · exact foldl_keeps Metrics.responses (by intros; rfl) _ _

theorem resolveDeferred_traffic {monitor next : Monitor} {order : List CorrelationId}
    {now : Nat} (performed : monitor.resolveDeferred order now = some next) :
    SameTraffic monitor next := by
  unfold resolveDeferred at performed
  split at performed
  · cases performed
    exact ⟨rfl, rfl⟩
  · split at performed
    · cases performed
      have replayed := SameTraffic.foldl replay_traffic order monitor
      exact replayed.trans (expireDeferred_traffic _ now)
    · cases performed

end Monitor

/-- The key of a request counter; other kinds are not counted. -/
def requestKey (names : MethodNames) (request : String × RpcHeader) :
    Option (String × UInt32 × String) :=
  if request.2.eventKind = .request then
    some (request.1, request.2.serviceId, methodOf names request.2)
  else none

/-- The key under which a drained request is counted. -/
def MonitorAction.requestKey (names : MethodNames) (action : MonitorAction) :
    Option (String × UInt32 × String) :=
  action.requestSample.bind (IceRpc.requestKey names)

/-- The key under which a drained response is counted. -/
def MonitorAction.responseKey (action : MonitorAction) :
    Option (String × UInt32 × String) :=
  action.responseSample.map IceRpc.responseKey

namespace Monitor

theorem update_succ_eq {κ : Type} [DecidableEq κ] [BEq κ] [LawfulBEq κ]
    (counter : κ → Nat) (own key : κ) :
    Function.update counter own (counter own + 1) key = counter key + [own].count key := by
  by_cases same : key = own
  · subst same
    simp
  · simp [Function.update_of_ne same, Ne.symm same]

/-- A step counts the sample it drains, and no other traffic. -/
theorem step_traffic {names : MethodNames} {monitor next : Monitor}
    {action : MonitorAction} (performed : monitor.step names action = some next) :
    (∀ key, next.metrics.requests key =
      monitor.metrics.requests key + (action.requestKey names).toList.count key) ∧
    ∀ key, next.metrics.responses key =
      monitor.metrics.responses key + action.responseKey.toList.count key := by
  cases action with
  | request channel header payloadLen now oldest =>
      simp only [Monitor.step, onRequest] at performed
      by_cases isRequest : header.eventKind = .request
      · simp only [isRequest, ne_eq, not_true_eq_false, if_false] at performed
        obtain ⟨inserted, -, rfl⟩ := Option.map_eq_some_iff.mp performed
        have kept := giveUp_traffic inserted.1
          ((monitor.metrics.onRequest channel header.serviceId
            (methodOf names header)).onInflight channel header.serviceId 1)
        dsimp only
        rw [kept.1, kept.2]
        have key_eq : MonitorAction.requestKey names
            (.request channel header payloadLen now oldest) =
            some (channel, header.serviceId, methodOf names header) := by
          simp [MonitorAction.requestKey, MonitorAction.requestSample, requestKey, isRequest]
        rw [key_eq]
        exact ⟨fun key => update_succ_eq _ _ key, fun _ => rfl⟩
      · simp only [ne_eq, isRequest, not_false_eq_true, if_true] at performed
        cases performed
        have key_eq : MonitorAction.requestKey names
            (.request channel header payloadLen now oldest) = none := by
          simp [MonitorAction.requestKey, MonitorAction.requestSample, requestKey, isRequest]
        rw [key_eq]
        exact ⟨fun _ => rfl, fun _ => rfl⟩
  | response channel header now oldest =>
      have kept : SameTraffic (monitor.counted channel header) next := by
        simp only [Monitor.step] at performed
        cases found : monitor.correlate.entries.lookup header.correlationId with
        | some call =>
            rw [onResponse_of_tracked now oldest found] at performed
            cases performed
            apply replaySample_traffic
        | none =>
            rw [onResponse_of_untracked now oldest found] at performed
            exact deferResponse_traffic performed
      rw [kept.requests, kept.responses]
      exact ⟨fun _ => rfl, fun key => update_succ_eq _ _ key⟩
  | resolveDeferred order now =>
      have kept := resolveDeferred_traffic performed
      rw [kept.requests, kept.responses]
      exact ⟨fun _ => rfl, fun _ => rfl⟩
  | sweep now =>
      cases performed
      have kept := giveUp_traffic (monitor.correlate.sweep now).1 monitor.metrics
      exact ⟨fun key => congrFun kept.1 key, fun key => congrFun kept.2 key⟩

/-- After every run the traffic counters count what was drained. -/
theorem run_traffic {names : MethodNames} {max ttl : Nat} {actions : List MonitorAction}
    {final : Monitor}
    (performed : run (Monitor.step names) (new max ttl) actions = some final) :
    (∀ key, final.metrics.requests key =
      (actions.filterMap (MonitorAction.requestKey names)).count key) ∧
    ∀ key, final.metrics.responses key =
      (actions.filterMap MonitorAction.responseKey).count key := by
  refine run_history_invariant (fun past monitor =>
    (∀ key, monitor.metrics.requests key =
      (past.filterMap (MonitorAction.requestKey names)).count key) ∧
    ∀ key, monitor.metrics.responses key =
      (past.filterMap MonitorAction.responseKey).count key) ?_ ?_ performed
  · exact ⟨fun _ => rfl, fun _ => rfl⟩
  · intro past monitor action next counts moved
    obtain ⟨requests, responses⟩ := step_traffic moved
    constructor
    · intro key
      rw [requests key, counts.1 key, List.filterMap_append, List.count_append]
      cases drained : action.requestKey names <;> simp [drained]
    · intro key
      rw [responses key, counts.2 key, List.filterMap_append, List.count_append]
      cases drained : action.responseKey <;> simp [drained]

end Monitor

theorem requestKeys_perm (names : MethodNames) {calls : List ObservedCall}
    {actions : List MonitorAction} (observed : Observes calls actions) :
    (actions.filterMap (MonitorAction.requestKey names)).Perm
      (calls.map (ObservedCall.methodKey names)) := by
  have counted := observed.requests.filterMap (requestKey names)
  rw [List.filterMap_filterMap, List.filterMap_map] at counted
  have each : requestKey names ∘ (fun call : ObservedCall => (call.channel, call.request)) =
      some ∘ ObservedCall.methodKey names := by
    funext call
    exact if_pos call.isRequest
  rwa [each, List.filterMap_eq_map] at counted

theorem responseKeys_perm {calls : List ObservedCall} {actions : List MonitorAction}
    (observed : Observes calls actions) :
    (actions.filterMap MonitorAction.responseKey).Perm
      ((calls.flatMap ObservedCall.responses).map responseKey) := by
  have counted := observed.responses.map responseKey
  rw [List.map_filterMap] at counted
  exact counted

end IceRpc
