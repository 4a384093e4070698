/-
Module: IceRpc.Proofs.MonitorBalance
Purpose: What becomes of every call the observer opens: it is tracked, closed by a
  terminal, or given up as unmatched, by eviction or by a sweep; and the gauge counts
  the tracked ones.
Trusted boundary: none
Main exports: Monitor.Balances, Monitor.step_balances, Monitor.run_balances, Balanced,
  calls_conserved
-/
import Mathlib.Data.List.MinMax
import IceRpc.Proofs.MonitorLedger

namespace IceRpc

open Lib

/-- The key of a call's gauge. -/
def PendingCall.serviceKey (call : PendingCall) : String × UInt32 :=
  (call.channel, call.serviceId)

/-- The key of the call that a sample closed. -/
def Fate.closing : Fate → Option (String × UInt32)
  | .matched call header =>
      if header.eventKind.isTerminal then some call.serviceKey else none
  | _ => none

/-- The keys of the calls that were closed by a terminal. -/
def closedKeys (fates : List Fate) : List (String × UInt32) := fates.filterMap Fate.closing

/-- The request that a step drains, if the sample is one. -/
def MonitorAction.opening (action : MonitorAction) : Option (String × RpcHeader) :=
  action.requestSample.filter fun request => request.2.eventKind = .request

/-- The key of the gauge a request counts on. -/
def openedKey (request : String × RpcHeader) : String × UInt32 :=
  (request.1, request.2.serviceId)

namespace Monitor

variable {channel : String} {header : RpcHeader} {now : Nat} {oldest : Option CorrelationId}
  {cid : CorrelationId} {names : MethodNames}

/-- The keys of the calls in the table. -/
def trackedKeys (monitor : Monitor) : List (String × UInt32) :=
  (values monitor.correlate.entries).map PendingCall.serviceKey

/-- From one state of the observer to another, with some requests drained, some calls
closed and some given up: every call is where it was or has one of these ends, and each
end is in the counters. -/
structure Balances (monitor next : Monitor) (opened : List (String × RpcHeader))
    (closed gone : List (String × UInt32)) : Prop where
  calls : (next.trackedKeys ++ (closed ++ gone)).Perm
    (monitor.trackedKeys ++ opened.map openedKey)
  gauge : ∀ key, next.metrics.inflight key + ((closed ++ gone).count key : Nat) =
    monitor.metrics.inflight key + ((opened.map openedKey).count key : Nat)
  unmatched : ∀ channel, next.metrics.unmatched channel =
    monitor.metrics.unmatched channel + (gone.map Prod.fst).count channel
  ids : next.correlate.entries.keys ⊆
    monitor.correlate.entries.keys ++ opened.map fun request => request.2.correlationId
  max : next.correlate.max = monitor.correlate.max
  within : 1 ≤ monitor.correlate.max →
    monitor.correlate.entries.len ≤ monitor.correlate.max →
    next.correlate.entries.len ≤ monitor.correlate.max

namespace Balances

variable {monitor middle next : Monitor} {opened more : List (String × RpcHeader)}
  {closed shut gone lost : List (String × UInt32)}

/-- What changes neither the table nor the two counters opens and ends nothing. -/
theorem of_same (correlate : next.correlate = monitor.correlate)
    (inflight : next.metrics.inflight = monitor.metrics.inflight)
    (unmatched : next.metrics.unmatched = monitor.metrics.unmatched) :
    Balances monitor next [] [] [] := by
  constructor
  · simp [trackedKeys, correlate]
  · simp [inflight]
  · simp [unmatched]
  · simp [correlate]
  · rw [correlate]
  · rw [correlate]
    exact fun _ within => within

theorem trans (first : Balances monitor middle opened closed gone)
    (second : Balances middle next more shut lost) :
    Balances monitor next (opened ++ more) (closed ++ shut) (gone ++ lost) := by
  constructor
  · rw [List.perm_iff_count]
    intro key
    have before := first.calls.count_eq key
    have after := second.calls.count_eq key
    simp only [List.map_append, List.count_append] at before after ⊢
    omega
  · intro key
    have before := first.gauge key
    have after := second.gauge key
    simp only [List.map_append, List.count_append] at before after ⊢
    omega
  · intro channel
    rw [second.unmatched, first.unmatched, List.map_append, List.count_append]
    omega
  · intro cid listed
    have after := second.ids listed
    have before := @first.ids cid
    simp only [List.map_append, List.mem_append] at after before ⊢
    tauto
  · rw [second.max, first.max]
  · intro capacity within
    rw [← first.max]
    have before := first.within capacity within
    rw [← first.max] at capacity before
    exact second.within capacity before

end Balances

/-! ### The table -/

theorem keys_retain_subset {V : Type} (map : CidMap V) (keep : CorrelationId → V → Bool) :
    (map.retain keep).keys ⊆ map.keys := by
  apply List.Sublist.subset
  exact List.Sublist.map _ List.filter_sublist

theorem len_eq_length {V : Type} (map : CidMap V) : map.len = (values map).length :=
  (List.length_map _).symm

/-- The room that is made for a call: the oldest one goes if the table is full. -/
structure Room (table : Correlate) (evicted : List PendingCall)
    (kept : CidMap PendingCall) : Prop where
  values : (values kept ++ evicted).Perm (values table.entries)
  lookup : ∀ cid, table.entries.lookup cid = none → kept.lookup cid = none
  keys : kept.keys ⊆ table.entries.keys
  within : 1 ≤ table.max → table.entries.len ≤ table.max → kept.len < table.max

theorem insert_room {table after : Correlate} {call : PendingCall} {evicted : List PendingCall}
    (inserted : table.insert cid call oldest = some (evicted, after)) :
    ∃ kept, Room table evicted kept ∧
      after = { table with entries := kept.insert cid call } := by
  unfold Correlate.insert at inserted
  split_ifs at inserted with full isOldest
  · cases oldest with
    | none =>
        -- only an empty table has no oldest call
        cases inserted
        have nothing : table.entries.entries = [] := List.isEmpty_iff.mp isOldest
        have empty : table.entries.len = 0 := congrArg List.length nothing
        refine ⟨table.entries, ⟨?_, fun _ => id, fun _ => id, fun capacity _ => ?_⟩, rfl⟩
        · rw [List.append_nil]
        · omega
    | some old =>
        cases inserted
        refine ⟨table.entries.erase old, ?_, rfl⟩
        cases found : table.entries.lookup old with
        | none => simp [CidMap.isOldest, found] at isOldest
        | some value =>
            have split := values_perm_of_some found
            refine ⟨?_, fun other absent => ?_, ?_, fun _ within => ?_⟩
            · exact (List.perm_append_singleton value _).trans split.symm
            · by_cases same : other = old
              · rw [same]
                exact AList.lookup_erase ..
              · rw [AList.lookup_erase_ne same]
                exact absent
            · intro other listed
              exact (AList.mem_erase.mp (AList.mem_keys.mpr listed)).2
            · have shorter := split.length_eq
              rw [List.length_cons, ← len_eq_length, ← len_eq_length] at shorter
              omega
  · cases inserted
    refine ⟨table.entries, ⟨?_, fun _ => id, fun _ => id, fun _ _ => ?_⟩, rfl⟩
    · rw [List.append_nil]
    · omega

theorem giveUp_inflight (metrics : Metrics) (call : PendingCall) (key : String × UInt32) :
    (giveUp metrics call).inflight key + ([call.serviceKey].count key : Nat) =
      metrics.inflight key := by
  by_cases same : key = call.serviceKey
  · subst same
    simp [giveUp, Metrics.onInflight, Metrics.onUnmatchedRequest, PendingCall.serviceKey]
  · have other : key ≠ (call.channel, call.serviceId) := same
    simp [giveUp, Metrics.onInflight, Metrics.onUnmatchedRequest,
      Function.update_of_ne other, Ne.symm same]

theorem giveUp_unmatched (metrics : Metrics) (call : PendingCall) (channel : String) :
    (giveUp metrics call).unmatched channel =
      metrics.unmatched channel + [call.channel].count channel := by
  by_cases same : channel = call.channel
  · subst same
    simp [giveUp, Metrics.onInflight, Metrics.onUnmatchedRequest]
  · simp [giveUp, Metrics.onInflight, Metrics.onUnmatchedRequest,
      Function.update_of_ne same, Ne.symm same]

/-- Calls given up leave the gauge and are counted as unmatched. -/
theorem foldl_giveUp (calls : List PendingCall) (metrics : Metrics) :
    (∀ key, (calls.foldl giveUp metrics).inflight key +
        ((calls.map PendingCall.serviceKey).count key : Nat) = metrics.inflight key) ∧
      ∀ channel, (calls.foldl giveUp metrics).unmatched channel =
        metrics.unmatched channel +
          ((calls.map PendingCall.serviceKey).map Prod.fst).count channel := by
  induction calls generalizing metrics with
  | nil => exact ⟨fun _ => Int.add_zero _, fun _ => rfl⟩
  | cons call calls ih =>
      obtain ⟨gauge, unmatched⟩ := ih (giveUp metrics call)
      constructor
      · intro key
        have here := giveUp_inflight metrics call key
        have rest := gauge key
        have split : ((call :: calls).map PendingCall.serviceKey).count key =
            [call.serviceKey].count key + (calls.map PendingCall.serviceKey).count key := by
          rw [← List.count_append]
          rfl
        rw [List.foldl_cons, split]
        omega
      · intro channel
        have split : (((call :: calls).map PendingCall.serviceKey).map Prod.fst).count channel =
            [call.channel].count channel +
              ((calls.map PendingCall.serviceKey).map Prod.fst).count channel := by
          rw [← List.count_append]
          rfl
        rw [List.foldl_cons, unmatched, giveUp_unmatched, split, Nat.add_assoc]

/-! ### The functions -/

section Functions

variable {monitor next : Monitor}

/-- A request of an id that is not tracked opens a call and evicts at most one. -/
theorem onRequest_balances {payloadLen : Nat} (isRequest : header.eventKind = .request)
    (fresh : monitor.correlate.entries.lookup header.correlationId = none)
    (performed : monitor.onRequest names channel header payloadLen now oldest = some next) :
    ∃ gone, Balances monitor next [(channel, header)] [] gone := by
  simp only [onRequest, isRequest, ne_eq, not_true_eq_false, if_false] at performed
  obtain ⟨⟨evicted, after⟩, inserted, rfl⟩ := Option.map_eq_some_iff.mp performed
  obtain ⟨kept, room, rfl⟩ := insert_room inserted
  have absent := room.lookup _ fresh
  obtain ⟨gauge, unmatched⟩ := foldl_giveUp evicted
    ((monitor.metrics.onRequest channel header.serviceId (methodOf names header)).onInflight
      channel header.serviceId 1)
  refine ⟨evicted.map PendingCall.serviceKey, ?_⟩
  constructor
  · simp only [trackedKeys, values_insert, erase_of_lookup_none absent, List.nil_append,
      List.map_cons, List.map_nil, List.cons_append]
    rw [← List.map_append]
    exact ((room.values.map _).cons _).trans (List.perm_append_singleton _ _).symm
  · intro key
    rw [List.nil_append, gauge key]
    by_cases same : key = (channel, header.serviceId)
    · subst same
      simp [Metrics.onInflight, Metrics.onRequest, openedKey]
    · simp [Metrics.onInflight, Metrics.onRequest, openedKey, Function.update_of_ne same,
        Ne.symm same]
  · exact unmatched
  · intro cid listed
    rw [List.map_cons, List.map_nil, List.mem_append, List.mem_singleton]
    rcases (AList.mem_insert _).mp (AList.mem_keys.mpr listed) with rfl | other
    · exact .inr rfl
    · exact .inl (room.keys other)
  · rfl
  · intro capacity within
    have smaller := room.within capacity within
    rw [len_eq_length] at smaller ⊢
    simp only [values_insert, erase_of_lookup_none absent, List.length_cons]
    omega

/-- A sample of the request direction that is no request changes nothing. -/
theorem onRequest_of_other {payloadLen : Nat} (other : header.eventKind ≠ .request)
    (performed : monitor.onRequest names channel header payloadLen now oldest = some next) :
    next = monitor := by
  rw [onRequest, if_pos other] at performed
  exact (Option.some.inj performed).symm

/-- A sweep gives up the calls it takes out of the table. -/
theorem sweep_balances (monitor : Monitor) (now : CorrelationId → Nat) :
    ∃ gone, Balances monitor (monitor.sweep now) [] [] gone := by
  obtain ⟨gauge, unmatched⟩ := foldl_giveUp (monitor.correlate.sweep now).1 monitor.metrics
  have split := (List.filter_append_perm (fun entry =>
    decide (monitor.correlate.ttl ≤ now entry.1 - entry.2.started))
    monitor.correlate.entries.entries).map Sigma.snd
  refine ⟨(monitor.correlate.sweep now).1.map PendingCall.serviceKey, ?_⟩
  constructor
  · rw [List.map_append] at split
    simp only [trackedKeys, List.nil_append, List.map_nil, List.append_nil]
    rw [← List.map_append]
    exact (List.perm_append_comm.trans split).map _
  · intro key
    rw [List.nil_append]
    exact (gauge key).trans (Int.add_zero _).symm
  · exact unmatched
  · rw [List.map_nil, List.append_nil]
    exact keys_retain_subset ..
  · rfl
  · intro _ within
    exact (List.length_filter_le _ _).trans within

theorem closedKeys_matched (call : PendingCall) (header : RpcHeader) :
    closedKeys [.matched call header] =
      if header.eventKind.isTerminal then [call.serviceKey] else [] := by
  cases ends : header.eventKind.isTerminal <;> simp [closedKeys, Fate.closing, ends]

/-- A response that is accounted for takes its call off the gauge if it is terminal. -/
theorem completeResponse_counters (monitor : Monitor) (header : RpcHeader)
    (call : PendingCall) :
    (∀ key, (monitor.completeResponse header call).metrics.inflight key +
        ((closedKeys [.matched call header]).count key : Nat) =
          monitor.metrics.inflight key) ∧
      (monitor.completeResponse header call).metrics.unmatched =
        monitor.metrics.unmatched := by
  -- the latency and the skew are counters of their own
  obtain ⟨metrics, isMetrics, inflight, unmatched⟩ : ∃ metrics : Metrics,
      (monitor.completeResponse header call).metrics =
        (if header.eventKind.isTerminal then
          metrics.onInflight call.channel call.serviceId (-1) else metrics) ∧
      metrics.inflight = monitor.metrics.inflight ∧
      metrics.unmatched = monitor.metrics.unmatched := by
    refine ⟨_, rfl, ?_, ?_⟩ <;> split_ifs <;> rfl
  rw [isMetrics, closedKeys_matched, ← inflight, ← unmatched]
  cases header.eventKind.isTerminal with
  | true => exact ⟨giveUp_inflight metrics call, rfl⟩
  | false => exact ⟨fun _ => Int.add_zero _, rfl⟩

/-- The table when a response of a tracked call is accounted for. -/
structure Answered (table after : Correlate) (closed : List (String × UInt32)) : Prop where
  calls : ((values after.entries).map PendingCall.serviceKey ++ closed).Perm
    ((values table.entries).map PendingCall.serviceKey)
  keys : after.entries.keys ⊆ table.entries.keys
  max : after.max = table.max

theorem Answered.len_le {table after : Correlate} {closed : List (String × UInt32)}
    (answered : Answered table after closed) : after.entries.len ≤ table.entries.len := by
  have shorter := answered.calls.length_eq
  rw [List.length_append, List.length_map, List.length_map] at shorter
  rw [len_eq_length, len_eq_length]
  omega

theorem onResponse_answered {table : Correlate} {call : PendingCall} (header : RpcHeader)
    (found : table.entries.lookup cid = some call) :
    Answered table (table.onResponse cid header.eventKind.isTerminal).2
      (closedKeys [.matched call header]) := by
  have split := (values_perm_of_some found).map PendingCall.serviceKey
  have listed : cid ∈ table.entries.keys := by
    apply AList.mem_keys.mp
    exact AList.lookup_isSome.mp (by rw [found]; rfl)
  rw [onResponse_of_lookup _ found, closedKeys_matched]
  cases header.eventKind.isTerminal with
  | true =>
      refine ⟨?_, fun other kept => ?_, rfl⟩
      · exact (List.perm_append_singleton _ _).trans split.symm
      · exact (AList.mem_erase.mp (AList.mem_keys.mpr kept)).2
  | false =>
      refine ⟨?_, fun other kept => ?_, rfl⟩
      · simp only [Bool.false_eq_true, if_false, List.append_nil, values_insert,
          List.map_cons]
        exact split.symm
      · rcases (AList.mem_insert _).mp (AList.mem_keys.mpr kept) with rfl | before
        · exact listed
        · exact before

/-- A response of a tracked call closes it if it is terminal. -/
theorem replaySample_balances {call : PendingCall} (header : RpcHeader)
    (found : monitor.correlate.entries.lookup cid = some call) :
    Balances monitor (replaySample cid monitor header) []
      (closedKeys [.matched call header]) [] := by
  have answered := onResponse_answered header found
  rw [onResponse_of_lookup _ found] at answered
  simp only [replaySample, onResponse_of_lookup _ found]
  obtain ⟨gauge, unmatched⟩ := completeResponse_counters { monitor with
    correlate := { monitor.correlate with
      entries :=
        if header.eventKind.isTerminal then monitor.correlate.entries.erase cid
        else monitor.correlate.entries.insert cid
          { call with firstResponseSeen := true } } } header call
  constructor
  · simp only [trackedKeys, completeResponse_correlate, List.append_nil, List.map_nil]
    exact answered.calls
  · intro key
    rw [List.append_nil, gauge key]
    exact (Int.add_zero _).symm
  · intro channel
    rw [unmatched]
    rfl
  · rw [completeResponse_correlate, List.map_nil, List.append_nil]
    exact answered.keys
  · exact answered.max
  · intro _ within
    exact answered.len_le.trans within

theorem replaySample_of_untracked (header : RpcHeader)
    (unknown : monitor.correlate.entries.lookup cid = none) :
    replaySample cid monitor header = monitor := by
  simp only [replaySample, Correlate.onResponse, unknown]

theorem replaySample_correlate (cid : CorrelationId) (monitor : Monitor)
    (header : RpcHeader) :
    (replaySample cid monitor header).correlate =
      (monitor.correlate.onResponse cid header.eventKind.isTerminal).2 := by
  unfold replaySample
  split <;> simp_all

theorem closedKeys_append (first second : List Fate) :
    closedKeys (first ++ second) = closedKeys first ++ closedKeys second :=
  List.filterMap_append

theorem closedKeys_cons (fate : Fate) (fates : List Fate) :
    closedKeys (fate :: fates) = closedKeys [fate] ++ closedKeys fates :=
  closedKeys_append [fate] fates

theorem closedKeys_discarded (samples : List RpcHeader) :
    closedKeys (samples.map .discarded) = [] := by
  simp [closedKeys, List.filterMap_map, Function.comp_def, Fate.closing]

theorem closedKeys_orphanFates (entry : DeferredResponses) :
    closedKeys (orphanFates entry) = [] := by
  simp [closedKeys, orphanFates, List.filterMap_map, Function.comp_def, Fate.closing]

/-- A stream is replayed against the table: its call is closed by its first terminal. -/
theorem replaySamples_balances (cid : CorrelationId) (samples : List RpcHeader)
    (monitor : Monitor) :
    Balances monitor (samples.foldl (replaySample cid) monitor) []
      (closedKeys (sampleFates cid monitor.correlate samples)) [] := by
  induction samples generalizing monitor with
  | nil => exact .of_same rfl rfl rfl
  | cons header samples ih =>
      cases found : monitor.correlate.entries.lookup cid with
      | none =>
          have rest := ih monitor
          rw [sampleFates_of_untracked _ found, closedKeys_discarded] at rest ⊢
          rw [List.foldl_cons, replaySample_of_untracked header found]
          exact rest
      | some call =>
          have rest := ih (replaySample cid monitor header)
          rw [replaySample_correlate] at rest
          rw [sampleFates_of_tracked header samples found, closedKeys_cons]
          exact (replaySample_balances header found).trans rest

theorem replay_balances (monitor : Monitor) (cid : CorrelationId) :
    Balances monitor (monitor.replay cid) [] (closedKeys (monitor.replayFates cid)) [] := by
  unfold replay replayFates
  cases monitor.deferred.lookup cid with
  | none => exact .of_same rfl rfl rfl
  | some entry =>
      have released : Balances monitor
          { monitor with deferred := monitor.deferred.erase cid } [] [] [] :=
        .of_same rfl rfl rfl
      exact released.trans (replaySamples_balances cid entry.samples _)

theorem replayAll_balances (monitor : Monitor) (order : List CorrelationId) :
    Balances monitor (order.foldl replay monitor) []
      (closedKeys (monitor.replayAllFates order)) [] := by
  induction order generalizing monitor with
  | nil => exact .of_same rfl rfl rfl
  | cons cid order ih =>
      rw [replayAllFates, closedKeys_append]
      exact (replay_balances monitor cid).trans (ih (monitor.replay cid))

/-! ### Deferring, expiring -/

/-- The calls and their counters are left alone. -/
structure SameCalls (monitor next : Monitor) : Prop where
  correlate : next.correlate = monitor.correlate
  inflight : next.metrics.inflight = monitor.metrics.inflight
  unmatched : next.metrics.unmatched = monitor.metrics.unmatched

theorem dropDeferred_sameCalls (monitor : Monitor) (cid : CorrelationId) :
    SameCalls monitor (monitor.dropDeferred cid) := by
  unfold dropDeferred
  split <;> exact ⟨rfl, rfl, rfl⟩

theorem holdResponse_sameCalls (monitor : Monitor) (channel : String) (header : RpcHeader)
    (now : Nat) : SameCalls monitor (monitor.holdResponse channel header now) := by
  simp only [holdResponse]
  split
  · exact ⟨rfl, rfl, rfl⟩
  · split
    · exact dropDeferred_sameCalls ..
    · exact ⟨rfl, rfl, rfl⟩

theorem boundDeferred_sameCalls (bounded : monitor.boundDeferred oldest = some next) :
    SameCalls monitor next := by
  unfold boundDeferred at bounded
  split_ifs at bounded
  · cases oldest with
    | none =>
        cases bounded
        exact ⟨rfl, rfl, rfl⟩
    | some old =>
        cases bounded
        exact dropDeferred_sameCalls monitor old
  · cases bounded
    exact ⟨rfl, rfl, rfl⟩

theorem deferResponse_sameCalls
    (performed : monitor.deferResponse channel header now oldest = some next) :
    SameCalls monitor next := by
  obtain ⟨bounded, bound, rfl⟩ := Option.map_eq_some_iff.mp performed
  have first := boundDeferred_sameCalls bound
  have second := holdResponse_sameCalls bounded channel header now
  exact ⟨second.correlate.trans first.correlate, second.inflight.trans first.inflight,
    second.unmatched.trans first.unmatched⟩

theorem SameCalls.balances (same : SameCalls monitor next) : Balances monitor next [] [] [] :=
  .of_same same.correlate same.inflight same.unmatched

theorem expireDeferred_sameCalls (monitor : Monitor) (now : Nat) :
    SameCalls monitor (monitor.expireDeferred now) := by
  refine ⟨rfl, ?_, ?_⟩
  · exact foldl_keeps Metrics.inflight (by intros; rfl) ..
  · exact foldl_keeps Metrics.unmatched (by intros; rfl) ..

/-- The fates of samples that are deferred close no call. -/
theorem closedKeys_deferFates (monitor : Monitor) (header : RpcHeader)
    (oldest : Option CorrelationId) : closedKeys (monitor.deferFates header oldest) = [] := by
  have bound : closedKeys (monitor.boundFates oldest) = [] := by
    unfold boundFates dropFates
    repeat' split
    all_goals first | rfl | exact closedKeys_orphanFates _
  have hold : ∀ bounded : Monitor, closedKeys (bounded.holdFates header) = [] := by
    intro bounded
    unfold holdFates
    repeat' split
    · rfl
    · rw [closedKeys_append, closedKeys_orphanFates]
      rfl
    · rfl
  unfold deferFates
  split
  · rfl
  · rw [closedKeys_append, bound, hold]
    rfl

theorem closedKeys_expireFates (monitor : Monitor) (now : Nat) :
    closedKeys (monitor.expireFates now) = [] := by
  apply List.filterMap_eq_nil_iff.mpr
  intro fate listed
  obtain ⟨entry, -, own⟩ := List.mem_flatMap.mp listed
  exact List.filterMap_eq_nil_iff.mp (closedKeys_orphanFates entry) fate own

theorem onResponse_balances (performed : monitor.onResponse channel header now oldest = some next) :
    Balances monitor next [] (closedKeys (monitor.responseFates channel header oldest))
      [] := by
  have counted : Balances monitor (monitor.counted channel header) [] [] [] :=
    .of_same rfl rfl rfl
  unfold responseFates
  cases found : monitor.correlate.entries.lookup header.correlationId with
  | none =>
      rw [onResponse_of_untracked now oldest found] at performed
      simp only [closedKeys_deferFates]
      exact counted.trans (deferResponse_sameCalls performed).balances
  | some call =>
      rw [onResponse_of_tracked now oldest found] at performed
      cases performed
      exact counted.trans (replaySample_balances header found)

theorem resolveDeferred_balances {order : List CorrelationId}
    (performed : monitor.resolveDeferred order now = some next) :
    Balances monitor next [] (closedKeys (monitor.resolveFates order now)) [] := by
  unfold resolveDeferred at performed
  unfold resolveFates
  split_ifs at performed with nothing permuted
  · cases performed
    rw [if_pos nothing]
    exact .of_same rfl rfl rfl
  · cases performed
    rw [if_neg nothing, closedKeys_append, closedKeys_expireFates]
    exact (replayAll_balances monitor order).trans (expireDeferred_sameCalls ..).balances

end Functions

/-! ### Steps and runs -/

theorem opening_request {payloadLen : Nat} :
    MonitorAction.opening (.request channel header payloadLen now oldest) =
      if header.eventKind = .request then some (channel, header) else none := by
  by_cases isRequest : header.eventKind = .request <;>
    simp [MonitorAction.opening, MonitorAction.requestSample, isRequest]

/-- Every step keeps the balance, if a request it drains is of an id that is not
tracked. -/
theorem step_balances {monitor next : Monitor} {action : MonitorAction}
    (fresh : ∀ request ∈ action.opening,
      monitor.correlate.entries.lookup request.2.correlationId = none)
    (performed : monitor.step names action = some next) :
    ∃ gone, Balances monitor next action.opening.toList (closedKeys (monitor.fates action))
      gone := by
  cases action with
  | request channel header payloadLen now oldest =>
      rw [opening_request] at fresh ⊢
      by_cases isRequest : header.eventKind = .request
      · rw [if_pos isRequest] at fresh ⊢
        exact onRequest_balances isRequest (fresh _ rfl) performed
      · rw [if_neg isRequest]
        rw [onRequest_of_other isRequest performed]
        exact ⟨[], .of_same rfl rfl rfl⟩
  | response channel header now oldest => exact ⟨[], onResponse_balances performed⟩
  | resolveDeferred order now => exact ⟨[], resolveDeferred_balances performed⟩
  | sweep now =>
      cases performed
      exact sweep_balances monitor now

/-- The ids of the requests that were drained. -/
def openedIds (actions : List MonitorAction) : List CorrelationId :=
  (actions.filterMap MonitorAction.opening).map fun request => request.2.correlationId

theorem openedIds_snoc (past : List MonitorAction) (action : MonitorAction) :
    openedIds (past ++ [action]) =
      openedIds past ++ action.opening.toList.map fun request => request.2.correlationId := by
  cases sample : action.opening <;> simp [openedIds, sample]

/-- Every run whose requests have distinct ids keeps the balance. -/
theorem run_balances {max ttl : Nat} {actions : List MonitorAction} {final : Monitor}
    (distinct : (openedIds actions).Nodup)
    (performed : run (Monitor.step names) (new max ttl) actions = some final) :
    ∃ gone, Balances (new max ttl) final (actions.filterMap MonitorAction.opening)
      (closedKeys (written names max ttl actions)) gone := by
  refine run_trail_invariant fates (fun past trace monitor =>
    (openedIds past).Nodup → ∃ gone, Balances (new max ttl) monitor
      (past.filterMap MonitorAction.opening) (closedKeys trace) gone)
    ?_ ?_ performed distinct
  · exact fun _ => ⟨[], .of_same rfl rfl rfl⟩
  · intro past trace monitor action next balanced moved distinct
    rw [openedIds_snoc] at distinct
    obtain ⟨distinctPast, -, apart⟩ := List.nodup_append.mp distinct
    obtain ⟨gone, before⟩ := balanced distinctPast
    -- a tracked id was requested before, so the request of this step is of another
    have fresh : ∀ request ∈ action.opening,
        monitor.correlate.entries.lookup request.2.correlationId = none := by
      intro request drained
      apply AList.lookup_eq_none.mpr
      intro tracked
      have requested := before.ids (AList.mem_keys.mp tracked)
      exact apart _ requested _
        (List.mem_map_of_mem (Option.mem_toList.mpr drained)) rfl
    obtain ⟨lost, after⟩ := step_balances fresh moved
    refine ⟨gone ++ lost, ?_⟩
    have one : [action].filterMap MonitorAction.opening = action.opening.toList := by
      cases sample : action.opening <;> simp [sample]
    rw [List.filterMap_append, one, closedKeys_append]
    exact before.trans after

/-! ### A step is never stuck -/

/-- A map has an oldest value, or none if it is empty. -/
theorem exists_isOldest {V : Type} (map : CidMap V) (age : V → Nat) :
    ∃ oldest, map.isOldest age oldest = true := by
  cases found : map.entries.argmin fun entry => age entry.2 with
  | none =>
      have empty : map.entries = [] := List.argmin_eq_none.mp found
      exact ⟨none, List.isEmpty_iff.mpr empty⟩
  | some entry =>
      have listed : map.lookup entry.1 = some entry.2 :=
        AList.mem_lookup_iff.mpr (List.argmin_mem found)
      refine ⟨some entry.1, ?_⟩
      simp only [CidMap.isOldest, listed, List.all_eq_true, decide_eq_true_eq]
      intro other member
      exact List.le_of_mem_argmin (f := fun entry => age entry.2) member found

/-- The observer takes every sample and every resolution, whatever its state: there is
an oldest entry to be found and an order to yield the ready ids in. -/
theorem step_enabled (names : MethodNames) (monitor : Monitor) :
    (∀ channel header payloadLen now, ∃ oldest next,
      monitor.step names (.request channel header payloadLen now oldest) = some next) ∧
    (∀ channel header now, ∃ oldest next,
      monitor.step names (.response channel header now oldest) = some next) ∧
    ∀ now, ∃ order next, monitor.step names (.resolveDeferred order now) = some next := by
  refine ⟨fun channel header payloadLen now => ?_, fun channel header now => ?_,
    fun now => ?_⟩
  · obtain ⟨oldest, isOldest⟩ :=
      exists_isOldest monitor.correlate.entries PendingCall.started
    refine ⟨oldest, ?_⟩
    apply Option.isSome_iff_exists.mp
    simp only [Monitor.step, onRequest, Correlate.insert, isOldest, if_true]
    cases oldest <;> split_ifs <;> rfl
  · obtain ⟨oldest, isOldest⟩ := exists_isOldest monitor.deferred DeferredResponses.since
    refine ⟨oldest, ?_⟩
    apply Option.isSome_iff_exists.mp
    cases found : monitor.correlate.entries.lookup header.correlationId with
    | some call =>
        rw [Monitor.step, onResponse_of_tracked now oldest found]
        rfl
    | none =>
        rw [Monitor.step, onResponse_of_untracked now oldest found]
        simp only [deferResponse, boundDeferred, counted, isOldest, if_true]
        cases oldest <;> split_ifs <;> rfl
  · refine ⟨monitor.ready, ?_⟩
    apply Option.isSome_iff_exists.mp
    simp only [Monitor.step, resolveDeferred, List.Perm.refl, if_true]
    split_ifs <;> rfl

end Monitor

/-- The calls are accounted for: the gauge of every service counts its tracked calls,
every request that was drained is of a call that is tracked, was closed by a terminal
or is counted as unmatched, on each channel and in all, and the table keeps to its
capacity. -/
structure Balanced (names : MethodNames) (max ttl : Nat) (actions : List MonitorAction)
    (final : Monitor) : Prop where
  gauge : ∀ key, final.metrics.inflight key = (final.trackedKeys.count key : Nat)
  notNegative : ∀ key, 0 ≤ final.metrics.inflight key
  channels : ∀ channel,
    ((actions.filterMap MonitorAction.opening).map Prod.fst).count channel =
      (final.trackedKeys.map Prod.fst).count channel +
        ((closedKeys (Monitor.written names max ttl actions)).map Prod.fst).count channel +
        final.metrics.unmatched channel
  total : (actions.filterMap MonitorAction.opening).length =
    final.correlate.entries.len + (closedKeys (Monitor.written names max ttl actions)).length +
      ∑ channel ∈ ((actions.filterMap MonitorAction.opening).map Prod.fst).toFinset,
        final.metrics.unmatched channel
  capacity : final.correlate.entries.len ≤ max

/-- **Conservation of calls.** Whatever responses are drained, wherever the deferred
ones are resolved and the calls are swept, whatever the clock shows: at every step of
the observer over requests of distinct ids the calls are accounted for. -/
theorem calls_conserved (names : MethodNames) (max ttl : Nat) (actions : List MonitorAction)
    (final : Monitor) (capacity : 1 ≤ max) (distinct : (Monitor.openedIds actions).Nodup)
    (performed : run (Monitor.step names) (Monitor.new max ttl) actions = some final) :
    Balanced names max ttl actions final := by
  obtain ⟨gone, balances⟩ := Monitor.run_balances distinct performed
  have everyCall : (final.trackedKeys ++
      (closedKeys (Monitor.written names max ttl actions) ++ gone)).Perm
      ((actions.filterMap MonitorAction.opening).map openedKey) := balances.calls
  have onChannels := everyCall.map Prod.fst
  rw [List.map_map, List.map_append, List.map_append] at onChannels
  have gauge : ∀ key, final.metrics.inflight key = (final.trackedKeys.count key : Nat) := by
    intro key
    have change := balances.gauge key
    have count := everyCall.count_eq key
    have start : (Monitor.new max ttl).metrics.inflight key = 0 := rfl
    simp only [List.count_append] at change count
    omega
  have unmatched : ∀ channel, final.metrics.unmatched channel =
      (gone.map Prod.fst).count channel := by
    intro channel
    rw [balances.unmatched channel]
    exact Nat.zero_add _
  refine ⟨gauge, fun key => ?_, fun channel => ?_, ?_, ?_⟩
  · rw [gauge key]
    exact Int.natCast_nonneg _
  · have count := onChannels.count_eq channel
    simp only [List.count_append] at count
    rw [unmatched channel, Nat.add_assoc]
    exact count.symm
  · have among : ∀ channel ∈ (gone.map Prod.fst : Multiset String),
        channel ∈ ((actions.filterMap MonitorAction.opening).map Prod.fst).toFinset := by
      intro channel listed
      rw [List.mem_toFinset]
      apply onChannels.subset
      exact List.mem_append_right _ (List.mem_append_right _ (Multiset.mem_coe.mp listed))
    have lengths := everyCall.length_eq
    simp only [List.length_append, List.length_map, Monitor.trackedKeys] at lengths
    simp only [unmatched, ← Multiset.coe_count]
    rw [Multiset.sum_count_eq_card among, Multiset.coe_card, List.length_map,
      Monitor.len_eq_length]
    omega
  · exact balances.within capacity (Nat.zero_le _)

/-- Three requests through a table of one place: the first call is evicted, the second
is closed by a response drained before its request, and the third is swept. -/
def evictedAndSwept : List MonitorAction :=
  [.request "Svc" (.request (Vector.replicate 16 1) 1 2 1 10) 0 0 none,
    .response "Svc" (earlySample .complete) 1 none,
    .request "Svc" lateRequest 0 2 (some (Vector.replicate 16 1)),
    .resolveDeferred [lateRequest.correlationId] 3,
    .request "Svc" (.request (Vector.replicate 16 3) 1 2 1 10) 0 4 none,
    .sweep fun _ => 200]

theorem calls_conserved_evicted_and_swept :
    ∃ final, run (Monitor.step fun _ _ => some "ping") (.new 1 100) evictedAndSwept =
        some final ∧
      final.metrics.unmatched "Svc" = 2 ∧
      Balanced (fun _ _ => some "ping") 1 100 evictedAndSwept final := by
  obtain ⟨final, performed, unmatched⟩ : ∃ final, run (Monitor.step fun _ _ => some "ping")
      (.new 1 100) evictedAndSwept = some final ∧ final.metrics.unmatched "Svc" = 2 :=
    ⟨_, rfl, by decide⟩
  exact ⟨final, performed, unmatched,
    calls_conserved _ 1 100 evictedAndSwept final (by decide) (by decide) performed⟩

end IceRpc
