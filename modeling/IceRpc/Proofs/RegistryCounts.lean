/-
Module: IceRpc.Proofs.RegistryCounts
Purpose: The two descriptions of the observer's registry are one: the series a rendering reads
  show the counts that the results about observed calls speak of, each modulo the width it has
  in the registry, whatever else is recorded in between.
Trusted boundary: none
Main exports: Count, Metrics.count, Represents, represents_record, Metrics.Counted,
  Monitor.step_counted, observer_counts_represented
-/
import IceRpc.Lib.Run
import IceRpc.Monitor.Collector
import IceRpc.Proofs.RecordedNames

namespace IceRpc

open Std (ExtTreeMap)
open Lib (run run_invariant)

/-! ### One count, in both registries -/

/-- A call of the recording methods that the observer feeds its counters with. -/
inductive Count where
  | request (channel : String) (serviceId : UInt32) (method : String)
  | response (channel : String) (serviceId : UInt32) (kind : EventKind)
  | latency (channel : String) (serviceId : UInt32) (method : String) (nanos : Nat)
  | inflight (channel : String) (serviceId : UInt32) (delta : Int)
  | unmatchedRequest (channel : String)
  | orphanResponse (channel : String)
  | clockSkew

def Metrics.count (metrics : Metrics) : Count → Metrics
  | .request channel serviceId method => metrics.onRequest channel serviceId method
  | .response channel serviceId kind => metrics.onResponse channel serviceId kind.label
  | .latency channel serviceId method nanos =>
      metrics.onLatency channel serviceId method nanos
  | .inflight channel serviceId delta => metrics.onInflight channel serviceId delta
  | .unmatchedRequest channel => metrics.onUnmatchedRequest channel
  | .orphanResponse channel => metrics.onOrphanResponses channel 1
  | .clockSkew => metrics.onClockSkew

/-- The same call on the registry; `seconds` is `nanos as f64 / 1e9`. -/
def Count.recording {R : Type} (seconds : Nat → R) : Count → Recording R
  | .request channel serviceId method => .request channel serviceId method
  | .response channel serviceId kind => .response channel serviceId kind
  | .latency channel serviceId method nanos => .latency channel serviceId method (seconds nanos)
  | .inflight channel serviceId delta => .inflight channel serviceId (Int64.ofInt delta)
  | .unmatchedRequest channel => .unmatchedRequest channel
  | .orphanResponse channel => .orphanResponse channel
  | .clockSkew => .clockSkew

/-- A recording of none of the counts. -/
def Recording.isUncounted {R : Type} : Recording R → Bool
  | .payload .. | .sampleGap .. | .nodesAlive .. | .nodeCrash .. | .channels .. | .services ..
  | .health .. | .observer .. => true
  | .request .. | .response .. | .latency .. | .inflight .. | .unmatchedRequest ..
  | .orphanResponse .. | .clockSkew => false

/-! ### What the registry shows -/

theorem compare2_eq_iff (first second : String × UInt32) :
    compare2 first second = .eq ↔ first = second := by
  simp only [compareLex_eq_eq, compareOn, Std.LawfulEqCmp.compare_eq_iff_eq, Prod.ext_iff]

theorem compare3_eq_iff (first second : String × UInt32 × String) :
    compare3 first second = .eq ↔ first = second := by
  simp only [compareLex_eq_eq, compareOn, Std.LawfulEqCmp.compare_eq_iff_eq, Prod.ext_iff]

/-- The key of a response counter, with the label of its kind. -/
def seriesKey (key : String × UInt32 × EventKind) : String × UInt32 × String :=
  (key.1, key.2.1, key.2.2.label)

theorem compare3_eq_iff_seriesKey (first second : String × UInt32 × EventKind) :
    compare3 first second = .eq ↔ seriesKey first = seriesKey second := by
  have kinds : compare first.2.2 second.2.2 = compare first.2.2.label second.2.2.label := rfl
  simp only [compareLex_eq_eq, compareOn, kinds, Std.LawfulEqCmp.compare_eq_iff_eq, seriesKey,
    Prod.mk.injEq]

section Represented

variable {R : Type} [Zero R] [Add R] [LE R] [DecidableLE R] [OfScientific R]

/-- The histogram of a list of latencies. -/
def latencyHistogram (seconds : Nat → R) (latencies : List Nat) : Histogram R :=
  latencies.foldl (fun histogram nanos => histogram.observe (seconds nanos) (latencyBounds R))
    (.empty (latencyBounds R))

/-- A registry shows counts: every counter and gauge modulo its width, every histogram by the
observations made. -/
structure Represents (seconds : Nat → R) (metrics : Metrics) (inner : Inner R) : Prop where
  requests : ∀ key, inner.requests.getD key 0 = UInt64.ofNat (metrics.requests key)
  responses : ∀ key,
    inner.responses.getD key 0 = UInt64.ofNat (metrics.responses (seriesKey key))
  latency : ∀ key, inner.latency.getD key (.empty (latencyBounds R)) =
    latencyHistogram seconds (metrics.latency key)
  inflight : ∀ key, inner.inflight.getD key 0 = Int64.ofInt (metrics.inflight key)
  unmatched : ∀ channel,
    inner.unmatched.getD channel 0 = UInt64.ofNat (metrics.unmatched channel)
  orphan : ∀ channel, inner.orphan.getD channel 0 = UInt64.ofNat (metrics.orphan channel)
  clockSkew : inner.clockSkew = UInt64.ofNat metrics.clockSkew

/-- A map whose values show a table still does when both are updated at one key. -/
theorem shown_bump {K L V C : Type} [DecidableEq L] {cmp : K → K → Ordering} [Std.TransCmp cmp]
    {map : ExtTreeMap K V cmp} {initial : V} {table : L → C} {shows : C → V}
    (label : K → L) (same : ∀ first second, cmp first second = .eq ↔ label first = label second)
    (shown : ∀ key, map.getD key initial = shows (table (label key)))
    (key : K) {step : V → V} {next : C} (stepped : step (shows (table (label key))) = shows next) :
    ∀ found, (Inner.bump map key initial step).getD found initial =
      shows (Function.update table (label key) next (label found)) := by
  intro found
  rw [Inner.bump, ExtTreeMap.getD_insert]
  by_cases equal : label key = label found
  · rw [if_pos ((same _ _).mpr equal), shown, stepped, ← equal, Function.update_self]
  · rw [if_neg (mt (same _ _).mp equal), shown, Function.update_of_ne (Ne.symm equal)]

theorem represents_default (seconds : Nat → R) : Represents seconds .new .default := by
  constructor <;> intros <;> rfl

theorem represents_record {seconds : Nat → R} {metrics : Metrics} {inner : Inner R}
    (shown : Represents seconds metrics inner) (count : Count) :
    Represents seconds (metrics.count count) (inner.record (count.recording seconds)) := by
  have counted (value : Nat) : UInt64.ofNat value + 1 = UInt64.ofNat (value + 1) :=
    (UInt64.ofNat_add value 1).symm
  have channels (first second : String) : compare first second = .eq ↔ first = second :=
    Std.LawfulEqCmp.compare_eq_iff_eq
  cases count with
  | request channel serviceId method =>
      exact
        { shown with
          requests := shown_bump id compare3_eq_iff shown.requests _ (counted _) }
  | response channel serviceId kind =>
      exact
        { shown with
          responses := shown_bump seriesKey compare3_eq_iff_seriesKey shown.responses
            (channel, serviceId, kind) (counted _) }
  | latency channel serviceId method nanos =>
      refine
        { shown with
          latency := shown_bump id compare3_eq_iff shown.latency _ ?_ }
      rw [latencyHistogram, latencyHistogram, List.foldl_append]
      rfl
  | inflight channel serviceId delta =>
      exact
        { shown with
          inflight := shown_bump id compare2_eq_iff shown.inflight _
            (Int64.ofInt_add _ delta).symm }
  | unmatchedRequest channel =>
      exact
        { shown with
          unmatched := shown_bump id channels shown.unmatched _ (counted _) }
  | orphanResponse channel =>
      exact
        { shown with
          orphan := shown_bump id channels shown.orphan _ (counted _) }
  | clockSkew =>
      exact { shown with clockSkew := (congrArg (· + 1) shown.clockSkew).trans (counted _) }

theorem represents_uncounted {seconds : Nat → R} {metrics : Metrics} {inner : Inner R}
    (shown : Represents seconds metrics inner) {recording : Recording R}
    (uncounted : recording.isUncounted = true) :
    Represents seconds metrics (inner.record recording) := by
  cases recording with
  | payload | sampleGap | nodesAlive | nodeCrash | channels | services | health | observer =>
      exact { shown with }
  | request | response | latency | inflight | unmatchedRequest | orphanResponse | clockSkew =>
      cases uncounted

/-- Both registries fed with one list of counts, the shown one with other recordings in
between. -/
theorem represents_recorded {seconds : Nat → R} {counts : List Count}
    {recordings : List (Recording R)}
    (fed : (recordings.filter fun recording => !recording.isUncounted) =
      counts.map (Count.recording seconds)) {metrics : Metrics} {inner : Inner R}
    (shown : Represents seconds metrics inner) :
    Represents seconds (counts.foldl Metrics.count metrics)
      (recordings.foldl Inner.record inner) := by
  induction recordings generalizing counts metrics inner with
  | nil =>
      rw [List.map_eq_nil_iff.mp fed.symm]
      exact shown
  | cons recording recordings ih =>
      cases uncounted : recording.isUncounted with
      | true =>
          rw [List.filter_cons_of_neg (by simp [uncounted])] at fed
          exact ih fed (represents_uncounted shown uncounted)
      | false =>
          rw [List.filter_cons_of_pos (by simp [uncounted])] at fed
          obtain ⟨count, counts, rfl, rfl, rest⟩ := List.map_eq_cons_iff.mp fed.symm
          exact ih rest.symm (represents_record shown count)

end Represented

/-! ### The observer only counts -/

/-- Counts lead from some metrics to others. -/
def Metrics.Counted (before after : Metrics) : Prop :=
  ∃ counts : List Count, after = counts.foldl Metrics.count before

namespace Metrics.Counted

theorem refl (metrics : Metrics) : Counted metrics metrics := ⟨[], rfl⟩

theorem single (metrics : Metrics) (count : Count) : Counted metrics (metrics.count count) :=
  ⟨[count], rfl⟩

theorem trans {first second third : Metrics} (earlier : Counted first second)
    (later : Counted second third) : Counted first third := by
  obtain ⟨before, rfl⟩ := earlier
  obtain ⟨after, rfl⟩ := later
  exact ⟨before ++ after, by rw [List.foldl_append]⟩

/-- A loop whose passes count. -/
theorem foldl {σ α : Type} (view : σ → Metrics) {pass : σ → α → σ}
    (counted : ∀ state item, Counted (view state) (view (pass state item))) (items : List α)
    (state : σ) : Counted (view state) (view (items.foldl pass state)) := by
  induction items generalizing state with
  | nil => exact refl _
  | cons item items ih => exact (counted state item).trans (ih _)

theorem orphans (metrics : Metrics) (channel : String) (count : Nat) :
    Counted metrics (metrics.onOrphanResponses channel count) := by
  induction count with
  | zero =>
      refine ⟨[], ?_⟩
      simp only [onOrphanResponses, Nat.add_zero, Function.update_eq_self, List.foldl_nil]
  | succ count ih =>
      have split : metrics.onOrphanResponses channel (count + 1) =
          (metrics.onOrphanResponses channel count).count (.orphanResponse channel) := by
        simp only [Metrics.count, onOrphanResponses, Function.update_self, Function.update_idem,
          Nat.add_assoc]
      rw [split]
      exact ih.trans (single _ _)

end Metrics.Counted

namespace Monitor

open Metrics (Counted)
open Metrics.Counted (refl single orphans)

theorem giveUp_counted (metrics : Metrics) (call : PendingCall) :
    Counted metrics (giveUp metrics call) :=
  (single _ (.unmatchedRequest _)).trans (single _ (.inflight _ _ _))

theorem completeResponse_counted (monitor : Monitor) (header : RpcHeader) (call : PendingCall) :
    Counted monitor.metrics (monitor.completeResponse header call).metrics := by
  unfold completeResponse
  -- the first response of a call is measured, a terminal one takes it off the gauge
  have measured : Counted monitor.metrics
      (if call.firstResponseSeen then monitor.metrics
      else if call.requestTsNs ≤ header.timestampNs then
        monitor.metrics.onLatency call.channel call.serviceId call.method
          (header.timestampNs.toNat - call.requestTsNs.toNat)
      else monitor.metrics.onClockSkew) := by
    split
    · exact refl _
    · split
      · exact single _ (.latency _ _ _ _)
      · exact single _ .clockSkew
  dsimp only
  split
  · exact measured.trans (single _ (.inflight _ _ _))
  · exact measured

theorem dropDeferred_counted (monitor : Monitor) (cid : CorrelationId) :
    Counted monitor.metrics (monitor.dropDeferred cid).metrics := by
  unfold dropDeferred
  split
  · exact refl _
  · exact orphans _ _ _

theorem deferResponse_counted {monitor after : Monitor} {channel : String} {header : RpcHeader}
    {now : Nat} {oldest : Option CorrelationId}
    (deferred : monitor.deferResponse channel header now oldest = some after) :
    Counted monitor.metrics after.metrics := by
  obtain ⟨bounded, bound, rfl⟩ := Option.map_eq_some_iff.mp deferred
  have first : Counted monitor.metrics bounded.metrics := by
    unfold boundDeferred at bound
    split at bound
    · split at bound
      · split at bound <;> cases bound
        · exact refl _
        · exact dropDeferred_counted _ _
      · cases bound
    · cases bound
      exact refl _
  refine first.trans ?_
  unfold holdResponse
  dsimp only
  split
  · exact refl _
  · split
    · exact dropDeferred_counted _ _
    · exact refl _

theorem replay_counted (monitor : Monitor) (cid : CorrelationId) :
    Counted monitor.metrics (monitor.replay cid).metrics := by
  unfold replay
  split
  · exact refl _
  · next entry _ =>
      refine Metrics.Counted.foldl Monitor.metrics (fun state header => ?_)
        entry.samples { monitor with deferred := monitor.deferred.erase cid }
      unfold replaySample
      split
      · exact completeResponse_counted _ _ _
      · exact refl _

/-- Whatever the observer does, it changes its metrics by counts alone. -/
theorem step_counted {names : MethodNames} {monitor after : Monitor} {action : MonitorAction}
    (stepped : monitor.step names action = some after) :
    Counted monitor.metrics after.metrics := by
  cases action with
  | request channel header payloadLen now oldest =>
      rw [step, onRequest] at stepped
      split at stepped
      · cases stepped
        exact refl _
      · obtain ⟨inserted, -, rfl⟩ := Option.map_eq_some_iff.mp stepped
        exact ((single _ (.request _ _ _)).trans (single _ (.inflight _ _ _))).trans
          (Metrics.Counted.foldl id giveUp_counted _ _)
  | response channel header now oldest =>
      rw [step, onResponse] at stepped
      refine (single _ (.response channel header.serviceId header.eventKind)).trans ?_
      split at stepped
      · cases stepped
        exact completeResponse_counted { monitor with metrics := _, correlate := _ } _ _
      · exact deferResponse_counted stepped
  | resolveDeferred order now =>
      rw [step, resolveDeferred] at stepped
      split at stepped
      · cases stepped
        exact refl _
      · split at stepped <;> cases stepped
        exact (Metrics.Counted.foldl Monitor.metrics replay_counted order monitor).trans
          (Metrics.Counted.foldl id (fun _ _ => orphans _ _ _) _ _)
  | sweep now =>
      cases stepped
      exact Metrics.Counted.foldl id giveUp_counted _ _

end Monitor

/-- The metrics of an observer after any run are counts made one after another, and a registry
that records these counts in their order, and whatever else it records, shows them. -/
theorem observer_counts_represented {R : Type} [Zero R] [Add R] [LE R] [DecidableLE R]
    [OfScientific R] {names : MethodNames} {max ttl : Nat} {actions : List MonitorAction}
    {monitor : Monitor}
    (performed : run (Monitor.step names) (Monitor.new max ttl) actions = some monitor)
    (seconds : Nat → R) :
    ∃ counts : List Count, monitor.metrics = counts.foldl Metrics.count .new ∧
      ∀ recordings : List (Recording R),
        (recordings.filter fun recording => !recording.isUncounted) =
          counts.map (Count.recording seconds) →
        Represents seconds monitor.metrics (recorded recordings) := by
  obtain ⟨counts, metrics⟩ := run_invariant (fun state => Metrics.Counted .new state.metrics)
    (Metrics.Counted.refl _)
    (fun _ _ _ counted stepped => counted.trans (Monitor.step_counted stepped)) performed
  refine ⟨counts, metrics, fun recordings fed => ?_⟩
  rw [metrics]
  exact represents_recorded fed (represents_default seconds)

end IceRpc
