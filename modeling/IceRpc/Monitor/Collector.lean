/-
Module: IceRpc.Monitor.Collector
Purpose: The out-of-band observer: the table of calls in flight
  (`ice-rpc-monitor/src/correlate.rs`), the counters it feeds
  (`ice-rpc-monitor/src/metrics.rs`), what it does with the samples it drains
  (`ice-rpc-monitor/src/collector.rs`) and how it counts those it missed
  (`ice-rpc-monitor/src/loss.rs`).
Trusted boundary: human-reviewed spec; tracing is off, and an instant is its reading
  in nanoseconds
Main exports: PendingCall, Correlate, Metrics, DeferredResponses, Monitor,
  Monitor.onRequest, Monitor.onResponse, Monitor.resolveDeferred, Monitor.sweep,
  MonitorAction, Monitor.step, LossTracker, LossTracker.observe
-/
import Mathlib.Algebra.Group.Nat.Defs
import Mathlib.Data.List.AList
import Mathlib.Logic.Function.Basic
import IceRpc.Types.Header

namespace IceRpc

/-! ### Tables keyed by correlation id -/

/-- A hash map keyed by correlation ids.  Its order means nothing. -/
abbrev CidMap (V : Type) := AList fun _ : CorrelationId => V

namespace CidMap

variable {V : Type}

/-- `HashMap::len`. -/
def len (map : CidMap V) : Nat := map.entries.length

/-- `HashMap::retain`. -/
def retain (map : CidMap V) (keep : CorrelationId → V → Bool) : CidMap V where
  entries := map.entries.filter fun entry => keep entry.1 entry.2
  nodupKeys := map.nodupKeys.sublist List.filter_sublist

/-- The key that `min_by_key` may find: one of a value of least age, whichever the
map's order puts first, or none in an empty map. -/
def isOldest (map : CidMap V) (age : V → Nat) : Option CorrelationId → Bool
  | none => map.entries.isEmpty
  | some cid =>
      match map.lookup cid with
      | none => false
      | some value => map.entries.all fun entry => decide (age value ≤ age entry.2)

end CidMap

/-! ### Calls in flight -/

/-- A call awaiting its response stream. -/
structure PendingCall where
  channel : String
  serviceId : UInt32
  method : String
  requestTsNs : UInt64
  requestBytes : Nat
  firstResponseSeen : Bool
  started : Nat
deriving Repr, DecidableEq

/-- Outcome of resolving a response against the table. -/
inductive Resolution where
  /-- The state of the call before the response was taken into account. -/
  | matched (call : PendingCall)
  | unknown
deriving Repr, DecidableEq

/-- Bounded table of in-flight calls. -/
structure Correlate where
  entries : CidMap PendingCall
  max : Nat
  ttl : Nat

namespace Correlate

/-- `Correlate::contains`. -/
def contains (table : Correlate) (cid : CorrelationId) : Bool :=
  (table.entries.lookup cid).isSome

/-- `Correlate::insert`: the calls evicted, and the table; `oldest` is the key the
search for the oldest call finds. -/
def insert (table : Correlate) (cid : CorrelationId) (call : PendingCall)
    (oldest : Option CorrelationId) : Option (List PendingCall × Correlate) :=
  if table.max ≤ table.entries.len then
    if table.entries.isOldest PendingCall.started oldest then
      match oldest with
      | none => some ([], { table with entries := table.entries.insert cid call })
      | some old =>
          some ((table.entries.lookup old).toList,
            { table with entries := (table.entries.erase old).insert cid call })
    else
      none
  else
    some ([], { table with entries := table.entries.insert cid call })

/-- `Correlate::on_response`. -/
def onResponse (table : Correlate) (cid : CorrelationId) (terminal : Bool) :
    Resolution × Correlate :=
  match table.entries.lookup cid with
  | none => (.unknown, table)
  | some call =>
      if terminal then
        (.matched call, { table with entries := table.entries.erase cid })
      else
        (.matched call,
          { table with
            entries := table.entries.insert cid { call with firstResponseSeen := true } })

/-- `Correlate::sweep`.  The age of every call is read when the map yields it. -/
def sweep (table : Correlate) (now : CorrelationId → Nat) : List PendingCall × Correlate :=
  let old (cid : CorrelationId) (call : PendingCall) :=
    decide (table.ttl ≤ now cid - call.started)
  ((table.entries.entries.filter fun entry => old entry.1 entry.2).map Sigma.snd,
    { table with entries := table.entries.retain fun cid call => !old cid call })

end Correlate

/-! ### Counters -/

/-- The counters the observer feeds.  A latency histogram is the list of its
observations, in nanoseconds. -/
structure Metrics where
  requests : String × UInt32 × String → Nat
  responses : String × UInt32 × String → Nat
  latency : String × UInt32 × String → List Nat
  inflight : String × UInt32 → Int
  unmatched : String → Nat
  orphan : String → Nat
  clockSkew : Nat

namespace Metrics

def new : Metrics :=
  { requests := fun _ => 0
    responses := fun _ => 0
    latency := fun _ => []
    inflight := fun _ => 0
    unmatched := fun _ => 0
    orphan := fun _ => 0
    clockSkew := 0 }

variable (metrics : Metrics) (channel : String)

/-- `Metrics::on_request`. -/
def onRequest (serviceId : UInt32) (method : String) : Metrics :=
  let key := (channel, serviceId, method)
  { metrics with
    requests := Function.update metrics.requests key (metrics.requests key + 1) }

/-- `Metrics::on_response`. -/
def onResponse (serviceId : UInt32) (kind : String) : Metrics :=
  let key := (channel, serviceId, kind)
  { metrics with
    responses := Function.update metrics.responses key (metrics.responses key + 1) }

/-- `Metrics::on_latency`. -/
def onLatency (serviceId : UInt32) (method : String) (nanos : Nat) : Metrics :=
  let key := (channel, serviceId, method)
  { metrics with
    latency := Function.update metrics.latency key (metrics.latency key ++ [nanos]) }

/-- `Metrics::on_inflight`. -/
def onInflight (serviceId : UInt32) (delta : Int) : Metrics :=
  let key := (channel, serviceId)
  { metrics with
    inflight := Function.update metrics.inflight key (metrics.inflight key + delta) }

/-- `Metrics::on_unmatched_request`. -/
def onUnmatchedRequest : Metrics :=
  { metrics with
    unmatched := Function.update metrics.unmatched channel (metrics.unmatched channel + 1) }

/-- `Metrics::on_orphan_response`, `count` times. -/
def onOrphanResponses (count : Nat) : Metrics :=
  { metrics with
    orphan := Function.update metrics.orphan channel (metrics.orphan channel + count) }

/-- `Metrics::on_clock_skew`. -/
def onClockSkew : Metrics :=
  { metrics with clockSkew := metrics.clockSkew + 1 }

end Metrics

/-! ### The observer -/

/-- `ORPHAN_GRACE`. -/
def orphanGrace : Nat := 250000000

/-- `MAX_DEFERRED`. -/
def maxDeferred : Nat := 16384

/-- `MAX_DEFERRED_SAMPLES`. -/
def maxDeferredSamples : Nat := 4096

/-- Responses observed before their request was drained. -/
structure DeferredResponses where
  channel : String
  samples : List RpcHeader
  since : Nat
deriving Repr, DecidableEq

/-- The out-of-band observer. -/
structure Monitor where
  metrics : Metrics
  correlate : Correlate
  deferred : CidMap DeferredResponses

/-- The name the decoders of the observer know for a method of a service. -/
abbrev MethodNames := UInt32 → UInt32 → Option String

/-- A method that no decoder knows, as `{:#010x}` renders its id. -/
def hexMethod (methodId : UInt32) : String :=
  String.ofList ('0' :: 'x' :: (List.range 8).map fun place =>
    hexChar (methodId.toNat / 16 ^ (7 - place) % 16))

/-- The name of the method of a request. -/
def methodOf (names : MethodNames) (header : RpcHeader) : String :=
  (names header.serviceId header.methodId).getD (hexMethod header.methodId)

namespace Monitor

/-- An observer that has seen nothing yet. -/
def new (max ttl : Nat) : Monitor :=
  { metrics := .new
    correlate := { entries := ∅, max := max, ttl := ttl }
    deferred := ∅ }

/-- A call given up: unmatched, and no longer in flight. -/
def giveUp (metrics : Metrics) (call : PendingCall) : Metrics :=
  (metrics.onUnmatchedRequest call.channel).onInflight call.channel call.serviceId (-1)

/-- `Monitor::on_request`. -/
def onRequest (names : MethodNames) (monitor : Monitor) (channel : String)
    (header : RpcHeader) (payloadLen : Nat) (now : Nat) (oldest : Option CorrelationId) :
    Option Monitor :=
  if header.eventKind ≠ .request then
    some monitor
  else
    let method := methodOf names header
    let metrics := (monitor.metrics.onRequest channel header.serviceId method).onInflight
      channel header.serviceId 1
    let call : PendingCall :=
      { channel := channel
        serviceId := header.serviceId
        method := method
        requestTsNs := header.timestampNs
        requestBytes := payloadLen
        firstResponseSeen := false
        started := now }
    (monitor.correlate.insert header.correlationId call oldest).map fun inserted =>
      { monitor with
        metrics := inserted.1.foldl giveUp metrics
        correlate := inserted.2 }

variable (monitor : Monitor)

/-- `Monitor::complete_response`. -/
def completeResponse (header : RpcHeader) (call : PendingCall) : Monitor :=
  let metrics :=
    if call.firstResponseSeen then monitor.metrics
    else if call.requestTsNs ≤ header.timestampNs then
      monitor.metrics.onLatency call.channel call.serviceId call.method
        (header.timestampNs.toNat - call.requestTsNs.toNat)
    else monitor.metrics.onClockSkew
  { monitor with
    metrics :=
      if header.eventKind.isTerminal then metrics.onInflight call.channel call.serviceId (-1)
      else metrics }

/-- The deferred responses of an id are given up as orphans. -/
def dropDeferred (cid : CorrelationId) : Monitor :=
  match monitor.deferred.lookup cid with
  | none => monitor
  | some entry =>
      { monitor with
        metrics := monitor.metrics.onOrphanResponses entry.channel entry.samples.length
        deferred := monitor.deferred.erase cid }

/-- The bound on the deferred calls: `oldest` is the key the search for the oldest
entry finds. -/
def boundDeferred (oldest : Option CorrelationId) : Option Monitor :=
  if maxDeferred ≤ monitor.deferred.len then
    if monitor.deferred.isOldest DeferredResponses.since oldest then
      match oldest with
      | none => some monitor
      | some old => some (monitor.dropDeferred old)
    else
      none
  else
    some monitor

/-- `Monitor::defer_response`, once the deferred calls are bounded. -/
def holdResponse (channel : String) (header : RpcHeader) (now : Nat) : Monitor :=
  let cid := header.correlationId
  match monitor.deferred.lookup cid with
  | none =>
      { monitor with
        deferred := monitor.deferred.insert cid
          { channel := channel, samples := [header], since := now } }
  | some entry =>
      if maxDeferredSamples ≤ entry.samples.length then
        monitor.dropDeferred cid
      else
        { monitor with
          deferred := monitor.deferred.insert cid
            { entry with samples := entry.samples ++ [header] } }

/-- `Monitor::defer_response`. -/
def deferResponse (channel : String) (header : RpcHeader) (now : Nat)
    (oldest : Option CorrelationId) : Option Monitor :=
  (monitor.boundDeferred oldest).map fun bounded =>
    bounded.holdResponse channel header now

/-- `Monitor::on_response`. -/
def onResponse (channel : String) (header : RpcHeader) (now : Nat) (oldest : Option CorrelationId) :
    Option Monitor :=
  let kind := header.eventKind
  let metrics := monitor.metrics.onResponse channel header.serviceId kind.label
  match monitor.correlate.onResponse header.correlationId kind.isTerminal with
  | (.matched call, correlate) =>
      some ({ monitor with metrics := metrics, correlate := correlate }.completeResponse
        header call)
  | (.unknown, correlate) =>
      { monitor with metrics := metrics, correlate := correlate }.deferResponse channel
        header now oldest

/-- One sample of a deferred stream, replayed. -/
def replaySample (cid : CorrelationId) (monitor : Monitor) (header : RpcHeader) :
    Monitor :=
  match monitor.correlate.onResponse cid header.eventKind.isTerminal with
  | (.matched call, correlate) =>
      { monitor with correlate := correlate }.completeResponse header call
  | (.unknown, correlate) => { monitor with correlate := correlate }

/-- The deferred stream of one id, replayed in observation order. -/
def replay (cid : CorrelationId) : Monitor :=
  match monitor.deferred.lookup cid with
  | none => monitor
  | some entry =>
      entry.samples.foldl (replaySample cid)
        { monitor with deferred := monitor.deferred.erase cid }

/-- A deferred stream that waited for its request long enough. -/
def isExpired (now : Nat) (entry : DeferredResponses) : Bool :=
  decide (orphanGrace ≤ now - entry.since)

/-- The end of `Monitor::resolve_deferred`: what waited too long is orphaned. -/
def expireDeferred (now : Nat) : Monitor :=
  let expired := (monitor.deferred.entries.filter fun entry => isExpired now entry.2).map
    Sigma.snd
  { monitor with
    metrics := expired.foldl
      (fun metrics entry => metrics.onOrphanResponses entry.channel entry.samples.length)
      monitor.metrics
    deferred := monitor.deferred.retain fun _ entry => !isExpired now entry }

/-- The ids that are deferred while their request is tracked. -/
def ready : List CorrelationId :=
  monitor.deferred.keys.filter fun cid => monitor.correlate.contains cid

/-- `Monitor::resolve_deferred`; `order` is the order in which the map yields the
ready ids. -/
def resolveDeferred (order : List CorrelationId) (now : Nat) : Option Monitor :=
  if monitor.deferred.entries.isEmpty then
    some monitor
  else if order.Perm monitor.ready then
    some ((order.foldl replay monitor).expireDeferred now)
  else
    none

/-- `Monitor::sweep`. -/
def sweep (now : CorrelationId → Nat) : Monitor :=
  let swept := monitor.correlate.sweep now
  { monitor with
    metrics := swept.1.foldl giveUp monitor.metrics
    correlate := swept.2 }

end Monitor

/-- What the acquisition loop does with the observer. -/
inductive MonitorAction where
  /-- A sample of the request direction is drained. -/
  | request (channel : String) (header : RpcHeader) (payloadLen now : Nat)
      (oldest : Option CorrelationId)
  /-- A sample of the response direction is drained. -/
  | response (channel : String) (header : RpcHeader) (now : Nat)
      (oldest : Option CorrelationId)
  | resolveDeferred (order : List CorrelationId) (now : Nat)
  /-- The calls are swept; `now` is what the clock shows when each is visited. -/
  | sweep (now : CorrelationId → Nat)

/-- One step of the observer. -/
def Monitor.step (names : MethodNames) (monitor : Monitor) :
    MonitorAction → Option Monitor
  | .request channel header payloadLen now oldest =>
      monitor.onRequest names channel header payloadLen now oldest
  | .response channel header now oldest => monitor.onResponse channel header now oldest
  | .resolveDeferred order now => monitor.resolveDeferred order now
  | .sweep now => some (monitor.sweep now)

/-! ### Sample loss -/

/-- The native id of a publisher port. -/
abbrev PublisherId := BitVec 128

/-- `u64::saturating_add`. -/
def saturatingAdd (first second : UInt64) : UInt64 :=
  if first.toNat + second.toNat < 2 ^ 64 then first + second else 0xFFFFFFFFFFFFFFFF

/-- Last observed sequence of every publisher port. -/
structure LossTracker where
  last : PublisherId → Option UInt64

namespace LossTracker

/-- `LossTracker::default`. -/
def default : LossTracker := { last := fun _ => none }

/-- `LossTracker::observe`: how many samples were missed since the previous one of the
same publisher, and the tracker. -/
def observe (tracker : LossTracker) (publisherId : PublisherId) (seq : UInt64) :
    UInt64 × LossTracker :=
  let missed :=
    match tracker.last publisherId with
    | some previous => if saturatingAdd previous 1 < seq then seq - previous - 1 else 0
    | none => 0
  (missed, { last := Function.update tracker.last publisherId (some seq) })

end LossTracker

end IceRpc
