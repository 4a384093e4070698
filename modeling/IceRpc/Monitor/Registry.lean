/-
Module: IceRpc.Monitor.Registry
Purpose: The metric registry of the observer as its renderings see it: every series it keeps,
  and what records into them (`ice-rpc-monitor/src/metrics.rs`), with the health inventory
  it publishes (`ice-rpc-monitor/src/health.rs`, `ice-rpc/src/monitor/inventory.rs`).
Trusted boundary: human-reviewed spec; the `f64` values are of a parameter type
Main exports: Direction, NodeHealth, Inner, HealthSnapshot, Inner.setHealth, Recording,
  Inner.record, Inner.names
-/
import IceRpc.Monitor.Histogram
import IceRpc.Types.Header
import Mathlib.Data.List.Sort

namespace IceRpc

open Std (ExtTreeMap)

/-! ### Keys -/

/-- The direction of a channel. -/
inductive Direction where
  | request
  | response
deriving Repr, DecidableEq

/-- `direction_label`. -/
def Direction.label : Direction → String
  | .request => "req"
  | .response => "resp"

/-- Health state of an iceoryx2 node. -/
inductive NodeHealth where
  | alive
  | dead
  | inaccessible
  | undefined
deriving Repr, DecidableEq

/-- `NodeHealth::label`. -/
def NodeHealth.label : NodeHealth → String
  | .alive => "alive"
  | .dead => "dead"
  | .inaccessible => "inaccessible"
  | .undefined => "undefined"

-- The maps are keyed by the labels, so their order is that of the texts.
instance : Ord Direction := ⟨compareOn Direction.label⟩

instance : Ord NodeHealth := ⟨compareOn NodeHealth.label⟩

instance : Ord EventKind := ⟨compareOn EventKind.label⟩

instance : Std.TransOrd Direction :=
  inferInstanceAs (Std.TransCmp (compareOn Direction.label))

instance : Std.TransOrd NodeHealth :=
  inferInstanceAs (Std.TransCmp (compareOn NodeHealth.label))

instance : Std.TransOrd EventKind :=
  inferInstanceAs (Std.TransCmp (compareOn EventKind.label))

/-- The order of pairs. -/
abbrev compare2 {A B : Type} [Ord A] [Ord B] : A × B → A × B → Ordering :=
  compareLex (compareOn fun key => key.1) (compareOn fun key => key.2)

/-- The order of triples. -/
abbrev compare3 {A B C : Type} [Ord A] [Ord B] [Ord C] : A × B × C → A × B × C → Ordering :=
  compareLex (compareOn fun key => key.1)
    (compareLex (compareOn fun key => key.2.1) (compareOn fun key => key.2.2))

instance transMethodKey :
    Std.TransCmp (compare3 : String × UInt32 × String → String × UInt32 × String → Ordering) :=
  inferInstance

instance transKindKey : Std.TransCmp
    (compare3 : String × UInt32 × EventKind → String × UInt32 × EventKind → Ordering) :=
  inferInstance

instance transNodeKey : Std.TransCmp
    (compare3 : UInt32 × NodeHealth × String → UInt32 × NodeHealth × String → Ordering) :=
  inferInstance

instance transDirectionKey :
    Std.TransCmp (compare2 : String × Direction → String × Direction → Ordering) :=
  inferInstance

instance transServiceKey :
    Std.TransCmp (compare2 : String × UInt32 → String × UInt32 → Ordering) :=
  inferInstance

/-! ### The registry -/

/-- Health of one observed channel direction. -/
structure ChannelSample where
  attached : Int64
  publishers : Int64
  subscribers : Int64
  maxPublishers : Int64
  maxSubscribers : Int64
  subscriberBuffer : Int64
deriving Repr, DecidableEq

/-- Resources of one observed process. -/
structure ProcessSample (R : Type) where
  name : String
  cpuPercent : R
  cpuPercentTotal : R
  rssBytes : Int64
  virtualBytes : Int64
  runTimeSecs : Int64

/-- `Inner`: the state of the registry. -/
structure Inner (R : Type) where
  requests : ExtTreeMap (String × UInt32 × String) UInt64 compare3
  responses : ExtTreeMap (String × UInt32 × EventKind) UInt64 compare3
  latency : ExtTreeMap (String × UInt32 × String) (Histogram R) compare3
  payload : ExtTreeMap (String × Direction) (Histogram R) compare2
  inflight : ExtTreeMap (String × UInt32) Int64 compare2
  unmatched : ExtTreeMap String UInt64
  orphan : ExtTreeMap String UInt64
  sampleGaps : UInt64
  clockSkew : UInt64
  nodesAlive : Int64
  nodeCrashes : UInt64
  nodeStates : ExtTreeMap NodeHealth Int64
  nodeInfo : ExtTreeMap (UInt32 × NodeHealth × String) Int64 compare3
  services : Int64
  channels : ExtTreeMap (String × Direction) ChannelSample compare2
  processes : ExtTreeMap UInt32 (ProcessSample R)
  shmEnabled : Bool
  shmBytes : Int64
  shmSegments : Int64
  shmFiles : Int64
  healthScans : UInt64
  healthErrors : UInt64
  observerDropped : UInt64
  discoveryErrors : UInt64
  hostCpuCount : Int64

/-! ### The health inventory -/

/-- Health of one direction of one channel. -/
structure ChannelHealth where
  channel : String
  direction : Direction
  attached : Bool
  publishers : Nat
  subscribers : Nat
  maxPublishers : Nat
  maxSubscribers : Nat
  subscriberBuffer : Nat
deriving Repr, DecidableEq

/-- Measured footprint of the shared-memory segments. -/
structure ShmFootprint where
  bytes : UInt64
  segments : UInt64
  files : UInt64
deriving Repr, DecidableEq

/-- One iceoryx2 node, without its name, which no series has. -/
structure NodeInfo where
  pid : UInt32
  health : NodeHealth
  executable : Option String
deriving Repr, DecidableEq

/-- Resources of one process. -/
structure ProcessMetrics (R : Type) where
  pid : UInt32
  name : String
  cpuPercent : R
  cpuPercentTotal : R
  rssBytes : UInt64
  virtualBytes : UInt64
  runTimeSecs : UInt64

/-- One inventory observation, without the layout, which no series has. -/
structure HealthSnapshot (R : Type) where
  nodes : List NodeInfo
  shm : Option ShmFootprint
  processes : List (ProcessMetrics R)
  cpuCount : Nat
  scans : UInt64
  errors : UInt64

/-! ### Recording -/

namespace Inner

variable {R : Type}

/-- `Inner::default`. -/
def default : Inner R where
  requests := ∅
  responses := ∅
  latency := ∅
  payload := ∅
  inflight := ∅
  unmatched := ∅
  orphan := ∅
  sampleGaps := 0
  clockSkew := 0
  nodesAlive := 0
  nodeCrashes := 0
  nodeStates := ∅
  nodeInfo := ∅
  services := 0
  channels := ∅
  processes := ∅
  shmEnabled := false
  shmBytes := 0
  shmSegments := 0
  shmFiles := 0
  healthScans := 0
  healthErrors := 0
  observerDropped := 0
  discoveryErrors := 0
  hostCpuCount := 0

/-- `*map.entry(key).or_default() += delta`, and its like with another default and step. -/
def bump {K V : Type} {cmp : K → K → Ordering} [Std.TransCmp cmp] (map : ExtTreeMap K V cmp)
    (key : K) (initial : V) (step : V → V) : ExtTreeMap K V cmp :=
  map.insert key (step (map.getD key initial))

variable (inner : Inner R) (channel : String)

/-- `Metrics::on_request`. -/
def onRequest (serviceId : UInt32) (method : String) : Inner R :=
  { inner with requests := bump inner.requests (channel, serviceId, method) 0 (· + 1) }

/-- `Metrics::on_response`. -/
def onResponse (serviceId : UInt32) (kind : EventKind) : Inner R :=
  { inner with responses := bump inner.responses (channel, serviceId, kind) 0 (· + 1) }

section Histograms

variable [Zero R] [Add R] [LE R] [DecidableLE R] [OfScientific R]

/-- `Metrics::on_payload`; `len` is the length as an `f64`. -/
def onPayload (direction : Direction) (len : R) : Inner R :=
  { inner with
    payload := bump inner.payload (channel, direction) (.empty (payloadBounds R))
      (·.observe len (payloadBounds R)) }

/-- `Metrics::on_latency`. -/
def onLatency (serviceId : UInt32) (method : String) (seconds : R) : Inner R :=
  { inner with
    latency := bump inner.latency (channel, serviceId, method) (.empty (latencyBounds R))
      (·.observe seconds (latencyBounds R)) }

end Histograms

/-- `Metrics::on_inflight`. -/
def onInflight (serviceId : UInt32) (delta : Int64) : Inner R :=
  { inner with inflight := bump inner.inflight (channel, serviceId) 0 (· + delta) }

/-- `Metrics::on_unmatched_request`. -/
def onUnmatchedRequest : Inner R :=
  { inner with unmatched := bump inner.unmatched channel 0 (· + 1) }

/-- `Metrics::on_orphan_response`. -/
def onOrphanResponse : Inner R :=
  { inner with orphan := bump inner.orphan channel 0 (· + 1) }

/-- `Metrics::set_channels`. -/
def setChannels (channels : List ChannelHealth) : Inner R :=
  { inner with
    channels := channels.foldl (fun map channel =>
      map.insert (channel.channel, channel.direction)
        { attached := if channel.attached then 1 else 0
          publishers := Int64.ofNat channel.publishers
          subscribers := Int64.ofNat channel.subscribers
          maxPublishers := Int64.ofNat channel.maxPublishers
          maxSubscribers := Int64.ofNat channel.maxSubscribers
          subscriberBuffer := Int64.ofNat channel.subscriberBuffer }) ∅ }

/-- The executable of a node, as it is exported. -/
def executableOf (node : NodeInfo) : String := node.executable.getD "?"

/-- `Metrics::set_health`. -/
def setHealth (snapshot : HealthSnapshot R) : Inner R :=
  { inner with
    nodeStates := snapshot.nodes.foldl (fun map node => bump map node.health 0 (· + 1)) ∅
    nodeInfo := snapshot.nodes.foldl (fun map node =>
      map.insert (node.pid, node.health, executableOf node) 1) ∅
    processes := snapshot.processes.foldl (fun map process =>
      map.insert process.pid
        { name := process.name
          cpuPercent := process.cpuPercent
          cpuPercentTotal := process.cpuPercentTotal
          rssBytes := process.rssBytes.toInt64
          virtualBytes := process.virtualBytes.toInt64
          runTimeSecs := process.runTimeSecs.toInt64 }) ∅
    shmEnabled := snapshot.shm.isSome
    shmBytes := (snapshot.shm.map fun shm => shm.bytes.toInt64).getD 0
    shmSegments := (snapshot.shm.map fun shm => shm.segments.toInt64).getD 0
    shmFiles := (snapshot.shm.map fun shm => shm.files.toInt64).getD 0
    healthScans := snapshot.scans
    healthErrors := snapshot.errors
    hostCpuCount := Int64.ofNat snapshot.cpuCount }

end Inner

/-- What is recorded into the registry. -/
inductive Recording (R : Type) where
  | request (channel : String) (serviceId : UInt32) (method : String)
  | response (channel : String) (serviceId : UInt32) (kind : EventKind)
  | payload (channel : String) (direction : Direction) (len : R)
  | latency (channel : String) (serviceId : UInt32) (method : String) (seconds : R)
  | inflight (channel : String) (serviceId : UInt32) (delta : Int64)
  | unmatchedRequest (channel : String)
  | orphanResponse (channel : String)
  | sampleGap (missed : UInt64)
  | clockSkew
  | nodesAlive (alive : Int64)
  | nodeCrash (count : UInt64)
  | channels (channels : List ChannelHealth)
  | services (count : Int64)
  | health (snapshot : HealthSnapshot R)
  | observer (droppedTraces discoveryErrors : UInt64)

section Record

variable {R : Type} [Zero R] [Add R] [LE R] [DecidableLE R] [OfScientific R]

/-- One call of a recording method of `Metrics`. -/
def Inner.record (inner : Inner R) : Recording R → Inner R
  | .request channel serviceId method => inner.onRequest channel serviceId method
  | .response channel serviceId kind => inner.onResponse channel serviceId kind
  | .payload channel direction len => inner.onPayload channel direction len
  | .latency channel serviceId method seconds =>
      inner.onLatency channel serviceId method seconds
  | .inflight channel serviceId delta => inner.onInflight channel serviceId delta
  | .unmatchedRequest channel => inner.onUnmatchedRequest channel
  | .orphanResponse channel => inner.onOrphanResponse channel
  | .sampleGap missed => { inner with sampleGaps := inner.sampleGaps + missed }
  | .clockSkew => { inner with clockSkew := inner.clockSkew + 1 }
  | .nodesAlive alive => { inner with nodesAlive := alive }
  | .nodeCrash count => { inner with nodeCrashes := inner.nodeCrashes + count }
  | .channels channels => inner.setChannels channels
  | .services count => { inner with services := count }
  | .health snapshot => inner.setHealth snapshot
  | .observer droppedTraces discoveryErrors =>
      { inner with
        observerDropped := droppedTraces
        discoveryErrors := discoveryErrors }

end Record

/-- The names a registry exports: channels, methods, executables and processes. -/
def Inner.names {R : Type} (inner : Inner R) : List String :=
  (inner.requests.toList.flatMap fun entry => [entry.1.1, entry.1.2.2]) ++
    (inner.responses.toList.map fun entry => entry.1.1) ++
    (inner.latency.toList.flatMap fun entry => [entry.1.1, entry.1.2.2]) ++
    (inner.payload.toList.map fun entry => entry.1.1) ++
    (inner.inflight.toList.map fun entry => entry.1.1) ++
    (inner.unmatched.toList.map fun entry => entry.1) ++
    (inner.orphan.toList.map fun entry => entry.1) ++
    (inner.nodeInfo.toList.map fun entry => entry.1.2.2) ++
    (inner.channels.toList.map fun entry => entry.1.1) ++
    (inner.processes.toList.map fun entry => entry.2.name)

end IceRpc
