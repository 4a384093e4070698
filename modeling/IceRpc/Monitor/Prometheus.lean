/-
Module: IceRpc.Monitor.Prometheus
Purpose: The Prometheus exposition of the registry: its state as text-format series
  (`ice-rpc-monitor/src/metrics/prometheus.rs`, and `render_histogram` of
  `ice-rpc-monitor/src/metrics/render.rs`).
Trusted boundary: human-reviewed spec; the `Display` of `f64` is a parameter
Main exports: Prometheus.writeSample, Prometheus.renderHistogram, Prometheus.render
-/
import IceRpc.Monitor.Registry

namespace IceRpc.Prometheus

/-! ### Lines -/

/-- `name="value"`, joined by commas. -/
def writeLabels : List (String × String) → String
  | [] => ""
  | [label] => String.join [label.1, "=\"", label.2, "\""]
  | label :: labels => String.join [label.1, "=\"", label.2, "\",", writeLabels labels]

/-- `writeln!` of one sample: the name, the labels in braces if there are any, the value. -/
def writeSample (name : String) (labels : List (String × String)) (value : String) : String :=
  match labels with
  | [] => String.join [name, " ", value, "\n"]
  | labels => String.join [name, "\x7b", writeLabels labels, "\x7d ", value, "\n"]

/-- The `# HELP` and `# TYPE` lines of a metric. -/
def writeHeader (name help type : String) : String :=
  String.join ["# HELP ", name, " ", help, "\n", "# TYPE ", name, " ", type, "\n"]

/-- The lines of one metric. -/
def writeMetric (name help type : String) (samples : List String) : String :=
  writeHeader name help type ++ String.join samples

/-- A metric that is one sample without labels. -/
def writeSingle (name help type value : String) : String :=
  writeMetric name help type [writeSample name [] value]

section Render

-- the `Display` of `f64`
variable {R : Type} (display : R → String)

/-- `render_histogram`. -/
def renderHistogram (name : String) (labels : List (String × String)) (histogram : Histogram R)
    (bounds : List R) : String :=
  String.join <|
    ((histogram.buckets.zip bounds).map fun (slot, bound) =>
      writeSample (name ++ "_bucket") (labels ++ [("le", display bound)]) (toString slot)) ++
    [writeSample (name ++ "_bucket") (labels ++ [("le", "+Inf")]) (toString histogram.count),
      writeSample (name ++ "_sum") labels (display histogram.sum),
      writeSample (name ++ "_count") labels (toString histogram.count)]

/-! ### Label sets -/

def methodLabels (key : String × UInt32 × String) : List (String × String) :=
  [("channel", key.1), ("service", toString key.2.1.toNat), ("method", key.2.2)]

def kindLabels (key : String × UInt32 × EventKind) : List (String × String) :=
  [("channel", key.1), ("service", toString key.2.1.toNat), ("kind", key.2.2.label)]

def directionLabels (key : String × Direction) : List (String × String) :=
  [("channel", key.1), ("direction", key.2.label)]

def serviceLabels (key : String × UInt32) : List (String × String) :=
  [("channel", key.1), ("service", toString key.2.toNat)]

def channelLabels (channel : String) : List (String × String) := [("channel", channel)]

def nodeLabels (key : UInt32 × NodeHealth × String) : List (String × String) :=
  [("pid", toString key.1.toNat), ("state", key.2.1.label), ("executable", key.2.2)]

def processLabels (process : UInt32 × ProcessSample R) : List (String × String) :=
  [("pid", toString process.1.toNat), ("name", process.2.name)]

/-! ### The metrics, in the order of `render` -/

variable (inner : Inner R)

/-- The traffic observed on the bus. -/
def renderTraffic [OfScientific R] : List String :=
  [writeMetric "ice_rpc_requests_total" "Requests observed on the bus" "counter"
      (inner.requests.toList.map fun (key, value) =>
        writeSample "ice_rpc_requests_total" (methodLabels key) (toString value.toNat)),
    writeMetric "ice_rpc_responses_total" "Response samples observed on the bus" "counter"
      (inner.responses.toList.map fun (key, value) =>
        writeSample "ice_rpc_responses_total" (kindLabels key) (toString value.toNat)),
    writeMetric "ice_rpc_latency_seconds" "Exact request-to-first-response latency" "histogram"
      (inner.latency.toList.map fun (key, histogram) =>
        renderHistogram display "ice_rpc_latency_seconds" (methodLabels key) histogram
          (latencyBounds R)),
    writeMetric "ice_rpc_payload_bytes" "Payload length of the observed samples" "histogram"
      (inner.payload.toList.map fun (key, histogram) =>
        renderHistogram display "ice_rpc_payload_bytes" (directionLabels key) histogram
          (payloadBounds R)),
    writeMetric "ice_rpc_inflight" "Calls currently awaiting their response" "gauge"
      (inner.inflight.toList.map fun (key, value) =>
        writeSample "ice_rpc_inflight" (serviceLabels key) (toString value.toInt)),
    writeMetric "ice_rpc_unmatched_requests_total" "Requests never answered before their TTL"
      "counter"
      (inner.unmatched.toList.map fun (channel, value) =>
        writeSample "ice_rpc_unmatched_requests_total" (channelLabels channel)
          (toString value.toNat)),
    writeMetric "ice_rpc_orphan_responses_total" "Responses without a tracked request" "counter"
      (inner.orphan.toList.map fun (channel, value) =>
        writeSample "ice_rpc_orphan_responses_total" (channelLabels channel)
          (toString value.toNat)),
    writeSingle "ice_rpc_clock_skew_total" "Negative latencies (clock adjustment)" "counter"
      (toString inner.clockSkew.toNat)]

/-- The nodes and services of the machine. -/
def renderNodes : List String :=
  [writeSingle "ice_rpc_nodes_alive" "Emitting processes currently alive" "gauge"
      (toString inner.nodesAlive.toInt),
    writeSingle "ice_rpc_node_crashes_total" "Emitting processes that disappeared" "counter"
      (toString inner.nodeCrashes.toNat),
    writeMetric "ice_rpc_nodes" "Nodes by native liveness state" "gauge"
      (inner.nodeStates.toList.map fun (state, value) =>
        writeSample "ice_rpc_nodes" [("state", state.label)] (toString value.toInt)),
    writeMetric "ice_rpc_node_info" "One series per node, value is always 1" "gauge"
      (inner.nodeInfo.toList.map fun (key, value) =>
        writeSample "ice_rpc_node_info" (nodeLabels key) (toString value.toInt)),
    writeSingle "ice_rpc_services"
      "Ice-rpc services present on the bus, one per observed channel" "gauge"
      (toString inner.services.toInt)]

/-- One gauge per channel direction. -/
def channelGauge (name help : String) (value : ChannelSample → Int64) : String :=
  writeMetric name help "gauge"
    (inner.channels.toList.map fun (key, sample) =>
      writeSample name (directionLabels key) (toString (value sample).toInt))

/-- The declared capacities of one channel direction. -/
def renderCapacity (entry : (String × Direction) × ChannelSample) : String :=
  String.join <|
    [("max_publishers", entry.2.maxPublishers), ("max_subscribers", entry.2.maxSubscribers),
      ("subscriber_buffer_samples", entry.2.subscriberBuffer)].map fun (kind, value) =>
        writeSample "ice_rpc_channel_capacity" (directionLabels entry.1 ++ [("kind", kind)])
          (toString value.toInt)

/-- The attachment of the observer. -/
def renderChannels : List String :=
  [channelGauge inner "ice_rpc_channel" "Whether the observer is attached to a direction"
      (·.attached),
    channelGauge inner "ice_rpc_channel_publishers"
      "Active publishers of a channel direction" (·.publishers),
    channelGauge inner "ice_rpc_channel_subscribers"
      "Active subscribers of a channel direction, observer excluded" (·.subscribers),
    writeMetric "ice_rpc_channel_capacity" "Declared capacity of a channel direction" "gauge"
      (inner.channels.toList.map renderCapacity)]

/-- One gauge per process. -/
def processGauge (name help : String) (value : ProcessSample R → String) : String :=
  writeMetric name help "gauge"
    (inner.processes.toList.map fun process =>
      writeSample name (processLabels process) (value process.2))

/-- The processes, when there are any. -/
def renderProcesses : List String :=
  if inner.processes.isEmpty then []
  else
    [processGauge inner "ice_rpc_process_cpu_percent"
        "CPU usage of an observed process, as a percentage of ONE core (can exceed 100)"
        fun sample => display sample.cpuPercent,
      processGauge inner "ice_rpc_process_cpu_percent_total"
        "CPU usage of an observed process, normalised to 0..100 over all cores"
        fun sample => display sample.cpuPercentTotal,
      processGauge inner "ice_rpc_process_rss_bytes" "Resident memory of an observed process"
        fun sample => toString sample.rssBytes.toInt,
      processGauge inner "ice_rpc_process_virtual_bytes" "Virtual memory of an observed process"
        fun sample => toString sample.virtualBytes.toInt,
      processGauge inner "ice_rpc_process_uptime_seconds" "Uptime of an observed process"
        fun sample => toString sample.runTimeSecs.toInt]

/-- The host and the observer itself. -/
def renderObserver : List String :=
  [writeSingle "ice_rpc_shm_scan_enabled"
      "Whether the shared-memory footprint scan is enabled" "gauge"
      (toString (if inner.shmEnabled then 1 else 0)),
    writeSingle "ice_rpc_shm_bytes" "Measured size of the iceoryx2 shared-memory segments"
      "gauge" (toString inner.shmBytes.toInt),
    writeSingle "ice_rpc_shm_segments" "Measured number of iceoryx2 segment files" "gauge"
      (toString inner.shmSegments.toInt),
    writeSingle "ice_rpc_shm_files" "iceoryx2 files seen by the footprint walk" "gauge"
      (toString inner.shmFiles.toInt),
    writeSingle "ice_rpc_host_cpu_count" "Number of logical CPUs of the host" "gauge"
      (toString inner.hostCpuCount.toInt),
    writeSingle "ice_rpc_health_scans_total" "Inventory scans performed" "counter"
      (toString inner.healthScans.toNat),
    writeSingle "ice_rpc_health_errors_total" "Failed partial inventory scans" "counter"
      (toString inner.healthErrors.toNat),
    writeSingle "ice_rpc_observer_dropped_traces_total"
      "Trace records dropped by a saturated sink" "counter"
      (toString inner.observerDropped.toNat),
    writeSingle "ice_rpc_observer_gaps_total"
      "Samples the observer itself missed, from seq holes" "counter"
      (toString inner.sampleGaps.toNat),
    writeSingle "ice_rpc_discovery_errors_total" "Failed channel discovery attempts" "counter"
      (toString inner.discoveryErrors.toNat)]

/-- `render`. -/
def render [OfScientific R] : String :=
  String.join <|
    renderTraffic display inner ++ renderNodes inner ++ renderChannels inner ++
      renderProcesses display inner ++ renderObserver inner

end Render

end IceRpc.Prometheus
