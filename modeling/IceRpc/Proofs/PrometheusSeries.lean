/-
Module: IceRpc.Proofs.PrometheusSeries
Purpose: The series a registry stands for, and its Prometheus rendering as the lines of these
  series.
Trusted boundary: human-reviewed statement of the series a registry stands for
Main exports: Prometheus.Series, Prometheus.Family, Prometheus.families, Prometheus.entries,
  Prometheus.render_toList
-/
import IceRpc.Lib.Verbatim
import IceRpc.Monitor.Prometheus

namespace IceRpc.Prometheus

open Lib
open Lib.Exposition (Number MetricType Entry Line readNumber bracesText insideText labelText)

/-! ### The series a registry stands for -/

/-- The value of a series. -/
inductive Value (R : Type) where
  | integer (value : Int)
  | real (value : R)

/-- One series of the registry. -/
structure Series (R : Type) where
  name : String
  labels : List (String × String)
  value : Value R

/-- One metric: all its series. -/
structure Family (R : Type) where
  name : String
  help : String
  type : MetricType
  series : List (Series R)

/-- A metric that is one series without labels. -/
def Family.single {R : Type} (name help : String) (type : MetricType) (value : Int) : Family R where
  name := name
  help := help
  type := type
  series := [⟨name, [], .integer value⟩]

section Families

variable {R : Type} (display : R → String)

/-- The series of a histogram. -/
def histogramSeries (name : String) (labels : List (String × String)) (histogram : Histogram R)
    (bounds : List R) : List (Series R) :=
  ((histogram.buckets.zip bounds).map fun (slot, bound) =>
    ⟨name ++ "_bucket", labels ++ [("le", display bound)], .integer slot⟩) ++
  [⟨name ++ "_bucket", labels ++ [("le", "+Inf")], .integer histogram.count⟩,
    ⟨name ++ "_sum", labels, .real histogram.sum⟩,
    ⟨name ++ "_count", labels, .integer histogram.count⟩]

variable (inner : Inner R)

def trafficFamilies [OfScientific R] : List (Family R) :=
  [⟨"ice_rpc_requests_total", "Requests observed on the bus", .counter,
      inner.requests.toList.map fun entry =>
        ⟨"ice_rpc_requests_total", methodLabels entry.1, .integer entry.2.toNat⟩⟩,
    ⟨"ice_rpc_responses_total", "Response samples observed on the bus", .counter,
      inner.responses.toList.map fun entry =>
        ⟨"ice_rpc_responses_total", kindLabels entry.1, .integer entry.2.toNat⟩⟩,
    ⟨"ice_rpc_latency_seconds", "Exact request-to-first-response latency", .histogram,
      inner.latency.toList.flatMap fun entry =>
        histogramSeries display "ice_rpc_latency_seconds" (methodLabels entry.1) entry.2
          (latencyBounds R)⟩,
    ⟨"ice_rpc_payload_bytes", "Payload length of the observed samples", .histogram,
      inner.payload.toList.flatMap fun entry =>
        histogramSeries display "ice_rpc_payload_bytes" (directionLabels entry.1) entry.2
          (payloadBounds R)⟩,
    ⟨"ice_rpc_inflight", "Calls currently awaiting their response", .gauge,
      inner.inflight.toList.map fun entry =>
        ⟨"ice_rpc_inflight", serviceLabels entry.1, .integer entry.2.toInt⟩⟩,
    ⟨"ice_rpc_unmatched_requests_total", "Requests never answered before their TTL", .counter,
      inner.unmatched.toList.map fun entry =>
        ⟨"ice_rpc_unmatched_requests_total", channelLabels entry.1, .integer entry.2.toNat⟩⟩,
    ⟨"ice_rpc_orphan_responses_total", "Responses without a tracked request", .counter,
      inner.orphan.toList.map fun entry =>
        ⟨"ice_rpc_orphan_responses_total", channelLabels entry.1, .integer entry.2.toNat⟩⟩,
    .single "ice_rpc_clock_skew_total" "Negative latencies (clock adjustment)" .counter
      inner.clockSkew.toNat]

def nodeFamilies : List (Family R) :=
  [.single "ice_rpc_nodes_alive" "Emitting processes currently alive" .gauge
      inner.nodesAlive.toInt,
    .single "ice_rpc_node_crashes_total" "Emitting processes that disappeared" .counter
      inner.nodeCrashes.toNat,
    ⟨"ice_rpc_nodes", "Nodes by native liveness state", .gauge,
      inner.nodeStates.toList.map fun entry =>
        ⟨"ice_rpc_nodes", [("state", entry.1.label)], .integer entry.2.toInt⟩⟩,
    ⟨"ice_rpc_node_info", "One series per node, value is always 1", .gauge,
      inner.nodeInfo.toList.map fun entry =>
        ⟨"ice_rpc_node_info", nodeLabels entry.1, .integer entry.2.toInt⟩⟩,
    .single "ice_rpc_services" "Ice-rpc services present on the bus, one per observed channel"
      .gauge inner.services.toInt]

/-- A gauge of every channel direction. -/
def channelFamily (name help : String) (value : ChannelSample → Int64) : Family R where
  name := name
  help := help
  type := .gauge
  series := inner.channels.toList.map fun entry =>
    ⟨name, directionLabels entry.1, .integer (value entry.2).toInt⟩

/-- The declared capacities of a channel direction. -/
def capacitySeries (entry : (String × Direction) × ChannelSample) : List (Series R) :=
  [("max_publishers", entry.2.maxPublishers), ("max_subscribers", entry.2.maxSubscribers),
    ("subscriber_buffer_samples", entry.2.subscriberBuffer)].map fun (kind, value) =>
      ⟨"ice_rpc_channel_capacity", directionLabels entry.1 ++ [("kind", kind)],
        .integer value.toInt⟩

def channelFamilies : List (Family R) :=
  [channelFamily inner "ice_rpc_channel" "Whether the observer is attached to a direction"
      (·.attached),
    channelFamily inner "ice_rpc_channel_publishers"
      "Active publishers of a channel direction" (·.publishers),
    channelFamily inner "ice_rpc_channel_subscribers"
      "Active subscribers of a channel direction, observer excluded" (·.subscribers),
    ⟨"ice_rpc_channel_capacity", "Declared capacity of a channel direction", .gauge,
      inner.channels.toList.flatMap capacitySeries⟩]

/-- A gauge of every process. -/
def processFamily (name help : String) (value : ProcessSample R → Value R) : Family R where
  name := name
  help := help
  type := .gauge
  series := inner.processes.toList.map fun process =>
    ⟨name, processLabels process, value process.2⟩

def processFamilies : List (Family R) :=
  if inner.processes.isEmpty then []
  else
    [processFamily inner "ice_rpc_process_cpu_percent"
        "CPU usage of an observed process, as a percentage of ONE core (can exceed 100)"
        fun sample => .real sample.cpuPercent,
      processFamily inner "ice_rpc_process_cpu_percent_total"
        "CPU usage of an observed process, normalised to 0..100 over all cores"
        fun sample => .real sample.cpuPercentTotal,
      processFamily inner "ice_rpc_process_rss_bytes" "Resident memory of an observed process"
        fun sample => .integer sample.rssBytes.toInt,
      processFamily inner "ice_rpc_process_virtual_bytes" "Virtual memory of an observed process"
        fun sample => .integer sample.virtualBytes.toInt,
      processFamily inner "ice_rpc_process_uptime_seconds" "Uptime of an observed process"
        fun sample => .integer sample.runTimeSecs.toInt]

def observerFamilies : List (Family R) :=
  [.single "ice_rpc_shm_scan_enabled" "Whether the shared-memory footprint scan is enabled"
      .gauge (if inner.shmEnabled then 1 else 0),
    .single "ice_rpc_shm_bytes" "Measured size of the iceoryx2 shared-memory segments" .gauge
      inner.shmBytes.toInt,
    .single "ice_rpc_shm_segments" "Measured number of iceoryx2 segment files" .gauge
      inner.shmSegments.toInt,
    .single "ice_rpc_shm_files" "iceoryx2 files seen by the footprint walk" .gauge
      inner.shmFiles.toInt,
    .single "ice_rpc_host_cpu_count" "Number of logical CPUs of the host" .gauge
      inner.hostCpuCount.toInt,
    .single "ice_rpc_health_scans_total" "Inventory scans performed" .counter
      inner.healthScans.toNat,
    .single "ice_rpc_health_errors_total" "Failed partial inventory scans" .counter
      inner.healthErrors.toNat,
    .single "ice_rpc_observer_dropped_traces_total" "Trace records dropped by a saturated sink"
      .counter inner.observerDropped.toNat,
    .single "ice_rpc_observer_gaps_total" "Samples the observer itself missed, from seq holes"
      .counter inner.sampleGaps.toNat,
    .single "ice_rpc_discovery_errors_total" "Failed channel discovery attempts" .counter
      inner.discoveryErrors.toNat]

/-- The metrics of a registry, with every series and its value. -/
def families [OfScientific R] : List (Family R) :=
  trafficFamilies display inner ++ nodeFamilies inner ++ channelFamilies inner ++
    processFamilies inner ++ observerFamilies inner

end Families

/-! ### Series as lines and as what a reader gets -/

section Reading

variable {R : Type} (display : R → String)

/-- How a value is written. -/
def Value.text : Value R → String
  | .integer value => toString value
  | .real value => display value

/-- The number a reader gets: an integer itself, and of another number what it is written as. -/
def Value.number : Value R → Number
  | .integer value => .int value
  | .real value => (readNumber (display value).toList).getD (.real (display value).toList)

def labelChars (labels : List (String × String)) : List (List Char × List Char) :=
  labels.map fun label => (label.1.toList, label.2.toList)

/-- The line of a series. -/
def Series.line (series : Series R) : Line :=
  .sample series.name.toList (labelChars series.labels) (series.value.text display).toList
    (series.value.number display)

/-- The lines of a metric. -/
def Family.lines (family : Family R) : List Line :=
  .help family.name.toList family.help.toList :: .type family.name.toList family.type ::
    family.series.map (Series.line display)

/-- What a reader is to get from a metric. -/
def Family.entries (family : Family R) : List Entry :=
  .help family.name.toList family.help.toList :: .type family.name.toList family.type ::
    family.series.map fun series =>
      .sample ⟨series.name.toList, labelChars series.labels, series.value.number display, none⟩

/-- What a reader is to get from a registry. -/
def entries [OfScientific R] (inner : Inner R) : List Entry :=
  (families display inner).flatMap (Family.entries display)

end Reading

/-! ### The rendering as lines -/

section Text

variable {R : Type} {display : R → String}

theorem writeLabels_toList {labels : List (String × String)} (some_ : labels ≠ []) :
    (writeLabels labels).toList ++ ['}'] = insideText (labelChars labels) := by
  induction labels with
  | nil => exact absurd rfl some_
  | cons label labels ih =>
      cases labels with
      | nil => simp [writeLabels, labelChars, insideText, labelText]
      | cons second labels =>
          have later := ih (List.cons_ne_nil second labels)
          have text : (writeLabels (label :: second :: labels)).toList ++ ['}'] =
              labelText (label.1.toList, label.2.toList) ++
                ',' :: ((writeLabels (second :: labels)).toList ++ ['}']) := by
            simp [writeLabels, labelText]
          rw [text, later]
          rfl

theorem writeSample_toList (name : String) (labels : List (String × String)) (value : String)
    (number : Number) :
    (writeSample name labels value).toList =
      (Line.sample name.toList (labelChars labels) value.toList number).text ++ ['\n'] := by
  cases labels with
  | nil => simp [writeSample, labelChars, Line.text, bracesText]
  | cons label labels =>
      have inside := writeLabels_toList (List.cons_ne_nil label labels)
      have text : (writeSample name (label :: labels) value).toList =
          name.toList ++ '{' :: ((writeLabels (label :: labels)).toList ++ ['}'] ++
            ' ' :: value.toList) ++ ['\n'] := by
        simp [writeSample]
      rw [text, inside]
      simp [labelChars, Line.text, bracesText]

/-- The word of a type, as the rendering writes it. -/
def typeName : MetricType → String
  | .counter => "counter"
  | .gauge => "gauge"
  | .histogram => "histogram"
  | .summary => "summary"
  | .untyped => "untyped"

theorem typeName_toList (type : MetricType) : (typeName type).toList = type.text := by
  cases type <;> rfl

theorem writeHeader_toList (name help : String) (type : MetricType) :
    (writeHeader name help (typeName type)).toList =
      (Line.help name.toList help.toList).text ++ '\n' ::
        ((Line.type name.toList type).text ++ ['\n']) := by
  simp [writeHeader, Line.text, typeName_toList, Lib.Exposition.helpWord,
    Lib.Exposition.typeWord]

/-- How a series is written. -/
def Series.write (display : R → String) (series : Series R) : String :=
  writeSample series.name series.labels (series.value.text display)

/-- How a metric is written. -/
def Family.write (display : R → String) (family : Family R) : String :=
  writeMetric family.name family.help (typeName family.type)
    (family.series.map (Series.write display))

theorem Family.write_toList (family : Family R) :
    (family.write display).toList =
      terminated '\n' ((family.lines display).map Line.text) := by
  have samples (series : List (Series R)) :
      (series.map (Series.write display)).flatMap String.toList =
        terminated '\n' ((series.map (Series.line display)).map Line.text) := by
    induction series with
    | nil => rfl
    | cons first series ih =>
        rw [List.map_cons, List.flatMap_cons, ih, Series.write,
          writeSample_toList _ _ _ (first.value.number display)]
        simp [terminated, Series.line]
  rw [Family.write, writeMetric, String.toList_append, writeHeader_toList, String.toList_join,
    samples]
  simp [Family.lines, terminated]

/-! ### The rendering is the writing of the metrics -/

theorem join_map_join {A : Type} (pieces : A → List String) (items : List A) :
    String.join (items.map fun item => String.join (pieces item)) =
      String.join (items.flatMap pieces) := by
  induction items with
  | nil => rfl
  | cons item items ih =>
      rw [List.map_cons, List.flatMap_cons, String.join_cons, String.join_append, ih]

theorem renderHistogram_eq (name : String) (labels : List (String × String))
    (histogram : Histogram R) (bounds : List R) :
    renderHistogram display name labels histogram bounds =
      String.join ((histogramSeries display name labels histogram bounds).map
        (Series.write display)) := by
  simp only [renderHistogram, histogramSeries, List.map_append, List.map_map, List.map_cons,
    List.map_nil]
  rfl

/-- A metric with one series per entry. -/
theorem writeMetric_map {A : Type} (name help : String) (type : MetricType) (items : List A)
    (series : A → Series R) :
    writeMetric name help (typeName type) (items.map fun item => (series item).write display) =
      (Family.mk name help type (items.map series)).write display := by
  rw [Family.write, List.map_map]
  rfl

/-- A metric whose entries are written several samples at a time. -/
theorem writeMetric_flatMap {A : Type} (name help : String) (type : MetricType) (items : List A)
    (series : A → List (Series R)) {write : A → String}
    (each : ∀ item, write item = String.join ((series item).map (Series.write display))) :
    writeMetric name help (typeName type) (items.map write) =
      (Family.mk name help type (items.flatMap series)).write display := by
  have pieces : write = fun item => String.join ((series item).map (Series.write display)) :=
    funext each
  rw [Family.write, writeMetric, writeMetric, pieces, join_map_join, List.map_flatMap]

variable (display) (inner : Inner R)

theorem channelGauge_eq (name help : String) (value : ChannelSample → Int64) :
    channelGauge inner name help value =
      (channelFamily inner name help value).write display :=
  writeMetric_map name help .gauge inner.channels.toList fun entry =>
    ⟨name, directionLabels entry.1, .integer (value entry.2).toInt⟩

theorem processGauge_eq (name help : String) (value : ProcessSample R → Value R) :
    processGauge inner name help (fun sample => (value sample).text display) =
      (processFamily inner name help value).write display :=
  writeMetric_map name help .gauge inner.processes.toList fun process =>
    ⟨name, processLabels process, value process.2⟩

theorem renderCapacity_eq (entry : (String × Direction) × ChannelSample) :
    renderCapacity entry = String.join ((capacitySeries entry).map (Series.write display)) :=
  rfl

theorem renderTraffic_eq [OfScientific R] :
    renderTraffic display inner = (trafficFamilies display inner).map (Family.write display) := by
  have latency := writeMetric_flatMap "ice_rpc_latency_seconds"
    "Exact request-to-first-response latency" .histogram inner.latency.toList
    (fun entry => histogramSeries display "ice_rpc_latency_seconds" (methodLabels entry.1)
      entry.2 (latencyBounds R))
    fun entry => renderHistogram_eq _ _ _ _
  have payload := writeMetric_flatMap "ice_rpc_payload_bytes"
    "Payload length of the observed samples" .histogram inner.payload.toList
    (fun entry => histogramSeries display "ice_rpc_payload_bytes" (directionLabels entry.1)
      entry.2 (payloadBounds R))
    fun entry => renderHistogram_eq _ _ _ _
  simp only [trafficFamilies, List.map_cons, List.map_nil, ← latency, ← payload]
  simp only [Family.write, List.map_map]
  rfl

theorem renderNodes_eq :
    renderNodes inner = (nodeFamilies inner).map (Family.write display) := by
  simp only [nodeFamilies, List.map_cons, List.map_nil, Family.write, List.map_map]
  rfl

theorem renderChannels_eq :
    renderChannels inner = (channelFamilies inner).map (Family.write display) := by
  have capacity := writeMetric_flatMap "ice_rpc_channel_capacity"
    "Declared capacity of a channel direction" .gauge inner.channels.toList capacitySeries
    (renderCapacity_eq display)
  simp only [channelFamilies, List.map_cons, List.map_nil, ← channelGauge_eq, ← capacity]
  rfl

theorem renderProcesses_eq :
    renderProcesses display inner = (processFamilies inner).map (Family.write display) := by
  unfold renderProcesses processFamilies
  split
  · rfl
  · simp only [List.map_cons, List.map_nil, ← processGauge_eq]
    rfl

theorem renderObserver_eq :
    renderObserver inner = (observerFamilies inner).map (Family.write display) := by
  cases enabled : inner.shmEnabled with
  | false =>
      simp only [renderObserver, observerFamilies, enabled, List.map_cons, List.map_nil]
      rfl
  | true =>
      simp only [renderObserver, observerFamilies, enabled, List.map_cons, List.map_nil]
      rfl

/-- The rendering of a registry is the writing of its metrics. -/
theorem render_toList [OfScientific R] :
    (render display inner).toList =
      terminated '\n' (((families display inner).flatMap (Family.lines display)).map
        Line.text) := by
  have writes (metrics : List (Family R)) :
      (metrics.map (Family.write display)).flatMap String.toList =
        terminated '\n' ((metrics.flatMap (Family.lines display)).map Line.text) := by
    induction metrics with
    | nil => rfl
    | cons family metrics ih =>
        rw [List.map_cons, List.flatMap_cons, ih, Family.write_toList, List.flatMap_cons,
          List.map_append, terminated_append]
  rw [render, renderTraffic_eq, renderNodes_eq display, renderChannels_eq display,
    renderProcesses_eq, renderObserver_eq display, String.toList_join, ← writes, families]
  simp only [List.map_append]

end Text

end IceRpc.Prometheus
