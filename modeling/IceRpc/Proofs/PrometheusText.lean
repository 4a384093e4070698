/-
Module: IceRpc.Proofs.PrometheusText
Purpose: The Prometheus exposition as a text to be read back: for which registries a reader of
  the format gets exactly the series of the registry.
Trusted boundary: none
Main exports: Prometheus.Family.Named, Prometheus.lines_sound, Prometheus.plainLabels_iff
-/
import IceRpc.Proofs.PrometheusSeries
import Mathlib.Data.Rat.Defs

namespace IceRpc.Prometheus

open Lib
open Lib.Exposition (MetricType Line Plain readNumber parse isWord isNameStart isNameChar
  isLabelStart isLabelChar isBlank skip)

/-! ### Names of metrics and labels -/

section Names

variable {R : Type} (display : R → String)

/-- The documentation of a metric is of the format, and needs no escape. -/
def goodDoc : List Char → Bool
  | [] => true
  | first :: rest =>
      !isBlank first && (first :: rest).all fun char => char != '\\' && char != '\n'

/-- The name and the documentation of a metric are of the format. -/
def goodHeader (header : String × String) : Bool :=
  isWord isNameStart isNameChar header.1.toList && goodDoc header.2.toList

/-- The check on the characters themselves. -/
theorem goodHeader_ofList {name help : List Char}
    (good : (isWord isNameStart isNameChar name && goodDoc help) = true) :
    goodHeader (String.ofList name, String.ofList help) = true := by
  rw [goodHeader, String.toList_ofList, String.toList_ofList]
  exact good

theorem plain_of_goodDoc {doc : List Char} (good : goodDoc doc = true) :
    '\\' ∉ doc ∧ '\n' ∉ doc ∧ skip doc = doc := by
  cases doc with
  | nil => exact ⟨nofun, nofun, rfl⟩
  | cons first rest =>
      obtain ⟨solid, all⟩ := Bool.and_eq_true_iff.mp good
      have each := List.all_eq_true.mp all
      refine ⟨fun member => ?_, fun member => ?_, ?_⟩
      · exact absurd (each _ member) (by decide)
      · exact absurd (each _ member) (by decide)
      · exact Lib.Exposition.skip_cons (by simpa using solid) rest

/-- The label names of the rendering. -/
def labelNames : List String :=
  ["channel", "service", "method", "kind", "direction", "le", "pid", "state", "executable",
    "name"]

/-- The endings of a histogram's series. -/
def endings : List String := ["", "_bucket", "_sum", "_count"]

/-- Every series of a metric is named after it, and the names are of the format. -/
structure Family.Named (family : Family R) : Prop where
  header : goodHeader (family.name, family.help) = true
  series : ∀ series ∈ family.series, ∃ ending ∈ endings, series.name = family.name ++ ending
  labels : ∀ series ∈ family.series, ∀ label ∈ series.labels, label.1 ∈ labelNames

theorem isWord_ending {name ending : String} (member : ending ∈ endings)
    (isName : isWord isNameStart isNameChar name.toList = true) :
    isWord isNameStart isNameChar (name ++ ending).toList = true := by
  have parts : endings.all (fun ending => ending.toList.all isNameChar) = true := by decide
  obtain ⟨first, rest, same, start, all⟩ := Lib.Exposition.isWord_eq_true_iff.mp isName
  apply Lib.Exposition.isWord_eq_true_iff.mpr
  refine ⟨first, rest ++ ending.toList, ?_, start, ?_⟩
  · rw [String.toList_append, same, List.cons_append]
  · rw [String.toList_append, List.forall_mem_append]
    exact ⟨all, List.all_eq_true.mp (List.all_eq_true.mp parts ending member)⟩

variable {display}

/-- The lines of a named metric are of the format, up to their label values. -/
theorem Family.Named.sound {family : Family R} (named : family.Named)
    (prints : ∀ value, (readNumber (display value).toList).isSome) :
    ∀ line ∈ family.lines display, line.Sound := by
  have labelWord : ∀ name ∈ labelNames, isWord isLabelStart isLabelChar name.toList = true := by
    decide
  obtain ⟨isName, doc⟩ := Bool.and_eq_true_iff.mp named.header
  simp only [Family.lines, List.forall_mem_cons, List.forall_mem_map]
  refine ⟨⟨isName, plain_of_goodDoc doc⟩, isName, ?_⟩
  intro series member
  obtain ⟨ending, known, name⟩ := named.series series member
  refine ⟨?_, ?_, ?_⟩
  · rw [name]
    exact isWord_ending known isName
  · simp only [labelChars, List.forall_mem_map]
    exact fun label inside => labelWord label.1 (named.labels series member label inside)
  · cases series.value with
    | integer value => exact Lib.Exposition.readNumber_int value
    | real value =>
        obtain ⟨number, read⟩ := Option.isSome_iff_exists.mp (prints value)
        simp only [Value.text, Value.number, read, Option.getD_some]

theorem Family.named_single {name help : List Char} {type : MetricType} {value : Int}
    (good : (isWord isNameStart isNameChar name && goodDoc help) = true) :
    (Family.single (.ofList name) (.ofList help) type value : Family R).Named where
  header := goodHeader_ofList good
  series := by simp [Family.single, endings]
  labels := by simp [Family.single]

/-- A metric with one series per entry. -/
theorem Family.named_map {A : Type} {name help : List Char} {type : MetricType}
    {items : List A} {labels : A → List (String × String)} {value : A → Value R}
    (good : (isWord isNameStart isNameChar name && goodDoc help) = true)
    (known : ∀ item, ∀ label ∈ labels item, label.1 ∈ labelNames) :
    (Family.mk (.ofList name) (.ofList help) type (items.map fun item =>
      ⟨.ofList name, labels item, value item⟩)).Named where
  header := goodHeader_ofList good
  series := by
    simp only [List.forall_mem_map]
    exact fun _ _ => ⟨"", by decide, by simp⟩
  labels := by
    simp only [List.forall_mem_map]
    exact fun item _ => known item

/-- A series is named after its metric, and its labels are known ones. -/
def NamedAfter (metric name : String) (labels : List (String × String)) : Prop :=
  (∃ ending ∈ endings, name = metric ++ ending) ∧ ∀ label ∈ labels, label.1 ∈ labelNames

/-- A metric with several series per entry. -/
theorem Family.named_flatMap {A : Type} {name help : List Char} {type : MetricType}
    {items : List A} {series : A → List (Series R)}
    (good : (isWord isNameStart isNameChar name && goodDoc help) = true)
    (each : ∀ item, ∀ entry ∈ series item, NamedAfter (.ofList name) entry.name entry.labels) :
    (Family.mk (.ofList name) (.ofList help) type (items.flatMap series)).Named where
  header := goodHeader_ofList good
  series := by
    rw [List.forall_mem_flatMap]
    exact fun item _ entry member => (each item entry member).1
  labels := by
    rw [List.forall_mem_flatMap]
    exact fun item _ entry member => (each item entry member).2

/-- What holds of the name and the labels of every series of a histogram. -/
theorem forall_mem_histogramSeries (holds : String → List (String × String) → Prop)
    {name : String} {labels : List (String × String)} {histogram : Histogram R}
    {bounds : List R}
    (bucket : ∀ bound, holds (name ++ "_bucket") (labels ++ [("le", display bound)]))
    (last : holds (name ++ "_bucket") (labels ++ [("le", "+Inf")]))
    (sum : holds (name ++ "_sum") labels) (count : holds (name ++ "_count") labels) :
    ∀ series ∈ histogramSeries display name labels histogram bounds,
      holds series.name series.labels := by
  simp only [histogramSeries, List.forall_mem_append, List.forall_mem_map, List.forall_mem_cons]
  exact ⟨fun entry _ => bucket entry.2, last, sum, count, List.forall_mem_nil _⟩

/-- A histogram metric. -/
theorem Family.named_histogram {A : Type} {name help : List Char} {items : List A}
    {labels : A → List (String × String)} {histogram : A → Histogram R} {bounds : List R}
    (good : (isWord isNameStart isNameChar name && goodDoc help) = true)
    (known : ∀ item, ∀ label ∈ labels item, label.1 ∈ labelNames) :
    (Family.mk (.ofList name) (.ofList help) .histogram (items.flatMap fun item =>
      histogramSeries display (.ofList name) (labels item) (histogram item) bounds)).Named := by
  apply Family.named_flatMap good
  intro item
  have le (value : String) : ∀ label ∈ labels item ++ [("le", value)],
      label.1 ∈ labelNames := by
    rw [List.forall_mem_append]
    exact ⟨known item, by simp [labelNames]⟩
  apply forall_mem_histogramSeries (NamedAfter (.ofList name))
  · exact fun bound => ⟨⟨"_bucket", by decide, rfl⟩, le (display bound)⟩
  · exact ⟨⟨"_bucket", by decide, rfl⟩, le "+Inf"⟩
  · exact ⟨⟨"_sum", by decide, rfl⟩, known item⟩
  · exact ⟨⟨"_count", by decide, rfl⟩, known item⟩

variable (display) (inner : Inner R)

theorem traffic_named [OfScientific R] :
    ∀ family ∈ trafficFamilies display inner, family.Named := by
  have method (key) : ∀ label ∈ methodLabels key, label.1 ∈ labelNames := by
    simp [methodLabels, labelNames]
  have kind (key) : ∀ label ∈ kindLabels key, label.1 ∈ labelNames := by
    simp [kindLabels, labelNames]
  have direction (key) : ∀ label ∈ directionLabels key, label.1 ∈ labelNames := by
    simp [directionLabels, labelNames]
  have service (key) : ∀ label ∈ serviceLabels key, label.1 ∈ labelNames := by
    simp [serviceLabels, labelNames]
  have channel (key) : ∀ label ∈ channelLabels key, label.1 ∈ labelNames := by
    simp [channelLabels, labelNames]
  simp only [trafficFamilies, List.forall_mem_cons]
  refine ⟨Family.named_map (by decide) fun entry => method entry.1,
    Family.named_map (by decide) fun entry => kind entry.1,
    Family.named_histogram (by decide) fun entry => method entry.1,
    Family.named_histogram (by decide) fun entry => direction entry.1,
    Family.named_map (by decide) fun entry => service entry.1,
    Family.named_map (by decide) fun entry => channel entry.1,
    Family.named_map (by decide) fun entry => channel entry.1,
    Family.named_single (by decide), List.forall_mem_nil _⟩

theorem node_named : ∀ family ∈ nodeFamilies inner, family.Named := by
  have node (key) : ∀ label ∈ nodeLabels key, label.1 ∈ labelNames := by
    simp [nodeLabels, labelNames]
  simp only [nodeFamilies, List.forall_mem_cons]
  refine ⟨Family.named_single (by decide),
    Family.named_single (by decide),
    Family.named_map (by decide) fun entry => ?_,
    Family.named_map (by decide) fun entry => node entry.1,
    Family.named_single (by decide), List.forall_mem_nil _⟩
  simp [labelNames]

theorem channel_named : ∀ family ∈ channelFamilies inner, family.Named := by
  have direction (key) : ∀ label ∈ directionLabels key, label.1 ∈ labelNames := by
    simp [directionLabels, labelNames]
  simp only [channelFamilies, List.forall_mem_cons]
  refine ⟨Family.named_map (by decide) fun entry => direction entry.1,
    Family.named_map (by decide) fun entry => direction entry.1,
    Family.named_map (by decide) fun entry => direction entry.1,
    Family.named_flatMap (by decide) fun entry => ?_,
    List.forall_mem_nil _⟩
  have kind (value : String) : ∀ label ∈ directionLabels entry.1 ++ [("kind", value)],
      label.1 ∈ labelNames := by
    rw [List.forall_mem_append]
    exact ⟨direction entry.1, by simp [labelNames]⟩
  have same : "ice_rpc_channel_capacity" = "ice_rpc_channel_capacity" ++ "" := by decide
  simp only [capacitySeries, List.forall_mem_map]
  exact fun capacity _ => ⟨⟨"", by decide, same⟩, kind capacity.1⟩

theorem process_named : ∀ family ∈ processFamilies inner, family.Named := by
  have process (entry : UInt32 × ProcessSample R) :
      ∀ label ∈ processLabels entry, label.1 ∈ labelNames := by
    simp [processLabels, labelNames]
  unfold processFamilies
  split
  · exact nofun
  · simp only [List.forall_mem_cons]
    exact ⟨Family.named_map (by decide) process,
      Family.named_map (by decide) process,
      Family.named_map (by decide) process,
      Family.named_map (by decide) process,
      Family.named_map (by decide) process, nofun⟩

theorem observer_named : ∀ family ∈ observerFamilies inner, family.Named := by
  simp only [observerFamilies, List.forall_mem_cons]
  refine ⟨?_, ?_, ?_, ?_, ?_, ?_, ?_, ?_, ?_, ?_, List.forall_mem_nil _⟩
  all_goals exact Family.named_single (by decide)

/-- Every line of the rendering is of the format, up to its label values. -/
theorem lines_sound [OfScientific R]
    (prints : ∀ value, (readNumber (display value).toList).isSome) :
    ∀ line ∈ (families display inner).flatMap (Family.lines display), line.Sound := by
  simp only [families, List.forall_mem_flatMap, List.forall_mem_append]
  refine ⟨⟨⟨⟨?_, ?_⟩, ?_⟩, ?_⟩, ?_⟩
  · exact fun family member => (traffic_named display inner family member).sound prints
  · exact fun family member => (node_named inner family member).sound prints
  · exact fun family member => (channel_named inner family member).sound prints
  · exact fun family member => (process_named inner family member).sound prints
  · exact fun family member => (observer_named inner family member).sound prints

end Names

/-! ### Names that need no escape -/

section Escapes

variable {R : Type} {display : R → String}

/-- No label value of the metric needs an escape. -/
def Family.PlainLabels (family : Family R) : Prop :=
  ∀ series ∈ family.series, ∀ label ∈ series.labels, Plain label.2.toList

theorem Family.plainLabels_iff (family : Family R) :
    (∀ line ∈ family.lines display, line.PlainLabels) ↔ family.PlainLabels := by
  simp only [Family.lines, List.forall_mem_cons, Line.PlainLabels, Series.line, labelChars,
    List.forall_mem_map, true_and, Family.PlainLabels]

theorem plain_nat (value : Nat) : Plain (toString value).toList :=
  Lib.Exposition.plain_of_readNumber (Lib.Exposition.readNumber_int value)

theorem plain_eventKind (kind : EventKind) : Plain kind.label.toList := by
  cases kind <;> decide

theorem plain_direction (direction : Direction) : Plain direction.label.toList := by
  cases direction <;> decide

theorem plain_nodeHealth (state : NodeHealth) : Plain state.label.toList := by
  cases state <;> decide

section LabelSets

theorem plain_methodLabels (key : String × UInt32 × String) :
    (∀ label ∈ methodLabels key, Plain label.2.toList) ↔
      Plain key.1.toList ∧ Plain key.2.2.toList := by
  simp only [methodLabels, List.forall_mem_cons, plain_nat, true_and, List.not_mem_nil,
    false_imp_iff, implies_true, and_true]

theorem plain_kindLabels (key : String × UInt32 × EventKind) :
    (∀ label ∈ kindLabels key, Plain label.2.toList) ↔ Plain key.1.toList := by
  simp only [kindLabels, List.forall_mem_cons, plain_nat, plain_eventKind, List.not_mem_nil,
    false_imp_iff, implies_true, and_true]

theorem plain_directionLabels (key : String × Direction) :
    (∀ label ∈ directionLabels key, Plain label.2.toList) ↔ Plain key.1.toList := by
  simp only [directionLabels, List.forall_mem_cons, plain_direction, List.not_mem_nil,
    false_imp_iff, implies_true, and_true]

theorem plain_serviceLabels (key : String × UInt32) :
    (∀ label ∈ serviceLabels key, Plain label.2.toList) ↔ Plain key.1.toList := by
  simp only [serviceLabels, List.forall_mem_cons, plain_nat, List.not_mem_nil, false_imp_iff,
    implies_true, and_true]

theorem plain_channelLabels (channel : String) :
    (∀ label ∈ channelLabels channel, Plain label.2.toList) ↔ Plain channel.toList := by
  simp only [channelLabels, List.forall_mem_cons, List.not_mem_nil, false_imp_iff,
    implies_true, and_true]

theorem plain_nodeLabels (key : UInt32 × NodeHealth × String) :
    (∀ label ∈ nodeLabels key, Plain label.2.toList) ↔ Plain key.2.2.toList := by
  simp only [nodeLabels, List.forall_mem_cons, plain_nat, plain_nodeHealth, true_and,
    List.not_mem_nil, false_imp_iff, implies_true, and_true]

theorem plain_processLabels (process : UInt32 × ProcessSample R) :
    (∀ label ∈ processLabels process, Plain label.2.toList) ↔ Plain process.2.name.toList := by
  simp only [processLabels, List.forall_mem_cons, plain_nat, true_and, List.not_mem_nil,
    false_imp_iff, implies_true, and_true]

/-- The bounds of a histogram never need an escape. -/
theorem plain_histogramSeries (prints : ∀ value, (readNumber (display value).toList).isSome)
    (name : String) (labels : List (String × String)) (histogram : Histogram R)
    (bounds : List R) :
    (∀ series ∈ histogramSeries display name labels histogram bounds,
        ∀ label ∈ series.labels, Plain label.2.toList) ↔
      ∀ label ∈ labels, Plain label.2.toList := by
  constructor
  · intro all
    simp only [histogramSeries, List.forall_mem_append, List.forall_mem_cons] at all
    exact all.2.2.1
  · intro plain
    have le (value : String) (bound : Plain value.toList) :
        ∀ label ∈ labels ++ [("le", value)], Plain label.2.toList := by
      rw [List.forall_mem_append]
      exact ⟨plain, by simpa using bound⟩
    have infinite : Plain "+Inf".toList := by decide
    apply forall_mem_histogramSeries fun _ labels => ∀ label ∈ labels, Plain label.2.toList
    · intro bound
      obtain ⟨number, read⟩ := Option.isSome_iff_exists.mp (prints bound)
      exact le (display bound) (Lib.Exposition.plain_of_readNumber read)
    · exact le "+Inf" infinite
    · exact plain
    · exact plain

end LabelSets

theorem Family.plainLabels_mk (name help : String) (type : MetricType)
    (series : List (Series R)) :
    (Family.mk name help type series).PlainLabels ↔
      ∀ entry ∈ series, ∀ label ∈ entry.labels, Plain label.2.toList :=
  Iff.rfl

theorem Family.plainLabels_single (name help : String) (type : MetricType) (value : Int) :
    (Family.single name help type value : Family R).PlainLabels := by
  simp [Family.PlainLabels, Family.single]

variable (inner : Inner R)

theorem traffic_plain_iff [OfScientific R]
    (prints : ∀ value, (readNumber (display value).toList).isSome) :
    (∀ family ∈ trafficFamilies display inner, family.PlainLabels) ↔
      (∀ entry ∈ inner.requests.toList, Plain entry.1.1.toList ∧ Plain entry.1.2.2.toList) ∧
        (∀ entry ∈ inner.responses.toList, Plain entry.1.1.toList) ∧
        (∀ entry ∈ inner.latency.toList, Plain entry.1.1.toList ∧ Plain entry.1.2.2.toList) ∧
        (∀ entry ∈ inner.payload.toList, Plain entry.1.1.toList) ∧
        (∀ entry ∈ inner.inflight.toList, Plain entry.1.1.toList) ∧
        (∀ entry ∈ inner.unmatched.toList, Plain entry.1.toList) ∧
        ∀ entry ∈ inner.orphan.toList, Plain entry.1.toList := by
  simp only [trafficFamilies, List.forall_mem_cons, Family.plainLabels_single,
    Family.plainLabels_mk, List.forall_mem_map, List.forall_mem_flatMap,
    plain_histogramSeries prints, plain_methodLabels, plain_kindLabels, plain_directionLabels,
    plain_serviceLabels, plain_channelLabels, List.not_mem_nil, false_imp_iff, implies_true,
    and_true]

theorem node_plain_iff :
    (∀ family ∈ nodeFamilies inner, family.PlainLabels) ↔
      ∀ entry ∈ inner.nodeInfo.toList, Plain entry.1.2.2.toList := by
  simp only [nodeFamilies, List.forall_mem_cons, Family.plainLabels_single,
    Family.plainLabels_mk, List.forall_mem_map, plain_nodeLabels, plain_nodeHealth,
    List.not_mem_nil, false_imp_iff, implies_true, and_true, true_and]

theorem capacity_plain_iff (entry : (String × Direction) × ChannelSample) :
    (∀ series ∈ (capacitySeries entry : List (Series R)), ∀ label ∈ series.labels,
        Plain label.2.toList) ↔ Plain entry.1.1.toList := by
  have kinds : ∀ kind ∈ ["max_publishers", "max_subscribers", "subscriber_buffer_samples"],
      Plain kind.toList := by decide
  simp only [List.forall_mem_cons] at kinds
  simp only [capacitySeries, List.forall_mem_map, List.forall_mem_cons, List.forall_mem_append,
    plain_directionLabels, kinds, List.not_mem_nil, false_imp_iff, implies_true, and_true,
    and_self]

theorem channel_plain_iff :
    (∀ family ∈ channelFamilies inner, family.PlainLabels) ↔
      ∀ entry ∈ inner.channels.toList, Plain entry.1.1.toList := by
  simp only [channelFamilies, channelFamily, List.forall_mem_cons, Family.plainLabels_mk,
    List.forall_mem_map, List.forall_mem_flatMap, plain_directionLabels, capacity_plain_iff,
    List.not_mem_nil, false_imp_iff, implies_true, and_true, and_self]

theorem process_plain_iff :
    (∀ family ∈ processFamilies inner, family.PlainLabels) ↔
      ∀ entry ∈ inner.processes.toList, Plain entry.2.name.toList := by
  unfold processFamilies
  split
  · next empty =>
    rw [← Std.ExtTreeMap.isEmpty_toList, List.isEmpty_iff] at empty
    rw [empty]
    exact iff_of_true nofun nofun
  · simp only [processFamily, List.forall_mem_cons, Family.plainLabels_mk, List.forall_mem_map,
      plain_processLabels, List.not_mem_nil, false_imp_iff, implies_true, and_true, and_self]

theorem observer_plain : ∀ family ∈ observerFamilies inner, family.PlainLabels := by
  simp only [observerFamilies, List.forall_mem_cons, Family.plainLabels_single, true_and]
  exact List.forall_mem_nil _

/-- No label value of the rendering needs an escape exactly if no exported name does. -/
theorem plainLabels_iff [OfScientific R]
    (prints : ∀ value, (readNumber (display value).toList).isSome) :
    (∀ line ∈ (families display inner).flatMap (Family.lines display), line.PlainLabels) ↔
      ∀ name ∈ inner.names, Plain name.toList := by
  simp only [families, List.forall_mem_flatMap, Family.plainLabels_iff, List.forall_mem_append,
    traffic_plain_iff inner prints, node_plain_iff, channel_plain_iff, process_plain_iff]
  simp only [Inner.names, List.forall_mem_append, List.forall_mem_flatMap, List.forall_mem_map,
    List.forall_mem_cons, List.not_mem_nil, false_imp_iff, implies_true, and_true, and_assoc,
    and_iff_left (observer_plain inner)]

theorem entries_eq [OfScientific R] :
    entries display inner =
      ((families display inner).flatMap (Family.lines display)).map Line.entry := by
  rw [entries, List.map_flatMap]
  apply List.flatMap_congr
  intro family _
  simp only [Family.entries, Family.lines, List.map_cons, List.map_map]
  rfl

/-- A reader of the exposition gets exactly the series of the registry, each with its labels and
its value, exactly if no exported name has a quote, a backslash or a line feed. -/
theorem exposition_read_back_iff [OfScientific R]
    (prints : ∀ value, (readNumber (display value).toList).isSome) :
    parse (render display inner).toList = some (entries display inner) ↔
      ∀ name ∈ inner.names, Plain name.toList := by
  rw [render_toList, entries_eq, Lib.Exposition.parse_lines_iff (lines_sound display inner prints),
    plainLabels_iff inner prints]

end Escapes

/-- A registry with one node, of the given executable. -/
def nodeRegistry (executable : String) : Inner ℚ :=
  Inner.default.setHealth
    { nodes := [⟨7, .alive, some executable⟩]
      shm := none
      processes := []
      cpuCount := 4
      scans := 1
      errors := 0 }

theorem nodeRegistry_names (executable : String) :
    (nodeRegistry executable).names = [executable] := rfl

/-- An executable name that ends its label and adds a sample of another metric. -/
def forgingName : String :=
  "x\"\x7d 1\nice_rpc_nodes_alive 99\nice_rpc_node_info\x7bpid=\"7\",state=\"alive\",executable=\"y"

/-- The line of the node is read as three samples, and the exposition not as the registry. -/
theorem executable_forges_a_sample :
    parse (writeSample "ice_rpc_node_info" (nodeLabels (7, .alive, forgingName)) "1").toList =
        some [
          .sample ⟨"ice_rpc_node_info".toList, labelChars (nodeLabels (7, .alive, "x")), .int 1,
            none⟩,
          .sample ⟨"ice_rpc_nodes_alive".toList, [], .int 99, none⟩,
          .sample ⟨"ice_rpc_node_info".toList, labelChars (nodeLabels (7, .alive, "y")), .int 1,
            none⟩] ∧
      parse (render (fun _ => "0") (nodeRegistry forgingName)).toList ≠
        some (entries (fun _ => "0") (nodeRegistry forgingName)) := by
  refine ⟨by rw [writeSample_toList _ _ _ (.int 1)]; decide +kernel, ?_⟩
  have zero : (readNumber "0".toList).isSome := by decide
  have prints : ∀ value : ℚ, (readNumber ((fun _ => "0") value : String).toList).isSome :=
    fun _ => zero
  have broken : ¬ ∀ name ∈ (nodeRegistry forgingName).names, Plain name.toList := by
    rw [nodeRegistry_names, List.forall_mem_singleton]
    decide +kernel
  rw [render_toList, entries_eq, Ne, Lib.Exposition.parse_lines_iff (lines_sound _ _ prints),
    plainLabels_iff _ prints]
  exact broken

theorem exposition_of_one_node :
    parse (render (fun _ => "0") (nodeRegistry "node-7")).toList =
      some (entries (fun _ => "0") (nodeRegistry "node-7")) := by
  have zero : (readNumber "0".toList).isSome := by decide
  apply (exposition_read_back_iff _ fun _ => zero).mpr
  rw [nodeRegistry_names, List.forall_mem_singleton]
  decide

end IceRpc.Prometheus
