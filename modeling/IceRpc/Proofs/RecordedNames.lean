/-
Module: IceRpc.Proofs.RecordedNames
Purpose: Where the names of a registry come from: after any run of recordings every exported
  name is one that was recorded, so plain recorded names give readable expositions.
Trusted boundary: none
Main exports: Recording.names, NamesHold, namesHold_record, recorded_exposition
-/
import Mathlib.Algebra.Ring.Rat
import IceRpc.Proofs.PrometheusText

namespace IceRpc

open Std (ExtTreeMap)
open Lib.Exposition (Plain isDecimal unsigned readInteger readNumber parse)

/-! ### Keys of updated maps -/

section Maps

variable {K V A : Type} {cmp : K → K → Ordering} [Std.TransCmp cmp]

/-- An insertion adds its entry and no other. -/
theorem mem_toList_insert {map : ExtTreeMap K V cmp} {key : K} {value : V} {entry : K × V}
    (member : entry ∈ (map.insert key value).toList) :
    entry = (key, value) ∨ entry ∈ map.toList := by
  obtain ⟨found, stored⟩ := entry
  rw [ExtTreeMap.mem_toList_iff_getKey?_eq_some_and_getElem?_eq_some, ExtTreeMap.getKey?_insert,
    ExtTreeMap.getElem?_insert] at member
  by_cases same : cmp key found = .eq
  · rw [if_pos same, if_pos same] at member
    obtain ⟨keys, values⟩ := member
    cases keys
    cases values
    exact Or.inl rfl
  · rw [if_neg same, if_neg same] at member
    exact Or.inr (ExtTreeMap.mem_toList_iff_getKey?_eq_some_and_getElem?_eq_some.mpr member)

/-- What holds of all entries still does after an insertion of which it holds. -/
theorem forall_mem_insert {map : ExtTreeMap K V cmp} {key : K} {value : V} {holds : K × V → Prop}
    (before : ∀ entry ∈ map.toList, holds entry) (added : holds (key, value)) :
    ∀ entry ∈ (map.insert key value).toList, holds entry := by
  intro entry member
  rcases mem_toList_insert member with rfl | old
  · exact added
  · exact before entry old

/-- The entries of a map built by insertions. -/
theorem forall_mem_foldl_insert {items : List A} {key : A → K} {value : A → V}
    {holds : K × V → Prop} (each : ∀ item ∈ items, holds (key item, value item)) :
    ∀ entry ∈ (items.foldl (fun map item => map.insert (key item) (value item))
      (∅ : ExtTreeMap K V cmp)).toList, holds entry := by
  apply List.foldlRecOn (motive := fun map => ∀ entry ∈ ExtTreeMap.toList map, holds entry)
  · intro entry member
    rw [ExtTreeMap.mem_toList_iff_getKey?_eq_some_and_getElem?_eq_some] at member
    simp at member
  · intro map before item member
    exact forall_mem_insert before (each item member)

end Maps

/-! ### Names of a recording -/

section Recordings

variable {R : Type}

/-- The names a recording brings. -/
def Recording.names : Recording R → List String
  | .request channel _ method => [channel, method]
  | .response channel _ _ => [channel]
  | .payload channel _ _ => [channel]
  | .latency channel _ method _ => [channel, method]
  | .inflight channel _ _ => [channel]
  | .unmatchedRequest channel => [channel]
  | .orphanResponse channel => [channel]
  | .channels directions => directions.map (·.channel)
  | .health snapshot =>
      snapshot.nodes.map Inner.executableOf ++ snapshot.processes.map (·.name)
  | _ => []

/-- A property of all exported names, map by map. -/
structure NamesHold (holds : String → Prop) (inner : Inner R) : Prop where
  requests : ∀ entry ∈ inner.requests.toList, holds entry.1.1 ∧ holds entry.1.2.2
  responses : ∀ entry ∈ inner.responses.toList, holds entry.1.1
  latency : ∀ entry ∈ inner.latency.toList, holds entry.1.1 ∧ holds entry.1.2.2
  payload : ∀ entry ∈ inner.payload.toList, holds entry.1.1
  inflight : ∀ entry ∈ inner.inflight.toList, holds entry.1.1
  unmatched : ∀ entry ∈ inner.unmatched.toList, holds entry.1
  orphan : ∀ entry ∈ inner.orphan.toList, holds entry.1
  nodeInfo : ∀ entry ∈ inner.nodeInfo.toList, holds entry.1.2.2
  channels : ∀ entry ∈ inner.channels.toList, holds entry.1.1
  processes : ∀ entry ∈ inner.processes.toList, holds entry.2.name

theorem NamesHold.names {holds : String → Prop} {inner : Inner R} (held : NamesHold holds inner) :
    ∀ name ∈ inner.names, holds name := by
  simp only [Inner.names, List.forall_mem_append, List.forall_mem_flatMap, List.forall_mem_map,
    List.forall_mem_cons, List.not_mem_nil, false_imp_iff, implies_true, and_true, and_assoc]
  exact ⟨held.requests, held.responses, held.latency, held.payload, held.inflight,
    held.unmatched, held.orphan, held.nodeInfo, held.channels, held.processes⟩

theorem namesHold_default (holds : String → Prop) :
    NamesHold holds (Inner.default : Inner R) := by
  constructor <;> simp [Inner.default]

variable [Zero R] [Add R] [LE R] [DecidableLE R] [OfScientific R]

/-- A recording exports no name but those it brings. -/
theorem namesHold_record {holds : String → Prop} {inner : Inner R} (held : NamesHold holds inner)
    (recording : Recording R) (brought : ∀ name ∈ recording.names, holds name) :
    NamesHold holds (inner.record recording) := by
  cases recording with
  | request channel serviceId method =>
      have names := And.intro (brought channel (.head _)) (brought method (.tail _ (.head _)))
      exact { held with requests := forall_mem_insert held.requests names }
  | response channel serviceId kind =>
      exact { held with responses := forall_mem_insert held.responses (brought _ (.head _)) }
  | payload channel direction len =>
      exact { held with payload := forall_mem_insert held.payload (brought _ (.head _)) }
  | latency channel serviceId method seconds =>
      have names := And.intro (brought channel (.head _)) (brought method (.tail _ (.head _)))
      exact { held with latency := forall_mem_insert held.latency names }
  | inflight channel serviceId delta =>
      exact { held with inflight := forall_mem_insert held.inflight (brought _ (.head _)) }
  | unmatchedRequest channel =>
      exact { held with unmatched := forall_mem_insert held.unmatched (brought _ (.head _)) }
  | orphanResponse channel =>
      exact { held with orphan := forall_mem_insert held.orphan (brought _ (.head _)) }
  | channels channels =>
      have names : ∀ channel ∈ channels, holds channel.channel := by
        simpa [Recording.names] using brought
      exact { held with channels := forall_mem_foldl_insert names }
  | health snapshot =>
      simp only [Recording.names, List.forall_mem_append, List.forall_mem_map] at brought
      exact
        { held with
          nodeInfo := forall_mem_foldl_insert brought.1
          processes := forall_mem_foldl_insert brought.2 }
  | sampleGap | clockSkew | nodesAlive | nodeCrash | services | observer => exact { held with }

/-- The registry after a run of recordings. -/
def recorded (recordings : List (Recording R)) : Inner R :=
  recordings.foldl Inner.record Inner.default

theorem namesHold_recorded {holds : String → Prop} {recordings : List (Recording R)}
    (brought : ∀ recording ∈ recordings, ∀ name ∈ recording.names, holds name) :
    NamesHold holds (recorded recordings) := by
  apply List.foldlRecOn (motive := NamesHold holds) recordings
  · exact namesHold_default holds
  · intro inner held recording member
    exact namesHold_record held recording (brought recording member)

/-- A registry exports no name but those its recordings brought.  As long as these are
without quotes, backslashes and line feeds, every exposition of the registry is read back
as its series. -/
theorem recorded_exposition {display : R → String}
    (prints : ∀ value, (readNumber (display value).toList).isSome)
    (recordings : List (Recording R)) :
    (∀ name ∈ (recorded recordings).names,
      ∃ recording ∈ recordings, name ∈ recording.names) ∧
    ((∀ recording ∈ recordings, ∀ name ∈ recording.names, Plain name.toList) →
      parse (Prometheus.render display (recorded recordings)).toList =
        some (Prometheus.entries display (recorded recordings))) := by
  constructor
  · exact (namesHold_recorded fun recording member name brought =>
      ⟨recording, member, brought⟩).names
  · intro brought
    have plain := (namesHold_recorded brought).names
    have sound := Prometheus.lines_sound display (recorded recordings) prints
    rw [Prometheus.render_toList, Prometheus.entries_eq]
    exact (Lib.Exposition.parse_lines_iff sound).mpr
      ((Prometheus.plainLabels_iff (recorded recordings) prints).mpr plain)

end Recordings

/-! ### A registry of exact numbers -/

/-- The digits behind the point, as many as there are, and nine at most. -/
def fractionDigits : Nat → ℚ → List Char
  | 0, _ => []
  | places + 1, rest =>
      if rest = 0 then []
      else
        Nat.digitChar ((rest * 10).floor.toNat % 10) ::
          fractionDigits places (rest * 10 - (rest * 10).floor)

/-- A number without its sign, as `Display` prints it. -/
def decimalDigits (size : ℚ) : List Char :=
  Nat.toDigits 10 size.floor.toNat ++
    if size = size.floor then [] else '.' :: fractionDigits 9 (size - size.floor)

def decimalText (value : ℚ) : String :=
  String.ofList (if value < 0 then '-' :: decimalDigits (-value) else decimalDigits value)

theorem fractionDigits_isDigit (places : Nat) (rest : ℚ) :
    ∀ char ∈ fractionDigits places rest, char.isDigit = true := by
  induction places generalizing rest with
  | zero => exact fun _ member => nomatch member
  | succ places ih =>
      rw [fractionDigits]
      split
      · exact fun _ member => nomatch member
      · rw [List.forall_mem_cons, Nat.isDigit_digitChar]
        exact ⟨decide_eq_true (Nat.mod_lt _ (by decide)), ih _⟩

theorem decimalDigits_isDecimal (size : ℚ) : isDecimal (decimalDigits size) = true := by
  have noPoint : ∀ {digits : List Char}, (∀ char ∈ digits, char.isDigit = true) →
      digits.count '.' = 0 := fun all => List.count_eq_zero.mpr fun member => nomatch all _ member
  have whole : ∀ char ∈ Nat.toDigits 10 size.floor.toNat, char.isDigit = true := fun _ member =>
    Nat.isDigit_of_mem_toDigits (by decide) (by decide) member
  have behind := fractionDigits_isDigit 9 (size - size.floor)
  obtain ⟨first, rest, digits⟩ := List.exists_cons_of_ne_nil
    (Nat.toDigits_ne_nil (n := size.floor.toNat) (b := 10))
  simp only [isDecimal, Bool.and_eq_true, List.any_eq_true, List.all_eq_true, Bool.or_eq_true,
    decide_eq_true_eq, decimalDigits, List.count_append, noPoint whole, Nat.zero_add]
  refine ⟨⟨⟨first, ?_, ?_⟩, ?_⟩, ?_⟩
  · exact List.mem_append_left _ (digits ▸ List.mem_cons_self)
  · exact whole first (digits ▸ List.mem_cons_self)
  · intro char member
    rcases List.mem_append.mp member with front | back
    · exact Or.inl (whole char front)
    · split at back
      · cases back
      · exact (List.mem_cons.mp back).symm.imp_left (behind char)
  · split
    · exact Nat.zero_le _
    · rw [List.count_cons_self, noPoint behind]

theorem readNumber_decimalText (value : ℚ) :
    (readNumber (decimalText value).toList).isSome := by
  have decimal : ∀ {text : List Char}, isDecimal (unsigned text) = true →
      (readNumber text).isSome = true := by
    intro text isDecimal
    rw [readNumber, isDecimal, Bool.true_or]
    cases readInteger text <;> rfl
  rw [decimalText, String.toList_ofList]
  split
  · exact decimal (decimalDigits_isDecimal (-value))
  · obtain ⟨first, rest, digits⟩ := List.exists_cons_of_ne_nil
      (Nat.toDigits_ne_nil (n := value.floor.toNat) (b := 10))
    have digit : first.isDigit = true :=
      Nat.isDigit_of_mem_toDigits (by decide) (by decide) (digits ▸ List.mem_cons_self)
    have same : unsigned (decimalDigits value) = decimalDigits value := by
      rw [decimalDigits, digits]
      exact Lib.Exposition.unsigned_of_isDigit digit _
    exact decimal (same.symm ▸ decimalDigits_isDecimal value)

/-- The bounds are printed as the source writes them. -/
example : (latencyBounds ℚ).map decimalText =
    ["0.0001", "0.00025", "0.0005", "0.001", "0.0025", "0.005", "0.01", "0.025", "0.05", "0.1",
      "0.25", "0.5", "1", "2.5", "5", "10"] := by
  decide +kernel

/-- A request and its latency. -/
theorem recorded_exposition_orders :
    let inner : Inner ℚ :=
      recorded [.request "orders" 7 "get", .latency "orders" 7 "get" 0.25]
    (∀ name ∈ inner.names, name = "orders" ∨ name = "get") ∧
    parse (Prometheus.render decimalText inner).toList =
      some (Prometheus.entries decimalText inner) := by
  obtain ⟨names, read⟩ := recorded_exposition readNumber_decimalText
    [.request "orders" 7 "get", .latency "orders" 7 "get" 0.25]
  refine ⟨fun name listed => ?_, read (by decide)⟩
  obtain ⟨recording, member, brought⟩ := names name listed
  simp only [List.mem_cons, List.not_mem_nil, or_false] at member
  rcases member with rfl | rfl <;> simpa [Recording.names] using brought

end IceRpc
