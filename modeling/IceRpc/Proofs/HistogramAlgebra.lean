/-
Module: IceRpc.Proofs.HistogramAlgebra
Purpose: What a histogram says about the values observed: its buckets count them, merging
  is concatenation, and a quantile read from it is the least bound that enough values are
  at most.
Trusted boundary: none
Main exports: observed, Histogram.ofValues, bounds_increasing, observed_eq_ofValues,
  merge_ofValues, quantile_ofValues, exactQuantile, histogram_algebra
-/
import IceRpc.Monitor.Histogram
import Mathlib.Data.Rat.Floor
import Mathlib.Tactic.NormNum

namespace IceRpc

open Lib

variable {R : Type} [Field R] [LinearOrder R]

/-- The histogram after observing values one after the other. -/
def observed (bounds values : List R) : Histogram R :=
  values.foldl (fun histogram value => histogram.observe value bounds) (.empty bounds)

/-- What a histogram is meant to hold. -/
def Histogram.ofValues (bounds values : List R) : Histogram R where
  buckets := bounds.map (atMost values)
  sum := values.sum
  count := values.length

/-! ### Buckets -/

/-- The bounds of the two histograms of the monitor are increasing. -/
theorem bounds_increasing [IsStrictOrderedRing R] :
    (latencyBounds R).Pairwise (· < ·) ∧ (payloadBounds R).Pairwise (· < ·) := by
  -- Neighbours are enough.
  constructor
  · rw [latencyBounds, ← List.isChain_iff_pairwise]
    norm_num
  · rw [payloadBounds, ← List.isChain_iff_pairwise]
    norm_num

theorem updateZip_map {A B : Type} (update : A → B → A) (slot : B → A) (others : List B) :
    updateZip update (others.map slot) others =
      others.map fun other => update (slot other) other := by
  induction others with
  | nil => rfl
  | cons other others ih => rw [List.map_cons, updateZip, ih, List.map_cons]

theorem updateZip_map_map {A B C : Type} (update : A → B → A) (slot : C → A) (partner : C → B)
    (keys : List C) :
    updateZip update (keys.map slot) (keys.map partner) =
      keys.map fun key => update (slot key) (partner key) := by
  induction keys with
  | nil => rfl
  | cons key keys ih => rw [List.map_cons, List.map_cons, updateZip, ih, List.map_cons]

theorem Histogram.empty_eq_ofValues (bounds : List R) :
    Histogram.empty bounds = .ofValues bounds [] := by
  have zeros : bounds.map (atMost []) = List.replicate bounds.length 0 := List.map_const' ..
  rw [Histogram.empty, Histogram.ofValues, zeros]
  rfl

/-- One more value. -/
theorem Histogram.observe_ofValues (bounds values : List R) (value : R) :
    (Histogram.ofValues bounds values).observe value bounds =
      .ofValues bounds (values ++ [value]) := by
  have slots : atMost (values ++ [value]) = fun bound =>
      if value ≤ bound then atMost values bound + 1 else atMost values bound := by
    funext bound
    by_cases below : value ≤ bound <;> simp [atMost, below]
  simp only [Histogram.observe, Histogram.ofValues, updateZip_map, slots, List.sum_append,
    List.sum_singleton, List.length_append, List.length_singleton]

/-- Observing keeps the histogram what it is meant to be. -/
theorem observed_eq_ofValues (bounds values : List R) :
    observed bounds values = .ofValues bounds values := by
  have from_ : ∀ earlier, values.foldl (fun histogram value => histogram.observe value bounds)
      (.ofValues bounds earlier) = Histogram.ofValues bounds (earlier ++ values) := by
    induction values with
    | nil =>
        intro earlier
        rw [List.append_nil, List.foldl_nil]
    | cons value values ih =>
        intro earlier
        rw [List.foldl_cons, Histogram.observe_ofValues, ih, List.append_assoc,
          List.singleton_append]
  rw [observed, Histogram.empty_eq_ofValues, from_, List.nil_append]

/-- The order of the observations does not matter. -/
theorem Histogram.ofValues_perm (bounds : List R) {values others : List R}
    (same : values.Perm others) :
    Histogram.ofValues bounds values = .ofValues bounds others := by
  have counts : atMost values = atMost others := funext (atMost_perm same)
  rw [Histogram.ofValues, Histogram.ofValues, counts, same.sum_eq, same.length_eq]

/-! ### Merging -/

theorem Histogram.add_ofValues (bounds values others : List R) :
    (Histogram.ofValues bounds values).add (.ofValues bounds others) =
      .ofValues bounds (values ++ others) := by
  have slot : ∀ bound, atMost values bound + atMost others bound =
      atMost (values ++ others) bound := fun bound => (atMost_append values others bound).symm
  simp only [Histogram.add, Histogram.ofValues, updateZip_map_map, slot, List.sum_append,
    List.length_append]

/-- Merging the histograms of several lists is observing all their values. -/
theorem merge_ofValues (bounds : List R) (lists : List (List R)) :
    merge (lists.map (Histogram.ofValues bounds)) bounds =
      .ofValues bounds lists.flatten := by
  have from_ : ∀ earlier, (lists.map (Histogram.ofValues bounds)).foldl Histogram.add
      (.ofValues bounds earlier) = Histogram.ofValues bounds (earlier ++ lists.flatten) := by
    induction lists with
    | nil =>
        intro earlier
        rw [List.flatten_nil, List.append_nil, List.map_nil, List.foldl_nil]
    | cons values lists ih =>
        intro earlier
        rw [List.map_cons, List.foldl_cons, Histogram.add_ofValues, ih, List.flatten_cons,
          List.append_assoc]
  rw [merge, Histogram.empty_eq_ofValues, from_, List.nil_append]

/-! ### Quantiles -/

section Quantiles

variable [FloorSemiring R]

/-- The exact quantile of a list of values: the least value that at least this share of
them is at most. -/
def exactQuantile (values : List R) (q : R) : Option R :=
  kthSmallest values ⌈q * (values.length : R)⌉₊

variable [IsStrictOrderedRing R]

/-- The rank of a quantile is that of some value. -/
theorem rank_within {values : List R} (some_ : values ≠ []) {q : R} (positive : 0 < q)
    (share : q ≤ 1) :
    0 < ⌈q * (values.length : R)⌉₊ ∧ ⌈q * (values.length : R)⌉₊ ≤ values.length := by
  have length : (0 : R) < values.length := Nat.cast_pos.mpr (List.length_pos_iff.mpr some_)
  constructor
  · exact Nat.ceil_pos.mpr (mul_pos positive length)
  · exact Nat.ceil_le.mpr (mul_le_of_le_one_left length.le share)

/-- The bounds that the quantile is the least of. -/
def Reaching (bounds values : List R) (q : R) : Set (WithTop R) :=
  {value | value = ⊤ ∨ ∃ bound ∈ bounds, value = bound ∧
    ⌈q * (values.length : R)⌉₊ ≤ atMost values bound}

/-- A quantile is the least bound that enough values are at most. -/
theorem quantile_ofValues {bounds values : List R} (increasing : bounds.Pairwise (· < ·))
    (some_ : values ≠ []) {q : R} (positive : 0 < q) (share : q ≤ 1) :
    ∃ value, quantile (.ofValues bounds values) bounds q = some value ∧
      IsLeast (Reaching bounds values q) value := by
  have counted : (Histogram.ofValues bounds values).count ≠ 0 :=
    fun none_ => some_ (List.length_eq_zero_iff.mp none_)
  have target : max ⌈q * (values.length : R)⌉₊ 1 = ⌈q * (values.length : R)⌉₊ :=
    max_eq_left (rank_within some_ positive share).1
  have read : quantile (.ofValues bounds values) bounds q =
      some (firstReaching ⌈q * (values.length : R)⌉₊ (bounds.map (atMost values)) bounds) := by
    rw [quantile, if_neg counted]
    simp only [Histogram.ofValues, target]
  exact ⟨_, read, firstReaching_isLeast _ (atMost values) increasing⟩

/-- The exact quantile exists and is not above the least bound reaching it. -/
theorem exactQuantile_le {bounds values : List R} (some_ : values ≠ []) {q : R}
    (positive : 0 < q) (share : q ≤ 1) {value : WithTop R}
    (reaching : value ∈ Reaching bounds values q) :
    ∃ exact_, exactQuantile values q = some exact_ ∧ (exact_ : WithTop R) ≤ value := by
  obtain ⟨one, within⟩ := rank_within some_ positive share
  obtain ⟨exact_, found, below⟩ := kthSmallest_spec values one within
  refine ⟨exact_, found, ?_⟩
  rcases reaching with rfl | ⟨bound, -, rfl, enough⟩
  · exact le_top
  · exact WithTop.coe_le_coe.mpr ((below bound).mpr enough)

/-- A larger share is reached by fewer bounds. -/
theorem Reaching.anti (bounds values : List R) {q larger : R} (ordered : q ≤ larger) :
    Reaching bounds values larger ⊆ Reaching bounds values q := by
  rintro value (rfl | ⟨bound, member, same, enough⟩)
  · exact Or.inl rfl
  · have fewer : ⌈q * (values.length : R)⌉₊ ≤ ⌈larger * (values.length : R)⌉₊ :=
      Nat.ceil_mono (mul_le_mul_of_nonneg_right ordered (Nat.cast_nonneg _))
    exact Or.inr ⟨bound, member, same, fewer.trans enough⟩

/-! ### All of it -/

/-- For increasing bounds, the buckets count the values observed and grow towards their
number; merging histograms is concatenating the observations, in any order and grouping;
and a quantile is the least bound that enough values are at most, so it is never below the
exact quantile and grows with the share. -/
theorem histogram_algebra (bounds : List R) (increasing : bounds.Pairwise (· < ·)) :
    (∀ values : List R,
      (observed bounds values).buckets =
        bounds.map (fun bound => values.countP (· ≤ bound)) ∧
      (observed bounds values).buckets.Pairwise (· ≤ ·) ∧
      (observed bounds values).count = values.length ∧
      ∀ slot ∈ (observed bounds values).buckets, slot ≤ (observed bounds values).count) ∧
    (∀ lists others : List (List R), lists.Perm others →
      merge (others.map (observed bounds)) bounds = observed bounds lists.flatten) ∧
    (∀ groups : List (List (List R)),
      merge (groups.map fun lists => merge (lists.map (observed bounds)) bounds) bounds =
        observed bounds groups.flatten.flatten) ∧
    (∀ (values : List R) (q : R), values ≠ [] → 0 < q → q ≤ 1 →
      ∃ value exact_, quantile (observed bounds values) bounds q = some value ∧
        IsLeast {value : WithTop R | value = ⊤ ∨ ∃ bound ∈ bounds, value = bound ∧
          ⌈q * (values.length : R)⌉₊ ≤ values.countP (· ≤ bound)} value ∧
        exactQuantile values q = some exact_ ∧ (exact_ : WithTop R) ≤ value) ∧
    (∀ (values : List R) (q larger : R) (value other : WithTop R), 0 < q → q ≤ larger →
      larger ≤ 1 → quantile (observed bounds values) bounds q = some value →
      quantile (observed bounds values) bounds larger = some other → value ≤ other) := by
  have all : observed bounds = Histogram.ofValues bounds := funext (observed_eq_ofValues bounds)
  rw [all]
  refine ⟨?_, ?_, ?_, ?_, ?_⟩
  · intro values
    refine ⟨rfl, ?_, rfl, ?_⟩
    · apply List.pairwise_map.mpr
      exact increasing.imp fun ordered => atMost_mono values ordered.le
    · intro slot member
      obtain ⟨bound, -, rfl⟩ := List.mem_map.mp member
      exact atMost_le_length values bound
  · intro lists others same
    rw [merge_ofValues, Histogram.ofValues_perm bounds same.flatten]
  · intro groups
    have merged : (fun lists => merge (lists.map (Histogram.ofValues bounds)) bounds) =
        Histogram.ofValues bounds ∘ List.flatten := funext (merge_ofValues bounds)
    rw [merged, ← List.map_map, merge_ofValues, List.flatten_flatten]
  · intro values q some_ positive share
    obtain ⟨value, read, least⟩ := quantile_ofValues increasing some_ positive share
    obtain ⟨exact_, found, below⟩ := exactQuantile_le some_ positive share least.1
    exact ⟨value, exact_, read, least, found, below⟩
  · intro values q larger value other positive ordered share first second
    have some_ : values ≠ [] := by
      rintro rfl
      cases first
    obtain ⟨least, read, isLeast⟩ :=
      quantile_ofValues increasing some_ positive (ordered.trans share)
    obtain ⟨greater, readLarger, isLeastLarger⟩ :=
      quantile_ofValues increasing some_ (positive.trans_le ordered) share
    rw [read, Option.some.injEq] at first
    rw [readLarger, Option.some.injEq] at second
    rw [← first, ← second]
    exact isLeastLarger.mono isLeast (Reaching.anti bounds values ordered)

end Quantiles

/-- Three payloads, the median of which is reported as the bound above it. -/
theorem histogram_of_three_payloads :
    (payloadBounds ℚ).Pairwise (· < ·) ∧
    (observed (payloadBounds ℚ) [40, 10, 1000]).buckets = [1, 2, 2, 3, 3, 3, 3, 3, 3] ∧
    (∃ value exact_, quantile (observed (payloadBounds ℚ) [40, 10, 1000]) (payloadBounds ℚ)
        (1 / 2) = some value ∧ exactQuantile [40, 10, 1000] (1 / 2 : ℚ) = some exact_ ∧
      (exact_ : WithTop ℚ) ≤ value) := by
  obtain ⟨-, increasing⟩ := bounds_increasing (R := ℚ)
  obtain ⟨-, -, -, quantiles, -⟩ := histogram_algebra (payloadBounds ℚ) increasing
  refine ⟨increasing, by decide +kernel, ?_⟩
  obtain ⟨value, exact_, read, -, found, below⟩ :=
    quantiles [40, 10, 1000] (1 / 2) (by decide) (by norm_num) (by norm_num)
  exact ⟨value, exact_, read, found, below⟩

end IceRpc
