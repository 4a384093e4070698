/-
Module: IceRpc.Lib.Rank
Purpose: Ranks in a list of ordered values: how many entries are at most a bound, which
  entry has a given rank, and a search along increasing bounds for the first that enough
  entries are at most.
Trusted boundary: none
Main exports: atMost, kthSmallest, kthSmallest_spec, firstReaching, firstReaching_isLeast
-/
import Mathlib.Data.List.Sort
import Mathlib.Order.WithBot
import Mathlib.Order.Bounds.Basic

namespace IceRpc.Lib

variable {α : Type} [LinearOrder α]

/-- How many entries are at most a bound. -/
def atMost (entries : List α) (bound : α) : Nat := entries.countP (· ≤ bound)

theorem atMost_mono (entries : List α) {low high : α} (ordered : low ≤ high) :
    atMost entries low ≤ atMost entries high := by
  apply List.countP_mono_left
  intro entry _ below
  exact decide_eq_true ((of_decide_eq_true below).trans ordered)

theorem atMost_le_length (entries : List α) (bound : α) :
    atMost entries bound ≤ entries.length :=
  List.countP_le_length

theorem atMost_append (entries more : List α) (bound : α) :
    atMost (entries ++ more) bound = atMost entries bound + atMost more bound :=
  List.countP_append

theorem atMost_perm {entries others : List α} (same : entries.Perm others) (bound : α) :
    atMost entries bound = atMost others bound :=
  same.countP_eq _

/-- In a sorted list, an entry is at most a bound exactly if all up to it are counted. -/
theorem getElem_le_iff_lt_atMost {entries : List α} (sorted : entries.Pairwise (· ≤ ·))
    {index : Nat} (within : index < entries.length) (bound : α) :
    entries[index] ≤ bound ↔ index < atMost entries bound := by
  induction entries generalizing index with
  | nil => cases within
  | cons head tail ih =>
      obtain ⟨smallest, sortedTail⟩ := List.pairwise_cons.mp sorted
      by_cases below : head ≤ bound
      · have counted : atMost (head :: tail) bound = atMost tail bound + 1 :=
          List.countP_cons_of_pos (decide_eq_true below)
        cases index with
        | zero => simp [counted, below]
        | succ index =>
            rw [List.getElem_cons_succ, ih sortedTail, counted, Nat.add_lt_add_iff_right]
      · -- nothing after an entry above the bound is counted either
        have above : ∀ entry ∈ head :: tail, ¬ entry ≤ bound := by
          intro entry member atBound
          rcases List.mem_cons.mp member with rfl | later
          · exact below atBound
          · exact below ((smallest entry later).trans atBound)
        have uncounted : atMost (head :: tail) bound = 0 := by
          apply List.countP_eq_zero.mpr
          intro entry member
          simpa using above entry member
        rw [uncounted]
        constructor
        · intro atBound
          exact absurd atBound (above _ (List.getElem_mem within))
        · intro impossible
          cases impossible

/-- The entry of a rank, counted from one. -/
def kthSmallest (entries : List α) (rank : Nat) : Option α :=
  (entries.mergeSort (· ≤ ·))[rank - 1]?

/-- The entry of a rank is at most exactly those bounds that so many entries are at most. -/
theorem kthSmallest_spec (entries : List α) {rank : Nat} (positive : 0 < rank)
    (within : rank ≤ entries.length) :
    ∃ value, kthSmallest entries rank = some value ∧
      ∀ bound, value ≤ bound ↔ rank ≤ atMost entries bound := by
  have same := List.mergeSort_perm entries (· ≤ ·)
  have sorted : (entries.mergeSort (· ≤ ·)).Pairwise (· ≤ ·) :=
    List.pairwise_mergeSort' (· ≤ ·) entries
  have inside : rank - 1 < (entries.mergeSort (· ≤ ·)).length := by
    rw [same.length_eq]
    omega
  refine ⟨_, List.getElem?_eq_getElem inside, ?_⟩
  intro bound
  rw [getElem_le_iff_lt_atMost sorted inside, atMost_perm same]
  omega

/-- The first bound whose count reaches a target, searched from the left; infinity if
none does. -/
def firstReaching (target : Nat) : List Nat → List α → WithTop α
  | count :: counts, bound :: bounds =>
      if target ≤ count then (bound : WithTop α) else firstReaching target counts bounds
  | _, _ => ⊤

/-- Along increasing bounds, the search finds the least bound whose count reaches the
target. -/
theorem firstReaching_isLeast (target : Nat) (count : α → Nat) {bounds : List α}
    (increasing : bounds.Pairwise (· < ·)) :
    IsLeast {value : WithTop α | value = ⊤ ∨ ∃ bound ∈ bounds, value = bound ∧
      target ≤ count bound} (firstReaching target (bounds.map count) bounds) := by
  induction bounds with
  | nil =>
      constructor
      · exact Or.inl rfl
      · rintro value (rfl | ⟨bound, member, -⟩)
        · exact le_refl _
        · cases member
  | cons first later ih =>
      obtain ⟨smallest, increasingLater⟩ := List.pairwise_cons.mp increasing
      rw [List.map_cons, firstReaching]
      by_cases reached : target ≤ count first
      · rw [if_pos reached]
        constructor
        · exact Or.inr ⟨first, List.mem_cons_self, rfl, reached⟩
        · rintro value (rfl | ⟨bound, member, rfl, -⟩)
          · exact le_top
          · rcases List.mem_cons.mp member with rfl | after
            · exact le_refl _
            · exact WithTop.coe_le_coe.mpr (smallest bound after).le
      · rw [if_neg reached]
        obtain ⟨among, least⟩ := ih increasingLater
        constructor
        · rcases among with top | ⟨bound, member, found⟩
          · exact Or.inl top
          · exact Or.inr ⟨bound, List.mem_cons_of_mem first member, found⟩
        · rintro value (rfl | ⟨bound, member, rfl, enough⟩)
          · exact le_top
          · rcases List.mem_cons.mp member with rfl | after
            · exact absurd enough reached
            · exact least (Or.inr ⟨bound, after, rfl, enough⟩)

end IceRpc.Lib
