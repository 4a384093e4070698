/-
Module: IceRpc.Lib.Gaps
Purpose: Holes in a sequence of numbers: how many are missing between neighbours, and
  how that relates to what was left out of a longer sequence.
Trusted boundary: none
Main exports: gapsFrom, gaps, gaps_eq_zero_iff, gaps_add_length_le, gaps_le_left_out_iff,
  skipped, gaps_eq_card_skipped
-/
import Mathlib.Data.List.Chain
import Mathlib.Order.Interval.Finset.Nat

namespace IceRpc.Lib

/-- The numbers missing in a sequence that goes on from `previous`.  A number that does
not go up misses none. -/
def gapsFrom : Nat → List Nat → Nat
  | _, [] => 0
  | previous, number :: numbers => (number - (previous + 1)) + gapsFrom number numbers

/-- The numbers missing between the neighbours of a sequence. -/
def gaps : List Nat → Nat
  | [] => 0
  | number :: numbers => gapsFrom number numbers

/-- Every number is at most the one after its neighbour. -/
abbrev Unbroken (numbers : List Nat) : Prop :=
  numbers.IsChain fun previous number => number ≤ previous + 1

theorem unbroken_cons_cons {first second : Nat} {numbers : List Nat} :
    Unbroken (first :: second :: numbers) ↔
      second ≤ first + 1 ∧ Unbroken (second :: numbers) :=
  List.isChain_cons_cons

theorem unbroken_snoc {number : Nat} {numbers : List Nat} :
    Unbroken (numbers ++ [number]) ↔
      Unbroken numbers ∧ ∀ previous ∈ numbers.getLast?, number ≤ previous + 1 := by
  rw [Unbroken, List.isChain_append]
  simp

theorem gapsFrom_eq_zero_iff (first : Nat) (numbers : List Nat) :
    gapsFrom first numbers = 0 ↔ Unbroken (first :: numbers) := by
  induction numbers generalizing first with
  | nil => exact iff_of_true rfl (.singleton _)
  | cons second numbers ih =>
      rw [gapsFrom, unbroken_cons_cons, ← ih second]
      omega

theorem gaps_eq_zero_iff (numbers : List Nat) : gaps numbers = 0 ↔ Unbroken numbers := by
  cases numbers with
  | nil => exact iff_of_true rfl .nil
  | cons first numbers => exact gapsFrom_eq_zero_iff first numbers

/-- What is received of an unbroken sequence after `previous`, when the sequence has
come to `current`, misses no more than was left out, and the lead of the one over the
other. -/
theorem gapsFrom_add_length_le {sent received : List Nat} {current : Nat} (previous : Nat)
    (unbroken : Unbroken (current :: sent)) (among : received.Sublist sent) :
    gapsFrom previous received + received.length ≤ sent.length + (current - previous) := by
  induction among generalizing current previous with
  | slnil => exact Nat.zero_le _
  | cons next _ ih =>
      obtain ⟨step, rest⟩ := unbroken_cons_cons.mp unbroken
      have later := ih previous rest
      rw [List.length_cons]
      omega
  | cons_cons next _ ih =>
      obtain ⟨step, rest⟩ := unbroken_cons_cons.mp unbroken
      have later := ih next rest
      rw [gapsFrom, List.length_cons, List.length_cons]
      omega

theorem gaps_add_length_le {sent received : List Nat} (unbroken : Unbroken sent)
    (among : received.Sublist sent) : gaps received + received.length ≤ sent.length := by
  induction among with
  | slnil => exact Nat.le_refl _
  | cons next _ ih =>
      rw [List.length_cons]
      exact Nat.le_succ_of_le (ih unbroken.tail)
  | cons_cons next among _ =>
      have later := gapsFrom_add_length_le next unbroken among
      rw [gaps, List.length_cons, List.length_cons]
      omega

/-- No part of a sequence misses more than was left out exactly if the sequence is
unbroken. -/
theorem gaps_le_left_out_iff (sent : List Nat) :
    (∀ received : List Nat, received.Sublist sent →
      gaps received ≤ sent.length - received.length) ↔ Unbroken sent := by
  constructor
  · intro bounded
    have whole := bounded sent (List.Sublist.refl sent)
    rw [Nat.sub_self] at whole
    exact (gaps_eq_zero_iff sent).mp (Nat.le_zero.mp whole)
  · intro unbroken received among
    have total := gaps_add_length_le unbroken among
    omega

/-! ### Sequences that go up -/

/-- The numbers from the first to the last of a sequence that are not in it. -/
def skipped : List Nat → Finset Nat
  | [] => ∅
  | first :: numbers => Finset.Icc first (numbers.getLastD first) \ (first :: numbers).toFinset

/-- In a sequence that goes up the holes and the numbers fill the way to its last. -/
theorem gapsFrom_add_length {first : Nat} {numbers : List Nat}
    (increasing : (first :: numbers).Pairwise (· < ·)) :
    first + gapsFrom first numbers + numbers.length = numbers.getLastD first := by
  induction numbers generalizing first with
  | nil => rfl
  | cons second numbers ih =>
      obtain ⟨above, rest⟩ := List.pairwise_cons.mp increasing
      have step := above second (List.mem_cons_self ..)
      have later := ih rest
      rw [gapsFrom, List.length_cons, List.getLastD_cons]
      omega

theorem mem_Icc_of_increasing {first : Nat} {numbers : List Nat}
    (increasing : (first :: numbers).Pairwise (· < ·)) :
    ∀ number ∈ first :: numbers, number ∈ Finset.Icc first (numbers.getLastD first) := by
  induction numbers generalizing first with
  | nil =>
      intro number listed
      rw [List.mem_singleton.mp listed]
      exact Finset.mem_Icc.mpr ⟨le_refl _, le_refl _⟩
  | cons second numbers ih =>
      obtain ⟨above, rest⟩ := List.pairwise_cons.mp increasing
      have step := above second (List.mem_cons_self ..)
      have last := (Finset.mem_Icc.mp (ih rest second (List.mem_cons_self ..))).2
      intro number listed
      rw [List.getLastD_cons, Finset.mem_Icc]
      rcases List.mem_cons.mp listed with rfl | later
      · omega
      · have between := Finset.mem_Icc.mp (ih rest number later)
        omega

/-- The holes of a sequence that goes up are the numbers it skips. -/
theorem gaps_eq_card_skipped {numbers : List Nat} (increasing : numbers.Pairwise (· < ·)) :
    gaps numbers = (skipped numbers).card := by
  cases numbers with
  | nil => rfl
  | cons first numbers =>
      have among : (first :: numbers).toFinset ⊆ Finset.Icc first (numbers.getLastD first) := by
        intro number listed
        exact mem_Icc_of_increasing increasing number (List.mem_toFinset.mp listed)
      have distinct : (first :: numbers).toFinset.card = numbers.length + 1 :=
        List.toFinset_card_of_nodup (increasing.imp Nat.ne_of_lt)
      have filled := gapsFrom_add_length increasing
      rw [gaps, skipped, Finset.card_sdiff_of_subset among, distinct, Nat.card_Icc]
      omega

end IceRpc.Lib
