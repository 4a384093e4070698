/-
Module: IceRpc.Lib.Chunks
Purpose: A list cut into chunks of one size, with what is left over.
Trusted boundary: none
Main exports: asChunks, asChunks_append, asChunks_of_length_eq
-/
import Mathlib.Data.List.Basic

namespace IceRpc.Lib

variable {α : Type*} {size : Nat} {items : List α}

/-- The chunks, each of the given size, and the rest, which is shorter. -/
def asChunks (size : Nat) (items : List α) : List (List α) × List α :=
  let count := items.length / size
  ((List.range count).map fun index => (items.drop (size * index)).take size,
    items.drop (size * count))

/-- After whole chunks the cut starts afresh. -/
theorem asChunks_append {first : List α} (positive : 0 < size) (whole : size ∣ first.length)
    (second : List α) :
    asChunks size (first ++ second) =
      ((asChunks size first).1 ++ (asChunks size second).1, (asChunks size second).2) := by
  obtain ⟨count, length⟩ := whole
  have number : (first ++ second).length / size = count + second.length / size := by
    rw [List.length_append, length, Nat.mul_add_div positive]
  have own : first.length / size = count := by
    rw [length, Nat.mul_div_cancel_left count positive]
  have later (index : Nat) :
      (first ++ second).drop (size * (count + index)) = second.drop (size * index) := by
    rw [Nat.mul_add, ← length, List.drop_append]
    simp
  simp only [asChunks, number, own, later, List.range_add, List.map_append, List.map_map]
  congr 2
  · apply List.map_congr_left
    intro index member
    -- A chunk of the first list ends inside it.
    have inside : size * index + size ≤ first.length := by
      rw [length, ← Nat.mul_succ]
      exact Nat.mul_le_mul_left size (List.mem_range.mp member)
    rw [List.drop_append_of_le_length (by omega), List.take_append_of_le_length]
    rw [List.length_drop]
    omega
  · apply List.map_congr_left
    intro index _
    exact congrArg (List.take size) (later index)

theorem asChunks_of_length_eq (positive : 0 < size) (full : items.length = size) :
    asChunks size items = ([items], []) := by
  have one : items.length / size = 1 := by
    rw [full, Nat.div_self positive]
  simp only [asChunks, one, Nat.mul_one]
  simp [← full]

end IceRpc.Lib
