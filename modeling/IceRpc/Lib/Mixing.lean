/-
Module: IceRpc.Lib.Mixing
Purpose: The steps that bit mixers are made of, over words of any width, as permutations:
  xor with a constant, xor with a shifted copy, multiplication by an invertible constant.
Trusted boundary: none
Main exports: xorShift, unshift, xorShiftPerm, xorPerm, mulPerm, or_one_eq_iff
-/
import Mathlib.Algebra.Group.Units.Equiv
import Mathlib.Data.BitVec

namespace IceRpc.Lib

variable {w : Nat}

/-! ### Xor with a shifted copy -/

/-- A word and its copy, shifted to the right. -/
def xorShift (shift : Nat) (word : BitVec w) : BitVec w := word ^^^ (word >>> shift)

/-- The word and so many of its copies, each shifted once more than the one before. -/
def unshift (shift : Nat) : Nat → BitVec w → BitVec w
  | 0, _ => 0
  | count + 1, word => word ^^^ (unshift shift count word >>> shift)

theorem xorShift_xor (shift : Nat) (first second : BitVec w) :
    xorShift shift (first ^^^ second) = xorShift shift first ^^^ xorShift shift second := by
  rw [xorShift, xorShift, xorShift, BitVec.ushiftRight_xor_distrib]
  ac_rfl

theorem xorShift_ushiftRight (shift amount : Nat) (word : BitVec w) :
    xorShift shift (word >>> amount) = xorShift shift word >>> amount := by
  rw [xorShift, xorShift, BitVec.ushiftRight_xor_distrib, ← BitVec.shiftRight_add,
    ← BitVec.shiftRight_add, Nat.add_comm]

/-- The copies cancel each other, all but the word and the last. -/
theorem xorShift_unshift (shift count : Nat) (word : BitVec w) :
    xorShift shift (unshift shift count word) = word ^^^ (word >>> (count * shift)) := by
  induction count with
  | zero => simp [unshift, xorShift]
  | succ count ih =>
      rw [unshift, xorShift_xor, xorShift_ushiftRight, ih, BitVec.ushiftRight_xor_distrib,
        ← BitVec.shiftRight_add, ← Nat.succ_mul, xorShift]
      -- What remains of the two sums is the same copy twice.
      rw [BitVec.xor_assoc, ← BitVec.xor_assoc (word >>> shift), BitVec.xor_self,
        BitVec.zero_xor]

theorem unshift_xorShift (shift count : Nat) (word : BitVec w) :
    unshift shift count (xorShift shift word) = xorShift shift (unshift shift count word) := by
  induction count with
  | zero => simp [unshift, xorShift]
  | succ count ih =>
      rw [unshift, unshift, ih, xorShift_xor, xorShift_ushiftRight]

theorem xorShift_unshift_of_le {shift count : Nat} (covers : w ≤ count * shift)
    (word : BitVec w) : xorShift shift (unshift shift count word) = word := by
  rw [xorShift_unshift, BitVec.ushiftRight_eq_zero covers, BitVec.xor_zero]

/-- Enough copies undo the step. -/
def xorShiftPerm (shift count : Nat) (covers : w ≤ count * shift) : Equiv.Perm (BitVec w) where
  toFun := xorShift shift
  invFun := unshift shift count
  left_inv word := by rw [unshift_xorShift, xorShift_unshift_of_le covers]
  right_inv word := xorShift_unshift_of_le covers word

/-! ### Constants -/

theorem xor_xor_self (constant word : BitVec w) : constant ^^^ (constant ^^^ word) = word := by
  rw [← BitVec.xor_assoc, BitVec.xor_self, BitVec.zero_xor]

/-- Xor with a constant, which undoes itself. -/
def xorPerm (constant : BitVec w) : Equiv.Perm (BitVec w) where
  toFun word := constant ^^^ word
  invFun word := constant ^^^ word
  left_inv word := xor_xor_self constant word
  right_inv word := xor_xor_self constant word

/-- Multiplication by a constant that has an inverse. -/
def mulPerm (multiplier inverse : BitVec w) (inverts : multiplier * inverse = 1) :
    Equiv.Perm (BitVec w) :=
  Units.mulRight ⟨multiplier, inverse, inverts, (mul_comm inverse multiplier).trans inverts⟩

/-! ### The lowest bit -/

/-- Setting the lowest bit identifies the words that differ in it, and no others. -/
theorem or_one_eq_iff {first second : BitVec w} :
    first ||| 1 = second ||| 1 ↔ first = second ∨ second = first ^^^ 1 := by
  constructor
  · intro same
    have bits (index : Nat) : (first ||| 1#w).getLsbD index = (second ||| 1#w).getLsbD index :=
      congrArg (BitVec.getLsbD · index) same
    simp only [BitVec.getLsbD_or, BitVec.getLsbD_one] at bits
    -- Above the lowest bit the words agree; there they agree or differ.
    by_cases lowest : first.getLsbD 0 = second.getLsbD 0
    · left
      apply BitVec.eq_of_getLsbD_eq
      intro index inside
      rcases Nat.eq_zero_or_pos index with rfl | above
      · exact lowest
      · simpa [above.ne'] using bits index
    · right
      apply BitVec.eq_of_getLsbD_eq
      intro index inside
      rw [BitVec.getLsbD_xor]
      rcases Nat.eq_zero_or_pos index with rfl | above
      · grind
      · simpa [above.ne'] using (bits index).symm
  · rintro (rfl | rfl)
    · rfl
    · apply BitVec.eq_of_getLsbD_eq
      intro index inside
      simp only [BitVec.getLsbD_or, BitVec.getLsbD_xor]
      cases first.getLsbD index <;> cases (1 : BitVec w).getLsbD index <;> rfl

end IceRpc.Lib
