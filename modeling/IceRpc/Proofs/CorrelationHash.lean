/-
Module: IceRpc.Proofs.CorrelationHash
Purpose: The hash of correlation ids: a round of the hasher and its finish are permutations
  of the words, so the ids of one process have hashes of their own; and what a sequence of
  writes depends on.
Trusted boundary: none
Main exports: FxHasher.roundPerm, FxHasher.finishPerm, FxHasher.write_append
-/
import IceRpc.Hash
import IceRpc.Lib.Mixing
import IceRpc.Types.Context

namespace IceRpc

open Lib

/-! ### Bytes and words -/

/-- Eight bytes are determined by the word they make. -/
theorem fromLeBytes_injective {first second : List UInt8} (firstWord : first.length = 8)
    (secondWord : second.length = 8) (same : fromLeBytes first = fromLeBytes second) :
    first = second := by
  have digit (bytes : List UInt8) : ∀ digit ∈ bytes.map UInt8.toNat, digit < 256 := by
    simp only [List.forall_mem_map]
    intro byte _
    exact byte.toNat_lt
  have fits {bytes : List UInt8} (word : bytes.length = 8) :
      Nat.ofDigits 256 (bytes.map UInt8.toNat) < 2 ^ 64 := by
    have bound := Nat.ofDigits_lt_base_pow_length (by decide) (digit bytes)
    rw [List.length_map, word] at bound
    exact bound
  have values := congrArg UInt64.toNat same
  rw [fromLeBytes, fromLeBytes, UInt64.toNat_ofNat_of_lt' (fits firstWord),
    UInt64.toNat_ofNat_of_lt' (fits secondWord)] at values
  have digits := Nat.ofDigits_inj_of_len_eq (by decide)
    (by rw [List.length_map, List.length_map, firstWord, secondWord]) (digit first)
    (digit second) values
  exact List.map_injective_iff.mpr (fun _ _ => UInt8.toNat_inj.mp) digits

theorem beBytes_toNat (value : UInt64) (index : Nat) (inside : index < 8) :
    (beBytes value)[index].toNat = value.toNat / 2 ^ (56 - 8 * index) % 2 ^ 8 := by
  have small : 56 - 8 * index < 64 := by omega
  have shift : (UInt64.ofNat (56 - 8 * index)).toNat % 64 = 56 - 8 * index := by
    rw [UInt64.toNat_ofNat_of_lt' (small.trans (by decide)), Nat.mod_eq_of_lt small]
  rw [beBytes, Vector.getElem_ofFn, UInt64.toNat_toUInt8, UInt64.toNat_shiftRight, shift,
    Nat.shiftRight_eq_div_pow]

/-- Every bit of the value is a bit of one of the bytes. -/
theorem testBit_beBytes (value : UInt64) {bit index : Nat} (inside : index < 8)
    (byte : index + bit / 8 = 7) :
    value.toNat.testBit bit = (beBytes value)[index].toNat.testBit (bit % 8) := by
  have shift : 56 - 8 * index = 8 * (bit / 8) := by omega
  have place : bit % 8 + 8 * (bit / 8) = bit := Nat.mod_add_div bit 8
  rw [beBytes_toNat, shift, Nat.testBit_mod_two_pow, Nat.testBit_div_two_pow,
    decide_eq_true (Nat.mod_lt bit (by decide)), Bool.true_and, place]

theorem beBytes_injective : Function.Injective beBytes := by
  intro first second same
  apply UInt64.toNat_inj.mp
  apply Nat.eq_of_testBit_eq
  intro bit
  by_cases inside : bit < 64
  · have byte : 7 - bit / 8 + bit / 8 = 7 := by omega
    have bounded : 7 - bit / 8 < 8 := by omega
    rw [testBit_beBytes first bounded byte, testBit_beBytes second bounded byte, same]
  · have above (value : UInt64) : value.toNat.testBit bit = false := by
      apply Nat.testBit_lt_two_pow
      exact value.toNat_lt.trans_le (Nat.pow_le_pow_right (by decide) (Nat.le_of_not_lt inside))
    rw [above, above]

namespace FxHasher

variable (hasher : FxHasher)

/-! ### Writes -/

theorem write_of_length_eq {bytes : List UInt8} (word : bytes.length = 8) :
    hasher.write bytes = hasher.add (fromLeBytes bytes) := by
  rw [write, asChunks_of_length_eq (by decide) word]
  rfl

/-- After whole words, writing on is writing the concatenation. -/
theorem write_append {first : List UInt8} (whole : 8 ∣ first.length) (second : List UInt8) :
    (hasher.write first).write second = hasher.write (first ++ second) := by
  have noTail : (asChunks 8 first).2 = [] := by
    rw [asChunks, Nat.mul_div_cancel' whole, List.drop_length]
  simp only [write, asChunks_append (by decide) whole, noTail, List.foldl_append,
    List.isEmpty_nil, if_true]

/-! ### A round and the finish -/

/-- A round, as a function of the word it adds. -/
def roundPerm : Equiv.Perm (BitVec 64) :=
  (xorPerm (rotateLeft hasher.hash 5).toBitVec).trans
    (mulPerm seed.toBitVec 0x2040003d780970bd (by decide))

theorem add_toBitVec (word : UInt64) :
    (hasher.add word).hash.toBitVec = hasher.roundPerm word.toBitVec := rfl

theorem add_injective : Function.Injective hasher.add := by
  intro first second same
  have hashes := congrArg (fun hasher => hasher.hash.toBitVec) same
  simp only [add_toBitVec] at hashes
  exact UInt64.toBitVec_inj.mp (hasher.roundPerm.injective hashes)

/-- The finish, as a function of the state. -/
def finishPerm : Equiv.Perm (BitVec 64) :=
  (xorShiftPerm 32 2 (by decide)).trans <|
  (mulPerm 0xd6e8feb86659fd93 0xcfee444d8b59a89b (by decide)).trans <|
  xorShiftPerm 32 2 (by decide)

theorem finish_toBitVec : hasher.finish.toBitVec = finishPerm hasher.hash.toBitVec := rfl

theorem finish_injective : Function.Injective finish := by
  intro first second same
  have words := congrArg UInt64.toBitVec same
  rw [finish_toBitVec, finish_toBitVec] at words
  have states := UInt64.toBitVec_inj.mp (finishPerm.injective words)
  exact congrArg FxHasher.mk states

end FxHasher

/-! ### Correlation ids -/

/-- The counter of an id is the last word that is added to its hash. -/
theorem hashOne_append (process : Vector UInt8 8) (counter : UInt64) :
    hashOne (process ++ beBytes counter) =
      (((FxHasher.default.writeUsize 16).add (fromLeBytes process.toList)).add
        (fromLeBytes (beBytes counter).toList)).finish := by
  have whole : 8 ∣ process.toList.length := by
    rw [Vector.length_toList]
  have written := (FxHasher.default.writeUsize 16).write_append whole (beBytes counter).toList
  rw [FxHasher.write_of_length_eq _ Vector.length_toList,
    FxHasher.write_of_length_eq _ Vector.length_toList, ← Vector.toList_append] at written
  exact congrArg FxHasher.finish written.symm

theorem hashOne_injective (process : Vector UInt8 8) :
    Function.Injective fun counter : UInt64 => hashOne (process ++ beBytes counter) := by
  intro first second same
  simp only [hashOne_append] at same
  have words := FxHasher.add_injective _ (FxHasher.finish_injective same)
  have bytes := fromLeBytes_injective Vector.length_toList Vector.length_toList words
  exact beBytes_injective (Vector.toList_inj.mp bytes)

/-- The ids of one process have hashes of their own, and a write after whole words goes on as
if it were the same write. -/
theorem correlation_hash_injective :
    (∀ process : Vector UInt8 8, Function.Injective fun counter : UInt64 =>
      hashOne (process ++ beBytes counter)) ∧
    ∀ (hasher : FxHasher) (first second : List UInt8), 8 ∣ first.length →
      (hasher.write first).write second = hasher.write (first ++ second) := by
  constructor
  · exact hashOne_injective
  · intro hasher first second whole
    exact hasher.write_append whole second

theorem correlation_hash_of_one_process :
    hashOne (beBytes 4242 ++ beBytes 0) ≠ hashOne (beBytes 4242 ++ beBytes 1) ∧
    8 ∣ (beBytes 4242).toList.length ∧
    (FxHasher.default.write (beBytes 4242).toList).write [1, 2, 3] =
      FxHasher.default.write ((beBytes 4242).toList ++ [1, 2, 3]) := by
  refine ⟨?_, by decide, correlation_hash_injective.2 _ _ _ (by decide)⟩
  intro same
  exact absurd (correlation_hash_injective.1 (beBytes 4242) same) (by decide)

end IceRpc
