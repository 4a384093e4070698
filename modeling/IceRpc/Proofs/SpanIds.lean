/-
Module: IceRpc.Proofs.SpanIds
Purpose: Which values of the span counter get one and the same span id: the mixing of
  `next_span_id` is a permutation of the words, and the bit it sets last joins them in pairs.
Trusted boundary: none
Main exports: spanPerm, nextSpanId_toBitVec, spanTwin, same_span_id_iff, spanTwin_ne,
  spanTwin_spanTwin, every_span_id_shared
-/
import IceRpc.Lib.Mixing
import IceRpc.Types.Context

namespace IceRpc

open Lib

/-- The SplitMix64 finalizer, which `next_span_id` applies before it sets the lowest bit. -/
def splitMix : Equiv.Perm (BitVec 64) :=
  (xorShiftPerm 30 3 (by decide)).trans <|
  (mulPerm 0xbf58476d1ce4e5b9 0x96de1b173f119089 (by decide)).trans <|
  (xorShiftPerm 27 3 (by decide)).trans <|
  (mulPerm 0x94d049bb133111eb 0x319642b2d24d8ec3 (by decide)).trans <|
  xorShiftPerm 31 3 (by decide)

/-- What a process makes of its counter, up to the lowest bit. -/
def spanPerm (pid : UInt32) : Equiv.Perm (BitVec 64) :=
  (xorPerm (pid.toUInt64 <<< 32).toBitVec).trans splitMix

theorem nextSpanId_toBitVec (mint : Mint) (taken : Taken) :
    (nextSpanId mint taken).1.toBitVec =
      spanPerm mint.pid (mint.spanCounter taken.spanIds).toBitVec ||| 1 := rfl

/-- The counter that differs from this one, once mixed, in the lowest bit. -/
def spanTwin (pid : UInt32) (counter : UInt64) : UInt64 :=
  .ofBitVec ((spanPerm pid).symm (spanPerm pid counter.toBitVec ^^^ 1))

section
variable (pid : UInt32) (counter : UInt64)

theorem spanPerm_spanTwin :
    spanPerm pid (spanTwin pid counter).toBitVec = spanPerm pid counter.toBitVec ^^^ 1 := by
  rw [spanTwin, UInt64.toBitVec_ofBitVec, Equiv.apply_symm_apply]

/-- The counters come in pairs. -/
theorem spanTwin_spanTwin : spanTwin pid (spanTwin pid counter) = counter := by
  rw [spanTwin, spanPerm_spanTwin, BitVec.xor_assoc, BitVec.xor_self, BitVec.xor_zero,
    Equiv.symm_apply_apply, UInt64.ofBitVec_toBitVec]

theorem spanTwin_ne : spanTwin pid counter ≠ counter := by
  intro same
  have mixed := spanPerm_spanTwin pid counter
  rw [same] at mixed
  have lowest := congrArg (BitVec.getLsbD · 0) mixed
  simp at lowest

end

/-- In one process two counters give the same span id only if they are the same or twins. -/
theorem same_span_id_iff (mint : Mint) (first second : Taken) :
    (nextSpanId mint first).1 = (nextSpanId mint second).1 ↔
      mint.spanCounter first.spanIds = mint.spanCounter second.spanIds ∨
        mint.spanCounter second.spanIds =
          spanTwin mint.pid (mint.spanCounter first.spanIds) := by
  rw [← UInt64.toBitVec_inj, nextSpanId_toBitVec, nextSpanId_toBitVec, or_one_eq_iff,
    (spanPerm mint.pid).injective.eq_iff, UInt64.toBitVec_inj, ← spanPerm_spanTwin,
    (spanPerm mint.pid).injective.eq_iff, UInt64.toBitVec_inj]

/-- No process is free of colliding counters: whatever the process id and the counter, another
value of the counter gives the same span id. -/
theorem every_span_id_shared (pid : UInt32) (counter : UInt64) :
    ∃ other, other ≠ counter ∧ ∀ (mint : Mint) (first second : Taken), mint.pid = pid →
      mint.spanCounter first.spanIds = counter → mint.spanCounter second.spanIds = other →
      (nextSpanId mint first).1 = (nextSpanId mint second).1 := by
  refine ⟨spanTwin pid counter, spanTwin_ne pid counter, ?_⟩
  rintro mint first second rfl rfl twin
  exact (same_span_id_iff mint first second).mpr (Or.inr twin)

/-- The lowest bit of a span id is set. -/
theorem nextSpanId_ne_zero (mint : Mint) (taken : Taken) : (nextSpanId mint taken).1 ≠ 0 := by
  intro zero
  have word := congrArg UInt64.toBitVec zero
  rw [nextSpanId_toBitVec] at word
  have lowest := congrArg (BitVec.getLsbD · 0) word
  simp at lowest

/-- Two counters of one process give two span ids, neither of them zero, exactly if the one
is not the twin of the other. -/
theorem span_ids_distinct_iff (mint : Mint) (first second : Taken)
    (counters : mint.spanCounter first.spanIds ≠ mint.spanCounter second.spanIds) :
    ((nextSpanId mint first).1 ≠ 0 ∧ (nextSpanId mint second).1 ≠ 0 ∧
      (nextSpanId mint first).1 ≠ (nextSpanId mint second).1) ↔
      mint.spanCounter second.spanIds ≠
        spanTwin mint.pid (mint.spanCounter first.spanIds) := by
  have zero := nextSpanId_ne_zero mint
  have same := same_span_id_iff mint first second
  constructor
  · rintro ⟨-, -, distinct⟩ twin
    exact distinct (same.mpr (Or.inr twin))
  · intro noTwin
    refine ⟨zero first, zero second, ?_⟩
    intro one
    rcases same.mp one with equal | twin
    · exact counters equal
    · exact noTwin twin

/-- The first two spans of a process. -/
theorem first_two_span_ids :
    let mint : Mint :=
      { pid := 1006
        correlationCounter := fun index => UInt64.ofNat (index + 1)
        spanCounter := fun index => UInt64.ofNat (index + 1) }
    (nextSpanId mint { correlationIds := 0, spanIds := 0 }).1 ≠
      (nextSpanId mint { correlationIds := 0, spanIds := 1 }).1 :=
  ((span_ids_distinct_iff _ { correlationIds := 0, spanIds := 0 }
    { correlationIds := 0, spanIds := 1 } (by decide)).mpr (by decide)).2.2

/-- A thread that takes two counter values, in between which other threads take the rest. -/
theorem two_spans_one_id :
    let mint : Mint :=
      { pid := 1006
        correlationCounter := fun index => UInt64.ofNat (index + 1)
        spanCounter := fun index => if index = 0 then 189408385 else 3731839022 }
    mint.spanCounter 0 ≠ mint.spanCounter 1 ∧
      (nextSpanId mint { correlationIds := 0, spanIds := 0 }).1 =
        (nextSpanId mint { correlationIds := 0, spanIds := 1 }).1 := by
  decide

end IceRpc
