/-
Module: IceRpc.Hash
Purpose: The hasher of the maps that are keyed by correlation ids (`ice-rpc/src/hash.rs`).
Trusted boundary: human-reviewed spec; a `usize` has 64 bits
Main exports: fromLeBytes, FxHasher, FxHasher.write, FxHasher.finish, hashOne
-/
import IceRpc.Lib.Chunks
import IceRpc.Types.Header
import Mathlib.Data.Nat.Digits.Defs

namespace IceRpc

open Lib

/-- `u64::from_le_bytes`. -/
def fromLeBytes (bytes : List UInt8) : UInt64 :=
  UInt64.ofNat (Nat.ofDigits 256 (bytes.map UInt8.toNat))

/-- `FxHasher`. -/
structure FxHasher where
  hash : UInt64
deriving Repr, DecidableEq

namespace FxHasher

/-- `FxHasher::default`. -/
def default : FxHasher := { hash := 0 }

/-- `FxHasher::SEED`. -/
def seed : UInt64 := 0x517cc1b727220a95

/-- `u64::rotate_left`. -/
def rotateLeft (word : UInt64) (count : Nat) : UInt64 :=
  .ofBitVec (word.toBitVec.rotateLeft count)

/-- `FxHasher::add`. -/
def add (hasher : FxHasher) (word : UInt64) : FxHasher :=
  { hash := (rotateLeft hasher.hash 5 ^^^ word) * seed }

/-- `FxHasher::write`: eight bytes at a time; the tail is padded with zeros. -/
def write (hasher : FxHasher) (bytes : List UInt8) : FxHasher :=
  let (chunks, tail) := asChunks 8 bytes
  let hasher := chunks.foldl (fun hasher chunk => hasher.add (fromLeBytes chunk)) hasher
  if tail.isEmpty then hasher
  else hasher.add (fromLeBytes (tail ++ List.replicate (8 - tail.length) 0))

/-- `FxHasher::write_u8`. -/
def writeU8 (hasher : FxHasher) (value : UInt8) : FxHasher := hasher.add value.toUInt64

/-- `FxHasher::write_u32`. -/
def writeU32 (hasher : FxHasher) (value : UInt32) : FxHasher := hasher.add value.toUInt64

/-- `FxHasher::write_u64`. -/
def writeU64 (hasher : FxHasher) (value : UInt64) : FxHasher := hasher.add value

/-- `FxHasher::write_usize`. -/
def writeUsize (hasher : FxHasher) (value : UInt64) : FxHasher := hasher.add value

/-- `FxHasher::finish`. -/
def finish (hasher : FxHasher) : UInt64 :=
  let hash := hasher.hash
  let hash := hash ^^^ (hash >>> 32)
  let hash := hash * 0xd6e8feb86659fd93
  hash ^^^ (hash >>> 32)

end FxHasher

/-- `BuildHasher::hash_one` of a correlation id, for the hasher of `FastMap`: an array is
hashed as its length and then its bytes. -/
def hashOne (key : CorrelationId) : UInt64 :=
  let hasher := FxHasher.default.writeUsize (UInt64.ofNat correlationIdLen)
  (hasher.write key.toList).finish

end IceRpc
