/-
Module: IceRpc.Monitor.Histogram
Purpose: The fixed-bucket histograms of the monitor (`ice-rpc-monitor/src/metrics.rs`):
  observing a value, and what the renderers read from several of them
  (`ice-rpc-monitor/src/metrics/render.rs`).
Trusted boundary: numbers are exact, where the source computes with `f64`; counters do not
  wrap
Main exports: latencyBounds, payloadBounds, Histogram, Histogram.empty, Histogram.observe,
  merge, quantile
-/
import IceRpc.Lib.Rank
import Mathlib.Algebra.Order.Floor.Semiring
import Mathlib.Algebra.Field.Defs

namespace IceRpc

open Lib

/-! ### Observing -/

/-- `LATENCY_BOUNDS`, in seconds. -/
def latencyBounds (R : Type) [OfScientific R] : List R :=
  [0.0001, 0.00025, 0.0005, 0.001, 0.0025, 0.005, 0.01, 0.025, 0.05, 0.1, 0.25, 0.5, 1.0, 2.5,
    5.0, 10.0]

/-- `PAYLOAD_BOUNDS`, in bytes. -/
def payloadBounds (R : Type) [OfScientific R] : List R :=
  [16.0, 64.0, 256.0, 1024.0, 4096.0, 16384.0, 65536.0, 262144.0, 1048576.0]

/-- `Histogram`: cumulative counts, one per bound, and the sum and the number of the values
observed. -/
structure Histogram (R : Type) where
  buckets : List Nat
  sum : R
  count : Nat
deriving Repr, DecidableEq

/-- A loop over `slots.iter_mut().zip(others)`: slots without a partner stay as they are. -/
def updateZip {A B : Type} (update : A → B → A) : List A → List B → List A
  | slot :: slots, other :: others => update slot other :: updateZip update slots others
  | slots, _ => slots

namespace Histogram

variable {R : Type}

/-- `Histogram::empty`. -/
def empty [Zero R] (bounds : List R) : Histogram R where
  buckets := List.replicate bounds.length 0
  sum := 0
  count := 0

/-- `Histogram::observe`. -/
def observe [Add R] [LE R] [DecidableLE R] (histogram : Histogram R) (value : R)
    (bounds : List R) : Histogram R where
  buckets := updateZip (fun slot bound => if value ≤ bound then slot + 1 else slot)
    histogram.buckets bounds
  sum := histogram.sum + value
  count := histogram.count + 1

/-- One round of the loop of `merge`. -/
def add [Add R] (merged histogram : Histogram R) : Histogram R where
  buckets := updateZip (fun slot value => slot + value) merged.buckets histogram.buckets
  sum := merged.sum + histogram.sum
  count := merged.count + histogram.count

end Histogram

/-! ### Reading -/

section Reading

variable {R : Type}

/-- `merge`. -/
def merge [Zero R] [Add R] (histograms : List (Histogram R)) (bounds : List R) : Histogram R :=
  histograms.foldl Histogram.add (.empty bounds)

/-- `quantile`: the upper bound of a quantile, `f64::INFINITY` being the top of
`WithTop R`. -/
def quantile [Field R] [LinearOrder R] [FloorSemiring R] (histogram : Histogram R)
    (bounds : List R) (q : R) : Option (WithTop R) :=
  if histogram.count = 0 then
    none
  else
    let target := max ⌈q * (histogram.count : R)⌉₊ 1
    some (firstReaching target histogram.buckets bounds)

end Reading

end IceRpc
