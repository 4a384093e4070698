/-
Module: IceRpc.Rx.Transform.Filtering
Purpose: `filter`, `take`, `distinct_until_changed`, `skip` and `first_with`
  (`ice-rpc-rx/src/transform/filtering.rs`).
Trusted boundary: human-reviewed spec
Main exports: sieve, Filter, Take, DistinctUntilChanged, Skip, First
-/
import IceRpc.Rx.Stream

namespace IceRpc.Rx

open Lib

variable {S F T E : Type}

/-! ### Operators that drop values -/

/-- One turn of a loop that drops the values it does not accept and passes the rest
on. -/
def sieve {O : Type} [PollStream S (Event T E)] (source : O → S) (put : O → S → O)
    (accept : O → T → Bool × O) (cx : Context) (this : O) :
    Option (Turn O (Answer T E)) :=
  match PollStream.pollNext cx (source this) with
  | none => none
  | some (.ready (some (.next value)), source) =>
      let (accepted, this) := accept (put this source) value
      if accepted then some (.leave (.ready (some (.next value))) this)
      else some (.again this)
  | some (other, source) => some (.leave other (put this source))

/-! ### filter -/

structure Filter (S F : Type) where
  source : S
  f : F

namespace Filter

def new (source : S) (f : F) : Filter S F := { source := source, f := f }

variable [PollStream S (Event T E)] [FnMut F T Bool]

/-- The predicate, asked about a value. -/
def accept (this : Filter S F) (value : T) : Bool × Filter S F :=
  let (accepted, f) := FnMut.call this.f value
  (accepted, { this with f := f })

/-- `Filter::poll_next`. -/
def pollNext (cx : Context) (this : Filter S F) :
    Option (Answer T E × Filter S F) :=
  loop (sieve Filter.source (fun this source => { this with source := source }) accept cx)
    cx.turns this

instance : PollStream (Filter S F) (Event T E) where
  pollNext := pollNext

end Filter

/-! ### take -/

structure Take (S : Type) where
  source : S
  remaining : Nat
  done : Bool

namespace Take

def new (source : S) (n : Nat) : Take S :=
  { source := source, remaining := n, done := false }

variable [PollStream S (Event T E)]

/-- `Take::poll_next`. -/
def pollNext (cx : Context) (this : Take S) :
    Option (Answer T E × Take S) :=
  if this.done then
    some (.ready none, this)
  else if this.remaining = 0 then
    some (.ready (some .complete), { this with done := true })
  else
    match PollStream.pollNext cx this.source with
    | none => none
    | some (.ready (some (.next value)), source) =>
        some (.ready (some (.next value)),
          { this with source := source, remaining := this.remaining - 1 })
    | some (.ready (some other), source) =>
        some (.ready (some other), { this with source := source, done := true })
    | some (.ready none, source) =>
        some (.ready none, { this with source := source, done := true })
    | some (.pending, source) => some (.pending, { this with source := source })

instance : PollStream (Take S) (Event T E) where
  pollNext := pollNext

end Take

/-! ### distinct_until_changed -/

structure DistinctUntilChanged (S T : Type) where
  source : S
  last : Option T

namespace DistinctUntilChanged

def new (source : S) : DistinctUntilChanged S T := { source := source, last := none }

variable [PollStream S (Event T E)] [BEq T]

/-- A value is compared against the last emitted one only. -/
def accept (this : DistinctUntilChanged S T) (value : T) :
    Bool × DistinctUntilChanged S T :=
  if this.last != some value then (true, { this with last := some value })
  else (false, this)

/-- `DistinctUntilChanged::poll_next`. -/
def pollNext (cx : Context) (this : DistinctUntilChanged S T) :
    Option (Answer T E × DistinctUntilChanged S T) :=
  loop (sieve DistinctUntilChanged.source (fun this source => { this with source := source })
    accept cx) cx.turns this

instance : PollStream (DistinctUntilChanged S T) (Event T E) where
  pollNext := pollNext

end DistinctUntilChanged

/-! ### skip -/

structure Skip (S : Type) where
  source : S
  remaining : Nat

namespace Skip

def new (source : S) (n : Nat) : Skip S := { source := source, remaining := n }

variable [PollStream S (Event T E)]

/-- Values are dropped while some remain to be skipped. -/
def accept (this : Skip S) (_ : T) : Bool × Skip S :=
  if this.remaining > 0 then (false, { this with remaining := this.remaining - 1 })
  else (true, this)

/-- `Skip::poll_next`. -/
def pollNext (cx : Context) (this : Skip S) :
    Option (Answer T E × Skip S) :=
  loop (sieve Skip.source (fun this source => { this with source := source }) accept cx)
    cx.turns this

instance : PollStream (Skip S) (Event T E) where
  pollNext := pollNext

end Skip

/-! ### first, first_with -/

structure First (S F : Type) where
  source : S
  f : F
  completed : Bool
  done : Bool

namespace First

def new (source : S) (f : F) : First S F :=
  { source := source, f := f, completed := false, done := false }

variable [PollStream S (Event T E)] [FnMut F T Bool]

/-- One turn of the loop of `First::poll_next`. -/
def turn (cx : Context) (this : First S F) :
    Option (Turn (First S F) (Answer T E)) :=
  match PollStream.pollNext cx this.source with
  | none => none
  | some (.ready (some (.next value)), source) =>
      let (found, f) := FnMut.call this.f value
      if found then
        some (.leave (.ready (some (.next value)))
          { this with source := source, f := f, completed := true })
      else
        some (.again { this with source := source, f := f })
  | some (.ready (some other), source) =>
      some (.leave (.ready (some other)) { this with source := source, done := true })
  | some (.ready none, source) => some (.leave (.ready none) { this with source := source })
  | some (.pending, source) => some (.leave .pending { this with source := source })

/-- `First::poll_next`. -/
def pollNext (cx : Context) (this : First S F) :
    Option (Answer T E × First S F) :=
  if this.done then
    some (.ready none, this)
  else if this.completed then
    some (.ready (some .complete), { this with done := true })
  else
    loop (turn cx) cx.turns this

instance : PollStream (First S F) (Event T E) where
  pollNext := pollNext

end First

/-! ### The methods -/

namespace Observable

/-- `Observable::filter`. -/
def filter [FnMut F T Bool] (contexts : Stream' Context) (source : Observable T E)
    (predicate : F) : Observable T E :=
  fromStream contexts (Filter.new source predicate)

/-- `Observable::take`. -/
def take (contexts : Stream' Context) (source : Observable T E) (n : Nat) :
    Observable T E :=
  fromStream contexts (Take.new source n)

/-- `Observable::distinct_until_changed`. -/
def distinctUntilChanged [BEq T] (contexts : Stream' Context) (source : Observable T E) :
    Observable T E :=
  fromStream contexts (DistinctUntilChanged.new (T := T) source)

/-- `Observable::skip`. -/
def skip (contexts : Stream' Context) (source : Observable T E) (n : Nat) :
    Observable T E :=
  fromStream contexts (Skip.new source n)

/-- `Observable::first_with`. -/
def firstWith [FnMut F T Bool] (contexts : Stream' Context) (source : Observable T E)
    (predicate : F) : Observable T E :=
  fromStream contexts (First.new source predicate)

/-- `Observable::first`. -/
def first (contexts : Stream' Context) (source : Observable T E) : Observable T E :=
  firstWith contexts source fun _ : T => true

end Observable

end IceRpc.Rx
