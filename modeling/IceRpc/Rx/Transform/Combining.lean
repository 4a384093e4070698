/-
Module: IceRpc.Rx.Transform.Combining
Purpose: `start_with` and `merge` (`ice-rpc-rx/src/transform/combining.rs`).
Trusted boundary: human-reviewed spec
Main exports: StartWith, Merge
-/
import IceRpc.Rx.Stream

namespace IceRpc.Rx

open Lib

variable {S A B T E : Type}

/-! ### start_with -/

structure StartWith (S T : Type) where
  source : S
  first : Option T

namespace StartWith

def new (source : S) (value : T) : StartWith S T := { source := source, first := some value }

/-- `StartWith::poll_next`. -/
def pollNext [PollStream S (Event T E)] (cx : Context) (this : StartWith S T) :
    Option (Answer T E × StartWith S T) :=
  match this.first with
  | some value => some (.ready (some (.next value)), { this with first := none })
  | none =>
      match PollStream.pollNext cx this.source with
      | none => none
      | some (polled, source) => some (polled, { this with source := source })

instance [PollStream S (Event T E)] : PollStream (StartWith S T) (Event T E) where
  pollNext := pollNext

end StartWith

/-! ### merge -/

structure Merge (A B : Type) where
  left : A
  right : B
  leftDone : Bool
  rightDone : Bool
  completed : Bool
  /-- Which source is polled first in the next pass. -/
  leftFirst : Bool

namespace Merge

def new (left : A) (right : B) : Merge A B :=
  { left := left, right := right, leftDone := false, rightDone := false,
    completed := false, leftFirst := true }

/-- The match on the answer of one source; `ended` is the merge with that source
marked done. -/
def heed (this ended : Merge A B) :
    Answer T E → Turn (Merge A B) (Answer T E)
  | .ready (some (.next value)) => .leave (.ready (some (.next value))) this
  | .ready (some (.error err)) =>
      .leave (.ready (some (.error err))) { this with completed := true }
  | .ready (some .complete) | .ready none => .again ended
  | .pending => .again this

variable [PollStream A (Event T E)] [PollStream B (Event T E)]

/-- One round of the `for` over the two sources. -/
def pollSide (cx : Context) (left : Bool) (this : Merge A B) :
    Option (Turn (Merge A B) (Answer T E)) :=
  if left then
    if this.leftDone then
      some (.again this)
    else
      match PollStream.pollNext cx this.left with
      | none => none
      | some (polled, source) =>
          some (heed { this with left := source }
            { this with left := source, leftDone := true } polled)
  else if this.rightDone then
    some (.again this)
  else
    match PollStream.pollNext cx this.right with
    | none => none
    | some (polled, source) =>
        some (heed { this with right := source }
          { this with right := source, rightDone := true } polled)

/-- The `for` over the two sources, in the order of this pass. -/
def pollSides (cx : Context) (leftFirst : Bool) (this : Merge A B) :
    Option (Turn (Merge A B) (Answer T E)) :=
  match pollSide cx leftFirst this with
  | some (.again next) => pollSide cx (!leftFirst) next
  | other => other

/-- One turn of the loop of `Merge::poll_next`. -/
def turn (cx : Context) (this : Merge A B) :
    Option (Turn (Merge A B) (Answer T E)) :=
  if this.completed then
    some (.leave (.ready none) this)
  else if this.leftDone && this.rightDone then
    some (.leave (.ready (some .complete)) { this with completed := true })
  else
    match pollSides cx this.leftFirst { this with leftFirst := !this.leftFirst } with
    | some (.again next) =>
        -- both ended during this pass: go back and emit the single `Complete`
        if next.leftDone && next.rightDone then some (.again next)
        else some (.leave .pending next)
    | other => other

/-- `Merge::poll_next`. -/
def pollNext (cx : Context) (this : Merge A B) :
    Option (Answer T E × Merge A B) :=
  loop (turn cx) cx.turns this

instance : PollStream (Merge A B) (Event T E) where
  pollNext := pollNext

end Merge

/-! ### The methods -/

namespace Observable

/-- `Observable::start_with`. -/
def startWith (contexts : Stream' Context) (source : Observable T E) (value : T) :
    Observable T E :=
  fromStream contexts (StartWith.new source value)

/-- `Observable::merge`. -/
def merge (contexts : Stream' Context) (source other : Observable T E) : Observable T E :=
  fromStream contexts (Merge.new source other)

end Observable

end IceRpc.Rx
