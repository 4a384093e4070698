/-
Module: IceRpc.Rx.Transform.Transforming
Purpose: `map`, `map_err`, `scan` and `switch_map`
  (`ice-rpc-rx/src/transform/transforming.rs`).
Trusted boundary: human-reviewed spec
Main exports: Map, MapErr, Scan, SourceEnd, SwitchMap
-/
import IceRpc.Rx.Stream

namespace IceRpc.Rx

open Lib

variable {S F P T U E E2 : Type}

/-! ### map -/

structure Map (S F : Type) where
  source : S
  f : F

namespace Map

def new (source : S) (f : F) : Map S F := { source := source, f := f }

/-- What becomes of an answer of the source. -/
def react [FnMut F T U] (this : Map S F) (source : S) :
    Option (Event T E) → Option (Event U E) × Map S F
  | some (.next value) =>
      let (mapped, f) := FnMut.call this.f value
      (some (.next mapped), { source := source, f := f })
  | some .complete => (some .complete, { this with source := source })
  | some (.error err) => (some (.error err), { this with source := source })
  | none => (none, { this with source := source })

/-- `Map::poll_next`. -/
def pollNext [PollStream S (Event T E)] [FnMut F T U] (cx : Context) (this : Map S F) :
    Option (Answer U E × Map S F) :=
  passOn cx this.source (fun source => { this with source := source }) this.react

instance [PollStream S (Event T E)] [FnMut F T U] : PollStream (Map S F) (Event U E) where
  pollNext := pollNext

end Map

/-! ### map_err -/

structure MapErr (S F : Type) where
  source : S
  f : F

namespace MapErr

def new (source : S) (f : F) : MapErr S F := { source := source, f := f }

/-- What becomes of an answer of the source: only the business error is remapped. -/
def react [FnMut F E E2] (this : MapErr S F) (source : S) :
    Option (Event T E) → Option (Event T E2) × MapErr S F
  | some (.next value) => (some (.next value), { this with source := source })
  | some (.error (.business err)) =>
      let (mapped, f) := FnMut.call this.f err
      (some (.error (.business mapped)), { source := source, f := f })
  | some (.error (.technical err)) =>
      (some (.error (.technical err)), { this with source := source })
  | some (.error .empty) => (some (.error .empty), { this with source := source })
  | some .complete => (some .complete, { this with source := source })
  | none => (none, { this with source := source })

/-- `MapErr::poll_next`. -/
def pollNext [PollStream S (Event T E)] [FnMut F E E2] (cx : Context)
    (this : MapErr S F) : Option (Answer T E2 × MapErr S F) :=
  passOn cx this.source (fun source => { this with source := source }) this.react

instance [PollStream S (Event T E)] [FnMut F E E2] :
    PollStream (MapErr S F) (Event T E2) where
  pollNext := pollNext

end MapErr

/-! ### scan -/

/-- `acc` is `Some` between two polls: it is taken and set again in one of them. -/
structure Scan (S F U : Type) where
  source : S
  f : F
  acc : U

namespace Scan

def new (source : S) (initial : U) (f : F) : Scan S F U :=
  { source := source, f := f, acc := initial }

/-- What becomes of an answer of the source. -/
def react [FnMut F (U × T) U] (this : Scan S F U) (source : S) :
    Option (Event T E) → Option (Event U E) × Scan S F U
  | some (.next value) =>
      let (acc, f) := FnMut.call this.f (this.acc, value)
      (some (.next acc), { source := source, f := f, acc := acc })
  | some .complete => (some .complete, { this with source := source })
  | some (.error err) => (some (.error err), { this with source := source })
  | none => (none, { this with source := source })

/-- `Scan::poll_next`. -/
def pollNext [PollStream S (Event T E)] [FnMut F (U × T) U] (cx : Context)
    (this : Scan S F U) : Option (Answer U E × Scan S F U) :=
  passOn cx this.source (fun source => { this with source := source }) this.react

instance [PollStream S (Event T E)] [FnMut F (U × T) U] :
    PollStream (Scan S F U) (Event U E) where
  pollNext := pollNext

end Scan

/-! ### switch_map -/

/-- How the source of a `SwitchMap` ended. -/
inductive SourceEnd where
  | completed
  | closed
deriving Repr, DecidableEq

structure SwitchMap (S F P : Type) where
  source : S
  f : F
  /-- The projected stream, replaced on every new source value. -/
  projected : Option P
  sourceEnd : Option SourceEnd
  /-- Our own terminal has been emitted. -/
  finished : Bool

namespace SwitchMap

def new (source : S) (f : F) : SwitchMap S F P :=
  { source := source, f := f, projected := none, sourceEnd := none, finished := false }

variable [PollStream S (Event T E)] [PollStream P (Event U E)] [FnMut F T P]

/-- The rest of a turn, once the projected stream had its poll. -/
def pollSource (cx : Context) (this : SwitchMap S F P) :
    Option (Turn (SwitchMap S F P) (Answer U E)) :=
  match this.sourceEnd with
  | some ending =>
      match this.projected with
      | none =>
          match ending with
          | .completed => some (.leave (.ready (some .complete)) { this with finished := true })
          | .closed => some (.leave (.ready none) { this with finished := true })
      -- the source must not be read again
      | some _ => some (.leave .pending this)
  | none =>
      match PollStream.pollNext cx this.source with
      | none => none
      | some (.ready (some (.next value)), source) =>
          let (projected, f) := FnMut.call this.f value
          some (.again { this with source := source, f := f, projected := some projected })
      | some (.ready (some .complete), source) =>
          some (.again { this with source := source, sourceEnd := some .completed })
      | some (.ready (some (.error err)), source) =>
          some (.leave (.ready (some (.error err)))
            { this with source := source, finished := true })
      | some (.ready none, source) =>
          some (.again { this with source := source, sourceEnd := some .closed })
      | some (.pending, source) => some (.leave .pending { this with source := source })

/-- One turn of the loop of `SwitchMap::poll_next`. -/
def turn (cx : Context) (this : SwitchMap S F P) :
    Option (Turn (SwitchMap S F P) (Answer U E)) :=
  if this.finished then
    some (.leave (.ready none) this)
  else
    match this.projected with
    | none => this.pollSource cx
    | some projected =>
        match PollStream.pollNext cx projected with
        | none => none
        | some (.ready (some (.next value)), projected) =>
            some (.leave (.ready (some (.next value)))
              { this with projected := some projected })
        | some (.ready (some (.error err)), projected) =>
            some (.leave (.ready (some (.error err)))
              { this with projected := some projected, finished := true })
        | some (.ready (some .complete), _) | some (.ready none, _) =>
            pollSource cx { this with projected := none }
        | some (.pending, projected) =>
            pollSource cx { this with projected := some projected }

/-- `SwitchMap::poll_next`. -/
def pollNext (cx : Context) (this : SwitchMap S F P) :
    Option (Answer U E × SwitchMap S F P) :=
  loop (turn cx) cx.turns this

instance : PollStream (SwitchMap S F P) (Event U E) where
  pollNext := pollNext

end SwitchMap

/-! ### The methods -/

namespace Observable

/-- `Observable::map`. -/
def map [FnMut F T U] (contexts : Stream' Context) (source : Observable T E) (f : F) :
    Observable U E :=
  fromStream contexts (Map.new source f)

/-- `Observable::map_err`. -/
def mapErr [FnMut F E E2] (contexts : Stream' Context) (source : Observable T E) (f : F) :
    Observable T E2 :=
  fromStream contexts (MapErr.new source f)

/-- `Observable::scan`. -/
def scan [FnMut F (U × T) U] (contexts : Stream' Context) (source : Observable T E)
    (initial : U) (f : F) : Observable U E :=
  fromStream contexts (Scan.new source initial f)

/-- `Observable::switch_map`. -/
def switchMap [FnMut F T (Observable U E)] (contexts : Stream' Context)
    (source : Observable T E) (f : F) : Observable U E :=
  fromStream contexts (SwitchMap.new (P := Observable U E) source f)

end Observable

end IceRpc.Rx
