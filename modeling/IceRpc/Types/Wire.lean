/-
Module: IceRpc.Types.Wire
Purpose: The wire representation of a stream event and its conversions
  (`ice-rpc/src/types/wire.rs`), and the rkyv codec the transport is built on.
Trusted boundary: the codec is a parameter; `RoundTrips`, `Total` and
  `FoldsAlike` name what the transport relies on
Main exports: WireEvent, WireEvent.ofEvent, normalizeWireEvent, Event.onWire,
  Rkyv
-/
import IceRpc.Types.Event
import IceRpc.Types.Header

namespace IceRpc

/-- Transport-level event: `Event` plus the single-sample `completeWith`. -/
inductive WireEvent (T E : Type) where
  | next (value : T)
  | complete
  | completeWith (value : T)
  | error (error : E)
  | rpcError (error : RpcError)
deriving Repr, DecidableEq

variable {T E : Type}

namespace WireEvent

/-- `WireEvent::is_terminal`. -/
def isTerminal : WireEvent T E → Bool
  | .next _ => false
  | .complete | .completeWith _ | .error _ | .rpcError _ => true

/-- `WireEvent::kind`: the kind stamped in the zero-copy header. -/
def kind : WireEvent T E → EventKind
  | .next _ => .next
  | .complete | .completeWith _ => .complete
  | .error _ => .error
  | .rpcError _ => .rpcError

/-- `From<Event>`: a business error becomes `error`, a technical one `rpcError`,
and `Empty` just ends the stream. -/
def ofEvent : Event T E → WireEvent T E
  | .next value => .next value
  | .complete => .complete
  | .error (.business err) => .error err
  | .error (.technical err) => .rpcError err
  | .error .empty => .complete

@[simp] theorem kind_isTerminal (wire : WireEvent T E) :
    wire.kind.isTerminal = wire.isTerminal := by
  cases wire <;> rfl

@[simp] theorem ofEvent_isTerminal (event : Event T E) :
    (ofEvent event).isTerminal = event.isTerminal := by
  rcases event with _ | _ | (_ | _ | _) <;> rfl

end WireEvent

/-- `normalize_wire_event`: the event to yield now and an optional follow-up. -/
def normalizeWireEvent : WireEvent T E → Event T E × Option (Event T E)
  | .next value => (.next value, none)
  | .complete => (.complete, none)
  | .completeWith value => (.next value, some .complete)
  | .error err => (.error (.business err), none)
  | .rpcError err => (.error (.technical err), none)

/-- Both parts of a normalized event, in the order they are delivered. -/
def normalized (wire : WireEvent T E) : List (Event T E) :=
  (normalizeWireEvent wire).1 :: (normalizeWireEvent wire).2.toList

/-- The reading of an event that crossed the wire: `Error(Empty)` is reported
as a plain completion, everything else is unchanged. -/
def Event.onWire : Event T E → Event T E
  | .error .empty => .complete
  | event => event

/-- One event sent on its own comes back as itself, up to `Empty`. -/
@[simp] theorem normalized_ofEvent (event : Event T E) :
    normalized (WireEvent.ofEvent event) = [event.onWire] := by
  rcases event with _ | _ | (_ | _ | _) <;> rfl

/-- A folded pair comes back as the two events it was made of. -/
@[simp] theorem normalized_completeWith (value : T) :
    normalized (.completeWith value : WireEvent T E) =
      [(Event.next value).onWire, (Event.complete).onWire] := rfl

/-- One published sample: its stamped kind and its payload. -/
structure Sample where
  kind : EventKind
  payload : Bytes
deriving Repr, DecidableEq

/-- Encoding and decoding of payloads (rkyv), for one pair of service types.
`decode` failures carry the debug text the transport puts in its error. -/
structure Rkyv (T E : Type) where
  encodeWire : WireEvent T E → Option Bytes
  decodeWire : Bytes → Except String (WireEvent T E)
  encodeRpc : RpcError → Option Bytes
  decodeRpc : Bytes → Except String RpcError

namespace Rkyv

/-- What was encoded decodes to itself. -/
structure RoundTrips (rkyv : Rkyv T E) : Prop where
  wire : ∀ wire bytes, rkyv.encodeWire wire = some bytes →
    rkyv.decodeWire bytes = .ok wire
  rpc : ∀ error bytes, rkyv.encodeRpc error = some bytes →
    rkyv.decodeRpc bytes = .ok error

/-- Encoding never fails. -/
structure Total (rkyv : Rkyv T E) : Prop where
  wire : ∀ wire, (rkyv.encodeWire wire).isSome
  rpc : ∀ error, (rkyv.encodeRpc error).isSome

/-- The derived encoder fails on a variant exactly when it fails on its field,
so the two variants carrying a value are encodable together. -/
def FoldsAlike (rkyv : Rkyv T E) : Prop :=
  ∀ value, (rkyv.encodeWire (.completeWith value)).isSome =
    (rkyv.encodeWire (.next value)).isSome

/-- The framing rule of a response: a bare `RpcError` under the kind `rpcError`,
the method's wire event under every other kind. -/
def readSample (rkyv : Rkyv T E) (sample : Sample) :
    Except String (List (Event T E)) :=
  if sample.kind = .rpcError then
    (rkyv.decodeRpc sample.payload).map fun err => [.error (.technical err)]
  else
    (rkyv.decodeWire sample.payload).map normalized

/-- The events a sequence of samples stands for, concatenated in order. -/
def readSamples (rkyv : Rkyv T E) :
    List Sample → Except String (List (Event T E))
  | [] => .ok []
  | sample :: samples => do
      let events ← rkyv.readSample sample
      let later ← readSamples rkyv samples
      pure (events ++ later)

/-- The stamped kind names the variant of the payload. -/
def KindMatches (rkyv : Rkyv T E) (sample : Sample) : Prop :=
  (sample.kind = .rpcError ∧ ∃ err, rkyv.decodeRpc sample.payload = .ok err) ∨
    ∃ wire, rkyv.decodeWire sample.payload = .ok wire ∧
      sample.kind = wire.kind ∧ sample.kind ≠ .rpcError

theorem readSamples_snoc {rkyv : Rkyv T E} {samples : List Sample}
    {sample : Sample} {events later : List (Event T E)}
    (first : rkyv.readSamples samples = .ok events)
    (last : rkyv.readSample sample = .ok later) :
    rkyv.readSamples (samples ++ [sample]) = .ok (events ++ later) := by
  induction samples generalizing events with
  | nil =>
      cases first
      simp [readSamples, last, bind, Except.bind, pure, Except.pure]
  | cons head samples ih =>
      simp only [readSamples, List.cons_append, bind, Except.bind] at first ⊢
      cases read : rkyv.readSample head with
      | error message => simp [read] at first
      | ok now =>
          cases rest : rkyv.readSamples samples with
          | error message => simp [read, rest] at first
          | ok others =>
              simp only [read, rest, pure, Except.pure, Except.ok.injEq] at first
              subst first
              simp [ih rest, pure, Except.pure]

end Rkyv

end IceRpc
