/-
Module: IceRpc.Proofs.AnsweredToEnd
Purpose: When `observable_to_responses` answers a call to its end.  The loop sends
  what the service emitted, no more: the samples end with exactly one terminal
  sample when the encodable part of the stream ends with exactly one terminal
  event, and the consumer then sees the call end.
Trusted boundary: none
Main exports: AnsweredToEnd, sendable, answered_to_end_iff
-/
import IceRpc.Proofs.WireTransparency
import IceRpc.Transport.Client

namespace IceRpc

open Lib (Poll Source EndsOnce Unended)

variable {T E S : Type}
variable {rkyv : Rkyv T E} {sent : List (Event T E)} {samples : List Sample}

/-! ### The property and what it depends on -/

/-- Zero or more `Next` samples, then exactly one terminal sample, and a consumer
whose stream receives values and then exactly one terminal event. -/
def AnsweredToEnd (rkyv : Rkyv T E) (samples : List Sample) : Prop :=
  (∃ body last, samples = body ++ [last] ∧ (∀ sample ∈ body, sample.kind = .next) ∧
    (last.kind = .complete ∨ last.kind = .error ∨ last.kind = .rpcError)) ∧
  EndsOnce Event.isTerminal (streamReceives rkyv samples)

/-- The sample that carries the event on its own can be encoded. -/
def Rkyv.encodable (rkyv : Rkyv T E) (event : Event T E) : Bool :=
  (frame rkyv (WireEvent.ofEvent event)).2.isSome

/-- The events in front of the first one that cannot be encoded: all of them when
every event can be. -/
def sendable (rkyv : Rkyv T E) (events : List (Event T E)) : List (Event T E) :=
  events.takeWhile rkyv.encodable

/-! ### The consumer's reading of a frame -/

/-- The handler of the call expands a frame into the events of its wire event, and
ends the call with it exactly when the wire event is terminal. -/
theorem handleSample_frame (roundTrips : rkyv.RoundTrips) {wire : WireEvent T E} {kind : EventKind}
    {bytes : Bytes} (framed : frame rkyv wire = (kind, some bytes)) :
    (handleSample rkyv ⟨kind, bytes⟩).events = normalized wire ∧
      endsCall rkyv ⟨kind, bytes⟩ = wire.isTerminal := by
  cases wire with
  | rpcError err =>
      obtain ⟨rfl, encoded⟩ := Prod.mk.inj framed
      have decoded := roundTrips.rpc err bytes encoded
      simp [endsCall, handleSample, Delivery.events, decoded, normalized,
        normalizeWireEvent, WireEvent.isTerminal]
  | _ =>
      obtain ⟨rfl, encoded⟩ := Prod.mk.inj framed
      have decoded := roundTrips.wire _ bytes encoded
      simp [endsCall, handleSample, Delivery.events, decoded, normalized,
        WireEvent.kind]

theorem Event.onWire_isTerminal (event : Event T E) :
    event.onWire.isTerminal = event.isTerminal := by
  rcases event with _ | _ | (_ | _ | _) <;> rfl

theorem Event.eq_next_of_not_terminal {event : Event T E}
    (going : event.isTerminal = false) : ∃ value, event = .next value := by
  cases event with
  | next value => exact ⟨value, rfl⟩
  | complete => simp at going
  | error err => simp at going

theorem terminal_kind_cases {event : Event T E} (ended : event.isTerminal = true) :
    (WireEvent.ofEvent event).kind = .complete ∨
      (WireEvent.ofEvent event).kind = .error ∨
      (WireEvent.ofEvent event).kind = .rpcError := by
  rcases event with _ | _ | (_ | _ | _)
  · simp at ended
  all_goals simp [WireEvent.ofEvent, WireEvent.kind]

/-- While the events sent so far go on, every sample is a `Next` that does not end
the call, and the consumer's stream receives those events. -/
theorem Framed.going (roundTrips : rkyv.RoundTrips) (framed : Framed rkyv samples sent)
    (going : Unended Event.isTerminal sent) :
    (∀ sample ∈ samples, sample.kind = .next) ∧
      Unended (endsCall rkyv) samples ∧
      samples.flatMap (fun sample => (handleSample rkyv sample).events) =
        sent.map Event.onWire := by
  induction framed with
  | nil => exact ⟨by simp, by simp, rfl⟩
  | @snoc samples sent wire consumed kind bytes before stands framed ih =>
      obtain ⟨goingBefore, goingNow⟩ := Lib.unended_append.mp going
      obtain ⟨kinds, open_, received⟩ := ih goingBefore
      obtain ⟨expansion, ends⟩ := handleSample_frame roundTrips framed
      obtain ⟨-, -, kind_eq⟩ := frame_reads roundTrips framed
      cases stands with
      | folded value => simp at goingNow
      | single event =>
          obtain ⟨value, rfl⟩ :=
            Event.eq_next_of_not_terminal (Lib.unended_singleton.mp goingNow)
          have isNext : kind = .next := kind_eq
          refine ⟨?_, ?_, ?_⟩
          · intro sample member
            rcases List.mem_append.mp member with old | new
            · exact kinds sample old
            · rw [List.mem_singleton.mp new, isNext]
          · rw [Lib.unended_append]
            exact ⟨open_, Lib.unended_singleton.mpr ends⟩
          · rw [List.flatMap_append, received, List.map_append, List.flatMap_singleton,
              expansion, normalized_ofEvent]
            rfl

/-- When the events sent end once, so do the samples, and the consumer sees it. -/
theorem Framed.answeredToEnd (roundTrips : rkyv.RoundTrips) (framed : Framed rkyv samples sent)
    (ends : EndsOnce Event.isTerminal sent) : AnsweredToEnd rkyv samples := by
  have endsRead : EndsOnce Event.isTerminal (sent.map Event.onWire) := by
    apply Lib.endsOnce_map.mpr
    rwa [show Event.isTerminal ∘ Event.onWire = (Event.isTerminal : Event T E → Bool)
      from funext Event.onWire_isTerminal]
  cases framed with
  | nil => simp at ends
  | @snoc samples sent wire consumed kind bytes before stands framed =>
      obtain ⟨expansion, -⟩ := handleSample_frame roundTrips framed
      obtain ⟨-, -, kind_eq⟩ := frame_reads roundTrips framed
      -- Whatever the last sample stands for, the ones before it go on.
      have split : Unended Event.isTerminal sent ∧
          (kind = .complete ∨ kind = .error ∨ kind = .rpcError) := by
        cases stands with
        | single event =>
            obtain ⟨going, ended⟩ := Lib.endsOnce_snoc.mp ends
            rw [kind_eq]
            exact ⟨going, terminal_kind_cases ended⟩
        | folded value =>
            have paired : sent ++ [Event.next value, Event.complete] =
                (sent ++ [Event.next value]) ++ [Event.complete] := by simp
            rw [paired] at ends
            obtain ⟨going, -⟩ := Lib.endsOnce_snoc.mp ends
            exact ⟨(Lib.unended_append.mp going).1, Or.inl kind_eq⟩
      obtain ⟨going, terminal⟩ := split
      obtain ⟨kinds, open_, received⟩ := before.going roundTrips going
      refine ⟨⟨samples, ⟨kind, bytes⟩, rfl, kinds, terminal⟩, ?_⟩
      rw [streamReceives, Lib.upToFirst_snoc_of_unended _ open_, List.flatMap_append,
        received, List.flatMap_singleton, expansion, stands.normalized_eq,
        ← List.map_append]
      exact endsRead

/-! ### What the loop has sent when it returns -/

theorem encodable_of_frame {event : Event T E} {kind : EventKind} {bytes : Bytes}
    (framed : frame rkyv (WireEvent.ofEvent event) = (kind, some bytes)) :
    rkyv.encodable event = true := by
  simp [Rkyv.encodable, framed]

theorem encodable_next_eq (foldsAlike : rkyv.FoldsAlike) (value : T) :
    rkyv.encodable (.next value) =
      (frame rkyv (.completeWith value)).2.isSome :=
  (foldsAlike value).symm

/-- While the sendable part of a stream ends once, what was sent is a first part of
it: the loop never goes past the first event that cannot be encoded. -/
theorem Framed.sendable_eq (foldsAlike : rkyv.FoldsAlike) {events : List (Event T E)}
    (ends : EndsOnce Event.isTerminal (sendable rkyv events)) (framed : Framed rkyv samples sent)
    {ahead : List (Event T E)} (balance : events = sent ++ ahead) :
    sendable rkyv events = sent ++ sendable rkyv ahead := by
  induction framed generalizing ahead with
  | nil => rw [balance]; rfl
  | @snoc samples sent wire consumed kind bytes before stands framed ih =>
      rw [List.append_assoc] at balance
      have soFar := ih balance
      rw [soFar]
      cases stands with
      | single event =>
          have encodable := encodable_of_frame framed
          simp [sendable, encodable]
      | folded value =>
          have encodable : rkyv.encodable (.next value) = true := by
            rw [encodable_next_eq foldsAlike, framed]
            rfl
          by_cases completes : rkyv.encodable (.complete : Event T E) = true
          · simp [sendable, encodable, completes]
          · -- A stream cut right after a value does not end.
            have cut : sendable rkyv ([.next value, .complete] ++ ahead) =
                [.next value] := by
              simp [sendable, encodable, completes]
            rw [soFar, cut] at ends
            simp [Lib.endsOnce_snoc] at ends

/-- A loop that returned without a refused `emit` has sent the sendable part of its
stream, when that part ends once. -/
theorem Responding.Accounts.sent_eq (foldsAlike : rkyv.FoldsAlike) {events : List (Event T E)}
    {responding : Responding T E S} (accounts : Accounts rkyv events responding sent)
    (returned : responding.outcome = some .exhausted ∨ responding.outcome = some .unencodable)
    (ends : EndsOnce Event.isTerminal (sendable rkyv events)) : sendable rkyv events = sent := by
  rcases returned with exhausted | unencodable
  · have balance := accounts.balance (by rw [exhausted]; simp)
    rw [accounts.framed.sendable_eq foldsAlike ends balance,
      accounts.exhausted exhausted]
    simp [sendable]
  · obtain ⟨wire, consumed, stands, failed, balance⟩ :=
      accounts.unencodable unencodable
    rw [accounts.framed.sendable_eq foldsAlike ends balance]
    cases stands with
    | single event => simp [sendable, Rkyv.encodable, failed]
    | folded value =>
        have blocked : rkyv.encodable (.next value) = false := by
          rw [encodable_next_eq foldsAlike, failed]
          rfl
        simp [sendable, blocked]

/-! ### A source that answers one event at a time -/

/-- A schedule under which the look-ahead behind every value finds the source
silent, so that no pair is folded. -/
def oneByOne : List (Event T E) → Stream' Bool
  | [] => Stream'.const true
  | .next _ :: events => Stream'.cons true (Stream'.cons false (oneByOne events))
  | _ :: events => Stream'.cons true (oneByOne events)

theorem pollNext_oneByOne (event : Event T E) (events : List (Event T E))
    (terminated : Bool) :
    WireFolding.pollNext
        { source :=
            { source := { items := event :: events, schedule := oneByOne (event :: events) }
              terminated := terminated }
          pending := none } =
      (.ready (some (WireEvent.ofEvent event)),
        { source :=
            { source := { items := events, schedule := oneByOne events }
              terminated := terminated || event.isTerminal }
          pending := none }) := by
  cases event <;>
    simp [WireFolding.pollNext, WireFolding.foldEvent, Observable.pollNext, Source.poll,
      oneByOne, WireEvent.ofEvent]

/-- On that schedule the loop sends the sendable part of its stream, event by
event, and returns. -/
theorem observableToResponses_oneByOne (rkyv : Rkyv T E) (events : List (Event T E))
    (terminated : Bool) (sink samples : List Sample) :
    ∃ turns,
      let after := observableToResponses rkyv collectEmitter turns
        { stream :=
            { source :=
                { source := { items := events, schedule := oneByOne events }
                  terminated := terminated }
              pending := none }
          sink := sink
          samples := samples
          outcome := none }
      (after.outcome = some .exhausted ∨ after.outcome = some .unencodable) ∧
        after.samples.map Sample.kind = samples.map Sample.kind ++
          (sendable rkyv events).map fun event => (WireEvent.ofEvent event).kind := by
  induction events generalizing terminated sink samples with
  | nil => exact ⟨1, Or.inl rfl, by simp [sendable]; rfl⟩
  | cons event events ih =>
      match framed : frame rkyv (WireEvent.ofEvent event) with
      | (kind, none) =>
          refine ⟨1, Or.inr ?_, ?_⟩
          · simp [observableToResponses, Responding.turn, pollNext_oneByOne, framed]
          · simp [observableToResponses, Responding.turn, pollNext_oneByOne, framed,
              sendable, Rkyv.encodable]
      | (kind, some bytes) =>
          have kind_eq : kind = (WireEvent.ofEvent event).kind := by
            rcases event with _ | _ | (_ | _ | _) <;>
              exact (Prod.mk.inj framed).1.symm
          obtain ⟨turns, returned, kinds⟩ := ih (terminated || event.isTerminal)
            (sink ++ [⟨kind, bytes⟩]) (samples ++ [⟨kind, bytes⟩])
          refine ⟨turns + 1, ?_⟩
          simp only [observableToResponses, Function.iterate_succ_apply,
            Responding.turn, pollNext_oneByOne, framed, collectEmitter, if_true]
          refine ⟨returned, ?_⟩
          simp only [observableToResponses, collectEmitter] at kinds
          rw [kinds, kind_eq]
          simp [sendable, encodable_of_frame framed]

/-! ### When a call is answered to its end -/

/-- `observable_to_responses` answers every call to its end, whatever the schedule
of the source and the emitter, exactly when the events in front of the first one
that cannot be encoded are values followed by one terminal event. -/
theorem answered_to_end_iff (rkyv : Rkyv T E) (roundTrips : rkyv.RoundTrips)
    (foldsAlike : rkyv.FoldsAlike) (events : List (Event T E)) :
    (∀ (S : Type) (emitter : ResponseEmitter S) (sink : S) (schedule : Stream' Bool)
        (turns : Nat) (after : Responding T E S),
      after = observableToResponses rkyv emitter turns
        (.start events schedule sink) →
      after.outcome = some .exhausted ∨ after.outcome = some .unencodable →
      AnsweredToEnd rkyv after.samples) ↔
    EndsOnce Event.isTerminal (sendable rkyv events) := by
  constructor
  · intro answered
    obtain ⟨turns, returned, kinds⟩ :=
      observableToResponses_oneByOne rkyv events false [] []
    obtain ⟨⟨body, last, split, nexts, terminal⟩, -⟩ :=
      answered _ collectEmitter [] (oneByOne events) turns _ rfl returned
    have endsKinds : EndsOnce EventKind.isTerminal
        ((sendable rkyv events).map fun event => (WireEvent.ofEvent event).kind) := by
      simp only [List.map_nil, List.nil_append] at kinds
      rw [← kinds]
      have split' := congrArg (List.map Sample.kind) split
      rw [List.map_append] at split'
      refine ⟨body.map Sample.kind, last.kind, split', ?_, ?_⟩
      · intro kind member
        obtain ⟨sample, inBody, rfl⟩ := List.mem_map.mp member
        rw [nexts sample inBody]
        rfl
      · rcases terminal with isComplete | isError | isRpcError
        · rw [isComplete]; rfl
        · rw [isError]; rfl
        · rw [isRpcError]; rfl
    have endsEvents := Lib.endsOnce_map.mp endsKinds
    have sameEnd : (EventKind.isTerminal ∘ fun event : Event T E =>
        (WireEvent.ofEvent event).kind) = Event.isTerminal := by
      funext event
      simp
    rwa [sameEnd] at endsEvents
  · intro ends S emitter sink schedule turns after reached returned
    obtain ⟨sent, accounts⟩ := Responding.observableToResponses_accounts
      rkyv emitter events schedule sink turns
    rw [← reached] at accounts
    rw [accounts.sent_eq foldsAlike returned ends] at ends
    exact accounts.framed.answeredToEnd roundTrips ends

/-- A value with its completion behind it is answered to its end. -/
theorem answered_to_end_value :
    AnsweredToEnd plainCodec
      (observableToResponses plainCodec collectEmitter 2
        (.start [.next 7, .complete] (Stream'.const true) [])).samples := by
  have ends : EndsOnce Event.isTerminal
      (sendable plainCodec [.next 7, .complete]) :=
    ⟨[.next 7], .complete, rfl, by decide, rfl⟩
  exact (answered_to_end_iff plainCodec plainCodec_roundTrips plainCodec_foldsAlike
    [.next 7, .complete]).mpr ends _ collectEmitter [] (Stream'.const true) 2 _ rfl
      (Or.inl rfl)

theorem AnsweredToEnd.last_terminal (answered : AnsweredToEnd rkyv samples) :
    samples.getLast?.map (fun sample => sample.kind.isTerminal) = some true := by
  obtain ⟨⟨body, last, rfl, -, terminal⟩, -⟩ := answered
  rcases terminal with isComplete | isError | isRpcError
  · simp [isComplete, EventKind.isTerminal]
  · simp [isError, EventKind.isTerminal]
  · simp [isRpcError, EventKind.isTerminal]

/-- An observable that closes without an event, one that stops after a value, and
one that goes on after its completion are not answered to their end. -/
theorem unanswered_abrupt_close :
    (∃ after, after = observableToResponses plainCodec collectEmitter 1
        (.start [] (Stream'.const true) []) ∧
      after.outcome = some .exhausted ∧ ¬ AnsweredToEnd plainCodec after.samples) ∧
    (∃ after, after = observableToResponses plainCodec collectEmitter 2
        (.start [.next 7] (Stream'.const true) []) ∧
      after.outcome = some .exhausted ∧ ¬ AnsweredToEnd plainCodec after.samples) ∧
    (∃ after, after = observableToResponses plainCodec collectEmitter 3
        (.start [.complete, .next 7] (Stream'.const true) []) ∧
      after.outcome = some .exhausted ∧ ¬ AnsweredToEnd plainCodec after.samples) := by
  refine ⟨⟨_, rfl, rfl, ?_⟩, ⟨_, rfl, rfl, ?_⟩, ⟨_, rfl, rfl, ?_⟩⟩
  all_goals
    intro answered
    cases answered.last_terminal

end IceRpc
