/-
Module: IceRpc.Proofs.WireTransparency
Purpose: What crosses the wire is what the service emitted.  The fold of the
  bridge and the expansion of the consumer cancel out for every schedule of the
  source, and nothing is held back while the source is silent.
Trusted boundary: none
Main exports: WireFolding.pollNext_cases, Framed, Responding.Accounts,
  wire_transparency
-/
import IceRpc.Transport.Bridge
import IceRpc.Types.PlainCodec

namespace IceRpc

open Lib (Poll Source)

variable {T E S : Type}
variable {rkyv : Rkyv T E} {folding : WireFolding T E}

/-! ### One poll of the source and of the fold -/

namespace Observable

/-- What a poll of an observable can do, read off its answer. -/
theorem pollNext_cases (observable : Observable T E) :
    (observable.pollNext.1 = .pending ∧ observable.source.schedule.head = false ∧
      observable.pollNext.2.source.items = observable.source.items) ∨
    (observable.pollNext.1 = .ready none ∧ observable.source.items = [] ∧
      observable.pollNext.2.source.items = []) ∨
    (∃ event events, observable.pollNext.1 = .ready (some event) ∧
      observable.source.items = event :: events ∧
      observable.pollNext.2.source.items = events) := by
  unfold pollNext
  rcases observable.source.poll_cases with
    ⟨answer, silent, items⟩ | ⟨answer, empty, items⟩ |
      ⟨event, events, answer, queued, items⟩
  all_goals
    generalize observable.source.poll = polled at *
    obtain ⟨answered, source⟩ := polled
    simp only at answer items
    subst answer
  · exact Or.inl ⟨rfl, silent, items⟩
  · exact Or.inr (Or.inl ⟨rfl, empty, items⟩)
  · exact Or.inr (Or.inr ⟨event, events, rfl, queued, items⟩)

@[simp] theorem pollNext_schedule (observable : Observable T E) :
    observable.pollNext.2.source.schedule = observable.source.schedule.tail := by
  rw [← Source.poll_schedule]
  unfold pollNext
  split <;> simp_all

end Observable

namespace WireFolding

/-- Events the fold has not turned into a wire event yet: the look-ahead, then
what the source still holds. -/
def ahead (folding : WireFolding T E) : List (Event T E) :=
  folding.pending.toList ++ folding.source.source.items

/-- The two ways a wire event stands for events of the stream: one event on its
own, or a value together with the `Complete` behind it. -/
inductive StandsFor : WireEvent T E → List (Event T E) → Prop where
  | single (event : Event T E) : StandsFor (WireEvent.ofEvent event) [event]
  | folded (value : T) : StandsFor (.completeWith value) [.next value, .complete]

/-- Folding a known event consumes it, and possibly the `Complete` behind it. -/
theorem foldEvent_spec (folding : WireFolding T E) (event : Event T E)
    (noLookAhead : folding.pending = none) :
    ∃ wire consumed,
      (folding.foldEvent event).1 = .ready (some wire) ∧
      StandsFor wire consumed ∧
      event :: folding.source.source.items =
        consumed ++ (folding.foldEvent event).2.ahead := by
  match event with
  | .complete =>
      exact ⟨_, [.complete], rfl, .single _, by simp [foldEvent, ahead, noLookAhead]⟩
  | .error err =>
      exact ⟨_, [.error err], rfl, .single _, by simp [foldEvent, ahead, noLookAhead]⟩
  | .next value =>
      rcases folding.source.pollNext_cases with
        ⟨answer, -, items⟩ | ⟨answer, empty, items⟩ |
          ⟨following, events, answer, queued, items⟩
      all_goals
        simp only [foldEvent]
        generalize folding.source.pollNext = polled at *
        obtain ⟨answered, source⟩ := polled
        simp only at answer items
        subst answer
      · -- The look-ahead found a silent source: the value goes out on its own.
        exact ⟨_, [.next value], rfl, .single (.next value), by
          simp [ahead, noLookAhead, items]⟩
      · exact ⟨_, [.next value], rfl, .single (.next value), by
          simp [ahead, items, empty]⟩
      · cases following with
        | complete =>
            exact ⟨_, [.next value, .complete], rfl, .folded value, by
              simp [ahead, noLookAhead, items, queued]⟩
        | next other =>
            exact ⟨_, [.next value], rfl, .single (.next value), by
              simp [ahead, items, queued]⟩
        | error err =>
            exact ⟨_, [.next value], rfl, .single (.next value), by
              simp [ahead, items, queued]⟩

/-- What a poll of the fold can do.  Silence and exhaustion leave nothing in the
look-ahead slot; a wire event stands for the events it consumed. -/
theorem pollNext_cases (folding : WireFolding T E) :
    (folding.pollNext.1 = .pending ∧ folding.pollNext.2.pending = none ∧
      folding.source.source.schedule.head = false ∧
      folding.pollNext.2.source.source.schedule =
        folding.source.source.schedule.tail ∧
      folding.pollNext.2.ahead = folding.ahead) ∨
    (folding.pollNext.1 = .ready none ∧ folding.ahead = [] ∧
      folding.pollNext.2.ahead = []) ∨
    (∃ wire consumed, folding.pollNext.1 = .ready (some wire) ∧
      StandsFor wire consumed ∧
      folding.ahead = consumed ++ folding.pollNext.2.ahead) := by
  rcases folding with ⟨source, _ | event⟩
  · have advanced := source.pollNext_schedule
    rcases source.pollNext_cases with
      ⟨answer, silent, items⟩ | ⟨answer, empty, items⟩ |
        ⟨event, events, answer, queued, items⟩
    all_goals
      simp only [pollNext]
      generalize source.pollNext = polled at *
      obtain ⟨answered, after⟩ := polled
      simp only at answer items advanced
      subst answer
    · exact Or.inl ⟨rfl, rfl, silent, advanced, by simp [ahead, items]⟩
    · exact Or.inr (Or.inl ⟨rfl, by simp [ahead, empty], by simp [ahead, items]⟩)
    · obtain ⟨wire, consumed, answer, stands, split⟩ :=
        foldEvent_spec { source := after, pending := none } event rfl
      refine Or.inr (Or.inr ⟨wire, consumed, answer, stands, ?_⟩)
      simpa [ahead, queued, items] using split
  · obtain ⟨wire, consumed, answer, stands, split⟩ :=
      foldEvent_spec { source := source, pending := none } event rfl
    exact Or.inr (Or.inr ⟨wire, consumed, answer, stands, by
      simpa [ahead, pollNext] using split⟩)

/-- A silent fold holds nothing back and has used up one silent entry of the
schedule. -/
theorem pollNext_of_pending (answer : folding.pollNext.1 = .pending) :
    folding.pollNext.2.pending = none ∧
      folding.source.source.schedule.head = false ∧
      folding.pollNext.2.source.source.schedule =
        folding.source.source.schedule.tail ∧
      folding.pollNext.2.ahead = folding.ahead := by
  rcases folding.pollNext_cases with ⟨-, facts⟩ | ⟨other, -⟩ | ⟨_, _, other, -⟩
  · exact facts
  · simp [answer] at other
  · simp [answer] at other

theorem pollNext_of_ended (answer : folding.pollNext.1 = .ready none) :
    folding.ahead = [] ∧ folding.pollNext.2.ahead = [] := by
  rcases folding.pollNext_cases with ⟨other, -⟩ | ⟨-, facts⟩ | ⟨_, _, other, -⟩
  · simp [answer] at other
  · exact facts
  · simp [answer] at other

theorem pollNext_of_wire {wire : WireEvent T E} (answer : folding.pollNext.1 = .ready (some wire)) :
    ∃ consumed, StandsFor wire consumed ∧
      folding.ahead = consumed ++ folding.pollNext.2.ahead := by
  rcases folding.pollNext_cases with
    ⟨other, -⟩ | ⟨other, -⟩ | ⟨found, consumed, other, facts⟩
  · simp [answer] at other
  · simp [answer] at other
  · rw [answer] at other
    cases other
    exact ⟨consumed, facts⟩

theorem foldEvent_fair (event : Event T E) (fair : Source.Fair folding.source.source.schedule) :
    Source.Fair (folding.foldEvent event).2.source.source.schedule := by
  have advanced := folding.source.pollNext_schedule
  cases event with
  | next value =>
      have fairAfter := fair.tail
      rw [← advanced] at fairAfter
      simp only [foldEvent]
      split <;> simp_all
  | complete => exact fair
  | error err => exact fair

/-- A fair source stays fair while it is folded. -/
theorem pollNext_fair (fair : Source.Fair folding.source.source.schedule) :
    Source.Fair folding.pollNext.2.source.source.schedule := by
  rcases folding with ⟨source, _ | event⟩
  · have fairAfter := fair.tail
    rw [← source.pollNext_schedule] at fairAfter
    simp only [pollNext]
    generalize source.pollNext = polled at *
    match polled with
    | (.pending, after) => exact fairAfter
    | (.ready none, after) => exact fairAfter
    | (.ready (some event), after) => exact foldEvent_fair event fairAfter
  · have noLookAhead : Source.Fair
        (⟨source, none⟩ : WireFolding T E).source.source.schedule := fair
    exact foldEvent_fair event noLookAhead

/-- The consumer expands a wire event into the events it stands for. -/
theorem StandsFor.normalized_eq {wire : WireEvent T E}
    {consumed : List (Event T E)} (stands : StandsFor wire consumed) :
    normalized wire = consumed.map Event.onWire := by
  cases stands with
  | single event => simp
  | folded value => simp

theorem StandsFor.length_pos {wire : WireEvent T E}
    {consumed : List (Event T E)} (stands : StandsFor wire consumed) :
    0 < consumed.length := by
  cases stands <;> simp

end WireFolding

/-! ### What the emitted samples stand for -/

/-- `Framed rkyv samples sent`: the samples are the frames of wire events that
together stand for the events of `sent`, in order. -/
inductive Framed (rkyv : Rkyv T E) : List Sample → List (Event T E) → Prop where
  | nil : Framed rkyv [] []
  | snoc {samples : List Sample} {sent : List (Event T E)} {wire : WireEvent T E}
      {consumed : List (Event T E)} {kind : EventKind} {bytes : Bytes}
      (before : Framed rkyv samples sent)
      (stands : WireFolding.StandsFor wire consumed)
      (framed : frame rkyv wire = (kind, some bytes)) :
      Framed rkyv (samples ++ [⟨kind, bytes⟩]) (sent ++ consumed)

/-- A frame reads back as the expansion of its wire event, under a kind that
names the variant of its payload. -/
theorem frame_reads (roundTrips : rkyv.RoundTrips) {wire : WireEvent T E} {kind : EventKind}
    {bytes : Bytes} (framed : frame rkyv wire = (kind, some bytes)) :
    rkyv.readSample ⟨kind, bytes⟩ = .ok (normalized wire) ∧
      rkyv.KindMatches ⟨kind, bytes⟩ ∧ kind = wire.kind := by
  cases wire with
  | rpcError err =>
      obtain ⟨rfl, encoded⟩ := Prod.mk.inj framed
      have decoded := roundTrips.rpc err bytes encoded
      refine ⟨?_, Or.inl ⟨rfl, err, decoded⟩, rfl⟩
      simp [Rkyv.readSample, decoded, Except.map, normalized, normalizeWireEvent]
  | _ =>
      obtain ⟨rfl, encoded⟩ := Prod.mk.inj framed
      have decoded := roundTrips.wire _ bytes encoded
      refine ⟨?_, Or.inr ⟨_, decoded, rfl, by simp [WireEvent.kind]⟩, rfl⟩
      simp [Rkyv.readSample, decoded, Except.map, WireEvent.kind]

theorem frame_total (total : rkyv.Total) (wire : WireEvent T E) : (frame rkyv wire).2.isSome := by
  cases wire with
  | rpcError err => exact total.rpc err
  | _ => exact total.wire _

/-- Reading framed samples gives the events they were made of, with
`Error(Empty)` read as `Complete`. -/
theorem Framed.reads (roundTrips : rkyv.RoundTrips) {samples : List Sample}
    {sent : List (Event T E)} (framed : Framed rkyv samples sent) :
    rkyv.readSamples samples = .ok (sent.map Event.onWire) ∧
      ∀ sample ∈ samples, rkyv.KindMatches sample := by
  induction framed with
  | nil => exact ⟨rfl, by simp⟩
  | @snoc samples sent wire consumed kind bytes before stands framed ih =>
      obtain ⟨read, kinds⟩ := ih
      obtain ⟨last, lastKind, -⟩ := frame_reads roundTrips framed
      constructor
      · rw [List.map_append, ← stands.normalized_eq]
        exact Rkyv.readSamples_snoc read last
      · intro sample member
        rcases List.mem_append.mp member with old | new
        · exact kinds sample old
        · rw [List.mem_singleton.mp new]
          exact lastKind

/-! ### The emission loop -/

namespace Responding

/-- What one turn of the running loop can do. -/
theorem turn_cases (rkyv : Rkyv T E) (emitter : ResponseEmitter S)
    (responding : Responding T E S) (running : responding.outcome = none) :
    (responding.stream.pollNext.1 = .pending ∧
      responding.turn rkyv emitter =
        { responding with stream := responding.stream.pollNext.2 }) ∨
    (responding.stream.pollNext.1 = .ready none ∧
      responding.turn rkyv emitter =
        { responding with
          stream := responding.stream.pollNext.2
          outcome := some .exhausted }) ∨
    (∃ wire, responding.stream.pollNext.1 = .ready (some wire) ∧
      (frame rkyv wire).2 = none ∧
      responding.turn rkyv emitter =
        { responding with
          stream := responding.stream.pollNext.2
          outcome := some .unencodable }) ∨
    (∃ wire kind bytes, responding.stream.pollNext.1 = .ready (some wire) ∧
      frame rkyv wire = (kind, some bytes) ∧
      responding.turn rkyv emitter =
        { stream := responding.stream.pollNext.2
          sink := (emitter.emit responding.sink kind bytes).1
          samples := responding.samples ++ [⟨kind, bytes⟩]
          outcome :=
            if (emitter.emit responding.sink kind bytes).2 then none
            else some .refused }) := by
  simp only [turn, running]
  generalize responding.stream.pollNext = polled
  obtain ⟨answer, stream⟩ := polled
  match answer with
  | .pending => exact Or.inl ⟨rfl, rfl⟩
  | .ready none => exact Or.inr (Or.inl ⟨rfl, rfl⟩)
  | .ready (some wire) =>
      simp only
      match framed : frame rkyv wire with
      | (kind, none) =>
          exact Or.inr (Or.inr (Or.inl ⟨wire, rfl, by rw [framed], rfl⟩))
      | (kind, some bytes) =>
          exact Or.inr (Or.inr (Or.inr ⟨wire, kind, bytes, rfl, framed, rfl⟩))

theorem turn_of_returned (rkyv : Rkyv T E) (emitter : ResponseEmitter S)
    {responding : Responding T E S} (returned : responding.outcome ≠ none) :
    responding.turn rkyv emitter = responding := by
  obtain ⟨outcome, isOutcome⟩ := Option.ne_none_iff_exists'.mp returned
  simp [turn, isOutcome]

/-- Where every event of the observable is at a point of the loop: behind the
samples handed to the emitter, in the sample that could not be encoded, or still
ahead. -/
structure Accounts (rkyv : Rkyv T E) (events : List (Event T E))
    (responding : Responding T E S) (sent : List (Event T E)) : Prop where
  framed : Framed rkyv responding.samples sent
  balance : responding.outcome ≠ some .unencodable →
    events = sent ++ responding.stream.ahead
  exhausted : responding.outcome = some .exhausted → responding.stream.ahead = []
  unencodable : responding.outcome = some .unencodable →
    ∃ wire consumed, WireFolding.StandsFor wire consumed ∧
      (frame rkyv wire).2 = none ∧
      events = sent ++ (consumed ++ responding.stream.ahead)

theorem accounts_start (rkyv : Rkyv T E) (events : List (Event T E))
    (schedule : Stream' Bool) (sink : S) :
    Accounts rkyv events (start events schedule sink) [] where
  framed := .nil
  balance _ := rfl
  exhausted returned := by cases returned
  unencodable returned := by cases returned

/-- One turn keeps the account. -/
theorem turn_accounts (emitter : ResponseEmitter S) {events sent : List (Event T E)}
    {responding : Responding T E S} (accounts : Accounts rkyv events responding sent) :
    ∃ sentAfter,
      Accounts rkyv events (responding.turn rkyv emitter) sentAfter := by
  by_cases running : responding.outcome = none
  · have balance := accounts.balance (by rw [running]; simp)
    rcases responding.turn_cases rkyv emitter running with
      ⟨answer, turned⟩ | ⟨answer, turned⟩ |
        ⟨wire, answer, failed, turned⟩ | ⟨wire, kind, bytes, answer, framed, turned⟩
    all_goals rw [turned]
    · obtain ⟨-, -, -, same⟩ := WireFolding.pollNext_of_pending answer
      exact ⟨sent, accounts.framed, fun _ => by simpa [same] using balance,
        by simp [running], by simp [running]⟩
    · obtain ⟨before, after⟩ := WireFolding.pollNext_of_ended answer
      exact ⟨sent, accounts.framed, fun _ => by simpa [before, after] using balance,
        fun _ => after, by simp⟩
    · obtain ⟨consumed, stands, split⟩ := WireFolding.pollNext_of_wire answer
      exact ⟨sent, accounts.framed, by simp, by simp, fun _ =>
        ⟨wire, consumed, stands, failed, by simpa [split] using balance⟩⟩
    · obtain ⟨consumed, stands, split⟩ := WireFolding.pollNext_of_wire answer
      refine ⟨sent ++ consumed, accounts.framed.snoc stands framed, fun _ => ?_, ?_, ?_⟩
      · simpa [split] using balance
      · split <;> simp
      · split <;> simp
  · rw [turn_of_returned rkyv emitter running]
    exact ⟨sent, accounts⟩

/-- Every event is accounted for after any number of turns. -/
theorem observableToResponses_accounts (rkyv : Rkyv T E)
    (emitter : ResponseEmitter S) (events : List (Event T E))
    (schedule : Stream' Bool) (sink : S) (turns : Nat) :
    ∃ sent, Accounts rkyv events
      (observableToResponses rkyv emitter turns (start events schedule sink)) sent := by
  induction turns with
  | zero => exact ⟨[], accounts_start rkyv events schedule sink⟩
  | succ turns ih =>
      obtain ⟨sent, accounts⟩ := ih
      rw [observableToResponses, Function.iterate_succ_apply']
      exact turn_accounts emitter accounts

/-! ### Every event arrives from a source that keeps answering -/

theorem turn_fair (emitter : ResponseEmitter S) {responding : Responding T E S}
    (fair : Source.Fair responding.stream.source.source.schedule) :
    Source.Fair (responding.turn rkyv emitter).stream.source.source.schedule := by
  by_cases running : responding.outcome = none
  · have fairAfter := WireFolding.pollNext_fair fair
    rcases responding.turn_cases rkyv emitter running with
      ⟨-, turned⟩ | ⟨-, turned⟩ | ⟨_, -, -, turned⟩ | ⟨_, _, _, -, -, turned⟩
    all_goals
      rw [turned]
      exact fairAfter
  · rwa [turn_of_returned rkyv emitter running]

/-- With an encoder that never fails and an emitter that never refuses, a running
loop waits, returns at the end of its stream, or gets closer to it. -/
theorem turn_progress (total : rkyv.Total) {emitter : ResponseEmitter S}
    (accepting : ∀ sink kind bytes, (emitter.emit sink kind bytes).2 = true)
    {responding : Responding T E S} (running : responding.outcome = none) :
    (responding.stream.source.source.schedule.head = false ∧
      (responding.turn rkyv emitter).stream.source.source.schedule =
        responding.stream.source.source.schedule.tail ∧
      (responding.turn rkyv emitter).stream.ahead = responding.stream.ahead ∧
      (responding.turn rkyv emitter).outcome = none) ∨
    (responding.turn rkyv emitter).outcome = some .exhausted ∨
    ((responding.turn rkyv emitter).outcome = none ∧
      (responding.turn rkyv emitter).stream.ahead.length <
        responding.stream.ahead.length) := by
  rcases responding.turn_cases rkyv emitter running with
    ⟨answer, turned⟩ | ⟨answer, turned⟩ |
      ⟨wire, answer, failed, turned⟩ | ⟨wire, kind, bytes, answer, framed, turned⟩
  all_goals rw [turned]
  · obtain ⟨-, silent, advanced, same⟩ := WireFolding.pollNext_of_pending answer
    exact Or.inl ⟨silent, advanced, same, running⟩
  · exact Or.inr (Or.inl rfl)
  · have encodable := frame_total total wire
    rw [failed] at encodable
    cases encodable
  · obtain ⟨consumed, stands, split⟩ := WireFolding.pollNext_of_wire answer
    have consumedSome := stands.length_pos
    refine Or.inr (Or.inr ⟨by simp [accepting], ?_⟩)
    calc
      responding.stream.pollNext.2.ahead.length
          < consumed.length + responding.stream.pollNext.2.ahead.length := by omega
      _ = responding.stream.ahead.length := by rw [split, List.length_append]

/-- From any running state of a fair source, the loop returns exhausted. -/
theorem eventually_exhausted (total : rkyv.Total) {emitter : ResponseEmitter S}
    (accepting : ∀ sink kind bytes, (emitter.emit sink kind bytes).2 = true)
    (responding : Responding T E S) (running : responding.outcome = none)
    (fair : Source.Fair responding.stream.source.source.schedule) :
    ∃ turns,
      (observableToResponses rkyv emitter turns responding).outcome =
        some .exhausted := by
  -- Outer induction on the events ahead, inner one on the wait for an answer.
  induction remaining : responding.stream.ahead.length
    using Nat.strong_induction_on generalizing responding with
  | h remaining ih =>
    obtain ⟨wait, answered⟩ := fair 0
    rw [Nat.zero_add] at answered
    induction wait generalizing responding with
    | zero =>
        rcases turn_progress total accepting running with
          ⟨silent, -⟩ | returned | ⟨going, closer⟩
        · rw [Stream'.head, answered] at silent
          cases silent
        · exact ⟨1, returned⟩
        · obtain ⟨turns, exhausted⟩ :=
            ih _ (by omega) _ going (turn_fair emitter fair) rfl
          exact ⟨turns + 1, exhausted⟩
    | succ wait waiting =>
        rcases turn_progress total accepting running with
          ⟨-, advanced, same, going⟩ | returned | ⟨going, closer⟩
        · obtain ⟨turns, exhausted⟩ :=
            waiting _ going (turn_fair emitter fair) (by rw [same, remaining])
              (by rw [advanced, Stream'.get_tail]; exact answered)
          exact ⟨turns + 1, exhausted⟩
        · exact ⟨1, returned⟩
        · obtain ⟨turns, exhausted⟩ :=
            ih _ (by omega) _ going (turn_fair emitter fair) rfl
          exact ⟨turns + 1, exhausted⟩

/-- With an encoder that never fails, every event is behind a sample or ahead. -/
theorem observableToResponses_balance (total : rkyv.Total) (emitter : ResponseEmitter S)
    (events : List (Event T E)) (schedule : Stream' Bool) (sink : S) (turns : Nat) :
    ∃ sent,
      Framed rkyv (observableToResponses rkyv emitter turns
        (start events schedule sink)).samples sent ∧
      events = sent ++ (observableToResponses rkyv emitter turns
        (start events schedule sink)).stream.ahead ∧
      ((observableToResponses rkyv emitter turns
          (start events schedule sink)).outcome = some .exhausted → sent = events) := by
  obtain ⟨sent, accounts⟩ :=
    observableToResponses_accounts rkyv emitter events schedule sink turns
  have encoded : (observableToResponses rkyv emitter turns
      (start events schedule sink)).outcome ≠ some .unencodable := by
    intro failed
    obtain ⟨wire, _, -, unencodable, -⟩ := accounts.unencodable failed
    have encodable := frame_total total wire
    rw [unencodable] at encodable
    cases encodable
  refine ⟨sent, accounts.framed, accounts.balance encoded, ?_⟩
  intro exhausted
  have balance := accounts.balance encoded
  rw [accounts.exhausted exhausted, List.append_nil] at balance
  exact balance.symm

end Responding

/-- Wire transparency.  At every point of the loop the samples read back, by their
stamped kind, as the events that left the fold, in order and with `Error(Empty)`
as `Complete`; every stamped kind names its payload; a fold that answers `Pending`
holds nothing back; and the samples of a loop that returned at the end of its
stream read back as the whole stream, which a source that keeps answering
reaches. -/
theorem wire_transparency (rkyv : Rkyv T E) (roundTrips : rkyv.RoundTrips)
    (total : rkyv.Total) (emitter : ResponseEmitter S) (events : List (Event T E))
    (schedule : Stream' Bool) (sink : S) :
    (∀ turns after, after = observableToResponses rkyv emitter turns
        (.start events schedule sink) →
      (∃ sent, events = sent ++ after.stream.ahead ∧
        rkyv.readSamples after.samples = .ok (sent.map Event.onWire)) ∧
      (∀ sample ∈ after.samples, rkyv.KindMatches sample) ∧
      (after.stream.pollNext.1 = .pending →
        ∃ read, events = read ++ after.stream.pollNext.2.source.source.items ∧
          rkyv.readSamples after.samples = .ok (read.map Event.onWire)) ∧
      (after.outcome = some .exhausted →
        rkyv.readSamples after.samples = .ok (events.map Event.onWire))) ∧
    (Source.Fair schedule →
      (∀ sink kind bytes, (emitter.emit sink kind bytes).2 = true) →
      ∃ turns, (observableToResponses rkyv emitter turns
        (.start events schedule sink)).outcome = some .exhausted) := by
  constructor
  · intro turns after reached
    obtain ⟨sent, framed, balance, whole⟩ :=
      Responding.observableToResponses_balance total emitter events schedule sink turns
    rw [← reached] at framed balance whole
    obtain ⟨read, kinds⟩ := framed.reads roundTrips
    refine ⟨⟨sent, balance, read⟩, kinds, ?_, ?_⟩
    · intro silent
      -- The slot is empty, so what is ahead is what the source still holds.
      obtain ⟨emptySlot, -, -, same⟩ := WireFolding.pollNext_of_pending silent
      refine ⟨sent, ?_, read⟩
      rw [balance, ← same, WireFolding.ahead, emptySlot]
      rfl
    · intro exhausted
      rw [← whole exhausted]
      exact read
  · intro fair accepting
    exact Responding.eventually_exhausted total accepting _ rfl fair

/-- A value followed by `Error(Empty)` crosses the wire as the value and a
completion. -/
theorem wire_transparency_empty :
    ∃ turns after, after = observableToResponses plainCodec collectEmitter turns
        (.start [.next 7, .error .empty] (Stream'.const true) []) ∧
      after.outcome = some .exhausted ∧
      plainCodec.readSamples after.samples = .ok [.next 7, .complete] := by
  obtain ⟨always, eventually⟩ := wire_transparency plainCodec plainCodec_roundTrips
    plainCodec_total collectEmitter [.next 7, .error .empty] (Stream'.const true) []
  obtain ⟨turns, exhausted⟩ := eventually Source.fair_const_true (fun _ _ _ => rfl)
  obtain ⟨-, -, -, whole⟩ := always turns _ rfl
  exact ⟨turns, _, rfl, exhausted, whole exhausted⟩

end IceRpc
