/-
Module: IceRpc.Proofs.JsonAnswered
Purpose: When `json_host_handler` answers a call to its end.  The handler relays
  what the host does: a run is well answered all along exactly when the host ends
  every call it closes and stops once the call is over.
Trusted boundary: none
Main exports: JsonServing.WellAnswered, HostKeepsContract, JsonServing.step_exact,
  json_answered_iff
-/
import IceRpc.Lib.Ending
import IceRpc.Lib.Run
import IceRpc.Transport.JsonHost
import IceRpc.Types.PlainCodec

namespace IceRpc

open Lib (Poll EndsOnce Unended)

variable {T E S : Type}
variable {rkyv : Rkyv T E} {serving next : JsonServing S}

/-! ### The property and the condition -/

/-- After this emission the handler has nothing more to publish: the sample was
terminal, or the emitter answered `false`. -/
def Emission.closes (emission : Emission) : Bool :=
  decide (emission.sample.kind ≠ .next) || !emission.accepted

/-- Zero or more accepted `Next` samples, then at most one terminal or refused one
and nothing behind it; a handler that returned has published it. -/
def JsonServing.WellAnswered (serving : JsonServing S) : Prop :=
  (∀ emission ∈ serving.emitted,
    emission.sample.kind = .next ∨ emission.sample.kind.isTerminal = true) ∧
  ((Unended Emission.closes serving.emitted ∧ serving.returned = false) ∨
    EndsOnce Emission.closes serving.emitted)

/-- What a host owes the handler at a poll: once the call is over no further value
waits in the channel, and before that the channel is not found closed and empty,
unless the deadline of the first event answers for it. -/
def HostKeepsContract (serving : JsonServing S) : HostAction → Prop
  | .poll timerFirst =>
      if serving.emitted.any Emission.closes then
        serving.stream.queue = []
      else
        serving.stream.queue = [] → serving.stream.closed = true →
          serving.stream.answered = false ∧ serving.elapsed = true ∧ timerFirst = true
  | _ => True

/-! ### One answer of the stream -/

/-- What a poll of the stream can answer. -/
theorem JsonCallStream.next_cases (stream : JsonCallStream)
    (elapsed timerFirst : Bool) :
    (stream.next elapsed timerFirst = (.pending, stream) ∧ stream.queue = [] ∧
      stream.closed = false) ∨
    (stream.next elapsed timerFirst = (.ready none, stream) ∧ stream.queue = [] ∧
      stream.closed = true ∧
      ¬ (stream.answered = false ∧ elapsed = true ∧ timerFirst = true)) ∨
    (stream.next elapsed timerFirst =
        (.ready (some JsonCallStream.timedOut), stream) ∧
      stream.answered = false ∧ elapsed = true ∧
      (timerFirst = true ∨ (stream.queue = [] ∧ stream.closed = false))) ∨
    (∃ value queue, stream.queue = value :: queue ∧
      stream.next elapsed timerFirst =
        (.ready (some (.event value)),
          { stream with queue := queue, answered := true })) := by
  rcases stream with ⟨_ | ⟨value, queue⟩, closed, answered⟩
  · cases closed <;> cases answered <;> cases elapsed <;> cases timerFirst <;>
      simp [JsonCallStream.next, JsonCallStream.recv]
  · cases answered <;> cases elapsed <;> cases timerFirst <;>
      simp [JsonCallStream.next, JsonCallStream.recv]

theorem eventFromJson_kind {serde : Serde T E} {value : Json} {sample : Sample}
    (converted : eventFromJson rkyv serde value = some sample) :
    sample.kind = .next ∨ sample.kind.isTerminal = true := by
  simp only [eventFromJson, Option.bind_eq_bind, Option.bind_eq_some_iff,
    Option.pure_def, Option.some.injEq] at converted
  obtain ⟨wire, -, bytes, -, rfl⟩ := converted
  cases wire with
  | next value => exact Or.inl rfl
  | _ => exact Or.inr rfl

/-! ### One emission -/

namespace JsonServing

/-- The next state differs by one emission of a sample a response may carry. -/
structure Emits (serving next : JsonServing S) (emission : Emission) : Prop where
  emitted : next.emitted = serving.emitted ++ [emission]
  kind : emission.sample.kind = .next ∨ emission.sample.kind.isTerminal = true
  closes : next.returned = true → emission.closes = true

/-- An emission keeps a call well answered while nothing closed it. -/
theorem Emits.wellAnswered {emission : Emission} (emits : Emits serving next emission)
    (answered : serving.WellAnswered) (going : Unended Emission.closes serving.emitted) :
    next.WellAnswered := by
  constructor
  · intro other member
    rw [emits.emitted] at member
    rcases List.mem_append.mp member with old | new
    · exact answered.1 other old
    · rw [List.mem_singleton.mp new]
      exact emits.kind
  · rw [emits.emitted]
    by_cases closing : emission.closes = true
    · exact Or.inr (Lib.endsOnce_snoc.mpr ⟨going, closing⟩)
    · have goesOn : emission.closes = false := by simpa using closing
      refine Or.inl ⟨?_, ?_⟩
      · rw [Lib.unended_append]
        exact ⟨going, Lib.unended_singleton.mpr goesOn⟩
      · by_contra returned
        exact closing (emits.closes (by simpa using returned))

/-- An emission after the end breaks it. -/
theorem Emits.not_wellAnswered {emission : Emission} (emits : Emits serving next emission)
    (ends : EndsOnce Emission.closes serving.emitted) : ¬ next.WellAnswered := by
  rintro ⟨-, ⟨going, -⟩ | longer⟩
  · rw [emits.emitted, Lib.unended_append] at going
    exact ends.not_unended going.1
  · rw [emits.emitted] at longer
    exact ends.not_snoc emission longer

theorem rejectWith_emits (encodesRpc : ∀ err, (rkyv.encodeRpc err).isSome)
    (emitter : ResponseEmitter S) (serving : JsonServing S) (err : RpcError) :
    (serving.rejectWith rkyv emitter err).returned = true ∧
      ∃ emission, Emits serving (serving.rejectWith rkyv emitter err) emission := by
  obtain ⟨bytes, encoded⟩ := Option.isSome_iff_exists.mp (encodesRpc err)
  simp only [rejectWith, encoded]
  exact ⟨trivial, _, rfl, Or.inr rfl, fun _ => by simp [Emission.closes]⟩

/-- Every value of the host makes the handler publish something. -/
theorem onEvent_event_emits (encodesRpc : ∀ err, (rkyv.encodeRpc err).isSome) (serde : Serde T E)
    (emitter : ResponseEmitter S) (serving : JsonServing S) (running : serving.returned = false)
    (value : Json) :
    ∃ emission,
      Emits serving (serving.onEvent rkyv serde emitter (some (.event value)))
        emission := by
  simp only [onEvent]
  cases converted : eventFromJson rkyv serde value with
  | none => exact (rejectWith_emits encodesRpc emitter serving _).2
  | some sample =>
      refine ⟨_, rfl, eventFromJson_kind converted, ?_⟩
      intro returned
      simp [emit, running] at returned

/-! ### One step of a served call -/

/-- A handler still at work that published something has read an event. -/
def AnsweredFirst (serving : JsonServing S) : Prop :=
  serving.returned = false → serving.emitted ≠ [] → serving.stream.answered = true

/-- What one poll of the handler's loop does. -/
theorem poll_cases (encodesRpc : ∀ err, (rkyv.encodeRpc err).isSome) {serde : Serde T E}
    {emitter : ResponseEmitter S} {timerFirst : Bool}
    (performed : serving.poll rkyv serde emitter timerFirst = some next) :
    serving.returned = false ∧
    ((next = serving ∧ serving.stream.queue = [] ∧ serving.stream.closed = false) ∨
    (next = { serving with returned := true } ∧ serving.stream.queue = [] ∧
      serving.stream.closed = true ∧
      ¬ (serving.stream.answered = false ∧ serving.elapsed = true ∧
        timerFirst = true)) ∨
    ((∃ emission, Emits serving next emission) ∧ next.returned = true ∧
      serving.stream.answered = false ∧ serving.elapsed = true ∧
      (serving.stream.queue = [] → serving.stream.closed = true →
        timerFirst = true)) ∨
    ((∃ emission, Emits serving next emission) ∧
      (next.returned = false → next.stream.answered = true) ∧
      serving.stream.queue ≠ [])) := by
  unfold poll at performed
  split at performed
  · cases performed
  · rename_i notReturned
    have running : serving.returned = false := by simpa using notReturned
    refine ⟨running, ?_⟩
    rcases serving.stream.next_cases serving.elapsed timerFirst with
      ⟨answer, empty, stillOpen⟩ | ⟨answer, empty, closed, noTimer⟩ |
        ⟨answer, first, elapsed, race⟩ | ⟨value, queue, queued, answer⟩
    · rw [answer] at performed
      cases performed
      exact Or.inl ⟨rfl, empty, stillOpen⟩
    · rw [answer] at performed
      cases performed
      exact Or.inr (Or.inl ⟨rfl, empty, closed, noTimer⟩)
    · rw [answer] at performed
      cases performed
      obtain ⟨returned, emission, emits⟩ := rejectWith_emits encodesRpc emitter serving
        (.internal "the JSON host did not answer within 30s")
      refine Or.inr (Or.inr (Or.inl
        ⟨⟨emission, emits⟩, returned, first, elapsed, fun _ closed => ?_⟩))
      rcases race with timer | ⟨-, stillOpen⟩
      · exact timer
      · rw [closed] at stillOpen
        cases stillOpen
    · rw [answer] at performed
      cases performed
      obtain ⟨emission, emits⟩ := onEvent_event_emits encodesRpc serde emitter
        { serving with stream := { serving.stream with queue := queue, answered := true } }
        running value
      refine Or.inr (Or.inr (Or.inr
        ⟨⟨emission, emits.emitted, emits.kind, emits.closes⟩, ?_, by simp [queued]⟩))
      intro goesOn
      cases converted : eventFromJson rkyv serde value with
      | none =>
          have returned := (rejectWith_emits encodesRpc emitter
            { serving with
              stream := { serving.stream with queue := queue, answered := true } }
            .serializationError).1
          simp only [onEvent, converted, rejectJsonResponse, returned] at goesOn
          cases goesOn
      | some sample => simp [onEvent, converted, emit]

/-- A host or the clock touches neither what was published nor the handler. -/
theorem step_host {serde : Serde T E} {emitter : ResponseEmitter S} {action : HostAction}
    (notPoll : ∀ timerFirst, action ≠ .poll timerFirst)
    (performed : serving.step rkyv serde emitter action = some next) :
    next.emitted = serving.emitted ∧ next.returned = serving.returned ∧
      next.stream.answered = serving.stream.answered := by
  cases action with
  | poll timerFirst => exact absurd rfl (notPoll timerFirst)
  | elapse =>
      cases performed
      exact ⟨rfl, rfl, rfl⟩
  | push value =>
      simp only [step, Option.ite_none_left_eq_some, Option.some.injEq] at performed
      obtain ⟨-, rfl⟩ := performed
      exact ⟨rfl, rfl, rfl⟩
  | close =>
      simp only [step, Option.ite_none_left_eq_some, Option.some.injEq] at performed
      obtain ⟨-, rfl⟩ := performed
      exact ⟨rfl, rfl, rfl⟩
  | emitEvent event =>
      simp only [step, Option.ite_none_left_eq_some] at performed
      obtain ⟨-, performed⟩ := performed
      cases envelope : nextEnvelope event with
      | ok value =>
          rw [envelope] at performed
          cases performed
          exact ⟨rfl, rfl, rfl⟩
      | error err =>
          rw [envelope] at performed
          cases performed
          exact ⟨rfl, rfl, rfl⟩
  | resolve event =>
      simp only [step, Option.ite_none_left_eq_some] at performed
      obtain ⟨-, performed⟩ := performed
      cases envelope : terminalEnvelope event with
      | ok value =>
          rw [envelope] at performed
          cases performed
          exact ⟨rfl, rfl, rfl⟩
      | error err =>
          rw [envelope] at performed
          cases performed
          exact ⟨rfl, rfl, rfl⟩

theorem answeredFirst_step (encodesRpc : ∀ err, (rkyv.encodeRpc err).isSome) {serde : Serde T E}
    {emitter : ResponseEmitter S} {action : HostAction} (inv : AnsweredFirst serving)
    (performed : serving.step rkyv serde emitter action = some next) : AnsweredFirst next := by
  intro running some
  by_cases isPoll : ∃ timerFirst, action = .poll timerFirst
  · obtain ⟨timerFirst, rfl⟩ := isPoll
    obtain ⟨before, ⟨rfl, -⟩ | ⟨rfl, -⟩ | ⟨-, returned, -⟩ | ⟨-, read, -⟩⟩ :=
      poll_cases encodesRpc performed
    · exact inv running some
    · cases running
    · rw [returned] at running
      cases running
    · exact read running
  · obtain ⟨emitted, returned, answered⟩ :=
      step_host (fun timerFirst same => isPoll ⟨timerFirst, same⟩) performed
    rw [answered]
    exact inv (returned ▸ running) (emitted ▸ some)

theorem any_closes_of_unended {emitted : List Emission}
    (going : Unended Emission.closes emitted) :
    emitted.any Emission.closes = false := by
  rw [List.any_eq_false]
  intro emission member
  simp [going emission member]

theorem any_closes_of_endsOnce {emitted : List Emission}
    (ends : EndsOnce Emission.closes emitted) :
    emitted.any Emission.closes = true := by
  obtain ⟨body, last, rfl, -, closes⟩ := ends
  simp [closes]

/-- A step keeps a call well answered exactly when the host keeps its contract. -/
theorem step_exact (encodesRpc : ∀ err, (rkyv.encodeRpc err).isSome) {serde : Serde T E}
    {emitter : ResponseEmitter S} {action : HostAction} (inv : AnsweredFirst serving)
    (answered : serving.WellAnswered)
    (performed : serving.step rkyv serde emitter action = some next) :
    next.WellAnswered ↔ HostKeepsContract serving action := by
  by_cases isPoll : ∃ timerFirst, action = .poll timerFirst
  · obtain ⟨timerFirst, rfl⟩ := isPoll
    obtain ⟨running, found⟩ := poll_cases encodesRpc performed
    rcases answered.2 with ⟨going, -⟩ | ends
    · -- Only accepted values so far: everything but the close keeps the grammar.
      simp only [HostKeepsContract, any_closes_of_unended going, Bool.false_eq_true,
        if_false]
      rcases found with ⟨rfl, empty, stillOpen⟩ | ⟨rfl, empty, closed, noTimer⟩ |
        ⟨⟨_, emits⟩, -, first, elapsed, race⟩ | ⟨⟨_, emits⟩, -, waiting⟩
      · refine ⟨fun _ _ closed => ?_, fun _ => answered⟩
        rw [stillOpen] at closed
        cases closed
      · constructor
        · rintro ⟨-, ⟨-, notReturned⟩ | ends⟩
          · cases notReturned
          · exact absurd going ends.not_unended
        · intro contract
          exact absurd (contract empty closed) noTimer
      · refine ⟨fun _ empty closed => ⟨first, elapsed, race empty closed⟩, fun _ => ?_⟩
        exact emits.wellAnswered answered going
      · refine ⟨fun _ empty _ => absurd empty waiting, fun _ => ?_⟩
        exact emits.wellAnswered answered going
    · -- The call is over: the handler must not find another value.
      simp only [HostKeepsContract, any_closes_of_endsOnce ends, if_true]
      rcases found with ⟨rfl, empty, -⟩ | ⟨rfl, empty, -⟩ |
        ⟨-, -, first, -⟩ | ⟨⟨_, emits⟩, -, waiting⟩
      · exact ⟨fun _ => empty, fun _ => answered⟩
      · exact ⟨fun _ => empty, fun _ => ⟨answered.1, Or.inr ends⟩⟩
      · have published : serving.emitted ≠ [] := by
          intro nothing
          rw [nothing] at ends
          exact Lib.not_endsOnce_nil ends
        rw [inv running published] at first
        cases first
      · exact ⟨fun kept => absurd kept (emits.not_wellAnswered ends),
          fun empty => absurd empty waiting⟩
  · obtain ⟨emitted, returned, -⟩ :=
      step_host (fun timerFirst same => isPoll ⟨timerFirst, same⟩) performed
    have same : next.WellAnswered ↔ serving.WellAnswered := by
      rw [WellAnswered, WellAnswered, emitted, returned]
    have owesNothing : HostKeepsContract serving action := by
      cases action with
      | poll timerFirst => exact absurd ⟨timerFirst, rfl⟩ isPoll
      | _ => trivial
    exact ⟨fun _ => owesNothing, fun _ => same.mpr answered⟩

/-- Whatever the arguments and the host's first reaction, the handler starts well
answered: a call that cannot be served is rejected at once. -/
theorem jsonHostHandler_start (encodesRpc : ∀ err, (rkyv.encodeRpc err).isSome)
    (emitter : ResponseEmitter S) (args : Option Json) (dispatchJson : Json → Except String Unit)
    (sink : S) :
    AnsweredFirst (jsonHostHandler rkyv emitter args dispatchJson sink) ∧
      (jsonHostHandler rkyv emitter args dispatchJson sink).WellAnswered := by
  have fresh : (begin sink).WellAnswered :=
    ⟨by simp [begin], Or.inl ⟨by simp [begin], rfl⟩⟩
  have rejected : ∀ err,
      AnsweredFirst ((begin sink).rejectWith rkyv emitter err) ∧
        ((begin sink).rejectWith rkyv emitter err).WellAnswered := by
    intro err
    obtain ⟨returned, emission, emits⟩ :=
      rejectWith_emits encodesRpc emitter (begin sink) err
    refine ⟨?_, emits.wellAnswered fresh (by simp [begin])⟩
    intro running
    rw [returned] at running
    cases running
  cases args with
  | none => exact rejected .serializationError
  | some args =>
      simp only [jsonHostHandler]
      cases dispatchJson args with
      | error message => exact rejected (.internal message)
      | ok accepted => exact ⟨fun _ nothing => absurd rfl nothing, fresh⟩

end JsonServing

/-! ### Whole runs -/

/-- Along every run of a served call, the samples are accepted values followed by at
most one terminal or refused sample, which a handler that returned has published,
exactly when the host keeps its contract at every poll. -/
theorem json_answered_iff (rkyv : Rkyv T E)
    (encodesRpc : ∀ err, (rkyv.encodeRpc err).isSome) (serde : Serde T E)
    (emitter : ResponseEmitter S) (args : Option Json)
    (dispatchJson : Json → Except String Unit) (sink : S)
    (actions : List HostAction) (final : JsonServing S)
    (performed : Lib.run (JsonServing.step rkyv serde emitter)
      (jsonHostHandler rkyv emitter args dispatchJson sink) actions = some final) :
    Lib.Throughout (JsonServing.step rkyv serde emitter) JsonServing.WellAnswered
        (jsonHostHandler rkyv emitter args dispatchJson sink) actions ↔
      Lib.StepsMeet (JsonServing.step rkyv serde emitter) HostKeepsContract
        (jsonHostHandler rkyv emitter args dispatchJson sink) actions := by
  obtain ⟨first, answered⟩ :=
    JsonServing.jsonHostHandler_start encodesRpc emitter args dispatchJson sink
  apply Lib.throughout_iff_stepsMeet JsonServing.AnsweredFirst
    JsonServing.WellAnswered HostKeepsContract _ _ first answered performed
  · intro serving action next inv stepped
    exact JsonServing.answeredFirst_step encodesRpc inv stepped
  · intro serving action next inv kept stepped
    exact JsonServing.step_exact encodesRpc inv kept stepped

/-- Conversions of a service whose only value and error are the JSON `null`. -/
def nullSerde : Serde UInt8 UInt8 where
  value
    | .null => some 0
    | _ => none
  err
    | .null => some 0
    | _ => none

/-- A call the host resolves at once is answered to its end. -/
theorem json_answered_resolve :
    Lib.Throughout (JsonServing.step plainCodec nullSerde collectEmitter)
      JsonServing.WellAnswered
      (jsonHostHandler plainCodec collectEmitter (some .null) (fun _ => .ok ()) [])
      [.resolve .null, .poll false, .poll false] := by
  apply (json_answered_iff plainCodec plainCodec_total.rpc nullSerde collectEmitter
    (some .null) (fun _ => .ok ()) [] [.resolve .null, .poll false, .poll false] _
    rfl).mpr
  refine ⟨trivial, ?_⟩
  rintro _ ⟨⟩
  refine ⟨?_, ?_⟩
  · intro empty
    cases empty
  rintro _ ⟨⟩
  refine ⟨rfl, ?_⟩
  rintro _ ⟨⟩
  trivial

namespace JsonServing

theorem WellAnswered.dropLast_going (answered : serving.WellAnswered) :
    Unended Emission.closes serving.emitted.dropLast := by
  rcases answered.2 with ⟨going, -⟩ | ⟨body, last, split, going, -⟩
  · intro emission member
    exact going emission (List.dropLast_subset _ member)
  · rw [split, List.dropLast_concat]
    exact going

theorem WellAnswered.returned_closes (answered : serving.WellAnswered)
    (returned : serving.returned = true) : EndsOnce Emission.closes serving.emitted := by
  rcases answered.2 with ⟨-, running⟩ | ends
  · rw [returned] at running
    cases running
  · exact ends

end JsonServing

/-- A host that drops its sender unanswered leaves the call without a terminal
sample; a value pushed behind the terminal one is published after it; and a value
is published after the emitter answered `false`. -/
theorem json_unanswered_close :
    (∃ final, Lib.run (JsonServing.step plainCodec nullSerde collectEmitter)
        (jsonHostHandler plainCodec collectEmitter (some .null) (fun _ => .ok ()) [])
        [.close, .poll false] = some final ∧
      final.returned = true ∧ ¬ final.WellAnswered) ∧
    (∃ final, Lib.run (JsonServing.step plainCodec nullSerde collectEmitter)
        (jsonHostHandler plainCodec collectEmitter (some .null) (fun _ => .ok ()) [])
        [.push (.object [("type", .string "complete")]),
          .push (.object [("data", .null)]), .poll false, .poll false] = some final ∧
      ¬ final.WellAnswered) ∧
    (∃ final, Lib.run (JsonServing.step plainCodec nullSerde ⟨fun sink _ _ => (sink, false)⟩)
        (jsonHostHandler plainCodec ⟨fun sink _ _ => (sink, false)⟩ (some .null)
          (fun _ => .ok ()) ())
        [.push (.object [("data", .null)]), .push (.object [("data", .null)]),
          .poll false, .poll false] = some final ∧
      ¬ final.WellAnswered) := by
  refine ⟨⟨_, rfl, rfl, ?_⟩, ⟨_, rfl, ?_⟩, ⟨_, rfl, ?_⟩⟩
  · intro answered
    exact Lib.not_endsOnce_nil (answered.returned_closes rfl)
  all_goals
    intro answered
    have going := answered.dropLast_going _ (List.mem_singleton.mpr rfl)
    cases going

end IceRpc
