/-
Module: IceRpc.Proofs.StreamGrammar
Purpose: The stream grammar, at most one terminal event and none after it, and the
  operators that keep it whatever they read besides their source: those that relay the
  answers of the source, those that drop values, those that mark their own end, and
  `delay`.
Trusted boundary: none
Main exports: WellFormed, Over, Relays, wellFormed_of_relays, wellFormed_of_sieve,
  wellFormed_of_flag, wellFormed_of_turn, Delay.wellFormed
-/
import IceRpc.Proofs.MergePoll
import IceRpc.Rx.Transform.ErrorHandling
import IceRpc.Rx.Transform.Filtering
import IceRpc.Rx.Transform.Transforming
import IceRpc.Rx.Transform.Utility

namespace IceRpc.Rx

open Lib

variable {cx : Context}

/-! ### The grammar -/

section Grammar

variable {S T E : Type} [PollStream S (Event T E)]

/-- Polled on and on, the stream delivers at most one terminal event, and no event
after it. -/
def WellFormed (stream : S) : Prop :=
  Graceful PollStream.pollNext Event.isTerminal stream

/-- Polled on and on, the stream delivers no event. -/
def Over (stream : S) : Prop :=
  Exhausted PollStream.pollNext stream

theorem Over.wellFormed {stream : S} (isOver : Over stream) : WellFormed stream := by
  intro contexts
  rw [isOver contexts]
  exact endsAtMostOnce_nil

/-- What is to hold after an answer, `going` while the stream goes on and `gone` from its
terminal event on. -/
abbrev Follows {O : Type} (going gone : O → Prop) :
    Answer T E → O → Prop :=
  After Event.isTerminal going gone

theorem WellFormed.poll {stream next : S} {answer : Answer T E} (good : WellFormed stream)
    (polled : PollStream.pollNext cx stream = some (answer, next)) :
    Follows WellFormed Over answer next :=
  good.after_poll polled

theorem Over.poll {stream next : S} {answer : Answer T E} (isOver : Over stream)
    (polled : PollStream.pollNext cx stream = some (answer, next)) : Silently Over answer next :=
  isOver.after_poll polled

theorem follows_wellFormed {answer : Answer T E} {next : S}
    (follows : Follows WellFormed Over answer next) : WellFormed next := by
  match answer with
  | .ready (some event) =>
      cases kind : event.isTerminal with
      | true => exact (follows.1 kind).wellFormed
      | false => exact follows.2 kind
  | .ready none | .pending => exact follows.elim id Over.wellFormed

theorem follows_over {answer : Answer T E} {next : S}
    (follows : Follows WellFormed Over answer next) (ended : endsStream answer = true) :
    Over next := by
  match answer with
  | .ready (some event) => exact follows.1 ended
  | .ready none | .pending => cases ended

theorem silently_over {answer : Answer T E} {next : S}
    (silent : Silently Over answer next) : Over next := by
  match answer with
  | .ready (some event) => exact silent.elim
  | .ready none | .pending => exact silent

end Grammar

/-! ### Operators that answer once for each answer of their source -/

section Relays

variable {S O T U E E2 : Type} [PollStream S (Event T E)]

/-- What becomes of an answer keeps its kind, and the operator keeps its source. -/
structure Relays (source : O → S) (keep : S → O)
    (react : S → Option (Event T E) → Option (Event U E2) × O) : Prop where
  keeps : ∀ stream, source (keep stream) = stream
  holds : ∀ stream answer, source (react stream answer).2 = stream
  closes : ∀ stream, (react stream none).1 = none
  delivers : ∀ stream event, ∃ out, (react stream (some event)).1 = some out ∧
    out.isTerminal = event.isTerminal

theorem passOn_follows {source : O → S} {keep : S → O}
    {react : S → Option (Event T E) → Option (Event U E2) × O} (relays : Relays source keep react)
    {stream : S} {answer : Answer U E2} {next : O}
    (polled : passOn cx stream keep react = some (answer, next)) :
    (WellFormed stream →
      Follows (fun this => WellFormed (source this)) (fun this => Over (source this))
        answer next) ∧
    (Over stream → Silently (fun this => Over (source this)) answer next) := by
  unfold passOn at polled
  split at polled
  · cases polled
  · rename_i after pending
    cases polled
    rw [← relays.keeps after] at pending
    exact ⟨fun good => (good.poll pending).mono id id,
      fun isOver => (isOver.poll pending).mono id⟩
  · rename_i item after ready
    cases polled
    rw [← relays.holds after item] at ready
    cases item with
    | none =>
        rw [relays.closes]
        exact ⟨fun good => (good.poll ready).mono id id,
          fun isOver => (isOver.poll ready).mono id⟩
    | some event =>
        obtain ⟨out, answered, kind⟩ := relays.delivers after event
        rw [answered]
        refine ⟨fun good => ?_, fun isOver => (isOver.poll ready).elim⟩
        have later := good.poll ready
        rw [Follows, After, kind]
        exact later

variable [PollStream O (Event U E2)]

/-- An operator that relays the answers of its source keeps the grammar. -/
theorem wellFormed_of_relays (source : O → S) (keep : O → S → O)
    (react : O → S → Option (Event T E) → Option (Event U E2) × O)
    (relays : ∀ this, Relays source (keep this) (react this))
    (polls : ∀ cx this, PollStream.pollNext cx this =
      passOn cx (source this) (keep this) (react this))
    {this : O} (good : WellFormed (source this)) : WellFormed this := by
  refine graceful_of_rules (fun this => WellFormed (source this))
    (fun this => Over (source this)) ?_ ?_ (Or.inl good)
  · intro cx state answer next holds polled
    rw [polls] at polled
    exact (passOn_follows (relays state) polled).1 holds
  · intro cx state answer next holds polled
    rw [polls] at polled
    exact (passOn_follows (relays state) polled).2 holds

end Relays

section

variable {S F T U E E2 : Type} [PollStream S (Event T E)] {source : S}

theorem Map.wellFormed [FnMut F T U] (f : F) (good : WellFormed source) :
    WellFormed (Map.new source f) := by
  refine wellFormed_of_relays Map.source _ Map.react ?_ (fun _ _ => rfl) good
  intro this
  refine ⟨fun _ => rfl, ?_, fun _ => rfl, ?_⟩
  · rintro stream (_ | _ | _ | _) <;> rfl
  · rintro stream (value | _ | err) <;> exact ⟨_, rfl, rfl⟩

theorem MapErr.wellFormed [FnMut F E E2] (f : F) (good : WellFormed source) :
    WellFormed (MapErr.new source f) := by
  refine wellFormed_of_relays MapErr.source _ MapErr.react ?_ (fun _ _ => rfl) good
  intro this
  refine ⟨fun _ => rfl, ?_, fun _ => rfl, ?_⟩
  · rintro stream (_ | _ | _ | _ | _ | _) <;> rfl
  · rintro stream (value | _ | _ | _ | _) <;> exact ⟨_, rfl, rfl⟩

theorem Scan.wellFormed [FnMut F (U × T) U] (initial : U) (f : F)
    (good : WellFormed source) : WellFormed (Scan.new source initial f) := by
  refine wellFormed_of_relays Scan.source _ Scan.react ?_ (fun _ _ => rfl) good
  intro this
  refine ⟨fun _ => rfl, ?_, fun _ => rfl, ?_⟩
  · rintro stream (_ | _ | _ | _) <;> rfl
  · rintro stream (value | _ | err) <;> exact ⟨_, rfl, rfl⟩

theorem Tap.wellFormed [FnMut F T Unit] (f : F) (good : WellFormed source) :
    WellFormed (Tap.new source f) := by
  refine wellFormed_of_relays Tap.source _ Tap.react ?_ (fun _ _ => rfl) good
  intro this
  refine ⟨fun _ => rfl, ?_, fun _ => rfl, ?_⟩
  · rintro stream (_ | _ | _ | _) <;> rfl
  · rintro stream (value | _ | err) <;> exact ⟨_, rfl, rfl⟩

theorem Finalize.wellFormed (f : F) (good : WellFormed source) :
    WellFormed (Finalize.new source f) := by
  refine wellFormed_of_relays Finalize.source _ Finalize.react ?_ (fun _ _ => rfl) good
  intro this
  refine ⟨fun _ => rfl, ?_, fun _ => rfl, ?_⟩
  · rintro stream (_ | _ | _ | _) <;> rfl
  · rintro stream (value | _ | err) <;> exact ⟨_, rfl, rfl⟩

end

/-! ### Operators that drop values -/

section Sieves

variable {S O T E : Type} [PollStream S (Event T E)]

theorem sieve_again {source : O → S} {put : O → S → O} {accept : O → T → Bool × O} {this next : O}
    (turned : sieve source put accept cx this = some (.again next)) :
    ∃ value stream, PollStream.pollNext cx (source this) =
        some (.ready (some (.next value)), stream) ∧
      next = (accept (put this stream) value).2 := by
  unfold sieve at turned
  split at turned
  · cases turned
  · rename_i value stream polled
    dsimp only at turned
    split at turned
    · cases turned
    · cases turned
      exact ⟨value, stream, polled, rfl⟩
  · cases turned

theorem sieve_leave {source : O → S} {put : O → S → O} {accept : O → T → Bool × O} {this next : O}
    {answer : Answer T E} (turned : sieve source put accept cx this = some (.leave answer next)) :
    ∃ stream, PollStream.pollNext cx (source this) = some (answer, stream) ∧
      (next = put this stream ∨ ∃ value, next = (accept (put this stream) value).2) := by
  unfold sieve at turned
  split at turned
  · cases turned
  · rename_i value stream polled
    dsimp only at turned
    split at turned
    · cases turned
      exact ⟨stream, polled, Or.inr ⟨value, rfl⟩⟩
    · cases turned
  · rename_i other stream _ polled
    cases turned
    exact ⟨stream, polled, Or.inl rfl⟩

variable [PollStream O (Event T E)]

/-- An operator that drops values keeps the grammar. -/
theorem wellFormed_of_sieve (source : O → S) (put : O → S → O) (accept : O → T → Bool × O)
    (puts : ∀ this stream, source (put this stream) = stream)
    (accepts : ∀ this value, source (accept this value).2 = source this)
    (polls : ∀ cx this, PollStream.pollNext cx this =
      loop (sieve source put accept cx) cx.turns this)
    {this : O} (good : WellFormed (source this)) : WellFormed this := by
  -- the operator holds the source as its last poll left it
  have left : ∀ {cx : Context} {state next : O} {answer : Answer T E},
      sieve source put accept cx state = some (.leave answer next) →
      PollStream.pollNext cx (source state) = some (answer, source next) := by
    intro cx state next answer turned
    obtain ⟨stream, polled, rfl | ⟨value, rfl⟩⟩ := sieve_leave turned
    · rw [puts]
      exact polled
    · rw [accepts, puts]
      exact polled
  have continued : ∀ {cx : Context} {state next : O},
      sieve source put accept cx state = some (.again next) →
      ∃ value, PollStream.pollNext cx (source state) =
        some (.ready (some (.next value)), source next) := by
    intro cx state next turned
    obtain ⟨value, stream, polled, rfl⟩ := sieve_again turned
    rw [accepts, puts]
    exact ⟨value, polled⟩
  refine graceful_of_rules (fun this => WellFormed (source this))
    (fun this => Over (source this)) ?_ ?_ (Or.inl good)
  · intro cx state answer next holds polled
    rw [polls] at polled
    refine loop_rule (fun this => WellFormed (source this))
      (Follows (fun this => WellFormed (source this)) (fun this => Over (source this)))
      ?_ ?_ holds polled
    · intro state next holds turned
      obtain ⟨value, polled⟩ := continued turned
      exact (holds.poll polled).2 rfl
    · intro state answer next holds turned
      exact (holds.poll (left turned)).mono id id
  · intro cx state answer next holds polled
    rw [polls] at polled
    refine loop_rule (fun this => Over (source this))
      (Silently fun this => Over (source this)) ?_ ?_ holds polled
    · intro state next holds turned
      obtain ⟨value, polled⟩ := continued turned
      exact (holds.poll polled).elim
    · intro state answer next holds turned
      exact (holds.poll (left turned)).mono id

end Sieves

section

variable {S F T E : Type} [PollStream S (Event T E)] {source : S}

theorem Filter.wellFormed [FnMut F T Bool] (f : F) (good : WellFormed source) :
    WellFormed (Filter.new source f) :=
  wellFormed_of_sieve Filter.source _ Filter.accept (fun _ _ => rfl) (fun _ _ => rfl)
    (fun _ _ => rfl) good

theorem DistinctUntilChanged.wellFormed [BEq T] (good : WellFormed source) :
    WellFormed (DistinctUntilChanged.new source : DistinctUntilChanged S T) := by
  refine wellFormed_of_sieve DistinctUntilChanged.source _ DistinctUntilChanged.accept
    (fun _ _ => rfl) ?_ (fun _ _ => rfl) good
  intro this value
  unfold DistinctUntilChanged.accept
  split <;> rfl

theorem Skip.wellFormed (n : Nat) (good : WellFormed source) :
    WellFormed (Skip.new source n) := by
  refine wellFormed_of_sieve Skip.source _ Skip.accept (fun _ _ => rfl) ?_
    (fun _ _ => rfl) good
  intro this value
  unfold Skip.accept
  split <;> rfl

end

/-! ### Operators that mark their own end -/

section Flags

variable {O T E : Type} [PollStream O (Event T E)]

/-- An operator that marks its end when it delivers a terminal event, and answers the
end of the stream from then on, keeps the grammar. -/
theorem wellFormed_of_flag (flag : O → Bool)
    (closed : ∀ cx this answer next, flag this = true →
      PollStream.pollNext cx this = some (answer, next) →
        answer = .ready none ∧ flag next = true)
    (closes : ∀ cx this event next, flag this = false →
      PollStream.pollNext cx this = some (.ready (some event), next) →
        event.isTerminal = true → flag next = true)
    (this : O) : WellFormed this := by
  refine graceful_of_rules (fun _ => True) (fun this => flag this = true) ?_ ?_
    (Or.inl trivial)
  · intro cx state answer next _ polled
    match answer with
    | .ready (some event) =>
        refine ⟨fun ended => ?_, fun _ => trivial⟩
        cases marked : flag state with
        | true => cases (closed cx state _ next marked polled).1
        | false => exact closes cx state event next marked polled ended
    | .ready none => exact Or.inl trivial
    | .pending => exact Or.inl trivial
  · intro cx state answer next marked polled
    obtain ⟨rfl, still⟩ := closed cx state answer next marked polled
    exact still

/-- The same for an operator whose poll is a loop. -/
theorem wellFormed_of_turn (flag : O → Bool)
    (turn : Context → O → Option (Turn O (Answer T E)))
    (polls : ∀ cx this, PollStream.pollNext cx this = loop (turn cx) cx.turns this)
    (closed : ∀ cx this, flag this = true → turn cx this = some (.leave (.ready none) this))
    (closes : ∀ cx this event next, turn cx this = some (.leave (.ready (some event)) next) →
      event.isTerminal = true → flag next = true)
    (this : O) : WellFormed this := by
  refine wellFormed_of_flag flag ?_ ?_ this
  · intro cx state answer next marked polled
    rw [polls] at polled
    refine loop_rule (fun this => flag this = true)
      (fun answer next => answer = .ready none ∧ flag next = true) ?_ ?_ marked polled
    · intro state next marked turned
      rw [closed cx state marked] at turned
      cases turned
    · intro state answer next marked turned
      rw [closed cx state marked] at turned
      cases turned
      exact ⟨rfl, marked⟩
  · intro cx state event next _ polled ended
    rw [polls] at polled
    obtain ⟨last, turned⟩ := loop_leaves polled
    exact closes cx last event next turned ended

end Flags

section

variable {S A B F P R G Fut T U E : Type}

theorem Take.wellFormed [PollStream S (Event T E)] (this : Take S) : WellFormed this := by
  refine wellFormed_of_flag Take.done ?_ ?_ this
  · intro cx state answer next marked polled
    simp only [PollStream.pollNext, Take.pollNext, marked, if_true] at polled
    cases polled
    exact ⟨rfl, marked⟩
  · intro cx state event next marked polled ended
    simp only [PollStream.pollNext, Take.pollNext, marked, Bool.false_eq_true, if_false] at polled
    split at polled
    · cases polled
      rfl
    · split at polled <;> cases polled
      · cases ended
      · rfl

theorem First.wellFormed [PollStream S (Event T E)] [FnMut F T Bool] (this : First S F) :
    WellFormed this := by
  refine wellFormed_of_flag First.done ?_ ?_ this
  · intro cx state answer next marked polled
    simp only [PollStream.pollNext, First.pollNext, marked, if_true] at polled
    cases polled
    exact ⟨rfl, marked⟩
  · intro cx state event next marked polled ended
    simp only [PollStream.pollNext, First.pollNext, marked, Bool.false_eq_true, if_false]
      at polled
    split at polled
    · cases polled
      rfl
    · obtain ⟨last, turned⟩ := loop_leaves polled
      unfold First.turn at turned
      split at turned
      · cases turned
      · dsimp only at turned
        split at turned <;> cases turned
        cases ended
      · cases turned
        rfl
      · cases turned
      · cases turned

theorem Merge.wellFormed [PollStream A (Event T E)] [PollStream B (Event T E)]
    (this : Merge A B) : WellFormed this := by
  have closed : ∀ (cx : Context) (this : Merge A B), this.completed = true →
      turn cx this = some (.leave (.ready (none : Option (Event T E))) this) :=
    fun _ _ marked => if_pos marked
  refine wellFormed_of_turn Merge.completed Merge.turn (fun _ _ => rfl) closed ?_ this
  intro cx state event next turned terminal
  cases completed : state.completed with
  | true => cases (closed cx state completed).symm.trans turned
  | false =>
      cases ended : state.leftDone && state.rightDone with
      | true =>
          rw [turn, completed, ended] at turned
          cases turned
          rfl
      | false =>
          rcases turn_cases completed ended turned with ⟨_, _, same, came⟩ | ⟨_, _, same, -⟩
          · cases same
            cases came with
            | left | right => exact terminal
            | complete => rfl
          · cases same

theorem SwitchMap.finished_of_pollSource [PollStream S (Event T E)] [PollStream P (Event U E)]
    [FnMut F T P] {this next : SwitchMap S F P} {event : Event U E}
    (turned : this.pollSource cx = some (.leave (.ready (some event)) next)) :
    next.finished = true := by
  unfold pollSource at turned
  split at turned
  · split at turned
    · split at turned <;> cases turned
      rfl
    · cases turned
  · split at turned <;> cases turned
    rfl

theorem SwitchMap.wellFormed [PollStream S (Event T E)] [PollStream P (Event U E)]
    [FnMut F T P] (this : SwitchMap S F P) : WellFormed this := by
  refine wellFormed_of_turn SwitchMap.finished SwitchMap.turn (fun _ _ => rfl) ?_ ?_ this
  · intro cx state marked
    rw [SwitchMap.turn, marked]
    rfl
  · intro cx state event next turned terminal
    unfold SwitchMap.turn at turned
    split at turned
    · cases turned
    · split at turned
      · exact finished_of_pollSource turned
      · split at turned
        · cases turned
        · cases turned
          cases terminal
        · cases turned
          rfl
        · exact finished_of_pollSource turned
        · exact finished_of_pollSource turned
        · exact finished_of_pollSource turned

theorem CatchError.wellFormed [PollStream S (Event T E)] [PollStream R (Event T E)]
    [FnMut F E R] (this : CatchError S F R) : WellFormed this := by
  refine wellFormed_of_turn CatchError.finished CatchError.turn (fun _ _ => rfl) ?_ ?_ this
  · intro cx state marked
    rw [CatchError.turn, marked]
    rfl
  · intro cx state event next turned terminal
    unfold CatchError.turn at turned
    split at turned
    · cases turned
    · split at turned
      · split at turned <;> cases turned
        exact terminal
      · split at turned
        · cases turned
        · cases turned
          cases terminal
        · split at turned <;> cases turned
        all_goals cases turned
        all_goals rfl

theorem Retrying.finished_of_forward [PollStream P (Event T E)] {this next : Retrying G Fut P}
    {event : Event T E} (turned : this.forward cx = some (.leave (.ready (some event)) next))
    (terminal : event.isTerminal = true) : next.finished = true := by
  unfold forward at turned
  split at turned
  · cases turned
  · split at turned
    · cases turned
    · cases turned
      cases terminal
    · split at turned <;> cases turned
      rfl
    all_goals cases turned
    all_goals rfl

theorem Retrying.finished_of_awaitFactory [PollStream P (Event T E)] [FnMut G Unit Fut]
    [PollFuture Fut P] {this next : Retrying G Fut P} {event : Event T E}
    (turned : this.awaitFactory cx = some (.leave (.ready (some event)) next))
    (terminal : event.isTerminal = true) : next.finished = true := by
  unfold awaitFactory at turned
  split at turned
  · exact finished_of_forward turned terminal
  · split at turned
    · exact finished_of_forward turned terminal
    · cases turned

theorem Retrying.wellFormed [PollStream P (Event T E)] [FnMut G Unit Fut]
    [PollFuture Fut P] (this : Retrying G Fut P) : WellFormed this := by
  refine wellFormed_of_turn Retrying.finished Retrying.turn (fun _ _ => rfl) ?_ ?_ this
  · intro cx state marked
    rw [Retrying.turn, marked]
    rfl
  · intro cx state event next turned terminal
    unfold Retrying.turn at turned
    split at turned
    · cases turned
    · split at turned
      · exact finished_of_awaitFactory turned terminal
      · split at turned
        · exact finished_of_awaitFactory turned terminal
        · cases turned

theorem Timeout.wellFormed [PollStream S (Event T E)] (this : Timeout S) :
    WellFormed this := by
  refine wellFormed_of_flag Timeout.done ?_ ?_ this
  · intro cx state answer next marked polled
    simp only [PollStream.pollNext, Timeout.pollNext, marked, if_true] at polled
    cases polled
    exact ⟨rfl, marked⟩
  · intro cx state event next marked polled ended
    simp only [PollStream.pollNext, Timeout.pollNext, marked, Bool.false_eq_true, if_false]
      at polled
    split at polled
    · cases polled
    · cases polled
      exact ended
    · cases polled
    · split at polled <;> cases polled
      rfl

theorem StartWith.wellFormed [PollStream S (Event T E)] {source : S} (value : T)
    (good : WellFormed source) : WellFormed (StartWith.new source value) := by
  refine graceful_of_rules (fun this : StartWith S T => WellFormed this.source)
    (fun this => this.first = none ∧ Over this.source) ?_ ?_ (Or.inl good)
  · intro cx state answer next holds polled
    simp only [PollStream.pollNext, StartWith.pollNext] at polled
    split at polled
    · cases polled
      exact ⟨nofun, fun _ => holds⟩
    · rename_i started
      split at polled
      · cases polled
      · rename_i polledSource
        cases polled
        exact (holds.poll polledSource).mono id fun isOver => ⟨started, isOver⟩
  · intro cx state answer next holds polled
    simp only [PollStream.pollNext, StartWith.pollNext, holds.1] at polled
    split at polled
    · cases polled
    · rename_i polledSource
      cases polled
      exact (holds.2.poll polledSource).mono fun isOver => ⟨rfl, isOver⟩

end

/-! ### delay -/

namespace Delay

variable {S T E : Type}

/-- The timer and the clock move, nothing else. -/
structure Waited (this next : Delay S T E) : Prop where
  queue : next.queue = this.queue
  finished : next.sourceFinished = this.sourceFinished
  source : next.source = this.source

theorem arm_waited (this : Delay S T E) (wait : Nat) : Waited this (this.arm wait) := by
  unfold arm
  split <;> exact ⟨rfl, rfl, rfl⟩

/-- Waiting for the timer answers `Pending` or goes round again. -/
theorem awaitTimer_waited (cx : Context) (read : Nat) (this : Delay S T E) :
    ∃ next, Waited this next ∧
      (this.awaitTimer cx read = .again (read, next) ∨
        this.awaitTimer cx read = .leave .pending (read, next)) := by
  unfold awaitTimer
  split
  · exact ⟨this, ⟨rfl, rfl, rfl⟩, Or.inr rfl⟩
  · split
    · refine ⟨_, ?_, Or.inl rfl⟩
      exact ⟨rfl, rfl, rfl⟩
    · refine ⟨_, ?_, Or.inr rfl⟩
      exact ⟨rfl, rfl, rfl⟩

/-- What a turn may come to, for a condition on the delayed stream. -/
def TurnKeeps (inv : Delay S T E → Prop) (post : Answer T E →
    Delay S T E → Prop) : Turn (Nat × Delay S T E) (Answer T E) → Prop
  | .again (_, next) => inv next
  | .leave answer (_, next) => post answer next

theorem awaitTimer_keeps {inv : Delay S T E → Prop} {post : Answer T E → Delay S T E → Prop}
    (stays : ∀ this next, Waited this next → inv this → inv next)
    (waits : ∀ this, inv this → post .pending this) {read : Nat} {this : Delay S T E}
    (holds : inv this) : TurnKeeps inv post (this.awaitTimer cx read) := by
  obtain ⟨next, waited, turned | turned⟩ := awaitTimer_waited cx read this
  · rw [turned]
    exact stays this next waited holds
  · rw [turned]
    exact waits next (stays this next waited holds)

variable [PollStream S (Event T E)]

/-- The source delivers nothing any more, or is not asked any more. -/
def Dry (finished : Bool) (source : S) : Prop :=
  finished = true ∨ Over source

/-- What is queued, followed by what the source still delivers, keeps the grammar. -/
def Orderly (queue : List (Nat × Event T E)) (finished : Bool) (source : S) : Prop :=
  (Unended Event.isTerminal (queue.map Prod.snd) ∧ (finished = true ∨ WellFormed source)) ∨
    (EndsOnce Event.isTerminal (queue.map Prod.snd) ∧ Dry finished source)

/-- The delayed stream goes on. -/
def Going (this : Delay S T E) : Prop :=
  Orderly this.queue this.sourceFinished this.source

/-- The delayed stream has delivered its last event. -/
def Gone (this : Delay S T E) : Prop :=
  this.queue = [] ∧ Dry this.sourceFinished this.source

theorem Waited.going {this next : Delay S T E} (waited : Waited this next)
    (going : Going this) : Going next := by
  rw [Going, waited.queue, waited.finished, waited.source]
  exact going

theorem Waited.gone {this next : Delay S T E} (waited : Waited this next)
    (gone : Gone this) : Gone next := by
  rw [Gone, waited.queue, waited.finished, waited.source]
  exact gone

/-- An event goes to the back of the queue. -/
theorem Orderly.push {queue : List (Nat × Event T E)} {source after : S} {event : Event T E}
    (deadline : Nat) (orderly : Orderly queue false source)
    (polled : PollStream.pollNext cx source = some (.ready (some event), after)) :
    Orderly (queue ++ [(deadline, event)]) false after := by
  rcases orderly with ⟨unended, finished | good⟩ | ⟨_, finished | isOver⟩
  · cases finished
  · have later := good.poll polled
    cases kind : event.isTerminal with
    | true =>
        refine Or.inr ⟨?_, Or.inr (later.1 kind)⟩
        rw [List.map_append]
        exact endsOnce_snoc.mpr ⟨unended, kind⟩
    | false =>
        refine Or.inl ⟨?_, Or.inr (later.2 kind)⟩
        rw [List.map_append]
        exact unended_append.mpr ⟨unended, unended_singleton.mpr kind⟩
  · cases finished
  · exact (isOver.poll polled).elim

/-- A source that answers without an event. -/
theorem Orderly.quiet {queue : List (Nat × Event T E)} {source after : S} {answer : Answer T E}
    (orderly : Orderly queue false source)
    (polled : PollStream.pollNext cx source = some (answer, after))
    (silent : ∀ event, answer ≠ .ready (some event)) : Orderly queue false after := by
  match answer with
  | .ready (some event) => exact absurd rfl (silent event)
  | .ready none | .pending =>
      rcases orderly with ⟨unended, finished | good⟩ | ⟨ends, finished | isOver⟩
      · cases finished
      · exact Or.inl ⟨unended, Or.inr ((good.poll polled).elim id Over.wellFormed)⟩
      · cases finished
      · exact Or.inr ⟨ends, Or.inr (isOver.poll polled)⟩

theorem Orderly.finish {queue : List (Nat × Event T E)} {source : S}
    (orderly : Orderly queue false source) : Orderly queue true source := by
  rcases orderly with ⟨unended, _⟩ | ⟨ends, _⟩
  · exact Or.inl ⟨unended, Or.inl rfl⟩
  · exact Or.inr ⟨ends, Or.inl rfl⟩

theorem readAhead_going {read : Nat} {this : Delay S T E}
    {turned : Turn (Nat × Delay S T E) (Answer T E)} (going : Going this)
    (returned : this.readAhead cx read = some turned) :
    TurnKeeps Going (Follows Going Gone) turned := by
  have timer : ∀ {here : Delay S T E}, Going here →
      TurnKeeps Going (Follows Going Gone) (here.awaitTimer cx read) :=
    awaitTimer_keeps (fun _ _ => Waited.going) (fun _ => Or.inl)
  unfold readAhead at returned
  split at returned
  · rename_i asked
    have unfinished : this.sourceFinished = false := by
      simp only [Bool.and_eq_true, Bool.not_eq_true'] at asked
      exact asked.1
    rw [Going, unfinished] at going
    split at returned
    · cases returned
    · rename_i event source polled
      cases returned
      have pushed := going.push (this.runtime.clock.head + this.duration) polled
      simpa only [TurnKeeps, Going, unfinished] using pushed
    · rename_i source polled
      cases returned
      exact (going.quiet polled nofun).finish
    · rename_i source polled
      cases returned
      apply timer
      rw [Going, unfinished]
      exact going.quiet polled nofun
  · cases returned
    exact timer going

theorem turn_going {read : Nat} {this : Delay S T E}
    {turned : Turn (Nat × Delay S T E) (Answer T E)} (going : Going this)
    (returned : this.turn cx read = some turned) : TurnKeeps Going (Follows Going Gone) turned := by
  unfold turn at returned
  split at returned
  · rename_i deadline event queue queued
    dsimp only at returned
    split at returned
    · cases returned
      rw [Going, queued] at going
      constructor
      · intro ended
        rcases going with ⟨unended, _⟩ | ⟨ends, dry⟩
        · have kind := (unended_cons.mp unended).1
          rw [ended] at kind
          cases kind
        · rcases endsOnce_cons.mp ends with ⟨_, nothing⟩ | ⟨kind, _⟩
          · exact ⟨List.map_eq_nil_iff.mp nothing, dry⟩
          · rw [ended] at kind
            cases kind
      · intro goes
        rcases going with ⟨unended, rest⟩ | ⟨ends, dry⟩
        · exact Or.inl ⟨(unended_cons.mp unended).2, rest⟩
        · rcases endsOnce_cons.mp ends with ⟨ended, _⟩ | ⟨_, rest⟩
          · rw [goes] at ended
            cases ended
          · exact Or.inr ⟨rest, dry⟩
    · refine readAhead_going ?_ returned
      refine (arm_waited _ _).going ?_
      exact Waited.going ⟨rfl, rfl, rfl⟩ going
  · rename_i empty
    split at returned
    · rename_i finished
      cases returned
      exact Or.inr ⟨empty, Or.inl finished⟩
    · refine readAhead_going ?_ returned
      exact Waited.going ⟨rfl, rfl, rfl⟩ going

theorem turn_gone {read : Nat} {this : Delay S T E} {turned : Turn (Nat × Delay S T E) (Answer T E)}
    (gone : Gone this) (returned : this.turn cx read = some turned) :
    TurnKeeps Gone (Silently Gone) turned := by
  have timer : ∀ {here : Delay S T E}, Gone here →
      TurnKeeps Gone (Silently Gone) (here.awaitTimer cx read) :=
    awaitTimer_keeps (fun _ _ => Waited.gone) (fun _ => id)
  simp only [turn, gone.1] at returned
  split at returned
  · rename_i finished
    cases returned
    exact ⟨rfl, Or.inl finished⟩
  · rename_i unfinished
    have isOver := gone.2.resolve_left unfinished
    unfold readAhead at returned
    split at returned
    · split at returned
      · cases returned
      · rename_i polled
        exact (isOver.poll polled).elim
      · cases returned
        exact ⟨rfl, Or.inl rfl⟩
      · rename_i polled
        cases returned
        exact timer ⟨rfl, Or.inr (isOver.poll polled)⟩
    · cases returned
      exact timer ⟨rfl, Or.inr isOver⟩

theorem wellFormed {source : S} (duration : Nat) (runtime : Runtime)
    (good : WellFormed source) :
    WellFormed (Delay.new source duration runtime : Delay S T E) := by
  refine graceful_of_rules Going Gone ?_ ?_ (Or.inl (Or.inl ⟨unended_nil, Or.inr good⟩))
  · intro cx state answer next going polled
    obtain ⟨read, looped⟩ := pollNext_eq polled
    exact loop_rule (fun here : Nat × Delay S T E => Going here.2)
      (fun answer final => Follows Going Gone answer final.2)
      (fun _ _ holds turned => turn_going holds turned)
      (fun _ _ _ holds turned => turn_going holds turned) going looped
  · intro cx state answer next gone polled
    obtain ⟨read, looped⟩ := pollNext_eq polled
    exact loop_rule (fun here : Nat × Delay S T E => Gone here.2)
      (fun answer final => Silently Gone answer final.2)
      (fun _ _ holds turned => turn_gone holds turned)
      (fun _ _ _ holds turned => turn_gone holds turned) gone looped

end Delay

end IceRpc.Rx
