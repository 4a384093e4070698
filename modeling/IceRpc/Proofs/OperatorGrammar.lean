/-
Module: IceRpc.Proofs.OperatorGrammar
Purpose: The operators keep the stream grammar: whatever their inputs, timers and polls,
  what they deliver holds at most one terminal event and none after it.  `take_until`
  and `take_until_token` do so as long as nothing cuts them after their source ended.
Trusted boundary: none
Main exports: Observable.Sound, Cuts, Composed, TakeUntil.Calm, TakeUntilToken.Calm,
  operators_keep_grammar
-/
import IceRpc.Proofs.StreamGrammar
import IceRpc.Rx.Transform.Conditional

namespace IceRpc.Rx

open Lib
open PollStream (pollNext)

/-! ### Boxed streams -/

section Boxes

variable {S T E : Type} [PollStream S (Event T E)]

/-- One poll of a boxed stream is one poll of the stream in it. -/
theorem Observable.poll_unfold {contexts : Stream' Context} {stream : S} {cx : Context}
    {boxed next : Observable T E} {answer : Answer T E}
    (script : boxed.answers = unfold pollNext contexts stream)
    (polled : pollNext cx boxed = some (answer, next)) :
    ∃ after, pollNext contexts.head stream = some (answer, after) ∧
      next.answers = unfold pollNext contexts.tail after := by
  obtain ⟨head, first, same⟩ := Option.map_eq_some_iff.mp polled
  cases same
  rw [script, unfold_head] at first
  obtain ⟨⟨answered, after⟩, inner, rfl⟩ := Option.map_eq_some_iff.mp first
  refine ⟨after, inner, ?_⟩
  rw [script]
  exact unfold_tail inner

/-- A poll of the stream in a box is a poll of the box. -/
theorem Observable.poll_of_unfold {contexts : Stream' Context} {stream after : S}
    {boxed : Observable T E} {answer : Answer T E} (cx : Context)
    (script : boxed.answers = unfold pollNext contexts stream)
    (polled : pollNext contexts.head stream = some (answer, after)) :
    ∃ next, pollNext cx boxed = some (answer, next) ∧
      next.answers = unfold pollNext contexts.tail after := by
  have first : boxed.answers.head = some answer := by
    rw [script, unfold_head, polled]
    rfl
  refine ⟨_, Option.map_eq_some_iff.mpr ⟨answer, first, rfl⟩, ?_⟩
  dsimp only
  rw [script]
  exact unfold_tail polled

/-- A stream whose polls keep the two conditions as long as they meet a third one is
well formed in its box. -/
theorem Observable.wellFormed_fromStream_of_rules (going gone : S → Prop)
    (cond : S → Context → Prop)
    (goes : ∀ cx stream answer next, going stream → cond stream cx →
      pollNext cx stream = some (answer, next) → Follows going gone answer next)
    (rests : ∀ cx stream answer next, gone stream → cond stream cx →
      pollNext cx stream = some (answer, next) → Silently gone answer next)
    {contexts : Stream' Context} {stream : S} (start : going stream ∨ gone stream)
    (meets : PollsMeet pollNext cond contexts stream) :
    WellFormed (Observable.fromStream contexts stream) := by
  -- the box holds a stream that stands as `holds` says and meets the condition from here on
  let Holds (holds : S → Prop) (boxed : Observable T E) : Prop :=
    ∃ contexts stream, boxed.answers = unfold pollNext contexts stream ∧
      PollsMeet pollNext cond contexts stream ∧ holds stream
  refine graceful_of_rules (Holds going) (Holds gone) ?_ ?_
    (start.imp (fun holds => ⟨contexts, stream, rfl, meets, holds⟩)
      fun holds => ⟨contexts, stream, rfl, meets, holds⟩)
  · rintro cx boxed answer next ⟨contexts, stream, script, meets, holds⟩ polled
    obtain ⟨after, inner, later⟩ := poll_unfold script polled
    have boxes : ∀ holds : S → Prop, holds after → Holds holds next :=
      fun _ here => ⟨contexts.tail, after, later, meets.later inner, here⟩
    exact (goes _ _ _ _ holds meets.now inner).mono (boxes going) (boxes gone)
  · rintro cx boxed answer next ⟨contexts, stream, script, meets, holds⟩ polled
    obtain ⟨after, inner, later⟩ := poll_unfold script polled
    exact (rests _ _ _ _ holds meets.now inner).mono
      fun here => ⟨contexts.tail, after, later, meets.later inner, here⟩

theorem pollsMeet_true (contexts : Stream' Context) (stream : S) :
    PollsMeet pollNext (fun _ _ => True) contexts stream := by
  intro n
  induction n generalizing contexts stream with
  | zero => trivial
  | succ n ih => exact ⟨trivial, fun next _ => ih contexts.tail next⟩

/-- A box keeps the grammar of the stream in it. -/
theorem Observable.wellFormed_fromStream (contexts : Stream' Context) {stream : S}
    (good : WellFormed stream) : WellFormed (Observable.fromStream contexts stream) :=
  wellFormed_fromStream_of_rules WellFormed Over (fun _ _ => True)
    (fun _ _ _ _ holds _ polled => holds.poll polled)
    (fun _ _ _ _ holds _ polled => holds.poll polled) (Or.inl good)
    (pollsMeet_true contexts stream)

/-- The box keeps the grammar, and the flag tells whether its terminal event is gone. -/
def Observable.Sound (boxed : Observable T E) : Prop :=
  WellFormed boxed ∧ (boxed.terminated = true → Over boxed)

theorem Observable.sound_of_fresh {source : Observable T E}
    (fresh : source.terminated = false) (good : WellFormed source) : source.Sound := by
  refine ⟨good, fun ended => ?_⟩
  rw [fresh] at ended
  cases ended

theorem Observable.Sound.poll {boxed next : Observable T E} {cx : Context}
    {answer : Answer T E} (sound : boxed.Sound)
    (polled : pollNext cx boxed = some (answer, next)) :
    next.Sound ∧ next.terminated = (boxed.terminated || endsStream answer) := by
  have flag : next.terminated = (boxed.terminated || endsStream answer) := by
    obtain ⟨head, _, same⟩ := Option.map_eq_some_iff.mp polled
    cases same
    rfl
  refine ⟨⟨follows_wellFormed (sound.1.poll polled), fun marked => ?_⟩, flag⟩
  rw [flag, Bool.or_eq_true] at marked
  rcases marked with ended | ended
  · exact silently_over ((sound.2 ended).poll polled)
  · exact follows_over (sound.1.poll polled) ended

end Boxes

/-! ### Operators that are cut from outside -/

section Cuts

variable {O T E : Type} [PollStream O (Event T E)] (source : O → Observable T E)
  (done : O → Bool) (cut : Context → O → Prop)

/-- A poll of an operator that something besides its source may end: it is over, it is
cut, or it passes the answer of its source on. -/
inductive Cuts (cx : Context) (this : O) : Answer T E → O → Prop
  | ended : done this = true → Cuts cx this (.ready none) this
  | cut {event next} : done this = false → cut cx this → event.isTerminal = true →
      done next = true → Cuts cx this (.ready (some event)) next
  | passed {answer next} : done this = false → ¬ cut cx this → done next = false →
      pollNext cx (source this) = some (answer, source next) →
      Cuts cx this answer next

/-- Nothing cuts the operator once its source has delivered a terminal event. -/
def Calm (this : O) (cx : Context) : Prop :=
  done this = false → (source this).terminated = true → ¬ cut cx this

variable {source done cut} {inv : O → Prop}
  (spec : ∀ cx this answer next, inv this →
    pollNext cx this = some (answer, next) →
      Cuts source done cut cx this answer next ∧ inv next)

include spec

theorem wellFormed_of_calm {contexts : Stream' Context} {this : O} (start : inv this)
    (goesOn : done this = false) (fresh : (source this).terminated = false)
    (good : WellFormed (source this))
    (calm : PollsMeet pollNext (Calm source done cut) contexts this) :
    WellFormed (Observable.fromStream contexts this) := by
  have sound := Observable.sound_of_fresh fresh good
  refine Observable.wellFormed_fromStream_of_rules
    (fun this => inv this ∧ done this = false ∧ (source this).terminated = false ∧
      (source this).Sound)
    (fun this => inv this ∧ (done this = true ∨
      done this = false ∧ (source this).terminated = true ∧ (source this).Sound))
    (Calm source done cut) ?_ ?_ (Or.inl ⟨start, goesOn, fresh, sound⟩) calm
  · rintro cx this answer next ⟨holds, goesOn, fresh, sound⟩ _ polled
    obtain ⟨cuts, kept⟩ := spec cx this answer next holds polled
    cases cuts with
    | ended isDone =>
        rw [goesOn] at isDone
        cases isDone
    | cut _ _ terminal isDone =>
        refine ⟨fun _ => ⟨kept, Or.inl isDone⟩, fun going => ?_⟩
        rw [terminal] at going
        cases going
    | passed _ _ still passed =>
        obtain ⟨later, flag⟩ := sound.poll passed
        rw [fresh, Bool.false_or] at flag
        match answer with
        | .ready (some event) =>
            exact ⟨fun ended => ⟨kept, Or.inr ⟨still, flag.trans ended, later⟩⟩,
              fun going => ⟨kept, still, flag.trans going, later⟩⟩
        | .ready none | .pending => exact Or.inl ⟨kept, still, flag, later⟩
  · rintro cx this answer next ⟨holds, gone⟩ calm polled
    obtain ⟨cuts, kept⟩ := spec cx this answer next holds polled
    cases cuts with
    | ended isDone => exact ⟨kept, Or.inl isDone⟩
    | cut goesOn isCut _ _ =>
        rcases gone with isDone | ⟨_, ended, _⟩
        · rw [goesOn] at isDone
          cases isDone
        · exact absurd isCut (calm goesOn ended)
    | passed goesOn _ still passed =>
        rcases gone with isDone | ⟨_, ended, sound⟩
        · rw [goesOn] at isDone
          cases isDone
        · obtain ⟨later, flag⟩ := sound.poll passed
          rw [ended, Bool.true_or] at flag
          exact ((sound.2 ended).poll passed).mono
            fun _ => ⟨kept, Or.inr ⟨still, flag, later⟩⟩

variable (fires : ∀ cx this, inv this → done this = false → cut cx this →
    ∃ event next, pollNext cx this = some (.ready (some event), next))

include fires

/-- The condition is necessary: a cut after the source's terminal event delivers a
second one. -/
theorem calm_of_wellFormed {contexts : Stream' Context} {this : O} (start : inv this)
    (sound : (source this).Sound) (fresh : (source this).terminated = false)
    (good : WellFormed (Observable.fromStream contexts this)) :
    PollsMeet pollNext (Calm source done cut) contexts this := by
  -- what the box around the operator owes while the operator is not done
  have steps : ∀ n (contexts : Stream' Context) (this : O) (boxed : Observable T E),
      boxed.answers = unfold pollNext contexts this → WellFormed boxed →
      inv this → (done this = false → (source this).Sound ∧
        ((source this).terminated = true → Over boxed)) →
      StepsMeet (fun this cx => (pollNext cx this).map Prod.snd)
        (Calm source done cut) this (contexts.take n) := by
    intro n
    induction n with
    | zero => exact fun _ _ _ _ _ _ _ => trivial
    | succ n ih =>
        intro contexts this boxed script good holds owes
        constructor
        · intro goesOn ended isCut
          obtain ⟨event, next, polled⟩ := fires _ _ holds goesOn isCut
          obtain ⟨after, answered, _⟩ :=
            Observable.poll_of_unfold contexts.head script polled
          exact ((owes goesOn).2 ended).poll answered
        · intro next moved
          obtain ⟨⟨answer, reached⟩, polled, rfl⟩ := Option.map_eq_some_iff.mp moved
          obtain ⟨after, answered, later⟩ :=
            Observable.poll_of_unfold contexts.head script polled
          obtain ⟨cuts, kept⟩ := spec _ _ _ _ holds polled
          refine ih contexts.tail reached after later
            (follows_wellFormed (good.poll answered)) kept ?_
          intro still
          cases cuts with
          | ended isDone =>
              rw [still] at isDone
              cases isDone
          | cut _ _ _ isDone =>
              rw [still] at isDone
              cases isDone
          | passed goesOn _ _ passed =>
              obtain ⟨sound, isOver⟩ := owes goesOn
              obtain ⟨soundNext, flag⟩ := sound.poll passed
              refine ⟨soundNext, fun ended => ?_⟩
              rw [flag, Bool.or_eq_true] at ended
              rcases ended with ended | ended
              · exact silently_over ((isOver ended).poll answered)
              · exact follows_over (good.poll answered) ended
  intro n
  refine steps n contexts this _ rfl good start fun _ => ⟨sound, fun ended => ?_⟩
  rw [fresh] at ended
  cases ended

end Cuts

namespace TakeUntil

variable {S N T U E : Type} [PollStream S (Event T E)] [PollStream N (Event U E)]

/-- The notifier stops the source in this poll, with a value or an error. -/
def Fires (cx : Context) (this : TakeUntil S N) : Prop :=
  ∃ notifier event after, this.notifier = some notifier ∧
    PollStream.pollNext cx notifier = some (.ready (some event), after) ∧
    event ≠ .complete

/-- A stop is reported in the poll that makes it. -/
def Reported (this : TakeUntil S N) : Prop :=
  this.stopped = true → this.done = true

omit [PollStream N (Event U E)] in
/-- A source that is not stopped is polled, and the rest stays as it is. -/
theorem pollSource_running {cx : Context} {this next : TakeUntil S N}
    {answer : Answer T E} (running : this.stopped = false)
    (polled : this.pollSource cx = some (answer, next)) :
    next.done = this.done ∧ next.stopped = false ∧
      PollStream.pollNext cx this.source = some (answer, next.source) := by
  rw [pollSource, running] at polled
  simp only [Bool.false_eq_true, if_false] at polled
  split at polled
  · cases polled
  · rename_i answered
    cases polled
    exact ⟨rfl, rfl, answered⟩

/-- A notifier that does not fire leaves it to the source. -/
theorem not_fires {cx : Context} {this : TakeUntil S N} {notifier after : N}
    {answer : Answer U E} (held : this.notifier = some notifier)
    (polled : PollStream.pollNext cx notifier = some (answer, after))
    (quiet : ∀ event, answer = .ready (some event) → event = .complete) :
    ¬ Fires cx this := by
  rintro ⟨other, event, later, same, fired, stops⟩
  rw [held] at same
  cases same
  rw [polled] at fired
  cases fired
  exact stops (quiet event rfl)

end TakeUntil

namespace TakeUntil

variable {N T U E : Type} [PollStream N (Event U E)]

theorem pollNext_cuts (cx : Context) (this : TakeUntil (Observable T E) N)
    (answer : Answer T E) (next : TakeUntil (Observable T E) N)
    (reported : this.Reported)
    (polled : PollStream.pollNext cx this = some (answer, next)) :
    Cuts source done Fires cx this answer next ∧ next.Reported := by
  simp only [PollStream.pollNext, pollNext] at polled
  split at polled
  · rename_i isDone
    cases polled
    exact ⟨.ended isDone, reported⟩
  · rename_i goesOn
    have running : this.stopped = false := by
      rw [← Bool.not_eq_true]
      exact fun stopped => goesOn (reported stopped)
    rw [Bool.not_eq_true] at goesOn
    -- the notifier does not fire, and the source is asked
    have asks : ∀ {here : TakeUntil (Observable T E) N},
        here.pollSource cx = some (answer, next) → here.stopped = this.stopped →
        here.done = this.done → here.source = this.source → ¬ Fires cx this →
        Cuts source done Fires cx this answer next ∧ next.Reported := by
      intro here reached same sameDone sameSource calm
      obtain ⟨still, stays, passed⟩ := pollSource_running (same.trans running) reached
      rw [sameSource] at passed
      refine ⟨.passed goesOn calm (still.trans (sameDone.trans goesOn)) passed, ?_⟩
      intro stopped
      rw [stays] at stopped
      cases stopped
    split at polled
    · rename_i dropped
      refine asks polled rfl rfl rfl ?_
      rintro ⟨notifier, _, _, held, _⟩
      rw [dropped] at held
      cases held
    · rename_i notifier held
      split at polled
      · cases polled
      · rename_i fired
        cases polled
        exact ⟨.cut goesOn ⟨notifier, _, _, held, fired, nofun⟩ rfl rfl, fun _ => rfl⟩
      · rename_i answered
        refine asks polled rfl rfl rfl (not_fires held answered ?_)
        intro event same
        cases same
        rfl
      · rename_i answered
        exact asks polled rfl rfl rfl (not_fires held answered nofun)
      · rename_i fired
        cases polled
        exact ⟨.cut goesOn ⟨notifier, _, _, held, fired, nofun⟩ rfl rfl, fun _ => rfl⟩
      · rename_i answered
        exact asks polled rfl rfl rfl (not_fires held answered nofun)

/-- A notifier that fires ends the stream in that poll. -/
theorem pollNext_of_fires (cx : Context) (this : TakeUntil (Observable T E) N)
    (goesOn : this.done = false) (fires : Fires cx this) :
    ∃ event next, PollStream.pollNext cx this = some (.ready (some event), next) := by
  obtain ⟨notifier, event, after, held, fired, stops⟩ := fires
  cases event with
  | next value =>
      refine ⟨.complete, { this with notifier := none, stopped := true, done := true }, ?_⟩
      simp [PollStream.pollNext, pollNext, goesOn, held, fired, pollSource]
  | complete => exact absurd rfl stops
  | error err =>
      refine ⟨.error err, { this with notifier := none, done := true }, ?_⟩
      simp [PollStream.pollNext, pollNext, goesOn, held, fired]

end TakeUntil

namespace TakeUntilToken

variable {T E : Type}

/-- The flag is found set in this poll. -/
def Fires (_ : Context) (this : TakeUntilToken (Observable T E)) : Prop :=
  this.token.isCancelled.1 = true

theorem pollNext_cuts (cx : Context) (this : TakeUntilToken (Observable T E))
    (answer : Answer T E) (next : TakeUntilToken (Observable T E))
    (polled : PollStream.pollNext cx this = some (answer, next)) :
    Cuts source done Fires cx this answer next := by
  simp only [PollStream.pollNext, pollNext] at polled
  split at polled
  · rename_i isDone
    cases polled
    exact .ended isDone
  · rename_i goesOn
    rw [Bool.not_eq_true] at goesOn
    split at polled
    · rename_i cancelled
      cases polled
      exact .cut goesOn cancelled rfl rfl
    · rename_i running
      split at polled
      · cases polled
      · rename_i passed
        cases polled
        exact .passed goesOn running goesOn passed

/-- A token that is found cancelled ends the stream in that poll. -/
theorem pollNext_of_fires (cx : Context) (this : TakeUntilToken (Observable T E))
    (goesOn : this.done = false) (fires : Fires cx this) :
    ∃ event next, PollStream.pollNext cx this = some (.ready (some event), next) := by
  refine ⟨.error (.technical .cancelled),
    { this with token := this.token.isCancelled.2, done := true }, ?_⟩
  have found : this.token.isCancelled.1 = true := fires
  simp only [PollStream.pollNext, pollNext, goesOn, found, Bool.false_eq_true, if_false,
    if_true]

end TakeUntilToken

/-- Once the source has delivered its terminal event, the notifier does not fire any
more. -/
def TakeUntil.Calm {T U E : Type} (this : TakeUntil (Observable T E) (Observable U E))
    (cx : Context) : Prop :=
  this.done = false → this.source.terminated = true → ¬ TakeUntil.Fires cx this

/-- Once the source has delivered its terminal event, the token is not found
cancelled. -/
def TakeUntilToken.Calm {T E : Type} (this : TakeUntilToken (Observable T E))
    (cx : Context) : Prop :=
  this.done = false → this.source.terminated = true → ¬ TakeUntilToken.Fires cx this

section

variable {T U E : Type}

theorem takeUntil_wellFormed_iff (contexts : Stream' Context) {source : Observable T E}
    (notifier : Observable U E) (fresh : source.terminated = false)
    (good : WellFormed source) :
    WellFormed (source.takeUntil contexts notifier) ↔
      PollsMeet pollNext TakeUntil.Calm contexts
        (TakeUntil.new source notifier) := by
  have reported : (TakeUntil.new source notifier).Reported := nofun
  constructor
  · exact calm_of_wellFormed TakeUntil.pollNext_cuts
      (fun cx this _ => TakeUntil.pollNext_of_fires cx this) reported
      (Observable.sound_of_fresh fresh good) fresh
  · exact wellFormed_of_calm TakeUntil.pollNext_cuts reported rfl fresh good

theorem takeUntilToken_wellFormed_iff (contexts : Stream' Context)
    {source : Observable T E} (token : TokenHandle) (fresh : source.terminated = false)
    (good : WellFormed source) :
    WellFormed (source.takeUntilToken contexts token) ↔
      PollsMeet pollNext TakeUntilToken.Calm contexts
        (TakeUntilToken.new source token) := by
  have cuts : ∀ cx this answer next, True →
      pollNext cx this = some (answer, next) →
        Cuts TakeUntilToken.source TakeUntilToken.done TakeUntilToken.Fires cx this answer
          (next : TakeUntilToken (Observable T E)) ∧ True :=
    fun cx this answer next _ polled =>
      ⟨TakeUntilToken.pollNext_cuts cx this answer next polled, trivial⟩
  constructor
  · exact calm_of_wellFormed cuts
      (fun cx this _ => TakeUntilToken.pollNext_of_fires cx this) trivial
      (Observable.sound_of_fresh fresh good) fresh
  · exact wellFormed_of_calm cuts trivial rfl fresh good

end

/-! ### Pipelines -/

/-- A source keeps the grammar if its items do, whenever it answers. -/
theorem Source.wellFormed {T E : Type} {source : Source (Event T E)}
    (items : EndsAtMostOnce Event.isTerminal source.items) : WellFormed source := by
  refine graceful_of_rules (fun source : Source (Event T E) =>
    EndsAtMostOnce Event.isTerminal source.items) (fun source => source.items = []) ?_ ?_
    (Or.inl items)
  · intro cx state answer next items polled
    have answered : state.poll = (answer, next) := Option.some.inj polled
    have outcome := state.poll_cases
    rw [answered] at outcome
    rcases outcome with ⟨rfl, _, same⟩ | ⟨rfl, _, empty⟩ | ⟨event, rest, rfl, split, left⟩
    · rw [← same] at items
      exact Or.inl items
    · exact Or.inr empty
    · rw [split, endsAtMostOnce_cons] at items
      rw [← left] at items
      rcases items with ⟨ended, nothing⟩ | ⟨going, rest⟩
      · refine ⟨fun _ => nothing, fun going => ?_⟩
        rw [ended] at going
        cases going
      · refine ⟨fun ended => ?_, fun _ => rest⟩
        rw [going] at ended
        cases ended
  · intro cx state answer next empty polled
    have answered : state.poll = (answer, next) := Option.some.inj polled
    have outcome := state.poll_cases
    rw [answered, empty] at outcome
    rcases outcome with ⟨rfl, _, same⟩ | ⟨rfl, _, still⟩ | ⟨event, rest, rfl, split, _⟩
    · exact same
    · exact still
    · cases split

/-- A pipeline over well-formed inputs.  Whatever an operator reads besides its source,
projections, recoveries, attempts, notifiers, timers and tokens, is arbitrary, except
that nothing cuts a `take_until` or a `take_until_token` after its source has ended.
Operators that end by a mark of their own ask nothing of their source.  A stream is what
it answers, so what answers like a pipeline of this kind is one: a poll of an inner stream
that is never made does not count. -/
inductive Composed : {T E : Type} → Observable T E → Prop
  | input {T E} {stream : Observable T E} :
      stream.terminated = false → WellFormed stream → Composed stream
  | map {T U E F} [FnMut F T U] {source : Observable T E} (contexts) (f : F) :
      Composed source → Composed (source.map contexts f)
  | mapErr {T E E2 F} [FnMut F E E2] {source : Observable T E} (contexts) (f : F) :
      Composed source → Composed (source.mapErr contexts f)
  | scan {T U E F} [FnMut F (U × T) U] {source : Observable T E} (contexts) (initial : U)
      (f : F) : Composed source → Composed (source.scan contexts initial f)
  | switchMap {T U E F} [FnMut F T (Observable U E)] {source : Observable T E} (contexts)
      (f : F) : Composed (source.switchMap contexts f)
  | filter {T E F} [FnMut F T Bool] {source : Observable T E} (contexts) (predicate : F) :
      Composed source → Composed (source.filter contexts predicate)
  | take {T E} {source : Observable T E} (contexts) (n) : Composed (source.take contexts n)
  | skip {T E} {source : Observable T E} (contexts) (n) :
      Composed source → Composed (source.skip contexts n)
  | distinctUntilChanged {T E} [BEq T] {source : Observable T E} (contexts) :
      Composed source → Composed (source.distinctUntilChanged contexts)
  | firstWith {T E F} [FnMut F T Bool] {source : Observable T E} (contexts)
      (predicate : F) : Composed (source.firstWith contexts predicate)
  | first {T E} {source : Observable T E} (contexts) : Composed (source.first contexts)
  | startWith {T E} {source : Observable T E} (contexts) (value) :
      Composed source → Composed (source.startWith contexts value)
  | merge {T E} {source other : Observable T E} (contexts) :
      Composed (source.merge contexts other)
  | takeUntil {T U E} {source : Observable T E} (contexts) (notifier : Observable U E) :
      Composed source →
      PollsMeet pollNext TakeUntil.Calm contexts (TakeUntil.new source notifier) →
      Composed (source.takeUntil contexts notifier)
  | takeUntilToken {T E} {source : Observable T E} (contexts) (token) :
      Composed source →
      PollsMeet pollNext TakeUntilToken.Calm contexts
        (TakeUntilToken.new source token) →
      Composed (source.takeUntilToken contexts token)
  | catchError {T E F} [FnMut F E (Observable T E)] {source : Observable T E} (contexts)
      (f : F) : Composed (source.catchError contexts f)
  | retryWith {T E G Fut} [FnMut G Unit Fut] [PollFuture Fut (Observable T E)] (contexts)
      (runtime) (factory : G) (policy) :
      Composed (retryWith contexts runtime factory policy)
  | tap {T E F} [FnMut F T Unit] {source : Observable T E} (contexts) (f : F) :
      Composed source → Composed (source.tap contexts f)
  | finalize {T E F} {source : Observable T E} (contexts) (f : F) :
      Composed source → Composed (source.finalize contexts f)
  | delay {T E} {source : Observable T E} (contexts) (duration) (runtime) :
      Composed source → Composed (source.delay contexts duration runtime)
  | timeout {T E} {source : Observable T E} (contexts) (duration) (runtime) :
      Composed (source.timeout contexts duration runtime)

/-- A box starts out fresh, and keeps the grammar of the stream in it. -/
theorem Observable.fresh_fromStream {S T E : Type} [PollStream S (Event T E)]
    (contexts : Stream' Context) {stream : S} (good : WellFormed stream) :
    (Observable.fromStream contexts stream).terminated = false ∧
      WellFormed (Observable.fromStream contexts stream) :=
  ⟨rfl, Observable.wellFormed_fromStream contexts good⟩

/-- A pipeline starts out fresh, and keeps the grammar. -/
theorem Composed.wellFormed {T E : Type} {stream : Observable T E}
    (composed : Composed stream) : stream.terminated = false ∧ WellFormed stream := by
  induction composed with
  | input fresh good => exact ⟨fresh, good⟩
  | map contexts f _ ih =>
      exact Observable.fresh_fromStream contexts (Map.wellFormed f ih.2)
  | mapErr contexts f _ ih =>
      exact Observable.fresh_fromStream contexts (MapErr.wellFormed f ih.2)
  | scan contexts initial f _ ih =>
      exact Observable.fresh_fromStream contexts (Scan.wellFormed initial f ih.2)
  | switchMap contexts f =>
      exact Observable.fresh_fromStream contexts (SwitchMap.wellFormed _)
  | filter contexts predicate _ ih =>
      exact Observable.fresh_fromStream contexts (Filter.wellFormed predicate ih.2)
  | take contexts n =>
      exact Observable.fresh_fromStream contexts (Take.wellFormed _)
  | skip contexts n _ ih =>
      exact Observable.fresh_fromStream contexts (Skip.wellFormed n ih.2)
  | distinctUntilChanged contexts _ ih =>
      exact Observable.fresh_fromStream contexts (DistinctUntilChanged.wellFormed ih.2)
  | firstWith contexts predicate =>
      exact Observable.fresh_fromStream contexts (First.wellFormed _)
  | first contexts =>
      exact Observable.fresh_fromStream contexts (First.wellFormed _)
  | startWith contexts value _ ih =>
      exact Observable.fresh_fromStream contexts (StartWith.wellFormed value ih.2)
  | merge contexts =>
      exact Observable.fresh_fromStream contexts (Merge.wellFormed _)
  | takeUntil contexts notifier _ calm ih =>
      exact ⟨rfl, (takeUntil_wellFormed_iff contexts notifier ih.1 ih.2).mpr calm⟩
  | takeUntilToken contexts token _ calm ih =>
      exact ⟨rfl, (takeUntilToken_wellFormed_iff contexts token ih.1 ih.2).mpr calm⟩
  | catchError contexts f =>
      exact Observable.fresh_fromStream contexts (CatchError.wellFormed _)
  | retryWith contexts runtime factory policy =>
      exact Observable.fresh_fromStream contexts (Retrying.wellFormed _)
  | tap contexts f _ ih =>
      exact Observable.fresh_fromStream contexts (Tap.wellFormed f ih.2)
  | finalize contexts f _ ih =>
      exact Observable.fresh_fromStream contexts (Finalize.wellFormed f ih.2)
  | delay contexts duration runtime _ ih =>
      exact Observable.fresh_fromStream contexts (Delay.wellFormed duration runtime ih.2)
  | timeout contexts duration runtime =>
      exact Observable.fresh_fromStream contexts (Timeout.wellFormed _)

/-- **Stream grammar.** Every pipeline over well-formed inputs delivers at most one
terminal event and nothing after it, under every schedule of its polls, as long as
nothing cuts its `take_until` and `take_until_token` operators after their source has
ended; for a single one of them, on top of a well-formed stream, the condition is
exact. -/
theorem operators_keep_grammar {T E : Type} (stream : Observable T E) :
    (Composed stream → WellFormed stream) ∧
    (stream.terminated = false → WellFormed stream → ∀ contexts : Stream' Context,
      (∀ {U : Type} (notifier : Observable U E),
        WellFormed (stream.takeUntil contexts notifier) ↔
          PollsMeet pollNext TakeUntil.Calm contexts
            (TakeUntil.new stream notifier)) ∧
      ∀ token : TokenHandle, WellFormed (stream.takeUntilToken contexts token) ↔
        PollsMeet pollNext TakeUntilToken.Calm contexts
          (TakeUntilToken.new stream token)) := by
  refine ⟨fun composed => composed.wellFormed.2, fun fresh good contexts => ⟨?_, ?_⟩⟩
  · intro U notifier
    exact takeUntil_wellFormed_iff contexts notifier fresh good
  · intro token
    exact takeUntilToken_wellFormed_iff contexts token fresh good

/-- A token that is never cancelled cuts nothing. -/
theorem TakeUntilToken.calm_of_never_cancelled {T E : Type} (contexts : Stream' Context)
    (this : TakeUntilToken (Observable T E)) (never : this.token.reads = Stream'.const false) :
    PollsMeet pollNext TakeUntilToken.Calm contexts this := by
  intro n
  induction n generalizing contexts this with
  | zero => trivial
  | succ n ih =>
      have unset : this.token.isCancelled.1 = false := by
        rw [TokenHandle.isCancelled, never]
        rfl
      refine ⟨fun _ _ fires => ?_, ?_⟩
      · rw [Fires, unset] at fires
        cases fires
      · intro next moved
        obtain ⟨⟨answer, reached⟩, polled, rfl⟩ := Option.map_eq_some_iff.mp moved
        refine ih contexts.tail reached ?_
        simp only [pollNext, TakeUntilToken.pollNext, unset, Bool.false_eq_true,
          if_false] at polled
        split at polled
        · cases polled
          exact never
        · split at polled
          · cases polled
          · cases polled
            rw [TokenHandle.isCancelled, never]
            rfl

/-- Polls with enough turns. -/
def somePolls : Stream' Context := Stream'.const { waker := 0, turns := 8 }

/-- A source that answers its items at once. -/
def readySource (items : List (Event Nat String)) : Observable Nat String :=
  .fromStream somePolls ({ items := items, schedule := Stream'.const true } :
    Source (Event Nat String))

theorem readySource_wellFormed {items : List (Event Nat String)}
    (good : EndsAtMostOnce Event.isTerminal items) : WellFormed (readySource items) :=
  Observable.wellFormed_fromStream somePolls (Source.wellFormed good)

/-- A notifier that is silent at first and emits a value at its second poll. -/
def lateNotifier : Observable Nat String :=
  .fromStream somePolls
    ({ items := [.next 0], schedule := Stream'.cons false (Stream'.const true) } :
      Source (Event Nat String))

/-- A token that is cancelled after its first read. -/
def lateToken : TokenHandle :=
  { reads := Stream'.cons false (Stream'.const true), wakers := [] }

/-- A token that is never cancelled below a `map`; and one that is cancelled too late,
below a `take` that does not poll on. -/
theorem operators_keep_grammar_never_cancelled :
    WellFormed (((readySource [.next 1, .complete]).takeUntilToken somePolls
      { reads := Stream'.const false, wakers := [] }).map somePolls (fun n : Nat => n + 1)) ∧
    WellFormed (((readySource [.complete]).takeUntilToken somePolls lateToken).take
      somePolls 3) := by
  refine ⟨(operators_keep_grammar _).1 (.map _ _ (.takeUntilToken _ _ (.input rfl ?_) ?_)),
    (operators_keep_grammar _).1 (.take _ _)⟩
  · exact readySource_wellFormed (Or.inr ⟨[.next 1], .complete, rfl, by decide, rfl⟩)
  · exact TakeUntilToken.calm_of_never_cancelled _ _ rfl

/-- A notifier that fires, or a token that is cancelled, after the source has completed:
the consumer that polls on reads a second terminal event. -/
theorem cut_after_end :
    WellFormed (readySource [.complete]) ∧ WellFormed lateNotifier ∧
    delivered pollNext (somePolls.take 2)
      ((readySource [.complete]).takeUntil somePolls lateNotifier) =
      [.complete, .complete] ∧
    delivered pollNext (somePolls.take 2)
      ((readySource [.complete]).takeUntilToken somePolls lateToken) =
      [.complete, .error (.technical .cancelled)] ∧
    ¬ WellFormed ((readySource [.complete]).takeUntil somePolls lateNotifier) ∧
    ¬ WellFormed ((readySource [.complete]).takeUntilToken somePolls lateToken) := by
  have twice : ∀ second : Event Nat String,
      ¬ EndsAtMostOnce Event.isTerminal [.complete, second] := by
    intro second
    simp [endsAtMostOnce_cons]
  refine ⟨?_, ?_, rfl, rfl, fun good => ?_, fun good => ?_⟩
  · exact readySource_wellFormed (Or.inr ⟨[], .complete, rfl, by decide, rfl⟩)
  · refine Observable.wellFormed_fromStream somePolls (Source.wellFormed ?_)
    exact Or.inl (by decide)
  · exact twice _ (good (somePolls.take 2))
  · exact twice _ (good (somePolls.take 2))

end IceRpc.Rx
