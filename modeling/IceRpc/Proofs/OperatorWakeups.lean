/-
Module: IceRpc.Proofs.OperatorWakeups
Purpose: A pending operator loses no wake-up: the waker of the poll is registered on
  every input that could unblock the operator.  `take_until_token` is the exception: it
  reads the flag of its token and registers nothing on it.
Trusted boundary: streams and futures register the waker they are polled with when they
  answer `Pending`
Main exports: WakingStream, WakingFuture, Input, Input.Unblocks, Wakes,
  pending_operator_wakes
-/
import IceRpc.Proofs.MergePoll
import IceRpc.Rx.Transform.Conditional
import IceRpc.Rx.Transform.ErrorHandling
import IceRpc.Rx.Transform.Transforming
import IceRpc.Rx.Transform.Utility

namespace IceRpc.Rx

open Lib
open PollStream (pollNext)

variable {cx : Context}

/-! ### Registration -/

/-- A stream that registers the waker it is polled with whenever it answers
`Pending`. -/
class WakingStream (S : Type) (Item : outParam Type) extends PollStream S Item where
  Registered : S → Waker → Prop
  registers : ∀ {cx : Context} {this next : S},
    pollNext cx this = some (.pending, next) → Registered next cx.waker

/-- A future that registers the waker it is polled with whenever it answers
`Pending`. -/
class WakingFuture (F : Type) (Output : outParam Type) extends PollFuture F Output where
  Registered : F → Waker → Prop
  registers : ∀ {cx : Context} {this next : F},
    poll cx this = (.pending, next) → Registered next cx.waker

/-- A timer keeps the waker of its last pending poll. -/
instance : WakingFuture Sleep Unit where
  Registered sleep waker := sleep.waker = some waker
  registers := by
    intro cx this next polled
    simp only [PollFuture.poll] at polled
    split at polled <;> cases polled
    rfl

/-- The stream stays pending. -/
abbrev Idle {S Item : Type} [PollStream S Item] (stream : S) : Prop :=
  Silent pollNext stream

/-- The future stays pending. -/
abbrev IdleFuture {F Output : Type} [PollFuture F Output] (future : F) : Prop :=
  Silent (fun cx future => some (PollFuture.poll cx future)) future

theorem IdleFuture.poll_pending {F Output : Type} [PollFuture F Output] {future : F}
    (idle : IdleFuture future) (cx : Context) :
    ∃ next, PollFuture.poll cx future = (.pending, next) ∧ IdleFuture next := by
  obtain ⟨next, polled, later⟩ := idle.poll_eq cx
  exact ⟨next, Option.some.inj polled, later⟩

/-- An input that is absent stays absent; one that is there stays pending. -/
inductive Rests {X : Type} (idle : X → Prop) : Option X → Option X → Prop
  | absent : Rests idle none none
  | idle {before after : X} : idle after → Rests idle (some before) (some after)

/-- One input of an operator: the wakers registered on it, and what may become of the
operator when this input changes in any way while all others stay as silent as they
are. -/
structure Input (O : Type) where
  Registered : O → Waker → Prop
  Stirs : O → O → Prop

section

variable {O Item : Type} [PollStream O Item]

/-- The input alone, by becoming ready or firing, would make the next poll answer
`Ready`. -/
def Input.Unblocks (input : Input O) (this : O) : Prop :=
  ∃ stirred cx item after, input.Stirs this stirred ∧
    pollNext cx stirred = some (.ready item, after)

/-- The waker is registered on every input that would unblock the operator. -/
def Wakes (inputs : List (Input O)) (waker : Waker) (this : O) : Prop :=
  ∀ input ∈ inputs, input.Unblocks this → input.Registered this waker

theorem wakes_cons {input : Input O} {inputs : List (Input O)} {waker : Waker} {this : O} :
    Wakes (input :: inputs) waker this ↔
      (input.Unblocks this → input.Registered this waker) ∧ Wakes inputs waker this :=
  List.forall_mem_cons

theorem wakes_singleton {input : Input O} {waker : Waker} {this : O} :
    Wakes [input] waker this ↔ (input.Unblocks this → input.Registered this waker) :=
  List.forall_mem_singleton

/-- No poll that answers `Pending` loses a wake-up. -/
def NeverLosesWakeUp (inputs : List (Input O)) : Prop :=
  ∀ cx this next, pollNext cx this = some (.pending, next) →
    Wakes inputs cx.waker next

/-- An operator whose poll is a loop: it is enough to look at the turn that leaves. -/
theorem neverLosesWakeUp_of_turn {inputs : List (Input O)}
    {turn : Context → O → Option (Turn O (Poll (Option Item)))}
    (polls : ∀ cx this, pollNext cx this = loop (turn cx) cx.turns this)
    (leaves : ∀ cx this next, turn cx this = some (.leave .pending next) →
      Wakes inputs cx.waker next) : NeverLosesWakeUp inputs := by
  intro cx this next polled
  rw [polls] at polled
  obtain ⟨last, turned⟩ := loop_leaves polled
  exact leaves cx last next turned

/-- If its first turn leaves with `Pending`, it does not answer `Ready`. -/
theorem not_ready_of_turn {turn : Context → O → Option (Turn O (Poll (Option Item)))}
    (polls : ∀ cx this, pollNext cx this = loop (turn cx) cx.turns this) {this after : O}
    {item : Option Item} (stays : ∃ next, turn cx this = some (.leave .pending next))
    (polled : pollNext cx this = some (.ready item, after)) : False := by
  obtain ⟨next, turned⟩ := stays
  rw [polls] at polled
  cases (loop_of_leave turned polled).1

end

/-! ### merge -/

namespace Merge

variable {A B T E : Type} [WakingStream A (Event T E)] [WakingStream B (Event T E)]

def leftInput : Input (Merge A B) where
  Registered this := WakingStream.Registered this.left
  Stirs this stirred := ∃ left right, Idle right ∧
    stirred = { this with left := left, right := right }

def rightInput : Input (Merge A B) where
  Registered this := WakingStream.Registered this.right
  Stirs this stirred := ∃ left right, Idle left ∧
    stirred = { this with left := left, right := right }

/-- Both sources. -/
def inputs : List (Input (Merge A B)) := [leftInput, rightInput]

/-- A source that was asked and has neither spoken nor ended is pending. -/
theorem registered_of_asked {S : Type} [WakingStream S (Event T E)] {source next : S}
    {done nextDone : Bool} (goesOn : nextDone = false)
    (asked : Asked (T := T) (E := E) cx source done next nextDone none) :
    WakingStream.Registered next cx.waker := by
  subst goesOn
  cases asked with
  | waiting polled => exact WakingStream.registers polled

/-- A pending poll has asked both sources. -/
theorem poll_pending {this next : Merge A B}
    (polled : PollStream.pollNext cx this = some ((.pending : Answer T E), next)) :
    next.completed = false ∧ (next.leftDone && next.rightDone) = false ∧
      (next.leftDone = false → WakingStream.Registered next.left cx.waker) ∧
      (next.rightDone = false → WakingStream.Registered next.right cx.waker) := by
  cases completed : this.completed with
  | true =>
      have turned : turn cx this = some (.leave (.ready (none : Option (Event T E))) this) :=
        if_pos completed
      cases (loop_of_leave turned polled).1
  | false =>
      cases ended : this.leftDone && this.rightDone with
      | true =>
          have turned : turn cx this = some (.leave (.ready (some (.complete : Event T E)))
              { this with completed := true }) := by
            simp [turn, completed, Bool.and_eq_true_iff.mp ended]
          cases (loop_of_leave turned polled).1
      | false =>
          cases poll_cases completed ended polled with
          | pending left right more =>
              exact ⟨rfl, more, fun goesOn => registered_of_asked goesOn left,
                fun goesOn => registered_of_asked goesOn right⟩

/-- With the left source done and the right one idle the merge stays pending. -/
theorem turn_of_idle_right (cx : Context) (this : Merge A B)
    (goesOn : this.completed = false) (isDone : this.leftDone = true)
    (waits : this.rightDone = false) (idle : Idle this.right) :
    ∃ next, turn cx this = some (.leave .pending next) := by
  obtain ⟨right, polled, _⟩ := idle.poll_eq cx
  refine ⟨{ this with right := right, leftFirst := !this.leftFirst }, ?_⟩
  cases order : this.leftFirst <;>
    simp [turn, pollSides, pollSide, heed, goesOn, isDone, waits, polled, order]

/-- With the right source done and the left one idle the merge stays pending. -/
theorem turn_of_idle_left (cx : Context) (this : Merge A B)
    (goesOn : this.completed = false) (isDone : this.rightDone = true)
    (waits : this.leftDone = false) (idle : Idle this.left) :
    ∃ next, turn cx this = some (.leave .pending next) := by
  obtain ⟨left, polled, _⟩ := idle.poll_eq cx
  refine ⟨{ this with left := left, leftFirst := !this.leftFirst }, ?_⟩
  cases order : this.leftFirst <;>
    simp [turn, pollSides, pollSide, heed, goesOn, isDone, waits, polled, order]

theorem neverLosesWakeUp : NeverLosesWakeUp (inputs : List (Input (Merge A B))) := by
  intro cx this next pending
  obtain ⟨goesOn, notBoth, left, right⟩ := poll_pending pending
  rw [inputs, wakes_cons, wakes_singleton]
  constructor
  · rintro ⟨_, later, item, after, ⟨newLeft, newRight, idle, rfl⟩, polled⟩
    cases isDone : next.leftDone with
    | false => exact left isDone
    | true =>
        rw [isDone, Bool.true_and] at notBoth
        have stays := turn_of_idle_right later
          { next with left := newLeft, right := newRight } goesOn isDone notBoth idle
        exact (not_ready_of_turn (fun _ _ => rfl) stays polled).elim
  · rintro ⟨_, later, item, after, ⟨newLeft, newRight, idle, rfl⟩, polled⟩
    cases isDone : next.rightDone with
    | false => exact right isDone
    | true =>
        rw [isDone, Bool.and_true] at notBoth
        have stays := turn_of_idle_left later
          { next with left := newLeft, right := newRight } goesOn isDone notBoth idle
        exact (not_ready_of_turn (fun _ _ => rfl) stays polled).elim

end Merge

/-! ### switch_map -/

namespace SwitchMap

variable {S F P T U E : Type} [WakingStream S (Event T E)] [WakingStream P (Event U E)]

def sourceInput : Input (SwitchMap S F P) where
  Registered this := WakingStream.Registered this.source
  Stirs this stirred := ∃ source projected, Rests Idle this.projected projected ∧
    stirred = { this with source := source, projected := projected }

def projectedInput : Input (SwitchMap S F P) where
  Registered this waker :=
    ∃ projected, this.projected = some projected ∧ WakingStream.Registered projected waker
  Stirs this stirred := this.projected.isSome ∧ ∃ source projected, Idle source ∧
    stirred = { this with source := source, projected := some projected }

/-- The source, and the projected stream while there is one. -/
def inputs : List (Input (SwitchMap S F P)) := [sourceInput, projectedInput]

variable [FnMut F T P]

omit [WakingStream P (Event U E)] in
/-- The rest of a turn that leaves with `Pending`: the source is registered, or it is
over and the projected stream is awaited. -/
theorem pollSource_pending {this next : SwitchMap S F P}
    (turned : this.pollSource cx = some (.leave (.pending : Answer U E) next)) :
    next.finished = this.finished ∧ next.projected = this.projected ∧
      (WakingStream.Registered next.source cx.waker ∨
        next.sourceEnd.isSome ∧ next.projected.isSome) := by
  unfold pollSource at turned
  split at turned
  · rename_i ended
    split at turned
    · split at turned <;> cases turned
    · rename_i held
      cases turned
      refine ⟨rfl, rfl, Or.inr ?_⟩
      rw [ended, held]
      exact ⟨rfl, rfl⟩
  · split at turned <;> cases turned
    rename_i polled
    exact ⟨rfl, rfl, Or.inl (WakingStream.registers polled)⟩

/-- A turn that leaves with `Pending`. -/
theorem turn_pending {this next : SwitchMap S F P}
    (turned : turn cx this = some (.leave .pending next)) :
    next.finished = false ∧
      (∀ projected, next.projected = some projected →
        WakingStream.Registered projected cx.waker) ∧
      (WakingStream.Registered next.source cx.waker ∨
        next.sourceEnd.isSome ∧ next.projected.isSome) := by
  unfold turn at turned
  split at turned
  · cases turned
  · rename_i goesOn
    rw [Bool.not_eq_true] at goesOn
    split at turned
    · rename_i absent
      obtain ⟨same, kept, source⟩ := pollSource_pending turned
      refine ⟨same.trans goesOn, fun projected held => ?_, source⟩
      rw [kept, absent] at held
      cases held
    · split at turned
      · cases turned
      · cases turned
      · cases turned
      · obtain ⟨same, kept, source⟩ := pollSource_pending turned
        refine ⟨same.trans goesOn, fun projected held => ?_, source⟩
        rw [kept] at held
        cases held
      · obtain ⟨same, kept, source⟩ := pollSource_pending turned
        refine ⟨same.trans goesOn, fun projected held => ?_, source⟩
        rw [kept] at held
        cases held
      · rename_i polled
        obtain ⟨same, kept, source⟩ := pollSource_pending turned
        refine ⟨same.trans goesOn, fun projected held => ?_, source⟩
        rw [kept] at held
        cases held
        exact WakingStream.registers polled

/-- With the source over and the projected stream idle the operator stays pending. -/
theorem turn_of_idle (cx : Context) (this : SwitchMap S F P) {projected : P}
    (goesOn : this.finished = false) (isOver : this.sourceEnd.isSome)
    (held : this.projected = some projected) (idle : Idle projected) :
    ∃ next, turn cx this = some (.leave .pending next) := by
  obtain ⟨later, polled, _⟩ := idle.poll_eq cx
  obtain ⟨ending, ended⟩ := Option.isSome_iff_exists.mp isOver
  refine ⟨{ this with projected := some later }, ?_⟩
  simp [turn, pollSource, goesOn, held, polled, ended]

theorem neverLosesWakeUp : NeverLosesWakeUp (inputs : List (Input (SwitchMap S F P))) := by
  refine neverLosesWakeUp_of_turn (fun _ _ => rfl) fun cx this next turned => ?_
  obtain ⟨goesOn, projected, source⟩ := turn_pending turned
  rw [inputs, wakes_cons, wakes_singleton]
  constructor
  · rintro ⟨_, later, item, after, ⟨newSource, newProjected, rests, rfl⟩, polled⟩
    rcases source with registered | ⟨isOver, held⟩
    · exact registered
    · obtain ⟨old, held⟩ := Option.isSome_iff_exists.mp held
      rw [held] at rests
      cases rests with
      | idle idle =>
          have stays := turn_of_idle later
            { next with source := newSource, projected := some _ } goesOn isOver rfl idle
          exact (not_ready_of_turn (fun _ _ => rfl) stays polled).elim
  · rintro ⟨_, _, _, _, ⟨held, _⟩, _⟩
    obtain ⟨stream, held⟩ := Option.isSome_iff_exists.mp held
    exact ⟨stream, held, projected stream held⟩

end SwitchMap

/-! ### take_until -/

namespace TakeUntil

variable {S N T U E : Type} [WakingStream S (Event T E)] [WakingStream N (Event U E)]

def sourceInput : Input (TakeUntil S N) where
  Registered this := WakingStream.Registered this.source
  Stirs this stirred := ∃ source notifier, Rests Idle this.notifier notifier ∧
    stirred = { this with source := source, notifier := notifier }

def notifierInput : Input (TakeUntil S N) where
  Registered this waker :=
    ∃ notifier, this.notifier = some notifier ∧ WakingStream.Registered notifier waker
  Stirs this stirred := this.notifier.isSome ∧ ∃ source notifier, Idle source ∧
    stirred = { this with source := source, notifier := some notifier }

/-- The source, and the notifier until it is over. -/
def inputs : List (Input (TakeUntil S N)) := [sourceInput, notifierInput]

omit [WakingStream N (Event U E)] in
theorem pollSource_pending {this next : TakeUntil S N}
    (polled : this.pollSource cx = some (.pending, next)) :
    this.stopped = false ∧ next.notifier = this.notifier ∧
      WakingStream.Registered next.source cx.waker := by
  unfold pollSource at polled
  split at polled
  · cases polled
  · rename_i running
    split at polled
    · cases polled
    · rename_i answered
      cases polled
      exact ⟨Bool.not_eq_true _ ▸ running, rfl, WakingStream.registers answered⟩

/-- A pending poll has asked the source, and the notifier unless that is over. -/
theorem pollNext_pending {this next : TakeUntil S N}
    (polled : PollStream.pollNext cx this = some (.pending, next)) :
    WakingStream.Registered next.source cx.waker ∧
      ∀ notifier, next.notifier = some notifier →
        WakingStream.Registered notifier cx.waker := by
  -- the notifier is gone when the source is asked
  have gone : ∀ {here : TakeUntil S N}, here.pollSource cx = some (.pending, next) →
      here.notifier = none → WakingStream.Registered next.source cx.waker ∧
        ∀ notifier, next.notifier = some notifier →
          WakingStream.Registered notifier cx.waker := by
    intro here asked absent
    obtain ⟨_, kept, source⟩ := pollSource_pending asked
    refine ⟨source, fun notifier held => ?_⟩
    rw [kept, absent] at held
    cases held
  simp only [PollStream.pollNext, pollNext] at polled
  split at polled
  · cases polled
  · split at polled
    · rename_i absent
      exact gone polled absent
    · split at polled
      · cases polled
      · exact gone polled rfl
      · exact gone polled rfl
      · exact gone polled rfl
      · cases polled
      · rename_i answered
        obtain ⟨_, kept, source⟩ := pollSource_pending polled
        refine ⟨source, fun notifier held => ?_⟩
        rw [kept] at held
        cases held
        exact WakingStream.registers answered

theorem neverLosesWakeUp : NeverLosesWakeUp (inputs : List (Input (TakeUntil S N))) := by
  intro cx this next polled
  obtain ⟨source, notifier⟩ := pollNext_pending polled
  rw [inputs, wakes_cons, wakes_singleton]
  constructor
  · exact fun _ => source
  · rintro ⟨_, _, _, _, ⟨held, _⟩, _⟩
    obtain ⟨stream, held⟩ := Option.isSome_iff_exists.mp held
    exact ⟨stream, held, notifier stream held⟩

end TakeUntil

/-! ### catch_error -/

namespace CatchError

variable {S F R T E : Type} [WakingStream S (Event T E)] [WakingStream R (Event T E)]

def sourceInput : Input (CatchError S F R) where
  Registered this := WakingStream.Registered this.source
  Stirs this stirred := ∃ source recovery, Rests Idle this.recovery recovery ∧
    stirred = { this with source := source, recovery := recovery }

def recoveryInput : Input (CatchError S F R) where
  Registered this waker :=
    ∃ recovery, this.recovery = some recovery ∧ WakingStream.Registered recovery waker
  Stirs this stirred := this.recovery.isSome ∧ ∃ source recovery, Idle source ∧
    stirred = { this with source := source, recovery := some recovery }

/-- The source, and the recovery stream once there is one. -/
def inputs : List (Input (CatchError S F R)) := [sourceInput, recoveryInput]

variable [FnMut F E R]

/-- A turn that leaves with `Pending` has asked the recovery stream if there is one, and
the source if not. -/
theorem turn_pending {this next : CatchError S F R}
    (turned : turn cx this = some (.leave .pending next)) :
    next.finished = false ∧
      ((next.recovery = none ∧ WakingStream.Registered next.source cx.waker) ∨
        ∃ recovery, next.recovery = some recovery ∧
          WakingStream.Registered recovery cx.waker) := by
  unfold turn at turned
  split at turned
  · cases turned
  · rename_i goesOn
    rw [Bool.not_eq_true] at goesOn
    split at turned
    · split at turned <;> cases turned
      rename_i polled
      exact ⟨goesOn, Or.inr ⟨_, rfl, WakingStream.registers polled⟩⟩
    · rename_i absent
      split at turned
      · cases turned
      · cases turned
      · split at turned <;> cases turned
      · cases turned
      · cases turned
      · cases turned
      · rename_i polled
        cases turned
        exact ⟨goesOn, Or.inl ⟨absent, WakingStream.registers polled⟩⟩

/-- With an idle recovery stream the operator stays pending. -/
theorem turn_of_idle (cx : Context) (this : CatchError S F R) {recovery : R}
    (goesOn : this.finished = false) (held : this.recovery = some recovery)
    (idle : Idle recovery) : ∃ next, turn cx this = some (.leave .pending next) := by
  obtain ⟨later, polled, _⟩ := idle.poll_eq cx
  refine ⟨{ this with recovery := some later }, ?_⟩
  simp [turn, goesOn, held, polled]

theorem neverLosesWakeUp : NeverLosesWakeUp (inputs : List (Input (CatchError S F R))) := by
  refine neverLosesWakeUp_of_turn (fun _ _ => rfl) fun cx this next turned => ?_
  obtain ⟨goesOn, asked⟩ := turn_pending turned
  rw [inputs, wakes_cons, wakes_singleton]
  constructor
  · rintro ⟨_, later, item, after, ⟨newSource, newRecovery, rests, rfl⟩, polled⟩
    rcases asked with ⟨_, source⟩ | ⟨old, held, _⟩
    · exact source
    · rw [held] at rests
      cases rests with
      | idle idle =>
          have stays := turn_of_idle later
            { next with source := newSource, recovery := some _ } goesOn rfl idle
          exact (not_ready_of_turn (fun _ _ => rfl) stays polled).elim
  · rintro ⟨_, _, _, _, ⟨isHeld, _⟩, _⟩
    rcases asked with ⟨absent, _⟩ | registered
    · rw [absent] at isHeld
      cases isHeld
    · exact registered

end CatchError

/-! ### timeout -/

namespace Timeout

variable {S T E : Type} [WakingStream S (Event T E)]

def sourceInput : Input (Timeout S) where
  Registered this := WakingStream.Registered this.source
  Stirs this stirred := ∃ source sleep, Rests IdleFuture this.sleep sleep ∧
    stirred = { this with source := source, sleep := sleep }

def timerInput : Input (Timeout S) where
  Registered this waker :=
    ∃ sleep, this.sleep = some sleep ∧ WakingFuture.Registered sleep waker
  Stirs this stirred := this.sleep.isSome ∧ ∃ source sleep, Idle source ∧
    stirred = { this with source := source, sleep := some sleep }

/-- The source and the silence timer. -/
def inputs : List (Input (Timeout S)) := [sourceInput, timerInput]

/-- A pending poll has asked the source and the timer. -/
theorem pollNext_pending {this next : Timeout S}
    (polled : PollStream.pollNext cx this = some (.pending, next)) :
    WakingStream.Registered next.source cx.waker ∧
      ∃ sleep, next.sleep = some sleep ∧ WakingFuture.Registered sleep cx.waker := by
  simp only [PollStream.pollNext, pollNext] at polled
  split at polled
  · cases polled
  · split at polled
    · cases polled
    · cases polled
    · cases polled
    · rename_i answered
      split at polled <;> cases polled
      rename_i waits
      exact ⟨WakingStream.registers answered, _, rfl, WakingFuture.registers waits⟩

theorem neverLosesWakeUp : NeverLosesWakeUp (inputs : List (Input (Timeout S))) := by
  intro cx this next polled
  obtain ⟨source, timer⟩ := pollNext_pending polled
  rw [inputs, wakes_cons, wakes_singleton]
  exact ⟨fun _ => source, fun _ => timer⟩

end Timeout

/-! ### retry_with -/

namespace Retrying

variable {G Fut P T E : Type} [WakingStream P (Event T E)] [FnMut G Unit Fut]
  [WakingFuture Fut P]

def timerInput : Input (Retrying G Fut P) where
  Registered this waker :=
    ∃ sleep, this.sleep = some sleep ∧ WakingFuture.Registered sleep waker
  Stirs this stirred := this.sleep.isSome ∧ ∃ sleep pending stream,
    Rests IdleFuture this.pending pending ∧ Rests Idle this.stream stream ∧
    stirred = { this with sleep := some sleep, pending := pending, stream := stream }

def factoryInput : Input (Retrying G Fut P) where
  Registered this waker :=
    ∃ future, this.pending = some future ∧ WakingFuture.Registered future waker
  Stirs this stirred := this.pending.isSome ∧ ∃ sleep future stream,
    Rests IdleFuture this.sleep sleep ∧ Rests Idle this.stream stream ∧
    stirred = { this with sleep := sleep, pending := some future, stream := stream }

def streamInput : Input (Retrying G Fut P) where
  Registered this waker :=
    ∃ stream, this.stream = some stream ∧ WakingStream.Registered stream waker
  Stirs this stirred := this.stream.isSome ∧ ∃ sleep pending stream,
    Rests IdleFuture this.sleep sleep ∧ Rests IdleFuture this.pending pending ∧
    stirred = { this with sleep := sleep, pending := pending, stream := some stream }

/-- The pause, the future of the factory and the stream of the attempt. -/
def inputs : List (Input (Retrying G Fut P)) := [timerInput, factoryInput, streamInput]

/-- What a pending poll waits for: the first of the pause, the future of the factory and
the stream that is there. -/
inductive WaitsFor (waker : Waker) (this : Retrying G Fut P) : Prop
  | timer {sleep} : this.sleep = some sleep → WakingFuture.Registered sleep waker →
      WaitsFor waker this
  | factory {future} : this.sleep = none → this.pending = some future →
      WakingFuture.Registered future waker → WaitsFor waker this
  | stream {stream} : this.sleep = none → this.pending = none → this.stream = some stream →
      WakingStream.Registered stream waker → WaitsFor waker this

omit [FnMut G Unit Fut] in
theorem forward_pending {this next : Retrying G Fut P} (unpaused : this.sleep = none)
    (built : this.pending = none) (goesOn : this.finished = false)
    (turned : this.forward cx = some (.leave .pending next)) :
    next.finished = false ∧ WaitsFor cx.waker next := by
  unfold forward at turned
  split at turned
  · cases turned
  · split at turned
    · cases turned
    · cases turned
    · split at turned <;> cases turned
    · cases turned
    · cases turned
    · rename_i polled
      cases turned
      exact ⟨goesOn, .stream unpaused built rfl (WakingStream.registers polled)⟩

omit [FnMut G Unit Fut] in
theorem awaitFactory_pending {this next : Retrying G Fut P} (unpaused : this.sleep = none)
    (goesOn : this.finished = false) (turned : this.awaitFactory cx = some (.leave .pending next)) :
    next.finished = false ∧ WaitsFor cx.waker next := by
  unfold awaitFactory at turned
  split at turned
  · rename_i built
    exact forward_pending unpaused built goesOn turned
  · split at turned
    · refine forward_pending ?_ ?_ ?_ turned
      · exact unpaused
      · rfl
      · exact goesOn
    · rename_i polled
      cases turned
      exact ⟨goesOn, .factory unpaused rfl (WakingFuture.registers polled)⟩

omit [WakingStream P (Event T E)] [WakingFuture Fut P] in
theorem startAttempt_keeps (this : Retrying G Fut P) :
    this.startAttempt.sleep = this.sleep ∧ this.startAttempt.finished = this.finished := by
  unfold startAttempt
  split <;> exact ⟨rfl, rfl⟩

theorem turn_pending {this next : Retrying G Fut P}
    (turned : turn cx this = some (.leave .pending next)) :
    next.finished = false ∧ WaitsFor cx.waker next := by
  unfold turn at turned
  split at turned
  · cases turned
  · rename_i goesOn
    rw [Bool.not_eq_true] at goesOn
    split at turned
    · rename_i unpaused
      obtain ⟨sleep, finished⟩ := startAttempt_keeps this
      exact awaitFactory_pending (sleep.trans unpaused) (finished.trans goesOn) turned
    · split at turned
      · obtain ⟨sleep, finished⟩ := startAttempt_keeps { this with sleep := none }
        exact awaitFactory_pending sleep (finished.trans goesOn) turned
      · rename_i polled
        cases turned
        exact ⟨goesOn, .timer rfl (WakingFuture.registers polled)⟩

/-- While the pause lasts the operator stays pending. -/
theorem turn_of_idle_timer (cx : Context) (this : Retrying G Fut P) {sleep : Sleep}
    (goesOn : this.finished = false) (held : this.sleep = some sleep)
    (idle : IdleFuture sleep) : ∃ next, turn cx this = some (.leave .pending next) := by
  obtain ⟨later, polled, _⟩ := idle.poll_pending cx
  refine ⟨{ this with sleep := some later }, ?_⟩
  simp [turn, goesOn, held, polled]

/-- While the factory's future is pending the operator stays pending. -/
theorem turn_of_idle_factory (cx : Context) (this : Retrying G Fut P) {future : Fut}
    (goesOn : this.finished = false) (unpaused : this.sleep = none)
    (held : this.pending = some future) (idle : IdleFuture future) :
    ∃ next, turn cx this = some (.leave .pending next) := by
  obtain ⟨later, polled, _⟩ := idle.poll_pending cx
  refine ⟨{ this with pending := some later }, ?_⟩
  simp [turn, startAttempt, awaitFactory, goesOn, unpaused, held, polled]

theorem neverLosesWakeUp : NeverLosesWakeUp (inputs : List (Input (Retrying G Fut P))) := by
  refine neverLosesWakeUp_of_turn (fun _ _ => rfl) fun cx this next turned => ?_
  obtain ⟨goesOn, waits⟩ := turn_pending turned
  rw [inputs, wakes_cons, wakes_cons, wakes_singleton]
  refine ⟨?_, ?_, ?_⟩
  · rintro ⟨_, _, _, _, ⟨isHeld, _⟩, _⟩
    cases waits with
    | timer held registered => exact ⟨_, held, registered⟩
    | factory unpaused _ _ =>
        rw [unpaused] at isHeld
        cases isHeld
    | stream unpaused _ _ _ =>
        rw [unpaused] at isHeld
        cases isHeld
  · rintro ⟨_, later, item, after, ⟨isHeld, sleep, future, stream, timer, _, rfl⟩, polled⟩
    cases waits with
    | timer held _ =>
        rw [held] at timer
        cases timer with
        | idle idle =>
            have stays := turn_of_idle_timer later
              { next with sleep := some _, pending := some future, stream := stream }
              goesOn rfl idle
            exact (not_ready_of_turn (fun _ _ => rfl) stays polled).elim
    | factory _ held registered => exact ⟨_, held, registered⟩
    | stream _ built _ _ =>
        rw [built] at isHeld
        cases isHeld
  · rintro ⟨_, later, item, after, ⟨isHeld, sleep, pending, stream, timer, factory, rfl⟩, polled⟩
    cases waits with
    | timer held _ =>
        rw [held] at timer
        cases timer with
        | idle idle =>
            have stays := turn_of_idle_timer later
              { next with sleep := some _, pending := pending, stream := some stream }
              goesOn rfl idle
            exact (not_ready_of_turn (fun _ _ => rfl) stays polled).elim
    | factory unpaused held _ =>
        rw [unpaused] at timer
        rw [held] at factory
        cases timer
        cases factory with
        | idle idle =>
            have stays := turn_of_idle_factory later
              { next with sleep := none, pending := some _, stream := some stream }
              goesOn rfl rfl idle
            exact (not_ready_of_turn (fun _ _ => rfl) stays polled).elim
    | stream _ _ held registered => exact ⟨_, held, registered⟩

end Retrying

/-! ### delay -/

namespace Delay

variable {S T E : Type} [WakingStream S (Event T E)]

/-- While the head of the queue waits for its timer, the clock has not reached its
deadline. -/
def sourceInput : Input (Delay S T E) where
  Registered this := WakingStream.Registered this.source
  Stirs this stirred := ∃ source sleep runtime, Rests IdleFuture this.sleep sleep ∧
    (∀ deadline event queue, this.queue = (deadline, event) :: queue →
      ∀ n, runtime.clock.get n < deadline) ∧
    stirred = { this with source := source, sleep := sleep, runtime := runtime }

/-- When the timer fires, the clock may show anything. -/
def timerInput : Input (Delay S T E) where
  Registered this waker :=
    ∃ sleep, this.sleep = some sleep ∧ WakingFuture.Registered sleep waker
  Stirs this stirred := this.sleep.isSome ∧ ∃ source sleep runtime, Idle source ∧
    stirred = { this with source := source, sleep := some sleep, runtime := runtime }

/-- The source, and the timer of the head of the queue. -/
def inputs : List (Input (Delay S T E)) := [sourceInput, timerInput]

variable {this next : Delay S T E} {read deadline : Nat}
  {turned : Turn (Nat × Delay S T E) (Answer T E)}

/-- What a pending poll waits for: the timer of the head of the queue, and the source if
nothing is queued. -/
inductive WaitsFor (waker : Waker) (this : Delay S T E) : Prop
  | timer {sleep} : this.queue ≠ [] → this.sleep = some sleep →
      WakingFuture.Registered sleep waker → WaitsFor waker this
  | source : this.sleep = none → WakingStream.Registered this.source waker →
      WaitsFor waker this

/-- The turn goes round with the read count of an empty queue at zero, or leaves
pending. -/
def Turned (waker : Waker) :
    Turn (Nat × Delay S T E) (Answer T E) → Prop
  | .again (read, next) => next.queue = [] → read = 0
  | .leave answer (_, next) => answer = .pending → WaitsFor waker next

theorem awaitTimer_turned (counted : this.queue = [] → read = 0)
    (waits : this.sleep = none → WakingStream.Registered this.source cx.waker)
    (armed : this.sleep.isSome → this.queue ≠ []) : Turned cx.waker (this.awaitTimer cx read) := by
  unfold awaitTimer
  split
  · rename_i unarmed
    exact fun _ => .source unarmed (waits unarmed)
  · rename_i held
    split
    · exact counted
    · rename_i polled
      refine fun _ => .timer ?_ rfl (WakingFuture.registers polled)
      exact armed (held ▸ rfl)

/-- The middle of a turn, for a queue whose head has its timer. -/
theorem readAhead_turned (counted : this.queue = [] → read = 0)
    (unfinished : this.queue = [] → this.sourceFinished = false)
    (armed : this.sleep.isSome ↔ this.queue ≠ [])
    (returned : this.readAhead cx read = some turned) :
    Turned cx.waker turned := by
  unfold readAhead at returned
  split at returned
  · split at returned
    · cases returned
    · cases returned
      intro empty
      simp at empty
    · cases returned
      exact counted
    · rename_i polled
      cases returned
      exact awaitTimer_turned counted (fun _ => WakingStream.registers polled) armed.mp
  · rename_i closed
    cases returned
    refine awaitTimer_turned counted (fun unarmed => ?_) armed.mp
    have empty : this.queue = [] := by
      by_contra queued
      have isArmed := armed.mpr queued
      rw [unarmed] at isArmed
      cases isArmed
    rw [unfinished empty, counted empty] at closed
    exact absurd rfl closed

omit [WakingStream S (Event T E)] in
theorem arm_queue (this : Delay S T E) (wait : Nat) :
    (this.arm wait).queue = this.queue ∧ (this.arm wait).sleep.isSome := by
  unfold arm
  split
  · rename_i held
    exact ⟨rfl, held ▸ rfl⟩
  · exact ⟨rfl, rfl⟩

theorem turn_turned (counted : this.queue = [] → read = 0)
    (returned : this.turn cx read = some turned) : Turned cx.waker turned := by
  unfold turn at returned
  split at returned
  · rename_i queued
    dsimp only at returned
    split at returned
    · cases returned
      exact nofun
    · obtain ⟨same, isArmed⟩ := arm_queue { this with runtime := this.runtime.now.2 }
        (_ - this.runtime.now.1)
      have busy := same.trans queued
      refine readAhead_turned ?_ ?_ ?_ returned
      · intro empty
        rw [busy] at empty
        cases empty
      · intro empty
        rw [busy] at empty
        cases empty
      · rw [busy]
        exact iff_of_true isArmed nofun
  · rename_i empty
    split at returned
    · cases returned
      exact nofun
    · rename_i goesOn
      refine readAhead_turned ?_ ?_ ?_ returned
      · exact counted
      · exact fun _ => Bool.not_eq_true _ ▸ goesOn
      · exact iff_of_false nofun fun queued => queued empty

theorem pollNext_pending (polled : PollStream.pollNext cx this = some (.pending, next)) :
    WaitsFor cx.waker next := by
  obtain ⟨read, looped⟩ := pollNext_eq polled
  refine loop_rule (fun here : Nat × Delay S T E => here.2.queue = [] → here.1 = 0)
    (fun answer final => answer = .pending → WaitsFor cx.waker final.2) ?_ ?_
    (fun _ => rfl) looped rfl
  · intro state next counted turned
    exact turn_turned counted turned
  · intro state answer next counted turned
    exact turn_turned counted turned

/-- The head of the queue waits for a timer that stays silent, before its deadline. -/
structure Held (deadline : Nat) (this : Delay S T E) : Prop where
  queued : ∃ event queue, this.queue = (deadline, event) :: queue
  early : ∀ n, this.runtime.clock.get n < deadline
  armed : ∃ sleep, this.sleep = some sleep ∧ IdleFuture sleep

/-- The turn goes round in such a state, or leaves pending. -/
def Stays (deadline : Nat) : Turn (Nat × Delay S T E) (Answer T E) → Prop
  | .again (_, next) => Held deadline next
  | .leave answer _ => answer = .pending

omit [WakingStream S (Event T E)] in
theorem awaitTimer_of_held (held : Held deadline this) :
    Stays deadline (this.awaitTimer cx read) := by
  obtain ⟨sleep, armed, idle⟩ := held.armed
  obtain ⟨later, waits, _⟩ := idle.poll_pending cx
  simp [awaitTimer, armed, waits, Stays]

theorem readAhead_of_held (held : Held deadline this)
    (returned : this.readAhead cx read = some turned) : Stays deadline turned := by
  unfold readAhead at returned
  split at returned
  · split at returned
    · cases returned
    · rename_i last _ _
      cases returned
      obtain ⟨event, queue, queued⟩ := held.queued
      refine ⟨⟨event, queue ++ [(this.runtime.now.1 + this.duration, last)], ?_⟩,
        fun n => held.early (n + 1), held.armed⟩
      dsimp only
      rw [queued]
      rfl
    · cases returned
      exact ⟨held.queued, held.early, held.armed⟩
    · cases returned
      exact awaitTimer_of_held ⟨held.queued, held.early, held.armed⟩
  · cases returned
    exact awaitTimer_of_held held

/-- Whatever the source does, the head is not released before its deadline. -/
theorem turn_of_held (held : Held deadline this) (returned : this.turn cx read = some turned) :
    Stays deadline turned := by
  obtain ⟨event, queue, queued⟩ := held.queued
  obtain ⟨sleep, armed, idle⟩ := held.armed
  have notDue : ¬ deadline ≤ this.runtime.now.1 := Nat.not_le.mpr (held.early 0)
  simp only [turn, queued, notDue, if_false, arm, armed] at returned
  refine readAhead_of_held ?_ returned
  exact ⟨⟨event, queue, rfl⟩, fun n => held.early (n + 1), sleep, rfl, idle⟩

theorem pending_of_held {answer : Answer T E} (held : Held deadline this)
    (polled : PollStream.pollNext cx this = some (answer, next)) : answer = .pending := by
  obtain ⟨read, looped⟩ := pollNext_eq polled
  refine loop_rule (fun here : Nat × Delay S T E => Held deadline here.2)
    (fun answer _ => answer = .pending) ?_ ?_ held looped
  · intro state next held turned
    exact turn_of_held held turned
  · intro state answer next held turned
    exact turn_of_held held turned

theorem neverLosesWakeUp : NeverLosesWakeUp (inputs : List (Input (Delay S T E))) := by
  intro cx this next polled
  have waits := pollNext_pending polled
  rw [inputs, wakes_cons, wakes_singleton]
  constructor
  · rintro ⟨_, later, item, after, ⟨source, sleep, runtime, rests, early, rfl⟩, ready⟩
    cases waits with
    | timer queued held _ =>
        obtain ⟨⟨deadline, event⟩, queue, isQueue⟩ := List.exists_cons_of_ne_nil queued
        rw [held] at rests
        cases rests with
        | idle idle =>
            have isHeld : Held deadline
                { next with source := source, sleep := some _, runtime := runtime } :=
              ⟨⟨event, queue, isQueue⟩, early deadline event queue isQueue, _, rfl, idle⟩
            cases pending_of_held isHeld ready
    | source _ registered => exact registered
  · rintro ⟨_, _, _, _, ⟨isArmed, _⟩, _⟩
    cases waits with
    | timer _ held registered => exact ⟨_, held, registered⟩
    | source unarmed _ =>
        rw [unarmed] at isArmed
        cases isArmed

end Delay

/-! ### take_until_token -/

namespace TakeUntilToken

variable {S T E : Type} [WakingStream S (Event T E)]

def sourceInput : Input (TakeUntilToken S) where
  Registered this := WakingStream.Registered this.source
  Stirs this stirred := ∃ source,
    stirred = { this with
      source := source, token := { this.token with reads := Stream'.const false } }

def tokenInput : Input (TakeUntilToken S) where
  Registered this waker := waker ∈ this.token.wakers
  Stirs this stirred := ∃ source reads, Idle source ∧
    stirred = { this with source := source, token := { this.token with reads := reads } }

/-- The source and the token. -/
def inputs : List (Input (TakeUntilToken S)) := [sourceInput, tokenInput]

/-- A pending poll has asked the source and read the flag; the wakers of the token are
the same. -/
theorem pollNext_pending {this next : TakeUntilToken S}
    (polled : PollStream.pollNext cx this = some (.pending, next)) :
    next.done = false ∧ next.token.wakers = this.token.wakers ∧
      WakingStream.Registered next.source cx.waker := by
  simp only [PollStream.pollNext, pollNext] at polled
  split at polled
  · cases polled
  · rename_i goesOn
    rw [Bool.not_eq_true] at goesOn
    split at polled
    · cases polled
    · split at polled
      · cases polled
      · rename_i answered
        cases polled
        exact ⟨goesOn, rfl, WakingStream.registers answered⟩

/-- A cancelled token would unblock the operator. -/
theorem token_unblocks {this : TakeUntilToken S} (goesOn : this.done = false) {mute : S}
    (idle : Idle mute) : tokenInput.Unblocks this := by
  let token := { this.token with reads := Stream'.const true }
  refine ⟨{ this with source := mute, token := token }, { waker := 0, turns := 0 },
    some (.error (.technical .cancelled)),
    { this with source := mute, token := token.isCancelled.2, done := true },
    ⟨mute, Stream'.const true, idle, rfl⟩, ?_⟩
  have isSet : token.isCancelled.1 = true := rfl
  simp only [PollStream.pollNext, pollNext, goesOn, isSet, Bool.false_eq_true, if_false,
    if_true]

/-- A pending poll keeps every wake-up exactly if its waker was on the token before. -/
theorem wakes_iff {this next : TakeUntilToken S} {mute : S} (idle : Idle mute)
    (polled : PollStream.pollNext cx this = some (.pending, next)) :
    Wakes inputs cx.waker next ↔ cx.waker ∈ this.token.wakers := by
  obtain ⟨goesOn, same, source⟩ := pollNext_pending polled
  rw [inputs, wakes_cons, wakes_singleton]
  constructor
  · rintro ⟨_, token⟩
    have registered : cx.waker ∈ next.token.wakers := token (token_unblocks goesOn idle)
    rwa [same] at registered
  · intro registered
    refine ⟨fun _ => source, fun _ => ?_⟩
    rw [← same] at registered
    exact registered

end TakeUntilToken

/-! ### Every operator with several inputs -/

/-- **No lost wake-up.** Whatever the state, a poll that answers `Pending` leaves its
waker on every input that would unblock the operator, for every operator with several
inputs but `take_until_token`; that one does so exactly if the waker was on its token
before the poll. -/
theorem pending_operator_wakes {S R P F K G Fut T U E : Type}
    [WakingStream S (Event T E)] [WakingStream R (Event T E)] [WakingStream P (Event U E)]
    [FnMut F T P] [FnMut K E R] [FnMut G Unit Fut] [WakingFuture Fut R]
    (mute : S) (idle : Idle mute) :
    NeverLosesWakeUp (Merge.inputs : List (Input (Merge S R))) ∧
    NeverLosesWakeUp (SwitchMap.inputs : List (Input (SwitchMap S F P))) ∧
    NeverLosesWakeUp (TakeUntil.inputs : List (Input (TakeUntil S P))) ∧
    NeverLosesWakeUp (Timeout.inputs : List (Input (Timeout S))) ∧
    NeverLosesWakeUp (Delay.inputs : List (Input (Delay S T E))) ∧
    NeverLosesWakeUp (Retrying.inputs : List (Input (Retrying G Fut R))) ∧
    NeverLosesWakeUp (CatchError.inputs : List (Input (CatchError S K R))) ∧
    ∀ cx (this next : TakeUntilToken S),
      pollNext cx this = some (.pending, next) →
        (Wakes TakeUntilToken.inputs cx.waker next ↔ cx.waker ∈ this.token.wakers) :=
  ⟨Merge.neverLosesWakeUp, SwitchMap.neverLosesWakeUp, TakeUntil.neverLosesWakeUp,
    Timeout.neverLosesWakeUp, Delay.neverLosesWakeUp, Retrying.neverLosesWakeUp,
    CatchError.neverLosesWakeUp,
    fun _ _ _ polled => TakeUntilToken.wakes_iff idle polled⟩

/-- A source that keeps the waker of its last pending poll. -/
structure WiredSource (Item : Type) where
  source : Source Item
  waker : Option Waker

instance {Item : Type} : WakingStream (WiredSource Item) Item where
  pollNext cx this :=
    match this.source.poll with
    | (.pending, source) => some (.pending, { source := source, waker := some cx.waker })
    | (polled, source) => some (polled, { this with source := source })
  Registered this waker := this.waker = some waker
  registers := by
    intro cx this next polled
    split at polled
    · cases polled
      rfl
    · rename_i notPending _
      cases polled
      exact (notPending rfl).elim

/-- A future that is ready at once. -/
structure ReadyFuture (A : Type) where
  value : A

instance {A : Type} : WakingFuture (ReadyFuture A) A where
  poll _ this := (.ready this.value, this)
  Registered _ _ := False
  registers := nofun

/-- A source that never answers. -/
def silentSource : WiredSource (Event Nat String) :=
  { source := { items := [], schedule := Stream'.const false }, waker := none }

theorem silentSource_idle : Idle silentSource := by
  have stays : ∀ contexts (waker : Option Waker),
      StaysPending pollNext contexts { silentSource with waker := waker } := by
    intro contexts
    induction contexts with
    | nil => exact fun _ => trivial
    | cons context contexts ih =>
        intro waker
        exact ⟨{ silentSource with waker := some context.waker }, rfl, ih _⟩
  exact fun contexts => stays contexts none

/-- A call under a token on which the given wakers are registered. -/
def silentCall (wakers : List Waker) : TakeUntilToken (WiredSource (Event Nat String)) :=
  TakeUntilToken.new silentSource { reads := Stream'.const false, wakers := wakers }

theorem pending_operator_wakes_registered :
    ∃ next, pollNext { waker := 7, turns := 1 } (silentCall [7]) =
        some (.pending, next) ∧
      Wakes TakeUntilToken.inputs 7 next := by
  refine ⟨_, rfl, ?_⟩
  have all := pending_operator_wakes (R := WiredSource (Event Nat String))
    (F := Nat → WiredSource (Event Nat String)) (K := String → WiredSource (Event Nat String))
    (G := Unit → ReadyFuture (WiredSource (Event Nat String))) silentSource silentSource_idle
  exact (all.2.2.2.2.2.2.2 { waker := 7, turns := 1 } (silentCall [7]) _ rfl).mpr (by decide)

/-- A call on a silent source, polled with waker 7: the poll answers `Pending`, the
waker is not on the token, and a cancelled token would make the next poll ready. -/
theorem take_until_token_sleeps :
    ∃ next, pollNext { waker := 7, turns := 1 } (silentCall []) =
        some (.pending, next) ∧
      next.token.wakers = [] ∧
      (∃ after, pollNext { waker := 7, turns := 1 }
          { next with token := { next.token with reads := Stream'.const true } } =
        some (.ready (some (.error (.technical .cancelled))), after)) ∧
      ¬ Wakes TakeUntilToken.inputs 7 next := by
  refine ⟨_, rfl, rfl, ⟨_, rfl⟩, fun wakes => ?_⟩
  have registered := (TakeUntilToken.wakes_iff silentSource_idle
    (rfl : pollNext { waker := 7, turns := 1 } (silentCall []) = _)).mp wakes
  cases registered

end IceRpc.Rx
