/-
Module: IceRpc.Proofs.DelayShift
Purpose: `delay` shifts in time and does nothing else: every event of the source is released
  once, in order, no earlier than its delay after it was read, and the close follows the last.
  A poll reads a bounded number of events, and the queue is in the order of its deadlines.
Trusted boundary: human-reviewed spec for the marks
Main exports: DelayView, DelayMark, DelayView.marks, DelayTurn, Delay.turn_cases, Shifts,
  Orderly, delay_shifts, OnlyShifts, delay_only_shifts_in_time
-/
import Mathlib.Data.List.Forall2
import IceRpc.Lib.Awaiting
import IceRpc.Rx.Course
import IceRpc.Rx.Transform.Utility

namespace IceRpc.Rx

open Lib
open PollStream (pollNext)

variable {S T E : Type}

/-! ### What a turn does -/

/-- A delay without its timer. -/
structure DelayView (S T E : Type) where
  source : S
  duration : Nat
  queue : List (Nat × Event T E)
  finished : Bool
  clock : Stream' Nat

def Delay.view (this : Delay S T E) : DelayView S T E :=
  { source := this.source, duration := this.duration, queue := this.queue,
    finished := this.sourceFinished, clock := this.runtime.clock }

/-- An event and a reading of the clock. -/
structure Stamped (T E : Type) where
  event : Event T E
  clock : Nat
deriving Repr, DecidableEq

/-- What is noted of a run besides its answers. -/
inductive DelayMark (T E : Type) where
  /-- The event was read from the source, and the clock after it. -/
  | read (stamped : Stamped T E)
  /-- The event was released, due by this reading of the clock. -/
  | released (stamped : Stamped T E)
deriving Repr, DecidableEq

/-- The events that were read. -/
def reads (marks : List (DelayMark T E)) : List (Stamped T E) :=
  marks.filterMap fun
    | .read stamped => some stamped
    | .released _ => none

/-- The events that were released. -/
def releases (marks : List (DelayMark T E)) : List (Stamped T E) :=
  marks.filterMap fun
    | .read _ => none
    | .released stamped => some stamped

theorem reads_append (marks more : List (DelayMark T E)) :
    reads (marks ++ more) = reads marks ++ reads more :=
  List.filterMap_append

theorem releases_append (marks more : List (DelayMark T E)) :
    releases (marks ++ more) = releases marks ++ releases more :=
  List.filterMap_append

theorem reads_read (stamped : Stamped T E) : reads [.read stamped] = [stamped] := rfl

theorem reads_snoc (marks : List (DelayMark T E)) (stamped : Stamped T E) :
    reads (marks ++ [.read stamped]) = reads marks ++ [stamped] := reads_append ..

theorem reads_released (marks : List (DelayMark T E)) (stamped : Stamped T E) :
    reads (marks ++ [.released stamped]) = reads marks :=
  (reads_append ..).trans (List.append_nil _)

theorem releases_snoc (marks : List (DelayMark T E)) (stamped : Stamped T E) :
    releases (marks ++ [.released stamped]) = releases marks ++ [stamped] := releases_append ..

theorem releases_read (marks : List (DelayMark T E)) (stamped : Stamped T E) :
    releases (marks ++ [.read stamped]) = releases marks :=
  (releases_append ..).trans (List.append_nil _)

section Turns

variable [PollStream S (Event T E)]

def DelayView.readMarks (cx : Context) (read : Nat) (this : DelayView S T E) :
    List (DelayMark T E) :=
  if !this.finished && decide (read < delayReadAhead) then
    match pollNext cx this.source with
    | some (.ready (some event), _) => [.read ⟨event, this.clock.head⟩]
    | _ => []
  else []

/-- The marks of a turn. -/
def DelayView.marks (cx : Context) (read : Nat) (this : DelayView S T E) :
    List (DelayMark T E) :=
  match this.queue with
  | (deadline, event) :: _ =>
      if deadline ≤ this.clock.head then [.released ⟨event, this.clock.head⟩]
      else readMarks cx read { this with clock := this.clock.tail }
  | [] => if this.finished then [] else this.readMarks cx read

/-- The marks of a poll. -/
def Delay.pollMarks (cx : Context) (this : Delay S T E) : List (DelayMark T E) :=
  loopNotes (fun here => here.2.view.marks cx here.1) (fun here => turn cx here.1 here.2)
    cx.turns (0, this)

omit [PollStream S (Event T E)] in
/-- The end of a turn in which nothing is due: the timer may have fired or not. -/
inductive DelayWaits (read : Nat) (view : DelayView S T E) :
    Turn (Nat × Delay S T E) (Answer T E) → Prop
  | again {next : Delay S T E} : next.view = view → DelayWaits read view (.again (read, next))
  | leave {next : Delay S T E} : next.view = view →
      DelayWaits read view (.leave .pending (read, next))

/-- What a turn comes to, and its marks. -/
inductive DelayTurn (cx : Context) (read : Nat) (this : DelayView S T E) :
    List (DelayMark T E) → Turn (Nat × Delay S T E) (Answer T E) → Prop
  | released {deadline : Nat} {event : Event T E} {queue : List (Nat × Event T E)}
      {next : Delay S T E} : this.queue = (deadline, event) :: queue →
      deadline ≤ this.clock.head →
      next.view = { this with queue := queue, clock := this.clock.tail } →
      DelayTurn cx read this [.released ⟨event, this.clock.head⟩]
        (.leave (.ready (some event)) (read, next))
  | closed {next : Delay S T E} : this.queue = [] → this.finished = true → next.view = this →
      DelayTurn cx read this [] (.leave (.ready none) (read, next))
  | took {event : Event T E} {source : S} {readings : Nat} {next : Delay S T E} :
      this.finished = false → read < delayReadAhead →
      pollNext cx this.source = some (.ready (some event), source) →
      next.view = { this with
        source := source
        queue := this.queue ++ [((this.clock.drop readings).head + this.duration, event)]
        clock := (this.clock.drop readings).tail } →
      DelayTurn cx read this [.read ⟨event, (this.clock.drop readings).head⟩]
        (.again (read + 1, next))
  | ended {source : S} {readings : Nat} {next : Delay S T E} : this.finished = false →
      pollNext cx this.source = some (.ready none, source) →
      next.view = { this with
        source := source, finished := true, clock := this.clock.drop readings } →
      DelayTurn cx read this [] (.again (read, next))
  | waited {source : S} {readings : Nat}
      {turned : Turn (Nat × Delay S T E) (Answer T E)} :
      source = this.source ∨
        this.finished = false ∧ pollNext cx this.source = some (.pending, source) →
      DelayWaits read { this with source := source, clock := this.clock.drop readings } turned →
      DelayTurn cx read this [] turned

namespace Delay

omit [PollStream S (Event T E)] in
theorem arm_view (this : Delay S T E) (wait : Nat) : (this.arm wait).view = this.view := by
  unfold arm
  split <;> rfl

omit [PollStream S (Event T E)] in
theorem awaitTimer_waits (cx : Context) (read : Nat) (this : Delay S T E) :
    DelayWaits read this.view (this.awaitTimer cx read) := by
  unfold awaitTimer
  split
  · exact .leave rfl
  · split
    · exact .again rfl
    · exact .leave rfl

theorem readAhead_cases {cx : Context} {read readings : Nat} {this : Delay S T E}
    {begun : Stream' Nat} (clock : this.runtime.clock = begun.drop readings)
    {turned : Turn (Nat × Delay S T E) (Answer T E)}
    (turn_eq : this.readAhead cx read = some turned) :
    DelayTurn cx read { this.view with clock := begun } (this.view.readMarks cx read)
      turned := by
  unfold readAhead at turn_eq
  split at turn_eq
  · rename_i reading
    obtain ⟨unfinished, few⟩ : this.sourceFinished = false ∧ read < delayReadAhead := by
      simpa using reading
    split at turn_eq
    · cases turn_eq
    · rename_i event next polled
      have noted : this.view.readMarks cx read = [.read ⟨event, (begun.drop readings).head⟩] := by
        simp [DelayView.readMarks, view, unfinished, few, polled, clock]
      cases turn_eq
      rw [noted]
      refine .took unfinished few polled ?_
      simp only [view, clock]
    · rename_i next polled
      have noted : this.view.readMarks cx read = [] := by
        simp [DelayView.readMarks, view, polled]
      cases turn_eq
      rw [noted]
      exact .ended unfinished polled (congrArg _ clock)
    · rename_i next polled
      have noted : this.view.readMarks cx read = [] := by
        simp [DelayView.readMarks, view, polled]
      have waits := awaitTimer_waits cx read { this with source := next }
      simp only [view, clock] at waits
      cases turn_eq
      rw [noted]
      exact .waited (Or.inr ⟨unfinished, polled⟩) waits
  · rename_i resting
    have noted : this.view.readMarks cx read = [] := if_neg resting
    have waits := awaitTimer_waits cx read this
    simp only [view, clock] at waits
    cases turn_eq
    rw [noted]
    exact .waited (Or.inl rfl) waits

/-- What a turn comes to. -/
theorem turn_cases {cx : Context} {read : Nat} {this : Delay S T E}
    {turned : Turn (Nat × Delay S T E) (Answer T E)}
    (turn_eq : this.turn cx read = some turned) :
    DelayTurn cx read this.view (this.view.marks cx read) turned := by
  unfold turn at turn_eq
  dsimp only [Runtime.now] at turn_eq
  split at turn_eq
  · rename_i deadline event queue queued
    split at turn_eq
    · rename_i due
      have noted : this.view.marks cx read = [.released ⟨event, this.view.clock.head⟩] := by
        simp only [DelayView.marks, view, queued, if_pos due]
      cases turn_eq
      rw [noted]
      exact .released queued due rfl
    · rename_i early
      have noted : this.view.marks cx read =
          DelayView.readMarks cx read { this.view with clock := this.view.clock.tail } := by
        simp only [DelayView.marks, view, queued, if_neg early]
      -- the clock was read once for the head of the queue before the source is polled
      have ticked : (arm { this with runtime := this.runtime.now.2 }
          (deadline - this.runtime.clock.head)).runtime.clock = this.runtime.clock.drop 1 :=
        congrArg DelayView.clock (arm_view ..)
      have armed := readAhead_cases ticked turn_eq
      rw [arm_view] at armed
      rw [noted]
      exact armed
  · rename_i empty
    split at turn_eq
    · rename_i finished
      have noted : this.view.marks cx read = [] := by
        simp only [DelayView.marks, view, empty, if_pos finished]
      cases turn_eq
      rw [noted]
      exact .closed empty finished rfl
    · rename_i more
      have noted : this.view.marks cx read = this.view.readMarks cx read := by
        simp only [DelayView.marks, view, empty, if_neg more]
      have still : ({ this with sleep := none } : Delay S T E).runtime.clock =
          this.runtime.clock.drop 0 := rfl
      rw [noted]
      exact readAhead_cases still turn_eq

end Delay

/-! ### Order and times -/

/-- The event was released no earlier than it was read and delayed. -/
def DelayedBy (duration : Nat) (taken released : Stamped T E) : Prop :=
  released.event = taken.event ∧ taken.clock + duration ≤ released.clock

/-- What a delay has done so far.  The events that were read are those the source has
answered; the first of them were released, each after its delay, and answered; the others
are queued.  The close is answered only once the source has closed and the queue is empty. -/
structure Shifts (source : S) (duration : Nat) (answers : List (Answer T E))
    (marks : List (DelayMark T E)) (this : DelayView S T E) : Prop where
  delays : this.duration = duration
  taken : ∃ heard, Reached pollNext (fun _ => True) source heard this.source ∧
    (reads marks).map Stamped.event = (readies heard).reduceOption ∧
    (if this.finished then ∃ before, readies heard = before ++ [none] ∧ none ∉ before
      else none ∉ readies heard)
  queued : ∃ earlier waiting, reads marks = earlier ++ waiting ∧
    List.Forall₂ (DelayedBy duration) earlier (releases marks) ∧
    this.queue = waiting.map fun stamped => (stamped.clock + duration, stamped.event)
  answered : ∃ closes, readies answers =
      (releases marks).map (fun stamped => some stamped.event) ++ List.replicate closes none ∧
    (0 < closes → this.finished = true ∧ this.queue = [])

variable {source : S} {duration : Nat} {answers : List (Answer T E)}
  {marks : List (DelayMark T E)}

theorem shifts_new (source : S) (duration : Nat) (runtime : Runtime) :
    Shifts source duration ([] : List (Answer T E)) []
      (Delay.new source duration runtime : Delay S T E).view where
  delays := rfl
  taken := ⟨[], .refl source, rfl, nofun⟩
  queued := ⟨[], [], rfl, .nil, rfl⟩
  answered := ⟨0, rfl, nofun⟩

section Moves

variable {this : DelayView S T E} {cx : Context} {next : S} {clock : Stream' Nat}
  (shifts : Shifts source duration answers marks this)

include shifts

/-- The head of the queue is released. -/
theorem Shifts.release {deadline now : Nat} {event : Event T E}
    {queue : List (Nat × Event T E)} (head : this.queue = (deadline, event) :: queue)
    (due : deadline ≤ now) :
    Shifts source duration (answers ++ [.ready (some event)])
      (marks ++ [.released ⟨event, now⟩]) { this with queue := queue, clock := clock } := by
  obtain ⟨delays, ⟨heard, reached, same, closed⟩, ⟨earlier, waiting, split, delayed, queued⟩,
    closes, answered, last⟩ := shifts
  -- the close was not answered, since something is queued
  have open_yet : closes = 0 := by
    by_contra some
    have empty := (last (Nat.pos_of_ne_zero some)).2
    rw [head] at empty
    cases empty
  rw [queued] at head
  obtain ⟨first, rest, rfl, entry, tail⟩ := List.map_eq_cons_iff.mp head
  cases entry
  subst open_yet
  refine ⟨delays, ⟨heard, reached, ?_, closed⟩, ⟨earlier ++ [first], rest, ?_, ?_, tail.symm⟩,
    0, ?_, nofun⟩
  · rw [reads_released, same]
  · rw [reads_released, split, List.append_assoc, List.singleton_append]
  · rw [releases_snoc]
    exact List.rel_append delayed (.cons ⟨rfl, due⟩ .nil)
  · rw [releases_snoc, readies_append, answered]
    simp [readies]

/-- The close is answered. -/
theorem Shifts.close (empty : this.queue = []) (finished : this.finished = true) :
    Shifts source duration (answers ++ [.ready none]) marks this := by
  obtain ⟨closes, answered, -⟩ := shifts.answered
  refine ⟨shifts.delays, shifts.taken, shifts.queued, closes + 1, ?_,
    fun _ => ⟨finished, empty⟩⟩
  rw [readies_append, answered, List.replicate_succ', ← List.append_assoc]
  rfl

/-- An event is read. -/
theorem Shifts.take {event : Event T E} {now : Nat} (unfinished : this.finished = false)
    (polled : pollNext cx this.source = some (.ready (some event), next)) :
    Shifts source duration answers (marks ++ [.read ⟨event, now⟩])
      { this with
        source := next, queue := this.queue ++ [(now + this.duration, event)],
        clock := clock } := by
  obtain ⟨delays, ⟨heard, reached, same, closed⟩, ⟨earlier, waiting, split, delayed, queued⟩,
    closes, answered, last⟩ := shifts
  have going : ¬ this.finished = true := Bool.not_eq_true _ ▸ unfinished
  rw [if_neg going] at closed
  refine ⟨delays, ⟨heard ++ [.ready (some event)], reached.snoc trivial polled, ?_, ?_⟩,
    ⟨earlier, waiting ++ [⟨event, now⟩], ?_, ?_, ?_⟩, closes, ?_,
    fun positive => absurd (last positive).1 going⟩
  · rw [reads_snoc, readies_append, List.map_append, same, List.reduceOption_append]
    rfl
  · rw [if_neg going, readies_append]
    simpa [readies] using closed
  · rw [reads_snoc, split, List.append_assoc]
  · rw [releases_read]
    exact delayed
  · simp [queued, delays]
  · rw [releases_read]
    exact answered

/-- The source has closed. -/
theorem Shifts.finish (unfinished : this.finished = false)
    (polled : pollNext cx this.source = some (.ready none, next)) :
    Shifts source duration answers marks
      { this with source := next, finished := true, clock := clock } := by
  obtain ⟨heard, reached, same, closed⟩ := shifts.taken
  obtain ⟨closes, answered, last⟩ := shifts.answered
  have going : ¬ this.finished = true := Bool.not_eq_true _ ▸ unfinished
  rw [if_neg going] at closed
  refine ⟨shifts.delays, ⟨heard ++ [.ready none], reached.snoc trivial polled, ?_, ?_⟩,
    shifts.queued, closes, answered, fun positive => absurd (last positive).1 going⟩
  · rw [readies_append, List.reduceOption_append, same]
    exact (List.append_nil _).symm
  · rw [readies_append]
    exact ⟨readies heard, rfl, closed⟩

/-- The source is not polled, or has nothing ready. -/
theorem Shifts.wait (idle : next = this.source ∨
      this.finished = false ∧ pollNext cx this.source = some (.pending, next)) :
    Shifts source duration answers marks { this with source := next, clock := clock } := by
  rcases idle with rfl | ⟨unfinished, polled⟩
  · exact ⟨shifts.delays, shifts.taken, shifts.queued, shifts.answered⟩
  · obtain ⟨heard, reached, same, closed⟩ := shifts.taken
    have silent : readies (heard ++ [.pending]) = readies heard := by
      rw [readies_append]
      exact List.append_nil _
    refine ⟨shifts.delays, ⟨heard ++ [.pending], reached.snoc trivial polled, ?_, ?_⟩,
      shifts.queued, shifts.answered⟩
    · rw [silent, same]
    · rw [silent]
      exact closed

theorem Shifts.pending : Shifts source duration (answers ++ [.pending]) marks this := by
  obtain ⟨closes, answered, last⟩ := shifts.answered
  refine ⟨shifts.delays, shifts.taken, shifts.queued, closes, ?_, last⟩
  rw [readies_append, answered]
  exact List.append_nil _

end Moves

/-- The invariant at the end of a turn. -/
def ShiftsAfter (source : S) (duration : Nat) (answers : List (Answer T E))
    (marks : List (DelayMark T E)) :
    Turn (Nat × Delay S T E) (Answer T E) → Prop
  | .again (_, next) => Shifts source duration answers marks next.view
  | .leave answer (_, next) => Shifts source duration (answers ++ [answer]) marks next.view

/-- One turn. -/
theorem Shifts.turn {cx : Context} {read : Nat} {this : DelayView S T E}
    {more : List (DelayMark T E)} {turned : Turn (Nat × Delay S T E) (Answer T E)}
    (shifts : Shifts source duration answers marks this)
    (turns : DelayTurn cx read this more turned) :
    ShiftsAfter source duration answers (marks ++ more) turned := by
  cases turns with
  | released head due seen =>
      rw [ShiftsAfter, seen]
      exact shifts.release head due
  | closed empty finished seen =>
      rw [ShiftsAfter, seen, List.append_nil]
      exact shifts.close empty finished
  | took unfinished few polled seen =>
      rw [ShiftsAfter, seen]
      exact shifts.take unfinished polled
  | ended unfinished polled seen =>
      rw [ShiftsAfter, seen, List.append_nil]
      exact shifts.finish unfinished polled
  | waited idle waits =>
      cases waits with
      | again seen =>
          rw [ShiftsAfter, seen, List.append_nil]
          exact shifts.wait idle
      | leave seen =>
          rw [ShiftsAfter, seen, List.append_nil]
          exact (shifts.wait idle).pending

/-- Every run, as far as its polls return. -/
theorem delay_shifts {runtime : Runtime} {contexts : List Context} {this : Delay S T E}
    (returned : pollAll pollNext contexts (Delay.new source duration runtime) =
      some (answers, this)) :
    Shifts source duration answers
      (pollNotes pollNext Delay.pollMarks contexts
        (Delay.new source duration runtime : Delay S T E)) this.view := by
  refine noted_of_pollAll (fun answers marks this => Shifts source duration answers marks
    this.view) (shifts_new source duration runtime) ?_ returned
  intro answers marks this cx answer next shifts polled
  obtain ⟨read, looped⟩ := Delay.pollNext_eq polled
  refine loop_noted (fun marks here => Shifts source duration answers marks here.2.view)
    (fun marks answer here => Shifts source duration (answers ++ [answer]) marks here.2.view)
    ?_ ?_ shifts looped
  · intro marks here next shifts turn_eq
    exact shifts.turn (Delay.turn_cases turn_eq)
  · intro marks here answer next shifts turn_eq
    exact shifts.turn (Delay.turn_cases turn_eq)

omit [PollStream S (Event T E)] in
theorem events_of_delayed {earlier released : List (Stamped T E)}
    (delayed : List.Forall₂ (DelayedBy duration) earlier released) :
    released.map Stamped.event = earlier.map Stamped.event := by
  induction delayed with
  | nil => rfl
  | cons first _ ih => rw [List.map_cons, List.map_cons, first.1, ih]

/-- Nothing is lost or duplicated: what was answered and what is queued are the events of
the source. -/
theorem Shifts.events {this : DelayView S T E}
    (shifts : Shifts source duration answers marks this) :
    ∃ heard, Reached pollNext (fun _ => True) source heard this.source ∧
      (readies answers).reduceOption ++ this.queue.map Prod.snd = (readies heard).reduceOption ∧
      (none ∈ readies answers → this.queue = [] ∧ none ∈ readies heard) := by
  obtain ⟨-, ⟨heard, reached, same, closed⟩, ⟨earlier, waiting, split, delayed, queued⟩,
    closes, answered, last⟩ := shifts
  refine ⟨heard, reached, ?_, fun listed => ?_⟩
  · have served := reduceOption_served ((releases marks).map Stamped.event) closes
    rw [List.map_map] at served
    calc (readies answers).reduceOption ++ this.queue.map Prod.snd
        = (releases marks).map Stamped.event ++ this.queue.map Prod.snd := by
          rw [answered]
          exact congrArg (· ++ _) served
      _ = earlier.map Stamped.event ++ waiting.map Stamped.event := by
          rw [events_of_delayed delayed, queued, List.map_map]
          rfl
      _ = (readies heard).reduceOption := by rw [← List.map_append, ← split, same]
  · have positive : 0 < closes := by
      rw [answered] at listed
      rcases List.mem_append.mp listed with event | close
      · obtain ⟨_, -, none⟩ := List.mem_map.mp event
        cases none
      · exact Nat.pos_of_ne_zero (List.mem_replicate.mp close).1
    obtain ⟨finished, empty⟩ := last positive
    rw [if_pos finished] at closed
    obtain ⟨before, ended, -⟩ := closed
    rw [ended]
    exact ⟨empty, List.mem_append_right _ (List.mem_singleton_self _)⟩

/-! ### The order of the queue -/

/-- The deadlines are in order, and none is later than an event read now would have. -/
structure Orderly (this : DelayView S T E) : Prop where
  clock : ∀ reading, this.clock.get reading ≤ this.clock.get (reading + 1)
  sorted : this.queue.Pairwise fun one two => one.1 ≤ two.1
  timely : ∀ entry ∈ this.queue, entry.1 ≤ this.clock.head + this.duration

omit [PollStream S (Event T E)] in
theorem Orderly.head_le {this : DelayView S T E} (orderly : Orderly this) (readings : Nat) :
    this.clock.head ≤ (this.clock.drop readings).head := by
  rw [Stream'.head_drop]
  induction readings with
  | zero => exact le_rfl
  | succ readings ih => exact Nat.le_trans ih (orderly.clock readings)

omit [PollStream S (Event T E)] in
/-- Time passes. -/
theorem Orderly.later {this : DelayView S T E} (orderly : Orderly this) (readings : Nat)
    (source : S) (finished : Bool) :
    Orderly { this with
      source := source, finished := finished, clock := this.clock.drop readings } where
  clock reading := by
    have kept := orderly.clock (readings + reading)
    simpa [Stream'.get_drop, Nat.add_assoc, Nat.add_comm, Nat.add_left_comm] using kept
  sorted := orderly.sorted
  timely entry listed :=
    Nat.le_trans (orderly.timely entry listed)
      (Nat.add_le_add_right (orderly.head_le readings) _)

omit [PollStream S (Event T E)] in
theorem Orderly.release {this : DelayView S T E} (orderly : Orderly this)
    {entry : Nat × Event T E} {queue : List (Nat × Event T E)}
    (head : this.queue = entry :: queue) : Orderly { this with queue := queue } where
  clock := orderly.clock
  sorted := by
    have sorted := orderly.sorted
    rw [head] at sorted
    exact sorted.of_cons
  timely other listed := orderly.timely other (head ▸ List.mem_cons_of_mem _ listed)

omit [PollStream S (Event T E)] in
/-- An event that is read now is due last. -/
theorem Orderly.take {this : DelayView S T E} (orderly : Orderly this) (event : Event T E) :
    Orderly { this with
      queue := this.queue ++ [(this.clock.head + this.duration, event)] } where
  clock := orderly.clock
  sorted := by
    refine List.pairwise_append.mpr ⟨orderly.sorted, List.pairwise_singleton .., ?_⟩
    intro one listed two last
    rw [List.mem_singleton.mp last]
    exact orderly.timely one listed
  timely entry listed := by
    rcases List.mem_append.mp listed with earlier | last
    · exact orderly.timely entry earlier
    · rw [List.mem_singleton.mp last]

/-- One turn. -/
theorem Orderly.turn {cx : Context} {read : Nat} {this : DelayView S T E}
    {more : List (DelayMark T E)} {turned : Turn (Nat × Delay S T E) (Answer T E)}
    (orderly : Orderly this) (turns : DelayTurn cx read this more turned) :
    match turned with
    | .again (_, next) => Orderly next.view
    | .leave _ (_, next) => Orderly next.view := by
  cases turns with
  | released head due seen =>
      dsimp only
      rw [seen]
      exact (orderly.release head).later 1 _ _
  | closed empty finished seen =>
      dsimp only
      rw [seen]
      exact orderly
  | @took event source readings next unfinished few polled seen =>
      dsimp only
      rw [seen]
      exact ((orderly.later readings source this.finished).take event).later 1 _ _
  | ended unfinished polled seen =>
      dsimp only
      rw [seen]
      exact orderly.later _ _ _
  | waited idle waits =>
      cases waits with
      | again seen | leave seen =>
          dsimp only
          rw [seen]
          exact orderly.later _ _ _

/-- The queue is in the order of its deadlines. -/
theorem delay_orderly {runtime : Runtime}
    (clock : ∀ reading, runtime.clock.get reading ≤ runtime.clock.get (reading + 1))
    {contexts : List Context} {this : Delay S T E}
    (returned : pollAll pollNext contexts (Delay.new source duration runtime) =
      some (answers, this)) : Orderly this.view := by
  refine pollAll_rule (fun start _ (this : Delay S T E) => Orderly start.view → Orderly this.view)
    (fun _ => id) ?_ returned ⟨clock, .nil, nofun⟩
  intro cx start answer next answers final polled later orderly
  obtain ⟨read, looped⟩ := Delay.pollNext_eq polled
  apply later
  refine loop_rule (fun here => Orderly here.2.view) (fun _ here => Orderly here.2.view)
    ?_ ?_ orderly looped
  · intro here next orderly turn_eq
    exact orderly.turn (Delay.turn_cases turn_eq)
  · intro here answer next orderly turn_eq
    exact orderly.turn (Delay.turn_cases turn_eq)

/-! ### Reading ahead -/

/-- A turn reads one event at most, and none once the poll has read its share. -/
theorem reads_marks_le (cx : Context) (read : Nat) (this : DelayView S T E) :
    (reads (this.marks cx read)).length ≤ delayReadAhead - read := by
  have each : ∀ view : DelayView S T E,
      (reads (view.readMarks cx read)).length ≤ delayReadAhead - read := by
    intro view
    unfold DelayView.readMarks
    split
    · rename_i reading
      have few := of_decide_eq_true (Bool.and_eq_true_iff.mp reading).2
      split
      · exact Nat.sub_pos_of_lt few
      · exact Nat.zero_le _
    · exact Nat.zero_le _
  unfold DelayView.marks
  split
  · split
    · exact Nat.zero_le _
    · exact each _
  · split
    · exact Nat.zero_le _
    · exact each _

theorem DelayTurn.reads_le {cx : Context} {read count : Nat} {this : DelayView S T E}
    {noted : List (DelayMark T E)} {next : Delay S T E}
    (turns : DelayTurn cx read this noted (.again (count, next))) :
    (reads noted).length + (delayReadAhead - count) ≤ delayReadAhead - read := by
  cases turns with
  | took _ few =>
      rw [reads_read, List.length_singleton]
      omega
  | ended => exact Nat.le_of_eq (Nat.zero_add _)
  | waited _ waits =>
      cases waits
      exact Nat.le_of_eq (Nat.zero_add _)

theorem reads_loop_le (cx : Context) (turns read : Nat) (this : Delay S T E) :
    (reads (loopNotes (fun here : Nat × Delay S T E => here.2.view.marks cx here.1)
      (fun here => Delay.turn cx here.1 here.2) turns (read, this))).length ≤
        delayReadAhead - read := by
  -- on the turns; what is left of the share pays for the events of the later ones
  induction turns generalizing read this with
  | zero => exact Nat.zero_le _
  | succ turns ih =>
      match turn_eq : this.turn cx read with
      | some (.again (count, next)) =>
          rw [loopNotes_again turn_eq, reads_append, List.length_append]
          have now := (Delay.turn_cases turn_eq).reads_le
          have rest := ih count next
          exact Nat.le_trans (Nat.add_le_add_left rest _) now
      | some (.leave _ _) | none =>
          rw [loopNotes, turn_eq, List.append_nil]
          exact reads_marks_le cx read this.view

theorem poll_of_leave {cx : Context} (turns : 0 < cx.turns) {this next : Delay S T E}
    {answer : Answer T E} {read : Nat}
    (leaves : this.turn cx 0 = some (.leave answer (read, next))) :
    pollNext cx this = some (answer, next) := by
  have looped : loop (fun here : Nat × Delay S T E => here.2.turn cx here.1) cx.turns (0, this) =
    some (answer, read, next) := loop_leave leaves turns
  exact congrArg (Option.map _) looped

/-- An event that is due is released by the next poll. -/
theorem poll_due {cx : Context} (turns : 0 < cx.turns) {this : Delay S T E} {deadline : Nat}
    {event : Event T E} {queue : List (Nat × Event T E)}
    (head : this.queue = (deadline, event) :: queue) (due : deadline ≤ this.runtime.now.1) :
    ∃ next, pollNext cx this = some (.ready (some event), next) := by
  have leaves : this.turn cx 0 = some (.leave (.ready (some event)) (0,
      { this with queue := queue, sleep := none, runtime := this.runtime.now.2 })) := by
    unfold Delay.turn
    rw [head]
    exact if_pos due
  exact ⟨_, poll_of_leave turns leaves⟩

/-- The close follows when nothing is queued. -/
theorem poll_closed {cx : Context} (turns : 0 < cx.turns) {this : Delay S T E}
    (empty : this.queue = []) (finished : this.sourceFinished = true) :
    ∃ next, pollNext cx this =
      some ((.ready none : Answer T E), next) := by
  have leaves : this.turn cx 0 = some (.leave (.ready none : Answer T E)
      (0, { this with sleep := none })) := by
    unfold Delay.turn
    rw [empty]
    exact if_pos finished
  exact ⟨_, poll_of_leave turns leaves⟩

/-! ### All of it -/

/-- What `delay` makes of a source, by the polls that return. -/
structure OnlyShifts (source : S) (duration : Nat) (runtime : Runtime) : Prop where
  /-- What was answered and what is queued are the events the source has answered, in
  order; the close is answered once the source has closed and nothing is queued. -/
  emits : ∀ contexts answers (this : Delay S T E),
    pollAll pollNext contexts (Delay.new source duration runtime) =
      some (answers, this) →
    ∃ heard, Reached pollNext (fun _ => True) source heard this.source ∧
      (readies answers).reduceOption ++ this.queue.map Prod.snd = (readies heard).reduceOption ∧
      (none ∈ readies answers → this.queue = [] ∧ none ∈ readies heard)
  /-- The events that are answered are released, each no earlier than its delay after the
  reading of the clock when it was read; nothing follows the close. -/
  delays : ∀ contexts answers (this : Delay S T E),
    pollAll pollNext contexts (Delay.new source duration runtime) =
      some (answers, this) →
    Shifts source duration answers
      (pollNotes pollNext Delay.pollMarks contexts
        (Delay.new source duration runtime : Delay S T E)) this.view
  /-- With a clock that does not go back, the deadlines in the queue do not either. -/
  ordered : (∀ reading, runtime.clock.get reading ≤ runtime.clock.get (reading + 1)) →
    ∀ contexts answers (this : Delay S T E),
      pollAll pollNext contexts (Delay.new source duration runtime) =
        some ((answers : List (Answer T E)), this) →
      this.queue.Pairwise fun one two => one.1 ≤ two.1
  /-- The head of the queue is released once it is due, and the close follows the last. -/
  releases : ∀ contexts answers (this : Delay S T E),
    pollAll pollNext contexts (Delay.new source duration runtime) =
      some ((answers : List (Answer T E)), this) →
    ∀ cx : Context, 0 < cx.turns →
      (∀ deadline event queue, this.queue = (deadline, event) :: queue →
        deadline ≤ this.runtime.now.1 →
        ∃ next, pollNext cx this = some (.ready (some event), next)) ∧
      (this.queue = [] → this.sourceFinished = true →
        ∃ next, pollNext cx this =
          some ((.ready none : Answer T E), next))
  /-- A poll reads a bounded number of events. -/
  readsAhead : ∀ contexts answers (this : Delay S T E),
    pollAll pollNext contexts (Delay.new source duration runtime) =
      some ((answers : List (Answer T E)), this) →
    ∀ cx, (reads (this.pollMarks cx)).length ≤ delayReadAhead

/-- `delay` shifts in time and does nothing else. -/
theorem delay_only_shifts_in_time (source : S) (duration : Nat) (runtime : Runtime) :
    OnlyShifts source duration runtime where
  emits := by
    intro contexts answers this returned
    exact (delay_shifts returned).events
  delays := by
    intro contexts answers this returned
    exact delay_shifts returned
  ordered := by
    intro clock contexts answers this returned
    exact (delay_orderly clock returned).sorted
  releases := by
    intro contexts answers this _ cx turns
    refine ⟨fun deadline event queue head due => ?_, fun empty finished => ?_⟩
    · exact poll_due turns head due
    · exact poll_closed turns empty finished
  readsAhead := by
    intro contexts answers this _ cx
    exact reads_loop_le cx cx.turns 0 this

end Turns

/-- Two events, read at once and released one after the other. -/
theorem delay_of_two_events :
    let source : Source (Event Nat Unit) :=
      { items := [.next 1, .complete], schedule := Stream'.const true }
    let runtime : Runtime :=
      { timers := Stream'.const (Stream'.const false), clock := fun reading => reading }
    let cx : Context := { waker := 0, turns := 4 }
    ∃ answers this, pollAll pollNext [cx, cx, cx]
        (Delay.new source 2 runtime : Delay _ Nat Unit) = some (answers, this) ∧
      answers = [.ready (some (.next 1)), .ready (some .complete), .ready none] ∧
      this.queue.Pairwise fun one two => one.1 ≤ two.1 := by
  intro source runtime cx
  have shifts := delay_only_shifts_in_time source 2 runtime
  refine ⟨_, _, rfl, rfl, ?_⟩
  exact shifts.ordered (fun reading => Nat.le_succ reading) [cx, cx, cx] _ _ rfl

end IceRpc.Rx
