/-
Module: IceRpc.Proofs.PastTheEnd
Purpose: Reading an observable past its end: what repeated calls of `next` and
  `next_blocking` answer for everything the sender clones of a channel may push, and
  that an event pushed after the first terminal is still handed out.
Trusted boundary: none
Main exports: reading, Quiet, ChannelStream.next_cases, ChannelStream.run_reads,
  reading_past_the_end_iff
-/
import IceRpc.Rx.Channel

namespace IceRpc.Rx

open Lib

variable {T E : Type}

/-! ### What a reader is to be answered -/

/-- The error that reports a close without a terminal. -/
def abruptEnd : NextResult T E :=
  some (.error (.technical (.transportError "stream closed before completion")))

/-- The first answers to the reader of a stream of events: the values up to the first
terminal, its error if it is one, the report of a close without a terminal, and `None`
for ever. -/
def reading : Nat → List (Event T E) → List (NextResult T E)
  | 0, _ => []
  | calls + 1, [] => abruptEnd :: List.replicate calls none
  | calls + 1, .next value :: events => some (.ok value) :: reading calls events
  | calls + 1, .complete :: _ => List.replicate (calls + 1) none
  | calls + 1, .error err :: _ => some (.error err) :: List.replicate calls none

/-- Nothing but further Completes follows the first terminal. -/
def Quiet : List (Event T E) → Prop
  | [] => True
  | event :: events =>
      if event.isTerminal then ∀ later ∈ events, later = .complete else Quiet events

/-- What `next` answers for one event. -/
def answerOf : Event T E → NextResult T E
  | .next value => some (.ok value)
  | .complete => none
  | .error err => some (.error err)

theorem answerOf_eq_none_iff {event : Event T E} : answerOf event = none ↔ event = .complete := by
  cases event <;> simp [answerOf]

theorem Quiet.of_append {events more : List (Event T E)} (quiet : Quiet (events ++ more)) :
    Quiet events := by
  induction events with
  | nil => trivial
  | cons event events ih =>
      rw [List.cons_append, Quiet] at quiet
      rw [Quiet]
      split at quiet
      · rename_i ends
        rw [if_pos ends]
        exact fun later listed => quiet later (List.mem_append_left _ listed)
      · rename_i going
        rw [if_neg going]
        exact ih quiet

theorem map_answerOf_eq_replicate_iff {events : List (Event T E)} :
    events.map answerOf = List.replicate events.length none ↔
      ∀ event ∈ events, event = .complete := by
  rw [List.map_eq_replicate_iff]
  simp only [answerOf_eq_none_iff]

/-- Of a stream that is quiet after its end, the answers to the events read are those
the reader is to have. -/
theorem reading_append {read : List (Event T E)} (quiet : Quiet read) (calls : Nat)
    (rest : List (Event T E)) :
    reading (read.length + calls) (read ++ rest) =
      read.map answerOf ++
        if read.any Event.isTerminal then List.replicate calls none
        else reading calls rest := by
  induction read with
  | nil => simp
  | cons event read ih =>
      have moved : (event :: read).length + calls = (read.length + calls) + 1 := by
        rw [List.length_cons]
        omega
      rw [moved]
      cases event with
      | next value =>
          have later := ih quiet
          simp only [List.cons_append, reading, later, List.map_cons, List.any_cons,
            Event.isTerminal_next, Bool.false_or, answerOf]
      | complete =>
          have nothing := map_answerOf_eq_replicate_iff.mpr quiet
          simp only [List.cons_append, reading, List.map_cons, List.any_cons,
            Event.isTerminal_complete, Bool.true_or, if_true, answerOf, nothing,
            List.replicate_succ, List.replicate_append_replicate]
      | error err =>
          have nothing := map_answerOf_eq_replicate_iff.mpr quiet
          simp only [List.cons_append, reading, List.map_cons, List.any_cons,
            Event.isTerminal_error, Bool.true_or, if_true, answerOf, nothing,
            List.replicate_append_replicate]

/-- A stream whose events are all answered as they are to be is quiet after its end. -/
theorem quiet_of_reading {events : List (Event T E)}
    (asRead : events.map answerOf = reading events.length events) : Quiet events := by
  induction events with
  | nil => trivial
  | cons event events ih =>
      cases event with
      | next value =>
          have later := (List.cons.inj asRead).2
          exact ih later
      | complete =>
          have later := (List.cons.inj asRead).2
          exact map_answerOf_eq_replicate_iff.mp later
      | error err =>
          have later := (List.cons.inj asRead).2
          exact map_answerOf_eq_replicate_iff.mp later

/-! ### What a reader is answered -/

namespace ChannelStream

variable {this after : ChannelStream T E}

/-- A call of `next` that returns: it hands out the next event, whatever came before
it, or reports the close of an empty channel. -/
theorem next_cases {answer : NextResult T E} (returned : this.next = some (answer, after)) :
    (∃ event queue, this.queue = event :: queue ∧ answer = answerOf event ∧
      after = { this with queue := queue, terminated := this.terminated || event.isTerminal }) ∨
    (this.queue = [] ∧ this.senders = 0 ∧
      answer = (if this.terminated then none else abruptEnd) ∧
      after = { this with terminated := true }) := by
  obtain ⟨queue, capacity, senders, terminated⟩ := this
  simp only [next, recv, receive, Option.map_map] at returned
  cases queue with
  | cons event queue =>
      refine .inl ⟨event, queue, rfl, ?_⟩
      cases event <;> cases terminated <;> cases returned <;> exact ⟨rfl, rfl⟩
  | nil =>
      simp only at returned
      split at returned
      · rename_i closed
        refine .inr ⟨rfl, closed, ?_⟩
        cases terminated <;> cases returned <;> exact ⟨rfl, rfl⟩
      · cases returned

/-- A call of `next` or of its blocking twin returns exactly if an event is queued or the
channel is closed. -/
theorem next_returns_iff (this : ChannelStream T E) :
    this.nextBlocking = this.next ∧ (this.next.isSome ↔ this.queue ≠ [] ∨ this.senders = 0) := by
  refine ⟨rfl, ?_⟩
  obtain ⟨queue, capacity, senders, terminated⟩ := this
  simp only [next, recv, receive, Option.isSome_map]
  cases queue with
  | cons event queue => simp
  | nil => by_cases closed : senders = 0 <;> simp [closed]

/-- What the calls answered once the channel was found empty and closed. -/
def closing (read : List (Event T E)) (calls : Nat) : List (NextResult T E) :=
  if read.any Event.isTerminal then List.replicate calls none else reading calls []

/-- The events pushed are those read and those queued; the answers are those of the
events read, and then those of a closed channel. -/
structure Reads (past : List (ChannelAction T E)) (written : List (NextResult T E))
    (this : ChannelStream T E) : Prop where
  split : ∃ read calls, past.filterMap ChannelAction.pushed = read ++ this.queue ∧
    written = read.map answerOf ++ closing read calls ∧
    this.terminated = (read.any Event.isTerminal || decide (0 < calls)) ∧
    (0 < calls → this.queue = [] ∧ this.senders = 0)

theorem closing_zero (read : List (Event T E)) : closing read 0 = [] := by
  unfold closing
  split <;> rfl

theorem reading_length (calls : Nat) (events : List (Event T E)) :
    (reading calls events).length = calls := by
  induction calls generalizing events with
  | zero => rfl
  | succ calls ih =>
      cases events with
      | nil => simp [reading]
      | cons event events => cases event <;> simp [reading, ih]

theorem closing_length (read : List (Event T E)) (calls : Nat) :
    (closing read calls).length = calls := by
  unfold closing
  split
  · exact List.length_replicate
  · exact reading_length calls []

theorem closing_succ (read : List (Event T E)) (calls : Nat) :
    closing read (calls + 1) = closing read calls ++
      [if read.any Event.isTerminal || decide (0 < calls) then none else abruptEnd] := by
  unfold closing
  cases read.any Event.isTerminal with
  | true => simp [List.replicate_succ']
  | false =>
      cases calls with
      | zero => rfl
      | succ calls => simp [reading, List.replicate_succ']

theorem Reads.next {past : List (ChannelAction T E)} {written : List (NextResult T E)}
    {action : ChannelAction T E} {answer : NextResult T E} (silent : action.pushed = none)
    (reads : Reads past written this) (returned : this.next = some (answer, after)) :
    Reads (past ++ [action]) (written ++ [answer]) after := by
  obtain ⟨read, calls, pushed, answers, terminated, closed⟩ := reads.split
  have same : (past ++ [action]).filterMap ChannelAction.pushed = read ++ this.queue := by
    rw [List.filterMap_append, pushed]
    simp [silent]
  rcases next_cases returned with ⟨event, queue, queued, rfl, rfl⟩ | ⟨empty, gone, rfl, rfl⟩
  · -- an event is queued, so no call has found the channel closed
    have none_ : calls = 0 := by
      by_contra some_
      have empty := (closed (Nat.pos_of_ne_zero some_)).1
      rw [queued] at empty
      cases empty
    subst none_
    refine ⟨read ++ [event], 0, ?_, ?_, ?_, fun more => absurd more (Nat.lt_irrefl 0)⟩
    · rw [same, queued]
      simp
    · rw [answers, closing_zero, closing_zero]
      simp
    · rw [terminated]
      simp
  · refine ⟨read, calls + 1, same, ?_, ?_, fun _ => ⟨empty, gone⟩⟩
    · rw [answers, closing_succ, ← terminated, List.append_assoc]
    · simp

/-- A step that answers nothing and reads nothing. -/
theorem Reads.silent {past : List (ChannelAction T E)} {written : List (NextResult T E)}
    {action : ChannelAction T E} (reads : Reads past written this)
    (queue : after.queue = this.queue ++ action.pushed.toList)
    (terminated : after.terminated = this.terminated)
    (open_ : 0 < this.senders) : Reads (past ++ [action]) (written ++ []) after := by
  obtain ⟨read, calls, pushed, answers, flag, closed⟩ := reads.split
  have none_ : calls = 0 := by
    by_contra some_
    have gone := (closed (Nat.pos_of_ne_zero some_)).2
    omega
  subst none_
  refine ⟨read, 0, ?_, ?_, ?_, fun more => absurd more (Nat.lt_irrefl 0)⟩
  · rw [List.filterMap_append, pushed, queue, List.append_assoc]
    cases sent : action.pushed <;> simp [sent]
  · rw [List.append_nil, answers]
  · rw [terminated, flag]

theorem step_reads {past : List (ChannelAction T E)} {written : List (NextResult T E)}
    {action : ChannelAction T E} (reads : Reads past written this)
    (performed : this.step action = some after) :
    Reads (past ++ [action]) (written ++ this.answered action) after := by
  cases action with
  | cloneSender =>
      simp only [step, cloneSender] at performed
      split at performed
      · cases performed
      · rename_i alive
        cases performed
        exact reads.silent (List.append_nil _).symm rfl (Nat.pos_of_ne_zero alive)
  | push event =>
      simp only [step, sendEvent] at performed
      split at performed
      · cases performed
      · rename_i possible
        cases performed
        rw [not_or] at possible
        exact reads.silent rfl rfl (Nat.pos_of_ne_zero possible.1)
  | dropSender =>
      simp only [step, dropSender] at performed
      split at performed
      · cases performed
      · rename_i alive
        cases performed
        exact reads.silent (List.append_nil _).symm rfl (Nat.pos_of_ne_zero alive)
  | next =>
      obtain ⟨⟨answer, _⟩, returned, rfl⟩ := Option.map_eq_some_iff.mp performed
      have written : this.answered .next = [answer] := by
        simp only [answered, returned, Option.map_some, Option.toList_some]
      rw [written]
      exact reads.next rfl returned
  | nextBlocking =>
      obtain ⟨⟨answer, _⟩, returned, rfl⟩ := Option.map_eq_some_iff.mp performed
      have written : this.answered .nextBlocking = [answer] := by
        simp only [answered, returned, Option.map_some, Option.toList_some]
      rw [written]
      exact reads.next rfl returned

theorem run_reads {capacity : Option Nat} {actions : List (ChannelAction T E)}
    {final : ChannelStream T E} (performed : run step (new capacity) actions = some final) :
    Reads actions (answers (new capacity) actions) final := by
  refine run_trail_invariant answered Reads ?_ ?_ performed
  · exact ⟨[], 0, rfl, rfl, rfl, fun more => absurd more (Nat.lt_irrefl 0)⟩
  · intro past written this action after reads moved
    exact step_reads reads moved

/-- Of a stream that is quiet after its end, every run answers as it is to. -/
theorem answers_eq_reading {capacity : Option Nat} {actions : List (ChannelAction T E)}
    {final : ChannelStream T E} (performed : run step (new capacity) actions = some final)
    (quiet : Quiet (actions.filterMap ChannelAction.pushed)) :
    answers (new capacity) actions =
      reading (answers (new capacity) actions).length
        (actions.filterMap ChannelAction.pushed) := by
  obtain ⟨read, calls, pushed, answers, -, closed⟩ := (run_reads performed).split
  rw [pushed] at quiet ⊢
  have asRead := reading_append quiet.of_append calls final.queue
  have atEnd : closing read calls = if read.any Event.isTerminal then
      List.replicate calls none else reading calls final.queue := by
    cases calls with
    | zero =>
        rw [closing_zero]
        split <;> simp [reading]
    | succ calls => rw [(closed (Nat.succ_pos calls)).1, closing]
  rw [← atEnd] at asRead
  rw [answers, List.length_append, List.length_map, closing_length, asRead]

/-! ### A reader of everything -/

/-- All events are pushed into a channel without a bound, and then as many are read. -/
def pushThenRead (events : List (Event T E)) : List (ChannelAction T E) :=
  events.map .push ++ List.replicate events.length .next

/-- A channel without a bound, with one sender. -/
def holding (queue : List (Event T E)) (terminated : Bool) : ChannelStream T E :=
  { queue := queue, capacity := none, senders := 1, terminated := terminated }

theorem run_push (events queue : List (Event T E)) :
    run step (holding queue false) (events.map .push) =
        some (holding (queue ++ events) false) ∧
      trail step answered (holding queue false) (events.map .push) = [] := by
  induction events generalizing queue with
  | nil => exact ⟨by rw [List.append_nil]; rfl, rfl⟩
  | cons event events ih =>
      obtain ⟨performed, silent⟩ := ih (queue ++ [event])
      rw [List.append_assoc, List.singleton_append] at performed
      exact ⟨performed, silent⟩

theorem run_read (events : List (Event T E)) (terminated : Bool) :
    ∃ final, run step (holding events terminated) (List.replicate events.length .next) =
        some final ∧
      trail step answered (holding events terminated) (List.replicate events.length .next) =
        events.map answerOf := by
  induction events generalizing terminated with
  | nil => exact ⟨_, rfl, rfl⟩
  | cons event events ih =>
      obtain ⟨final, performed, answers⟩ := ih (terminated || event.isTerminal)
      have returned : (holding (event :: events) terminated).next =
          some (answerOf event, holding events (terminated || event.isTerminal)) := by
        cases event <;> cases terminated <;> rfl
      refine ⟨final, ?_, ?_⟩
      · simp only [List.length_cons, List.replicate_succ, run_cons, step, returned,
          Option.map_some, Option.bind_some, performed]
      · simp only [List.length_cons, List.replicate_succ, trail, step, answered, returned,
          Option.map_some, Option.toList_some, answers, List.map_cons,
          List.singleton_append]

theorem pushThenRead_answers (events : List (Event T E)) :
    (∃ final, run step (new none) (pushThenRead events) = some final) ∧
      answers (new none) (pushThenRead events) = events.map answerOf := by
  obtain ⟨pushed, silent⟩ := run_push events []
  obtain ⟨final, performed, answered⟩ := run_read events false
  refine ⟨⟨final, run_append_eq_some.mpr ⟨_, pushed, performed⟩⟩, ?_⟩
  have split := trail_append ChannelStream.answered
    (List.replicate events.length .next) pushed
  rw [silent, List.nil_append, List.nil_append, answered] at split
  exact split

theorem pushThenRead_pushed (events : List (Event T E)) :
    (pushThenRead events).filterMap ChannelAction.pushed = events := by
  rw [pushThenRead, List.filterMap_append, List.filterMap_map]
  have pushes : events.filterMap (ChannelAction.pushed ∘ ChannelAction.push) = events :=
    List.filterMap_some
  have reads : (List.replicate events.length (.next : ChannelAction T E)).filterMap
      ChannelAction.pushed = [] := by
    rw [List.filterMap_replicate_of_none rfl]
  rw [pushes, reads, List.append_nil]

end ChannelStream

/-- **Reading past the end.** Whatever the sender clones of a channel push, and whenever
they are dropped: in every run the calls of `next` and `next_blocking` answer each value
up to the first terminal, its error once, or one technical error for a close without a
terminal, and then `None` for ever, exactly if nothing but further Completes is pushed
after the first terminal. -/
theorem reading_past_the_end_iff (events : List (Event T E)) :
    (∀ (capacity : Option Nat) (actions : List (ChannelAction T E))
        (final : ChannelStream T E),
      run ChannelStream.step (.new capacity) actions = some final →
      actions.filterMap ChannelAction.pushed = events →
      ChannelStream.answers (.new capacity) actions =
        reading (ChannelStream.answers (.new capacity) actions).length events) ↔
    Quiet events := by
  constructor
  · intro asRead
    obtain ⟨⟨final, performed⟩, answers⟩ := ChannelStream.pushThenRead_answers events
    have all := asRead none _ final performed (ChannelStream.pushThenRead_pushed events)
    rw [answers, List.length_map] at all
    exact quiet_of_reading all
  · intro quiet capacity actions final performed pushed
    rw [← pushed] at quiet ⊢
    exact ChannelStream.answers_eq_reading performed quiet

/-- A value that is pushed after a Complete is returned, after the `None`. -/
theorem reading_past_a_complete :
    ChannelStream.answers (.new none)
        (ChannelStream.pushThenRead [(.complete : Event Nat String), .next 5]) =
      [none, some (.ok 5)] ∧
    reading 2 [(.complete : Event Nat String), .next 5] = [none, none] := by
  exact ⟨rfl, rfl⟩

end IceRpc.Rx
