/-
Module: IceRpc.Rx.Course
Purpose: Well-formed streams: values, and then a terminal event or the bare end.  What a
  poll can answer of such a stream, and the rule for operators that are built on one.
Trusted boundary: human-reviewed spec for the courses and the meter
Main exports: StreamEnd, Course, Course.events, emitted, Ongoing, StoppedWith, Ended,
  concluded_of_reached, ended_of_reached, Told, Reads, steps_of_told, Makes,
  makes_of_step, WithTurns, Metered
-/
import IceRpc.Lib.Draining
import IceRpc.Rx.Stream

namespace IceRpc.Rx

open Lib
open PollStream (pollNext)

/-! ### Courses -/

/-- How a stream ends: with a terminal event, or without one. -/
inductive StreamEnd (E : Type) where
  | complete
  | error (error : ObservableError E)
  | closed
deriving Repr, DecidableEq

/-- What a well-formed stream is going to deliver: its values, and its end. -/
structure Course (T E : Type) where
  values : List T
  ending : StreamEnd E
deriving Repr, DecidableEq

variable {S O T E Out : Type}

def StreamEnd.events : StreamEnd E → List (Event T E)
  | .complete => [.complete]
  | .error err => [.error err]
  | .closed => []

def Course.events (course : Course T E) : List (Event T E) :=
  course.values.map .next ++ course.ending.events

/-- The values among the answers of a stream. -/
def emitted (answers : List (Answer T E)) : List T :=
  answers.filterMap fun
    | .ready (some (.next value)) => some value
    | _ => none

/-- The answer is the terminal event or the end. -/
def concludes : Answer T E → Bool
  | .pending => false
  | .ready none => true
  | .ready (some event) => event.isTerminal

/-- How the last answer of a stream with this end reads. -/
def StreamEnd.last : StreamEnd E → Option (Event T E)
  | .complete => some .complete
  | .error err => some (.error err)
  | .closed => none

theorem StreamEnd.last_injective {ending other : StreamEnd E}
    (same : (ending.last : Option (Event T E)) = other.last) : ending = other := by
  match ending, other with
  | .complete, .complete => rfl
  | .error _, .error _ =>
      cases same
      rfl
  | .closed, .closed => rfl

theorem StreamEnd.concludes_last (ending : StreamEnd E) :
    concludes (.ready (ending.last : Option (Event T E))) = true := by
  cases ending <;> rfl

/-- Nothing but values so far. -/
def Ongoing (answers : List (Answer T E)) : Prop :=
  ∀ answer ∈ answers, concludes answer = false

theorem Ongoing.snoc {answers : List (Answer T E)}
    {answer : Answer T E} (ongoing : Ongoing answers)
    (goes : concludes answer = false) : Ongoing (answers ++ [answer]) :=
  List.forall_mem_append.mpr ⟨ongoing, List.forall_mem_singleton.mpr goes⟩

/-- Values, and then this as the last answer. -/
def StoppedWith (last : Option (Event T E)) (answers : List (Answer T E)) :
    Prop :=
  ∃ before, answers = before ++ [.ready last] ∧ Ongoing before

/-- Values, and then an end that is no error. -/
def Ended (answers : List (Answer T E)) : Prop :=
  StoppedWith none answers ∨ StoppedWith (some .complete) answers

/-- One more poll after the end. -/
theorem after_end (before : List (Answer T E)) (last : Answer T E)
    (ends : Nat) :
    before ++ last :: List.replicate ends (.ready none) ++ [.ready none] =
      before ++ last :: List.replicate (ends + 1) (.ready none) := by
  rw [List.replicate_succ', List.append_assoc, List.cons_append]

theorem emitted_append (answers more : List (Answer T E)) :
    emitted (answers ++ more) = emitted answers ++ emitted more :=
  List.filterMap_append

theorem emitted_concluding {answer : Answer T E}
    (concluding : concludes answer = true) : emitted [answer] = [] := by
  match answer with
  | .ready none | .ready (some .complete) | .ready (some (.error _)) => rfl

theorem readies_append {α : Type} (answers more : List (Poll α)) :
    readies (answers ++ more) = readies answers ++ readies more := by
  induction answers with
  | nil => rfl
  | cons answer answers ih =>
      match answer with
      | .pending => exact ih
      | .ready value => exact congrArg (value :: ·) ih

/-- What is answered while a stream is going on. -/
theorem Ongoing.readies_eq {answers : List (Answer T E)}
    (ongoing : Ongoing answers) :
    readies answers = (emitted answers).map fun value => some (.next value) := by
  induction answers with
  | nil => rfl
  | cons answer answers ih =>
      obtain ⟨goes, rest⟩ := List.forall_mem_cons.mp ongoing
      match answer with
      | .pending => exact ih rest
      | .ready (some (.next value)) => exact congrArg (some (.next value) :: ·) (ih rest)

/-! ### Closures -/

section Closures

variable {F A B : Type}

/-- What the calls of a closure return, one after the other. -/
def calls [FnMut F A B] (f : F) : List A → List B
  | [] => []
  | value :: values => (FnMut.call f value).1 :: calls (FnMut.call f value).2 values

/-- The closure after these calls. -/
def called [FnMut F A B] (f : F) : List A → F
  | [] => f
  | value :: values => called (FnMut.call f value).2 values

theorem called_eq_self (f : A → B) (values : List A) : called f values = f := by
  induction values with
  | nil => rfl
  | cons value values ih => exact ih

theorem calls_length [FnMut F A B] (f : F) (values : List A) :
    (calls f values).length = values.length := by
  induction values generalizing f with
  | nil => rfl
  | cons first values ih => exact congrArg (· + 1) (ih _)

theorem calls_append [FnMut F A B] (f : F) (values more : List A) :
    calls f (values ++ more) = calls f values ++ calls (called f values) more := by
  induction values generalizing f with
  | nil => rfl
  | cons first values ih => exact congrArg ((FnMut.call f first).1 :: ·) (ih _)

theorem called_snoc [FnMut F A B] (f : F) (values : List A) (value : A) :
    called f (values ++ [value]) = (FnMut.call (called f values) value).2 := by
  induction values generalizing f with
  | nil => rfl
  | cons first values ih => exact ih _

end Closures

/-! ### What was answered -/

/-- The value of an answer that brings one. -/
def valueOf : Option (Event T E) → Option T
  | some (.next value) => some value
  | _ => none

theorem emitted_eq_filterMap (answers : List (Answer T E)) :
    emitted answers = (readies answers).filterMap valueOf := by
  induction answers with
  | nil => rfl
  | cons answer answers ih =>
      match answer with
      | .pending | .ready none | .ready (some .complete) | .ready (some (.error _)) => exact ih
      | .ready (some (.next value)) => exact congrArg (value :: ·) ih

/-- What a stream with this course answers after its values. -/
def Course.tail (course : Course T E) (ends : Nat) : List (Option (Event T E)) :=
  course.ending.events.map some ++ List.replicate ends none

theorem valueOf_tail {course : Course T E} {ends : Nat} {answer : Option (Event T E)}
    (listed : answer ∈ course.tail ends) : valueOf answer = none := by
  rcases List.mem_append.mp listed with event | nothing
  · obtain ⟨event, said, rfl⟩ := List.mem_map.mp event
    match course, said with
    | ⟨_, .complete⟩, said | ⟨_, .error _⟩, said =>
        rw [List.mem_singleton.mp said]
        rfl
  · rw [List.eq_of_mem_replicate nothing]
    rfl

theorem events_tail (course : Course T E) (ends : Nat) :
    course.events.map some ++ List.replicate ends none =
      course.values.map (fun value => some (.next value)) ++ course.tail ends := by
  rw [Course.events, List.map_append, List.map_map, List.append_assoc]
  rfl

section Histories

variable [PollStream S (Event T E)] {enough : Context → Prop} {course : Course T E}
  {start state : S} {answers : List (Answer T E)}

/-- The values emitted so far are first ones of the course. -/
theorem emitted_prefix_of_reached
    (served : Serves pollNext enough course.events start)
    (reached : Reached pollNext enough start answers state) :
    emitted answers <+: course.values := by
  obtain ⟨ends, now⟩ := reached.served served
  have part := now.filterMap valueOf
  have nothing : (course.tail ends).filterMap valueOf = [] :=
    List.filterMap_eq_nil_iff.mpr fun _ => valueOf_tail
  rw [events_tail, List.filterMap_append, nothing, List.append_nil, List.filterMap_map] at part
  rw [emitted_eq_filterMap]
  simpa [Function.comp_def, valueOf] using part

/-- The last answer of the stream comes after all its values, and is the one its course
says. -/
theorem concluded_of_reached {last : Option (Event T E)}
    (served : Serves pollNext enough course.events start) (ongoing : Ongoing answers)
    (reached : Reached pollNext enough start (answers ++ [.ready last]) state)
    (concluding : concludes (.ready last) = true) :
    emitted answers = course.values ∧ last = course.ending.last := by
  obtain ⟨ends, now⟩ := reached.served served
  rw [readies_append, ongoing.readies_eq, events_tail] at now
  obtain ⟨more, values⟩ := emitted_prefix_of_reached served reached
  rw [emitted_append, emitted_concluding concluding, List.append_nil] at values
  rw [← values, List.map_append, List.append_assoc, List.prefix_append_right_inj] at now
  match more with
  | value :: more =>
      cases (List.cons_prefix_cons.mp now).1
      cases concluding
  | [] =>
      refine ⟨(List.append_nil _).symm.trans values, ?_⟩
      match course, ends with
      | ⟨_, .complete⟩, _ | ⟨_, .error _⟩, _ | ⟨_, .closed⟩, _ + 1 =>
          exact (List.cons_prefix_cons.mp now).1
      | ⟨_, .closed⟩, 0 => cases List.prefix_nil.mp now

theorem stopped_of_reached {last : Option (Event T E)}
    (served : Serves pollNext enough course.events start)
    (reached : Reached pollNext enough start answers state)
    (stopped : StoppedWith last answers) (concluding : concludes (.ready last) = true) :
    emitted answers = course.values ∧ last = course.ending.last := by
  obtain ⟨before, rfl, ongoing⟩ := stopped
  obtain ⟨all, last_eq⟩ := concluded_of_reached served ongoing reached concluding
  refine ⟨?_, last_eq⟩
  rw [emitted_append, emitted_concluding concluding, List.append_nil, all]

/-- The error of a stream comes after all its values, and is the one of its course. -/
theorem error_of_reached {err : ObservableError E}
    (served : Serves pollNext enough course.events start) (ongoing : Ongoing answers)
    (reached : Reached pollNext enough start
      (answers ++ [.ready (some (.error err))]) state) :
    emitted answers = course.values ∧ course.ending = .error err := by
  obtain ⟨all, last⟩ := concluded_of_reached served ongoing reached rfl
  have same : (StreamEnd.error err).last = (course.ending.last : Option (Event T E)) := last
  exact ⟨all, (StreamEnd.last_injective same).symm⟩

/-- A stream that has ended without an error has emitted all its values. -/
theorem ended_of_reached
    (served : Serves pollNext enough course.events start)
    (reached : Reached pollNext enough start answers state) (ended : Ended answers) :
    emitted answers = course.values ∧ ∀ err, course.ending ≠ .error err := by
  have stopped : ∃ ending : StreamEnd E, StoppedWith ending.last answers ∧
      ∀ err, ending ≠ .error err := by
    rcases ended with stopped | stopped
    · exact ⟨.closed, stopped, nofun⟩
    · exact ⟨.complete, stopped, nofun⟩
  obtain ⟨ending, stopped, fine⟩ := stopped
  obtain ⟨all, last⟩ := stopped_of_reached served reached stopped ending.concludes_last
  rw [← StreamEnd.last_injective last]
  exact ⟨all, fine⟩

/-- A stream that is going on has had fewer polls than it takes to end. -/
theorem Ongoing.length_lt {polls : Nat} {items : List (Event T E)}
    (within : WithinLeft pollNext enough polls (some items) start)
    (reached : Reached pollNext enough start answers state)
    (ongoing : Ongoing answers) : answers.length < polls := by
  by_contra long
  have listed := reached.ended within (Nat.le_of_not_lt long)
  rw [ongoing.readies_eq] at listed
  obtain ⟨_, -, same⟩ := List.mem_map.mp listed
  cases same

theorem StoppedWith.length_le {polls : Nat} {items : List (Event T E)}
    {last : Option (Event T E)}
    (within : WithinLeft pollNext enough polls (some items) start)
    (reached : Reached pollNext enough start answers state)
    (stopped : StoppedWith last answers) : answers.length ≤ polls := by
  obtain ⟨before, rfl, ongoing⟩ := stopped
  obtain ⟨earlier, there⟩ := reached.before
  rw [List.length_append]
  exact ongoing.length_lt within there

end Histories

/-! ### What a poll can answer -/

/-- What an answer says of what is left of a well-formed stream: a course, or nothing
once its end was answered. -/
inductive Told (left : Option (Course T E) → S → Prop) :
    Option (Course T E) → Answer T E → S → Prop
  | pending {course : Option (Course T E)} {next : S} :
      left course next → Told left course .pending next
  | value {value : T} {values : List T} {ending : StreamEnd E} {next : S} :
      left (some ⟨values, ending⟩) next →
      Told left (some ⟨value :: values, ending⟩) (.ready (some (.next value))) next
  | complete {next : S} :
      left (some ⟨[], .closed⟩) next →
      Told left (some ⟨[], .complete⟩) (.ready (some .complete)) next
  | error {error : ObservableError E} {next : S} :
      left (some ⟨[], .closed⟩) next →
      Told left (some ⟨[], .error error⟩) (.ready (some (.error error))) next
  | closed {next : S} :
      left none next → Told left (some ⟨[], .closed⟩) (.ready none) next
  | ended {next : S} : left none next → Told left none (.ready none) next

/-- Every poll of the stream in a good enough context returns and answers what its course
says. -/
def Reads [PollStream S (Event T E)] (enough : Context → Prop)
    (left : Option (Course T E) → S → Prop) (course : Option (Course T E))
    (source : S) : Prop :=
  ∀ cx, enough cx → ∃ answer next, pollNext cx source = some (answer, next) ∧
    Told left course answer next

theorem told_of_heard {left : Option (List (Event T E)) → S → Prop}
    {course : Option (Course T E)} {answer : Answer T E} {next : S}
    (heard : Heard left (course.map Course.events) answer next) :
    Told (fun course => left (course.map Course.events)) course answer next := by
  match course, answer with
  | _, .pending => exact .pending heard
  | none, .ready none => exact .ended heard
  | some ⟨value :: values, ending⟩, .ready (some event) =>
      have said : event = .next value ∧ _ := heard
      rw [said.1]
      exact .value said.2
  | some ⟨[], .complete⟩, .ready (some event) =>
      have said : event = .complete ∧ _ := heard
      rw [said.1]
      exact .complete said.2
  | some ⟨[], .error error⟩, .ready (some event) =>
      have said : event = .error error ∧ _ := heard
      rw [said.1]
      exact .error said.2
  | some ⟨[], .closed⟩, .ready none =>
      have said : left none next := heard
      exact .closed said

/-- Passed on, the answer says the same of another stream. -/
theorem Told.passed {left : Option (Course T E) → S → Prop}
    {made : Option (List (Event T E)) → O → Prop} {course : Option (Course T E)}
    {answer : Answer T E} {next : S} {after : O}
    (told : Told left course answer next)
    (passes : ∀ rest, left rest next → made (rest.map Course.events) after) :
    Heard made (course.map Course.events) answer after := by
  cases told with
  | pending here => exact passes _ here
  | value here => exact ⟨rfl, passes _ here⟩
  | complete here => exact ⟨rfl, passes _ here⟩
  | error here => exact ⟨rfl, passes _ here⟩
  | closed here => exact passes _ here
  | ended here => exact passes _ here

/-! ### Operators on a well-formed stream -/

/-- A relation between what is left of a course and what is left to be made of it, kept by
the polls of an operator. -/
theorem steps_of_told [PollStream S (Event T E)] [PollStream O Out]
    {enough enough' : Context → Prop}
    {rel : Option (Course T E) → S → Option (List Out) → O → Prop}
    {alone : Option (List Out) → O → Prop}
    (step : ∀ left : Option (Course T E) → S → Prop,
      (∀ course source, left course source → Reads enough left course source) →
      ∀ rest source made this, Reads enough left rest source → rel rest source made this →
        Polled pollNext enough'
          (fun made this => (∃ rest source, left rest source ∧ rel rest source made this) ∨
            alone made this) made this) :
    Steps pollNext enough pollNext enough'
      (fun items source made this => ∃ rest, items = rest.map Course.events ∧
        rel rest source made this) alone := by
  rintro left keeps items source made this polled ⟨rest, rfl, related⟩
  have reads : ∀ rest source, Polled pollNext enough left
      (rest.map Course.events) source →
      Reads enough (fun rest => left (rest.map Course.events)) rest source := by
    intro rest source polled cx good
    obtain ⟨answer, next, returned, heard⟩ := polled cx good
    exact ⟨answer, next, returned, told_of_heard heard⟩
  refine (step _ (fun rest source here => reads rest source (keeps _ _ here)) rest source made
    this (reads _ _ polled) related).mono ?_
  rintro made this (⟨rest, source, here, related⟩ | rest)
  · exact Or.inl ⟨rest.map Course.events, source, here, rest, rfl, related⟩
  · exact Or.inr rest

/-- Of a source with this course the operator makes these events: whatever is served of
the one is served of the other, and the operator comes to its end if the source does.
The turns are those a loop may need to go past all values. -/
def Makes [PollStream S (Event T E)] [PollStream O Out] (enough : Context → Prop)
    (course : Course T E) (source : S) (made : List Out) (this : O) : Prop :=
  Follows pollNext enough course.events source pollNext
    (fun cx => enough cx ∧ course.values.length < cx.turns) made this

/-- Rule for operators on one well-formed stream. -/
theorem makes_of_step [PollStream S (Event T E)] [PollStream O Out]
    {enough : Context → Prop} {course : Course T E} (source : O → S)
    (rel : Option (Course T E) → Option (List Out) → O → Prop)
    (alone : Option (List Out) → O → Prop) (slack : Nat)
    (rests : ∀ made this, alone made this → WithinLeft pollNext
      (fun cx => enough cx ∧ course.values.length < cx.turns) slack made this)
    (step : ∀ left : Option (Course T E) → S → Prop,
      (∀ course source, left course source → Reads enough left course source) →
      ∀ rest made this, Reads enough left rest (source this) → rel rest made this →
        Polled pollNext (fun cx => enough cx ∧ course.values.length < cx.turns)
          (fun made this => (∃ rest, left rest (source this) ∧ rel rest made this) ∨
            alone made this) made this)
    (closed : ∀ made this, rel none made this → made = none)
    (made : List Out) (this : O) (related : rel (some course) (some made) this) :
    Makes enough course (source this) made this := by
  have steps : Steps pollNext enough pollNext
      (fun cx => enough cx ∧ course.values.length < cx.turns)
      (fun items state made this => ∃ rest, items = rest.map Course.events ∧
        state = source this ∧ rel rest made this) alone := by
    apply steps_of_told
    rintro left keeps rest _ made this reads ⟨rfl, related⟩
    refine (step left keeps rest made this reads related).mono ?_
    rintro made this (⟨rest, here, related⟩ | rest)
    · exact Or.inl ⟨rest, source this, here, rfl, related⟩
    · exact Or.inr rest
  refine steps.follows rests ?_ ⟨some course, rfl, rfl, related⟩
  rintro state made this ⟨rest, nothing, -, related⟩
  cases Option.map_eq_none_iff.mp nothing.symm
  exact closed made this related

/-- The contexts that leave a loop so many turns. -/
def WithTurns (turns : Nat) (enough : Context → Prop) (cx : Context) : Prop :=
  enough cx ∧ turns ≤ cx.turns

/-! ### Polls, counted -/

/-- A stream and the number of polls it has had. -/
structure Metered (S : Type) where
  stream : S
  polls : Nat
deriving Repr, DecidableEq

instance {Item : Type} [PollStream S Item] : PollStream (Metered S) Item where
  pollNext cx this := (pollNext cx this.stream).map fun (answer, stream) =>
    (answer, { stream := stream, polls := this.polls + 1 })

theorem Metered.polls_succ {Item : Type} [PollStream S Item] {cx : Context}
    {this next : Metered S} {answer : Poll (Option Item)}
    (polled : pollNext cx this = some (answer, next)) :
    next.polls = this.polls + 1 := by
  obtain ⟨_, -, same⟩ := Option.map_eq_some_iff.mp polled
  cases same
  rfl

end IceRpc.Rx
