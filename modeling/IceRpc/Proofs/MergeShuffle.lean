/-
Module: IceRpc.Proofs.MergeShuffle
Purpose: `merge` as a fair shuffle: what it emits is an interleaving of the values of its
  two sources, it ends with the first error or with one `Complete` once both have ended,
  and of two polls one asks each source.
Trusted boundary: none
Main exports: SideAt, Merging, Shuffled, merge_run, merge_ends, AsksSide, merge_alternates,
  merge_is_a_fair_shuffle
-/
import IceRpc.Lib.Interleave
import IceRpc.Proofs.MergePoll
import IceRpc.Rx.Course

namespace IceRpc.Rx

open Lib
open PollStream (pollNext)

variable {A B S T E : Type}

variable [PollStream A (Event T E)] [PollStream B (Event T E)]
variable {this next : Merge A B} {cx : Context} {answer : Answer T E}

/-! ### Polls that return -/

namespace Merge

theorem pollSides_returns (first : Bool) (running : this.completed = false)
    (left : this.leftDone = false → (PollStream.pollNext cx this.left).isSome = true)
    (right : this.rightDone = false → (PollStream.pollNext cx this.right).isSome = true) :
    ∃ turned : Turn (Merge A B) (Answer T E),
      pollSides cx first this = some turned := by
  cases first with
  | true =>
      obtain ⟨turned, asked⟩ := ask_returns (T := T) (E := E) _ left
      rw [pollSides, pollSide_left, asked]
      rcases ask_cases asked (fun _ _ => running) with ⟨_, _, -, rfl⟩ | ⟨_, _, -, rfl⟩
      · simp only [Bool.not_true, pollSide_right]
        exact ask_returns _ right
      · exact ⟨_, rfl⟩
  | false =>
      obtain ⟨turned, asked⟩ := ask_returns (T := T) (E := E) _ right
      rw [pollSides, pollSide_right, asked]
      rcases ask_cases asked (fun _ _ => running) with ⟨_, _, -, rfl⟩ | ⟨_, _, -, rfl⟩
      · simp only [Bool.not_false, pollSide_left]
        exact ask_returns _ left
      · exact ⟨_, rfl⟩

theorem poll_returns (running : this.completed = false)
    (going : (this.leftDone && this.rightDone) = false) (turns : 2 ≤ cx.turns)
    (left : this.leftDone = false → (PollStream.pollNext cx this.left).isSome = true)
    (right : this.rightDone = false → (PollStream.pollNext cx this.right).isSome = true) :
    ∃ answer next, PollStream.pollNext cx this =
      some ((answer : Answer T E), next) := by
  obtain ⟨a, b, leftDone, rightDone, completed, leftFirst⟩ := this
  cases running
  have asks : ∃ sides : Turn (Merge A B) (Answer T E),
      pollSides cx leftFirst ⟨a, b, leftDone, rightDone, false, !leftFirst⟩ = some sides :=
    pollSides_returns leftFirst rfl left right
  have turn_returns : ∃ turned : Turn (Merge A B) (Answer T E),
      turn cx ⟨a, b, leftDone, rightDone, false, leftFirst⟩ = some turned := by
    obtain ⟨sides, asked⟩ := asks
    rw [turn, if_neg Bool.false_ne_true, going, if_neg Bool.false_ne_true, asked]
    cases pollSides_cases rfl asked with
    | left | right => exact ⟨_, rfl⟩
    | silent =>
        dsimp only
        split <;> exact ⟨_, rfl⟩
  obtain ⟨turned, turn_eq⟩ := turn_returns
  obtain ⟨more, count⟩ := Nat.exists_eq_add_of_le turns
  rcases turn_cases rfl going turn_eq with ⟨answer, next, rfl, -⟩ | ⟨left, right, rfl, -⟩
  · exact ⟨answer, next, loop_leave turn_eq (Nat.zero_lt_of_lt turns)⟩
  · refine ⟨.ready (some .complete), ⟨left, right, true, true, true, !leftFirst⟩, ?_⟩
    rw [PollStream.pollNext, instPollStreamEvent]
    simp only [pollNext, count, Nat.add_comm 2 more]
    rw [loop_again turn_eq]
    exact loop_leave rfl (Nat.succ_pos more)

theorem poll_completed (completed : this.completed = true) (turns : 2 ≤ cx.turns) :
    PollStream.pollNext cx this = some ((.ready none : Answer T E), this) := by
  refine loop_leave ?_ (Nat.zero_lt_of_lt turns)
  rw [turn, if_pos completed]

end Merge

/-! ### The history of a source -/

section Sides

omit [PollStream A (Event T E)] [PollStream B (Event T E)]

variable [PollStream S (Event T E)] {enough : Context → Prop} {start source next : S}
  {done nextDone : Bool} {heard : List (Answer T E)} {cx : Context}

/-- The source was polled with these answers, which are values as long as it is not marked
done. -/
def SideAt (enough : Context → Prop) (start : S) (done : Bool)
    (heard : List (Answer T E)) (source : S) : Prop :=
  Reached pollNext enough start heard source ∧
    if done then ∃ before last, heard = before ++ [.ready last] ∧ Ongoing before ∧
      (last = none ∨ last = some .complete)
    else Ongoing heard

theorem SideAt.silent (side : SideAt enough start done heard source) (good : enough cx)
    (asked : Asked (T := T) (E := E) cx source done next nextDone none) :
    ∃ more, SideAt enough start nextDone (heard ++ more) next ∧ emitted more = [] ∧
      (done = false → more.length = 1) := by
  obtain ⟨reached, far⟩ := side
  cases asked with
  | resting =>
      refine ⟨[], ⟨?_, ?_⟩, rfl, nofun⟩
      · rwa [List.append_nil]
      · rwa [List.append_nil]
  | waiting polled =>
      exact ⟨[.pending], ⟨reached.snoc good polled, Ongoing.snoc far rfl⟩, rfl, fun _ => rfl⟩
  | @ending last _ polled isEnd =>
      refine ⟨[.ready last], ⟨reached.snoc good polled, heard, last, rfl, far, isEnd⟩, ?_,
        fun _ => rfl⟩
      rcases isEnd with rfl | rfl <;> rfl

theorem SideAt.waited {asked : Bool} (side : SideAt enough start done heard source)
    (good : enough cx)
    (waited : Waited (T := T) (E := E) asked cx source done next nextDone) :
    ∃ more, SideAt enough start nextDone (heard ++ more) next ∧ emitted more = [] := by
  cases asked with
  | true =>
      obtain ⟨more, there, nothing, -⟩ := side.silent good waited
      exact ⟨more, there, nothing⟩
  | false =>
      obtain ⟨rfl, rfl⟩ := waited
      exact ⟨[], by rwa [List.append_nil], rfl⟩

theorem SideAt.spoken {event : Event T E} (side : SideAt enough start done heard source)
    (good : enough cx) (asked : Asked cx source done next nextDone (some event)) :
    Ongoing heard ∧ event ≠ .complete ∧ nextDone = false ∧
      Reached pollNext enough start (heard ++ [.ready (some event)]) next := by
  cases asked with
  | speaking polled event =>
      exact ⟨side.2, event, rfl, side.1.snoc good polled⟩

variable {course : Course T E}

theorem SideAt.emitted_of_done
    (served : Serves pollNext enough course.events start)
    (side : SideAt enough start true heard source) :
    emitted heard = course.values ∧ ∀ err, course.ending ≠ .error err := by
  obtain ⟨reached, before, last, rfl, ongoing, isEnd⟩ := side
  apply ended_of_reached served reached
  rcases isEnd with rfl | rfl
  · exact Or.inl ⟨before, rfl, ongoing⟩
  · exact Or.inr ⟨before, rfl, ongoing⟩

theorem SideAt.length_le {polls : Nat}
    (within : WithinLeft pollNext enough polls (some course.events) start)
    (side : SideAt enough start done heard source) :
    heard.length ≤ polls ∧ (done = false → heard.length < polls) := by
  cases done with
  | false =>
      have shorter := side.2.length_lt within side.1
      exact ⟨Nat.le_of_lt shorter, fun _ => shorter⟩
  | true =>
      obtain ⟨reached, before, last, split, ongoing, -⟩ := side
      have stopped : StoppedWith last heard := ⟨before, split, ongoing⟩
      exact ⟨stopped.length_le within reached, nofun⟩

end Sides

/-! ### The history of a merge -/

/-- How a merge ends, and what of its sources it has emitted then. -/
inductive MergeEnd (left right : Course T E) : List T → List T → Event T E → Prop
  | complete : (∀ err, left.ending ≠ .error err) → (∀ err, right.ending ≠ .error err) →
      MergeEnd left right left.values right.values .complete
  | left {fromRight : List T} {err : ObservableError E} : left.ending = .error err →
      fromRight <+: right.values → MergeEnd left right left.values fromRight (.error err)
  | right {fromLeft : List T} {err : ObservableError E} : right.ending = .error err →
      fromLeft <+: left.values → MergeEnd left right fromLeft right.values (.error err)

/-- The merge has ended: values of both sources in some order, its terminal event, and
nothing more. -/
def Shuffled (left right : Course T E) (answers : List (Answer T E)) : Prop :=
  ∃ before last ends fromLeft fromRight,
    answers = before ++ .ready (some last) :: List.replicate ends (.ready none) ∧
      Ongoing before ∧ Interleaves fromLeft fromRight (emitted before) ∧
      MergeEnd left right fromLeft fromRight last

/-- The merge is going on: values of both sources in some order so far. -/
def Shuffling (left right : Course T E) (answers : List (Answer T E)) : Prop :=
  Ongoing answers ∧ ∃ fromLeft fromRight, fromLeft <+: left.values ∧
    fromRight <+: right.values ∧ Interleaves fromLeft fromRight (emitted answers)

section Runs

variable {enough : Context → Prop} {a : A} {b : B} {left right : Course T E}

/-- A merge that is going on, with the histories of its sources. -/
structure Merging (enough : Context → Prop) (a : A) (b : B)
    (answers : List (Answer T E)) (this : Merge A B) : Prop where
  running : this.completed = false
  going : (this.leftDone && this.rightDone) = false
  ongoing : Ongoing answers
  sides : ∃ heardLeft heardRight, SideAt enough a this.leftDone heardLeft this.left ∧
    SideAt enough b this.rightDone heardRight this.right ∧
    Interleaves (emitted heardLeft) (emitted heardRight) (emitted answers) ∧
    answers.length ≤ heardLeft.length + heardRight.length

theorem merging_new : Merging (T := T) (E := E) enough a b [] (Merge.new a b) where
  running := rfl
  going := rfl
  ongoing := nofun
  sides := ⟨[], [], ⟨.refl a, nofun⟩, ⟨.refl b, nofun⟩, .nil, le_rfl⟩

/-- One poll of a merge that is going on. -/
theorem Merging.step {answers : List (Answer T E)} (merging : Merging enough a b answers this)
    (good : enough cx) (polled : MergePoll cx this answer next)
    (servedLeft : Serves pollNext enough left.events a)
    (servedRight : Serves pollNext enough right.events b) :
    Merging enough a b (answers ++ [answer]) next ∨
      (next.completed = true ∧ Shuffled left right (answers ++ [answer])) := by
  obtain ⟨-, going, ongoing, heardLeft, heardRight, sideLeft, sideRight, woven, count⟩ := merging
  cases polled with
  | @left event _ _ _ spoken waited =>
      obtain ⟨goes, isEvent, -, reached⟩ := sideLeft.spoken good spoken
      match event with
      | .complete => exact absurd rfl isEvent
      | .next value =>
          obtain ⟨more, sideRight, nothing⟩ := sideRight.waited good waited
          refine Or.inl ⟨rfl, rfl, ongoing.snoc rfl, _, _, ⟨reached, goes.snoc rfl⟩, sideRight,
            ?_, ?_⟩
          · simp only [emitted_append, nothing, List.append_nil]
            exact woven.snoc_left value
          · simp only [List.length_append, List.length_singleton]
            omega
      | .error err =>
          obtain ⟨all, errs⟩ := error_of_reached servedLeft goes reached
          have part := emitted_prefix_of_reached servedRight sideRight.1
          rw [all] at woven
          exact Or.inr ⟨rfl, answers, .error err, 0, _, _, rfl, ongoing, woven,
            .left errs part⟩
  | @right event _ _ _ spoken waited =>
      obtain ⟨goes, isEvent, -, reached⟩ := sideRight.spoken good spoken
      match event with
      | .complete => exact absurd rfl isEvent
      | .next value =>
          obtain ⟨more, sideLeft, nothing⟩ := sideLeft.waited good waited
          refine Or.inl ⟨rfl, Bool.and_false _, ongoing.snoc rfl, _, _, sideLeft,
            ⟨reached, goes.snoc rfl⟩, ?_, ?_⟩
          · simp only [emitted_append, nothing, List.append_nil]
            exact woven.snoc_right value
          · simp only [List.length_append, List.length_singleton]
            omega
      | .error err =>
          obtain ⟨all, errs⟩ := error_of_reached servedRight goes reached
          have part := emitted_prefix_of_reached servedLeft sideLeft.1
          rw [all] at woven
          exact Or.inr ⟨rfl, answers, .error err, 0, _, _, rfl, ongoing, woven,
            .right errs part⟩
  | pending askedLeft askedRight more =>
      obtain ⟨moreLeft, sideLeft, nothingLeft, askedOnce⟩ := sideLeft.silent good askedLeft
      obtain ⟨moreRight, sideRight, nothingRight, askedToo⟩ := sideRight.silent good askedRight
      refine Or.inl ⟨rfl, more, ongoing.snoc rfl, _, _, sideLeft, sideRight, ?_, ?_⟩
      · have silent : emitted [(.pending : Answer T E)] = [] := rfl
        simp only [emitted_append, nothingLeft, nothingRight, silent, List.append_nil]
        exact woven
      · have either := Bool.and_eq_false_iff.mp going
        simp only [List.length_append, List.length_singleton]
        rcases either with left | right
        · have once := askedOnce left
          omega
        · have once := askedToo right
          omega
  | complete askedLeft askedRight =>
      obtain ⟨moreLeft, sideLeft, nothingLeft, -⟩ := sideLeft.silent good askedLeft
      obtain ⟨moreRight, sideRight, nothingRight, -⟩ := sideRight.silent good askedRight
      obtain ⟨allLeft, fineLeft⟩ := sideLeft.emitted_of_done servedLeft
      obtain ⟨allRight, fineRight⟩ := sideRight.emitted_of_done servedRight
      rw [emitted_append, nothingLeft, List.append_nil] at allLeft
      rw [emitted_append, nothingRight, List.append_nil] at allRight
      rw [allLeft, allRight] at woven
      exact Or.inr ⟨rfl, answers, .complete, 0, _, _, rfl, ongoing, woven,
        .complete fineLeft fineRight⟩

theorem Merging.shuffling {answers : List (Answer T E)} (merging : Merging enough a b answers this)
    (servedLeft : Serves pollNext enough left.events a)
    (servedRight : Serves pollNext enough right.events b) :
    Shuffling left right answers := by
  obtain ⟨-, -, ongoing, heardLeft, heardRight, sideLeft, sideRight, woven, -⟩ := merging
  exact ⟨ongoing, _, _, emitted_prefix_of_reached servedLeft sideLeft.1,
    emitted_prefix_of_reached servedRight sideRight.1, woven⟩

/-- Polls after the end answer the end. -/
theorem Shuffled.snoc {answers : List (Answer T E)}
    (shuffled : Shuffled left right answers) :
    Shuffled left right (answers ++ [.ready none]) := by
  obtain ⟨before, last, ends, fromLeft, fromRight, rfl, rest⟩ := shuffled
  exact ⟨before, last, ends + 1, fromLeft, fromRight, after_end .., rest⟩

/-- The whole run of a merge. -/
theorem merge_run (servedLeft : Serves pollNext enough left.events a)
    (servedRight : Serves pollNext enough right.events b) (contexts : List Context)
    (good : ∀ cx ∈ contexts, WithTurns 2 enough cx) :
    ∃ answers final, pollAll pollNext contexts (Merge.new a b) =
      some (answers, final) ∧ (Merging enough a b answers final ∨
        (final.completed = true ∧ Shuffled left right answers)) := by
  refine pollAll_history _ (Or.inl merging_new) ?_ contexts good
  rintro answers now cx (merging | ⟨completed, shuffled⟩) ⟨good, turns⟩
  · obtain ⟨heardLeft, heardRight, sideLeft, sideRight, -⟩ := merging.sides
    have returns : ∃ answer next, pollNext cx now =
        some ((answer : Answer T E), next) := by
      refine Merge.poll_returns merging.running merging.going turns (fun _ => ?_) (fun _ => ?_)
      · obtain ⟨said, next, polled⟩ := sideLeft.1.polled servedLeft good
        exact Option.isSome_of_eq_some polled
      · obtain ⟨said, next, polled⟩ := sideRight.1.polled servedRight good
        exact Option.isSome_of_eq_some polled
    obtain ⟨answer, next, polled⟩ := returns
    have came := Merge.poll_cases merging.running merging.going polled
    exact ⟨answer, next, polled, merging.step good came servedLeft servedRight⟩
  · exact ⟨_, now, Merge.poll_completed completed turns, Or.inr ⟨completed, shuffled.snoc⟩⟩

/-- A merge of streams that come to their ends comes to its end. -/
theorem merge_ends (drainsLeft : Drains pollNext enough left.events a)
    (drainsRight : Drains pollNext enough right.events b) :
    ∃ polls, ∀ contexts, (∀ cx ∈ contexts, WithTurns 2 enough cx) →
      polls ≤ contexts.length → ∃ answers final,
        pollAll pollNext contexts (Merge.new a b) = some (answers, final) ∧
          Shuffled left right answers := by
  obtain ⟨servedLeft, pollsLeft, endsLeft⟩ := drainsLeft
  obtain ⟨servedRight, pollsRight, endsRight⟩ := drainsRight
  refine ⟨pollsLeft + pollsRight, fun contexts good long => ?_⟩
  obtain ⟨answers, final, returned, merging | ⟨-, shuffled⟩⟩ :=
    merge_run servedLeft servedRight contexts good
  · -- one of the two is still going on, after fewer polls than it takes to end
    obtain ⟨-, going, -, heardLeft, heardRight, sideLeft, sideRight, -, count⟩ := merging
    have withinLeft : WithinLeft pollNext enough pollsLeft (some left.events) a :=
      ⟨servedLeft, fun _ => endsLeft⟩
    have withinRight : WithinLeft pollNext enough pollsRight (some right.events) b :=
      ⟨servedRight, fun _ => endsRight⟩
    obtain ⟨fewLeft, fewerLeft⟩ := sideLeft.length_le withinLeft
    obtain ⟨fewRight, fewerRight⟩ := sideRight.length_le withinRight
    have length := pollAll_length returned
    exfalso
    rcases Bool.and_eq_false_iff.mp going with left | right
    · have fewer := fewerLeft left
      omega
    · have fewer := fewerRight right
      omega
  · exact ⟨answers, final, returned, shuffled⟩

end Runs

/-! ### Which source is asked -/

theorem MergePoll.flips (polled : MergePoll cx this answer next) :
    next.leftFirst = !this.leftFirst := by
  cases polled <;> rfl

theorem MergePoll.going (polled : MergePoll cx this answer next)
    (running : next.completed = false) :
    (next.leftDone && next.rightDone) = false := by
  cases polled with
  | left => rfl
  | right => exact Bool.and_false _
  | pending _ _ more => exact more
  | complete => cases running

omit [PollStream A (Event T E)] [PollStream B (Event T E)] in
/-- A source is asked if it is its turn to be the first; if it is the second, it may be left
as it was. -/
def AsksSide [PollStream S (Event T E)] (first : Bool) (cx : Context) (source : S) (done : Bool)
    (next : S) (nextDone : Bool) (answer : Answer T E) : Prop :=
  (∃ said, Asked cx source done next nextDone said ∧
    ∀ event, said = some event → answer = .ready (some event)) ∨
  (first = false ∧ next = source ∧ nextDone = done)

omit [PollStream A (Event T E)] [PollStream B (Event T E)] in
theorem asksSide_of_waited [PollStream S (Event T E)] {first : Bool} {source next : S}
    {done nextDone : Bool} (waited : Waited (T := T) (E := E) first cx source done next nextDone) :
    AsksSide first cx source done next nextDone answer := by
  cases first with
  | true => exact Or.inl ⟨none, waited, nofun⟩
  | false => exact Or.inr ⟨rfl, waited⟩

theorem MergePoll.asks (polled : MergePoll cx this answer next) :
    AsksSide this.leftFirst cx this.left this.leftDone next.left next.leftDone answer ∧
    AsksSide (!this.leftFirst) cx this.right this.rightDone next.right next.rightDone answer := by
  cases polled with
  | left spoken waited =>
      exact ⟨Or.inl ⟨_, spoken, fun _ same => same ▸ rfl⟩, asksSide_of_waited waited⟩
  | right spoken waited =>
      exact ⟨asksSide_of_waited waited, Or.inl ⟨_, spoken, fun _ same => same ▸ rfl⟩⟩
  | pending left right | complete left right =>
      exact ⟨Or.inl ⟨none, left, nofun⟩, Or.inl ⟨none, right, nofun⟩⟩

section Takes

omit [PollStream A (Event T E)] [PollStream B (Event T E)]

variable [PollStream S (Event T E)] {cx : Context}

/-- The source was polled, and what it had ready was taken. -/
def Taken (cx : Context) (source next : S) : Prop :=
  ∃ said : Option (Event T E), pollNext cx source = some (.ready said, next)

/-- The source has something ready. -/
def IsReady (cx : Context) (source : S) : Prop :=
  ∃ next, Taken (T := T) (E := E) cx source next

theorem taken_of_asked {source next : S} {nextDone : Bool} {said : Option (Event T E)}
    (asked : Asked cx source false next nextDone said)
    (ready : IsReady (T := T) (E := E) cx source) : Taken (T := T) (E := E) cx source next := by
  obtain ⟨after, there, polled⟩ := ready
  cases asked with
  | waiting again => cases polled.symm.trans again
  | ending again _ => exact ⟨_, again⟩
  | speaking again _ => exact ⟨_, again⟩

/-- An error that was read is the event to be answered. -/
theorem said_of_error {source next : S} {nextDone : Bool} {said : Option (Event T E)}
    {err : ObservableError E} (asked : Asked cx source false next nextDone said)
    (errs : pollNext cx source = some (.ready (some (.error err)), next)) :
    said = some (.error err) := by
  cases asked with
  | waiting again => cases errs.symm.trans again
  | ending again isEnd =>
      cases errs.symm.trans again
      rcases isEnd with same | same <;> cases same
  | speaking again _ =>
      cases errs.symm.trans again
      rfl

/-- Of two polls, at which the source is the first by turns, one takes what it has ready. -/
theorem taken_of_asks {first middleDone finalDone : Bool} {later : Context}
    {source middle final : S} {last : Answer T E}
    (one : AsksSide first cx source false middle middleDone answer)
    (two : AsksSide (!first) later middle middleDone final finalDone last)
    (now : IsReady (T := T) (E := E) cx source) (still : IsReady (T := T) (E := E) later middle) :
    Taken (T := T) (E := E) cx source middle ∨ Taken (T := T) (E := E) later middle final := by
  rcases one with ⟨said, asked, -⟩ | ⟨second, rfl, rfl⟩
  · exact Or.inl (taken_of_asked asked now)
  · rcases two with ⟨said, asked, -⟩ | ⟨third, -⟩
    · exact Or.inr (taken_of_asked asked still)
    · rw [second] at third
      cases third

/-- The error that a poll reads is its answer. -/
theorem answer_of_error {first nextDone : Bool} {source next : Metered S} {err : ObservableError E}
    (asks : AsksSide first cx source false next nextDone answer)
    (read : pollNext cx source = some (.ready (some (.error err)), next)) :
    answer = .ready (some (.error err)) := by
  rcases asks with ⟨said, asked, answered⟩ | ⟨-, kept, -⟩
  · exact answered _ (said_of_error asked read)
  · have counted := Metered.polls_succ read
    rw [kept] at counted
    exact absurd counted.symm (Nat.succ_ne_self _)

end Takes

/-! ### Two sources that are always ready -/

section Prompt

omit [PollStream A (Event T E)] [PollStream B (Event T E)]

variable [PollStream S (Event T E)] {enough : Context → Prop}

/-- Whatever the polls, none of them is kept waiting. -/
def Prompt (enough : Context → Prop) (source : S) : Prop :=
  ∀ (answers : List (Answer T E)) state,
    Reached pollNext enough source answers state → .pending ∉ answers

theorem prompt_value {value : T} {values : List T} {ending : StreamEnd E} {source : S}
    (served : Serves pollNext enough
      (⟨value :: values, ending⟩ : Course T E).events source)
    (prompt : Prompt (T := T) (E := E) enough source) (good : enough cx) :
    ∃ next, pollNext cx source = some (.ready (some (.next value)), next) ∧
      Serves pollNext enough (⟨values, ending⟩ : Course T E).events next ∧
      Prompt (T := T) (E := E) enough next := by
  have left : ServesLeft pollNext enough
    (some (⟨value :: values, ending⟩ : Course T E).events) source := served
  obtain ⟨answer, next, polled, heard⟩ := left.polled cx good
  have prompted : Prompt (T := T) (E := E) enough next := by
    rintro answers state ⟨contexts, goodLater, returned⟩ listed
    refine prompt (answer :: answers) state ⟨cx :: contexts, ?_, pollAll_cons polled returned⟩
      (List.mem_cons_of_mem _ listed)
    exact List.forall_mem_cons.mpr ⟨good, goodLater⟩
  match answer with
  | .pending =>
      have once := (Reached.refl source).snoc good polled
      exact absurd (List.mem_singleton_self _) (prompt _ _ once)
  | .ready (some event) =>
      have said : event = .next value ∧ _ := heard
      rw [said.1] at polled
      exact ⟨next, polled, said.2, prompted⟩

end Prompt

omit [PollStream A (Event T E)] [PollStream B (Event T E)] in
theorem prompt_source {source : Source (Event T E)} {enough : Context → Prop}
    (ready : source.schedule = Stream'.const true) :
    Prompt (T := T) (E := E) enough source := by
  rintro answers state ⟨contexts, -, returned⟩
  refine pollAll_rule (fun source answers _ => source.schedule = Stream'.const true →
    Poll.pending ∉ answers) (fun _ _ => nofun) ?_ returned ready
  intro cx source answer next answers final polled later ready
  have said : (answer, next) = source.poll := (Option.some.inj polled).symm
  refine List.not_mem_cons_of_ne_of_not_mem (fun pending => ?_) (later ?_)
  · rcases source.poll_cases with ⟨-, silent, -⟩ | ⟨there, -⟩ | ⟨_, _, there, -⟩
    · rw [ready] at silent
      cases silent
    · rw [← said, ← pending] at there
      cases there
    · rw [← said, ← pending] at there
      cases there
  · have kept := source.poll_schedule
    rw [← said, ready] at kept
    exact kept

/-- A value of the one list and a value of the other, by turns. -/
def alternating (left right : List T) : List (Answer T E) :=
  (left.zip right).flatMap fun (first, second) =>
    [.ready (some (.next first)), .ready (some (.next second))]

theorem Merge.poll_left_value (turns : 2 ≤ cx.turns) {left next : A} {right : B} {value : T}
    (polled : PollStream.pollNext cx left = some (.ready (some (.next value : Event T E)), next)) :
    PollStream.pollNext cx
        (⟨left, right, false, false, false, true⟩ : Merge A B) =
      some (.ready (some (.next value : Event T E)),
        ⟨next, right, false, false, false, false⟩) := by
  refine loop_leave ?_ (Nat.zero_lt_of_lt turns)
  simp [turn, pollSides, pollSide, polled, heed]

theorem Merge.poll_right_value (turns : 2 ≤ cx.turns) {left : A} {right next : B} {value : T}
    (polled : PollStream.pollNext cx right = some (.ready (some (.next value : Event T E)), next)) :
    PollStream.pollNext cx
        (⟨left, right, false, false, false, false⟩ : Merge A B) =
      some (.ready (some (.next value : Event T E)),
        ⟨left, next, false, false, false, true⟩) := by
  refine loop_leave ?_ (Nat.zero_lt_of_lt turns)
  simp [turn, pollSides, pollSide, polled, heed]

/-- Two sources that are always ready alternate as long as both have values. -/
theorem merge_alternates {enough : Context → Prop} {left right : List T}
    {endLeft endRight : StreamEnd E} {a : A} {b : B}
    (servedLeft : Serves pollNext enough (⟨left, endLeft⟩ : Course T E).events a)
    (servedRight : Serves pollNext enough (⟨right, endRight⟩ : Course T E).events b)
    (promptLeft : Prompt (T := T) (E := E) enough a)
    (promptRight : Prompt (T := T) (E := E) enough b) {pairs : Nat}
    (enoughLeft : pairs ≤ left.length) (enoughRight : pairs ≤ right.length)
    {contexts : List Context} (good : ∀ cx ∈ contexts, WithTurns 2 enough cx)
    (length : contexts.length = 2 * pairs) :
    ∃ final, pollAll pollNext contexts
        (⟨a, b, false, false, false, true⟩ : Merge A B) =
      some (alternating (T := T) (E := E) (left.take pairs) (right.take pairs), final) := by
  induction pairs generalizing left right a b contexts with
  | zero =>
      cases List.length_eq_zero_iff.mp length
      exact ⟨_, rfl⟩
  | succ pairs ih =>
      match left, right, contexts with
      | first :: left, second :: right, one :: two :: contexts =>
          obtain ⟨goodOne, goodTwo, goodLater⟩ :
              WithTurns 2 enough one ∧ WithTurns 2 enough two ∧ _ := by
            simpa only [List.forall_mem_cons] using good
          obtain ⟨a', polledLeft, servedLeft, promptLeft⟩ :=
            prompt_value servedLeft promptLeft goodOne.1
          obtain ⟨b', polledRight, servedRight, promptRight⟩ :=
            prompt_value servedRight promptRight goodTwo.1
          obtain ⟨final, returned⟩ := ih servedLeft servedRight promptLeft promptRight
            (Nat.le_of_succ_le_succ enoughLeft) (Nat.le_of_succ_le_succ enoughRight) goodLater
            (by simpa [Nat.mul_succ] using length)
          exact ⟨final, pollAll_cons (Merge.poll_left_value goodOne.2 polledLeft)
            (pollAll_cons (Merge.poll_right_value goodTwo.2 polledRight) returned)⟩

/-! ### All of it -/

/-- A merge that has not ended has a source that has not. -/
theorem merge_going {contexts : List Context} {a : A} {b : B} {answers : List (Answer T E)}
    (reached : pollAll pollNext contexts (Merge.new a b) = some (answers, this))
    (running : this.completed = false) : (this.leftDone && this.rightDone) = false := by
  let fine (this : Merge A B) : Prop :=
    this.completed = false → (this.leftDone && this.rightDone) = false
  refine pollAll_rule (fun start _ this => fine start → fine this) (fun _ => id) ?_ reached
    (fun _ => rfl) running
  intro cx start answer next answers final polled later fineNow
  apply later
  intro runningNext
  match completed : start.completed with
  | false => exact (Merge.poll_cases completed (fineNow completed) polled).going runningNext
  | true =>
      have leaves : Merge.turn cx start =
          some (.leave (.ready none : Answer T E) start) := if_pos completed
      obtain ⟨-, rfl⟩ := loop_of_leave leaves polled
      exact fineNow runningNext

/-- What `merge` makes of two sources with these courses. -/
structure FairShuffle (enough : Context → Prop) (left right : Course T E) (a : A) (b : B) :
    Prop where
  /-- The values emitted are an interleaving of first values of both sources, all of them
  with a `Complete` at the end, or those of the failed one with its error. -/
  shuffles : Serves pollNext enough left.events a →
    Serves pollNext enough right.events b →
    ∀ contexts, (∀ cx ∈ contexts, WithTurns 2 enough cx) → ∃ answers final,
      pollAll pollNext contexts (Merge.new a b) = some (answers, final) ∧
        (Shuffling left right answers ∨ Shuffled left right answers)
  /-- It comes to its end if both sources do. -/
  ends : Drains pollNext enough left.events a →
    Drains pollNext enough right.events b →
    ∃ polls, ∀ contexts, (∀ cx ∈ contexts, WithTurns 2 enough cx) →
      polls ≤ contexts.length → ∃ answers final,
        pollAll pollNext contexts (Merge.new a b) = some (answers, final) ∧
          Shuffled left right answers
  /-- The error of a source is answered by the poll that reads it. -/
  errsAtOnce : ∀ contexts answers (this : Merge (Metered A) (Metered B)),
    pollAll pollNext contexts (Merge.new (Metered.mk a 0) (Metered.mk b 0)) =
      some ((answers : List (Answer T E)), this) → this.completed = false →
    ∀ cx answer next, pollNext cx this =
        some ((answer : Answer T E), next) →
      ∀ err, (this.leftDone = false ∧
          pollNext cx this.left = some (.ready (some (.error err)), next.left)) ∨
        (this.rightDone = false ∧
          pollNext cx this.right = some (.ready (some (.error err)), next.right)) →
      answer = .ready (some (.error err))
  /-- The `Complete` is answered by the poll that reads the second end. -/
  completesAtOnce : ∀ contexts answers (this : Merge (Metered A) (Metered B)),
    pollAll pollNext contexts (Merge.new (Metered.mk a 0) (Metered.mk b 0)) =
      some ((answers : List (Answer T E)), this) → this.completed = false →
    ∀ cx answer next, pollNext cx this =
        some ((answer : Answer T E), next) →
      (next.leftDone = true ∧ next.rightDone = true ↔ answer = .ready (some .complete))
  /-- Of two consecutive polls, one takes what a source that has not ended has ready at
  both. -/
  takes : ∀ contexts answers (this : Merge (Metered A) (Metered B)),
    pollAll pollNext contexts (Merge.new (Metered.mk a 0) (Metered.mk b 0)) =
      some ((answers : List (Answer T E)), this) → this.completed = false →
    ∀ cx answer middle, pollNext cx this =
        some ((answer : Answer T E), middle) → middle.completed = false →
    ∀ later last final, pollNext later middle =
        some ((last : Answer T E), final) →
      (this.leftDone = false → IsReady (T := T) (E := E) cx this.left →
        IsReady (T := T) (E := E) later middle.left →
        Taken (T := T) (E := E) cx this.left middle.left ∨
          Taken (T := T) (E := E) later middle.left final.left) ∧
      (this.rightDone = false → IsReady (T := T) (E := E) cx this.right →
        IsReady (T := T) (E := E) later middle.right →
        Taken (T := T) (E := E) cx this.right middle.right ∨
          Taken (T := T) (E := E) later middle.right final.right)
  /-- Two sources that are always ready alternate as long as both have values. -/
  alternates : Serves pollNext enough left.events a →
    Serves pollNext enough right.events b →
    Prompt (T := T) (E := E) enough a → Prompt (T := T) (E := E) enough b →
    ∀ pairs, pairs ≤ left.values.length → pairs ≤ right.values.length →
    ∀ contexts, (∀ cx ∈ contexts, WithTurns 2 enough cx) → contexts.length = 2 * pairs →
      ∃ final, pollAll pollNext contexts (Merge.new a b) =
        some (alternating (T := T) (E := E) (left.values.take pairs)
          (right.values.take pairs), final)

/-- `merge` is a fair shuffle. -/
theorem merge_is_a_fair_shuffle (enough : Context → Prop) (left right : Course T E) (a : A)
    (b : B) : FairShuffle enough left right a b where
  shuffles := by
    intro servedLeft servedRight contexts good
    obtain ⟨answers, final, returned, far⟩ := merge_run servedLeft servedRight contexts good
    refine ⟨answers, final, returned, ?_⟩
    exact far.imp (fun merging => merging.shuffling servedLeft servedRight) And.right
  ends := merge_ends
  errsAtOnce := by
    intro contexts answers this reached running cx answer next polled err errs
    have came := Merge.poll_cases running (merge_going reached running) polled
    obtain ⟨left, right⟩ := came.asks
    rcases errs with ⟨unended, read⟩ | ⟨unended, read⟩
    · exact answer_of_error (unended ▸ left) read
    · exact answer_of_error (unended ▸ right) read
  completesAtOnce := by
    intro contexts answers this reached running cx answer next polled
    cases Merge.poll_cases running (merge_going reached running) polled with
    | left spoken =>
        refine ⟨fun both => (nomatch both.1), fun same => ?_⟩
        cases same
        exact absurd rfl spoken.ne_complete
    | right spoken =>
        refine ⟨fun both => (nomatch both.2), fun same => ?_⟩
        cases same
        exact absurd rfl spoken.ne_complete
    | pending _ _ more =>
        refine ⟨fun both => ?_, nofun⟩
        exact absurd (Bool.and_eq_true_iff.mpr both) (Bool.eq_false_iff.mp more)
    | complete => exact ⟨fun _ => rfl, fun _ => ⟨rfl, rfl⟩⟩
  takes := by
    intro contexts answers this reached running cx answer middle one still later last final two
    have first := Merge.poll_cases running (merge_going reached running) one
    have second := Merge.poll_cases still (first.going still) two
    obtain ⟨left, right⟩ := first.asks
    obtain ⟨leftAgain, rightAgain⟩ := second.asks
    rw [first.flips] at leftAgain rightAgain
    exact ⟨fun unended => taken_of_asks (unended ▸ left) leftAgain,
      fun unended => taken_of_asks (unended ▸ right) rightAgain⟩
  alternates := by
    intro servedLeft servedRight promptLeft promptRight pairs enoughLeft enoughRight contexts
      good length
    exact merge_alternates servedLeft servedRight promptLeft promptRight enoughLeft enoughRight
      good length

/-- Two sources that are ready at any time, one value each. -/
theorem merge_of_ready_sources :
    let left : Source (Event Nat Unit) :=
      { items := [.next 1, .next 2, .complete], schedule := Stream'.const true }
    let right : Source (Event Nat Unit) :=
      { items := [.next 10], schedule := Stream'.const true }
    let cx : Context := { waker := 0, turns := 2 }
    ∃ final, pollAll pollNext [cx, cx] (Merge.new left right) =
      some ([.ready (some (.next 1)), .ready (some (.next 10))], final) := by
  intro left right cx
  have fair := merge_is_a_fair_shuffle (fun _ => True)
    (⟨[1, 2], .complete⟩ : Course Nat Unit) ⟨[10], .closed⟩ left right
  have good : ∀ context ∈ [cx, cx], WithTurns 2 (fun _ => True) context := by
    simp [WithTurns, cx]
  exact fair.alternates (Source.serves left) (Source.serves right) (prompt_source rfl)
    (prompt_source rfl) 1 (by decide) (by decide) [cx, cx] good rfl

end IceRpc.Rx
