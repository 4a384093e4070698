/-
Module: IceRpc.Proofs.PushLoop
Purpose: What the observer of a subscription is called with: the values of the stream
  in order and at most one end, all of them when nobody cancels, and nothing from an
  iteration started after the cancellation as long as that iteration does not find
  the stream ready before it looks at the token.
Trusted boundary: none
Main exports: Callback.of, streamed, FirstEnd, PushTask.Moves, PushTask.Pushed,
  SilentlyPushed, unsubscribe_silent_iff
-/
import IceRpc.Lib.Ending
import IceRpc.Lib.Run
import IceRpc.Rx.Subscribe

namespace IceRpc

open Lib

variable {T E : Type}
variable {answers : Nat → Poll (Option (Event T E))} {task next : PushTask T E}
  {after : PushPhase T E} {late : Bool} {last : Nat}

/-! ### The stream as the observer should see it -/

/-- The callback an answer of the stream stands for. -/
def Callback.of : Option (Event T E) → Callback T E
  | some (.next value) => .next value
  | some (.error err) => .error err
  | some .complete | none => .complete

/-- The callback ends the subscription. -/
def Callback.isEnd : Callback T E → Bool
  | .next _ => false
  | .error _ | .complete => true

/-- The callbacks that the first `count` polls of a stream stand for. -/
def streamed (answers : Nat → Poll (Option (Event T E))) : Nat → List (Callback T E)
  | 0 => []
  | count + 1 =>
      match answers count with
      | .ready event => streamed answers count ++ [Callback.of event]
      | .pending => streamed answers count

theorem streamed_ready {count : Nat} {event : Option (Event T E)}
    (found : answers count = .ready event) :
    streamed answers (count + 1) = streamed answers count ++ [Callback.of event] := by
  rw [streamed, found]

theorem streamed_pending {count : Nat} (silent : answers count = .pending) :
    streamed answers (count + 1) = streamed answers count := by
  rw [streamed, silent]

/-- The stream ends with its poll number `last`, and not before. -/
structure FirstEnd (answers : Nat → Poll (Option (Event T E))) (last : Nat) : Prop where
  ends : ∃ event, answers last = .ready event ∧ (Callback.of event).isEnd = true
  first : ∀ count < last, ∀ event, answers count = .ready event →
    (Callback.of event).isEnd = false

/-- Before its end a stream stands for `on_next` calls only. -/
theorem FirstEnd.unended (firstEnd : FirstEnd answers last) {count : Nat} (before : count ≤ last) :
    Unended Callback.isEnd (streamed answers count) := by
  induction count with
  | zero => exact unended_nil
  | succ count ih =>
      have earlier := ih (by omega)
      cases found : answers count with
      | pending =>
          rw [streamed_pending found]
          exact earlier
      | ready event =>
          rw [streamed_ready found]
          have going := firstEnd.first count (by omega) event found
          exact unended_append.mpr ⟨earlier, unended_singleton.mpr going⟩

/-- All the values, then exactly one end. -/
theorem FirstEnd.endsOnce (firstEnd : FirstEnd answers last) :
    EndsOnce Callback.isEnd (streamed answers (last + 1)) := by
  obtain ⟨event, found, ends⟩ := firstEnd.ends
  rw [streamed_ready found]
  exact endsOnce_snoc.mpr ⟨firstEnd.unended (Nat.le_refl last), ends⟩

namespace PushTask

/-! ### The steps of the task, one by one -/

/-- The phase in which the race polls the stream next, or may do so. -/
inductive StreamTurn : PushPhase T E → Bool → PushPhase T E → Prop
  | first (late : Bool) : StreamTurn (.racing late) late (.tokenNext late)
  | second (late : Bool) : StreamTurn (.streamNext late) late (.racing late)

/-- The phase in which the race polls the token next, or may do so. -/
inductive TokenTurn : PushPhase T E → Bool → PushPhase T E → Prop
  | first (late : Bool) : TokenTurn (.racing late) late (.streamNext late)
  | second (late : Bool) : TokenTurn (.tokenNext late) late (.racing late)

/-- The moves of the task. -/
inductive Moves (answers : Nat → Poll (Option (Event T E))) (task : PushTask T E) :
    PushAction → PushTask T E → Prop
  | cancel : Moves answers task .cancel { task with cancelled := true }
  | startIteration (here : task.phase = .looping) :
      Moves answers task .startIteration { task with phase := .racing task.cancelled }
  | found {late : Bool} {after : PushPhase T E} {event : Option (Event T E)}
      (turn : StreamTurn task.phase late after)
      (answer : answers task.polls = .ready event) :
      Moves answers task .pollStream
        { task with polls := task.polls + 1, phase := .won late (.event event) }
  | silent {late : Bool} {after : PushPhase T E}
      (turn : StreamTurn task.phase late after)
      (answer : answers task.polls = .pending) :
      Moves answers task .pollStream { task with polls := task.polls + 1, phase := after }
  | tokenSet {late : Bool} {after : PushPhase T E}
      (turn : TokenTurn task.phase late after) (set : task.cancelled = true) :
      Moves answers task .pollToken { task with phase := .won late .cancelled }
  | tokenUnset {late : Bool} {after : PushPhase T E}
      (turn : TokenTurn task.phase late after) (unset : task.cancelled = false) :
      Moves answers task .pollToken { task with phase := after }
  | stop {late : Bool} (here : task.phase = .won late .cancelled) :
      Moves answers task .deliver { task with phase := .returned }
  | push {late : Bool} {event : Option (Event T E)}
      (here : task.phase = .won late (.event event)) :
      Moves answers task .deliver
        { task with
          phase := if (Callback.of event).isEnd then .returned else .looping
          callbacks := task.callbacks ++ [(late, Callback.of event)] }
  | signal (here : task.phase = .returned) :
      Moves answers task .signal { task with cancelled := true, phase := .signalled }

theorem pollStream_moves (turn : StreamTurn task.phase late after) :
    Moves answers task .pollStream
      (task.pollStream late (answers task.polls) after) := by
  cases answer : answers task.polls with
  | pending => exact .silent turn answer
  | ready event => exact .found turn answer

theorem pollToken_moves (turn : TokenTurn task.phase late after) :
    Moves answers task .pollToken (task.pollToken late after) := by
  rw [PushTask.pollToken]
  split
  · rename_i set
    exact .tokenSet turn set
  · rename_i unset
    exact .tokenUnset turn (Bool.eq_false_iff.mpr unset)

theorem deliver_moves {outcome : PushOutcome T E} (here : task.phase = .won late outcome) :
    Moves answers task .deliver (task.deliver late outcome) := by
  cases outcome with
  | cancelled => exact .stop here
  | event event =>
      have push : Moves answers task .deliver _ := .push here
      match event, push with
      | some (.next _), push => exact push
      | some .complete, push => exact push
      | some (.error _), push => exact push
      | none, push => exact push

/-- Every step of the task is one of its moves. -/
theorem step_moves {action : PushAction} (performed : step answers task action = some next) :
    Moves answers task action next := by
  cases action with
  | cancel =>
      cases performed
      exact .cancel
  | startIteration =>
      cases here : task.phase with
      | looping =>
          simp only [step, here, Option.some.injEq] at performed
          exact performed ▸ .startIteration here
      | _ => simp [step, here] at performed
  | pollStream =>
      cases here : task.phase with
      | racing late =>
          simp only [step, here, Option.some.injEq] at performed
          exact performed ▸ pollStream_moves (here ▸ .first late)
      | streamNext late =>
          simp only [step, here, Option.some.injEq] at performed
          exact performed ▸ pollStream_moves (here ▸ .second late)
      | _ => simp [step, here] at performed
  | pollToken =>
      cases here : task.phase with
      | racing late =>
          simp only [step, here, Option.some.injEq] at performed
          exact performed ▸ pollToken_moves (here ▸ .first late)
      | tokenNext late =>
          simp only [step, here, Option.some.injEq] at performed
          exact performed ▸ pollToken_moves (here ▸ .second late)
      | _ => simp [step, here] at performed
  | deliver =>
      cases here : task.phase with
      | won late outcome =>
          simp only [step, here, Option.some.injEq] at performed
          exact performed ▸ deliver_moves here
      | _ => simp [step, here] at performed
  | signal =>
      cases here : task.phase with
      | returned =>
          simp only [step, here, Option.some.injEq] at performed
          exact performed ▸ .signal here
      | _ => simp [step, here] at performed

/-! ### Every callback is an answer of the stream -/

/-- The callbacks invoked so far. -/
def invoked (task : PushTask T E) : List (Callback T E) :=
  task.callbacks.map Prod.snd

/-- The callback of an answer the race has won and not handed out yet. -/
def held : PushPhase T E → List (Callback T E)
  | .won _ (.event event) => [Callback.of event]
  | _ => []

/-- The loop is left. -/
def isOver (task : PushTask T E) : Bool :=
  match task.phase with
  | .returned | .signalled => true
  | _ => false

/-- What was answered is invoked or held, and an end is invoked last. -/
structure Pushed (answers : Nat → Poll (Option (Event T E))) (task : PushTask T E) :
    Prop where
  balance : streamed answers task.polls = task.invoked ++ held task.phase
  going : task.isOver = false → Unended Callback.isEnd task.invoked
  once : Unended Callback.isEnd task.invoked ∨ EndsOnce Callback.isEnd task.invoked

theorem pushed_spawn (answers : Nat → Poll (Option (Event T E))) :
    Pushed answers spawn := by
  refine ⟨rfl, ?_, Or.inl unended_nil⟩
  intro _
  exact unended_nil

/-- A phase that holds no answer and leaves the loop where it was. -/
theorem Pushed.rephase (pushed : Pushed answers task)
    (polled : streamed answers next.polls = streamed answers task.polls)
    (same : next.callbacks = task.callbacks) (empty : held task.phase = [])
    (free : held next.phase = []) (open_ : task.isOver = false ∨ next.isOver = true) :
    Pushed answers next := by
  have invoked_eq : next.invoked = task.invoked := congrArg (List.map Prod.snd) same
  constructor
  · rw [polled, pushed.balance, empty, free, invoked_eq]
  · intro going
    rw [invoked_eq]
    rcases open_ with before | after
    · exact pushed.going before
    · rw [after] at going
      cases going
  · rw [invoked_eq]
    exact pushed.once

theorem StreamTurn.held_eq {phase : PushPhase T E} (turn : StreamTurn phase late after) :
    held phase = [] ∧ held after = [] := by
  cases turn <;> exact ⟨rfl, rfl⟩

theorem StreamTurn.isOver_eq (turn : StreamTurn task.phase late after) : task.isOver = false := by
  rw [isOver]
  generalize task.phase = phase at turn
  cases turn <;> rfl

theorem TokenTurn.held_eq {phase : PushPhase T E} (turn : TokenTurn phase late after) :
    held phase = [] ∧ held after = [] := by
  cases turn <;> exact ⟨rfl, rfl⟩

theorem TokenTurn.isOver_eq (turn : TokenTurn task.phase late after) : task.isOver = false := by
  rw [isOver]
  generalize task.phase = phase at turn
  cases turn <;> rfl

theorem pushed_step {action : PushAction} (pushed : Pushed answers task)
    (performed : step answers task action = some next) : Pushed answers next := by
  cases step_moves performed with
  | cancel => exact ⟨pushed.balance, pushed.going, pushed.once⟩
  | startIteration here =>
      refine pushed.rephase rfl rfl ?_ rfl (Or.inl ?_)
      · simp [here, held]
      · rw [isOver, here]
  | found turn answer =>
      have open_ := pushed.going turn.isOver_eq
      constructor
      · rw [streamed_ready answer, pushed.balance, turn.held_eq.1, List.append_nil]
        rfl
      · intro _
        exact open_
      · exact pushed.once
  | silent turn answer =>
      exact pushed.rephase (streamed_pending answer) rfl turn.held_eq.1 turn.held_eq.2
        (Or.inl turn.isOver_eq)
  | tokenSet turn _ =>
      exact pushed.rephase rfl rfl turn.held_eq.1 rfl (Or.inl turn.isOver_eq)
  | tokenUnset turn _ =>
      exact pushed.rephase rfl rfl turn.held_eq.1 turn.held_eq.2 (Or.inl turn.isOver_eq)
  | stop here =>
      refine pushed.rephase rfl rfl ?_ rfl (Or.inr rfl)
      simp [here, held]
  | @push late event here =>
      have open_ := pushed.going (by rw [isOver, here])
      have invoked_eq : ({ task with
          phase := if (Callback.of event).isEnd then .returned else .looping
          callbacks := task.callbacks ++ [(late, Callback.of event)] } :
          PushTask T E).invoked = task.invoked ++ [Callback.of event] := by
        simp [invoked]
      constructor
      · rw [invoked_eq, pushed.balance, here]
        by_cases ends : (Callback.of event).isEnd = true <;> simp [held, ends]
      · intro going
        rw [invoked_eq]
        by_cases ends : (Callback.of event).isEnd = true
        · simp [isOver, ends] at going
        · exact unended_append.mpr
            ⟨open_, unended_singleton.mpr (Bool.eq_false_iff.mpr ends)⟩
      · rw [invoked_eq]
        by_cases ends : (Callback.of event).isEnd = true
        · exact Or.inr (endsOnce_snoc.mpr ⟨open_, ends⟩)
        · exact Or.inl (unended_append.mpr
            ⟨open_, unended_singleton.mpr (Bool.eq_false_iff.mpr ends)⟩)
  | signal here =>
      refine pushed.rephase rfl rfl ?_ rfl (Or.inr rfl)
      simp [here, held]

theorem pushed_run {actions : List PushAction} {final : PushTask T E}
    (performed : run (step answers) spawn actions = some final) : Pushed answers final :=
  run_invariant (Pushed answers) (pushed_spawn answers)
    (fun _ _ _ pushed moved => pushed_step pushed moved) performed

/-! ### Nobody cancels -/

/-- A task nobody has cancelled, on a stream that ends with poll `last`: the end is
still to be polled, or held, or invoked. -/
def OnTheWay (last : Nat) (task : PushTask T E) : Prop :=
  match task.phase with
  | .looping | .racing _ | .tokenNext _ | .streamNext _ =>
      task.cancelled = false ∧ task.polls ≤ last
  | .won _ (.event event) =>
      task.cancelled = false ∧
        if (Callback.of event).isEnd then task.polls = last + 1 else task.polls ≤ last
  | .won _ .cancelled => False
  | .returned => task.cancelled = false ∧ task.polls = last + 1
  | .signalled => task.polls = last + 1

/-- How many steps the task takes at most until it is over, when nobody cancels. -/
def toGo (last : Nat) (task : PushTask T E) : Nat :=
  match task.phase with
  | .looping => 4 * (last + 1 - task.polls) + 3
  | .racing _ => 4 * (last + 1 - task.polls) + 2
  | .tokenNext _ => 4 * (last + 1 - task.polls) + 3
  | .streamNext _ => 4 * (last + 1 - task.polls) + 1
  | .won _ _ => 4 * (last + 1 - task.polls) + 4
  | .returned => 1
  | .signalled => 0

theorem OnTheWay.of_streamTurn (way : OnTheWay last task)
    (turn : StreamTurn task.phase late after) :
    task.cancelled = false ∧ task.polls ≤ last := by
  rw [OnTheWay] at way
  generalize task.phase = phase at way turn
  cases turn <;> exact way

theorem OnTheWay.of_tokenTurn (way : OnTheWay last task) (turn : TokenTurn task.phase late after) :
    task.cancelled = false ∧ task.polls ≤ last := by
  rw [OnTheWay] at way
  generalize task.phase = phase at way turn
  cases turn <;> exact way

theorem StreamTurn.toGo_gt (turn : StreamTurn task.phase late after) (last : Nat) :
    4 * (last + 1 - task.polls) < toGo last task := by
  rw [toGo]
  generalize task.phase = phase at turn
  cases turn <;> simp only <;> omega

/-- A step that is not a cancellation stays on the way and has less to go. -/
theorem onTheWay_step (firstEnd : FirstEnd answers last) {action : PushAction}
    (way : OnTheWay last task) (uncancelled : action ≠ .cancel)
    (performed : step answers task action = some next) :
    OnTheWay last next ∧ toGo last next < toGo last task := by
  obtain ⟨final, answered, ends⟩ := firstEnd.ends
  cases step_moves performed with
  | cancel => exact absurd rfl uncancelled
  | startIteration here =>
      simp only [OnTheWay, here] at way
      refine ⟨way, ?_⟩
      simp only [toGo, here]
      omega
  | @found late after event turn answer =>
      have now := way.of_streamTurn turn
      have before := turn.toGo_gt last
      by_cases closes : (Callback.of event).isEnd = true
      · -- the first end is the one at `last`
        have polls_eq : task.polls = last := by
          rcases Nat.lt_or_eq_of_le now.2 with early | same
          · have going := firstEnd.first _ early event answer
            rw [closes] at going
            cases going
          · exact same
        simp only [OnTheWay, toGo, closes, if_true, now.1, polls_eq, true_and] at before ⊢
        omega
      · have polls_ne : task.polls ≠ last := by
          intro same
          rw [same, answered] at answer
          cases answer
          exact closes ends
        simp only [OnTheWay, if_neg closes, now.1, true_and]
        refine ⟨by omega, Nat.lt_of_le_of_lt ?_ before⟩
        simp only [toGo]
        omega
  | silent turn answer =>
      have now := way.of_streamTurn turn
      have polls_ne : task.polls ≠ last := by
        intro same
        rw [same, answered] at answer
        cases answer
      rw [OnTheWay, toGo, toGo]
      generalize task.phase = phase at turn
      cases turn <;> simp only [now.1, true_and] <;> omega
  | tokenSet turn set =>
      have now := way.of_tokenTurn turn
      rw [now.1] at set
      cases set
  | tokenUnset turn _ =>
      have now := way.of_tokenTurn turn
      rw [OnTheWay, toGo, toGo]
      generalize task.phase = phase at turn
      cases turn <;> simp only [now.1, true_and] <;> omega
  | stop here => simp only [OnTheWay, here] at way
  | @push late event here =>
      simp only [OnTheWay, here] at way
      by_cases closes : (Callback.of event).isEnd = true
      · simp only [closes, if_true] at way
        refine ⟨?_, ?_⟩
        · simp only [OnTheWay, closes, if_true]
          exact way
        · simp only [toGo, here, closes, if_true]
          omega
      · simp only [if_neg closes] at way
        refine ⟨?_, ?_⟩
        · simp only [OnTheWay, if_neg closes]
          exact way
        · simp only [toGo, here, if_neg closes]
          omega
  | signal here =>
      simp only [OnTheWay, here] at way
      refine ⟨way.2, ?_⟩
      simp only [toGo, here]
      omega

/-- A run without cancellation is at most `4 * last + 7` steps long. -/
theorem onTheWay_run (firstEnd : FirstEnd answers last) {actions : List PushAction}
    {final : PushTask T E} (performed : run (step answers) spawn actions = some final)
    (uncancelled : .cancel ∉ actions) :
    OnTheWay last final ∧ actions.length + toGo last final ≤ 4 * last + 7 := by
  refine run_history_invariant
    (fun past task => .cancel ∉ past →
      OnTheWay last task ∧ past.length + toGo last task ≤ 4 * last + 7)
    ?_ ?_ performed uncancelled
  · intro _
    refine ⟨⟨rfl, Nat.zero_le last⟩, ?_⟩
    simp only [spawn, toGo, List.length_nil]
    omega
  · intro past task action next before moved free
    rw [List.mem_append, not_or] at free
    have ⟨way, bound⟩ := before free.1
    have other : action ≠ .cancel := fun same => free.2 (same ▸ List.mem_singleton_self _)
    have ⟨wayNext, less⟩ := onTheWay_step firstEnd way other moved
    refine ⟨wayNext, ?_⟩
    rw [List.length_append, List.length_singleton]
    omega

/-- Until the end of the loop is signalled, the task has a step to take. -/
theorem step_enabled (answers : Nat → Poll (Option (Event T E)))
    (unsignalled : task.phase ≠ .signalled) :
    ∃ action next, action ≠ .cancel ∧ step answers task action = some next := by
  cases here : task.phase with
  | looping => exact ⟨.startIteration, _, nofun, by simp only [step, here]; rfl⟩
  | racing late => exact ⟨.pollStream, _, nofun, by simp only [step, here]; rfl⟩
  | tokenNext late => exact ⟨.pollToken, _, nofun, by simp only [step, here]; rfl⟩
  | streamNext late => exact ⟨.pollStream, _, nofun, by simp only [step, here]; rfl⟩
  | won late outcome => exact ⟨.deliver, _, nofun, by simp only [step, here]; rfl⟩
  | returned => exact ⟨.signal, _, nofun, by simp only [step, here]; rfl⟩
  | signalled => exact absurd here unsignalled

/-! ### After the cancellation -/

/-- No callback was invoked by an iteration started after the cancellation. -/
def Silent (task : PushTask T E) : Prop :=
  ∀ call ∈ task.callbacks, call.1 = false

/-- Silent, and nothing is held that would break the silence. -/
def StaysSilent (task : PushTask T E) : Prop :=
  task.Silent ∧ ∀ event, task.phase ≠ .won true (.event event)

/-- A poll of the stream by an iteration started after the cancellation meets a
stream that is not ready. -/
def LateQuiet (answers : Nat → Poll (Option (Event T E))) (task : PushTask T E)
    (action : PushAction) : Prop :=
  action = .pollStream → task.phase = .racing true ∨ task.phase = .streamNext true →
    answers task.polls = .pending

theorem silent_snoc {callback : Callback T E}
    (added : next.callbacks = task.callbacks ++ [(late, callback)]) :
    next.Silent ↔ task.Silent ∧ late = false := by
  simp [Silent, added, or_imp, forall_and]

theorem StreamTurn.late_iff {phase : PushPhase T E} (turn : StreamTurn phase late after) :
    phase = .racing true ∨ phase = .streamNext true ↔ late = true := by
  cases turn <;> simp

/-- A phase that holds no answer is as silent as the callbacks. -/
theorem staysSilent_of_empty (empty : held task.phase = []) : task.StaysSilent ↔ task.Silent := by
  refine ⟨And.left, fun silent => ⟨silent, ?_⟩⟩
  intro event here
  rw [here] at empty
  cases empty

theorem staysSilent_spawn : (spawn : PushTask T E).StaysSilent := by
  refine (staysSilent_of_empty rfl).mpr ?_
  intro call listed
  cases listed

/-- A step keeps the silence exactly when it meets the condition. -/
theorem staysSilent_step {action : PushAction} (silent : task.StaysSilent)
    (performed : step answers task action = some next) :
    next.StaysSilent ↔ LateQuiet answers task action := by
  cases step_moves performed with
  | cancel => exact iff_of_true silent nofun
  | startIteration here =>
      exact iff_of_true ((staysSilent_of_empty rfl).mpr silent.1) nofun
  | @found late after event turn answer =>
      rw [StaysSilent, LateQuiet, turn.late_iff, answer]
      cases late with
      | false => exact iff_of_true ⟨silent.1, nofun⟩ nofun
      | true =>
          refine iff_of_false ?_ ?_
          · exact fun both => both.2 event rfl
          · exact fun quiet => nomatch quiet rfl rfl
  | silent turn answer =>
      exact iff_of_true ((staysSilent_of_empty turn.held_eq.2).mpr silent.1)
        fun _ _ => answer
  | tokenSet turn _ => exact iff_of_true ((staysSilent_of_empty rfl).mpr silent.1) nofun
  | tokenUnset turn _ =>
      exact iff_of_true ((staysSilent_of_empty turn.held_eq.2).mpr silent.1) nofun
  | stop here => exact iff_of_true ((staysSilent_of_empty rfl).mpr silent.1) nofun
  | @push late event here =>
      refine iff_of_true ((staysSilent_of_empty ?_).mpr ?_) nofun
      · by_cases ends : (Callback.of event).isEnd = true <;> simp [ends, held]
      · apply (silent_snoc rfl).mpr
        cases late with
        | false => exact ⟨silent.1, rfl⟩
        | true => exact absurd here (silent.2 event)
  | signal here => exact iff_of_true ((staysSilent_of_empty rfl).mpr silent.1) nofun

/-- A broken silence does not come back. -/
theorem not_staysSilent_step {action : PushAction} (broken : ¬ task.StaysSilent)
    (performed : step answers task action = some next) : ¬ next.StaysSilent := by
  cases step_moves performed with
  | cancel => exact broken
  | startIteration here =>
      have empty : held task.phase = [] := by simp [here, held]
      exact fun later => broken ((staysSilent_of_empty empty).mpr later.1)
  | found turn _ =>
      exact fun later => broken ((staysSilent_of_empty turn.held_eq.1).mpr later.1)
  | silent turn _ =>
      exact fun later => broken ((staysSilent_of_empty turn.held_eq.1).mpr later.1)
  | tokenSet turn _ =>
      exact fun later => broken ((staysSilent_of_empty turn.held_eq.1).mpr later.1)
  | tokenUnset turn _ =>
      exact fun later => broken ((staysSilent_of_empty turn.held_eq.1).mpr later.1)
  | stop here =>
      have empty : held task.phase = [] := by simp [here, held]
      exact fun later => broken ((staysSilent_of_empty empty).mpr later.1)
  | push here =>
      intro later
      have both := (silent_snoc rfl).mp later.1
      refine broken ⟨both.1, ?_⟩
      intro other same
      rw [here, both.2] at same
      cases same
  | signal here =>
      have empty : held task.phase = [] := by simp [here, held]
      exact fun later => broken ((staysSilent_of_empty empty).mpr later.1)

end PushTask

/-! ### Whole runs -/

/-- What a run of the push loop owes its observer. -/
structure SilentlyPushed (answers : Nat → Poll (Option (Event T E)))
    (actions : List PushAction) (final : PushTask T E) : Prop where
  /-- The callbacks are the stream's, in order, the end last and at most once. -/
  inOrder : ∃ count, final.invoked = streamed answers count
  once : Unended Callback.isEnd final.invoked ∨ EndsOnce Callback.isEnd final.invoked
  /-- Without cancellation the loop of a stream that ends takes a bounded number of
  steps, has a step to take until it is over, and then has invoked all of it. -/
  all : .cancel ∉ actions → ∀ last, FirstEnd answers last →
    actions.length ≤ 4 * last + 7 ∧
    (final.phase ≠ .signalled →
      ∃ action next, action ≠ .cancel ∧ PushTask.step answers final action = some next) ∧
    (final.isOver = true → final.invoked = streamed answers (last + 1) ∧
      EndsOnce Callback.isEnd final.invoked)
  /-- Iterations started after the cancellation invoke nothing. -/
  silent : final.Silent

/-- A run of the push loop that holds no undelivered answer keeps its promises exactly
when no iteration started after the cancellation polls the stream while it is ready. -/
theorem unsubscribe_silent_iff (answers : Nat → Poll (Option (Event T E)))
    (actions : List PushAction) (final : PushTask T E)
    (performed : run (PushTask.step answers) .spawn actions = some final)
    (delivered : ∀ late outcome, final.phase ≠ .won late outcome) :
    SilentlyPushed answers actions final ↔
      StepsMeet (PushTask.step answers) (PushTask.LateQuiet answers) .spawn actions := by
  have pushed := PushTask.pushed_run performed
  have empty : PushTask.held final.phase = [] := by
    cases here : final.phase with
    | won late outcome => exact absurd here (delivered late outcome)
    | _ => rfl
  have balance := pushed.balance
  rw [empty, List.append_nil] at balance
  have silent_iff := final_iff_stepsMeet (fun _ : PushTask T E => True)
    PushTask.StaysSilent (PushTask.LateQuiet answers) (fun _ _ _ _ _ => trivial)
    (fun _ _ _ _ silent moved => PushTask.staysSilent_step silent moved)
    (fun _ _ _ _ broken moved => PushTask.not_staysSilent_step broken moved)
    trivial PushTask.staysSilent_spawn performed
  rw [← silent_iff, PushTask.staysSilent_of_empty empty]
  refine ⟨SilentlyPushed.silent, fun silent => ⟨⟨_, balance.symm⟩, pushed.once, ?_, silent⟩⟩
  intro uncancelled last firstEnd
  obtain ⟨way, bound⟩ := PushTask.onTheWay_run firstEnd performed uncancelled
  refine ⟨by omega, PushTask.step_enabled answers, ?_⟩
  intro finished
  have polls_eq : final.polls = last + 1 := by
    cases here : final.phase with
    | returned =>
        simp only [PushTask.OnTheWay, here] at way
        exact way.2
    | signalled =>
        simp only [PushTask.OnTheWay, here] at way
        exact way
    | _ => simp [PushTask.isOver, here] at finished
  rw [← balance, polls_eq]
  exact ⟨rfl, firstEnd.endsOnce⟩

/-- A stream of one value and then the end of the stream, always ready. -/
def oneReady : Nat → Poll (Option (Event Nat Nat))
  | 0 => .ready (some (.next 7))
  | _ => .ready none

/-- One value is pushed, the subscription is dropped, and the next iteration finds the
token first. -/
theorem unsubscribe_silent_token_first :
    SilentlyPushed oneReady
      [.startIteration, .pollStream, .deliver, .cancel, .startIteration, .pollToken,
        .deliver, .signal]
      { cancelled := true, polls := 1, phase := .signalled,
        callbacks := [(false, .next 7)] } := by
  refine (unsubscribe_silent_iff oneReady _ _ rfl ?_).mpr ?_
  · intro _ _ won
    cases won
  -- only the poll made before the cancellation asks the stream
  refine ⟨nofun, ?_⟩
  rintro _ ⟨⟩
  refine ⟨fun _ late => by simp [PushTask.spawn] at late, ?_⟩
  rintro _ ⟨⟩
  refine ⟨nofun, ?_⟩
  rintro _ ⟨⟩
  refine ⟨nofun, ?_⟩
  rintro _ ⟨⟩
  refine ⟨nofun, ?_⟩
  rintro _ ⟨⟩
  refine ⟨nofun, ?_⟩
  rintro _ ⟨⟩
  refine ⟨nofun, ?_⟩
  rintro _ ⟨⟩
  exact ⟨nofun, fun _ _ => trivial⟩

/-- An iteration started after the cancellation polls the stream first and pushes its
value. -/
theorem unsubscribe_noisy_stream_first :
    run (PushTask.step oneReady) .spawn
        [.cancel, .startIteration, .pollStream, .deliver] =
      some { cancelled := true, polls := 1, phase := .looping,
             callbacks := [(true, .next 7)] } ∧
    ¬ SilentlyPushed oneReady [.cancel, .startIteration, .pollStream, .deliver]
      { cancelled := true, polls := 1, phase := .looping,
        callbacks := [(true, .next 7)] } := by
  refine ⟨rfl, ?_⟩
  intro kept
  have silent := kept.silent (true, .next 7) (List.mem_singleton_self _)
  cases silent

end IceRpc
