/-
Module: IceRpc.Lib.Run
Purpose: Runs of a partial step function and the invariant rules over them.
Trusted boundary: none
Main exports: run, run_append_eq_some, run_snoc_eq_some, run_invariant,
  run_history_invariant, Throughout, StepsMeet, stepsMeet_cons, stepsMeet_congr,
  run_invariant_of_stepsMeet, throughout_iff_stepsMeet, final_iff_stepsMeet, guarded,
  run_guarded, stepsMeet_guarded,
  run_map, labels, run_labels_simulated, run_component_invariant, filterMap_labels, trail,
  trail_append, run_trail_invariant, forall_mem_trail_iff, foldl_keeps
-/
import Mathlib.Data.List.Induction

namespace IceRpc.Lib

variable {σ α : Type*} {step : σ → α → Option σ}
variable {state final : σ} {actions : List α}

/-- Perform the actions of a list in order.  A refused action refuses the whole
run, so `run step s as = some t` says that every action of `as` was enabled. -/
def run (step : σ → α → Option σ) : σ → List α → Option σ
  | state, [] => some state
  | state, action :: actions =>
      (step state action).bind fun next => run step next actions

@[simp] theorem run_nil (state : σ) : run step state [] = some state := rfl

@[simp] theorem run_cons (state : σ) (action : α) (actions : List α) :
    run step state (action :: actions) =
      (step state action).bind fun next => run step next actions := rfl

theorem run_append (state : σ) (first second : List α) :
    run step state (first ++ second) =
      (run step state first).bind fun middle => run step middle second := by
  induction first generalizing state with
  | nil => rfl
  | cons action actions ih =>
      cases performed : step state action with
      | none => simp [performed]
      | some next => simpa [performed] using ih next

/-- A run of a concatenation passes through an intermediate state. -/
theorem run_append_eq_some {first second : List α} :
    run step state (first ++ second) = some final ↔
      ∃ middle, run step state first = some middle ∧
        run step middle second = some final := by
  rw [run_append, Option.bind_eq_some_iff]

/-- The last action of a run, split off. -/
theorem run_snoc_eq_some {action : α} :
    run step state (actions ++ [action]) = some final ↔
      ∃ middle, run step state actions = some middle ∧
        step middle action = some final := by
  simp [run_append_eq_some]

/-- Invariant rule with history: the invariant may mention every action performed
so far, so facts about the past need no ghost field in the state. -/
theorem run_history_invariant (inv : List α → σ → Prop) {initial : σ} (start : inv [] initial)
    (preserved : ∀ past state action next, inv past state →
      step state action = some next → inv (past ++ [action]) next)
    (performed : run step initial actions = some final) : inv actions final := by
  induction actions using List.reverseRecOn generalizing final with
  | nil =>
      cases performed
      exact start
  | append_singleton past action ih =>
      obtain ⟨middle, before, last⟩ := run_snoc_eq_some.mp performed
      exact preserved past middle action final (ih before) last

/-- Invariant rule: what holds initially and is kept by every step holds after
every run. -/
theorem run_invariant (inv : σ → Prop) {initial : σ} (start : inv initial)
    (preserved : ∀ state action next, inv state → step state action = some next → inv next)
    (performed : run step initial actions = some final) : inv final :=
  run_history_invariant (fun _ => inv) start
    (fun _ state action next => preserved state action next) performed

/-! ### What holds all along a run -/

/-- The property holds in every state the run passes through. -/
def Throughout (step : σ → α → Option σ) (holds : σ → Prop) : σ → List α → Prop
  | state, [] => holds state
  | state, action :: actions =>
      holds state ∧ ∀ next, step state action = some next →
        Throughout step holds next actions

/-- Every step of the run meets the condition, in the state it is taken from. -/
def StepsMeet (step : σ → α → Option σ) (cond : σ → α → Prop) : σ → List α → Prop
  | _, [] => True
  | state, action :: actions =>
      cond state action ∧ ∀ next, step state action = some next →
        StepsMeet step cond next actions

theorem Throughout.head {holds : σ → Prop} (throughout : Throughout step holds state actions) :
    holds state := by
  cases actions with
  | nil => exact throughout
  | cons action actions => exact throughout.1

/-- A run meets a condition step by step. -/
theorem stepsMeet_cons {cond : σ → α → Prop} {next : σ} {action : α}
    (first : step state action = some next) (now : cond state action)
    (later : StepsMeet step cond next actions) : StepsMeet step cond state (action :: actions) := by
  refine ⟨now, ?_⟩
  intro other performed
  cases first.symm.trans performed
  exact later

/-- Invariant rule for runs under a condition: what the steps that meet the condition
keep holds after every run whose steps all meet it. -/
theorem run_invariant_of_stepsMeet (inv : σ → Prop) (cond : σ → α → Prop)
    (preserved : ∀ state action next, inv state → cond state action →
      step state action = some next → inv next) (start : inv state)
    (meets : StepsMeet step cond state actions) (performed : run step state actions = some final) :
    inv final := by
  induction actions generalizing state with
  | nil =>
      cases performed
      exact start
  | cons action actions ih =>
      obtain ⟨next, first, rest⟩ := Option.bind_eq_some_iff.mp performed
      exact ih (preserved state action next start meets.1 first) (meets.2 next first) rest

/-- Conditions that agree on the steps that can be taken agree on a run. -/
theorem stepsMeet_congr {cond other : σ → α → Prop}
    (agree : ∀ state action next, step state action = some next →
      (cond state action ↔ other state action)) (performed : run step state actions = some final) :
    StepsMeet step cond state actions ↔ StepsMeet step other state actions := by
  induction actions generalizing state with
  | nil => exact Iff.rfl
  | cons action actions ih =>
      obtain ⟨next, first, rest⟩ := Option.bind_eq_some_iff.mp performed
      simp only [StepsMeet, first, Option.some.injEq, forall_eq', ih rest,
        agree state action next first]

/-- When a step keeps the property exactly if it meets the condition, a run keeps
it all along exactly if all its steps meet the condition. -/
theorem throughout_iff_stepsMeet (inv holds : σ → Prop) (cond : σ → α → Prop)
    (kept : ∀ state action next, inv state → step state action = some next → inv next)
    (exact_ : ∀ state action next, inv state → holds state →
      step state action = some next → (holds next ↔ cond state action)) (start : inv state)
    (now : holds state) (performed : run step state actions = some final) :
    Throughout step holds state actions ↔ StepsMeet step cond state actions := by
  induction actions generalizing state with
  | nil => exact ⟨fun _ => trivial, fun _ => now⟩
  | cons action actions ih =>
      obtain ⟨next, first, rest⟩ := Option.bind_eq_some_iff.mp performed
      have stepExact := exact_ state action next start now first
      have invNext := kept state action next start first
      constructor
      · intro throughout
        have nextHolds := (throughout.2 next first).head
        refine ⟨stepExact.mp nextHolds, ?_⟩
        intro other same
        cases first.symm.trans same
        exact (ih invNext nextHolds rest).mp (throughout.2 next first)
      · intro meets
        refine ⟨now, ?_⟩
        intro other same
        cases first.symm.trans same
        have nextHolds := stepExact.mpr meets.1
        exact (ih invNext nextHolds rest).mpr (meets.2 next first)

/-- When a step keeps the property exactly if it meets the condition and a lost
property never comes back, the last state of a run has it exactly if all steps of the
run meet the condition. -/
theorem final_iff_stepsMeet (inv holds : σ → Prop) (cond : σ → α → Prop)
    (kept : ∀ state action next, inv state → step state action = some next → inv next)
    (exact_ : ∀ state action next, inv state → holds state →
      step state action = some next → (holds next ↔ cond state action))
    (lost : ∀ state action next, inv state → ¬ holds state →
      step state action = some next → ¬ holds next) (start : inv state) (now : holds state)
    (performed : run step state actions = some final) :
    holds final ↔ StepsMeet step cond state actions := by
  have neverAgain : ∀ {rest : List α} {here : σ}, inv here → ¬ holds here →
      run step here rest = some final → ¬ holds final := by
    intro rest here invHere gone later
    exact (run_invariant (fun s => inv s ∧ ¬ holds s) ⟨invHere, gone⟩
      (fun s act next both moved =>
        ⟨kept s act next both.1 moved, lost s act next both.1 both.2 moved⟩) later).2
  induction actions generalizing state with
  | nil =>
      cases performed
      exact ⟨fun _ => trivial, fun _ => now⟩
  | cons action actions ih =>
      obtain ⟨next, first, rest⟩ := Option.bind_eq_some_iff.mp performed
      have stepExact := exact_ state action next start now first
      have invNext := kept state action next start first
      constructor
      · intro finalHolds
        have nextHolds : holds next := by
          by_contra gone
          exact neverAgain invNext gone rest finalHolds
        refine ⟨stepExact.mp nextHolds, ?_⟩
        intro other same
        cases first.symm.trans same
        exact (ih invNext nextHolds rest).mp finalHolds
      · intro meets
        have nextHolds := stepExact.mpr meets.1
        exact (ih invNext nextHolds rest).mpr (meets.2 next first)

/-! ### Actions that are allowed -/

/-- The step function that refuses all but the allowed actions. -/
def guarded (allowed : α → Bool) (step : σ → α → Option σ) (state : σ) (action : α) :
    Option σ :=
  if allowed action then step state action else none

theorem guarded_eq_some {allowed : α → Bool} {next : σ} {action : α}
    (performed : guarded allowed step state action = some next) :
    allowed action = true ∧ step state action = some next := by
  rw [guarded] at performed
  split at performed
  · exact ⟨‹_›, performed⟩
  · cases performed

/-- A run of allowed actions is not affected by the guard. -/
theorem run_guarded {allowed : α → Bool} (every : ∀ action ∈ actions, allowed action = true)
    (state : σ) : run (guarded allowed step) state actions = run step state actions := by
  induction actions generalizing state with
  | nil => rfl
  | cons action actions ih =>
      obtain ⟨first, rest⟩ := List.forall_mem_cons.mp every
      rw [run_cons, run_cons, guarded, if_pos first]
      simp only [ih rest]

theorem stepsMeet_guarded {allowed : α → Bool} {cond : σ → α → Prop}
    (every : ∀ action ∈ actions, allowed action = true) (state : σ) :
    StepsMeet (guarded allowed step) cond state actions ↔
      StepsMeet step cond state actions := by
  induction actions generalizing state with
  | nil => exact Iff.rfl
  | cons action actions ih =>
      obtain ⟨first, rest⟩ := List.forall_mem_cons.mp every
      simp only [StepsMeet, guarded, if_pos first, ih rest]

/-! ### Simulation -/

/-- When a machine does at the images of another's states what the other does, so do
its runs. -/
theorem run_map {τ : Type*} {stepAt : τ → α → Option τ} (image : σ → τ)
    (agree : ∀ state action, stepAt (image state) action = (step state action).map image)
    (state : σ) (actions : List α) :
    run stepAt (image state) actions = (run step state actions).map image := by
  induction actions generalizing state with
  | nil => rfl
  | cons action actions ih =>
      rw [run_cons, run_cons, agree]
      cases step state action with
      | none => rfl
      | some next => exact ih next

/-! ### The part of a run that concerns one component -/

variable {τ β : Type*}

/-- The actions of a component performed along a run: `label` names what the
component does in a step, if it takes part. -/
def labels (step : σ → α → Option σ) (label : σ → α → Option β) :
    σ → List α → List β
  | _, [] => []
  | state, action :: actions =>
      match step state action with
      | none => []
      | some next => (label state action).toList ++ labels step label next actions

/-- Component rule: when every step of a system is seen by a component as one of its
own moves or not at all, what the moves of the component keep holds of it after
every run of the system. -/
theorem run_component_invariant (inv : σ → Prop) (view : σ → τ) (label : σ → α → Option β)
    (moves : τ → β → τ → Prop)
    (kept : ∀ state action next, inv state → step state action = some next → inv next)
    (moved : ∀ state action next own, inv state → step state action = some next →
      label state action = some own → moves (view state) own (view next))
    (rested : ∀ state action next, inv state → step state action = some next →
      label state action = none → view next = view state) (holds : List β → τ → Prop)
    (preserved : ∀ past here own there, holds past here → moves here own there →
      holds (past ++ [own]) there) (past : List β) (start : inv state)
    (now : holds past (view state)) (performed : run step state actions = some final) :
    holds (past ++ labels step label state actions) (view final) := by
  induction actions generalizing state past with
  | nil =>
      cases performed
      simpa [labels] using now
  | cons action actions ih =>
      obtain ⟨next, first, rest⟩ := Option.bind_eq_some_iff.mp performed
      have invNext := kept state action next start first
      simp only [labels, first]
      cases own : label state action with
      | none =>
          rw [← rested state action next start first own] at now
          exact ih _ invNext now rest
      | some act =>
          have move := moved state action next act start first own
          have later := ih _ invNext (preserved past _ act _ now move) rest
          simpa using later

/-- What an observation of single actions makes of the projected run. -/
theorem filterMap_labels {γ : Type*} (label : σ → α → Option β) (observe : α → Option γ)
    (observeOwn : β → Option γ)
    (agree : ∀ state action next, step state action = some next →
      (label state action).bind observeOwn = observe action)
    (performed : run step state actions = some final) :
    (labels step label state actions).filterMap observeOwn =
      actions.filterMap observe := by
  induction actions generalizing state with
  | nil => rfl
  | cons action actions ih =>
      obtain ⟨next, first, rest⟩ := Option.bind_eq_some_iff.mp performed
      have here := agree state action next first
      simp only [labels, first, List.filterMap_append, ih rest]
      rw [List.filterMap_cons, ← here]
      cases label state action with
      | none => rfl
      | some act =>
          cases observed : observeOwn act <;>
            simp [observed]

/-! ### What the steps of a run write down -/

/-- What is written down along a run, by every step in the state it is taken from. -/
def trail (step : σ → α → Option σ) (log : σ → α → List β) : σ → List α → List β
  | _, [] => []
  | state, action :: actions =>
      match step state action with
      | none => []
      | some next => log state action ++ trail step log next actions

theorem trail_append (log : σ → α → List β) {middle : σ} {first : List α} (second : List α)
    (performed : run step state first = some middle) :
    trail step log state (first ++ second) =
      trail step log state first ++ trail step log middle second := by
  induction first generalizing state with
  | nil =>
      cases performed
      rfl
  | cons action actions ih =>
      obtain ⟨next, moved, rest⟩ := Option.bind_eq_some_iff.mp performed
      simp only [List.cons_append, trail, moved, ih rest, List.append_assoc]

/-- Invariant rule with a log: the invariant may mention the actions performed so far
and everything they wrote down. -/
theorem run_trail_invariant (log : σ → α → List β) (inv : List α → List β → σ → Prop) {initial : σ}
    (start : inv [] [] initial)
    (preserved : ∀ past written state action next, inv past written state →
      step state action = some next →
      inv (past ++ [action]) (written ++ log state action) next)
    (performed : run step initial actions = some final) :
    inv actions (trail step log initial actions) final := by
  have onward : ∀ (actions past : List α) (written : List β) (state : σ),
      inv past written state → run step state actions = some final →
      inv (past ++ actions) (written ++ trail step log state actions) final := by
    intro actions
    induction actions with
    | nil =>
        intro past written state now performed
        cases performed
        simpa [trail] using now
    | cons action actions ih =>
        intro past written state now performed
        obtain ⟨next, first, rest⟩ := Option.bind_eq_some_iff.mp performed
        have later := ih _ _ next (preserved past written state action next now first) rest
        simpa [trail, first] using later
  exact onward actions [] [] initial start performed

/-- All that a run writes down is of one kind exactly if every step writes down only
that kind. -/
theorem forall_mem_trail_iff (log : σ → α → List β) (kind : β → Prop)
    (performed : run step state actions = some final) :
    (∀ item ∈ trail step log state actions, kind item) ↔
      StepsMeet step (fun state action => ∀ item ∈ log state action, kind item) state
        actions := by
  induction actions generalizing state with
  | nil => exact iff_of_true nofun trivial
  | cons action actions ih =>
      obtain ⟨next, first, rest⟩ := Option.bind_eq_some_iff.mp performed
      simp only [trail, first, List.forall_mem_append, ih rest, StepsMeet,
        Option.some.injEq, forall_eq']

/-! ### Steps that are never refused -/

/-- What no step of a fold changes, the fold does not change. -/
theorem foldl_keeps {γ : Type*} (view : σ → γ) {next : σ → α → σ}
    (each : ∀ state action, view (next state action) = view state) (actions : List α)
    (state : σ) : view (actions.foldl next state) = view state := by
  induction actions generalizing state with
  | nil => rfl
  | cons action actions ih => rw [List.foldl_cons, ih, each]

end IceRpc.Lib
