/-
Module: IceRpc.Lib.Ending
Purpose: Sequences that end with exactly one terminal item: the grammar
  `item* terminal`, its open prefixes, and cutting a sequence at its first
  terminal item.
Trusted boundary: none
Main exports: EndsOnce, EndsAtMostOnce, Unended, upToFirst, upToFirst_isPrefix,
  upToFirst_append_of_unended, upToFirst_append_of_ended, upToFirst_mono
-/
import Mathlib.Data.List.Basic
import Mathlib.Data.List.Induction

namespace IceRpc.Lib

variable {α β : Type*} {terminal : α → Bool}

/-- No item of the sequence is terminal: the sequence may still go on. -/
def Unended (terminal : α → Bool) (items : List α) : Prop :=
  ∀ item ∈ items, terminal item = false

/-- Zero or more items that are not terminal, then exactly one that is. -/
def EndsOnce (terminal : α → Bool) (items : List α) : Prop :=
  ∃ body last, items = body ++ [last] ∧ Unended terminal body ∧
    terminal last = true

instance (terminal : α → Bool) (items : List α) :
    Decidable (Unended terminal items) :=
  inferInstanceAs (Decidable (∀ item ∈ items, terminal item = false))

@[simp] theorem unended_nil : Unended terminal [] := by
  simp [Unended]

theorem unended_append {first second : List α} :
    Unended terminal (first ++ second) ↔
      Unended terminal first ∧ Unended terminal second := by
  simp only [Unended, List.forall_mem_append]

@[simp] theorem unended_cons {item : α} {items : List α} :
    Unended terminal (item :: items) ↔
      terminal item = false ∧ Unended terminal items := by
  simp only [Unended, List.forall_mem_cons]

theorem unended_singleton {item : α} :
    Unended terminal [item] ↔ terminal item = false := by
  simp

theorem endsOnce_snoc {body : List α} {last : α} :
    EndsOnce terminal (body ++ [last]) ↔
      Unended terminal body ∧ terminal last = true := by
  constructor
  · rintro ⟨other, final, equality, unended, ended⟩
    obtain ⟨rfl, final_eq⟩ := List.append_inj' equality rfl
    cases final_eq
    exact ⟨unended, ended⟩
  · rintro ⟨unended, ended⟩
    exact ⟨body, last, rfl, unended, ended⟩

@[simp] theorem not_endsOnce_nil : ¬ EndsOnce terminal ([] : List α) := by
  rintro ⟨body, last, equality, _⟩
  simp at equality

theorem endsOnce_cons {item : α} {items : List α} :
    EndsOnce terminal (item :: items) ↔
      (terminal item = true ∧ items = []) ∨
        (terminal item = false ∧ EndsOnce terminal items) := by
  constructor
  · rintro ⟨body, last, equality, unended, ended⟩
    cases body with
    | nil =>
        obtain ⟨rfl, rfl⟩ := List.cons_eq_cons.mp equality
        exact Or.inl ⟨ended, rfl⟩
    | cons head body =>
        obtain ⟨rfl, rfl⟩ := List.cons_eq_cons.mp equality
        exact Or.inr
          ⟨(unended_cons.mp unended).1,
            endsOnce_snoc.mpr ⟨(unended_cons.mp unended).2, ended⟩⟩
  · rintro (⟨ended, rfl⟩ | ⟨going, body, last, rfl, unended, ended⟩)
    · exact ⟨[], item, rfl, unended_nil, ended⟩
    · exact ⟨item :: body, last, rfl, unended_cons.mpr ⟨going, unended⟩, ended⟩

/-- At most one item is terminal, and none follows it. -/
def EndsAtMostOnce (terminal : α → Bool) (items : List α) : Prop :=
  Unended terminal items ∨ EndsOnce terminal items

theorem endsAtMostOnce_nil : EndsAtMostOnce terminal ([] : List α) :=
  Or.inl unended_nil

theorem endsAtMostOnce_cons {item : α} {items : List α} :
    EndsAtMostOnce terminal (item :: items) ↔
      (terminal item = true ∧ items = []) ∨
        (terminal item = false ∧ EndsAtMostOnce terminal items) := by
  rw [EndsAtMostOnce, EndsAtMostOnce, unended_cons, endsOnce_cons]
  tauto

/-- A sequence cannot both be ended and go on. -/
theorem EndsOnce.not_unended {items : List α} (ends : EndsOnce terminal items) :
    ¬ Unended terminal items := by
  obtain ⟨body, last, rfl, _, ended⟩ := ends
  intro unended
  have going := unended_singleton.mp (unended_append.mp unended).2
  rw [ended] at going
  cases going

/-- Nothing may follow the end. -/
theorem EndsOnce.not_snoc {items : List α} (ends : EndsOnce terminal items)
    (item : α) : ¬ EndsOnce terminal (items ++ [item]) := by
  intro longer
  exact ends.not_unended (endsOnce_snoc.mp longer).1

/-- The grammar only looks at which items are terminal. -/
theorem endsOnce_map {f : α → β} {terminal : β → Bool} {items : List α} :
    EndsOnce terminal (items.map f) ↔ EndsOnce (terminal ∘ f) items := by
  induction items with
  | nil => simp
  | cons item items ih => simp [endsOnce_cons, ih]

/-- Items up to and including the first terminal one. -/
def upToFirst (terminal : α → Bool) : List α → List α
  | [] => []
  | item :: items =>
      if terminal item then [item] else item :: upToFirst terminal items

/-- While nothing ended the sequence, the cut is the sequence itself. -/
theorem upToFirst_of_unended {items : List α}
    (unended : Unended terminal items) : upToFirst terminal items = items := by
  induction items with
  | nil => rfl
  | cons item items ih =>
      obtain ⟨going, rest⟩ := unended_cons.mp unended
      simp [upToFirst, going, ih rest]

/-- A further item is seen while no terminal one came before it. -/
theorem upToFirst_snoc_of_unended {items : List α} (item : α)
    (unended : Unended terminal items) :
    upToFirst terminal (items ++ [item]) = items ++ [item] := by
  induction items with
  | nil => simp [upToFirst]
  | cons head items ih =>
      obtain ⟨going, rest⟩ := unended_cons.mp unended
      simp [upToFirst, going, ih rest]

/-- After a terminal item the cut does not change any more. -/
theorem upToFirst_snoc_of_ended {items : List α} (item : α)
    (ended : ¬ Unended terminal items) :
    upToFirst terminal (items ++ [item]) = upToFirst terminal items := by
  induction items with
  | nil => exact absurd unended_nil ended
  | cons head items ih =>
      by_cases terminalHead : terminal head = true
      · simp [upToFirst, terminalHead]
      · have going : terminal head = false := by simpa using terminalHead
        have endedRest : ¬ Unended terminal items := fun rest =>
          ended (unended_cons.mpr ⟨going, rest⟩)
        simp [upToFirst, going, ih endedRest]

theorem upToFirst_isPrefix (items : List α) : upToFirst terminal items <+: items := by
  induction items with
  | nil => exact List.prefix_refl _
  | cons item items ih =>
      unfold upToFirst
      split
      · exact ⟨items, rfl⟩
      · exact (List.prefix_cons_inj item).mpr ih

/-- What follows a part that goes on is cut on its own. -/
theorem upToFirst_append_of_unended {first : List α} (second : List α)
    (unended : Unended terminal first) :
    upToFirst terminal (first ++ second) = first ++ upToFirst terminal second := by
  induction first with
  | nil => rfl
  | cons item items ih =>
      obtain ⟨going, rest⟩ := unended_cons.mp unended
      simp [upToFirst, going, ih rest]

/-- What follows a part that ended is not seen. -/
theorem upToFirst_append_of_ended {first : List α} (second : List α)
    (ended : ¬ Unended terminal first) :
    upToFirst terminal (first ++ second) = upToFirst terminal first := by
  induction second using List.reverseRecOn with
  | nil => rw [List.append_nil]
  | append_singleton body item ih =>
      have endedBefore : ¬ Unended terminal (first ++ body) := fun unended =>
        ended (unended_append.mp unended).1
      rw [← List.append_assoc, upToFirst_snoc_of_ended item endedBefore, ih]

/-- The cut of a longer sequence is longer, or the same. -/
theorem upToFirst_mono {first second : List α} (shorter : first <+: second) :
    upToFirst terminal first <+: upToFirst terminal second := by
  obtain ⟨rest, rfl⟩ := shorter
  by_cases unended : Unended terminal first
  · rw [upToFirst_append_of_unended rest unended, upToFirst_of_unended unended]
    exact List.prefix_append _ _
  · exact (upToFirst_append_of_ended rest unended).symm ▸ List.prefix_refl _

end IceRpc.Lib
