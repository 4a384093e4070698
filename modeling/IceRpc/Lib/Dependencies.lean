/-
Module: IceRpc.Lib.Dependencies
Purpose: A relation of dependence between items: lists in which every item comes after all
  it needs, and items from which a cycle is reached.
Trusted boundary: none
Main exports: ReachesCycle, ReachesCycle.of_needs, Precedes, InOrder, InOrder.precedes,
  InOrder.not_reachesCycle, reachesCycle_of_stuck
-/
import Mathlib.Data.Fintype.Pigeonhole
import Mathlib.Data.Set.Finite.List
import Mathlib.Logic.Relation

namespace IceRpc.Lib

open Relation

variable {ι : Type} (needs : ι → ι → Prop)

/-- What an item needs, directly or not, leads into a cycle. -/
def ReachesCycle (item : ι) : Prop :=
  ∃ other, ReflTransGen needs item other ∧ TransGen needs other other

/-- One item comes before another in a list. -/
def Precedes (list : List ι) (item other : ι) : Prop :=
  ∃ before after, list = before ++ other :: after ∧ item ∈ before

/-- Every item of a list comes after all it needs: an item is added at the end once all it
needs is there. -/
inductive InOrder : List ι → Prop where
  | nil : InOrder []
  | snoc {placed : List ι} {item : ι} :
      InOrder placed → (∀ other, needs item other → other ∈ placed) → InOrder (placed ++ [item])

variable {needs}

/-- An item that needs one from which a cycle is reached reaches it too. -/
theorem ReachesCycle.of_needs {item other : ι} (needed : needs item other)
    (reaches : ReachesCycle needs other) : ReachesCycle needs item := by
  obtain ⟨member, path, cycle⟩ := reaches
  exact ⟨member, ReflTransGen.head needed path, cycle⟩

theorem Precedes.append {list : List ι} {item other : ι} (precedes : Precedes list item other)
    (more : List ι) : Precedes (list ++ more) item other := by
  obtain ⟨before, after, rfl, earlier⟩ := precedes
  refine ⟨before, after ++ more, ?_, earlier⟩
  rw [List.append_assoc, List.cons_append]

theorem InOrder.precedes {placed : List ι} (ordered : InOrder needs placed) {item other : ι}
    (member : item ∈ placed) (needed : needs item other) : Precedes placed other item := by
  induction ordered with
  | nil => cases member
  | @snoc placed last _ ready ih =>
      rcases List.mem_append.mp member with earlier | last_
      · exact (ih earlier).append [last]
      · obtain rfl := List.mem_singleton.mp last_
        exact ⟨placed, [], rfl, ready other needed⟩

/-- From an item placed in order only finitely many steps can be taken. -/
theorem InOrder.acc {placed : List ι} (ordered : InOrder needs placed) {item : ι}
    (member : item ∈ placed) : Acc (flip needs) item := by
  induction ordered generalizing item with
  | nil => cases member
  | snoc _ ready ih =>
      rcases List.mem_append.mp member with earlier | last
      · exact ih earlier
      · obtain rfl := List.mem_singleton.mp last
        constructor
        intro other needed
        exact ih (ready other needed)

/-- What is placed in order reaches no cycle. -/
theorem InOrder.not_reachesCycle {placed : List ι} (ordered : InOrder needs placed) {item : ι}
    (member : item ∈ placed) : ¬ ReachesCycle needs item := by
  rintro ⟨other, path, cycle⟩
  have accessible : ∀ {last}, ReflTransGen needs item last → Acc (flip needs) last := by
    intro last reached
    induction reached with
    | refl => exact ordered.acc member
    | tail _ needed ih => exact ih.inv needed
  have irreflexive : ∀ {last}, Acc (TransGen (flip needs)) last →
      ¬ TransGen (flip needs) last last := by
    intro last below
    induction below with
    | intro last _ ih => exact fun loop => ih last loop loop
  exact irreflexive (accessible path).transGen (transGen_swap.mpr cycle)

/-- Following a choice of needed items, one step after the other. -/
theorem transGen_iterate {stuck : List ι} {next : {item // item ∈ stuck} → {item // item ∈ stuck}}
    (needed : ∀ item, needs item.1 (next item).1) (item : {item // item ∈ stuck}) (steps : Nat) :
    TransGen needs item.1 (next^[steps + 1] item).1 := by
  induction steps with
  | zero => exact TransGen.single (needed item)
  | succ steps ih =>
      rw [Function.iterate_succ_apply']
      exact ih.tail (needed _)

/-- If every item of a finite collection needs another of it, each reaches a cycle. -/
theorem reachesCycle_of_stuck {stuck : List ι}
    (every : ∀ item ∈ stuck, ∃ other ∈ stuck, needs item other) {item : ι}
    (member : item ∈ stuck) : ReachesCycle needs item := by
  choose next inside needed using every
  let step : {item // item ∈ stuck} → {item // item ∈ stuck} :=
    fun item => ⟨next item.1 item.2, inside item.1 item.2⟩
  have along : ∀ (start : {item // item ∈ stuck}) (steps : Nat),
      TransGen needs start.1 (step^[steps + 1] start).1 :=
    transGen_iterate fun item => needed item.1 item.2
  have finite : Finite {item // item ∈ stuck} := (List.finite_toSet stuck).to_subtype
  -- some item comes twice on the infinite path from the first
  obtain ⟨first, second, differ, same⟩ :=
    Finite.exists_ne_map_eq_of_infinite fun steps : Nat => step^[steps] ⟨item, member⟩
  wlog earlier : first < second generalizing first second
  · exact this second first differ.symm same.symm (by omega)
  obtain ⟨steps, rfl⟩ := Nat.exists_eq_add_of_lt earlier
  have loop := along (step^[first] ⟨item, member⟩) steps
  rw [← Function.iterate_add_apply, show steps + 1 + first = first + steps + 1 by omega,
    ← same] at loop
  refine ⟨_, ?_, loop⟩
  cases first with
  | zero => exact ReflTransGen.refl
  | succ first => exact (along ⟨item, member⟩ first).to_reflTransGen

end IceRpc.Lib
