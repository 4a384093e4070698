/-
Module: IceRpc.Proofs.StartupOrder
Purpose: Services start in dependency order: what the passes of the locator's sort build,
  what is left when a pass makes no progress, and which `init`s are run.
Trusted boundary: none
Main exports: Needs, PassInvariant, orderFrom_spec, topologicalOrder_spec, AllSucceed,
  services_start_in_dependency_order
-/
import IceRpc.Lib.Dependencies
import IceRpc.Locator

namespace IceRpc

open Lib

section Order

variable (names : List String) (deps : List (List String))

/-- One service has another, registered one among its dependencies. -/
def Needs (index other : Nat) : Prop :=
  ∃ dep ∈ deps.getD index [], names[other]? = some dep

/-- The set of the names that are done belongs to the services placed so far. -/
structure Placed (order : List Nat) (done : List String) : Prop where
  inOrder : InOrder (Needs names deps) order
  done_iff : ∀ name, name ∈ done ↔ ∃ index ∈ order, names[index]? = some name

variable {names deps}

/-- A service is ready exactly if all the services it needs are placed. -/
theorem Placed.isReady_iff {order : List Nat} {done : List String}
    (placed : Placed names deps order done) (distinct : names.Nodup) (index : Nat) :
    isReady names deps done index = true ↔
      ∀ other, Needs names deps index other → other ∈ order := by
  rw [isReady, List.all_eq_true]
  constructor
  · rintro ready other ⟨dep, listed, named⟩
    have registered : dep ∈ names := List.mem_of_getElem? named
    have isDone : dep ∈ done := by simpa [registered] using ready dep listed
    obtain ⟨same, member, sameName⟩ := (placed.done_iff dep).mp isDone
    have within := (List.getElem?_eq_some_iff.mp sameName).1
    rwa [(List.getElem?_inj within distinct).mp (sameName.trans named.symm)] at member
  · intro all dep listed
    by_cases registered : dep ∈ names
    · obtain ⟨other, named⟩ := List.getElem?_of_mem registered
      have isDone := (placed.done_iff dep).mpr ⟨other, all other ⟨dep, listed, named⟩, named⟩
      simp [isDone]
    · simp [registered]

/-- One more service is placed. -/
theorem Placed.snoc {order : List Nat} {done : List String}
    (placed : Placed names deps order done) (distinct : names.Nodup) {index : Nat}
    (within : index < names.length) (ready : isReady names deps done index = true) :
    Placed names deps (order ++ [index]) (names.getD index "" :: done) where
  inOrder := placed.inOrder.snoc ((placed.isReady_iff distinct index).mp ready)
  done_iff := by
    intro name
    have named : names[index]? = some (names.getD index "") := by
      simp [List.getElem?_eq_getElem within]
    rw [List.mem_cons, placed.done_iff]
    constructor
    · rintro (rfl | ⟨other, member, same⟩)
      · exact ⟨index, List.mem_append_right order (List.mem_singleton_self index), named⟩
      · exact ⟨other, List.mem_append_left [index] member, same⟩
    · rintro ⟨other, member, same⟩
      rcases List.mem_append.mp member with earlier | last
      · exact Or.inr ⟨other, earlier, same⟩
      · rw [List.mem_singleton.mp last, named] at same
        exact Or.inl (Option.some.inj same).symm

/-- What holds after the inner loop has visited some services. -/
structure PassInvariant (names : List String) (deps : List (List String)) (order : List Nat)
    (done : List String) (visited : List Nat) (pass : Pass) : Prop where
  placed : Placed names deps pass.order pass.done
  all : (pass.order ++ pass.nextRemaining).Perm (order ++ visited)
  kept : pass.nextRemaining.Sublist visited
  stuck : pass.progressed = false →
    pass = { order := order, done := done, nextRemaining := visited, progressed := false } ∧
      ∀ index ∈ visited, isReady names deps done index = false

/-- The step of the inner loop. -/
theorem PassInvariant.visit {order : List Nat} {done : List String} {visited : List Nat}
    {pass : Pass} (before : PassInvariant names deps order done visited pass)
    (distinct : names.Nodup) {index : Nat} (within : index < names.length) :
    PassInvariant names deps order done (visited ++ [index]) (pass.visit names deps index) := by
  cases ready : isReady names deps pass.done index with
  | true =>
      have visit : pass.visit names deps index =
          { pass with
            order := pass.order ++ [index]
            done := names.getD index "" :: pass.done
            progressed := true } := if_pos ready
      rw [visit]
      constructor
      · exact before.placed.snoc distinct within ready
      · have all := before.all.append_right [index]
        rw [List.append_assoc order] at all
        refine List.Perm.trans ?_ all
        rw [List.append_assoc, List.append_assoc]
        exact List.perm_append_comm.append_left pass.order
      · exact before.kept.trans (List.sublist_append_left visited [index])
      · nofun
  | false =>
      have visit : pass.visit names deps index =
          { pass with nextRemaining := pass.nextRemaining ++ [index] } :=
        if_neg (by rw [ready]; exact Bool.false_ne_true)
      rw [visit]
      constructor
      · exact before.placed
      · rw [← List.append_assoc, ← List.append_assoc]
        exact before.all.append_right [index]
      · exact before.kept.append (List.Sublist.refl [index])
      · intro none_
        obtain ⟨same, notReady⟩ := before.stuck none_
        rw [same] at ready ⊢
        refine ⟨rfl, ?_⟩
        intro other member
        rcases List.mem_append.mp member with earlier | last
        · exact notReady other earlier
        · rw [List.mem_singleton.mp last]
          exact ready

/-- What the inner loop does. -/
theorem runPass_spec {order : List Nat} {done : List String}
    (placed : Placed names deps order done) (distinct : names.Nodup) {remaining : List Nat}
    (within : ∀ index ∈ remaining, index < names.length) :
    PassInvariant names deps order done remaining (runPass names deps order done remaining) := by
  induction remaining using List.reverseRecOn with
  | nil =>
      constructor
      · exact placed
      · exact List.Perm.refl _
      · exact List.Sublist.refl _
      · intro _
        exact ⟨rfl, nofun⟩
  | append_singleton visited index ih =>
      have earlier := ih fun other member => within other (List.mem_append_left [index] member)
      have last := within index (List.mem_append_right visited (List.mem_singleton_self index))
      rw [runPass, List.foldl_append]
      exact earlier.visit distinct last

/-! ### The whole sort -/

/-- A sort of all services: those placed in order, and then those that hold each other
back. -/
structure Sorted (names : List String) (deps : List (List String)) (settled stuck : List Nat) :
    Prop where
  inOrder : InOrder (Needs names deps) settled
  all : (settled ++ stuck).Perm (List.range names.length)
  kept : stuck.Sublist (List.range names.length)
  blocked : ∀ index ∈ stuck, ∃ other ∈ stuck, Needs names deps index other

/-- The loop, from a state its rounds lead to. -/
theorem orderFrom_spec (distinct : names.Nodup) {order : List Nat} {done : List String}
    {remaining : List Nat} (placed : Placed names deps order done)
    (all : (order ++ remaining).Perm (List.range names.length))
    (kept : remaining.Sublist (List.range names.length)) :
    ∃ settled stuck, orderFrom names deps order done remaining = settled ++ stuck ∧
      Sorted names deps settled stuck := by
  have within : ∀ {remaining : List Nat}, remaining.Sublist (List.range names.length) →
      ∀ index ∈ remaining, index < names.length :=
    fun sub index member => List.mem_range.mp (sub.subset member)
  induction order, done, remaining using orderFrom.induct names deps with
  | case1 order done remaining finished =>
      obtain rfl := List.isEmpty_iff.mp finished
      rw [orderFrom, if_pos finished]
      exact ⟨order, [], (List.append_nil order).symm, placed.inOrder, all, kept, nofun⟩
  | case2 order done remaining some_ pass progressed ih =>
      have spec := runPass_spec placed distinct (within kept)
      rw [orderFrom, if_neg some_, dif_pos progressed]
      exact ih spec.placed (spec.all.trans all) (spec.kept.trans kept)
  | case3 order done remaining some_ pass noProgress =>
      have spec := runPass_spec placed distinct (within kept)
      obtain ⟨same, notReady⟩ := spec.stuck (Bool.eq_false_of_not_eq_true noProgress)
      rw [orderFrom, if_neg some_, dif_neg noProgress, same]
      refine ⟨order, remaining, rfl, placed.inOrder, all, kept, ?_⟩
      intro index member
      -- what holds a service back is registered and not placed, so it remains too
      have held := notReady index member
      rw [Bool.eq_false_iff, ne_eq, placed.isReady_iff distinct index] at held
      obtain ⟨other, held⟩ := Classical.not_forall.mp held
      obtain ⟨⟨dep, listed, named⟩, missing⟩ := Classical.not_imp.mp held
      have registered := List.mem_range.mpr (List.getElem?_eq_some_iff.mp named).1
      rcases List.mem_append.mp (all.symm.subset registered) with earlier | remains
      · exact absurd earlier missing
      · exact ⟨other, remains, dep, listed, named⟩

/-- A sort puts exactly the services that reach a cycle last, in their own order. -/
theorem Sorted.mem_stuck_iff {settled stuck : List Nat} (sorted : Sorted names deps settled stuck)
    (index : Nat) :
    index ∈ stuck ↔ index < names.length ∧ ReachesCycle (Needs names deps) index := by
  constructor
  · intro member
    exact ⟨List.mem_range.mp (sorted.kept.subset member),
      reachesCycle_of_stuck sorted.blocked member⟩
  · rintro ⟨within, reaches⟩
    rcases List.mem_append.mp (sorted.all.symm.subset (List.mem_range.mpr within)) with
      placed | member
    · exact absurd reaches (sorted.inOrder.not_reachesCycle placed)
    · exact member

open Classical in
theorem Sorted.stuck_eq {settled stuck : List Nat} (sorted : Sorted names deps settled stuck) :
    stuck = (List.range names.length).filter (ReachesCycle (Needs names deps) ·) := by
  have increasing : (List.range names.length).Pairwise (· < ·) := List.pairwise_lt_range
  have filtered := increasing.filter (ReachesCycle (Needs names deps) ·)
  have subset := increasing.sublist sorted.kept
  apply List.Perm.eq_of_pairwise (fun _ _ _ _ less greater => absurd less (Nat.lt_asymm greater))
    subset filtered
  apply (List.perm_ext_iff_of_nodup (subset.imp Nat.ne_of_lt) (filtered.imp Nat.ne_of_lt)).mpr
  intro index
  rw [sorted.mem_stuck_iff, List.mem_filter, List.mem_range, decide_eq_true_iff]

/-- What the sort makes of any dependencies. -/
theorem topologicalOrder_spec (distinct : names.Nodup) :
    ∃ settled stuck, topologicalOrder names deps = settled ++ stuck ∧
      Sorted names deps settled stuck := by
  apply orderFrom_spec distinct
  · exact ⟨InOrder.nil, fun name => by simp⟩
  · exact List.Perm.refl _
  · exact List.Sublist.refl _

/-- A service comes after all it needs that does not reach a cycle. -/
theorem Sorted.precedes {settled stuck : List Nat} (sorted : Sorted names deps settled stuck)
    {index other : Nat} (within : index < names.length)
    (needed : Needs names deps index other) (acyclic : ¬ ReachesCycle (Needs names deps) other) :
    Precedes (settled ++ stuck) other index := by
  rcases List.mem_append.mp (sorted.all.symm.subset (List.mem_range.mpr within)) with
    placed | member
  · exact (sorted.inOrder.precedes placed needed).append stuck
  · obtain ⟨dep, listed, named⟩ := needed
    have registered := List.mem_range.mpr (List.getElem?_eq_some_iff.mp named).1
    rcases List.mem_append.mp (sorted.all.symm.subset registered) with earlier | also
    · obtain ⟨before, after, split⟩ := List.append_of_mem member
      refine ⟨settled ++ before, after, ?_, List.mem_append_left before earlier⟩
      rw [split, List.append_assoc]
    · exact absurd (reachesCycle_of_stuck sorted.blocked also) acyclic

end Order

/-! ### Initialization -/

section Initialization

variable {W : Type} {snapshot : List (Registered W)}

/-- The `init`s of these services are run one after the other, and all succeed. -/
inductive AllSucceed (snapshot : List (Registered W)) : List Nat → W → W → Prop where
  | nil (world : W) : AllSucceed snapshot [] world world
  | cons {index : Nat} {entry : Registered W} {later : List Nat} {world next final : W} :
      snapshot[index]? = some entry → entry.init world = (true, next) →
      AllSucceed snapshot later next final → AllSucceed snapshot (index :: later) world final

/-- The loop runs all the `init`s, or those up to the first that fails. -/
theorem initInOrder_cases {order : List Nat} (within : ∀ index ∈ order, index < snapshot.length)
    (world : W) :
    (∃ final, AllSucceed snapshot order world final ∧
      initInOrder snapshot order world = (.ok (), final)) ∨
    (∃ earlier index rest entry middle final, order = earlier ++ index :: rest ∧
      AllSucceed snapshot earlier world middle ∧ snapshot[index]? = some entry ∧
      entry.init middle = (false, final) ∧
      initInOrder snapshot order world =
        (.error ("service '" ++ entry.name ++ "' failed to initialize"), final)) := by
  induction order generalizing world with
  | nil => exact Or.inl ⟨world, .nil world, rfl⟩
  | cons index later ih =>
      obtain ⟨first, rest⟩ := List.forall_mem_cons.mp within
      have found := List.getElem?_eq_getElem first
      rw [initInOrder, found]
      cases outcome : (snapshot[index]).init world with
      | mk succeeded next =>
          cases succeeded with
          | true =>
              rcases ih rest next with ⟨final, all, result⟩ | ⟨earlier, failing, more, entry,
                middle, final, split, all, here, fails, result⟩
              · exact Or.inl ⟨final, .cons found outcome all, by simp [outcome, result]⟩
              · refine Or.inr ⟨index :: earlier, failing, more, entry, middle, final, ?_,
                  .cons found outcome all, here, fails, by simp [outcome, result]⟩
                rw [split, List.cons_append]
          | false =>
              exact Or.inr ⟨[], index, later, _, world, next, rfl, .nil world, found, outcome,
                by simp [outcome]⟩

end Initialization

open Classical in
/-- Services start in dependency order.  The sort ends with every service once; a service
from which no cycle is reached comes after all the registered services it needs; the others
come last, in the order of their registration, after what they need of the former.
Initialization runs the `init`s in that order up to the first that fails, and starts the
channels exactly if none does. -/
theorem services_start_in_dependency_order (services : List (String × List String))
    (distinct : (services.map Prod.fst).Nodup) :
    let names := services.map Prod.fst
    let deps := services.map Prod.snd
    let order := topologicalOrder names deps
    order.Perm (List.range services.length) ∧
    (∀ index < services.length, ¬ ReachesCycle (Needs names deps) index →
      ∀ other, Needs names deps index other → Precedes order other index) ∧
    (∃ settled, order = settled ++
      (List.range services.length).filter (ReachesCycle (Needs names deps) ·)) ∧
    (∀ index < services.length, ReachesCycle (Needs names deps) index →
      ∀ other, Needs names deps index other → ¬ ReachesCycle (Needs names deps) other →
        Precedes order other index) ∧
    (∀ (W : Type) (startRegisteredChannels : W → W) (snapshot : List (Registered W)) (world : W),
      snapshot.map (fun entry => (entry.name, entry.dependencies)) = services →
      (∃ final, AllSucceed snapshot order world final ∧
        initializeAll startRegisteredChannels snapshot world =
          (.ok (), startRegisteredChannels final)) ∨
      (∃ earlier index rest entry middle final, order = earlier ++ index :: rest ∧
        AllSucceed snapshot earlier world middle ∧ snapshot[index]? = some entry ∧
        entry.init middle = (false, final) ∧
        initializeAll startRegisteredChannels snapshot world =
          (.error ("service '" ++ entry.name ++ "' failed to initialize"), final))) := by
  intro names deps order
  obtain ⟨settled, stuck, split, sorted⟩ : ∃ settled stuck, order = settled ++ stuck ∧
      Sorted names deps settled stuck := topologicalOrder_spec distinct
  have count : names.length = services.length := List.length_map _
  have all : order.Perm (List.range services.length) := by
    rw [split, ← count]
    exact sorted.all
  refine ⟨all, ?_, ?_, ?_, ?_⟩
  · intro index within acyclic other needed
    have earlier : ¬ ReachesCycle (Needs names deps) other :=
      fun reaches => acyclic (reaches.of_needs needed)
    rw [split]
    exact sorted.precedes (count.symm ▸ within) needed earlier
  · rw [← count, ← sorted.stuck_eq]
    exact ⟨settled, split⟩
  · intro index within _ other needed acyclic
    rw [split]
    exact sorted.precedes (count.symm ▸ within) needed acyclic
  · intro W start snapshot world same
    have namesOf : snapshot.map Registered.name = names := by
      simp only [names, ← same, List.map_map]
      rfl
    have depsOf : snapshot.map Registered.dependencies = deps := by
      simp only [deps, ← same, List.map_map]
      rfl
    have within : ∀ index ∈ order, index < snapshot.length := by
      intro index member
      rw [← List.length_map (fun entry => (entry.name, entry.dependencies)), same]
      exact List.mem_range.mp (all.subset member)
    simp only [initializeAll, namesOf, depsOf]
    rcases initInOrder_cases within world with ⟨final, succeed, result⟩ | ⟨earlier, index, rest,
      entry, middle, final, here, succeed, found, fails, result⟩
    · exact Or.inl ⟨final, succeed, by simp [result, order]⟩
    · exact Or.inr ⟨earlier, index, rest, entry, middle, final, here, succeed, found, fails,
        by simp [result, order]⟩

/-- Three services, one of which depends on itself: all three are in the order. -/
theorem startup_order_of_three_services :
    (["a", "b", "c"] : List String).Nodup ∧
      (topologicalOrder ["a", "b", "c"] [["b"], [], ["c"]]).Perm (List.range 3) := by
  have distinct : (["a", "b", "c"] : List String).Nodup := by decide
  exact ⟨distinct, (services_start_in_dependency_order
    [("a", ["b"]), ("b", []), ("c", ["c"])] distinct).1⟩

end IceRpc
