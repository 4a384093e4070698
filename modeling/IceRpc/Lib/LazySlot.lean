/-
Module: IceRpc.Lib.LazySlot
Purpose: One entry of a cache that is filled lazily by concurrent calls: a call that finds it
  empty builds a value of its own, inserts it if the entry is still empty, and answers with
  its own.  When do all calls answer alike?
Trusted boundary: none
Main exports: SlotPhase, Slot, SlotMove, SlotAgrees, SlotInv, slot_agrees_iff, slotOf,
  slotMove_hit, slotMove_miss, slotMove_build, slotMove_write, slotAgrees_slotOf
-/
import IceRpc.Lib.Run
import Mathlib.Logic.Function.Basic

namespace IceRpc.Lib

open Function (update update_eq_self update_of_ne update_self)

variable {ι : Type}

/-! ### The entry and its calls -/

/-- Where a call is: before it has read the entry, after it has found it empty, after it has
built a value of its own, and after it has answered. -/
inductive SlotPhase (ι : Type) where
  | looking
  | missed
  | built (own : ι)
  | returned (answer : Option ι)

structure Slot (ι : Type) where
  cached : Option ι
  phase : Nat → SlotPhase ι

/-- What one section of a call does to the entry; the flag marks an insertion that comes too
late. -/
inductive SlotMove : Slot ι → Bool → Slot ι → Prop where
  | idle (slot : Slot ι) : SlotMove slot false slot
  | hit {slot : Slot ι} {call : Nat} {found : ι} :
      slot.phase call = .looking → slot.cached = some found →
      SlotMove slot false
        { slot with phase := update slot.phase call (.returned (some found)) }
  | miss {slot : Slot ι} {call : Nat} :
      slot.phase call = .looking → slot.cached = none →
      SlotMove slot false { slot with phase := update slot.phase call .missed }
  | build {slot : Slot ι} {call : Nat} {own : ι} :
      slot.phase call = .missed → slot.cached ≠ some own →
      (∀ other, slot.phase other ≠ .built own) →
      SlotMove slot false { slot with phase := update slot.phase call (.built own) }
  | first {slot : Slot ι} {call : Nat} {own : ι} :
      slot.phase call = .built own → slot.cached = none →
      SlotMove slot false
        { cached := some own
          phase := update slot.phase call (.returned (some own)) }
  | late {slot : Slot ι} {call : Nat} {own kept : ι} :
      slot.phase call = .built own → slot.cached = some kept →
      SlotMove slot true
        { slot with phase := update slot.phase call (.returned (some own)) }

/-- Every call that answered gave the cached value. -/
def SlotAgrees (slot : Slot ι) : Prop :=
  ∀ call answer, slot.phase call = .returned answer →
    ∃ value, answer = some value ∧ slot.cached = some value

/-- What the moves keep: an answer leaves a value in the cache, and a value built by a call
is nobody else's. -/
structure SlotInv (slot : Slot ι) : Prop where
  answered : ∀ call answer, slot.phase call = .returned answer → slot.cached ≠ none
  uncached : ∀ call own, slot.phase call = .built own → slot.cached ≠ some own
  unshared : ∀ call other own, slot.phase call = .built own → slot.phase other = .built own →
    call = other

/-! ### Moves -/

/-- A phase after an update is the new one, or an old one of another call. -/
theorem phase_update_cases {phase : Nat → SlotPhase ι} {call other : Nat}
    {after found : SlotPhase ι} (now : update phase call after other = found) :
    other = call ∧ found = after ∨ other ≠ call ∧ phase other = found := by
  rcases eq_or_ne other call with rfl | differ
  · rw [update_self] at now
    exact Or.inl ⟨rfl, now.symm⟩
  · rw [update_of_ne differ] at now
    exact Or.inr ⟨differ, now⟩

/-- Answers and the cached value are never taken back. -/
theorem SlotMove.keeps {slot next : Slot ι} {late : Bool} (move : SlotMove slot late next) :
    (∀ call answer, slot.phase call = .returned answer → next.phase call = .returned answer) ∧
      (slot.cached ≠ none → next.cached = slot.cached) := by
  have others : ∀ {call : Nat} {before after : SlotPhase ι}, slot.phase call = before →
      (∀ answer, before ≠ .returned answer) → ∀ other answer,
      slot.phase other = .returned answer →
      update slot.phase call after other = .returned answer := by
    intro call before after here unanswered other answer answered
    rw [update_of_ne, answered]
    rintro rfl
    exact unanswered answer (here.symm.trans answered)
  cases move with
  | idle => exact ⟨fun _ _ answered => answered, fun _ => rfl⟩
  | hit here _ => exact ⟨others here nofun, fun _ => rfl⟩
  | miss here _ => exact ⟨others here nofun, fun _ => rfl⟩
  | build here _ _ => exact ⟨others here nofun, fun _ => rfl⟩
  | first here empty => exact ⟨others here nofun, fun some_ => absurd empty some_⟩
  | late here _ => exact ⟨others here nofun, fun _ => rfl⟩

/-- What a change of the entry and of one phase has to heed. -/
theorem SlotInv.change {slot : Slot ι} (inv : SlotInv slot) {cached : Option ι} {call : Nat}
    {after : SlotPhase ι}
    (filled : (∃ answer, after = .returned answer) ∨ slot.cached ≠ none → cached ≠ none)
    (built : ∀ own, after = .built own → cached ≠ some own)
    (others : ∀ other own, other ≠ call → slot.phase other = .built own →
      cached ≠ some own ∧ after ≠ .built own) :
    SlotInv { cached := cached, phase := update slot.phase call after } where
  answered other answer answered := by
    rcases phase_update_cases answered with ⟨-, now⟩ | ⟨-, before⟩
    · exact filled (Or.inl ⟨answer, now.symm⟩)
    · exact filled (Or.inr (inv.answered other answer before))
  uncached other own isBuilt := by
    rcases phase_update_cases isBuilt with ⟨-, now⟩ | ⟨differ, before⟩
    · exact built own now.symm
    · exact (others other own differ before).1
  unshared first second own builtFirst builtSecond := by
    rcases phase_update_cases builtFirst with ⟨rfl, now⟩ | ⟨differ, firstBefore⟩
    · rcases phase_update_cases builtSecond with ⟨rfl, -⟩ | ⟨differ, secondBefore⟩
      · rfl
      · exact absurd now.symm (others second own differ secondBefore).2
    · rcases phase_update_cases builtSecond with ⟨rfl, now⟩ | ⟨-, secondBefore⟩
      · exact absurd now.symm (others first own differ firstBefore).2
      · exact inv.unshared first second own firstBefore secondBefore

theorem SlotInv.move {slot next : Slot ι} {late : Bool} (inv : SlotInv slot)
    (move : SlotMove slot late next) : SlotInv next := by
  cases move with
  | idle => exact inv
  | hit here cached | late here cached =>
      refine inv.change (fun _ empty => ?_) nofun
        fun other own _ before => ⟨inv.uncached other own before, nofun⟩
      cases cached.symm.trans empty
  | miss here empty =>
      refine inv.change (fun some_ => some_.resolve_left nofun) nofun
        fun other own _ before => ⟨inv.uncached other own before, nofun⟩
  | build here uncached nobody =>
      refine inv.change (fun some_ => some_.resolve_left nofun) ?_ fun other value _ before =>
        ⟨inv.uncached other value before, ?_⟩
      · rintro own same
        cases same
        exact uncached
      · rintro same
        cases same
        exact nobody other before
  | @first call own here empty =>
      refine inv.change nofun nofun fun other value differ before => ⟨?_, nofun⟩
      rintro same
      cases same
      exact differ (inv.unshared other call own before here)

/-- A phase that is no answer leaves the agreement as it was. -/
theorem SlotAgrees.unanswered {slot : Slot ι} (agrees : SlotAgrees slot) (call : Nat)
    {after : SlotPhase ι} (noAnswer : ∀ answer, after ≠ .returned answer) :
    SlotAgrees { slot with phase := update slot.phase call after } := by
  intro other answer answered
  rcases phase_update_cases answered with ⟨-, isAnswer⟩ | ⟨-, before⟩
  · exact absurd isAnswer.symm (noAnswer answer)
  · exact agrees other answer before

/-- A move keeps the agreement exactly if it does not come too late. -/
theorem SlotMove.agrees_iff {slot next : Slot ι} {late : Bool} (inv : SlotInv slot)
    (agrees : SlotAgrees slot) (move : SlotMove slot late next) :
    SlotAgrees next ↔ late = false := by
  cases move with
  | idle => exact ⟨fun _ => rfl, fun _ => agrees⟩
  | @hit call found here cached =>
      refine ⟨fun _ => rfl, fun _ => ?_⟩
      intro other answer answered
      rcases phase_update_cases answered with ⟨-, isAnswer⟩ | ⟨-, before⟩
      · cases isAnswer
        exact ⟨found, rfl, cached⟩
      · exact agrees other answer before
  | miss here empty => exact ⟨fun _ => rfl, fun _ => agrees.unanswered _ nofun⟩
  | build here uncached nobody => exact ⟨fun _ => rfl, fun _ => agrees.unanswered _ nofun⟩
  | @first call own here empty =>
      refine ⟨fun _ => rfl, fun _ => ?_⟩
      intro other answer answered
      rcases phase_update_cases answered with ⟨-, isAnswer⟩ | ⟨-, before⟩
      · cases isAnswer
        exact ⟨own, rfl, rfl⟩
      · exact absurd empty (inv.answered other answer before)
  | @late call own kept here cached =>
      refine ⟨fun after => ?_, nofun⟩
      -- the call answers with its own value, which is not the cached one
      obtain ⟨value, own_, same⟩ := after call (some own) (update_self ..)
      cases own_
      exact absurd same (inv.uncached call own here)

/-- What disagrees goes on disagreeing. -/
theorem SlotMove.disagrees {slot next : Slot ι} {late : Bool} (inv : SlotInv slot)
    (disagrees : ¬ SlotAgrees slot) (move : SlotMove slot late next) : ¬ SlotAgrees next := by
  intro agrees
  apply disagrees
  intro call answer answered
  obtain ⟨answers, cache⟩ := move.keeps
  rw [← cache (inv.answered call answer answered)]
  exact agrees call answer (answers call answer answered)

/-! ### Runs of a system that holds the entry -/

section Runs

variable {σ α : Type} {step : σ → α → Option σ}

/-- Rule for a system each allowed step of which is a move of the entry: after a run all
answers agree with the cache exactly if no insertion of the run came too late. -/
theorem slot_agrees_iff (inv : σ → Prop) (view : σ → Slot ι) (late : σ → α → Bool)
    (allowed : α → Bool)
    (kept : ∀ state action next, inv state → allowed action = true →
      step state action = some next → inv next)
    (moved : ∀ state action next, inv state → allowed action = true →
      step state action = some next → SlotMove (view state) (late state action) (view next))
    {state final : σ} {actions : List α} (start : inv state)
    (fresh : ∀ call, (view state).phase call = .looking)
    (every : ∀ action ∈ actions, allowed action = true)
    (performed : run step state actions = some final) :
    SlotAgrees (view final) ↔
      StepsMeet step (fun state action => late state action = false) state actions := by
  rw [← stepsMeet_guarded every]
  apply final_iff_stepsMeet (fun state => inv state ∧ SlotInv (view state))
    (fun state => SlotAgrees (view state))
  · intro state action next both performed
    obtain ⟨may, performed⟩ := guarded_eq_some performed
    exact ⟨kept state action next both.1 may performed,
      both.2.move (moved state action next both.1 may performed)⟩
  · intro state action next both agrees performed
    obtain ⟨may, performed⟩ := guarded_eq_some performed
    exact (moved state action next both.1 may performed).agrees_iff both.2 agrees
  · intro state action next both disagrees performed
    obtain ⟨may, performed⟩ := guarded_eq_some performed
    exact (moved state action next both.1 may performed).disagrees both.2 disagrees
  · refine ⟨start, ?_, ?_, ?_⟩
    · intro call answer answered
      cases (fresh call).symm.trans answered
    · intro call own built
      cases (fresh call).symm.trans built
    · intro call other own built
      cases (fresh call).symm.trans built
  · intro call answer answered
    cases (fresh call).symm.trans answered
  · rw [run_guarded every]
    exact performed

end Runs

/-! ### The entry of a list of calls -/

section Calls

variable {γ κ : Type} [DecidableEq κ] (key : γ → κ) (phase : γ → SlotPhase ι) (mine : κ)

/-- The phase of a call, if it is for the entry. -/
def phaseFor (call : γ) : SlotPhase ι := if key call = mine then phase call else .looking

/-- The phases of those calls of a list that are for the entry. -/
def phasesOf (calls : List γ) (index : Nat) : SlotPhase ι :=
  (calls[index]?.map (phaseFor key phase mine)).getD .looking

/-- An entry and the calls of a list that are for it. -/
def slotOf (cached : Option ι) (calls : List γ) : Slot ι :=
  { cached := cached, phase := phasesOf key phase mine calls }

variable {key phase mine} {cached : Option ι} {calls : List γ} {index : Nat} {call after : γ}
  {own : ι}

theorem phasesOf_of_found (found : calls[index]? = some call) :
    phasesOf key phase mine calls index = phaseFor key phase mine call := by
  rw [phasesOf, found, Option.map_some, Option.getD_some]

theorem phaseFor_ours (ours : key call = mine) : phaseFor key phase mine call = phase call :=
  if_pos ours

/-- One call of the list changes. -/
theorem phasesOf_set (found : calls[index]? = some call) :
    phasesOf key phase mine (calls.set index after) =
      update (phasesOf key phase mine calls) index (phaseFor key phase mine after) := by
  funext other
  rcases eq_or_ne other index with rfl | differ
  · rw [update_self, phasesOf, List.getElem?_set_self', found]
    rfl
  · rw [update_of_ne differ, phasesOf, phasesOf, List.getElem?_set_ne differ.symm]

/-- A call that looks the same from the entry changes nothing. -/
theorem phasesOf_set_same (found : calls[index]? = some call)
    (same : phaseFor key phase mine after = phaseFor key phase mine call) :
    phasesOf key phase mine (calls.set index after) = phasesOf key phase mine calls := by
  rw [phasesOf_set found, same, ← phasesOf_of_found found, update_eq_self]

/-- A new call is looking. -/
theorem phasesOf_snoc (looking : phase call = .looking) :
    phasesOf key phase mine (calls ++ [call]) = phasesOf key phase mine calls := by
  have new : phaseFor key phase mine call = .looking := by
    rw [phaseFor, looking, ite_self]
  funext index
  rcases Nat.lt_trichotomy index calls.length with old | rfl | beyond
  · rw [phasesOf, phasesOf, List.getElem?_append_left old]
  · rw [phasesOf, phasesOf, List.getElem?_concat_length, List.getElem?_eq_none (Nat.le_refl _),
      Option.map_some, new]
    rfl
  · rw [phasesOf, phasesOf, List.getElem?_eq_none (Nat.le_of_lt beyond),
      List.getElem?_eq_none (by rw [List.length_append]; exact beyond)]

/-- A phase other than the first is that of a call for the entry. -/
theorem found_of_phasesOf {now : SlotPhase ι}
    (here : phasesOf key phase mine calls index = now) (past : now ≠ .looking) :
    ∃ call, calls[index]? = some call ∧ key call = mine ∧ phase call = now := by
  rw [phasesOf] at here
  cases found : calls[index]? with
  | none =>
      rw [found] at here
      exact absurd here.symm past
  | some call =>
      rw [found, Option.map_some, Option.getD_some, phaseFor] at here
      split at here
      · exact ⟨call, rfl, ‹_›, here⟩
      · exact absurd here.symm past

theorem slotMove_snoc (looking : phase call = .looking) :
    SlotMove (slotOf key phase mine cached calls) false
      (slotOf key phase mine cached (calls ++ [call])) := by
  rw [slotOf, slotOf, phasesOf_snoc looking]
  exact .idle _

/-- A call for another entry, or one that looks the same from this one, moves nothing. -/
theorem slotMove_same (found : calls[index]? = some call)
    (same : phaseFor key phase mine after = phaseFor key phase mine call) :
    SlotMove (slotOf key phase mine cached calls) false
      (slotOf key phase mine cached (calls.set index after)) := by
  rw [slotOf, slotOf, phasesOf_set_same found same]
  exact .idle _

theorem phaseFor_other (other : key call ≠ mine) (sameKey : key after = key call) :
    phaseFor key phase mine after = phaseFor key phase mine call := by
  rw [phaseFor, phaseFor, if_neg other, if_neg (sameKey ▸ other)]

/-- A call finds the entry filled. -/
theorem slotMove_hit (found : calls[index]? = some call) (sameKey : key after = key call)
    (looks : phase call = .looking)
    (answers : key call = mine → ∃ value, phase after = .returned (some value) ∧
      cached = some value) :
    SlotMove (slotOf key phase mine cached calls) false
      (slotOf key phase mine cached (calls.set index after)) := by
  by_cases ours : key call = mine
  · obtain ⟨value, answered, isCached⟩ := answers ours
    rw [slotOf, slotOf, phasesOf_set found, phaseFor_ours (sameKey.trans ours), answered]
    refine .hit (.trans (phasesOf_of_found found) ?_) isCached
    rw [phaseFor_ours ours, looks]
  · exact slotMove_same found (phaseFor_other ours sameKey)

/-- A call finds the entry empty. -/
theorem slotMove_miss (found : calls[index]? = some call) (sameKey : key after = key call)
    (looks : phase call = .looking) (misses : phase after = .missed)
    (empty : key call = mine → cached = none) :
    SlotMove (slotOf key phase mine cached calls) false
      (slotOf key phase mine cached (calls.set index after)) := by
  by_cases ours : key call = mine
  · rw [slotOf, slotOf, phasesOf_set found, phaseFor_ours (sameKey.trans ours), misses]
    refine .miss (.trans (phasesOf_of_found found) ?_) (empty ours)
    rw [phaseFor_ours ours, looks]
  · exact slotMove_same found (phaseFor_other ours sameKey)

/-- A call builds a value that is neither cached nor built by another call. -/
theorem slotMove_build (found : calls[index]? = some call) (sameKey : key after = key call)
    (missed : phase call = .missed) (builds : phase after = .built own)
    (uncached : cached ≠ some own) (nobody : ∀ other ∈ calls, phase other ≠ .built own) :
    SlotMove (slotOf key phase mine cached calls) false
      (slotOf key phase mine cached (calls.set index after)) := by
  by_cases ours : key call = mine
  · rw [slotOf, slotOf, phasesOf_set found, phaseFor_ours (sameKey.trans ours), builds]
    refine .build (.trans (phasesOf_of_found found) ?_) uncached ?_
    · rw [phaseFor_ours ours, missed]
    · intro other built
      obtain ⟨one, isOne, -, hasBuilt⟩ := found_of_phasesOf built nofun
      exact nobody one (List.mem_of_getElem? isOne) hasBuilt
  · exact slotMove_same found (phaseFor_other ours sameKey)

/-- A call inserts the value it built, unless there is one already, and answers with it. -/
theorem slotMove_write {kept : Option ι} (found : calls[index]? = some call)
    (sameKey : key after = key call) (built : phase call = .built own)
    (answers : phase after = .returned (some own))
    (inserted : key call = mine → kept = some (cached.getD own))
    (untouched : key call ≠ mine → kept = cached) :
    SlotMove (slotOf key phase mine cached calls) (decide (key call = mine) && cached.isSome)
      (slotOf key phase mine kept (calls.set index after)) := by
  by_cases ours : key call = mine
  · have now := (phasesOf_of_found found).trans ((phaseFor_ours ours).trans built)
    rw [inserted ours, decide_eq_true ours, slotOf, slotOf, phasesOf_set found,
      phaseFor_ours (sameKey.trans ours), answers]
    cases cached with
    | none => exact .first now rfl
    | some before => exact .late now rfl
  · rw [untouched ours, decide_eq_false ours]
    exact slotMove_same found (phaseFor_other ours sameKey)

/-- Agreement of the answers, call by call. -/
theorem slotAgrees_slotOf :
    SlotAgrees (slotOf key phase mine cached calls) ↔
      ∀ (index : Nat) call answer, calls[index]? = some call → key call = mine →
        phase call = .returned answer → ∃ value, answer = some value ∧ cached = some value := by
  constructor
  · intro agrees index call answer found ours returned
    exact agrees index answer
      ((phasesOf_of_found found).trans ((phaseFor_ours ours).trans returned))
  · intro each index answer returned
    obtain ⟨call, found, ours, now⟩ := found_of_phasesOf returned nofun
    exact each index call answer found ours now

end Calls

end IceRpc.Lib
