/-
Module: IceRpc.Lib.Awaiting
Purpose: Futures that are polled until they resolve, and the notes that are taken of what a
  loop, or a run of polls, does on its way.
Trusted boundary: none
Main exports: Awaits, YieldsAfter, Yields, ResolvesWithin, exists_common_bound, loopNotes,
  loop_noted, pollNotes, pollAll_noted, noted_of_pollAll
-/
import IceRpc.Lib.Draining

namespace IceRpc.Lib

/-! ### Futures -/

section Futures

variable {C F α : Type*} (poll : C → F → Poll α × F) (enough : C → Prop)

/-- Polled so many times, the future has answered `Pending` each time. -/
inductive Awaits (future : F) : Nat → F → Prop
  | refl : Awaits future 0 future
  | wait {waits : Nat} {now next : F} {context : C} : Awaits future waits now →
      enough context → poll context now = (.pending, next) → Awaits future (waits + 1) next

/-- After so many `Pending`s the future may answer this. -/
def YieldsAfter (future : F) (waits : Nat) (value : α) : Prop :=
  ∃ now context next, Awaits poll enough future waits now ∧ enough context ∧
    poll context now = (.ready value, next)

/-- The future may answer this. -/
def Yields (future : F) (value : α) : Prop :=
  ∃ waits, YieldsAfter poll enough future waits value

/-- However it is polled, the future answers `Pending` so many times at most. -/
def ResolvesWithin (waits : Nat) (future : F) : Prop :=
  ∀ count now, Awaits poll enough future count now → count ≤ waits

variable {poll enough}

theorem YieldsAfter.yields {future : F} {waits : Nat} {value : α}
    (yields : YieldsAfter poll enough future waits value) : Yields poll enough future value :=
  ⟨waits, yields⟩

theorem YieldsAfter.le {future : F} {waits most : Nat} {value : α}
    (yields : YieldsAfter poll enough future waits value)
    (resolves : ResolvesWithin poll enough most future) : waits ≤ most := by
  obtain ⟨now, context, next, awaits, -⟩ := yields
  exact resolves waits now awaits

theorem ResolvesWithin.mono {future : F} {waits most : Nat}
    (resolves : ResolvesWithin poll enough waits future) (fewer : waits ≤ most) :
    ResolvesWithin poll enough most future := by
  intro count now awaits
  exact Nat.le_trans (resolves count now awaits) fewer

end Futures

/-- What has a bound at each index has one bound below any index. -/
theorem exists_common_bound {bounded : Nat → Nat → Prop}
    (mono : ∀ index most more, most ≤ more → bounded index most → bounded index more)
    (each : ∀ index, ∃ most, bounded index most) (count : Nat) :
    ∃ most, ∀ index < count, bounded index most := by
  induction count with
  | zero => exact ⟨0, nofun⟩
  | succ count ih =>
      obtain ⟨most, before⟩ := ih
      obtain ⟨last, here⟩ := each count
      refine ⟨max most last, fun index below => ?_⟩
      rcases Nat.lt_succ_iff_lt_or_eq.mp below with earlier | rfl
      · exact mono index most _ (Nat.le_max_left ..) (before index earlier)
      · exact mono index last _ (Nat.le_max_right ..) here

/-! ### Notes -/

section Notes

variable {C S α Item Note : Type*}

/-- The notes of the turns of a loop, by what is noted of a turn that starts in a state. -/
def loopNotes (note : S → List Note) (body : S → Option (Turn S α)) : Nat → S → List Note
  | 0, _ => []
  | turns + 1, state =>
      note state ++
        match body state with
        | some (.again next) => loopNotes note body turns next
        | _ => []

theorem loopNotes_leave {note : S → List Note} {body : S → Option (Turn S α)} {turns : Nat}
    {state next : S} {answer : α} (turn : body state = some (.leave answer next)) :
    loopNotes note body (turns + 1) state = note state := by
  rw [loopNotes, turn]
  exact List.append_nil _

theorem loopNotes_again {note : S → List Note} {body : S → Option (Turn S α)} {turns : Nat}
    {state next : S} (turn : body state = some (.again next)) :
    loopNotes note body (turns + 1) state = note state ++ loopNotes note body turns next := by
  rw [loopNotes, turn]

/-- Loop rule with notes: what the notes so far and the state have in common, kept by every
turn that goes on. -/
theorem loop_noted (inv : List Note → S → Prop) (post : List Note → α → S → Prop)
    {note : S → List Note} {body : S → Option (Turn S α)}
    (again : ∀ notes state next, inv notes state → body state = some (.again next) →
      inv (notes ++ note state) next)
    (leave : ∀ notes state answer next, inv notes state →
      body state = some (.leave answer next) → post (notes ++ note state) answer next)
    {turns : Nat} {state final : S} {answer : α} {notes : List Note} (start : inv notes state)
    (returned : loop body turns state = some (answer, final)) :
    post (notes ++ loopNotes note body turns state) answer final := by
  induction turns generalizing state notes with
  | zero => cases returned
  | succ turns ih =>
      rcases loop_cases returned with turn | ⟨next, fewer, turn, same, later⟩
      · rw [loopNotes_leave turn]
        exact leave notes state answer final start turn
      · cases same
        rw [loopNotes_again turn, ← List.append_assoc]
        exact ih (again notes state next start turn) later

/-- The notes of polls in these contexts, by what is noted of a poll. -/
def pollNotes (poll : C → S → Option (Poll (Option Item) × S)) (note : C → S → List Note) :
    List C → S → List Note
  | [], _ => []
  | context :: contexts, state =>
      note context state ++
        match poll context state with
        | some (_, next) => pollNotes poll note contexts next
        | none => []

variable {poll : C → S → Option (Poll (Option Item) × S)} {note : C → S → List Note}
  {enough : C → Prop}

theorem pollNotes_snoc {contexts : List C} {context : C} {state now : S}
    {answers : List (Poll (Option Item))}
    (returned : pollAll poll contexts state = some (answers, now)) :
    pollNotes poll note (contexts ++ [context]) state =
      pollNotes poll note contexts state ++ note context now := by
  induction contexts generalizing state answers with
  | nil =>
      cases returned
      rw [List.nil_append, pollNotes, pollNotes]
      split <;> exact List.append_nil _
  | cons first contexts ih =>
      obtain ⟨answer, next, rest, polled, later, rfl⟩ := pollAll_cons_eq_some returned
      rw [List.cons_append, pollNotes, pollNotes, polled]
      simp only [ih later, List.append_assoc]

/-- History rule with notes: what the answers and the notes so far and the state have in
common, kept by every poll, which returns. -/
theorem pollAll_noted (inv : List (Poll (Option Item)) → List Note → S → Prop) {state : S}
    (start : inv [] [] state)
    (keeps : ∀ answers notes now context, inv answers notes now → enough context →
      ∃ answer next, poll context now = some (answer, next) ∧
        inv (answers ++ [answer]) (notes ++ note context now) next)
    (contexts : List C) (good : ∀ context ∈ contexts, enough context) :
    ∃ answers final, pollAll poll contexts state = some (answers, final) ∧
      inv answers (pollNotes poll note contexts state) final := by
  apply pollAll_history_of
    (fun contexts answers final => inv answers (pollNotes poll note contexts state) final)
    start _ contexts good
  intro contexts answers now context returned here goodNow
  rw [pollNotes_snoc returned]
  exact keeps answers _ now context here goodNow

/-- The same for polls that have returned. -/
theorem noted_of_pollAll (inv : List (Poll (Option Item)) → List Note → S → Prop) {state : S}
    (start : inv [] [] state)
    (keeps : ∀ answers notes now context answer next, inv answers notes now →
      poll context now = some (answer, next) →
      inv (answers ++ [answer]) (notes ++ note context now) next)
    {contexts : List C} {answers : List (Poll (Option Item))} {final : S}
    (returned : pollAll poll contexts state = some (answers, final)) :
    inv answers (pollNotes poll note contexts state) final := by
  induction contexts using List.reverseRecOn generalizing answers final with
  | nil =>
      cases returned
      exact start
  | append_singleton contexts context ih =>
      obtain ⟨before, now, answer, earlier, polled, rfl⟩ := pollAll_snoc_eq_some returned
      rw [pollNotes_snoc earlier]
      exact keeps before _ now context answer final (ih earlier) polled

end Notes

end IceRpc.Lib
