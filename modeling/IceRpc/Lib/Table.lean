/-
Module: IceRpc.Lib.Table
Purpose: Tables as partial functions: what an entry found after an insertion was.
  Tables as lists: what an entry replaced by position changes.  Tables as association
  lists: what an insertion and a removal do to the values they hold.
Trusted boundary: none
Main exports: update_some_cases, update_getD_cases, update_none_cases, flatMap_set_perm,
  countP_set_add, filter_key_of_nodup, forall_mem_set, getElem?_set_cases, getElem?_snoc_cases,
  flatMap_update_perm, forall_mem_update, values, values_insert, values_perm_of_some
-/
import Mathlib.Data.List.AList
import Mathlib.Data.List.Nodup
import Mathlib.Data.List.Perm.Basic
import Mathlib.Logic.Function.Basic

namespace IceRpc.Lib

open Function (update update_of_ne update_self)

variable {κ ν : Type*} [DecidableEq κ] {table : κ → Option ν} {key other : κ}

/-- An entry found after an insertion is the inserted one, or it was there before
under another key. -/
theorem update_some_cases {value found : ν}
    (isFound : update table key (some value) other = some found) :
    (other = key ∧ found = value) ∨ (other ≠ key ∧ table other = some found) := by
  rcases eq_or_ne other key with rfl | different
  · rw [update_self] at isFound
    exact Or.inl ⟨rfl, (Option.some.inj isFound).symm⟩
  · rw [update_of_ne different] at isFound
    exact Or.inr ⟨different, isFound⟩

/-- An entry found after an insertion that keeps what is there is the inserted one, where there
was none, or it was there before. -/
theorem update_getD_cases {value found : ν}
    (isFound : update table key (some ((table key).getD value)) other = some found) :
    (other = key ∧ found = value) ∨ table other = some found := by
  rcases update_some_cases isFound with ⟨rfl, rfl⟩ | ⟨-, before⟩
  · cases old : table other with
    | none => exact Or.inl ⟨rfl, rfl⟩
    | some kept => exact Or.inr rfl
  · exact Or.inr before

/-- An entry found after a removal was there before, under another key. -/
theorem update_none_cases {found : ν}
    (isFound : update table key none other = some found) :
    other ≠ key ∧ table other = some found := by
  rcases eq_or_ne other key with rfl | different
  · rw [update_self] at isFound
    cases isFound
  · rw [update_of_ne different] at isFound
    exact ⟨different, isFound⟩

/-! ### Tables as lists -/

variable {α β : Type*}

/-- What holds of every entry and of a new one holds once the new one has replaced another. -/
theorem forall_mem_set {entries : List α} {index : Nat} {after : α} {holds : α → Prop}
    (before : ∀ entry ∈ entries, holds entry) (new : holds after) :
    ∀ entry ∈ entries.set index after, holds entry := by
  intro entry member
  rcases List.mem_or_eq_of_mem_set member with old | rfl
  · exact before entry old
  · exact new

/-- An entry found after one was replaced. -/
theorem getElem?_set_cases {entries : List α} {index other : Nat} {after found : α}
    (isFound : (entries.set index after)[other]? = some found) :
    (other = index ∧ found = after) ∨ (other ≠ index ∧ entries[other]? = some found) := by
  rcases eq_or_ne other index with rfl | different
  · rw [List.getElem?_set_self'] at isFound
    obtain ⟨old, -, same⟩ := Option.map_eq_some_iff.mp isFound
    exact Or.inl ⟨rfl, same.symm⟩
  · rw [List.getElem?_set_ne (Ne.symm different)] at isFound
    exact Or.inr ⟨different, isFound⟩

theorem getElem?_set_of_some {entries : List α} {index : Nat} {old : α} (after : α)
    (found : entries[index]? = some old) :
    (entries.set index after)[index]? = some after := by
  rw [List.getElem?_set_self', found]
  rfl

/-- An entry found after one was added. -/
theorem getElem?_snoc_cases {entries : List α} {other : Nat} {added found : α}
    (isFound : (entries ++ [added])[other]? = some found) :
    (other = entries.length ∧ found = added) ∨ entries[other]? = some found := by
  rcases Nat.lt_or_ge other entries.length with old | new
  · rw [List.getElem?_append_left old] at isFound
    exact Or.inr isFound
  · rw [List.getElem?_append_right new, List.getElem?_singleton] at isFound
    split at isFound
    · rename_i zero
      cases isFound
      exact Or.inl ⟨Nat.le_antisymm (Nat.le_of_sub_eq_zero zero) new, rfl⟩
    · cases isFound

theorem getElem?_snoc_of_some {entries : List α} {index : Nat} {added found : α}
    (isFound : entries[index]? = some found) :
    (entries ++ [added])[index]? = some found := by
  obtain ⟨bound, -⟩ := List.getElem?_eq_some_iff.mp isFound
  rw [List.getElem?_append_left bound, isFound]

/-- What a list of entries gathers, once one of them is replaced: the old entry's
share goes, the new one's comes. -/
theorem flatMap_set_perm (share : α → List β) {entries : List α} {index : Nat}
    {old : α} (new : α) (found : entries[index]? = some old) :
    ((entries.set index new).flatMap share ++ share old).Perm
      (entries.flatMap share ++ share new) := by
  induction entries generalizing index with
  | nil => simp at found
  | cons entry entries ih =>
      cases index with
      | zero =>
          cases Option.some.inj found
          simp only [List.set_cons_zero, List.flatMap_cons, List.append_assoc]
          calc
            (share new ++ (entries.flatMap share ++ share old)).Perm
                ((entries.flatMap share ++ share old) ++ share new) :=
              List.perm_append_comm
            _ = entries.flatMap share ++ (share old ++ share new) :=
              List.append_assoc _ _ _
            (entries.flatMap share ++ (share old ++ share new)).Perm
                (share old ++ (entries.flatMap share ++ share new)) :=
              List.perm_append_comm_assoc _ _ _
      | succ index =>
          have rest := ih (found : entries[index]? = some old)
          simp only [List.set_cons_succ, List.flatMap_cons, List.append_assoc]
          exact rest.append_left (share entry)

/-- What holds of every party and its entry still does once the entry of one of them
changes, if it holds of that one. -/
theorem forall_mem_update (property : α → ν → Prop) {key : α → κ} {entries : κ → ν}
    {parties : List α} (distinct : (parties.map key).Nodup) {party : α}
    (listed : party ∈ parties) {new : ν} (own : property party new)
    (others : ∀ other ∈ parties, key other ≠ key party →
      property other (entries (key other))) :
    ∀ other ∈ parties,
      property other (update entries (key party) new (key other)) := by
  intro other member
  by_cases same : key other = key party
  · obtain rfl := List.inj_on_of_nodup_map distinct member listed same
    rw [update_self]
    exact own
  · rw [update_of_ne same]
    exact others other member same

/-- What the parties gather from their entries in a table, once the entry of one of
them changes: its old share goes, its new one comes. -/
theorem flatMap_update_perm (share : α → ν → List β) (key : α → κ)
    (entries : κ → ν) {parties : List α} (distinct : (parties.map key).Nodup)
    {party : α} (listed : party ∈ parties) (new : ν) :
    (parties.flatMap (fun other =>
        share other (update entries (key party) new (key other))) ++
      share party (entries (key party))).Perm
      (parties.flatMap (fun other => share other (entries (key other))) ++
        share party new) := by
  induction parties with
  | nil => cases listed
  | cons first rest ih =>
      obtain ⟨fresh, distinctRest⟩ := List.nodup_cons.mp distinct
      rcases List.mem_cons.mp listed with rfl | later
      · have same : rest.flatMap (fun other =>
            share other (update entries (key party) new (key other))) =
            rest.flatMap fun other => share other (entries (key other)) := by
          apply List.flatMap_congr
          intro other member
          have different : key other ≠ key party := by
            intro equal
            exact fresh (equal ▸ List.mem_map_of_mem member)
          rw [update_of_ne different]
        simp only [List.flatMap_cons, update_self, same, List.append_assoc]
        calc
          _ = share party new ++ (rest.flatMap (fun other =>
                share other (entries (key other))) ++ share party (entries (key party))) :=
            rfl
          List.Perm _ ((rest.flatMap (fun other => share other (entries (key other))) ++
                share party (entries (key party))) ++ share party new) :=
            List.perm_append_comm
          List.Perm _ ((share party (entries (key party)) ++
                rest.flatMap fun other => share other (entries (key other))) ++
                share party new) :=
            List.perm_append_comm.append_right _
          _ = _ := List.append_assoc _ _ _
      · have different : key first ≠ key party := by
          intro equal
          exact fresh (equal ▸ List.mem_map_of_mem later)
        simp only [List.flatMap_cons, update_of_ne different, List.append_assoc]
        exact (ih distinctRest later).append_left _

/-- How many entries satisfy a test, once one of them is replaced. -/
theorem countP_set_add (test : α → Bool) {entries : List α} {index : Nat} {old : α}
    (new : α) (found : entries[index]? = some old) :
    (entries.set index new).countP test + (test old).toNat =
      entries.countP test + (test new).toNat := by
  induction entries generalizing index with
  | nil => simp at found
  | cons entry entries ih =>
      cases index with
      | zero =>
          cases Option.some.inj found
          simp only [List.set_cons_zero, List.countP_cons]
          cases test old <;> cases test new <;> simp
      | succ index =>
          have rest := ih (found : entries[index]? = some old)
          simp only [List.set_cons_succ, List.countP_cons]
          omega

/-- With distinct keys, an entry is the only one under its key. -/
theorem filter_key_of_nodup {κ : Type*} [DecidableEq κ] {key : α → κ} {entries : List α}
    (distinct : (entries.map key).Nodup) {entry : α} (member : entry ∈ entries) :
    (entries.filter fun other => key other = key entry) = [entry] := by
  induction entries with
  | nil => cases member
  | cons first entries ih =>
      simp only [List.map_cons, List.nodup_cons, List.mem_map, not_exists, not_and]
        at distinct
      rcases List.mem_cons.mp member with rfl | later
      · rw [List.filter_cons_of_pos (by simp), List.cons_eq_cons]
        refine ⟨rfl, List.filter_eq_nil_iff.mpr ?_⟩
        intro other among
        simpa using distinct.1 other among
      · have different : key first ≠ key entry := fun same =>
          distinct.1 entry later same.symm
        rw [List.filter_cons_of_neg (by simpa using different)]
        exact ih distinct.2 later

/-! ### Tables as association lists -/

section Values

variable {map : AList fun _ : κ => ν}

/-- The values a table holds, in no particular order. -/
def values (map : AList fun _ : κ => ν) : List ν := map.entries.map Sigma.snd

theorem erase_of_lookup_none (absent : map.lookup key = none) : map.erase key = map := by
  apply AList.ext
  exact List.kerase_of_notMem_keys (AList.lookup_eq_none.mp absent)

/-- An insertion puts its value before those of the other keys. -/
theorem values_insert (map : AList fun _ : κ => ν) (key : κ) (value : ν) :
    values (map.insert key value) = value :: values (map.erase key) := by
  unfold values
  rw [AList.entries_insert]
  rfl

/-- A value found in a table is there once, beside those of the other keys. -/
theorem values_perm_of_some {value : ν} (found : map.lookup key = some value) :
    (values map).Perm (value :: values (map.erase key)) := by
  have listed : key ∈ map.entries.keys := AList.lookup_isSome.mp (by rw [found]; rfl)
  obtain ⟨other, before, after, -, split, erased⟩ := List.exists_of_kerase listed
  have same : other = value := by
    have held : (⟨key, other⟩ : Sigma fun _ => ν) ∈ map.entries := by
      rw [split]
      simp
    have isOther : map.lookup key = some other := AList.mem_lookup_iff.mpr held
    rw [found] at isOther
    exact (Option.some.inj isOther).symm
  subst same
  have rest : (map.erase key).entries = before ++ after := erased
  rw [values, values, rest, split, List.map_append, List.map_append, List.map_cons]
  exact List.perm_middle

end Values

end IceRpc.Lib
