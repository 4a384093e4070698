/-
Module: IceRpc.Lib.Split
Purpose: Texts as parts between separators: how splitting and joining meet appending, and
  what it means for the parts of one text to end with those of another.
Trusted boundary: none
Main exports: intercalate_append, intercalate_cons_ne_nil, mem_intercalate, headD_splitOn,
  not_mem_of_mem_splitOn, splitOn_suffix_iff, terminated, splitOn_terminated_iff
-/

namespace IceRpc.Lib

variable {α : Type}

/-- Joining some parts and then some more puts one separator between them. -/
theorem intercalate_append (separator : List α) {before after : List (List α)}
    (some_ : before ≠ []) (more : after ≠ []) :
    separator.intercalate (before ++ after) =
      separator.intercalate before ++ separator ++ separator.intercalate after := by
  induction before with
  | nil => exact absurd rfl some_
  | cons first before ih =>
      cases before with
      | nil =>
          rw [List.singleton_append, List.intercalate_cons_of_ne_nil more,
            List.intercalate_singleton]
      | cons second before =>
          have rest : second :: before ++ after ≠ [] := nofun
          rw [List.cons_append, List.intercalate_cons_of_ne_nil rest, ih nofun,
            List.intercalate_cons_cons]
          simp only [List.append_assoc]

/-- Nothing but one empty part, or none, joins to nothing. -/
theorem intercalate_cons_ne_nil {separator : α} {first : List α} {rest : List (List α)}
    (something : first ≠ [] ∨ rest ≠ []) : [separator].intercalate (first :: rest) ≠ [] := by
  cases rest with
  | nil =>
      rw [List.intercalate_singleton]
      rcases something with nonempty | absurd_
      · exact nonempty
      · exact absurd rfl absurd_
  | cons second rest =>
      rw [List.intercalate_cons_cons]
      exact List.append_ne_nil_of_left_ne_nil
        (List.append_ne_nil_of_right_ne_nil first (List.cons_ne_nil separator [])) _

/-- What occurs in a joined text occurs in a part or in the separator. -/
theorem mem_intercalate {separator : List α} {parts : List (List α)} {entry : α}
    (member : entry ∈ separator.intercalate parts) :
    entry ∈ separator ∨ ∃ part ∈ parts, entry ∈ part := by
  induction parts with
  | nil => cases member
  | cons first parts ih =>
      cases parts with
      | nil =>
          rw [List.intercalate_singleton] at member
          exact Or.inr ⟨first, List.mem_cons_self, member⟩
      | cons second parts =>
          rw [List.intercalate_cons_cons, List.mem_append, List.mem_append] at member
          rcases member with (inFirst | between) | later
          · exact Or.inr ⟨first, List.mem_cons_self, inFirst⟩
          · exact Or.inl between
          · rcases ih later with between | ⟨part, partOf, inPart⟩
            · exact Or.inl between
            · exact Or.inr ⟨part, List.mem_cons_of_mem first partOf, inPart⟩

variable [DecidableEq α]

/-- The first part is what precedes the first separator. -/
theorem headD_splitOn {separator : α} {part : List α} (free : separator ∉ part)
    (rest : List α) (ends : rest = [] ∨ rest.head? = some separator) :
    ((part ++ rest).splitOn separator).headD [] = part := by
  rcases ends with rfl | begins
  · rw [List.append_nil, List.splitOn_eq_singleton free, List.headD_cons]
  · obtain ⟨tail, rfl⟩ := List.head?_eq_some_iff.mp begins
    rw [List.splitOn_append_cons_self_of_not_mem free, List.headD_cons]

/-- No part contains the separator. -/
theorem not_mem_of_mem_splitOn {separator : α} {text part : List α}
    (member : part ∈ text.splitOn separator) : separator ∉ part := by
  induction text generalizing part with
  | nil =>
      rw [List.splitOn_nil, List.mem_singleton] at member
      rw [member]
      exact List.not_mem_nil
  | cons first text ih =>
      rw [List.splitOn_cons_eq_if_modifyHead] at member
      by_cases cut : first = separator
      · rw [if_pos (beq_iff_eq.mpr cut), List.mem_cons] at member
        rcases member with rfl | later
        · exact List.not_mem_nil
        · exact ih later
      · rw [if_neg (by simpa using cut)] at member
        cases parts : text.splitOn separator with
        | nil => exact absurd parts (List.splitOn_ne_nil separator text)
        | cons head tail =>
            rw [parts] at member ih
            rcases List.mem_cons.mp member with rfl | later
            · rw [List.mem_cons, not_or]
              exact ⟨Ne.symm cut, ih List.mem_cons_self⟩
            · exact ih (List.mem_cons_of_mem head later)

/-- The parts of a text end with those of another exactly if the text is the other, or ends
with it after a separator. -/
theorem splitOn_suffix_iff (separator : α) (text ending : List α) :
    ending.splitOn separator <:+ text.splitOn separator ↔
      text = ending ∨ separator :: ending <:+ text := by
  constructor
  · rintro ⟨before, parts⟩
    have joined : [separator].intercalate (before ++ ending.splitOn separator) = text := by
      rw [parts, List.intercalate_splitOn]
    cases before with
    | nil =>
        rw [List.nil_append, List.intercalate_splitOn] at joined
        exact Or.inl joined.symm
    | cons first before =>
        rw [intercalate_append [separator] (List.cons_ne_nil first before)
            (List.splitOn_ne_nil separator ending),
          List.intercalate_splitOn, List.append_assoc] at joined
        exact Or.inr ⟨_, joined⟩
  · rintro (rfl | ⟨before, rfl⟩)
    · exact List.suffix_refl _
    · rw [List.splitOn_append_cons_self]
      exact List.suffix_append _ _

/-! ### Parts that end with the separator -/

/-- The parts one after another, each followed by the separator. -/
def terminated (separator : α) (parts : List (List α)) : List α :=
  parts.flatMap fun part => part ++ [separator]

omit [DecidableEq α] in
theorem terminated_append (separator : α) (before after : List (List α)) :
    terminated separator (before ++ after) =
      terminated separator before ++ terminated separator after :=
  List.flatMap_append

/-- Splitting gives the parts back, and nothing after the last separator, exactly if the
separator is in none of them. -/
theorem splitOn_terminated_iff {separator : α} {parts : List (List α)} :
    (terminated separator parts).splitOn separator = parts ++ [[]] ↔
      ∀ part ∈ parts, separator ∉ part := by
  constructor
  · intro readBack part member
    have piece : part ∈ (terminated separator parts).splitOn separator := by
      rw [readBack]
      exact List.mem_append_left _ member
    exact not_mem_of_mem_splitOn piece
  · intro free
    induction parts with
    | nil => exact List.splitOn_nil separator
    | cons part parts ih =>
        have later := ih fun other member => free other (List.mem_cons_of_mem part member)
        rw [terminated, List.flatMap_cons, List.append_assoc, List.singleton_append,
          List.splitOn_append_cons_self_of_not_mem (free part List.mem_cons_self)]
        exact congrArg (part :: ·) later

end IceRpc.Lib
