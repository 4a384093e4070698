/-
Module: IceRpc.Proofs.OriginLabels
Purpose: The origin check of the HTTP gateway at the level of labels: it accepts exactly the
  allowed domain and its subdomains.
Trusted boundary: none
Main exports: Scheme, Origin, Origin.serialize, hostOf_serialize, isOriginAllowed_serialize,
  origin_allowed_iff_suffix
-/
import IceRpc.HttpGateway
import IceRpc.Lib.Split

namespace IceRpc

open Lib

/-! ### Serialized origins -/

inductive Scheme where
  | http
  | https
deriving Repr, DecidableEq

def Scheme.text : Scheme → String
  | .http => "http"
  | .https => "https"

/-- What a label of a host is made of. -/
def isLabelChar (char : Char) : Bool := char.isAlphanum || char == '-'

/-- An origin as a browser serializes it. -/
structure Origin where
  scheme : Scheme
  labels : List String
  port : Option String
  labels_ok : ∀ label ∈ labels, label ≠ "" ∧ label.toList.all isLabelChar
  port_ok : ∀ digits ∈ port, digits ≠ "" ∧ digits.toList.all Char.isDigit

namespace Origin

def host (origin : Origin) : String := ".".intercalate origin.labels

/-- `scheme://host[:port]`. -/
def serialize (origin : Origin) : String :=
  origin.scheme.text ++ "://" ++ origin.host ++
    match origin.port with
    | some digits => ":" ++ digits
    | none => ""

/-- The labels of a host as lists of characters. -/
def parts (origin : Origin) : List (List Char) := origin.labels.map String.toList

theorem host_toList (origin : Origin) : origin.host.toList = ['.'].intercalate origin.parts := by
  rw [host, String.toList_intercalate]
  rfl

theorem parts_ok (origin : Origin) {part : List Char} (member : part ∈ origin.parts) :
    part ≠ [] ∧ ∀ char ∈ part, isLabelChar char := by
  obtain ⟨label, labelOf, rfl⟩ := List.mem_map.mp member
  obtain ⟨nonempty, chars⟩ := origin.labels_ok label labelOf
  refine ⟨?_, List.all_eq_true.mp chars⟩
  intro empty
  exact nonempty (String.toList_eq_nil_iff.mp empty)

/-- No label has a dot, and no host a colon or a slash. -/
theorem free_of_part (origin : Origin) {part : List Char} (member : part ∈ origin.parts)
    {char : Char} (strange : isLabelChar char = false) : char ∉ part := by
  intro among
  rw [(origin.parts_ok member).2 char among] at strange
  cases strange

theorem host_free (origin : Origin) {char : Char} (strange : isLabelChar char = false)
    (notDot : char ≠ '.') : char ∉ origin.host.toList := by
  rw [host_toList]
  intro among
  rcases mem_intercalate among with dot | ⟨part, partOf, inPart⟩
  · exact notDot (List.mem_singleton.mp dot)
  · exact origin.free_of_part partOf strange inPart

end Origin

/-! ### The host of an origin -/

theorem stripStart_append (start text : List Char) :
    stripStart start (start ++ text) = some text := by
  induction start with
  | nil => rw [List.nil_append, stripStart]
  | cons char start ih => rw [List.cons_append, stripStart, if_pos rfl, ih]

/-- The host is what the check compares. -/
theorem hostOf_serialize (origin : Origin) :
    hostOf origin.serialize.toList = origin.host.toList := by
  obtain ⟨rest, ends, text⟩ : ∃ rest : List Char, (rest = [] ∨ rest.head? = some ':') ∧
      origin.serialize.toList =
        (origin.scheme.text ++ "://").toList ++ (origin.host.toList ++ rest) := by
    rw [Origin.serialize]
    cases origin.port with
    | none => exact ⟨[], Or.inl rfl, by simp⟩
    | some digits => exact ⟨':' :: digits.toList, Or.inr rfl, by simp⟩
  have stripped : ((stripStart "https://".toList origin.serialize.toList).or
      (stripStart "http://".toList origin.serialize.toList)).getD origin.serialize.toList =
        origin.host.toList ++ rest := by
    rw [text]
    cases origin.scheme with
    | https =>
        have scheme : (Scheme.https.text ++ "://").toList = "https://".toList := by decide
        rw [scheme, stripStart_append, Option.some_or, Option.getD_some]
    | http =>
        have scheme : (Scheme.http.text ++ "://").toList = "http://".toList := by decide
        have other : stripStart "https://".toList
            ("http://".toList ++ (origin.host.toList ++ rest)) = none := rfl
        rw [scheme, other, stripStart_append, Option.none_or, Option.getD_some]
  have noColon : ':' ∉ origin.host.toList := origin.host_free rfl (by decide)
  have noSlash : '/' ∉ origin.host.toList := origin.host_free rfl (by decide)
  have colon := headD_splitOn noColon rest ends
  have slash := headD_splitOn noSlash [] (Or.inl rfl)
  rw [List.append_nil] at slash
  simp only [hostOf, firstPart]
  rw [stripped, colon, slash]

/-! ### Labels -/

/-- The label list of a domain. -/
def labelsOf (domain : String) : List String := (domain.toList.splitOn '.').map String.ofList

theorem labelsOf_suffix_iff (domain : String) (origin : Origin) :
    labelsOf domain <:+ origin.labels ↔ domain.toList.splitOn '.' <:+ origin.parts := by
  have chars : (labelsOf domain).map String.toList = domain.toList.splitOn '.' := by
    rw [labelsOf, List.map_map]
    exact List.map_id'' (fun _ => String.toList_ofList) _
  have texts : origin.parts.map String.ofList = origin.labels := by
    rw [Origin.parts, List.map_map]
    exact List.map_id'' (fun _ => String.ofList_toList) _
  constructor
  · intro ends
    rw [← chars]
    exact ends.map String.toList
  · intro ends
    rw [← texts]
    exact ends.map String.ofList

theorem allowedOriginDomain_some {domain : String} (some_ : domain ≠ "") :
    allowedOriginDomain (some domain) = domain := by
  simp [allowedOriginDomain, Option.filter_some, some_]

/-- The configured domain is not empty. -/
theorem allowedOriginDomain_ne_nil (allowedOrigin : Option String) :
    (allowedOriginDomain allowedOrigin).toList ≠ [] := by
  intro none_
  have empty := String.toList_eq_nil_iff.mp none_
  cases allowedOrigin with
  | none => exact absurd empty (by decide)
  | some value =>
      by_cases blank : value = ""
      · rw [blank] at empty
        exact absurd empty (by decide)
      · rw [allowedOriginDomain_some blank] at empty
        exact blank empty

/-- The check, on the characters of the host. -/
theorem isOriginAllowed_serialize (allowedOrigin : Option String) (origin : Origin) :
    isOriginAllowed allowedOrigin origin.serialize = true ↔
      origin.host.toList = (allowedOriginDomain allowedOrigin).toList ∨
        '.' :: (allowedOriginDomain allowedOrigin).toList <:+ origin.host.toList := by
  simp only [isOriginAllowed, hostOf_serialize]
  cases hosted : origin.host.toList with
  | nil =>
      have allowed := allowedOriginDomain_ne_nil allowedOrigin
      simp [allowed.symm]
  | cons first rest => simp

/-- Its labels are what a host splits into at its dots. -/
theorem Origin.splitOn_host (origin : Origin) (some_ : origin.parts ≠ []) :
    origin.host.toList.splitOn '.' = origin.parts := by
  rw [Origin.host_toList]
  exact List.splitOn_intercalate '.' (fun part member => origin.free_of_part member rfl) some_

/-- The check, on labels. -/
theorem isOriginAllowed_iff_labels (allowedOrigin : Option String) (origin : Origin) :
    isOriginAllowed allowedOrigin origin.serialize = true ↔
      labelsOf (allowedOriginDomain allowedOrigin) <:+ origin.labels := by
  rw [isOriginAllowed_serialize, ← splitOn_suffix_iff, labelsOf_suffix_iff]
  by_cases some_ : origin.parts = []
  · -- an empty host has no labels, and the domain at least one
    have host : origin.host.toList = [] := by
      rw [Origin.host_toList, some_, List.intercalate_nil]
    rw [host, some_, splitOn_suffix_iff]
    have allowed := allowedOriginDomain_ne_nil allowedOrigin
    simp [allowed.symm]
  · rw [origin.splitOn_host some_]

/-- Whatever the configured domain, an origin is allowed exactly if the labels of the domain
end those of its host; so a host that ends with the same characters only, or has them
elsewhere, is refused. -/
theorem origin_allowed_iff_suffix (allowedOrigin : Option String) (origin : Origin) :
    (∀ domain, domain ≠ "" → allowedOriginDomain (some domain) = domain) ∧
    (isOriginAllowed allowedOrigin origin.serialize = true ↔
      labelsOf (allowedOriginDomain allowedOrigin) <:+ origin.labels) ∧
    (∀ start, start ≠ [] → start.getLast? ≠ some '.' →
      origin.host.toList = start ++ (allowedOriginDomain allowedOrigin).toList →
      isOriginAllowed allowedOrigin origin.serialize = false) ∧
    (¬ (allowedOriginDomain allowedOrigin).toList <:+ origin.host.toList →
      isOriginAllowed allowedOrigin origin.serialize = false) := by
  refine ⟨fun _ => allowedOriginDomain_some, isOriginAllowed_iff_labels allowedOrigin origin,
    ?_, ?_⟩
  · intro start some_ noDot host
    rw [Bool.eq_false_iff, ne_eq, isOriginAllowed_serialize, host]
    rintro (same | ⟨before, ends⟩)
    · exact some_ (List.append_left_eq_self.mp same)
    · -- then the character before the domain is a dot
      rw [List.append_cons] at ends
      rw [← List.append_cancel_right ends, List.getLast?_concat] at noDot
      exact noDot rfl
  · intro elsewhere
    rw [Bool.eq_false_iff, ne_eq, isOriginAllowed_serialize]
    rintro (same | ends)
    · exact elsewhere (same ▸ List.suffix_refl _)
    · exact elsewhere ((List.suffix_cons '.' _).trans ends)

/-- A subdomain, a host that ends with the same characters, and one that has the domain in
front. -/
theorem origin_allowed_of_d_com :
    ∃ shop evil front : Origin,
      shop.serialize = "https://a.d.com:8080" ∧ evil.serialize = "https://evil-d.com" ∧
      front.serialize = "http://d.com.evil.org" ∧
      isOriginAllowed (some "d.com") shop.serialize = true ∧
      isOriginAllowed (some "d.com") evil.serialize = false ∧
      isOriginAllowed (some "d.com") front.serialize = false := by
  refine ⟨⟨.https, ["a", "d", "com"], some "8080", by decide, by decide⟩,
    ⟨.https, ["evil-d", "com"], none, by decide, by decide⟩,
    ⟨.http, ["d", "com", "evil", "org"], none, by decide, by decide⟩,
    by decide, by decide, by decide, ?_, ?_, ?_⟩
  · exact (origin_allowed_iff_suffix (some "d.com") _).2.1.mpr ⟨["a"], by decide⟩
  · exact (origin_allowed_iff_suffix (some "d.com") _).2.2.1 "evil-".toList (by decide)
      (by decide) (by decide)
  · exact (origin_allowed_iff_suffix (some "d.com") _).2.2.2 (by decide)

end IceRpc
