/-
Module: IceRpc.Proofs.CorrelationText
Purpose: The text form of correlation ids: the parser accepts exactly what the formatter
  writes, with or without its dashes and in either case of the digits.
Trusted boundary: none
Main exports: nibbles, shape, written, hexDigits_eq_some_iff, utf8_fmtCorrelationId,
  undashed, parse_correlation_id_iff
-/
import IceRpc.Lib.Utf8
import IceRpc.Types.Header

namespace IceRpc

open Lib

/-! ### Digits -/

/-- The byte of a lowercase digit. -/
def hexByte (digit : UInt8) : UInt8 :=
  if digit < 10 then 48 + digit else 87 + digit

/-- What is true of the first 256 numbers is true of every byte. -/
theorem forall_byte {holds : UInt8 → Prop} (each : ∀ number < 256, holds (UInt8.ofNat number))
    (byte : UInt8) : holds byte := by
  have here := each byte.toNat byte.toNat_lt
  rwa [UInt8.ofNat_toNat] at here

theorem lowerByte_of_hexDigit {byte digit : UInt8} (read : hexDigit byte = some digit) :
    digit < 16 ∧ lowerByte byte = hexByte digit := by
  -- `all` tests the digit that is read, where a bounded quantifier would try every byte
  have each : ∀ byte : UInt8, (hexDigit byte).all (fun digit =>
      decide (digit < 16 ∧ lowerByte byte = hexByte digit)) = true :=
    forall_byte (by decide +kernel)
  have here := each byte
  rw [read] at here
  exact of_decide_eq_true here

theorem hexDigit_lowerByte (byte : UInt8) : hexDigit (lowerByte byte) = hexDigit byte := by
  have each : ∀ byte : UInt8, hexDigit (lowerByte byte) = hexDigit byte :=
    forall_byte (by decide +kernel)
  exact each byte

/-- A dash has no other case. -/
theorem lowerByte_eq_dash (byte : UInt8) : lowerByte byte = 45 ↔ byte = 45 := by
  have each : ∀ byte : UInt8, lowerByte byte = 45 ↔ byte = 45 :=
    forall_byte (by decide +kernel)
  exact each byte

theorem hexDigit_hexByte {digit : UInt8} (small : digit < 16) :
    hexDigit (hexByte digit) = some digit := by
  have each : ∀ digit : UInt8, digit < 16 → hexDigit (hexByte digit) = some digit :=
    forall_byte (by decide +kernel)
  exact each digit small

/-- A byte reads as a digit exactly if it is written as that digit, in either case. -/
theorem hexDigit_eq_some_iff {byte digit : UInt8} :
    hexDigit byte = some digit ↔ digit < 16 ∧ lowerByte byte = hexByte digit := by
  constructor
  · exact lowerByte_of_hexDigit
  · rintro ⟨small, same⟩
    rw [← hexDigit_lowerByte, same, hexDigit_hexByte small]

/-! ### Where the dashes are -/

/-- The parser expects a dash here. -/
def isDash (dashed : Bool) (index : Nat) : Bool :=
  dashed && (index == 8 || index == 13 || index == 18 || index == 23)

/-- Where the parser expects dashes in a text that goes on from an index. -/
def shape (dashed : Bool) (index length : Nat) : List Bool :=
  (List.range' index length).map (isDash dashed)

theorem shape_succ (dashed : Bool) (index length : Nat) :
    shape dashed index (length + 1) =
      isDash dashed index :: shape dashed (index + 1) length := by
  rw [shape, List.range'_succ, List.map_cons]
  rfl

/-- Digits written into a shape, with a dash wherever it says so. -/
def written : List Bool → List UInt8 → List UInt8
  | [], _ => []
  | true :: places, digits => 45 :: written places digits
  | false :: places, digit :: digits => hexByte digit :: written places digits
  | false :: _, [] => []

/-- The parser reads the digits that are written into the shape of the text. -/
theorem hexDigits_eq_some_iff {dashed : Bool} {index : Nat} {bytes digits : List UInt8} :
    hexDigits dashed index bytes = some digits ↔
      digits.length = (shape dashed index bytes.length).count false ∧
      (∀ digit ∈ digits, digit < 16) ∧
      bytes.map lowerByte = written (shape dashed index bytes.length) digits := by
  induction bytes generalizing index digits with
  | nil =>
      rw [hexDigits, Option.some.injEq, eq_comm]
      constructor
      · rintro rfl
        exact ⟨rfl, nofun, rfl⟩
      · rintro ⟨none_, -, -⟩
        exact List.length_eq_zero_iff.mp none_
  | cons byte bytes ih =>
      have unfolded : hexDigits dashed index (byte :: bytes) =
          if isDash dashed index then
            if byte ≠ 45 then none else hexDigits dashed (index + 1) bytes
          else (hexDigit byte).bind fun digit =>
            (hexDigits dashed (index + 1) bytes).bind fun digits => some (digit :: digits) := rfl
      rw [unfolded, List.length_cons, shape_succ, List.map_cons]
      cases isDash dashed index with
      | true =>
          rw [if_pos rfl, written, List.cons.injEq, lowerByte_eq_dash,
            List.count_cons_of_ne Bool.noConfusion]
          by_cases dash : byte = 45
          · rw [if_neg (not_not_intro dash), ih]
            simp [dash]
          · rw [if_pos dash]
            simp [dash]
      | false =>
          rw [if_neg Bool.false_ne_true, List.count_cons_self]
          constructor
          · intro read
            obtain ⟨digit, first, rest⟩ := Option.bind_eq_some_iff.mp read
            obtain ⟨later, others, same⟩ := Option.bind_eq_some_iff.mp rest
            cases same
            obtain ⟨small, lower⟩ := hexDigit_eq_some_iff.mp first
            obtain ⟨length, smalls, lowers⟩ := ih.mp others
            refine ⟨by rw [List.length_cons, length], ?_, ?_⟩
            · exact List.forall_mem_cons.mpr ⟨small, smalls⟩
            · rw [written, lower, lowers]
          · rintro ⟨length, smalls, lowers⟩
            cases digits with
            | nil => cases length
            | cons digit digits =>
                obtain ⟨small, others⟩ := List.forall_mem_cons.mp smalls
                obtain ⟨lower, rest⟩ := List.cons.inj lowers
                have read := hexDigit_eq_some_iff.mpr ⟨small, lower⟩
                have later := ih.mpr ⟨Nat.succ.inj length, others, rest⟩
                rw [read, later]
                rfl

/-! ### The bytes of an id -/

/-- The digits of an id. -/
def nibbles (cid : CorrelationId) : List UInt8 :=
  cid.toList.flatMap fun byte => [byte / 16, byte % 16]

/-- Bytes from pairs of digits. -/
def joinNibbles : List UInt8 → List UInt8
  | high :: low :: rest => (high <<< 4 ||| low) :: joinNibbles rest
  | _ => []

theorem joinNibbles_flatMap (bytes : List UInt8) :
    joinNibbles (bytes.flatMap fun byte => [byte / 16, byte % 16]) = bytes := by
  have each : ∀ byte : UInt8, (byte / 16) <<< 4 ||| byte % 16 = byte :=
    forall_byte (by decide +kernel)
  induction bytes with
  | nil => rfl
  | cons byte bytes ih =>
      rw [List.flatMap_cons, List.cons_append, List.singleton_append, joinNibbles, each, ih]

theorem flatMap_joinNibbles {digits : List UInt8} (even : digits.length % 2 = 0)
    (small : ∀ digit ∈ digits, digit < 16) :
    ((joinNibbles digits).flatMap fun byte => [byte / 16, byte % 16]) = digits := by
  have pair : ∀ high low : UInt8, high < 16 → low < 16 →
      (high <<< 4 ||| low) / 16 = high ∧ (high <<< 4 ||| low) % 16 = low := by
    have each : ∀ high < 16, ∀ low < 16,
        (UInt8.ofNat high <<< 4 ||| UInt8.ofNat low) / 16 = UInt8.ofNat high ∧
        (UInt8.ofNat high <<< 4 ||| UInt8.ofNat low) % 16 = UInt8.ofNat low := by
      decide +kernel
    intro high low first second
    have here := each high.toNat first low.toNat second
    rwa [UInt8.ofNat_toNat, UInt8.ofNat_toNat] at here
  induction digits using joinNibbles.induct with
  | case1 high low rest ih =>
      obtain ⟨first, others⟩ := List.forall_mem_cons.mp small
      obtain ⟨second, smalls⟩ := List.forall_mem_cons.mp others
      have rest_even : rest.length % 2 = 0 := by
        rw [List.length_cons, List.length_cons] at even
        omega
      rw [joinNibbles, List.flatMap_cons, ih rest_even smalls, (pair high low first second).1,
        (pair high low first second).2]
      rfl
  | case2 digits short =>
      match digits with
      | [] => rfl
      | [_] => cases even
      | high :: low :: rest => exact absurd rfl (short high low rest)

theorem nibbles_length (cid : CorrelationId) : (nibbles cid).length = 32 := by
  rw [nibbles, List.length_flatMap]
  simp only [List.length_cons, List.length_nil, List.map_const', List.sum_replicate_nat]
  rw [Vector.length_toList, correlationIdLen]

theorem nibbles_small (cid : CorrelationId) : ∀ digit ∈ nibbles cid, digit < 16 := by
  have each : ∀ byte : UInt8, byte / 16 < 16 ∧ byte % 16 < 16 := forall_byte (by decide +kernel)
  intro digit listed
  obtain ⟨byte, -, part⟩ := List.mem_flatMap.mp listed
  rcases List.mem_cons.mp part with rfl | part
  · exact (each byte).1
  · rw [List.mem_singleton.mp part]
    exact (each byte).2

/-- The id that the parser makes of the digits. -/
def packed (digits : List UInt8) : CorrelationId :=
  Vector.ofFn fun index =>
    (digits.getD (2 * index.val) 0 <<< 4) ||| digits.getD (2 * index.val + 1) 0

theorem joinNibbles_getElem? (digits : List UInt8) (index : Nat)
    (inside : 2 * index + 1 < digits.length) :
    (joinNibbles digits)[index]? =
      some ((digits.getD (2 * index) 0 <<< 4) ||| digits.getD (2 * index + 1) 0) := by
  induction digits using joinNibbles.induct generalizing index with
  | case1 high low rest ih =>
      rw [joinNibbles]
      cases index with
      | zero => rfl
      | succ index =>
          rw [List.length_cons, List.length_cons] at inside
          exact ih index (by omega)
  | case2 digits short =>
      match digits with
      | [] => cases inside
      | [_] => exact absurd inside (by simp)
      | high :: low :: rest => exact absurd rfl (short high low rest)

theorem joinNibbles_length (digits : List UInt8) :
    (joinNibbles digits).length = digits.length / 2 := by
  induction digits using joinNibbles.induct with
  | case1 high low rest ih =>
      rw [joinNibbles, List.length_cons, ih, List.length_cons, List.length_cons]
      omega
  | case2 digits short =>
      match digits with
      | [] => rfl
      | [_] => simp [joinNibbles]
      | high :: low :: rest => exact absurd rfl (short high low rest)

theorem packed_toList {digits : List UInt8} (length : digits.length = 32) :
    (packed digits).toList = joinNibbles digits := by
  apply List.ext_getElem?
  intro index
  by_cases inside : index < 16
  · rw [joinNibbles_getElem? digits index (by omega)]
    simp [packed, correlationIdLen, inside]
  · rw [List.getElem?_eq_none, List.getElem?_eq_none]
    · rw [joinNibbles_length]
      omega
    · rw [Vector.length_toList]
      exact Nat.le_of_not_lt inside

/-- The digits that are packed into an id are those of the id. -/
theorem packed_eq_iff {digits : List UInt8} (length : digits.length = 32)
    (small : ∀ digit ∈ digits, digit < 16) (cid : CorrelationId) :
    packed digits = cid ↔ digits = nibbles cid := by
  rw [← Vector.toList_inj, packed_toList length]
  constructor
  · intro same
    rw [nibbles, ← same, flatMap_joinNibbles (by rw [length]) small]
  · rintro rfl
    exact joinNibbles_flatMap _

/-! ### Texts -/

theorem written_length {places : List Bool} {digits : List UInt8}
    (enough : digits.length = places.count false) :
    (written places digits).length = places.length := by
  induction places generalizing digits with
  | nil => rfl
  | cons place places ih =>
      cases place with
      | true =>
          rw [List.count_cons_of_ne Bool.noConfusion] at enough
          rw [written, List.length_cons, List.length_cons, ih enough]
      | false =>
          rw [List.count_cons_self] at enough
          cases digits with
          | nil => cases enough
          | cons digit digits =>
              rw [written, List.length_cons, List.length_cons, ih (Nat.succ.inj enough)]

/-- What is written is in lower case. -/
theorem written_lower {places : List Bool} {digits : List UInt8}
    (small : ∀ digit ∈ digits, digit < 16) :
    (written places digits).map lowerByte = written places digits := by
  induction places generalizing digits with
  | nil => rfl
  | cons place places ih =>
      cases place with
      | true =>
          rw [written, List.map_cons, ih small]
          rfl
      | false =>
          cases digits with
          | nil => rfl
          | cons digit digits =>
              obtain ⟨first, rest⟩ := List.forall_mem_cons.mp small
              have lower := (lowerByte_of_hexDigit (hexDigit_hexByte first)).2
              rw [written, List.map_cons, lower, ih rest]

/-- Of a text with so many bytes the parser makes the id whose digits are written in it. -/
theorem parse_of_length {text : String} {dashed : Bool} {length : Nat}
    (fits : length = 32 ∧ dashed = false ∨ length = 36 ∧ dashed = true)
    (bytes : (utf8 text.toList).length = length) (cid : CorrelationId) :
    parseCorrelationId text = some cid ↔
      (utf8 text.toList).map lowerByte = written (shape dashed 0 length) (nibbles cid) := by
  have digits : (shape dashed 0 length).count false = 32 := by
    rcases fits with ⟨rfl, rfl⟩ | ⟨rfl, rfl⟩ <;> decide
  have unfolded : parseCorrelationId text =
      (hexDigits dashed 0 (utf8 text.toList)).bind fun digits =>
        if digits.length = 32 then some (packed digits) else none := by
    simp only [parseCorrelationId, toUTF8_eq_utf8, bytes]
    rcases fits with ⟨rfl, rfl⟩ | ⟨rfl, rfl⟩ <;> rfl
  rw [unfolded, Option.bind_eq_some_iff]
  constructor
  · rintro ⟨read, found, same⟩
    obtain ⟨count, small, lowers⟩ := hexDigits_eq_some_iff.mp found
    rw [bytes] at count lowers
    rw [if_pos (count.trans digits), Option.some.injEq,
      packed_eq_iff (count.trans digits) small] at same
    rw [lowers, same]
  · intro lowers
    refine ⟨nibbles cid, ?_, ?_⟩
    · rw [hexDigits_eq_some_iff, bytes, digits]
      exact ⟨nibbles_length cid, nibbles_small cid, lowers⟩
    · rw [if_pos (nibbles_length cid), Option.some.injEq,
        packed_eq_iff (nibbles_length cid) (nibbles_small cid)]

/-- The parser accepts the digits of an id, with the dashes or without. -/
theorem parse_eq_some_iff (text : String) (cid : CorrelationId) :
    parseCorrelationId text = some cid ↔
      (utf8 text.toList).map lowerByte = written (shape true 0 36) (nibbles cid) ∨
      (utf8 text.toList).map lowerByte = written (shape false 0 32) (nibbles cid) := by
  have length : ∀ {dashed : Bool} {length : Nat}, (shape dashed 0 length).count false = 32 →
      (utf8 text.toList).map lowerByte = written (shape dashed 0 length) (nibbles cid) →
      (utf8 text.toList).length = length := by
    intro dashed length digits lowers
    have same := congrArg List.length lowers
    rw [List.length_map, written_length (by rw [nibbles_length, digits])] at same
    rw [same, shape, List.length_map, List.length_range']
  have thirtySix : ((utf8 text.toList).map lowerByte = written (shape true 0 36) (nibbles cid) →
      (utf8 text.toList).length = 36) := length (by decide)
  have thirtyTwo : ((utf8 text.toList).map lowerByte = written (shape false 0 32) (nibbles cid) →
      (utf8 text.toList).length = 32) := length (by decide)
  constructor
  · intro parsed
    have either : (utf8 text.toList).length = 32 ∨ (utf8 text.toList).length = 36 := by
      simp only [parseCorrelationId, toUTF8_eq_utf8] at parsed
      split at parsed
      · rename_i fits
        rw [Bool.or_eq_true, decide_eq_true_iff, decide_eq_true_iff] at fits
        exact fits
      · cases parsed
    rcases either with short | long
    · exact Or.inr ((parse_of_length (.inl ⟨rfl, rfl⟩) short cid).mp parsed)
    · exact Or.inl ((parse_of_length (.inr ⟨rfl, rfl⟩) long cid).mp parsed)
  · rintro (lowers | lowers)
    · exact (parse_of_length (.inr ⟨rfl, rfl⟩) (thirtySix lowers) cid).mpr lowers
    · exact (parse_of_length (.inl ⟨rfl, rfl⟩) (thirtyTwo lowers) cid).mpr lowers

/-- Places without a dash take the digits as they come. -/
theorem written_digits (places : List Bool) (digits : List UInt8) (count : Nat)
    (enough : count ≤ digits.length) :
    written (List.replicate count false ++ places) digits =
      (digits.take count).map hexByte ++ written places (digits.drop count) := by
  induction count generalizing digits with
  | zero => rfl
  | succ count ih =>
      cases digits with
      | nil => cases enough
      | cons digit digits =>
          rw [List.replicate_succ, List.cons_append, written,
            ih digits (Nat.le_of_succ_le_succ enough)]
          rfl

/-- The characters of an id's digits. -/
def digitChars (cid : CorrelationId) : List Char :=
  (nibbles cid).map fun digit => hexChar digit.toNat

theorem encode_hexChar {digit : UInt8} (small : digit < 16) :
    String.utf8EncodeChar (hexChar digit.toNat) = [hexByte digit] ∧ hexChar digit.toNat ≠ '-' := by
  have each : ∀ digit : UInt8, digit < 16 →
      String.utf8EncodeChar (hexChar digit.toNat) = [hexByte digit] ∧
        hexChar digit.toNat ≠ '-' :=
    forall_byte (by decide +kernel)
  exact each digit small

theorem utf8_digits {digits : List UInt8} (small : ∀ digit ∈ digits, digit < 16) :
    utf8 (digits.map fun digit => hexChar digit.toNat) = digits.map hexByte := by
  induction digits with
  | nil => rfl
  | cons digit digits ih =>
      obtain ⟨first, rest⟩ := List.forall_mem_cons.mp small
      rw [List.map_cons, utf8_cons, (encode_hexChar first).1, ih rest]
      rfl

theorem fmtCorrelationId_toList (cid : CorrelationId) :
    (fmtCorrelationId cid).toList =
      (digitChars cid).take 8 ++ ['-'] ++ ((digitChars cid).drop 8).take 4 ++ ['-'] ++
        ((digitChars cid).drop 12).take 4 ++ ['-'] ++ ((digitChars cid).drop 16).take 4 ++
        ['-'] ++ (digitChars cid).drop 20 := by
  have same : (cid.toList.flatMap fun byte =>
      [hexChar (byte.toNat / 16), hexChar (byte.toNat % 16)]) = digitChars cid := by
    rw [digitChars, nibbles, List.map_flatMap]
    rfl
  rw [fmtCorrelationId, String.toList_ofList, same]

/-- The five groups of digits are all of them. -/
theorem digit_groups {α : Type} (digits : List α) :
    digits.take 8 ++ (digits.drop 8).take 4 ++ (digits.drop 12).take 4 ++
      (digits.drop 16).take 4 ++ digits.drop 20 = digits := by
  have group : ∀ start, (digits.drop start).take 4 ++ digits.drop (start + 4) =
      digits.drop start := by
    intro start
    rw [← List.drop_drop, List.take_append_drop]
  rw [List.append_assoc, group 16, List.append_assoc, group 12, List.append_assoc, group 8,
    List.take_append_drop]

/-- The text of an id with its four dashes removed. -/
def undashed (cid : CorrelationId) : String :=
  String.ofList ((fmtCorrelationId cid).toList.filter (· ≠ '-'))

theorem undashed_toList (cid : CorrelationId) : (undashed cid).toList = digitChars cid := by
  have kept : (digitChars cid).filter (· ≠ '-') = digitChars cid := by
    apply List.filter_eq_self.mpr
    intro char member
    obtain ⟨digit, digitOf, rfl⟩ := List.mem_map.mp member
    exact decide_eq_true (encode_hexChar (nibbles_small cid digit digitOf)).2
  have dash : ['-'].filter (· ≠ '-') = [] := rfl
  rw [undashed, String.toList_ofList, fmtCorrelationId_toList]
  simp only [List.filter_append, dash, List.append_nil]
  simp only [← List.filter_append]
  rw [digit_groups, kept]

/-- The formatter writes the digits in the dashed shape. -/
theorem utf8_fmtCorrelationId (cid : CorrelationId) :
    utf8 (fmtCorrelationId cid).toList = written (shape true 0 36) (nibbles cid) := by
  have places : shape true 0 36 =
      List.replicate 8 false ++ true :: (List.replicate 4 false ++ true ::
        (List.replicate 4 false ++ true :: (List.replicate 4 false ++ true ::
          (List.replicate 12 false ++ [])))) := by
    decide
  have length := nibbles_length cid
  have bytes : ∀ digits, digits ⊆ nibbles cid →
      utf8 (digits.map fun digit => hexChar digit.toNat) = digits.map hexByte := by
    intro digits among
    exact utf8_digits fun digit member => nibbles_small cid digit (among member)
  have group : ∀ start count, utf8 (((digitChars cid).drop start).take count) =
      (((nibbles cid).drop start).take count).map hexByte := by
    intro start count
    rw [digitChars, ← List.map_drop, ← List.map_take]
    exact bytes _ (List.Subset.trans (List.take_subset _ _) (List.drop_subset _ _))
  have last : ((nibbles cid).drop 20).take 12 = (nibbles cid).drop 20 :=
    List.take_of_length_le (Nat.le_of_eq (by rw [List.length_drop, length]))
  have first : utf8 ((digitChars cid).take 8) = ((nibbles cid).take 8).map hexByte := group 0 8
  have final : utf8 ((digitChars cid).drop 20) = ((nibbles cid).drop 20).map hexByte := by
    rw [digitChars, ← List.map_drop]
    exact bytes _ (List.drop_subset _ _)
  have dash : utf8 ['-'] = [45] := by decide
  have enough : ∀ start count, start + count ≤ 32 → count ≤ ((nibbles cid).drop start).length := by
    intro start count within
    rw [List.length_drop, length]
    omega
  rw [fmtCorrelationId_toList, places]
  simp only [utf8_append, first, final, group, dash]
  rw [written_digits _ (nibbles cid) 8 (enough 0 8 (by decide)), written,
    written_digits _ _ 4 (enough 8 4 (by decide)), written, List.drop_drop,
    written_digits _ _ 4 (enough 12 4 (by decide)), written, List.drop_drop,
    written_digits _ _ 4 (enough 16 4 (by decide)), written, List.drop_drop,
    written_digits _ _ 12 (enough 20 12 (by decide)), written, last]
  simp only [List.append_assoc, List.cons_append, List.nil_append, List.append_nil]

theorem utf8_undashed (cid : CorrelationId) :
    utf8 (undashed cid).toList = written (shape false 0 32) (nibbles cid) := by
  have places : shape false 0 32 = List.replicate 32 false ++ [] := by decide
  have length := nibbles_length cid
  rw [undashed_toList, digitChars, utf8_digits (nibbles_small cid), places,
    written_digits _ _ _ (Nat.le_of_eq length.symm), ← length, List.take_length,
    List.drop_length, written, List.append_nil]

/-- Two texts agree up to the case of their letters exactly if their bytes do. -/
theorem toLower_eq_iff (text lower : String) :
    text.toLower = lower ↔ (utf8 text.toList).map lowerByte = utf8 lower.toList := by
  rw [← utf8_map_toLower, ← String.toList_map]
  constructor
  · rintro rfl
    rfl
  · intro same
    exact String.toList_inj.mp (utf8_injective same)

theorem parse_eq_some_iff_text (text : String) (cid : CorrelationId) :
    parseCorrelationId text = some cid ↔
      text.toLower = fmtCorrelationId cid ∨ text.toLower = undashed cid := by
  rw [parse_eq_some_iff, toLower_eq_iff, toLower_eq_iff, utf8_fmtCorrelationId, utf8_undashed]

/-- The formatter writes lowercase digits. -/
theorem fmtCorrelationId_toLower (cid : CorrelationId) :
    (fmtCorrelationId cid).toLower = fmtCorrelationId cid := by
  rw [toLower_eq_iff, utf8_fmtCorrelationId, written_lower (nibbles_small cid)]

/-- The parser accepts a text as an id exactly if the text is, up to the case of its
digits, what the formatter writes for the id or that without its dashes; so formatting is
injective, parsing inverts it, and every other text is refused. -/
theorem parse_correlation_id_iff (cid : CorrelationId) (text : String) :
    (parseCorrelationId text = some cid ↔
      text.toLower = fmtCorrelationId cid ∨ text.toLower = undashed cid) ∧
    (∀ other, fmtCorrelationId cid = fmtCorrelationId other → cid = other) ∧
    parseCorrelationId (fmtCorrelationId cid) = some cid ∧
    ((∀ other, text.toLower ≠ fmtCorrelationId other ∧ text.toLower ≠ undashed other) →
      parseCorrelationId text = none) := by
  have inverts : ∀ cid, parseCorrelationId (fmtCorrelationId cid) = some cid := by
    intro cid
    exact (parse_eq_some_iff_text _ _).mpr (Or.inl (fmtCorrelationId_toLower cid))
  refine ⟨parse_eq_some_iff_text text cid, ?_, inverts cid, ?_⟩
  · intro other same
    have both := inverts other
    rw [← same, inverts cid] at both
    exact Option.some.inj both
  · intro neither
    rw [Option.eq_none_iff_forall_ne_some]
    intro other parsed
    rcases (parse_eq_some_iff_text text other).mp parsed with dashed | plain
    · exact (neither other).1 dashed
    · exact (neither other).2 plain

end IceRpc
