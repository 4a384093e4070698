/-
Module: IceRpc.Lib.Utf8
Purpose: Texts as UTF-8 bytes: which bytes a character has, that the bytes determine the
  text, lowercase read off the bytes, and the decoder that replaces what is malformed.
Trusted boundary: human-reviewed spec for the decoder
Main exports: utf8, toUTF8_eq_utf8, utf8_injective, lowerByte, utf8_map_toLower,
  fromUtf8Lossy, fromUtf8Lossy_utf8
-/

namespace IceRpc.Lib

/-! ### The bytes of a text -/

/-- The UTF-8 bytes of a text. -/
def utf8 (chars : List Char) : List UInt8 := chars.flatMap String.utf8EncodeChar

theorem toUTF8_eq_utf8 (text : String) : text.toUTF8.data.toList = utf8 text.toList := by
  obtain ⟨chars, rfl⟩ := text.exists_eq_ofList
  rw [String.toUTF8_eq_toByteArray, String.toByteArray_ofList, String.toList_ofList,
    List.utf8Encode, List.toList_data_toByteArray]
  rfl

@[simp] theorem utf8_nil : utf8 [] = [] := rfl

@[simp] theorem utf8_cons (char : Char) (chars : List Char) :
    utf8 (char :: chars) = String.utf8EncodeChar char ++ utf8 chars := rfl

@[simp] theorem utf8_append (chars more : List Char) :
    utf8 (chars ++ more) = utf8 chars ++ utf8 more :=
  List.flatMap_append

/-- An ASCII character is one byte. -/
theorem encodeChar_ascii {char : Char} (ascii : char.toNat < 128) :
    String.utf8EncodeChar char = [UInt8.ofNat char.toNat] := by
  unfold String.utf8EncodeChar
  exact if_pos (Nat.le_of_lt_succ ascii)

/-- No byte of another character is an ASCII byte. -/
theorem encodeChar_beyond {char : Char} (beyond : 128 ≤ char.toNat) :
    ∀ byte ∈ String.utf8EncodeChar char, 128 ≤ byte.toNat := by
  have notAscii : ¬ char.val.toNat ≤ 127 := Nat.not_le.mpr beyond
  intro byte listed
  unfold String.utf8EncodeChar at listed
  simp only [notAscii, if_false] at listed
  split at listed
  · simp only [List.mem_cons, List.not_mem_nil, or_false] at listed
    rcases listed with rfl | rfl <;> rw [UInt8.toNat_ofNat'] <;> omega
  · split at listed
    · simp only [List.mem_cons, List.not_mem_nil, or_false] at listed
      rcases listed with rfl | rfl | rfl <;> rw [UInt8.toNat_ofNat'] <;> omega
    · simp only [List.mem_cons, List.not_mem_nil, or_false] at listed
      rcases listed with rfl | rfl | rfl | rfl <;> rw [UInt8.toNat_ofNat'] <;> omega

/-- The bytes determine the text. -/
theorem utf8_injective {chars others : List Char} (same : utf8 chars = utf8 others) :
    chars = others := by
  have bytes : (String.ofList chars).toByteArray = (String.ofList others).toByteArray := by
    rw [String.toByteArray_ofList, String.toByteArray_ofList]
    exact congrArg List.toByteArray same
  exact String.ofList_injective (String.toByteArray_inj.mp bytes)

/-! ### Lowercase -/

/-- An ASCII capital letter in lowercase. -/
def lowerByte (byte : UInt8) : UInt8 :=
  if 65 ≤ byte && byte ≤ 90 then byte + 32 else byte

theorem lowerByte_beyond {byte : UInt8} (beyond : 128 ≤ byte.toNat) : lowerByte byte = byte := by
  unfold lowerByte
  apply if_neg
  intro capital
  rw [Bool.and_eq_true, decide_eq_true_iff, decide_eq_true_iff, UInt8.le_iff_toNat_le,
    UInt8.le_iff_toNat_le] at capital
  have last : (90 : UInt8).toNat = 90 := rfl
  omega

theorem encodeChar_toLower (char : Char) :
    String.utf8EncodeChar char.toLower = (String.utf8EncodeChar char).map lowerByte := by
  by_cases ascii : char.toNat < 128
  · have small : ∀ code < 128, String.utf8EncodeChar (Char.ofNat code).toLower =
        (String.utf8EncodeChar (Char.ofNat code)).map lowerByte := by decide
    have here := small char.toNat ascii
    rwa [Char.ofNat_toNat] at here
  · have beyond := Nat.le_of_not_lt ascii
    have same : char.toLower = char := by
      unfold Char.toLower
      apply dif_neg
      rintro ⟨-, capital⟩
      have code := UInt32.le_iff_toNat_le.mp capital
      have last : ('Z' : Char).val.toNat = 90 := rfl
      rw [Char.toNat] at beyond
      omega
    have unchanged : ∀ byte ∈ String.utf8EncodeChar char, lowerByte byte = id byte :=
      fun byte listed => lowerByte_beyond (encodeChar_beyond beyond byte listed)
    rw [same, List.map_congr_left unchanged, List.map_id]

/-- Lowercase read off the bytes. -/
theorem utf8_map_toLower (chars : List Char) :
    utf8 (chars.map Char.toLower) = (utf8 chars).map lowerByte := by
  induction chars with
  | nil => rfl
  | cons char chars ih =>
      rw [List.map_cons, utf8_cons, utf8_cons, List.map_append, encodeChar_toLower, ih]

/-! ### The decoder that never fails -/

/-- `U+FFFD`, which stands for a malformed part. -/
def replacement : Char := Char.ofNat 0xFFFD

/-- A byte that goes on with a character. -/
def isContinuation (byte : UInt8) : Bool := byte.toNat / 64 == 2

/-- The second byte fits the first of three: no overlong form and no surrogate. -/
def fitsThree (first second : UInt8) : Bool :=
  isContinuation second && (first.toNat != 0xE0 || 0xA0 ≤ second.toNat) &&
    (first.toNat != 0xED || second.toNat ≤ 0x9F)

/-- The second byte fits the first of four: no overlong form, nothing past the last
code point. -/
def fitsFour (first second : UInt8) : Bool :=
  isContinuation second && (first.toNat != 0xF0 || 0x90 ≤ second.toNat) &&
    (first.toNat != 0xF4 || second.toNat ≤ 0x8F)

/-- The character that these bytes spell. -/
def assemble (first : Nat) (continuation : List UInt8) : Char :=
  Char.ofNat (continuation.foldl (fun code byte => code * 64 + byte.toNat % 64) first)

/-- `String::from_utf8_lossy`: every longest part that begins a character and does not
come to its end is replaced by one mark. -/
def fromUtf8Lossy : List UInt8 → List Char
  | [] => []
  | first :: rest =>
      if first.toNat < 0x80 then
        Char.ofNat first.toNat :: fromUtf8Lossy rest
      else if 0xC2 ≤ first.toNat && first.toNat ≤ 0xDF then
        match rest with
        | second :: rest =>
            if isContinuation second then
              assemble (first.toNat % 32) [second] :: fromUtf8Lossy rest
            else
              replacement :: fromUtf8Lossy (second :: rest)
        | [] => [replacement]
      else if 0xE0 ≤ first.toNat && first.toNat ≤ 0xEF then
        match rest with
        | second :: rest =>
            if fitsThree first second then
              match rest with
              | third :: rest =>
                  if isContinuation third then
                    assemble (first.toNat % 16) [second, third] :: fromUtf8Lossy rest
                  else
                    replacement :: fromUtf8Lossy (third :: rest)
              | [] => [replacement]
            else
              replacement :: fromUtf8Lossy (second :: rest)
        | [] => [replacement]
      else if 0xF0 ≤ first.toNat && first.toNat ≤ 0xF4 then
        match rest with
        | second :: rest =>
            if fitsFour first second then
              match rest with
              | third :: rest =>
                  if isContinuation third then
                    match rest with
                    | fourth :: rest =>
                        if isContinuation fourth then
                          assemble (first.toNat % 8) [second, third, fourth] ::
                            fromUtf8Lossy rest
                        else
                          replacement :: fromUtf8Lossy (fourth :: rest)
                    | [] => [replacement]
                  else
                    replacement :: fromUtf8Lossy (third :: rest)
              | [] => [replacement]
            else
              replacement :: fromUtf8Lossy (second :: rest)
        | [] => [replacement]
      else
        replacement :: fromUtf8Lossy rest

section

variable {first second third fourth : UInt8} {rest : List UInt8} {a b c d : Nat}

theorem fromUtf8Lossy_one (ascii : first.toNat < 0x80) :
    fromUtf8Lossy (first :: rest) = Char.ofNat first.toNat :: fromUtf8Lossy rest := by
  rw [fromUtf8Lossy.eq_def]
  exact if_pos ascii

theorem isContinuation_of (value : second.toNat = b + 0x80) (small : b < 64) :
    isContinuation second = true := by
  rw [isContinuation, value, beq_iff_eq]
  omega

theorem fromUtf8Lossy_two (one : first.toNat = a + 0xC0) (two : second.toNat = b + 0x80)
    (small : a < 32 ∧ b < 64) (long : 2 ≤ a) :
    fromUtf8Lossy (first :: second :: rest) = Char.ofNat (a * 64 + b) :: fromUtf8Lossy rest := by
  have notOne : ¬ first.toNat < 0x80 := by omega
  have isTwo : (0xC2 ≤ first.toNat && first.toNat ≤ 0xDF) = true := by
    rw [Bool.and_eq_true, decide_eq_true_iff, decide_eq_true_iff]
    omega
  have high : first.toNat % 32 = a := by omega
  have low : second.toNat % 64 = b := by omega
  rw [fromUtf8Lossy.eq_def]
  simp only [notOne, isTwo, isContinuation_of two small.2, if_true, if_false,
    assemble, List.foldl_cons, List.foldl_nil, high, low]

theorem fromUtf8Lossy_three (one : first.toNat = a + 0xE0) (two : second.toNat = b + 0x80)
    (three : third.toNat = c + 0x80) (small : a < 16 ∧ b < 64 ∧ c < 64)
    (long : a = 0 → 32 ≤ b) (scalar : a = 13 → b < 32) :
    fromUtf8Lossy (first :: second :: third :: rest) =
      Char.ofNat ((a * 64 + b) * 64 + c) :: fromUtf8Lossy rest := by
  have notOne : ¬ first.toNat < 0x80 := by omega
  have notTwo : (0xC2 ≤ first.toNat && first.toNat ≤ 0xDF) = false := by
    rw [Bool.and_eq_false_iff, decide_eq_false_iff_not, decide_eq_false_iff_not]
    omega
  have isThree : (0xE0 ≤ first.toNat && first.toNat ≤ 0xEF) = true := by
    rw [Bool.and_eq_true, decide_eq_true_iff, decide_eq_true_iff]
    omega
  have fits : fitsThree first second = true := by
    simp only [fitsThree, isContinuation_of two small.2.1, Bool.true_and, Bool.and_eq_true,
      Bool.or_eq_true, bne_iff_ne, decide_eq_true_eq]
    omega
  have high : first.toNat % 16 = a := by omega
  have middle : second.toNat % 64 = b := by omega
  have low : third.toNat % 64 = c := by omega
  rw [fromUtf8Lossy.eq_def]
  simp only [notOne, notTwo, isThree, fits, isContinuation_of three small.2.2,
    if_true, if_false, Bool.false_eq_true, assemble, List.foldl_cons, List.foldl_nil, high,
    middle, low]

theorem fromUtf8Lossy_four (one : first.toNat = a + 0xF0) (two : second.toNat = b + 0x80)
    (three : third.toNat = c + 0x80) (four : fourth.toNat = d + 0x80)
    (small : a < 5 ∧ b < 64 ∧ c < 64 ∧ d < 64) (long : a = 0 → 16 ≤ b)
    (scalar : a = 4 → b < 16) :
    fromUtf8Lossy (first :: second :: third :: fourth :: rest) =
      Char.ofNat (((a * 64 + b) * 64 + c) * 64 + d) :: fromUtf8Lossy rest := by
  have notOne : ¬ first.toNat < 0x80 := by omega
  have notTwo : (0xC2 ≤ first.toNat && first.toNat ≤ 0xDF) = false := by
    rw [Bool.and_eq_false_iff, decide_eq_false_iff_not, decide_eq_false_iff_not]
    omega
  have notThree : (0xE0 ≤ first.toNat && first.toNat ≤ 0xEF) = false := by
    rw [Bool.and_eq_false_iff, decide_eq_false_iff_not, decide_eq_false_iff_not]
    omega
  have isFour : (0xF0 ≤ first.toNat && first.toNat ≤ 0xF4) = true := by
    rw [Bool.and_eq_true, decide_eq_true_iff, decide_eq_true_iff]
    omega
  have fits : fitsFour first second = true := by
    simp only [fitsFour, isContinuation_of two small.2.1, Bool.true_and, Bool.and_eq_true,
      Bool.or_eq_true, bne_iff_ne, decide_eq_true_eq]
    omega
  have high : first.toNat % 8 = a := by omega
  have middle : second.toNat % 64 = b := by omega
  have later : third.toNat % 64 = c := by omega
  have low : fourth.toNat % 64 = d := by omega
  rw [fromUtf8Lossy.eq_def]
  simp only [notOne, notTwo, notThree, isFour, fits,
    isContinuation_of three small.2.2.1, isContinuation_of four small.2.2.2, if_true, if_false,
    Bool.false_eq_true, assemble, List.foldl_cons, List.foldl_nil, high, middle, later, low]

end

/-- The bytes of a character are read as that character. -/
theorem fromUtf8Lossy_encodeChar (char : Char) (rest : List UInt8) :
    fromUtf8Lossy (String.utf8EncodeChar char ++ rest) = char :: fromUtf8Lossy rest := by
  have value : ∀ {number : Nat}, number < 256 → (UInt8.ofNat number).toNat = number := by
    intro number small
    rw [UInt8.toNat_ofNat']
    exact Nat.mod_eq_of_lt small
  have scalar : char.val.toNat < 0xD800 ∨
      0xDFFF < char.val.toNat ∧ char.val.toNat < 0x110000 := char.valid
  have spelled : ∀ {code : Nat}, code = char.val.toNat → Char.ofNat code = char := by
    intro code same
    rw [same]
    exact Char.ofNat_toNat char
  unfold String.utf8EncodeChar
  dsimp only
  split
  · rename_i one
    have fits := value (Nat.lt_of_le_of_lt one (by decide))
    rw [List.singleton_append, fromUtf8Lossy_one (by omega), fits, spelled rfl]
  · split
    · rename_i notOne two
      rw [List.cons_append, List.singleton_append,
        fromUtf8Lossy_two (value ?_) (value ?_) ⟨?_, ?_⟩ ?_, spelled] <;> omega
    · split
      · rename_i notOne notTwo three
        rw [List.cons_append, List.cons_append, List.singleton_append,
          fromUtf8Lossy_three (value ?_) (value ?_) (value ?_) ⟨?_, ?_, ?_⟩ ?_ ?_,
          spelled] <;> omega
      · rename_i notOne notTwo notThree
        rw [List.cons_append, List.cons_append, List.cons_append, List.singleton_append,
          fromUtf8Lossy_four (value ?_) (value ?_) (value ?_) (value ?_)
            ⟨?_, ?_, ?_, ?_⟩ ?_ ?_, spelled] <;> omega

/-- What is well formed is read as it was written. -/
theorem fromUtf8Lossy_utf8 (chars : List Char) : fromUtf8Lossy (utf8 chars) = chars := by
  induction chars with
  | nil => rfl
  | cons char chars ih => rw [utf8_cons, fromUtf8Lossy_encodeChar, ih]

theorem fromUtf8Lossy_eq_nil {bytes : List UInt8} : fromUtf8Lossy bytes = [] ↔ bytes = [] := by
  constructor
  · intro nothing
    cases bytes with
    | nil => rfl
    | cons first rest =>
        rw [fromUtf8Lossy.eq_def] at nothing
        dsimp only at nothing
        repeat' split at nothing
        all_goals cases nothing
  · rintro rfl
    rfl

end IceRpc.Lib
