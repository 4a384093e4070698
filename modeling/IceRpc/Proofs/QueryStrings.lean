/-
Module: IceRpc.Proofs.QueryStrings
Purpose: Query strings of the HTTP gateway: every percent-encoding of a map is parsed back
  to it, and an empty piece is harmless only if the empty name already has the empty value.
Trusted boundary: none
Main exports: Encodes, percentBytes_of_encodes, QueryOf, query_string_round_trip, Inserted,
  unnamedValue, empty_piece_harmless_iff
-/
import IceRpc.HttpGateway
import IceRpc.Lib.Split
import IceRpc.Proofs.CorrelationText

namespace IceRpc

open Lib

/-! ### Percent-encoding -/

/-- A character stands for a hexadecimal digit, in either case. -/
def IsHex (digit : UInt8) (char : Char) : Prop :=
  digit < 16 ∧ char.toLower = hexChar digit.toNat

/-- The encodings of a list of bytes: a space may be written as `+`, any byte as `%XX`, and
an ASCII character that means nothing else in a query string as itself. -/
inductive Encodes : List UInt8 → List Char → Prop where
  | nil : Encodes [] []
  | literal {bytes : List UInt8} {text : List Char} (char : Char) :
      char.toNat < 128 → char ∉ ['%', '+', '&', '=', ' '] → Encodes bytes text →
      Encodes (UInt8.ofNat char.toNat :: bytes) (char :: text)
  | space {bytes : List UInt8} {text : List Char} :
      Encodes bytes text → Encodes (32 :: bytes) ('+' :: text)
  | escaped {bytes : List UInt8} {text : List Char} (byte : UInt8) (high low : Char) :
      IsHex (byte / 16) high → IsHex (byte % 16) low → Encodes bytes text →
      Encodes (byte :: bytes) ('%' :: high :: low :: text)

/-- A digit is one byte, and the decoder reads it back. -/
theorem IsHex.encoded {digit : UInt8} {char : Char} (hex : IsHex digit char) :
    ∃ byte, String.utf8EncodeChar char = [byte] ∧ hexValue byte = some digit := by
  obtain ⟨small, lower⟩ := hex
  have lowered := encodeChar_toLower char
  rw [lower, (encode_hexChar small).1] at lowered
  obtain ⟨byte, same, low⟩ := List.map_eq_singleton_iff.mp lowered.symm
  exact ⟨byte, same, hexDigit_eq_some_iff.mpr ⟨small, low⟩⟩

theorem IsHex.not_special {digit : UInt8} {char : Char} (hex : IsHex digit char) :
    char ≠ '&' ∧ char ≠ '=' := by
  obtain ⟨small, lower⟩ := hex
  have each : ∀ digit : UInt8, digit < 16 →
      hexChar digit.toNat ≠ '&'.toLower ∧ hexChar digit.toNat ≠ '='.toLower :=
    forall_byte (by decide +kernel)
  obtain ⟨first, second⟩ := each digit small
  rw [← lower] at first second
  constructor
  · rintro rfl
    exact first rfl
  · rintro rfl
    exact second rfl

theorem percentBytes_plus (rest : List UInt8) :
    percentBytes (43 :: rest) = 32 :: percentBytes rest := by
  rw [percentBytes]

theorem percentBytes_escape {high low highDigit lowDigit : UInt8}
    (first : hexValue high = some highDigit) (second : hexValue low = some lowDigit)
    (rest : List UInt8) :
    percentBytes (37 :: high :: low :: rest) =
      (highDigit <<< 4 ||| lowDigit) :: percentBytes rest := by
  rw [percentBytes, first, second]

theorem percentBytes_literal {byte : UInt8} (notPlus : byte ≠ 43) (notPercent : byte ≠ 37)
    (rest : List UInt8) : percentBytes (byte :: rest) = byte :: percentBytes rest := by
  rw [percentBytes]
  · exact notPlus
  · intro high low tail percent
    exact absurd percent notPercent

/-- The decoder inverts every encoding. -/
theorem percentBytes_of_encodes {bytes : List UInt8} {text : List Char}
    (encodes : Encodes bytes text) : percentBytes (utf8 text) = bytes := by
  induction encodes with
  | nil => rfl
  | literal char ascii plain _ ih =>
      have byte : ∀ other : Char, other.toNat < 128 → char ≠ other →
          UInt8.ofNat char.toNat ≠ UInt8.ofNat other.toNat := by
        intro other small differ same
        apply differ
        apply Char.toNat_inj.mp
        have values := congrArg UInt8.toNat same
        rwa [UInt8.toNat_ofNat_of_lt' (Nat.lt_trans ascii (by decide)),
          UInt8.toNat_ofNat_of_lt' (Nat.lt_trans small (by decide))] at values
      rw [List.mem_cons, List.mem_cons, not_or, not_or] at plain
      rw [utf8_cons, encodeChar_ascii ascii, List.singleton_append,
        percentBytes_literal (byte '+' (by decide) plain.2.1) (byte '%' (by decide) plain.1), ih]
  | space _ ih =>
      have plus : String.utf8EncodeChar '+' = [43] := by decide
      rw [utf8_cons, plus, List.singleton_append, percentBytes_plus, ih]
  | escaped byte high low highHex lowHex _ ih =>
      obtain ⟨first, firstIs, firstRead⟩ := highHex.encoded
      obtain ⟨second, secondIs, secondRead⟩ := lowHex.encoded
      have percent : String.utf8EncodeChar '%' = [37] := by decide
      have joined : ∀ byte : UInt8, (byte / 16) <<< 4 ||| byte % 16 = byte :=
        forall_byte (by decide +kernel)
      rw [utf8_cons, utf8_cons, utf8_cons, percent, firstIs, secondIs, List.singleton_append,
        List.singleton_append, List.singleton_append, percentBytes_escape firstRead secondRead,
        joined, ih]

theorem percentDecode_of_encodes {name : String} {text : List Char}
    (encodes : Encodes (utf8 name.toList) text) : percentDecode text = name := by
  rw [percentDecode, percentBytes_of_encodes encodes, fromUtf8Lossy_utf8, String.ofList_toList]

/-- An encoding separates nothing. -/
theorem Encodes.not_special {bytes : List UInt8} {text : List Char}
    (encodes : Encodes bytes text) : '&' ∉ text ∧ '=' ∉ text := by
  induction encodes with
  | nil => exact ⟨List.not_mem_nil, List.not_mem_nil⟩
  | literal char _ plain _ ih =>
      simp only [List.mem_cons, not_or] at plain ⊢
      exact ⟨⟨Ne.symm plain.2.2.1, ih.1⟩, ⟨Ne.symm plain.2.2.2.1, ih.2⟩⟩
  | space _ ih =>
      simp only [List.mem_cons, not_or]
      exact ⟨⟨by decide, ih.1⟩, ⟨by decide, ih.2⟩⟩
  | escaped byte high low highHex lowHex _ ih =>
      obtain ⟨highAnd, highEq⟩ := highHex.not_special
      obtain ⟨lowAnd, lowEq⟩ := lowHex.not_special
      simp only [List.mem_cons, not_or]
      exact ⟨⟨by decide, highAnd.symm, lowAnd.symm, ih.1⟩,
        ⟨by decide, highEq.symm, lowEq.symm, ih.2⟩⟩

/-! ### Pieces -/

theorem splitPair_of_key {key : List Char} (free : '=' ∉ key) (value : List Char) :
    splitPair (key ++ '=' :: value) = (key, value) := by
  have named : ∀ char ∈ key, decide (char ≠ '=') = true := by
    intro char member
    exact decide_eq_true fun same => free (same ▸ member)
  have rest : (key ++ '=' :: value).dropWhile (· ≠ '=') = '=' :: value := by
    rw [List.dropWhile_append_of_pos named]
    rfl
  have start : (key ++ '=' :: value).takeWhile (· ≠ '=') = key := by
    rw [List.takeWhile_append_of_pos named, List.takeWhile_cons_of_neg (by decide),
      List.append_nil]
  rw [splitPair, rest, start]

/-- One piece of a query string: the encodings of a key and of its value. -/
def EncodesPair (pair : String × String) (piece : List Char) : Prop :=
  ∃ key value, Encodes (utf8 pair.1.toList) key ∧ Encodes (utf8 pair.2.toList) value ∧
    piece = key ++ '=' :: value

/-- The query strings of a map: the pieces of its entries, in some order. -/
def QueryOf (params : Params) (query : String) : Prop :=
  ∃ pairs pieces, pairs.Perm params.toList ∧ List.Forall₂ EncodesPair pairs pieces ∧
    query.toList = ['&'].intercalate pieces

theorem EncodesPair.insertPair {pair : String × String} {piece : List Char}
    (encodes : EncodesPair pair piece) (params : Params) :
    IceRpc.insertPair params piece = params.insert pair.1 pair.2 := by
  obtain ⟨key, value, keyOf, valueOf, rfl⟩ := encodes
  rw [IceRpc.insertPair, splitPair_of_key keyOf.not_special.2, percentDecode_of_encodes keyOf,
    percentDecode_of_encodes valueOf]

theorem EncodesPair.not_special {pair : String × String} {piece : List Char}
    (encodes : EncodesPair pair piece) : '&' ∉ piece ∧ piece ≠ [] := by
  obtain ⟨key, value, keyOf, valueOf, rfl⟩ := encodes
  constructor
  · rw [List.mem_append, List.mem_cons, not_or, not_or]
    exact ⟨keyOf.not_special.1, by decide, valueOf.not_special.1⟩
  · exact List.append_ne_nil_of_right_ne_nil _ nofun

/-- The loop over encoded pieces inserts their entries. -/
theorem foldl_insertPair {pairs : List (String × String)} {pieces : List (List Char)}
    (encodes : List.Forall₂ EncodesPair pairs pieces) (params : Params) :
    pieces.foldl insertPair params =
      pairs.foldl (fun params pair => params.insert pair.1 pair.2) params := by
  induction encodes generalizing params with
  | nil => rfl
  | cons first _ ih => rw [List.foldl_cons, List.foldl_cons, first.insertPair, ih]

/-- After a loop of insertions a key has the value inserted last. -/
theorem getElem?_foldl_insert (pairs : List (String × String)) (params : Params)
    (key : String) :
    (pairs.foldl (fun params pair => params.insert pair.1 pair.2) params)[key]? =
      (pairs.reverse.lookup key).or params[key]? := by
  induction pairs generalizing params with
  | nil => rfl
  | cons pair pairs ih =>
      obtain ⟨name, value⟩ := pair
      have inserted : (params.insert name value)[key]? =
          ([(name, value)].lookup key).or params[key]? := by
        rw [Std.ExtTreeMap.getElem?_insert, List.lookup_singleton]
        by_cases same : key = name
        · simp [same]
        · simp [same, Ne.symm same]
      rw [List.foldl_cons, ih, inserted, List.reverse_cons, List.lookup_append, Option.or_assoc]

/-- Inserting the entries of a map in any order builds the map. -/
theorem foldl_insert_of_perm {pairs : List (String × String)} {params : Params}
    (same : pairs.Perm params.toList) :
    pairs.foldl (fun params pair => params.insert pair.1 pair.2) ∅ = params := by
  have distinct : pairs.reverse.Pairwise fun pair other => pair.1 ≠ other.1 := by
    have sorted : params.toList.Pairwise fun pair other => pair.1 ≠ other.1 :=
      Std.ExtTreeMap.distinct_keys_toList.imp fun differ => by simpa using differ
    exact ((List.reverse_perm pairs).trans same).symm.pairwise sorted fun differ => differ.symm
  apply Std.ExtTreeMap.ext_getElem?
  intro key
  apply Option.ext
  intro value
  rw [getElem?_foldl_insert, Std.ExtTreeMap.getElem?_empty, Option.or_none,
    ← Std.ExtTreeMap.mem_toList_iff_getElem?_eq_some, ← same.mem_iff, ← List.mem_reverse,
    List.lookup_eq_some_iff]
  constructor
  · rintro ⟨before, after, split, -⟩
    rw [split]
    exact List.mem_append_right before List.mem_cons_self
  · intro member
    obtain ⟨before, after, split⟩ := List.append_of_mem member
    refine ⟨before, after, split, ?_⟩
    intro pair earlier
    rw [split] at distinct
    have differ := (List.pairwise_append.mp distinct).2.2 pair earlier _ List.mem_cons_self
    simpa using differ.symm

theorem parseQueryString_of_ne {query : String} (some_ : query.toList ≠ []) :
    parseQueryString query = (query.toList.splitOn '&').foldl insertPair ∅ := by
  have nonempty : query ≠ "" := fun empty => some_ (String.toList_eq_nil_iff.mpr empty)
  simp [parseQueryString, nonempty]

theorem exists_encodesPair {pairs : List (String × String)} {pieces : List (List Char)}
    (encoded : List.Forall₂ EncodesPair pairs pieces) {piece : List Char}
    (member : piece ∈ pieces) : ∃ pair, EncodesPair pair piece := by
  induction encoded with
  | nil => cases member
  | cons first _ ih =>
      rcases List.mem_cons.mp member with rfl | later
      · exact ⟨_, first⟩
      · exact ih later

/-- Every query string that encodes a map is parsed back to it. -/
theorem query_string_round_trip (params : Params) (query : String)
    (encodes : QueryOf params query) : parseQueryString query = params := by
  obtain ⟨pairs, pieces, same, encoded, text⟩ := encodes
  rw [← foldl_insert_of_perm same, ← foldl_insertPair encoded]
  have free : ∀ piece ∈ pieces, '&' ∉ piece := by
    intro piece member
    obtain ⟨pair, encodes⟩ := exists_encodesPair encoded member
    exact encodes.not_special.1
  cases encoded with
  | nil =>
      rw [List.intercalate_nil] at text
      rw [String.toList_eq_nil_iff.mp text]
      rfl
  | @cons pair piece pairs pieces first others =>
      have some_ : query.toList ≠ [] := by
        rw [text]
        exact intercalate_cons_ne_nil (Or.inl first.not_special.2)
      rw [parseQueryString_of_ne some_, text,
        List.splitOn_intercalate '&' free (List.cons_ne_nil _ _)]

/-- Two entries, the later first: a name of one character that is two bytes, and a name with a
space and an escaped ampersand as its value. -/
theorem round_trip_of_a_title :
    let params := ((∅ : Params).insert "a b" "&").insert "é" "1"
    QueryOf params "%C3%a9=1&a+b=%26" ∧ parseQueryString "%C3%a9=1&a+b=%26" = params := by
  intro params
  have encodes : QueryOf params "%C3%a9=1&a+b=%26" := by
    refine ⟨[("é", "1"), ("a b", "&")], ["%C3%a9=1".toList, "a+b=%26".toList],
      by decide +kernel, ?_, by decide⟩
    refine .cons ⟨"%C3%a9".toList, "1".toList, ?_, ?_, by decide⟩
      (.cons ⟨"a+b".toList, "%26".toList, ?_, ?_, by decide⟩ .nil)
    · exact .escaped 0xc3 'C' '3' ⟨by decide, by decide⟩ ⟨by decide, by decide⟩
        (.escaped 0xa9 'a' '9' ⟨by decide, by decide⟩ ⟨by decide, by decide⟩ .nil)
    · exact .literal '1' (by decide) (by decide) .nil
    · exact .literal 'a' (by decide) (by decide) (.space
        (.literal 'b' (by decide) (by decide) .nil))
    · exact .escaped 38 '2' '6' ⟨by decide, by decide⟩ ⟨by decide, by decide⟩ .nil
  exact ⟨encodes, query_string_round_trip _ _ encodes⟩

/-! ### Empty pieces -/

theorem percentBytes_eq_nil {bytes : List UInt8} (nothing : percentBytes bytes = []) :
    bytes = [] := by
  rw [percentBytes.eq_def] at nothing
  split at nothing
  · rfl
  · cases nothing
  · split at nothing <;> cases nothing
  · cases nothing

/-- Nothing decodes to the empty text but the empty text. -/
theorem percentDecode_eq_empty {text : List Char} : percentDecode text = "" ↔ text = [] := by
  constructor
  · intro empty
    have chars := String.toList_eq_nil_iff.mpr empty
    rw [percentDecode, String.toList_ofList, fromUtf8Lossy_eq_nil] at chars
    exact utf8_injective (percentBytes_eq_nil chars)
  · rintro rfl
    rfl

/-- The entry of a piece. -/
def entryOf (piece : List Char) : String × String :=
  (percentDecode (splitPair piece).1, percentDecode (splitPair piece).2)

/-- The piece has no name: it is empty or starts with `=`. -/
def isUnnamed (piece : List Char) : Bool := piece.head?.all (· == '=')

theorem splitPair_named {char : Char} (named : char ≠ '=') (rest : List Char) :
    (splitPair (char :: rest)).1 ≠ [] := by
  rw [splitPair]
  split
  · simp [named]
  · exact List.cons_ne_nil _ _

theorem entryOf_unnamed (piece : List Char) : (entryOf piece).1 = "" ↔ isUnnamed piece := by
  rw [entryOf, percentDecode_eq_empty]
  cases piece with
  | nil => exact ⟨fun _ => rfl, fun _ => rfl⟩
  | cons char rest =>
      by_cases named : char = '='
      · rw [named]
        exact ⟨fun _ => rfl, fun _ => rfl⟩
      · simp [splitPair_named named rest, isUnnamed, named]

/-- A piece without a name has the empty value if nothing follows its `=`. -/
theorem entryOf_valueless {piece : List Char} (unnamed : isUnnamed piece) :
    (entryOf piece).2 = "" ↔ piece = [] ∨ piece = ['='] := by
  rw [entryOf, percentDecode_eq_empty]
  cases piece with
  | nil => exact ⟨fun _ => Or.inl rfl, fun _ => rfl⟩
  | cons char rest =>
      obtain rfl : char = '=' := by simpa [isUnnamed] using unnamed
      have value : (splitPair ('=' :: rest)).2 = rest := rfl
      rw [value]
      simp

/-- One query string is another with an empty piece inserted between two pieces or at
either end. -/
def Inserted (query other : String) : Prop :=
  ∃ before after, query.toList.splitOn '&' = before ++ after ∧
    other.toList = ['&'].intercalate (before ++ [] :: after)

/-- The last piece without a name. -/
def lastUnnamed (query : String) : Option (List Char) :=
  (query.toList.splitOn '&').reverse.find? isUnnamed

/-- The empty name already has the empty value. -/
def EmptyNamed (query : String) : Prop :=
  query ≠ "" ∧ (lastUnnamed query = some [] ∨ lastUnnamed query = some ['='])

theorem foldl_insertPair_eq (pieces : List (List Char)) (params : Params) :
    pieces.foldl insertPair params =
      (pieces.map entryOf).foldl (fun params pair => params.insert pair.1 pair.2) params := by
  rw [List.foldl_map]
  rfl

/-- A parameter has the value of the last piece of its name. -/
theorem getElem?_foldl_insertPair (pieces : List (List Char)) (key : String) :
    (pieces.foldl insertPair ∅)[key]? = (pieces.reverse.map entryOf).lookup key := by
  rw [foldl_insertPair_eq, getElem?_foldl_insert, Std.ExtTreeMap.getElem?_empty, Option.or_none,
    List.map_reverse]

theorem lookup_unnamed (pieces : List (List Char)) :
    (pieces.map entryOf).lookup "" =
      (pieces.find? isUnnamed).map fun piece => (entryOf piece).2 := by
  induction pieces with
  | nil => rfl
  | cons piece pieces ih =>
      by_cases unnamed : isUnnamed piece
      · have name := (entryOf_unnamed piece).mpr unnamed
        rw [List.map_cons, List.lookup_cons, List.find?_cons_of_pos unnamed, name]
        rfl
      · have name : ("" == (entryOf piece).1) = false := by
          rw [beq_eq_false_iff_ne]
          exact fun empty => unnamed ((entryOf_unnamed piece).mp empty.symm)
        rw [List.map_cons, List.lookup_cons, List.find?_cons_of_neg unnamed, name]
        exact ih

/-- What the condition on the query string says about its parameters. -/
theorem emptyNamed_iff (query : String) :
    EmptyNamed query ↔ (parseQueryString query)[""]? = some "" := by
  by_cases empty : query = ""
  · subst empty
    constructor
    · intro named
      exact absurd rfl named.1
    · intro found
      have nothing : (parseQueryString "")[""]? = none := Std.ExtTreeMap.getElem?_empty
      rw [nothing] at found
      cases found
  · have some_ : query.toList ≠ [] := fun nothing => empty (String.toList_eq_nil_iff.mp nothing)
    rw [parseQueryString_of_ne some_, getElem?_foldl_insertPair, lookup_unnamed,
      Option.map_eq_some_iff]
    constructor
    · rintro ⟨-, found | found⟩
      · exact ⟨_, found, rfl⟩
      · exact ⟨_, found, rfl⟩
    · rintro ⟨piece, found, value⟩
      refine ⟨empty, ?_⟩
      rcases (entryOf_valueless (List.find?_some found)).mp value with rfl | rfl
      · exact Or.inl found
      · exact Or.inr found

/-! ### What an insertion does to the arguments -/

/-- The parts of the inserted text are the old ones and an empty one. -/
theorem Inserted.parsed {query other : String} (inserted : Inserted query other) :
    ∃ before after, query.toList.splitOn '&' = before ++ after ∧
      parseQueryString other = (before ++ [] :: after).foldl insertPair ∅ := by
  obtain ⟨before, after, split, text⟩ := inserted
  refine ⟨before, after, split, ?_⟩
  have free : ∀ piece ∈ before ++ [] :: after, '&' ∉ piece := by
    intro piece member
    rw [List.mem_append, List.mem_cons, or_left_comm, ← List.mem_append, ← split] at member
    rcases member with rfl | old
    · exact List.not_mem_nil
    · exact not_mem_of_mem_splitOn old
  have parts : other.toList.splitOn '&' = before ++ [] :: after := by
    rw [text]
    exact List.splitOn_intercalate '&' free (by simp)
  have some_ : other.toList ≠ [] := by
    intro nothing
    rw [nothing, List.splitOn_nil] at parts
    -- one part would leave none for the query string
    have lengths := congrArg List.length parts
    have old := congrArg List.length split
    have atLeast := List.length_pos_iff.mpr (List.splitOn_ne_nil '&' query.toList)
    simp only [List.length_append, List.length_cons, List.length_nil] at lengths old
    omega
  rw [parseQueryString_of_ne some_, parts]

/-- If the empty name already has the empty value, an empty piece adds nothing. -/
theorem Inserted.same_params {query other : String} (inserted : Inserted query other)
    (named : EmptyNamed query) : parseQueryString other = parseQueryString query := by
  have found := (emptyNamed_iff query).mp named
  have some_ : query.toList ≠ [] :=
    fun nothing => named.1 (String.toList_eq_nil_iff.mp nothing)
  obtain ⟨before, after, split, parsed⟩ := inserted.parsed
  rw [parseQueryString_of_ne some_, split] at found ⊢
  rw [parsed]
  apply Std.ExtTreeMap.ext_getElem?
  intro key
  rw [getElem?_foldl_insertPair] at found
  rw [getElem?_foldl_insertPair, getElem?_foldl_insertPair]
  simp only [List.reverse_append, List.reverse_cons, List.map_append,
    List.lookup_append] at found ⊢
  have added : ([[]].map entryOf).lookup key = if key = "" then some "" else none := by
    have entry : [[]].map entryOf = [("", "")] := rfl
    rw [entry, List.lookup_singleton]
    simp
  rw [added]
  by_cases unnamed : key = ""
  · rw [if_pos unnamed, unnamed]
    cases later : (after.reverse.map entryOf).lookup "" with
    | none =>
        rw [later, Option.none_or] at found
        rw [found]
        rfl
    | some value => rfl
  · rw [if_neg unnamed, Option.or_none]

section Arguments

variable (finiteF64 : String → Option String)

theorem parseScalar_cases (text : String) :
    (∃ value, parseScalar finiteF64 text = .bool value) ∨ parseScalar finiteF64 text = .null ∨
      (∃ literal, parseScalar finiteF64 text = .number literal) ∨
      parseScalar finiteF64 text = .string text := by
  by_cases empty : text = ""
  · subst empty
    exact Or.inr (Or.inr (Or.inr rfl))
  · have some_ : text.isEmpty = false := by simpa using empty
    rw [parseScalar, some_, if_neg Bool.false_ne_true]
    split
    · exact Or.inl ⟨_, rfl⟩
    · split
      · exact Or.inl ⟨_, rfl⟩
      · split
        · exact Or.inr (Or.inl rfl)
        · split
          · exact Or.inr (Or.inr (Or.inl ⟨_, rfl⟩))
          · split
            · exact Or.inr (Or.inr (Or.inl ⟨_, rfl⟩))
            · exact Or.inr (Or.inr (Or.inr rfl))

/-- Only the empty text is read as the empty string. -/
theorem parseScalar_eq_empty {text : String} (empty : parseScalar finiteF64 text = .string "") :
    text = "" := by
  rcases parseScalar_cases finiteF64 text with ⟨_, read⟩ | read | ⟨_, read⟩ | read <;>
    rw [read] at empty <;> cases empty
  rfl

/-- No text is read as an object. -/
theorem parseScalar_ne_object (text : String) (fields : List (String × Json)) :
    parseScalar finiteF64 text ≠ .object fields := by
  intro object
  rcases parseScalar_cases finiteF64 text with ⟨_, read⟩ | read | ⟨_, read⟩ | read <;>
    rw [read] at object <;> cases object

theorem exists_mem_of_map_eq {A B : Type} {f : A → B} {first second : List A}
    (same : first.map f = second.map f) {entry : A} (member : entry ∈ first) :
    ∃ other ∈ second, f other = f entry := by
  have shown : f entry ∈ first.map f := List.mem_map_of_mem member
  rw [same] at shown
  exact List.mem_map.mp shown

/-- The empty value under the empty name shows in the arguments, unless it was there. -/
theorem paramsToJson_insert_empty {params : Params}
    (same : paramsToJson finiteF64 (params.insert "" "") = paramsToJson finiteF64 params) :
    params[""]? = some "" := by
  have member : ("", "") ∈ (params.insert "" "").toList := by
    rw [Std.ExtTreeMap.mem_toList_iff_getElem?_eq_some, Std.ExtTreeMap.getElem?_insert_self]
  have size : (params.insert "" "").toList.length =
      if params.contains "" then params.toList.length else params.toList.length + 1 := by
    rw [Std.ExtTreeMap.length_toList, Std.ExtTreeMap.length_toList, Std.ExtTreeMap.size_insert]
  have present : params.contains "" = true → ∃ value, ("", value) ∈ params.toList := by
    intro contained
    obtain ⟨value, found⟩ := Option.isSome_iff_exists.mp
      ((Std.ExtTreeMap.contains_eq_isSome_getElem? ..).symm.trans contained)
    exact ⟨value, Std.ExtTreeMap.mem_toList_iff_getElem?_eq_some.mpr found⟩
  rw [← Std.ExtTreeMap.mem_toList_iff_getElem?_eq_some]
  rw [paramsToJson, paramsToJson] at same
  generalize (params.insert "" "").toList = fresh at member size same
  generalize params.toList = fields at size same present ⊢
  generalize params.contains "" = contained at size present
  match fresh, fields with
  | [], _ => cases member
  | [entry], [] =>
      rw [← List.mem_singleton.mp member] at same
      cases same
  | [entry], [(name, value)] =>
      have there : contained = true := by
        cases contained with
        | true => rfl
        | false => cases size
      obtain ⟨found, foundIn⟩ := present there
      rw [← List.mem_singleton.mp member] at same
      cases List.mem_singleton.mp foundIn
      rw [parseScalar_eq_empty finiteF64 same.symm]
      exact List.mem_singleton_self _
  | [entry], _ :: _ :: _ =>
      cases contained <;> cases size
  | first :: second :: rest, [] => cases same
  | first :: second :: rest, [(name, value)] =>
      exact absurd same.symm (parseScalar_ne_object finiteF64 value _)
  | first :: second :: rest, third :: fourth :: others =>
      obtain ⟨⟨name, value⟩, listed, pair⟩ := exists_mem_of_map_eq (Json.object.inj same) member
      obtain ⟨rfl, read⟩ := Prod.mk.inj pair
      rwa [parseScalar_eq_empty finiteF64 read] at listed

/-- A trailing `&` inserts the empty value under the empty name. -/
theorem parse_trailing (query : String) :
    Inserted query (query ++ "&") ∧
      parseQueryString (query ++ "&") = (parseQueryString query).insert "" "" := by
  have some_ := List.splitOn_ne_nil '&' query.toList
  have text : (query ++ "&").toList =
      ['&'].intercalate (query.toList.splitOn '&' ++ [] :: []) := by
    rw [intercalate_append ['&'] some_ (List.cons_ne_nil _ _), List.intercalate_splitOn,
      List.intercalate_singleton, List.append_nil, String.toList_append]
    rfl
  have inserted : Inserted query (query ++ "&") := ⟨_, [], (List.append_nil _).symm, text⟩
  refine ⟨inserted, ?_⟩
  have nonempty : (query ++ "&").toList ≠ [] := by
    rw [String.toList_append]
    exact List.append_ne_nil_of_right_ne_nil _ (List.cons_ne_nil _ _)
  have parts : (query ++ "&").toList.splitOn '&' = query.toList.splitOn '&' ++ [[]] := by
    rw [String.toList_append]
    exact List.splitOn_append_cons_self _ []
  rw [parseQueryString_of_ne nonempty, parts, List.foldl_append]
  by_cases empty : query = ""
  · rw [empty]
    decide +kernel
  · rw [parseQueryString_of_ne fun nothing => empty (String.toList_eq_nil_iff.mp nothing)]
    rfl

/-- Inserting an empty piece never changes the arguments exactly if the query string is not
empty and its last piece without a name has no value. -/
theorem empty_piece_harmless_iff (query : String) :
    (∀ other, Inserted query other → paramsToJson finiteF64 (parseQueryString other) =
      paramsToJson finiteF64 (parseQueryString query)) ↔ EmptyNamed query := by
  constructor
  · intro unchanged
    obtain ⟨inserted, parsed⟩ := parse_trailing query
    have same := unchanged _ inserted
    rw [parsed] at same
    exact (emptyNamed_iff query).mpr (paramsToJson_insert_empty finiteF64 same)
  · intro named other inserted
    rw [inserted.same_params named]

end Arguments

/-- A trailing `&` turns the bare value of a single parameter into an object. -/
theorem trailing_ampersand_changes_arguments :
    Inserted "a=1" "a=1&" ∧
    paramsToJson (fun _ => none) (parseQueryString "a=1") = .number "1" ∧
    paramsToJson (fun _ => none) (parseQueryString "a=1&") =
      .object [("", .string ""), ("a", .number "1")] := by
  have one : parseScalar (fun _ => none) "1" = .number "1" := by
    have read : parseI64 "1".toList = some 1 := by decide
    rw [parseScalar, if_neg (by decide), if_neg (by decide), if_neg (by decide),
      if_neg (by decide), read]
    rfl
  have bare : (parseQueryString "a=1").toList = [("a", "1")] := by decide +kernel
  have more : (parseQueryString "a=1&").toList = [("", ""), ("a", "1")] := by decide +kernel
  refine ⟨(parse_trailing "a=1").1, ?_, ?_⟩
  · rw [paramsToJson, bare]
    exact one
  · rw [paramsToJson, more]
    simp only [List.map_cons, List.map_nil, one]
    rfl

end IceRpc
