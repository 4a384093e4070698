/-
Module: IceRpc.Lib.Verbatim
Purpose: Expositions whose label values are written as they are, without escapes: when a reader
  of the format gives exactly these lines back.
Trusted boundary: none
Main exports: Exposition.Line, Exposition.Line.text, Exposition.Plain, Exposition.Line.Sound,
  Exposition.readNumber_int, Exposition.plain_of_readNumber, Exposition.parse_lines_iff
-/
import IceRpc.Lib.Exposition
import IceRpc.Lib.Split
import Mathlib.Data.List.Induction
import Mathlib.Data.List.TakeWhile

namespace IceRpc.Lib.Exposition

/-! ### Lines whose label values are written as they are -/

/-- A line to be written. -/
inductive Line where
  | help (name doc : Text)
  | type (name : Text) (kind : MetricType)
  | sample (name : Text) (labels : List (Text × Text)) (value : Text) (number : Number)

/-- A label, with its value as it is. -/
def labelText (label : Text × Text) : Text := label.1 ++ '=' :: '"' :: (label.2 ++ ['"'])

/-- The labels up to the closing brace. -/
def insideText : List (Text × Text) → Text
  | [] => ['}']
  | [label] => labelText label ++ ['}']
  | label :: labels => labelText label ++ ',' :: insideText labels

/-- The braces and what is in them, unless there are no labels. -/
def bracesText : List (Text × Text) → Text
  | [] => []
  | labels => '{' :: insideText labels

/-- The text of a line. -/
def Line.text : Line → Text
  | .help name doc => '#' :: ' ' :: (helpWord ++ ' ' :: (name ++ ' ' :: doc))
  | .type name kind => '#' :: ' ' :: (typeWord ++ ' ' :: (name ++ ' ' :: kind.text))
  | .sample name labels value _ => name ++ (bracesText labels ++ ' ' :: value)

/-- What the line is to say. -/
def Line.entry : Line → Entry
  | .help name doc => .help name doc
  | .type name kind => .type name kind
  | .sample name labels _ number => .sample ⟨name, labels, number, none⟩

/-- The names, the documentation and the value of a line are of the format; nothing is said
about its label values. -/
def Line.Sound : Line → Prop
  | .help name doc =>
      isWord isNameStart isNameChar name = true ∧ '\\' ∉ doc ∧ '\n' ∉ doc ∧ skip doc = doc
  | .type name _ => isWord isNameStart isNameChar name = true
  | .sample name labels value number =>
      isWord isNameStart isNameChar name = true ∧
        (∀ label ∈ labels, isWord isLabelStart isLabelChar label.1 = true) ∧
        readNumber value = some number

/-- A label value that needs no escape. -/
def Plain (value : Text) : Prop := '"' ∉ value ∧ '\\' ∉ value ∧ '\n' ∉ value

instance (value : Text) : Decidable (Plain value) :=
  inferInstanceAs (Decidable ('"' ∉ value ∧ '\\' ∉ value ∧ '\n' ∉ value))

/-- No label value of the line needs an escape. -/
def Line.PlainLabels : Line → Prop
  | .sample _ labels _ _ => ∀ label ∈ labels, Plain label.2
  | _ => True

/-! ### Words and blanks -/

theorem skip_cons {char : Char} (solid : isBlank char = false) (rest : Text) :
    skip (char :: rest) = char :: rest :=
  List.dropWhile_cons_of_neg (by simp [solid])

@[simp] theorem skip_space (rest : Text) : skip (' ' :: rest) = skip rest :=
  List.dropWhile_cons_of_pos rfl

section Words

variable {start part : Char → Bool} {word : Text}

theorem isWord_eq_true_iff :
    isWord start part word = true ↔
      ∃ first rest, word = first :: rest ∧ start first = true ∧
        ∀ char ∈ word, part char = true := by
  cases word with
  | nil => simp [isWord]
  | cons first rest => simp [isWord]

/-- A word is read up to the first character that is no part of one. -/
theorem readWord_append (isWord_ : isWord start part word = true) {rest : Text}
    (ends : ∀ char ∈ rest.head?, part char = false) :
    readWord start part (word ++ rest) = some (word, rest) := by
  obtain ⟨-, -, -, -, parts⟩ := isWord_eq_true_iff.mp isWord_
  have stops : rest.takeWhile part = [] ∧ rest.dropWhile part = rest := by
    cases rest with
    | nil => exact ⟨rfl, rfl⟩
    | cons char rest =>
        have outside := ends char rfl
        simp [outside]
  have taken : (word ++ rest).takeWhile part = word := by
    rw [List.takeWhile_append_of_pos parts, stops.1, List.append_nil]
  have left : (word ++ rest).dropWhile part = rest := by
    rw [List.dropWhile_append_of_pos parts, stops.2]
  rw [readWord, taken, left, if_pos isWord_]

theorem not_mem_word (isWord_ : isWord start part word = true) {char : Char}
    (outside : part char = false) : char ∉ word := by
  obtain ⟨-, -, -, -, parts⟩ := isWord_eq_true_iff.mp isWord_
  intro member
  rw [parts char member] at outside
  cases outside

/-- Nothing is skipped before a word. -/
theorem skip_word_append (isWord_ : isWord start part word = true)
    (solid : ∀ char, isBlank char = true → part char = false) (rest : Text) :
    skip (word ++ rest) = word ++ rest := by
  obtain ⟨first, others, rfl, -, parts⟩ := isWord_eq_true_iff.mp isWord_
  have first_ := parts first List.mem_cons_self
  apply skip_cons
  cases blank : isBlank first with
  | false => rfl
  | true => rw [solid first blank] at first_; cases first_

end Words

theorem isBlank_eq_true_iff {char : Char} : isBlank char = true ↔ char = ' ' ∨ char = '\t' := by
  simp [isBlank]

theorem nameChar_of_blank (char : Char) (blank : isBlank char = true) :
    isNameChar char = false := by
  rcases isBlank_eq_true_iff.mp blank with rfl | rfl <;> decide

theorem labelChar_of_blank (char : Char) (blank : isBlank char = true) :
    isLabelChar char = false := by
  rcases isBlank_eq_true_iff.mp blank with rfl | rfl <;> decide

/-! ### Label values -/

theorem readLabelValue_cons {char : Char} (plain : char ≠ '"' ∧ char ≠ '\\' ∧ char ≠ '\n')
    (rest : Text) :
    readLabelValue (char :: rest) =
      (readLabelValue rest).map fun (value, after) => (char :: value, after) := by
  rw [readLabelValue.eq_def]
  split <;> simp_all

/-- What needs no escape is read as it is. -/
theorem readLabelValue_of_plain {value : Text} (plain : Plain value) (rest : Text) :
    readLabelValue (value ++ '"' :: rest) = some (value, rest) := by
  induction value with
  | nil => rfl
  | cons char value ih =>
      obtain ⟨quote, slash, feed⟩ := plain
      rw [List.mem_cons, not_or] at quote slash feed
      have later := ih ⟨quote.2, slash.2, feed.2⟩
      have here : char ≠ '"' ∧ char ≠ '\\' ∧ char ≠ '\n' :=
        ⟨Ne.symm quote.1, Ne.symm slash.1, Ne.symm feed.1⟩
      rw [List.cons_append, readLabelValue_cons here, later]
      rfl

/-- A backslash comes from an escaped one only. -/
theorem readLabelValue_eq_backslash {text value after : Text}
    (read : readLabelValue text = some ('\\' :: value, after)) :
    ∃ rest, text = '\\' :: '\\' :: rest ∧ readLabelValue rest = some (value, after) := by
  rw [readLabelValue.eq_def] at read
  split at read
  · cases read
  · cases read
  · next rest =>
    obtain ⟨⟨value', after'⟩, readRest, same⟩ := Option.map_eq_some_iff.mp read
    cases same
    exact ⟨rest, rfl, readRest⟩
  · next rest =>
    obtain ⟨pair, -, same⟩ := Option.map_eq_some_iff.mp read
    cases same
  · next rest =>
    obtain ⟨pair, -, same⟩ := Option.map_eq_some_iff.mp read
    cases same
  · cases read
  · cases read
  · next char rest _ _ _ other _ =>
    obtain ⟨pair, -, same⟩ := Option.map_eq_some_iff.mp read
    simp_all

/-- Once the reader has taken two backslashes for one it never catches up: what it still has to
give back is ahead of what it reads, by backslashes. -/
theorem readLabelValue_lag (value rest after : Text) (lag : Nat) :
    readLabelValue (value ++ '"' :: rest) ≠
      some (List.replicate (lag + 1) '\\' ++ value, after) := by
  induction value using List.twoStepInduction generalizing lag with
  | nil => exact fun read => absurd (readLabelValue_eq_backslash read) (by simp)
  | singleton first => exact fun read => absurd (readLabelValue_eq_backslash read) (by simp)
  | cons_cons first second value ih _ =>
      intro read
      obtain ⟨text, same, later⟩ := readLabelValue_eq_backslash read
      simp only [List.cons_append, List.cons.injEq] at same
      obtain ⟨rfl, rfl, rfl⟩ := same
      have further : List.replicate lag '\\' ++ '\\' :: '\\' :: value =
          List.replicate (lag + 1 + 1) '\\' ++ value := by
        rw [List.replicate_succ', List.replicate_succ']
        simp
      apply ih (lag + 1)
      rw [← further]
      exact later

/-- What is read back as it was written needs no escape. -/
theorem plain_of_readLabelValue {value rest after : Text}
    (read : readLabelValue (value ++ '"' :: rest) = some (value, after)) : Plain value := by
  induction value with
  | nil => simp [Plain]
  | cons char value ih =>
      have slash : char ≠ '\\' := by
        rintro rfl
        obtain ⟨text, same, later⟩ := readLabelValue_eq_backslash read
        cases value with
        | nil => simp at same
        | cons second value =>
            simp only [List.cons_append, List.cons.injEq, true_and] at same
            obtain ⟨rfl, rfl⟩ := same
            exact readLabelValue_lag value rest after 0 later
      have quote : char ≠ '"' := by
        rintro rfl
        simp [readLabelValue] at read
      have feed : char ≠ '\n' := by
        rintro rfl
        simp [readLabelValue] at read
      rw [List.cons_append, readLabelValue_cons ⟨quote, slash, feed⟩] at read
      obtain ⟨pair, readRest, same⟩ := Option.map_eq_some_iff.mp read
      cases same
      obtain ⟨quotes, slashes, feeds⟩ := ih readRest
      simp [Plain, Ne.symm quote, Ne.symm slash, Ne.symm feed, quotes, slashes, feeds]

/-- A value is shorter than the text it was read from. -/
theorem readLabelValue_length {text value after : Text}
    (read : readLabelValue text = some (value, after)) : value.length < text.length := by
  induction text using readLabelValue.induct generalizing value after with
  | case1 => cases read
  | case2 rest => cases read; simp
  | case3 rest ih | case4 rest ih | case5 rest ih =>
      rw [readLabelValue] at read
      obtain ⟨pair, readRest, same⟩ := Option.map_eq_some_iff.mp read
      cases same
      have shorter := ih readRest
      simp only [List.length_cons]
      omega
  | case6 => simp_all [readLabelValue]
  | case7 => cases read
  | case8 char rest quote _ _ _ slash feed ih =>
      rw [readLabelValue_cons ⟨quote, slash, feed⟩] at read
      obtain ⟨pair, readRest, same⟩ := Option.map_eq_some_iff.mp read
      cases same
      have shorter := ih readRest
      simp only [List.length_cons]
      omega

/-- The part of a text before its first line feed. -/
def firstLine (text : Text) : Text := text.takeWhile (· ≠ '\n')

theorem firstLine_append {first : Text} (free : '\n' ∉ first) (rest : Text) :
    firstLine (first ++ rest) = first ++ firstLine rest := by
  apply List.takeWhile_append_of_pos
  intro char member
  have other : char ≠ '\n' := fun same => free (same ▸ member)
  simpa using other

theorem firstLine_cons {char : Char} (other : char ≠ '\n') (rest : Text) :
    firstLine (char :: rest) = char :: firstLine rest :=
  List.takeWhile_cons_of_pos (by simpa using other)

/-- The same when a line feed in the value cuts the line: what is left of the value is too short
to be read as the value. -/
theorem readLabelValue_firstLine {value rest after : Text}
    (read : readLabelValue (firstLine (value ++ '"' :: rest)) = some (value, after)) :
    Plain value ∧ after = firstLine rest := by
  by_cases cut : '\n' ∈ value
  · obtain ⟨before, later, rfl, free⟩ := List.eq_append_cons_of_mem cut
    have left : firstLine (before ++ '\n' :: later ++ '"' :: rest) = before := by
      rw [List.append_assoc, firstLine_append free]
      exact List.append_nil before
    rw [left] at read
    have shorter := readLabelValue_length read
    rw [List.length_append] at shorter
    omega
  · rw [firstLine_append cut, firstLine_cons (by decide)] at read
    have plain := plain_of_readLabelValue read
    rw [readLabelValue_of_plain plain] at read
    cases read
    exact ⟨plain, rfl⟩

/-! ### Labels -/

theorem expect_of_ne {char first : Char} (other : first ≠ char) (rest : Text) :
    expect char (first :: rest) = none :=
  if_neg other

/-- The first label, up to its value. -/
theorem readLabels_succ {name : Text} (isName : isWord isLabelStart isLabelChar name = true)
    (fuel : Nat) (rest : Text) :
    readLabels (fuel + 1) (name ++ '=' :: '"' :: rest) =
      (readLabelValue rest).bind fun (value, rest) =>
        readNext (readLabels fuel) (name, value) rest := by
  have noBrace : expect '}' (name ++ '=' :: '"' :: rest) = none := by
    obtain ⟨first, others, rfl, start, -⟩ := isWord_eq_true_iff.mp isName
    apply expect_of_ne
    rintro rfl
    exact absurd start (by decide)
  have word : readWord isLabelStart isLabelChar (name ++ '=' :: '"' :: rest) =
      some (name, '=' :: '"' :: rest) := by
    apply readWord_append isName
    intro char member
    cases member
    decide
  rw [readLabels, skip_word_append isName labelChar_of_blank, noBrace, word]
  rfl

theorem readNext_comma (more : Text → Option (List (Text × Text) × Text))
    (label : Text × Text) (rest : Text) :
    readNext more label (',' :: rest) =
      (more rest).map fun (labels, rest) => (label :: labels, rest) :=
  rfl

/-- A label is read as the first of those read with it. -/
theorem readNext_head {more : Text → Option (List (Text × Text) × Text)}
    {label first : Text × Text} {labels : List (Text × Text)} {text after : Text}
    (read : readNext more label text = some (first :: labels, after)) : label = first := by
  unfold readNext at read
  split at read
  · obtain ⟨pair, -, same⟩ := Option.map_eq_some_iff.mp read
    cases same
    rfl
  · obtain ⟨pair, -, same⟩ := Option.map_eq_some_iff.mp read
    cases same
    rfl

/-- What follows a label before the given others. -/
def afterLabel (labels : List (Text × Text)) (rest : Text) : Text :=
  match labels with
  | [] => '}' :: rest
  | labels => ',' :: (insideText labels ++ rest)

theorem insideText_cons (label : Text × Text) (labels : List (Text × Text)) (rest : Text) :
    insideText (label :: labels) ++ rest =
      label.1 ++ '=' :: '"' :: (label.2 ++ '"' :: afterLabel labels rest) := by
  cases labels with
  | nil => simp [insideText, labelText, afterLabel]
  | cons second labels => simp [insideText, labelText, afterLabel]

/-- Labels that need no escape are read as they are. -/
theorem readLabels_of_plain {labels : List (Text × Text)}
    (names : ∀ label ∈ labels, isWord isLabelStart isLabelChar label.1 = true)
    (plain : ∀ label ∈ labels, Plain label.2) (rest : Text) {fuel : Nat}
    (enough : labels.length < fuel) :
    readLabels fuel (insideText labels ++ rest) = some (labels, rest) := by
  induction labels generalizing fuel with
  | nil =>
      cases fuel with
      | zero => cases enough
      | succ fuel => rfl
  | cons label labels ih =>
      cases fuel with
      | zero => cases enough
      | succ fuel =>
          have ⟨name, laterNames⟩ := List.forall_mem_cons.mp names
          have ⟨value, laterValues⟩ := List.forall_mem_cons.mp plain
          rw [insideText_cons, readLabels_succ name, readLabelValue_of_plain value]
          cases labels with
          | nil => rfl
          | cons second labels =>
              have later := ih laterNames laterValues (Nat.lt_of_succ_lt_succ enough)
              have next := readNext_comma (readLabels fuel) label
                (insideText (second :: labels) ++ rest)
              rw [later] at next
              exact next

/-- Labels that are read back as they were written need no escape. -/
theorem plain_of_readLabels {labels : List (Text × Text)}
    (names : ∀ label ∈ labels, isWord isLabelStart isLabelChar label.1 = true)
    {rest after : Text} {fuel : Nat}
    (read : readLabels fuel (firstLine (insideText labels ++ rest)) = some (labels, after)) :
    ∀ label ∈ labels, Plain label.2 := by
  induction labels generalizing fuel after with
  | nil => exact nofun
  | cons label labels ih =>
      cases fuel with
      | zero => cases read
      | succ fuel =>
          have ⟨name, laterNames⟩ := List.forall_mem_cons.mp names
          have noFeed : '\n' ∉ label.1 := not_mem_word name (by decide)
          rw [insideText_cons, firstLine_append noFeed, firstLine_cons (by decide),
            firstLine_cons (by decide), readLabels_succ name] at read
          obtain ⟨⟨value, left⟩, readValue, readRest⟩ := Option.bind_eq_some_iff.mp read
          have same : value = label.2 := congrArg Prod.snd (readNext_head readRest)
          rw [same] at readValue
          obtain ⟨plain, rfl⟩ := readLabelValue_firstLine readValue
          refine List.forall_mem_cons.mpr ⟨plain, ?_⟩
          cases labels with
          | nil => exact nofun
          | cons second labels =>
              have after_ : firstLine (afterLabel (second :: labels) rest) =
                  ',' :: firstLine (insideText (second :: labels) ++ rest) :=
                firstLine_cons (by decide) _
              simp only [after_, readNext_comma] at readRest
              obtain ⟨⟨others, remaining⟩, readOthers, all⟩ := Option.map_eq_some_iff.mp readRest
              have tails : others = second :: labels :=
                (List.cons.inj (congrArg Prod.fst all)).2
              rw [tails] at readOthers
              exact ih laterNames readOthers

/-! ### Numbers -/

def isNumberChar (char : Char) : Bool :=
  char.isDigit || char.isAlpha || char = '.' || char = '-' || char = '+'

theorem mem_unsigned {text : Text} {char : Char} (member : char ∈ text) :
    char = '-' ∨ char = '+' ∨ char ∈ unsigned text := by
  unfold unsigned
  split
  · rcases List.mem_cons.mp member with sign | later
    · exact Or.inl sign
    · exact Or.inr (Or.inr later)
  · rcases List.mem_cons.mp member with sign | later
    · exact Or.inr (Or.inl sign)
    · exact Or.inr (Or.inr later)
  · exact Or.inr (Or.inr member)

/-- The characters of a number. -/
theorem isNumberChar_of_readNumber {text : Text} {number : Number}
    (read : readNumber text = some number) : ∀ char ∈ text, isNumberChar char = true := by
  have body : isDigits (unsigned text) = true ∨ isDecimal (unsigned text) = true ∨
      unsigned text ∈ specials := by
    unfold readNumber readInteger at read
    by_cases digits : isDigits (unsigned text) = true
    · exact Or.inl digits
    · rw [if_neg digits] at read
      have other := Option.ite_none_right_eq_some.mp read
      simpa using Or.inr (Bool.or_eq_true_iff.mp other.1)
  have parts : ∀ char ∈ unsigned text, isNumberChar char = true := by
    intro char member
    rcases body with digits | decimal | special
    · have all := (Bool.and_eq_true_iff.mp digits).2
      have digit := List.all_eq_true.mp all char member
      simp [isNumberChar, digit]
    · have all := (Bool.and_eq_true_iff.mp (Bool.and_eq_true_iff.mp decimal).1).2
      have digit := List.all_eq_true.mp all char member
      rcases Bool.or_eq_true_iff.mp digit with digit | dot
      · simp [isNumberChar, digit]
      · simp [isNumberChar, of_decide_eq_true dot]
    · have all : specials.all (fun spelling => spelling.all isNumberChar) = true := by decide
      have spelling := List.all_eq_true.mp all (unsigned text) special
      exact List.all_eq_true.mp spelling char member
  intro char member
  rcases mem_unsigned member with rfl | rfl | inside
  · decide
  · decide
  · exact parts char inside

theorem readNumber_ne_nil {text : Text} {number : Number}
    (read : readNumber text = some number) : text ≠ [] := by
  rintro rfl
  exact absurd read (by simp [readNumber, readInteger, isDigits, unsigned, isDecimal, specials])

/-- A number as the first token of a text. -/
theorem number_solid {text : Text} {number : Number} (read : readNumber text = some number) :
    ∀ char ∈ text, isBlank char = false := by
  intro char member
  have part := isNumberChar_of_readNumber read char member
  cases blank : isBlank char with
  | false => rfl
  | true =>
      rcases isBlank_eq_true_iff.mp blank with rfl | rfl
      · exact absurd part (by decide)
      · exact absurd part (by decide)

/-- The characters of a number need no escape. -/
theorem plain_of_readNumber {text : Text} {number : Number}
    (read : readNumber text = some number) : Plain text := by
  have parts := isNumberChar_of_readNumber read
  refine ⟨fun member => ?_, fun member => ?_, fun member => ?_⟩
  · exact absurd (parts _ member) (by decide)
  · exact absurd (parts _ member) (by decide)
  · exact absurd (parts _ member) (by decide)

theorem unsigned_of_isDigit {first : Char} (digit : first.isDigit = true) (rest : Text) :
    unsigned (first :: rest) = first :: rest := by
  unfold unsigned
  split
  · next same => cases same; exact absurd digit (by decide)
  · next same => cases same; exact absurd digit (by decide)
  · rfl

theorem isDigits_toDigits (value : Nat) : isDigits (Nat.toDigits 10 value) = true := by
  have all : (Nat.toDigits 10 value).all Char.isDigit = true :=
    List.all_eq_true.mpr fun _ member =>
      Nat.isDigit_of_mem_toDigits (by decide) (by decide) member
  simp [isDigits, all, Nat.toDigits_ne_nil]

/-- The decimal text of an integer is read as the integer. -/
theorem readNumber_int (value : Int) :
    readNumber (toString value).toList = some (.int value) := by
  have back (size : Nat) : Nat.ofDigitChars 10 (Nat.toDigits 10 size) 0 = size :=
    Nat.ofDigitChars_toDigits (by decide) (by decide)
  have read : readInteger (toString value).toList = some value := by
    cases value with
    | ofNat size =>
        have text : (toString (Int.ofNat size)).toList = Nat.toDigits 10 size := by
          rw [← Nat.toList_repr]
          rfl
        have nonempty : Nat.toDigits 10 size ≠ [] := Nat.toDigits_ne_nil
        obtain ⟨first, rest, digits⟩ := List.exists_cons_of_ne_nil nonempty
        have digit : first.isDigit = true :=
          Nat.isDigit_of_mem_toDigits (by decide) (by decide) (digits ▸ List.mem_cons_self)
        have same : unsigned (Nat.toDigits 10 size) = Nat.toDigits 10 size := by
          rw [digits, unsigned_of_isDigit digit]
        have positive : (Nat.toDigits 10 size).head? ≠ some '-' := by
          rw [digits]
          intro minus
          cases minus
          exact absurd digit (by decide)
        simp only [text, readInteger, same, isDigits_toDigits, if_true, if_neg positive, back]
        rfl
    | negSucc size =>
        have text : (toString (Int.negSucc size)).toList = '-' :: Nat.toDigits 10 (size + 1) := by
          have minus : toString (Int.negSucc size) = "-" ++ (size + 1).repr := rfl
          rw [minus, String.toList_append, Nat.toList_repr]
          rfl
        rw [text, readInteger]
        simp only [unsigned, isDigits_toDigits, back]
        rfl
  rw [readNumber, read]

/-! ### Samples -/

theorem takeWhile_solid {word : Text} (solid : word.all (fun char => !isBlank char) = true)
    (rest : Text) :
    (word ++ ' ' :: rest).takeWhile (fun char => !isBlank char) = word ∧
      (word ++ ' ' :: rest).dropWhile (fun char => !isBlank char) = ' ' :: rest := by
  have inside := List.all_eq_true.mp solid
  constructor
  · rw [List.takeWhile_append_of_pos inside]
    exact List.append_nil word
  · rw [List.dropWhile_append_of_pos inside]
    rfl

theorem skip_number {text : Text} {number : Number} (read : readNumber text = some number) :
    skip (' ' :: text) = text := by
  obtain ⟨first, rest, rfl⟩ := List.exists_cons_of_ne_nil (readNumber_ne_nil read)
  rw [skip_space, skip_cons (number_solid read first List.mem_cons_self)]

/-- The value of a sample that ends its line. -/
theorem readValue_number {text : Text} {number : Number}
    (read : readNumber text = some number) : readValue (' ' :: text) = some (number, none) := by
  have inside : ∀ char ∈ text, (!isBlank char) = true := by
    intro char member
    rw [number_solid read char member]
    rfl
  have all : text.takeWhile (fun char => !isBlank char) = text :=
    List.takeWhile_eq_self_iff.mpr inside
  have nothing : text.dropWhile (fun char => !isBlank char) = [] :=
    List.dropWhile_eq_nil_iff.mpr inside
  rw [readValue, skip_number read, all, nothing, read]
  rfl

section Samples

variable {name : Text} {labels : List (Text × Text)} {value : Text} {number : Number}

theorem length_lt_insideText (labels : List (Text × Text)) (rest : Text) :
    labels.length < (insideText labels ++ rest).length := by
  induction labels with
  | nil => simp [insideText]
  | cons label labels ih =>
      rw [insideText_cons]
      cases labels with
      | nil =>
          simp only [afterLabel, List.length_append, List.length_cons, List.length_nil]
          omega
      | cons second labels =>
          simp only [afterLabel, List.length_append, List.length_cons] at ih ⊢
          omega

theorem readBraces_of_plain
    (names : ∀ label ∈ labels, isWord isLabelStart isLabelChar label.1 = true)
    (plain : ∀ label ∈ labels, Plain label.2) (read : readNumber value = some number) :
    readBraces (bracesText labels ++ ' ' :: value) = some (labels, ' ' :: value) := by
  cases labels with
  | nil =>
      have noBrace : expect '{' value = none := by
        obtain ⟨first, rest, rfl⟩ := List.exists_cons_of_ne_nil (readNumber_ne_nil read)
        apply expect_of_ne
        rintro rfl
        exact absurd (isNumberChar_of_readNumber read _ List.mem_cons_self) (by decide)
      rw [bracesText, List.nil_append, readBraces, skip_number read, noBrace]
  | cons label labels =>
      have enough := length_lt_insideText (label :: labels) (' ' :: value)
      exact readLabels_of_plain names plain (' ' :: value) (Nat.lt_succ_of_lt enough)

theorem plain_of_readBraces
    (names : ∀ label ∈ labels, isWord isLabelStart isLabelChar label.1 = true) {after : Text}
    (read : readBraces (firstLine (bracesText labels ++ ' ' :: value)) = some (labels, after)) :
    ∀ label ∈ labels, Plain label.2 := by
  cases labels with
  | nil => exact nofun
  | cons label labels =>
      have opened : firstLine (bracesText (label :: labels) ++ ' ' :: value) =
          '{' :: firstLine (insideText (label :: labels) ++ ' ' :: value) :=
        firstLine_cons (by decide) _
      rw [opened] at read
      exact plain_of_readLabels names read

/-- What follows the name of a sample is no part of it. -/
theorem nameChar_braces (labels : List (Text × Text)) (value : Text) :
    ∀ char ∈ (firstLine (bracesText labels ++ ' ' :: value)).head?,
      isNameChar char = false := by
  intro char member
  cases labels with
  | nil => cases member; decide
  | cons label labels => cases member; decide

/-- A sample without escapes is read as it was written. -/
theorem readSample_of_plain (isName : isWord isNameStart isNameChar name = true)
    (names : ∀ label ∈ labels, isWord isLabelStart isLabelChar label.1 = true)
    (plain : ∀ label ∈ labels, Plain label.2) (read : readNumber value = some number) :
    readSample (name ++ (bracesText labels ++ ' ' :: value)) =
      some ⟨name, labels, number, none⟩ := by
  have word : readWord isNameStart isNameChar (name ++ (bracesText labels ++ ' ' :: value)) =
      some (name, bracesText labels ++ ' ' :: value) := by
    apply readWord_append isName
    intro char member
    cases labels with
    | nil => cases member; decide
    | cons label labels => cases member; decide
  rw [readSample, word]
  simp only [Option.bind_eq_bind, Option.bind_some, readBraces_of_plain names plain read,
    readValue_number read]
  rfl

/-- A sample that is read as it was written has no escapes. -/
theorem plain_of_readSample (isName : isWord isNameStart isNameChar name = true)
    (names : ∀ label ∈ labels, isWord isLabelStart isLabelChar label.1 = true)
    {sample : Sample} (same : sample.labels = labels)
    (read : readSample (name ++ firstLine (bracesText labels ++ ' ' :: value)) = some sample) :
    ∀ label ∈ labels, Plain label.2 := by
  rw [readSample, readWord_append isName (nameChar_braces labels value)] at read
  simp only [Option.bind_eq_bind, Option.bind_some] at read
  obtain ⟨⟨found, after⟩, readBraces_, later⟩ := Option.bind_eq_some_iff.mp read
  obtain ⟨⟨number, timestamp⟩, -, built⟩ := Option.bind_eq_some_iff.mp later
  cases built
  cases same
  exact plain_of_readBraces names readBraces_

end Samples

/-! ### Documentation and types -/

theorem readDoc_of_plain {doc : Text} (plain : '\\' ∉ doc) : readDoc doc = some doc := by
  induction doc with
  | nil => rfl
  | cons char doc ih =>
      rw [List.mem_cons, not_or] at plain
      have other : char ≠ '\\' := Ne.symm plain.1
      have step : readDoc (char :: doc) = (readDoc doc).map (char :: ·) := by
        rw [readDoc.eq_def]
        split <;> simp_all
      rw [step, ih plain.2]
      rfl

theorem readType_text (kind : MetricType) : readType kind.text = some kind := by
  cases kind <;> decide

theorem readComment_word {word : Text} (solid : word.all (fun char => !isBlank char) = true)
    (nonempty : word ≠ []) (rest : Text) :
    readComment (' ' :: (word ++ ' ' :: rest)) = readMarked word (skip rest) := by
  have start : skip (' ' :: (word ++ ' ' :: rest)) = word ++ ' ' :: rest := by
    obtain ⟨first, others, rfl⟩ := List.exists_cons_of_ne_nil nonempty
    have here := List.all_eq_true.mp solid first List.mem_cons_self
    rw [skip_space]
    exact skip_cons (by simpa using here) _
  obtain ⟨taken, left⟩ := takeWhile_solid solid rest
  rw [readComment, start, taken, left, skip_space]

theorem readWord_name {name : Text} (isName : isWord isNameStart isNameChar name = true)
    (rest : Text) :
    readWord isNameStart isNameChar (skip (name ++ ' ' :: rest)) = some (name, ' ' :: rest) := by
  rw [skip_word_append isName nameChar_of_blank]
  apply readWord_append isName
  intro char member
  cases member
  decide

theorem readLine_help {name doc : Text} (sound : (Line.help name doc).Sound) :
    readLine (Line.help name doc).text = some (some (.help name doc)) := by
  obtain ⟨isName, plain, -, start⟩ := sound
  have mark : readLine (Line.help name doc).text =
      readMarked helpWord (skip (name ++ ' ' :: doc)) := by
    rw [← readComment_word (by decide) (by decide)]
    rfl
  rw [mark, readMarked, if_pos rfl, readWord_name isName]
  simp only [Option.bind_eq_bind, Option.bind_some, skip_space, start, readDoc_of_plain plain]
  rfl

theorem readLine_type {name : Text} {kind : MetricType} (sound : (Line.type name kind).Sound) :
    readLine (Line.type name kind).text = some (some (.type name kind)) := by
  have mark : readLine (Line.type name kind).text =
      readMarked typeWord (skip (name ++ ' ' :: kind.text)) := by
    rw [← readComment_word (by decide) (by decide)]
    rfl
  have other : typeWord ≠ helpWord := by decide
  have start : skip kind.text = kind.text := by cases kind <;> decide
  rw [mark, readMarked, if_neg other, if_pos rfl, readWord_name sound]
  simp only [Option.bind_eq_bind, Option.bind_some, skip_space, start, readType_text]
  rfl

/-! ### Lines -/

/-- A line that begins with a name is a sample. -/
theorem readLine_name {name : Text} (isName : isWord isNameStart isNameChar name = true)
    (rest : Text) :
    readLine (name ++ rest) = (readSample (name ++ rest)).map fun sample =>
      some (.sample sample) := by
  have start := skip_word_append isName nameChar_of_blank rest
  obtain ⟨first, others, rfl, isStart, -⟩ := isWord_eq_true_iff.mp isName
  have noMark : first ≠ '#' := by
    rintro rfl
    exact absurd isStart (by decide)
  rw [readLine, start]
  split
  · next empty => cases empty
  · next marked => cases marked; exact absurd rfl noMark
  · rfl

/-- A line without escapes is read as it was written. -/
theorem readLine_of_plain {line : Line} (sound : line.Sound) (plain : line.PlainLabels) :
    readLine line.text = some (some line.entry) := by
  cases line with
  | help name doc => exact readLine_help sound
  | type name kind => exact readLine_type sound
  | sample name labels value number =>
      obtain ⟨isName, names, read⟩ := sound
      rw [Line.text, readLine_name isName, readSample_of_plain isName names plain read]
      rfl

theorem newline_not_mem_insideText {labels : List (Text × Text)}
    (names : ∀ label ∈ labels, isWord isLabelStart isLabelChar label.1 = true)
    (plain : ∀ label ∈ labels, Plain label.2) : '\n' ∉ insideText labels := by
  induction labels with
  | nil => decide
  | cons label labels ih =>
      have ⟨name, laterNames⟩ := List.forall_mem_cons.mp names
      have ⟨value, laterValues⟩ := List.forall_mem_cons.mp plain
      have noFeed : '\n' ∉ label.1 := not_mem_word name (by decide)
      have later := ih laterNames laterValues
      have whole := insideText_cons label labels []
      rw [List.append_nil] at whole
      rw [whole]
      cases labels with
      | nil => simp [noFeed, value.2.2, afterLabel]
      | cons second labels => simp [noFeed, value.2.2, afterLabel, later]

/-- A line without escapes is one line. -/
theorem newline_not_mem_text {line : Line} (sound : line.Sound) (plain : line.PlainLabels) :
    '\n' ∉ line.text := by
  cases line with
  | help name doc =>
      have noFeed : '\n' ∉ name := not_mem_word sound.1 (by decide)
      have mark : '\n' ∉ helpWord := by decide
      simp only [Line.text, List.mem_append, List.mem_cons, not_or]
      exact ⟨by decide, by decide, mark, by decide, noFeed, by decide, sound.2.2.1⟩
  | type name kind =>
      have noFeed : '\n' ∉ name := not_mem_word sound (by decide)
      have mark : '\n' ∉ typeWord := by decide
      have word : '\n' ∉ kind.text := by cases kind <;> decide
      simp only [Line.text, List.mem_append, List.mem_cons, not_or]
      exact ⟨by decide, by decide, mark, by decide, noFeed, by decide, word⟩
  | sample name labels value number =>
      obtain ⟨isName, names, read⟩ := sound
      have noFeed : '\n' ∉ name := not_mem_word isName (by decide)
      have braces : '\n' ∉ bracesText labels := by
        cases labels with
        | nil => decide
        | cons label labels =>
            have inside := newline_not_mem_insideText names plain
            simp only [bracesText, List.mem_cons, not_or]
            exact ⟨by decide, inside⟩
      simp only [Line.text, List.mem_append, List.mem_cons, not_or]
      exact ⟨noFeed, braces, by decide, (plain_of_readNumber read).2.2⟩

/-- Whatever a line is cut to, if it is read as the line was meant then it has no escapes. -/
theorem plainLabels_of_readLine {line : Line} (sound : line.Sound)
    (read : readLine (firstLine line.text) = some (some line.entry)) : line.PlainLabels := by
  cases line with
  | help name doc => trivial
  | type name kind => trivial
  | sample name labels value number =>
      obtain ⟨isName, names, -⟩ := sound
      have noFeed : '\n' ∉ name := not_mem_word isName (by decide)
      rw [Line.text, firstLine_append noFeed, readLine_name isName] at read
      obtain ⟨sample, readSample_, same⟩ := Option.map_eq_some_iff.mp read
      cases same
      exact plain_of_readSample isName names rfl readSample_

theorem firstLine_eq_self {text : Text} (free : '\n' ∉ text) : firstLine text = text := by
  have whole := firstLine_append free []
  rw [List.append_nil] at whole
  exact whole.trans (List.append_nil text)

/-- However a line is cut, it is not passed for a comment. -/
theorem readLine_ne_comment {line : Line} (sound : line.Sound) :
    readLine (firstLine line.text) ≠ some none := by
  cases line with
  | help name doc =>
      rw [firstLine_eq_self (newline_not_mem_text sound trivial), readLine_help sound]
      exact nofun
  | type name kind =>
      rw [firstLine_eq_self (newline_not_mem_text sound trivial), readLine_type sound]
      exact nofun
  | sample name labels value number =>
      have noFeed : '\n' ∉ name := not_mem_word sound.1 (by decide)
      rw [Line.text, firstLine_append noFeed, readLine_name sound.1]
      intro comment
      obtain ⟨sample, -, same⟩ := Option.map_eq_some_iff.mp comment
      cases same

/-! ### Expositions -/

theorem readLines_cons {line : Text} {lines : List Text} (more : lines ≠ []) :
    readLines (line :: lines) = (readLine line).bind fun entry =>
      (readLines lines).bind fun entries => some (entry.toList ++ entries) := by
  cases lines with
  | nil => exact absurd rfl more
  | cons second lines => rfl

/-- The first line of a text that goes on after a line feed. -/
theorem splitOn_newline (text rest : Text) :
    ∃ lines, lines ≠ [] ∧ (text ++ '\n' :: rest).splitOn '\n' = firstLine text :: lines := by
  by_cases cut : '\n' ∈ text
  · obtain ⟨before, later, rfl, free⟩ := List.eq_append_cons_of_mem cut
    have first : firstLine (before ++ '\n' :: later) = before := by
      rw [firstLine_append free]
      exact List.append_nil before
    rw [first, List.append_assoc, List.cons_append,
      List.splitOn_append_cons_self_of_not_mem free]
    exact ⟨_, List.splitOn_ne_nil _ _, rfl⟩
  · rw [firstLine_eq_self cut, List.splitOn_append_cons_self_of_not_mem cut]
    exact ⟨_, List.splitOn_ne_nil _ _, rfl⟩

/-- An exposition written without escapes is read as it was meant exactly if none of its label
values needs one. -/
theorem parse_lines_iff {lines : List Line} (sound : ∀ line ∈ lines, line.Sound) :
    parse (terminated '\n' (lines.map Line.text)) = some (lines.map Line.entry) ↔
      ∀ line ∈ lines, line.PlainLabels := by
  induction lines with
  | nil => exact iff_of_true rfl nofun
  | cons line lines ih =>
      have ⟨here, later⟩ := List.forall_mem_cons.mp sound
      have text : terminated '\n' ((line :: lines).map Line.text) =
          line.text ++ '\n' :: terminated '\n' (lines.map Line.text) := by
        simp [terminated]
      rw [List.forall_mem_cons, text, parse]
      constructor
      · intro read
        obtain ⟨others, more, split⟩ :=
          splitOn_newline line.text (terminated '\n' (lines.map Line.text))
        rw [split, readLines_cons more] at read
        obtain ⟨entry, readFirst, read⟩ := Option.bind_eq_some_iff.mp read
        obtain ⟨entries, readOthers, all⟩ := Option.bind_eq_some_iff.mp read
        cases entry with
        | none => exact absurd readFirst (readLine_ne_comment here)
        | some entry =>
            have same : entry = line.entry ∧ entries = lines.map Line.entry := by
              simpa using all
            rw [same.1] at readFirst
            rw [same.2] at readOthers
            have plain := plainLabels_of_readLine here readFirst
            have free := newline_not_mem_text here plain
            rw [List.splitOn_append_cons_self_of_not_mem free] at split
            have rest := (List.cons.inj split).2
            rw [← rest] at readOthers
            exact ⟨plain, (ih later).mp readOthers⟩
      · rintro ⟨plain, others⟩
        have free := newline_not_mem_text here plain
        have readOthers := (ih later).mpr others
        rw [parse] at readOthers
        rw [List.splitOn_append_cons_self_of_not_mem free,
          readLines_cons (List.splitOn_ne_nil _ _), readLine_of_plain here plain, readOthers]
        rfl

end IceRpc.Lib.Exposition
