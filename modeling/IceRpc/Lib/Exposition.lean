/-
Module: IceRpc.Lib.Exposition
Purpose: The line-based text format of metric expositions: what its lines say, and a reader
  of it.
Trusted boundary: human-reviewed spec of the format
Main exports: Exposition.Number, Exposition.Sample, Exposition.Entry, Exposition.readLine,
  Exposition.parse
-/

namespace IceRpc.Lib.Exposition

/-- A text, character by character. -/
abbrev Text := List Char

/-! ### The format -/

/-- The types a metric can be declared with. -/
inductive MetricType where
  | counter
  | gauge
  | histogram
  | summary
  | untyped
deriving Repr, DecidableEq

/-- The word a type is declared with. -/
def MetricType.text : MetricType → Text
  | .counter => "counter".toList
  | .gauge => "gauge".toList
  | .histogram => "histogram".toList
  | .summary => "summary".toList
  | .untyped => "untyped".toList

/-- The type a word declares. -/
def readType (text : Text) : Option MetricType :=
  [.counter, .gauge, .histogram, .summary, .untyped].find? fun kind => kind.text = text

/-- The value of a sample: an integer, or the spelling of another number. -/
inductive Number where
  | int (value : Int)
  | real (text : Text)
deriving Repr, DecidableEq

/-- A sample line: a series, its value, and when it was taken. -/
structure Sample where
  name : Text
  labels : List (Text × Text)
  value : Number
  timestamp : Option Int
deriving Repr, DecidableEq

/-- What a line says, unless it is blank or a comment. -/
inductive Entry where
  | help (name doc : Text)
  | type (name : Text) (kind : MetricType)
  | sample (sample : Sample)
deriving Repr, DecidableEq

def isBlank (char : Char) : Bool := char = ' ' || char = '\t'

/-- Tokens are separated by blanks. -/
def skip (text : Text) : Text := text.dropWhile isBlank

def isLabelStart (char : Char) : Bool := char.isAlpha || char = '_'

def isLabelChar (char : Char) : Bool := isLabelStart char || char.isDigit

def isNameStart (char : Char) : Bool := isLabelStart char || char = ':'

def isNameChar (char : Char) : Bool := isNameStart char || char.isDigit

/-- A word of the given characters, with its own rule for the first one. -/
def isWord (start part : Char → Bool) : Text → Bool
  | [] => false
  | first :: rest => start first && (first :: rest).all part

/-- The longest word at the beginning of a text, and what follows it. -/
def readWord (start part : Char → Bool) (text : Text) : Option (Text × Text) :=
  if isWord start part (text.takeWhile part) then
    some (text.takeWhile part, text.dropWhile part)
  else none

/-- The text after an expected character. -/
def expect (char : Char) : Text → Option Text
  | [] => none
  | first :: rest => if first = char then some rest else none

/-- A label value, after its opening quote: backslash, quote and line feed are escaped, and
nothing else is. -/
def readLabelValue : Text → Option (Text × Text)
  | [] => none
  | '"' :: rest => some ([], rest)
  | '\\' :: '\\' :: rest => (readLabelValue rest).map fun (value, after) => ('\\' :: value, after)
  | '\\' :: '"' :: rest => (readLabelValue rest).map fun (value, after) => ('"' :: value, after)
  | '\\' :: 'n' :: rest => (readLabelValue rest).map fun (value, after) => ('\n' :: value, after)
  | '\\' :: _ => none
  | '\n' :: _ => none
  | char :: rest => (readLabelValue rest).map fun (value, after) => (char :: value, after)

/-- What follows a label: a comma and `more` of them, or the closing brace. -/
def readNext (more : Text → Option (List (Text × Text) × Text)) (label : Text × Text)
    (text : Text) : Option (List (Text × Text) × Text) :=
  match expect ',' (skip text) with
  | some rest => (more rest).map fun (labels, rest) => (label :: labels, rest)
  | none => (expect '}' (skip text)).map fun rest => ([label], rest)

/-- The labels of a sample, after the brace or a comma; a trailing comma is allowed. -/
def readLabels : Nat → Text → Option (List (Text × Text) × Text)
  | 0, _ => none
  | fuel + 1, text =>
      match expect '}' (skip text) with
      | some rest => some ([], rest)
      | none => do
          let (name, rest) ← readWord isLabelStart isLabelChar (skip text)
          let rest ← expect '=' (skip rest)
          let rest ← expect '"' (skip rest)
          let (value, rest) ← readLabelValue rest
          readNext (readLabels fuel) (name, value) rest

def isDigits (text : Text) : Bool := !text.isEmpty && text.all Char.isDigit

/-- A number without its sign. -/
def unsigned : Text → Text
  | '-' :: text => text
  | '+' :: text => text
  | text => text

/-- An integer, with or without a sign. -/
def readInteger (text : Text) : Option Int :=
  if isDigits (unsigned text) then
    let size : Int := Nat.ofDigitChars 10 (unsigned text) 0
    some (if text.head? = some '-' then -size else size)
  else none

def isDecimal (text : Text) : Bool :=
  text.any Char.isDigit && text.all (fun char => char.isDigit || char = '.') &&
    decide (text.count '.' ≤ 1)

/-- The spellings of what is no finite number. -/
def specials : List Text :=
  ["NaN".toList, "nan".toList, "Inf".toList, "inf".toList, "Infinity".toList, "infinity".toList]

/-- A number. -/
def readNumber (text : Text) : Option Number :=
  match readInteger text with
  | some value => some (.int value)
  | none =>
      if isDecimal (unsigned text) || unsigned text ∈ specials then some (.real text) else none

/-- What may follow the value of a sample: nothing but blanks, or a time. -/
def readTimestamp (text : Text) : Option (Option Int) :=
  match skip text with
  | [] => some none
  | rest =>
      if skip (rest.dropWhile fun char => !isBlank char) = [] then
        (readInteger (rest.takeWhile fun char => !isBlank char)).map some
      else none

/-- The labels of a sample, if it has any. -/
def readBraces (text : Text) : Option (List (Text × Text) × Text) :=
  match expect '{' (skip text) with
  | some inside => readLabels (inside.length + 1) inside
  | none => some ([], text)

/-- The value of a sample, and its time. -/
def readValue (text : Text) : Option (Number × Option Int) := do
  let value ← readNumber ((skip text).takeWhile fun char => !isBlank char)
  let timestamp ← readTimestamp ((skip text).dropWhile fun char => !isBlank char)
  pure (value, timestamp)

/-- A sample line. -/
def readSample (text : Text) : Option Sample := do
  let (name, rest) ← readWord isNameStart isNameChar text
  let (labels, rest) ← readBraces rest
  let (value, timestamp) ← readValue rest
  pure ⟨name, labels, value, timestamp⟩

/-- The documentation of a metric: backslash and line feed are escaped. -/
def readDoc : Text → Option Text
  | [] => some []
  | '\\' :: '\\' :: rest => (readDoc rest).map ('\\' :: ·)
  | '\\' :: 'n' :: rest => (readDoc rest).map ('\n' :: ·)
  | '\\' :: _ => none
  | char :: rest => (readDoc rest).map (char :: ·)

/-- The word that marks documentation. -/
def helpWord : Text := ['H', 'E', 'L', 'P']

/-- The word that marks a type. -/
def typeWord : Text := ['T', 'Y', 'P', 'E']

/-- A line whose `#` is followed by the given word: documentation, a type, or a comment. -/
def readMarked (word rest : Text) : Option (Option Entry) :=
  if word = helpWord then do
    let (name, rest) ← readWord isNameStart isNameChar rest
    let doc ← readDoc (skip rest)
    pure (some (.help name doc))
  else if word = typeWord then do
    let (name, rest) ← readWord isNameStart isNameChar rest
    let kind ← readType (skip rest)
    pure (some (.type name kind))
  else some none

/-- A line after its `#`. -/
def readComment (text : Text) : Option (Option Entry) :=
  readMarked ((skip text).takeWhile fun char => !isBlank char)
    (skip ((skip text).dropWhile fun char => !isBlank char))

/-- One line. -/
def readLine (text : Text) : Option (Option Entry) :=
  match skip text with
  | [] => some none
  | '#' :: rest => readComment rest
  | rest => (readSample rest).map fun sample => some (.sample sample)

/-- The lines of an exposition, with what follows the last line feed, which must be
nothing. -/
def readLines : List Text → Option (List Entry)
  | [] => none
  | [last] => if last = [] then some [] else none
  | line :: lines => do
      let entry ← readLine line
      let entries ← readLines lines
      pure (entry.toList ++ entries)

/-- An exposition. -/
def parse (text : Text) : Option (List Entry) := readLines (text.splitOn '\n')

end IceRpc.Lib.Exposition
