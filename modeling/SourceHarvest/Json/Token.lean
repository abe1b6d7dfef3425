import SourceHarvest.Json.Numeral
import SourceHarvest.Json.Quoted

/-!
# JSON tokens

A text is cut into brackets, marks, words, numerals and quoted texts, with blank
space between them dropped.  What is no token anywhere spoils the whole text.
-/

namespace SourceHarvest.Json

/-- A token of JSON.  A quoted text that stands for no characters is kept as none. -/
inductive Token where
  | openArray
  | closeArray
  | openObject
  | closeObject
  | comma
  | colon
  | null
  | boolean (value : Bool)
  | numeral (value : Numeral)
  | text (value : Option String)
deriving DecidableEq, Repr

namespace Token

/-- The space that may stand between tokens. -/
def isSpace (c : Char) : Bool :=
  c == ' ' || c == '\n' || c == '\t' || c == '\r'

/-- The value of a decimal digit. -/
def digit? (c : Char) : Option (Fin 10) :=
  if h : '0' ≤ c ∧ c.toNat < 58 then some ⟨c.toNat - 48, by omega⟩ else none

/-- The digits at the start of a text, and what follows them. -/
def readDigits : List Char → List (Fin 10) × List Char
  | [] => ([], [])
  | c :: rest =>
      match digit? c with
      | some digit =>
          let (digits, after) := readDigits rest
          (digit :: digits, after)
      | none => ([], c :: rest)

/-- Digits of which there is at least one. -/
def readSomeDigits? (source : List Char) : Option (List (Fin 10) × List Char) :=
  let (digits, after) := readDigits source
  if digits.isEmpty then none else some (digits, after)

/-- The whole part: a single zero, or digits that start with another one. -/
def readWhole? : List Char → Option (List (Fin 10) × List Char)
  | '0' :: rest => some ([0], rest)
  | source => readSomeDigits? source

/-- A fraction, if the text goes on with one. -/
def readFraction? : List Char → Option (Option (List (Fin 10)) × List Char)
  | '.' :: rest => (readSomeDigits? rest).map fun result => (some result.1, result.2)
  | source => some (none, source)

/-- The sign of an exponent, if it has one. -/
def readSign : List Char → Bool × List Char
  | '-' :: rest => (true, rest)
  | '+' :: rest => (false, rest)
  | source => (false, source)

/-- An exponent, if the text goes on with one. -/
def readExponent? : List Char → Option (Option NumeralExponent × List Char)
  | [] => some (none, [])
  | c :: rest =>
      if c = 'e' ∨ c = 'E' then
        let (negative, digitsText) := readSign rest
        (readSomeDigits? digitsText).map fun result => (some ⟨negative, result.1⟩, result.2)
      else some (none, c :: rest)

/-- A numeral without its sign. -/
def readMagnitude? (negative : Bool) (source : List Char) : Option (Token × List Char) := do
  let (whole, afterWhole) ← readWhole? source
  let (fraction, afterFraction) ← readFraction? afterWhole
  let (exponent, after) ← readExponent? afterFraction
  pure (numeral ⟨negative, whole, fraction, exponent⟩, after)

/-- The token at the start of a text, and what follows it. -/
def read? : List Char → Option (Token × List Char)
  | [] => none
  | '[' :: rest => some (openArray, rest)
  | ']' :: rest => some (closeArray, rest)
  | '\x7b' :: rest => some (openObject, rest)
  | '\x7d' :: rest => some (closeObject, rest)
  | ',' :: rest => some (comma, rest)
  | ':' :: rest => some (colon, rest)
  | '"' :: rest =>
      (Quoted.readPieces? rest).map fun result =>
        (text ((Quoted.joinPieces? result.1).map String.ofList), result.2)
  | 'n' :: 'u' :: 'l' :: 'l' :: rest => some (null, rest)
  | 't' :: 'r' :: 'u' :: 'e' :: rest => some (boolean true, rest)
  | 'f' :: 'a' :: 'l' :: 's' :: 'e' :: rest => some (boolean false, rest)
  | '-' :: rest => readMagnitude? true rest
  | c :: rest => readMagnitude? false (c :: rest)

theorem readDigits_length (source : List Char) :
    (readDigits source).1.length + (readDigits source).2.length = source.length := by
  induction source with
  | nil => rfl
  | cons c rest inductionHypothesis =>
      simp only [readDigits]
      split
      · simp only [List.length_cons]; omega
      · simp

theorem readSomeDigits?_length {source : List Char} {result : List (Fin 10) × List Char}
    (read : readSomeDigits? source = some result) : result.2.length < source.length := by
  have total := readDigits_length source
  simp only [readSomeDigits?] at read
  split at read
  · cases read
  · rename_i nonempty
    cases read
    have positive : 0 < (readDigits source).1.length := by
      rw [List.length_pos_iff]
      simpa using nonempty
    simp only
    omega

theorem readWhole?_length {source : List Char} {result : List (Fin 10) × List Char}
    (read : readWhole? source = some result) : result.2.length < source.length := by
  simp only [readWhole?] at read
  split at read
  · cases read; simp
  · exact readSomeDigits?_length read

theorem readFraction?_length {source : List Char} {result : Option (List (Fin 10)) × List Char}
    (read : readFraction? source = some result) : result.2.length ≤ source.length := by
  simp only [readFraction?] at read
  split at read
  · obtain ⟨inner, innerRead, equal⟩ := Option.map_eq_some_iff.mp read
    have shorter := readSomeDigits?_length innerRead
    subst equal
    simp only [List.length_cons]
    omega
  · cases read; simp

theorem readSign_length (source : List Char) : (readSign source).2.length ≤ source.length := by
  simp only [readSign]
  split <;> simp

theorem readExponent?_length {source : List Char} {result : Option NumeralExponent × List Char}
    (read : readExponent? source = some result) : result.2.length ≤ source.length := by
  cases source with
  | nil => cases read; simp
  | cons c rest =>
      simp only [readExponent?] at read
      split at read
      · obtain ⟨inner, innerRead, equal⟩ := Option.map_eq_some_iff.mp read
        have shorter := readSomeDigits?_length innerRead
        have signed := readSign_length rest
        subst equal
        simp only [List.length_cons]
        omega
      · cases read; simp

theorem readMagnitude?_length {negative : Bool} {source : List Char} {result : Token × List Char}
    (read : readMagnitude? negative source = some result) : result.2.length < source.length := by
  simp only [readMagnitude?, Option.bind_eq_bind, Option.bind_eq_some_iff, Option.pure_def,
    Option.some.injEq] at read
  obtain ⟨whole, wholeRead, fraction, fractionRead, exponent, exponentRead, equal⟩ := read
  have first := readWhole?_length wholeRead
  have second := readFraction?_length fractionRead
  have third := readExponent?_length exponentRead
  subst equal
  simp only
  omega

/-- A token takes at least one character. -/
theorem read?_length {source : List Char} {result : Token × List Char}
    (read : read? source = some result) : result.2.length < source.length := by
  simp only [read?] at read
  split at read
  all_goals first
    | (cases read; done)
    | (cases read; simp only [List.length_cons]; omega)
    | (obtain ⟨inner, innerRead, equal⟩ := Option.map_eq_some_iff.mp read
       have shorter := Quoted.readPieces?_length innerRead
       subst equal
       simp only [List.length_cons]
       omega)
    | (have shorter := readMagnitude?_length read
       simp only [List.length_cons] at *
       omega)

end Token

/-- Cut a text into tokens. -/
def tokens? (source : List Char) : Option (List Token) :=
  match source with
  | [] => some []
  | c :: rest =>
      if Token.isSpace c then tokens? rest
      else
        match _found : Token.read? (c :: rest) with
        | none => none
        | some (token, after) => (tokens? after).map (token :: ·)
termination_by source.length
decreasing_by
  · simp
  · exact Token.read?_length _found

end SourceHarvest.Json
