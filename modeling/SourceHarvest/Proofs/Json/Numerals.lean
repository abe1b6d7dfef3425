import SourceHarvest.Json.Token
import Mathlib.Tactic.IntervalCases

/-!
# What numerals are spelled with

Which characters spell the parts of a numeral, and that the readers of the parts find what is
spelled.  A reader takes all that it can, so the other way round a part is found only where what
follows does not go on with it: a numeral that stands alone is read as it is spelled.
-/

namespace SourceHarvest.Json

/-- The characters of decimal digits. -/
def digitChars (digits : List (Fin 10)) : List Char :=
  digits.map fun digit => digit.val.digitChar

/-- The whole part of a numeral is a single zero or does not start with one. -/
inductive Whole : List (Fin 10) → Prop
  | zero : Whole [0]
  | more {digit : Fin 10} (rest : List (Fin 10)) : digit ≠ 0 → Whole (digit :: rest)

/-- A fraction is left out, or is a point with at least one digit. -/
inductive SpellsFraction : Option (List (Fin 10)) → List Char → Prop
  | absent : SpellsFraction none []
  | present {digits : List (Fin 10)} :
      digits ≠ [] → SpellsFraction (some digits) ('.' :: digitChars digits)

/-- The sign of an exponent.  A plus may be left out. -/
inductive SpellsSign : Bool → List Char → Prop
  | minus : SpellsSign true ['-']
  | plus : SpellsSign false ['+']
  | absent : SpellsSign false []

/-- An exponent is left out, or is a letter of either case, a sign and at least one digit. -/
inductive SpellsExponent : Option NumeralExponent → List Char → Prop
  | absent : SpellsExponent none []
  | present {letter : Char} {exponent : NumeralExponent} {sign : List Char} :
      letter = 'e' ∨ letter = 'E' → SpellsSign exponent.negative sign → exponent.digits ≠ [] →
        SpellsExponent (some exponent) (letter :: (sign ++ digitChars exponent.digits))

/-- The parts of a numeral behind its sign. -/
inductive Numeral.SpellsMagnitude : Numeral → List Char → Prop
  | intro {numeral : Numeral} {fraction exponent : List Char} :
      Whole numeral.whole → SpellsFraction numeral.fraction fraction →
        SpellsExponent numeral.exponent exponent →
        SpellsMagnitude numeral (digitChars numeral.whole ++ (fraction ++ exponent))

/-- No digit stands at the start of this text. -/
def Undigited (rest : List Char) : Prop :=
  ∀ c ∈ rest.head?, Token.digit? c = none

/-- A number ends before this text: neither a digit nor a fraction nor an exponent follows. -/
def Separated (rest : List Char) : Prop :=
  ∀ c ∈ rest.head?, Token.digit? c = none ∧ c ≠ '.' ∧ c ≠ 'e' ∧ c ≠ 'E'

theorem Separated.undigited {rest : List Char} (separated : Separated rest) : Undigited rest :=
  fun c member => (separated c member).1

namespace Token

theorem digit?_digitChar (digit : Fin 10) : digit? digit.val.digitChar = some digit := by
  revert digit
  decide

theorem digit?_eq_some_iff {c : Char} {digit : Fin 10} :
    digit? c = some digit ↔ c = digit.val.digitChar := by
  refine ⟨fun found => ?_, fun same => same ▸ digit?_digitChar digit⟩
  rw [digit?] at found
  split at found
  · rename_i range
    cases found
    have low : 48 ≤ c.toNat := UInt32.le_iff_toNat_le.mp range.1
    have high := range.2
    have numbered : Char.ofNat c.toNat = (c.toNat - 48).digitChar := by
      generalize c.toNat = number at low high
      interval_cases number <;> rfl
    rwa [Char.ofNat_toNat] at numbered
  · cases found

theorem eq_append_of_readDigits (source : List Char) :
    source = digitChars (readDigits source).1 ++ (readDigits source).2 := by
  induction source with
  | nil => rfl
  | cons c rest inductionHypothesis =>
      rw [readDigits]
      cases found : digit? c with
      | none => rfl
      | some digit =>
          rw [digit?_eq_some_iff.mp found]
          exact congrArg _ inductionHypothesis

theorem readDigits_of_undigited {rest : List Char} (undigited : Undigited rest) :
    readDigits rest = ([], rest) := by
  cases rest with
  | nil => rfl
  | cons c rest => simp only [readDigits, undigited c rfl]

theorem readDigits_append {rest : List Char} (undigited : Undigited rest)
    (digits : List (Fin 10)) : readDigits (digitChars digits ++ rest) = (digits, rest) := by
  induction digits with
  | nil => exact readDigits_of_undigited undigited
  | cons digit digits inductionHypothesis =>
      rw [digitChars] at inductionHypothesis
      simp only [digitChars, List.map_cons, List.cons_append, readDigits, digit?_digitChar,
        inductionHypothesis]

theorem eq_append_of_readSomeDigits? {source after : List Char} {digits : List (Fin 10)}
    (read : readSomeDigits? source = some (digits, after)) :
    digits ≠ [] ∧ source = digitChars digits ++ after := by
  have parts := eq_append_of_readDigits source
  simp only [readSomeDigits?] at read
  split at read
  · cases read
  · rename_i nonempty
    cases read
    exact ⟨by simpa using nonempty, parts⟩

theorem readSomeDigits?_append {rest : List Char} (undigited : Undigited rest)
    {digits : List (Fin 10)} (nonempty : digits ≠ []) :
    readSomeDigits? (digitChars digits ++ rest) = some (digits, rest) := by
  rw [readSomeDigits?, readDigits_append undigited]
  simp [nonempty]

theorem eq_append_of_readWhole? {source after : List Char} {digits : List (Fin 10)}
    (read : readWhole? source = some (digits, after)) :
    Whole digits ∧ source = digitChars digits ++ after := by
  rw [readWhole?.eq_def] at read
  split at read
  · cases read
    exact ⟨.zero, rfl⟩
  · rename_i nonzero
    rcases eq_append_of_readSomeDigits? read with ⟨nonempty, rfl⟩
    refine ⟨?_, rfl⟩
    cases digits with
    | nil => exact absurd rfl nonempty
    | cons digit rest =>
        refine .more rest fun zero => ?_
        exact nonzero (digitChars rest ++ after) (by rw [zero]; rfl)

theorem readWhole?_append {rest : List Char} (undigited : Undigited rest)
    {digits : List (Fin 10)} (whole : Whole digits) :
    readWhole? (digitChars digits ++ rest) = some (digits, rest) := by
  cases whole with
  | zero => rfl
  | @more digit others nonzero =>
      rw [readWhole?]
      · exact readSomeDigits?_append undigited (List.cons_ne_nil _ _)
      · intro behind zero
        have same := digit?_digitChar digit
        rw [digitChars, List.map_cons, List.cons_append] at zero
        rw [(List.cons.inj zero).1] at same
        exact nonzero (Option.some.inj same).symm

theorem eq_append_of_readFraction? {source after : List Char} {fraction : Option (List (Fin 10))}
    (read : readFraction? source = some (fraction, after)) :
    ∃ word, SpellsFraction fraction word ∧ source = word ++ after := by
  rw [readFraction?.eq_def] at read
  split at read
  · obtain ⟨⟨digits, behind⟩, found, same⟩ := Option.map_eq_some_iff.mp read
    cases same
    rcases eq_append_of_readSomeDigits? found with ⟨nonempty, rfl⟩
    exact ⟨_, .present nonempty, rfl⟩
  · cases read
    exact ⟨[], .absent, rfl⟩

theorem readFraction?_append {rest word : List Char} {fraction : Option (List (Fin 10))}
    (spelled : SpellsFraction fraction word) (undigited : Undigited rest)
    (pointless : ∀ c ∈ rest.head?, c ≠ '.') :
    readFraction? (word ++ rest) = some (fraction, rest) := by
  cases spelled with
  | absent =>
      rw [List.nil_append, readFraction?]
      rintro others rfl
      exact pointless _ rfl rfl
  | present nonempty =>
      rw [List.cons_append, readFraction?, readSomeDigits?_append undigited nonempty]
      rfl

theorem eq_append_of_readSign (source : List Char) :
    ∃ word, SpellsSign (readSign source).1 word ∧ source = word ++ (readSign source).2 := by
  rw [readSign.eq_def]
  split
  · exact ⟨_, .minus, rfl⟩
  · exact ⟨_, .plus, rfl⟩
  · exact ⟨_, .absent, rfl⟩

/-- A sign is read before digits, which are no signs. -/
theorem readSign_append {negative : Bool} {word : List Char} (spelled : SpellsSign negative word)
    {digits : List (Fin 10)} (nonempty : digits ≠ []) (rest : List Char) :
    readSign (word ++ (digitChars digits ++ rest)) = (negative, digitChars digits ++ rest) := by
  cases spelled with
  | minus | plus => rfl
  | absent =>
      cases digits with
      | nil => exact absurd rfl nonempty
      | cons digit others =>
          rw [List.nil_append, readSign]
          all_goals
            intro behind same
            have read := digit?_digitChar digit
            rw [digitChars, List.map_cons, List.cons_append] at same
            rw [(List.cons.inj same).1] at read
            cases read

theorem eq_append_of_readExponent? {source after : List Char} {exponent : Option NumeralExponent}
    (read : readExponent? source = some (exponent, after)) :
    ∃ word, SpellsExponent exponent word ∧ source = word ++ after := by
  cases source with
  | nil =>
      cases read
      exact ⟨[], .absent, rfl⟩
  | cons c rest =>
      rw [readExponent?] at read
      split at read
      · rename_i letter
        obtain ⟨sign, signed, split⟩ := eq_append_of_readSign rest
        generalize readSign rest = taken at read signed split
        obtain ⟨⟨digits, behind⟩, found, same⟩ := Option.map_eq_some_iff.mp read
        cases same
        rcases eq_append_of_readSomeDigits? found with ⟨nonempty, number⟩
        refine ⟨_, .present letter signed nonempty, ?_⟩
        rw [List.cons_append, List.append_assoc, ← number, ← split]
      · cases read
        exact ⟨[], .absent, rfl⟩

theorem readExponent?_append {rest word : List Char} {exponent : Option NumeralExponent}
    (spelled : SpellsExponent exponent word) (separated : Separated rest) :
    readExponent? (word ++ rest) = some (exponent, rest) := by
  cases spelled with
  | absent =>
      cases rest with
      | nil => rfl
      | cons c rest =>
          rcases separated c rfl with ⟨_, _, small, large⟩
          rw [List.nil_append, readExponent?, if_neg (not_or.mpr ⟨small, large⟩)]
  | present letter signed nonempty =>
      rw [List.cons_append, List.append_assoc, readExponent?, if_pos letter,
        readSign_append signed nonempty]
      simp only [readSomeDigits?_append separated.undigited nonempty, Option.map_some]

/-- The parts that are read make up a numeral. -/
theorem eq_append_of_readMagnitude? {negative : Bool} {source after : List Char} {token : Token}
    (read : readMagnitude? negative source = some (token, after)) :
    ∃ value word, token = numeral value ∧ value.negative = negative ∧
      value.SpellsMagnitude word ∧ source = word ++ after := by
  simp only [readMagnitude?, Option.bind_eq_bind, Option.bind_eq_some_iff, Option.pure_def,
    Option.some.injEq] at read
  obtain ⟨⟨whole, afterWhole⟩, wholeRead, ⟨fraction, afterFraction⟩, fractionRead,
    ⟨exponent, afterExponent⟩, exponentRead, same⟩ := read
  cases same
  obtain ⟨lawful, rfl⟩ := eq_append_of_readWhole? wholeRead
  obtain ⟨fractionWord, fractionSpelled, rfl⟩ := eq_append_of_readFraction? fractionRead
  obtain ⟨exponentWord, exponentSpelled, rfl⟩ := eq_append_of_readExponent? exponentRead
  refine ⟨⟨negative, whole, fraction, exponent⟩, _, rfl, rfl,
    .intro lawful fractionSpelled exponentSpelled, ?_⟩
  simp only [List.append_assoc]

theorem SpellsExponent.head {exponent : Option NumeralExponent} {word : List Char}
    (spelled : SpellsExponent exponent word) {rest : List Char} (separated : Separated rest) :
    Undigited (word ++ rest) ∧ ∀ c ∈ (word ++ rest).head?, c ≠ '.' := by
  cases spelled with
  | absent => exact ⟨separated.undigited, fun c member => (separated c member).2.1⟩
  | present letter =>
      constructor
      all_goals
        intro c member
        cases member
        rcases letter with rfl | rfl <;> decide

theorem SpellsFraction.undigited {fraction : Option (List (Fin 10))} {word : List Char}
    (spelled : SpellsFraction fraction word) {rest : List Char} (undigited : Undigited rest) :
    Undigited (word ++ rest) := by
  cases spelled with
  | absent => exact undigited
  | present =>
      intro c member
      cases member
      decide

theorem readMagnitude?_append {value : Numeral} {word rest : List Char}
    (spelled : value.SpellsMagnitude word) (separated : Separated rest) :
    readMagnitude? value.negative (word ++ rest) = some (numeral value, rest) := by
  rcases spelled with ⟨whole, fraction, exponent⟩
  obtain ⟨undigited, pointless⟩ := SpellsExponent.head exponent separated
  rw [readMagnitude?, List.append_assoc, List.append_assoc,
    readWhole?_append (SpellsFraction.undigited fraction undigited) whole]
  simp only [Option.bind_eq_bind, Option.bind_some,
    readFraction?_append fraction undigited pointless, readExponent?_append exponent separated,
    Option.pure_def]

end Token

end SourceHarvest.Json
