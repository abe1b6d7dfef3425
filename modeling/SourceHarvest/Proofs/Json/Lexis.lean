import SourceHarvest.Proofs.Json.Numerals
import Mathlib.Data.List.Chain

/-!
# What tokens are spelled with

The tokens of a text are told here without the scanner: which characters spell each token, and
that a text is a row of spelled tokens with blanks anywhere between them.  Whatever the scanner
cuts is such a row.  The other way round, a row in which no numeral stands next to another is
cut as it is told: between a numeral and what follows it, nothing decides but that what follows
cannot belong to it.
-/

namespace SourceHarvest.Json

/-! ## Quoted texts -/

namespace Quoted

open SourceHarvest.Digest (hexValue?)

/-- One place of a quoted text: a character that is no control character, no quote and no
reverse solidus, or an escape of one letter or of four hexadecimal digits. -/
inductive SpellsPiece : Piece → List Char → Prop
  | plain {c : Char} : c ≠ '"' → c ≠ '\\' → 0x20 ≤ c.toNat → SpellsPiece (.character c) [c]
  | letter {letter c : Char} : escaped? letter = some c → SpellsPiece (.character c) ['\\', letter]
  | unit {first second third fourth : Char} {a b c d : Nat} :
      hexValue? first = some a → hexValue? second = some b → hexValue? third = some c →
        hexValue? fourth = some d →
        SpellsPiece (pieceOfUnit (4096 * a + 256 * b + 16 * c + d))
          ['\\', 'u', first, second, third, fourth]

/-- The places of a quoted text, between its quotes. -/
inductive SpellsPieces : List Piece → List Char → Prop
  | nil : SpellsPieces [] []
  | cons {piece : Piece} {pieces : List Piece} {word rest : List Char} :
      SpellsPiece piece word → SpellsPieces pieces rest →
        SpellsPieces (piece :: pieces) (word ++ rest)

/-- The place that is spelled at the start is the one that is read. -/
theorem readPieces?_append {piece : Piece} {word : List Char} (spelled : SpellsPiece piece word)
    (rest : List Char) :
    readPieces? (word ++ rest) =
      (readPieces? rest).map fun result => (piece :: result.1, result.2) := by
  cases spelled with
  | @plain c quote solidus control =>
      rw [List.singleton_append, readPieces?]
      · rw [if_neg (not_or.mpr ⟨solidus, Nat.not_lt.mpr control⟩)]
        cases readPieces? rest <;> rfl
      · exact quote
      · rintro _ _ _ _ _ rfl
        exact fun _ => solidus rfl
      · rintro _ _ rfl
        exact fun _ => solidus rfl
  | @letter letter c escape =>
      have notUnit : letter ≠ 'u' := by
        rintro rfl
        cases escape
      rw [List.cons_append, List.singleton_append, readPieces?, escape]
      · cases readPieces? rest <;> rfl
      · rintro _ _ _ _ _ rfl
        exact absurd rfl notUnit
  | unit first second third fourth =>
      simp only [List.cons_append, List.nil_append, readPieces?, first, second, third, fourth,
        Option.bind_eq_bind, Option.bind_some]
      cases readPieces? rest <;> rfl

/-- A quoted text is read up to its closing quote exactly if its places are spelled there. -/
theorem readPieces?_eq_some_iff {source after : List Char} {pieces : List Piece} :
    readPieces? source = some (pieces, after) ↔
      ∃ word, SpellsPieces pieces word ∧ source = word ++ '"' :: after := by
  constructor
  · intro read
    fun_induction readPieces? source generalizing pieces with
    | case1 => cases read
    | case2 rest =>
        cases read
        exact ⟨[], .nil, rfl⟩
    | case3 first second third fourth rest inductionHypothesis =>
        simp only [Option.bind_eq_bind, Option.bind_eq_some_iff, Option.pure_def,
          Option.some.injEq] at read
        obtain ⟨a, firstRead, b, secondRead, c, thirdRead, d, fourthRead, ⟨found, behind⟩, inner,
          same⟩ := read
        cases same
        obtain ⟨word, spelled, rfl⟩ := inductionHypothesis inner
        exact ⟨_, .cons (.unit firstRead secondRead thirdRead fourthRead) spelled, rfl⟩
    | case4 letter rest _ inductionHypothesis =>
        simp only [Option.bind_eq_bind, Option.bind_eq_some_iff, Option.pure_def,
          Option.some.injEq] at read
        obtain ⟨c, escape, ⟨found, behind⟩, inner, same⟩ := read
        cases same
        obtain ⟨word, spelled, rfl⟩ := inductionHypothesis inner
        exact ⟨_, .cons (.letter escape) spelled, rfl⟩
    | case5 => cases read
    | case6 c rest quote _ _ plain inductionHypothesis =>
        simp only [Option.bind_eq_bind, Option.bind_eq_some_iff, Option.pure_def,
          Option.some.injEq] at read
        obtain ⟨⟨found, behind⟩, inner, same⟩ := read
        cases same
        obtain ⟨word, spelled, rfl⟩ := inductionHypothesis inner
        rcases not_or.mp plain with ⟨solidus, control⟩
        exact ⟨_, .cons (.plain quote solidus (Nat.not_lt.mp control)) spelled, rfl⟩
  · rintro ⟨word, spelled, rfl⟩
    induction spelled with
    | nil => rfl
    | cons piece _ inductionHypothesis =>
        rw [List.append_assoc, readPieces?_append piece, inductionHypothesis]
        rfl

end Quoted

/-! ## Tokens -/

namespace Token

/-- The characters of a token. -/
inductive Spells : Token → List Char → Prop
  | openArray : Spells openArray ['[']
  | closeArray : Spells closeArray [']']
  | openObject : Spells openObject ['\x7b']
  | closeObject : Spells closeObject ['\x7d']
  | comma : Spells comma [',']
  | colon : Spells colon [':']
  | null : Spells null ['n', 'u', 'l', 'l']
  | yes : Spells (boolean true) ['t', 'r', 'u', 'e']
  | no : Spells (boolean false) ['f', 'a', 'l', 's', 'e']
  | unsigned {value : Numeral} {word : List Char} :
      value.negative = false → value.SpellsMagnitude word → Spells (numeral value) word
  | signed {value : Numeral} {word : List Char} :
      value.negative = true → value.SpellsMagnitude word → Spells (numeral value) ('-' :: word)
  | text {pieces : List Quoted.Piece} {word : List Char} :
      Quoted.SpellsPieces pieces word →
        Spells (text ((Quoted.joinPieces? pieces).map String.ofList)) ('"' :: (word ++ ['"']))

/-- A text is made of tokens in a row, with blanks before, between and behind them. -/
inductive SpellsAll : List Token → List Char → Prop
  | nil : SpellsAll [] []
  | blank {tokens : List Token} {c : Char} {rest : List Char} :
      isSpace c = true → SpellsAll tokens rest → SpellsAll tokens (c :: rest)
  | cons {token : Token} {tokens : List Token} {word rest : List Char} :
      Spells token word → SpellsAll tokens rest → SpellsAll (token :: tokens) (word ++ rest)

/-- The token is a number. -/
def IsNumeral (token : Token) : Prop :=
  ∃ value, token = numeral value

/-- No two numerals stand next to each other. -/
def Parted (tokens : List Token) : Prop :=
  tokens.IsChain fun first second => first.IsNumeral → ¬ second.IsNumeral

theorem exists_digit_of_spellsMagnitude {value : Numeral} {word : List Char}
    (spelled : value.SpellsMagnitude word) :
    ∃ (digit : Fin 10) (rest : List Char), word = digit.val.digitChar :: rest := by
  rcases spelled with ⟨whole, _, _⟩
  cases found : value.whole with
  | nil =>
      rw [found] at whole
      cases whole
  | cons digit others => exact ⟨digit, _, rfl⟩

theorem isSpace_digitChar (digit : Fin 10) : isSpace digit.val.digitChar = false := by
  revert digit
  decide

/-- A digit starts a numeral and nothing else. -/
theorem read?_digitChar (digit : Fin 10) (rest : List Char) :
    read? (digit.val.digitChar :: rest) = readMagnitude? false (digit.val.digitChar :: rest) := by
  obtain ⟨value, small⟩ := digit
  interval_cases value <;> rfl

/-- A token starts with a character that is no blank and, unless it is a numeral, does not belong
to one either. -/
theorem Spells.head {token : Token} {word : List Char} (spelled : Spells token word) :
    ∃ c rest, word = c :: rest ∧ isSpace c = false ∧
      (¬ token.IsNumeral → digit? c = none ∧ c ≠ '.' ∧ c ≠ 'e' ∧ c ≠ 'E') := by
  cases spelled with
  | unsigned _ spelled =>
      obtain ⟨digit, rest, rfl⟩ := exists_digit_of_spellsMagnitude spelled
      exact ⟨_, _, rfl, isSpace_digitChar digit, fun other => absurd ⟨_, rfl⟩ other⟩
  | signed => exact ⟨_, _, rfl, rfl, fun other => absurd ⟨_, rfl⟩ other⟩
  | openArray | closeArray | openObject | closeObject | comma | colon | null | yes | no | text =>
      exact ⟨_, _, rfl, rfl, fun _ => by decide⟩

/-- What is read at the start of a text is spelled there. -/
theorem spells_of_read? {source after : List Char} {token : Token}
    (read : read? source = some (token, after)) :
    ∃ word, Spells token word ∧ source = word ++ after := by
  rw [read?.eq_def] at read
  split at read
  case h_1 => cases read
  case h_8 =>
    obtain ⟨⟨pieces, behind⟩, found, same⟩ := Option.map_eq_some_iff.mp read
    cases same
    obtain ⟨word, spelled, rfl⟩ := Quoted.readPieces?_eq_some_iff.mp found
    exact ⟨_, .text spelled, by simp⟩
  case h_12 =>
    obtain ⟨value, word, rfl, negative, spelled, rfl⟩ := eq_append_of_readMagnitude? read
    exact ⟨_, .signed negative spelled, rfl⟩
  case h_13 =>
    obtain ⟨value, word, rfl, negative, spelled, same⟩ := eq_append_of_readMagnitude? read
    exact ⟨_, .unsigned negative spelled, same⟩
  case h_2 => cases read; exact ⟨_, .openArray, rfl⟩
  case h_3 => cases read; exact ⟨_, .closeArray, rfl⟩
  case h_4 => cases read; exact ⟨_, .openObject, rfl⟩
  case h_5 => cases read; exact ⟨_, .closeObject, rfl⟩
  case h_6 => cases read; exact ⟨_, .comma, rfl⟩
  case h_7 => cases read; exact ⟨_, .colon, rfl⟩
  case h_9 => cases read; exact ⟨_, .null, rfl⟩
  case h_10 => cases read; exact ⟨_, .yes, rfl⟩
  case h_11 => cases read; exact ⟨_, .no, rfl⟩

/-- A token that is spelled at the start of a text is read there, a numeral only if it ends there. -/
theorem Spells.read? {token : Token} {word rest : List Char} (spelled : Spells token word)
    (separated : token.IsNumeral → Separated rest) :
    Token.read? (word ++ rest) = some (token, rest) := by
  cases spelled with
  | @unsigned value word negative spelled =>
      have magnitude := readMagnitude?_append spelled (separated ⟨_, rfl⟩)
      obtain ⟨digit, others, rfl⟩ := exists_digit_of_spellsMagnitude spelled
      rw [List.cons_append] at magnitude ⊢
      rw [read?_digitChar, ← negative, magnitude]
  | @signed value word negative spelled =>
      have magnitude := readMagnitude?_append spelled (separated ⟨_, rfl⟩)
      rw [negative] at magnitude
      exact magnitude
  | text spelled =>
      have pieces := Quoted.readPieces?_eq_some_iff.mpr ⟨_, spelled, Eq.refl (_ ++ '"' :: rest)⟩
      rw [List.cons_append, List.append_assoc, List.singleton_append, Token.read?, pieces]
      rfl
  | openArray | closeArray | openObject | closeObject | comma | colon | null | yes | no => rfl

/-- Where no numeral comes next, a numeral before it has ended. -/
theorem SpellsAll.separated {tokens : List Token} {source : List Char}
    (spelled : SpellsAll tokens source) (other : ∀ token ∈ tokens.head?, ¬ token.IsNumeral) :
    Separated source := by
  intro first member
  cases spelled with
  | nil => cases member
  | @blank _ c _ space =>
      cases member
      simp only [isSpace, Bool.or_eq_true, beq_iff_eq] at space
      rcases space with ((rfl | rfl) | rfl) | rfl <;> decide
  | cons spelled =>
      obtain ⟨c, rest, rfl, _, mark⟩ := spelled.head
      cases member
      exact mark (other _ rfl)

end Token

theorem tokens?_of_space {c : Char} (space : Token.isSpace c = true) (rest : List Char) :
    tokens? (c :: rest) = tokens? rest := by
  rw [tokens?, if_pos space]

/-- A text that starts with a token is cut behind it. -/
theorem tokens?_of_read {c : Char} {rest after : List Char} {token : Token}
    (solid : Token.isSpace c = false) (read : Token.read? (c :: rest) = some (token, after)) :
    tokens? (c :: rest) = (tokens? after).map (token :: ·) := by
  rw [tokens?, if_neg (by simp [solid])]
  split
  · rename_i none
    rw [read] at none
    cases none
  · rename_i found behind same
    rw [read] at same
    cases same
    rfl

/-- What the scanner cuts is a row of spelled tokens. -/
theorem spellsAll_of_tokens? {source : List Char} {tokens : List Token}
    (cut : tokens? source = some tokens) : Token.SpellsAll tokens source := by
  fun_induction tokens? source generalizing tokens with
  | case1 =>
      cases cut
      exact .nil
  | case2 c rest space inductionHypothesis => exact .blank space (inductionHypothesis cut)
  | case3 => cases cut
  | case4 c rest _ token after read inductionHypothesis =>
      obtain ⟨others, further, rfl⟩ := Option.map_eq_some_iff.mp cut
      obtain ⟨word, spelled, split⟩ := Token.spells_of_read? read
      rw [split]
      exact .cons spelled (inductionHypothesis further)

/-- A row of spelled tokens is cut into these, if no numeral stands next to another. -/
theorem Token.SpellsAll.tokens? {source : List Char} {tokens : List Token}
    (spelled : SpellsAll tokens source) (parted : Parted tokens) :
    Json.tokens? source = some tokens := by
  induction spelled with
  | nil => rw [Json.tokens?]
  | blank space _ inductionHypothesis =>
      rw [tokens?_of_space space, inductionHypothesis parted]
  | @cons token others word rest first further inductionHypothesis =>
      have read := first.read? fun isNumeral => further.separated fun next member =>
        parted.rel_head? member isNumeral
      obtain ⟨c, behind, rfl, solid, _⟩ := first.head
      rw [List.cons_append] at read ⊢
      rw [tokens?_of_read solid read, inductionHypothesis parted.tail]
      rfl

end SourceHarvest.Json
