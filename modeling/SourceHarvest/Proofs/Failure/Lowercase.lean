import SourceHarvest.Failure.Status
import SourceHarvest.Text.Case
import Mathlib.Data.List.Infix

/-!
# Phrases in lowercase texts

Unicode puts a text into lowercase character by character, but the form of a character may be
several characters long and may depend on the characters around it.  Phrases made of ASCII see
little of this: they stand between the forms of other characters, of which two alone have ASCII
in them.  So a phrase occurs in a text in lowercase exactly if it occurs in the folded text, and
the status that words tell is the same whichever of the two is searched.
-/

namespace SourceHarvest

/-- Rules that put texts into lowercase.  The form of a character may depend on the text before
and after it. -/
structure Lowercasing where
  form : List Char → Char → List Char → List Char
  ascii : ∀ before c after, c.toNat < 128 → form before c after = [c.toLower]
  kelvin : ∀ before after, form before '\u212a' after = ['k']
  dotted : ∀ before after, form before '\u0130' after = ['i', '\u0307']
  foreign : ∀ before c after, 128 ≤ c.toNat → c ≠ '\u212a' → c ≠ '\u0130' →
    form before c after ≠ [] ∧ ∀ d ∈ form before c after, 128 ≤ d.toNat

namespace Lowercasing

/-- The forms of characters that stand behind a text. -/
def lowerFrom (lowercasing : Lowercasing) (before : List Char) : List Char → List Char
  | [] => []
  | c :: after =>
      lowercasing.form before c after ++ lowercasing.lowerFrom (before ++ [c]) after

/-- A text in lowercase. -/
def lower (lowercasing : Lowercasing) (text : String) : List Char :=
  lowercasing.lowerFrom [] text.toList

end Lowercasing

namespace Text

/-- Texts that differ only in characters outside ASCII, and have them in the same places. -/
inductive Alike : List Char → List Char → Prop where
  | nil : Alike [] []
  | same (c : Char) {first second : List Char} (rest : Alike first second) :
      Alike (c :: first) (c :: second)
  | apart {here there first second : List Char} (hereFilled : here ≠ [])
      (thereFilled : there ≠ []) (hereForeign : ∀ c ∈ here, 128 ≤ c.toNat)
      (thereForeign : ∀ c ∈ there, 128 ≤ c.toNat) (rest : Alike first second) :
      Alike (here ++ first) (there ++ second)

variable {first second phrase : List Char}

theorem Alike.symm (alike : Alike first second) : Alike second first := by
  induction alike with
  | nil => exact .nil
  | same c _ inductionHypothesis => exact .same c inductionHypothesis
  | apart hereFilled thereFilled hereForeign thereForeign _ inductionHypothesis =>
      exact .apart thereFilled hereFilled thereForeign hereForeign inductionHypothesis

theorem Alike.append_left (block : List Char) (alike : Alike first second) :
    Alike (block ++ first) (block ++ second) := by
  induction block with
  | nil => exact alike
  | cons c block inductionHypothesis => exact .same c inductionHypothesis

/-- A phrase of ASCII does not start with a character outside ASCII. -/
theorem not_prefix_of_foreign {c : Char} {rest : List Char} (filled : phrase ≠ [])
    (ascii : ∀ d ∈ phrase, d.toNat < 128) (foreign : 128 ≤ c.toNat) : ¬ phrase <+: c :: rest := by
  intro starts
  cases phrase with
  | nil => exact filled rfl
  | cons d more =>
      obtain ⟨rfl, _⟩ := List.cons_prefix_cons.mp starts
      exact absurd (ascii d List.mem_cons_self) (Nat.not_lt.mpr foreign)

/-- A phrase of ASCII that occurs behind characters outside ASCII occurs in what follows them. -/
theorem infix_of_infix_foreign {block text : List Char} (filled : phrase ≠ [])
    (ascii : ∀ d ∈ phrase, d.toNat < 128) (foreign : ∀ c ∈ block, 128 ≤ c.toNat)
    (occurs : phrase <:+: block ++ text) : phrase <:+: text := by
  induction block with
  | nil => exact occurs
  | cons c block inductionHypothesis =>
      rcases List.infix_cons_iff.mp occurs with starts | later
      · exact absurd starts
          (not_prefix_of_foreign filled ascii (foreign c List.mem_cons_self))
      · exact inductionHypothesis (fun d member => foreign d (List.mem_cons_of_mem _ member)) later

theorem Alike.startsWith (alike : Alike first second) (ascii : ∀ d ∈ phrase, d.toNat < 128)
    (starts : phrase <+: first) : phrase <+: second := by
  induction alike generalizing phrase with
  | nil => exact starts
  | same c _ inductionHypothesis =>
      cases phrase with
      | nil => exact List.prefix_append [] _
      | cons d more =>
          obtain ⟨rfl, inside⟩ := List.cons_prefix_cons.mp starts
          refine List.cons_prefix_cons.mpr ⟨rfl, inductionHypothesis ?_ inside⟩
          exact fun other member => ascii other (List.mem_cons_of_mem _ member)
  | @apart here _ _ _ hereFilled _ hereForeign =>
      cases here with
      | nil => exact absurd rfl hereFilled
      | cons c block =>
          by_cases filled : phrase = []
          · subst filled
            exact List.prefix_append [] _
          · exact absurd starts
              (not_prefix_of_foreign filled ascii (hereForeign c List.mem_cons_self))

theorem Alike.infix (alike : Alike first second) (ascii : ∀ d ∈ phrase, d.toNat < 128)
    (occurs : phrase <:+: first) : phrase <:+: second := by
  by_cases filled : phrase = []
  · subst filled
    exact List.nil_infix
  · induction alike with
    | nil => exact occurs
    | same c rest inductionHypothesis =>
        rcases List.infix_cons_iff.mp occurs with starts | later
        · exact ((Alike.same c rest).startsWith ascii starts).isInfix
        · exact List.infix_cons (inductionHypothesis later)
    | apart _ _ hereForeign _ _ inductionHypothesis =>
        have later := inductionHypothesis (infix_of_infix_foreign filled ascii hereForeign occurs)
        exact later.trans (List.suffix_append _ _).isInfix

end Text

namespace Status

/-! ### Folding single characters -/

/-- Outside the capital letters of ASCII, a character is its own small letter. -/
theorem toLower_of_not_capital {c : Char} (other : c.toNat < 65 ∨ 90 < c.toNat) :
    c.toLower = c := by
  have outside : ¬ (c.val ≥ 'A'.val ∧ c.val ≤ 'Z'.val) := by
    rintro ⟨first, last⟩
    have first := UInt32.le_iff_toNat_le.mp first
    have last := UInt32.le_iff_toNat_le.mp last
    simp only [Char.reduceVal, UInt32.reduceToNat, Char.toNat_val] at first last
    omega
  exact dif_neg outside

theorem toNat_toLower_of_capital {c : Char} (first : 65 ≤ c.toNat) (last : c.toNat ≤ 90) :
    c.toLower.toNat = c.toNat + 32 := by
  have capital : c.val ≥ 'A'.val ∧ c.val ≤ 'Z'.val :=
    ⟨UInt32.le_iff_toNat_le.mpr first, UInt32.le_iff_toNat_le.mpr last⟩
  have lower : c.toLower = ⟨c.val + ('a'.val - 'A'.val), _⟩ := dif_pos capital
  rw [lower]
  change (c.val.toNat + 32) % 2 ^ 32 = c.val.toNat + 32
  apply Nat.mod_eq_of_lt
  rw [Char.toNat_val]
  omega

theorem foldChar_of_ascii {c : Char} (ascii : c.toNat < 128) : foldChar c = [c.toLower] := by
  rw [foldChar, if_neg, if_neg]
  · rintro rfl
    exact absurd ascii (by decide)
  · rintro rfl
    exact absurd ascii (by decide)

theorem foldChar_of_foreign {c : Char} (foreign : 128 ≤ c.toNat) (notKelvin : c ≠ '\u212a')
    (notDotted : c ≠ '\u0130') : foldChar c = [c] := by
  rw [foldChar, if_neg notKelvin, if_neg notDotted, toLower_of_not_capital (by omega)]

/-- A text in lowercase is alike the folded text. -/
theorem alike_lowerFrom (lowercasing : Lowercasing) (before text : List Char) :
    Text.Alike (lowercasing.lowerFrom before text) (text.flatMap foldChar) := by
  induction text generalizing before with
  | nil => exact .nil
  | cons c after inductionHypothesis =>
      have rest := inductionHypothesis (before ++ [c])
      rw [Lowercasing.lowerFrom, List.flatMap_cons]
      by_cases ascii : c.toNat < 128
      · rw [lowercasing.ascii before c after ascii, foldChar_of_ascii ascii]
        exact rest.append_left _
      · by_cases isKelvin : c = '\u212a'
        · subst isKelvin
          rw [lowercasing.kelvin]
          exact rest.append_left _
        · by_cases isDotted : c = '\u0130'
          · subst isDotted
            rw [lowercasing.dotted]
            exact rest.append_left _
          · have outside : 128 ≤ c.toNat := Nat.not_lt.mp ascii
            obtain ⟨filled, foreign⟩ := lowercasing.foreign before c after outside isKelvin isDotted
            rw [foldChar_of_foreign outside isKelvin isDotted]
            apply Text.Alike.apart filled (List.cons_ne_nil _ _) foreign
            · exact List.forall_mem_singleton.mpr outside
            · exact rest

theorem ascii_of_mem_rules :
    ∀ rule ∈ rules, ∀ phrase ∈ rule.2, ∀ c ∈ phrase.toList, c.toNat < 128 := by
  simp [rules]

/-- A rule has a phrase in a text in lowercase exactly if it has one in the folded text. -/
theorem ruleMatches_lower (lowercasing : Lowercasing) (message : String)
    {rule : Status × List String} (member : rule ∈ rules) :
    ruleMatches (lowercasing.lower message) rule = ruleMatches (fold message) rule := by
  have alike := alike_lowerFrom lowercasing [] message.toList
  rw [Bool.eq_iff_iff, ruleMatches, ruleMatches, List.any_eq_true, List.any_eq_true]
  simp only [Text.occursIn_iff]
  constructor
  · rintro ⟨phrase, inside, occurs⟩
    exact ⟨phrase, inside, alike.infix (ascii_of_mem_rules rule member phrase inside) occurs⟩
  · rintro ⟨phrase, inside, occurs⟩
    exact ⟨phrase, inside, alike.symm.infix (ascii_of_mem_rules rule member phrase inside) occurs⟩

/-- Folding sees nothing of a character but its small letter. -/
theorem foldChar_toLower (c : Char) : foldChar c.toLower = foldChar c := by
  by_cases capital : 65 ≤ c.toNat ∧ c.toNat ≤ 90
  · have lower := toNat_toLower_of_capital capital.1 capital.2
    rw [foldChar_of_ascii (by omega), foldChar_of_ascii (by omega),
      toLower_of_not_capital (by omega)]
  · rw [toLower_of_not_capital (by omega)]

/-- The case of letters of ASCII is lost in folding. -/
theorem fold_eq_of_lowercase_eq {first second : String}
    (same : Text.lowercase first = Text.lowercase second) : fold first = fold second := by
  have letters : first.toList.map Char.toLower = second.toList.map Char.toLower :=
    String.ofList_injective same
  have folded (text : String) : fold text = (text.toList.map Char.toLower).flatMap foldChar := by
    rw [fold, List.flatMap_map]
    simp only [foldChar_toLower]
  rw [folded, folded, letters]

end Status

end SourceHarvest
