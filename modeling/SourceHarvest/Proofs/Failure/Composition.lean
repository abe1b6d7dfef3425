import SourceHarvest.Proofs.Failure.Precedence

/-!
# Composed words

The words of a failure are composed of what was being done, a colon and a blank, and the words of
what went wrong; other words have numbers between them.  No phrase has a colon or starts with a
blank, so a phrase occurs in composed words exactly if it occurs in one of the two parts.  And only
one phrase has digits, so no other phrase touches a number.
-/

namespace SourceHarvest

namespace Text

variable {phrase early late : List Char}

/-- A phrase does not reach over a character that it does not have. -/
theorem infix_separated {mark : Char} (outside : mark ∉ phrase) :
    phrase <:+: early ++ mark :: late ↔ phrase <:+: early ∨ phrase <:+: late := by
  constructor
  · intro occurs
    rcases List.infix_append_iff.mp occurs with before | behind | ⟨first, second, rfl, ends, starts⟩
    · exact .inl before
    · rcases List.infix_cons_iff.mp behind with here | behind
      · rcases List.prefix_cons_iff.mp here with rfl | ⟨rest, rfl, _⟩
        · exact .inl List.nil_infix
        · exact absurd List.mem_cons_self outside
      · exact .inr behind
    · rcases List.prefix_cons_iff.mp starts with rfl | ⟨rest, rfl, _⟩
      · rw [List.append_nil]
        exact .inl ends.isInfix
      · exact absurd (List.mem_append_right _ List.mem_cons_self) outside
  · rintro (before | behind)
    · exact before.trans (List.prefix_append _ _).isInfix
    · exact (List.infix_cons behind).trans (List.suffix_append _ _).isInfix

/-- A phrase does not reach into a block of characters that it does not have. -/
theorem infix_around {block : List Char} (filled : block ≠ [])
    (outside : ∀ c ∈ block, c ∉ phrase) :
    phrase <:+: early ++ (block ++ late) ↔ phrase <:+: early ∨ phrase <:+: late := by
  induction block generalizing early with
  | nil => exact absurd rfl filled
  | cons c rest inductionHypothesis =>
      rw [List.cons_append, infix_separated (outside c List.mem_cons_self)]
      cases rest with
      | nil => rw [List.nil_append]
      | cons d further =>
          have inner := @inductionHypothesis [] (List.cons_ne_nil _ _) fun other member =>
            outside other (List.mem_cons_of_mem _ member)
          have nothing : phrase <:+: [] → phrase <:+: late := by
            rw [List.infix_nil]
            rintro rfl
            exact List.nil_infix
          rw [List.nil_append] at inner
          rw [inner, or_iff_right_of_imp nothing]

/-- A phrase does not reach over a colon and a blank if it has no colon and starts with no blank. -/
theorem infix_joined (noColon : ':' ∉ phrase) (noBlank : phrase.head? ≠ some ' ') :
    phrase <:+: early ++ ':' :: ' ' :: late ↔ phrase <:+: early ∨ phrase <:+: late := by
  have behind : phrase <:+: ' ' :: late ↔ phrase <:+: late := by
    rw [List.infix_cons_iff, or_iff_right_of_imp]
    intro starts
    rcases List.prefix_cons_iff.mp starts with rfl | ⟨rest, rfl, _⟩
    · exact List.nil_infix
    · exact absurd rfl noBlank
  rw [infix_separated noColon, behind]

end Text

namespace Status

open Text

/-! ### Rules -/

theorem ruleMatches_iff {rule : Status × List String} {text : List Char} :
    ruleMatches text rule = true ↔ ∃ phrase ∈ rule.2, phrase.toList <:+: text := by
  simp only [ruleMatches, List.any_eq_true, occursIn_iff]

/-- No phrase has a colon or starts with a blank. -/
theorem plain_of_mem_rules : ∀ rule ∈ rules, ∀ phrase ∈ rule.2,
    ':' ∉ phrase.toList ∧ phrase.toList.head? ≠ some ' ' := by
  simp [rules]

/-- A rule has a phrase in composed words exactly if it has one in one of the parts. -/
theorem ruleMatches_joined {rule : Status × List String} (member : rule ∈ rules)
    (early late : List Char) :
    ruleMatches (early ++ ':' :: ' ' :: late) rule =
      (ruleMatches early rule || ruleMatches late rule) := by
  rw [Bool.eq_iff_iff, Bool.or_eq_true, ruleMatches_iff, ruleMatches_iff, ruleMatches_iff,
    ← exists_or]
  apply exists_congr
  intro phrase
  rw [← and_or_left]
  apply and_congr_right
  intro inside
  rcases plain_of_mem_rules rule member phrase inside with ⟨noColon, noBlank⟩
  exact infix_joined noColon noBlank

/-- The rules that are looked at before that of a status. -/
def earlier (status : Status) : List (Status × List String) :=
  rules.takeWhile fun rule => rule.1 != status

section Table

variable {before after : List (Status × List String)} {rule : Status × List String}
  (table : rules = before ++ rule :: after)

include table

theorem ne_of_mem_before {other : Status × List String} (member : other ∈ before) :
    other.1 ≠ rule.1 := by
  have distinct : (rules.map (·.1)).Nodup := by decide
  rw [table, List.map_append, List.map_cons, List.nodup_append] at distinct
  rcases distinct with ⟨_, _, apart⟩
  exact apart _ (List.mem_map_of_mem member) _ List.mem_cons_self

theorem earlier_eq : earlier rule.1 = before := by
  rw [earlier, table, List.takeWhile_append_of_pos, List.takeWhile_cons_of_neg, List.append_nil]
  · simp
  · intro other member
    exact bne_iff_ne.mpr (ne_of_mem_before table member)

/-- Words with a phrase of a rule tell its status exactly if they have none of an earlier rule. -/
theorem told_eq_iff {lowered : List Char} (found : ruleMatches lowered rule = true) :
    told lowered = rule.1 ↔ ∀ other ∈ before, ruleMatches lowered other = false := by
  rw [told, table, List.find?_append, List.find?_cons_of_pos found]
  cases first : before.find? (ruleMatches lowered) with
  | none =>
      rw [List.find?_eq_none] at first
      simpa using first
  | some other =>
      have inside := List.mem_of_find?_eq_some first
      have hit := List.find?_some first
      refine iff_of_false (ne_of_mem_before table inside) fun silent => ?_
      rw [silent other inside] at hit
      cases hit

end Table

/-- Words around a failure that tell a status by themselves tell it exactly if the words of the
failure have no phrase of an earlier rule. -/
theorem classify_context_eq_iff {purpose : String} {status : Status}
    (tells : classify purpose = status) (known : status ≠ unknownError) (failure : Failure) :
    classify (failure.context purpose).text = status ↔
      ∀ rule ∈ earlier status, ruleMatches (fold failure.text) rule = false := by
  rw [classify] at tells
  split at tells
  · rename_i rule found
    subst tells
    rcases List.find?_eq_some_iff_append.mp found with ⟨here, before, after, table, silent⟩
    have joined (other : Status × List String) (member : other ∈ rules) :
        ruleMatches (fold (failure.context purpose).text) other =
          (ruleMatches (fold purpose) other || ruleMatches (fold failure.text) other) := by
      rw [Failure.text_context, fold_append, fold_append, List.append_assoc]
      exact ruleMatches_joined member _ _
    have inside : rule ∈ rules := List.mem_of_find?_eq_some found
    rw [classify_eq_told, told_eq_iff table, earlier_eq table]
    · apply forall₂_congr
      intro other member
      rw [joined other (table ▸ List.mem_append_left _ member)]
      have quiet := silent other member
      simp only [Bool.not_eq_true'] at quiet
      rw [quiet, Bool.false_or]
    · rw [joined rule inside, here, Bool.true_or]
  · exact absurd tells.symm known

/-! ### Numbers in words -/

theorem isDigit_of_mem_toString {value : Nat} {c : Char} (member : c ∈ (toString value).toList) :
    c.isDigit = true := by
  rw [Nat.toString_eq_repr, Nat.toList_repr] at member
  exact Nat.isDigit_of_mem_toDigits (by decide) (by decide) member

theorem toList_toString_ne_nil (value : Nat) : (toString value).toList ≠ [] := by
  rw [Nat.toString_eq_repr, Nat.toList_repr]
  exact Nat.toDigits_ne_nil

theorem foldChar_of_isDigit {c : Char} (digit : c.isDigit = true) : foldChar c = [c] := by
  rcases Char.isDigit_iff_toNat.mp digit with ⟨_, high⟩
  have small : c.toNat ≤ 57 := high
  rw [foldChar_of_ascii (by omega), toLower_of_not_capital (by omega)]

theorem fold_toString (value : Nat) : fold (toString value) = (toString value).toList := by
  rw [fold, List.flatMap_congr fun c member => foldChar_of_isDigit (isDigit_of_mem_toString member)]
  exact List.flatMap_singleton' _

section Miscount

variable (found expected : Nat)

/-- What is said where the vectors are not as many as the texts, in lowercase. -/
theorem fold_miscount :
    fold s!"Embedding provider returned {found} vectors for {expected} inputs" =
      "embedding provider returned ".toList ++ ((toString found).toList ++
        (" vectors for ".toList ++ ((toString expected).toList ++ " inputs".toList))) := by
  have before : fold (toString "Embedding provider returned ") =
      "embedding provider returned ".toList := by
    decide +kernel
  have between : fold (toString " vectors for ") = " vectors for ".toList := by decide +kernel
  have behind : fold (toString " inputs") = " inputs".toList := by decide +kernel
  rw [fold_append, fold_append, fold_append, fold_append, before, between, behind, fold_toString,
    fold_toString, List.append_assoc, List.append_assoc, List.append_assoc]

/-- A phrase without digits occurs around the numbers or not at all. -/
theorem infix_miscount_iff {phrase : List Char} (undigited : phrase.any Char.isDigit = false) :
    phrase <:+: fold s!"Embedding provider returned {found} vectors for {expected} inputs" ↔
      phrase <:+: "embedding provider returned ".toList ∨ phrase <:+: " vectors for ".toList ∨
        phrase <:+: " inputs".toList := by
  have outside (value : Nat) : ∀ c ∈ (toString value).toList, c ∉ phrase := by
    intro c member inside
    exact List.any_eq_false.mp undigited c inside (isDigit_of_mem_toString member)
  rw [fold_miscount, Text.infix_around (toList_toString_ne_nil found) (outside found),
    Text.infix_around (toList_toString_ne_nil expected) (outside expected)]

/-- The number of the status for too many requests occurs in one of the numbers or not at all. -/
theorem tooMany_infix_miscount_iff :
    "429".toList <:+: fold s!"Embedding provider returned {found} vectors for {expected} inputs" ↔
      "429".toList <:+: (toString found).toList ∨ "429".toList <:+: (toString expected).toList := by
  have outside : ' ' ∉ "429".toList := by decide
  have before : "embedding provider returned ".toList =
      "embedding provider returned".toList ++ [' '] := by
    decide +kernel
  have between : " vectors for ".toList = ' ' :: ("vectors for".toList ++ [' ']) := by
    decide +kernel
  have behind : " inputs".toList = ' ' :: "inputs".toList := by decide +kernel
  have nowhere : ¬ "429".toList <:+: "embedding provider returned".toList ∧
      ¬ "429".toList <:+: "vectors for".toList ∧ ¬ "429".toList <:+: "inputs".toList := by
    decide +kernel
  rw [fold_miscount, before, between, behind, List.append_assoc, List.cons_append, List.nil_append,
    Text.infix_separated outside, List.cons_append, Text.infix_separated outside, List.append_assoc,
    List.cons_append, List.nil_append, Text.infix_separated outside, Text.infix_separated outside]
  simp only [nowhere, false_or, or_false]

/-- Words that count vectors tell that embedding failed, unless a number in them looks like the
status for too many requests. -/
theorem classify_miscount :
    classify s!"Embedding provider returned {found} vectors for {expected} inputs" =
      if "429".toList <:+: (toString found).toList ∨ "429".toList <:+: (toString expected).toList
      then rateLimit else embeddingError := by
  -- Apart from one phrase, no earlier rule has any in the words around the numbers.
  have silent : ∀ rule ∈ earlier embeddingError, ∀ phrase ∈ rule.2, phrase ≠ "429" →
      ¬ phrase.toList <:+:
        fold s!"Embedding provider returned {found} vectors for {expected} inputs" := by
    have around : ∀ rule ∈ earlier embeddingError, ∀ phrase ∈ rule.2, phrase ≠ "429" →
        phrase.toList.any Char.isDigit = false ∧
          ¬ phrase.toList <:+: "embedding provider returned ".toList ∧
          ¬ phrase.toList <:+: " vectors for ".toList ∧ ¬ phrase.toList <:+: " inputs".toList := by
      decide +kernel
    intro rule member phrase inside other
    rcases around rule member phrase inside other with ⟨undigited, nowhere⟩
    rw [infix_miscount_iff found expected undigited]
    tauto
  rw [classify_eq_told]
  split
  · rename_i counted
    have table : rules = [rules[0]] ++ rules[1] :: rules.drop 2 := rfl
    have plain : ∀ phrase ∈ rules[0].2, phrase ≠ "429" := by decide
    apply (told_eq_iff table (ruleMatches_iff.mpr _)).mpr
    · intro other member
      obtain rfl := List.mem_singleton.mp member
      rw [Bool.eq_false_iff, ne_eq, ruleMatches_iff]
      rintro ⟨phrase, inside, occurs⟩
      exact silent _ List.mem_cons_self phrase inside (plain phrase inside) occurs
    · exact ⟨"429", List.mem_cons_self, (tooMany_infix_miscount_iff found expected).mpr counted⟩
  · rename_i uncounted
    have table : rules = earlier embeddingError ++ rules[4] :: rules.drop 5 := rfl
    have undigited : "embed".toList.any Char.isDigit = false := by decide
    have starts : "embed".toList <:+: "embedding provider returned ".toList := by decide +kernel
    apply (told_eq_iff table (ruleMatches_iff.mpr _)).mpr
    · intro other member
      rw [Bool.eq_false_iff, ne_eq, ruleMatches_iff]
      rintro ⟨phrase, inside, occurs⟩
      by_cases number : phrase = "429"
      · subst number
        exact uncounted ((tooMany_infix_miscount_iff found expected).mp occurs)
      · exact silent other member phrase inside number occurs
    · exact ⟨"embed", List.mem_cons_self,
        (infix_miscount_iff found expected undigited).mpr (.inl starts)⟩

end Miscount

end Status

end SourceHarvest
