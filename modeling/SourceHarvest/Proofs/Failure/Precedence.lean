import SourceHarvest.Proofs.Failure.Lowercase
import Mathlib.Data.List.Find

/-!
# The precedence of statuses

The words of a failure tell the first status in the order of the rules that has a phrase among
them.  Words that are added around a failure can only bring in further phrases, so they leave the
status where it is or move it forward in this order; a status that the type of a cause tells stays
as it is.
-/

namespace SourceHarvest

/-- The type of the cause tells a status by itself. -/
def Cause.tellsStatus : Cause → Bool
  | .emptySyntaxTree _ => true
  | .invalidSplit .. => true
  | .storeUnavailable _ => true
  | _ => false

theorem Failure.text_context (failure : Failure) (text : String) :
    (failure.context text).text = text ++ ": " ++ failure.text := by
  rw [Failure.text, causes_context, Failure.text, causes, List.map_cons, List.map_cons,
    String.intercalate_cons_cons]
  rfl

namespace Status

/-- The statuses that words can tell, in the order in which they are looked for. -/
def order : List Status :=
  rules.map (·.1) ++ [unknownError]

example : order =
    [tokenLimit, rateLimit, parseError, chunkError, embeddingError, storageError, unknownError] :=
  rfl

/-- The status that a text in lowercase tells. -/
def told (lowered : List Char) : Status :=
  match rules.find? (ruleMatches lowered) with
  | some rule => rule.1
  | none => unknownError

theorem classify_eq_told (message : String) : classify message = told (fold message) :=
  rfl

/-- The place of the first rule that a condition holds of is that of its status in the order. -/
theorem idxOf_find? (holds : Status × List String → Bool) (table : List (Status × List String))
    (last : Status) (distinct : (table.map (·.1) ++ [last]).Nodup) :
    (table.map (·.1) ++ [last]).idxOf
        (match table.find? holds with
          | some rule => rule.1
          | none => last) = table.findIdx holds := by
  induction table with
  | nil => simp
  | cons rule rest inductionHypothesis =>
      rw [List.map_cons, List.cons_append, List.nodup_cons] at distinct
      rw [List.map_cons, List.cons_append, List.find?_cons, List.findIdx_cons]
      cases holds rule with
      | true => simp
      | false =>
          have other : rule.1 ≠ match rest.find? holds with
              | some rule => rule.1
              | none => last := by
            rintro same
            apply distinct.1
            rw [same]
            split
            · rename_i found inside
              exact List.mem_append_left _ (List.mem_map_of_mem (List.mem_of_find?_eq_some inside))
            · exact List.mem_append_right _ List.mem_cons_self
          simp only [cond_false]
          rw [List.idxOf_cons_ne _ other, inductionHypothesis distinct.2]

theorem idxOf_told (lowered : List Char) :
    order.idxOf (told lowered) = rules.findIdx (ruleMatches lowered) :=
  idxOf_find? _ _ _ (by decide)

theorem told_mem_order (lowered : List Char) : told lowered ∈ order := by
  rw [← List.idxOf_lt_length_iff, idxOf_told, order, List.length_append, List.length_map]
  exact Nat.lt_succ_of_le List.findIdx_le_length

/-- A text in lowercase tells what the folded text tells. -/
theorem told_lower (lowercasing : Lowercasing) (message : String) :
    told (lowercasing.lower message) = classify message := by
  have same : rules.find? (ruleMatches (lowercasing.lower message)) =
      rules.find? (ruleMatches (fold message)) :=
    List.find?_congr fun rule member => ruleMatches_lower lowercasing message member
  rw [classify_eq_told, told, told, same]

/-- A longer text has every phrase of the shorter one. -/
theorem ruleMatches_of_infix {lowered longer : List Char} (inside : lowered <:+: longer)
    {rule : Status × List String} (found : ruleMatches lowered rule = true) :
    ruleMatches longer rule = true := by
  rw [ruleMatches, List.any_eq_true] at found ⊢
  obtain ⟨phrase, member, occurs⟩ := found
  exact ⟨phrase, member, Text.occursIn_iff.mpr ((Text.occursIn_iff.mp occurs).trans inside)⟩

/-- A longer text tells the same status or an earlier one. -/
theorem idxOf_told_le {lowered longer : List Char} (inside : lowered <:+: longer) :
    order.idxOf (told longer) ≤ order.idxOf (told lowered) := by
  rw [idxOf_told, idxOf_told]
  exact List.findIdx_le_findIdx fun rule _ => ruleMatches_of_infix inside

theorem fold_append (first second : String) :
    fold (first ++ second) = fold first ++ fold second := by
  rw [fold, fold, fold, String.toList_append, List.flatMap_append]

/-- Words that tell a status by themselves tell it, or an earlier one, behind further words. -/
theorem idxOf_classify_context_le (failure : Failure) (text : String) :
    order.idxOf (classify (failure.context text).text) ≤ order.idxOf (classify failure.text) := by
  rw [classify_eq_told, classify_eq_told, Failure.text_context, fold_append]
  exact idxOf_told_le (List.suffix_append _ _).isInfix

theorem ofFailure_of_tellsStatus {failure : Failure}
    (tells : failure.typed?.any Cause.tellsStatus = true) (text : String) :
    ofFailure (failure.context text) = ofFailure failure := by
  rw [ofFailure, ofFailure, Failure.typed?_context]
  split
  · rfl
  · rfl
  · rfl
  · rename_i noTree noSplit noStore
    cases known : failure.typed? with
    | none => simp [known] at tells
    | some cause =>
        cases cause with
        | emptySyntaxTree path => exact absurd known (noTree path)
        | invalidSplit greatestSize overlap => exact absurd known (noSplit greatestSize overlap)
        | storeUnavailable detail => exact absurd known (noStore detail)
        | _ => simp [known, Cause.tellsStatus] at tells

theorem ofFailure_eq_classify {failure : Failure}
    (silent : failure.typed?.any Cause.tellsStatus = false) :
    ofFailure failure = classify failure.text := by
  rw [ofFailure]
  split
  · rename_i known
    simp [known, Cause.tellsStatus] at silent
  · rename_i known
    simp [known, Cause.tellsStatus] at silent
  · rename_i known
    simp [known, Cause.tellsStatus] at silent
  · rfl

/-- Words around a failure leave its status as it is or move it forward in the order of the rules,
and never move a status that the type of a cause tells.  The case of ASCII letters is of no matter,
nor are the rules by which texts are put into lowercase. -/
theorem context_keeps_precedence (failure : Failure) (text : String) :
    (if failure.typed?.any Cause.tellsStatus then
      ofFailure (failure.context text) = ofFailure failure
    else
      ofFailure failure ∈ order ∧ ofFailure (failure.context text) ∈ order ∧
        order.idxOf (ofFailure (failure.context text)) ≤ order.idxOf (ofFailure failure)) ∧
      (∀ first second : String, Text.lowercase first = Text.lowercase second →
        classify first = classify second) ∧
      ∀ (lowercasing : Lowercasing) (message : String),
        classify message = told (lowercasing.lower message) := by
  refine ⟨?_, ?_, ?_⟩
  · split
    · rename_i tells
      exact ofFailure_of_tellsStatus tells text
    · rename_i silent
      rw [Bool.not_eq_true] at silent
      have silentAround : (failure.context text).typed?.any Cause.tellsStatus = false := by
        rwa [Failure.typed?_context]
      rw [ofFailure_eq_classify silent, ofFailure_eq_classify silentAround]
      exact ⟨told_mem_order _, told_mem_order _, idxOf_classify_context_le failure text⟩
  · intro first second same
    rw [classify_eq_told, classify_eq_told, fold_eq_of_lowercase_eq same]
  · intro lowercasing message
    exact (told_lower lowercasing message).symm

end Status

namespace Small

open Status

/-- Letters in lowercase, with the form that a sigma has at the end of a text. -/
def withFinalSigma : Lowercasing where
  form before c after :=
    if c = 'Σ' then if before ≠ [] ∧ after = [] then ['ς'] else ['σ'] else foldChar c
  ascii before c after small := by
    rw [if_neg, foldChar_of_ascii small]
    rintro rfl
    exact absurd small (by decide)
  kelvin _ _ := rfl
  dotted _ _ := rfl
  foreign before c after large notKelvin notDotted := by
    split
    · split
      · exact ⟨List.cons_ne_nil _ _, by simp⟩
      · exact ⟨List.cons_ne_nil _ _, by simp⟩
    · rw [foldChar_of_foreign large notKelvin notDotted]
      exact ⟨List.cons_ne_nil _ _, List.forall_mem_singleton.mpr large⟩

/-- A failure that tells nothing by its own words. -/
def reset : Failure :=
  Failure.ofMessage "connection reset"

/-- A store that cannot be reached is told by the words around the failure. -/
theorem context_keeps_precedence_unreached :
    ofFailure reset = unknownError ∧
      ofFailure (reset.context "Milvus upsert failed") = storageError ∧
      order.idxOf storageError ≤ order.idxOf unknownError ∧
      classify "ΤΙΜΗΣ" = told (withFinalSigma.lower "ΤΙΜΗΣ") := by
  have bare : ofFailure reset = unknownError := by decide +kernel
  have around : ofFailure (reset.context "Milvus upsert failed") = storageError := by
    decide +kernel
  obtain ⟨moves, _, lowered⟩ := context_keeps_precedence reset "Milvus upsert failed"
  rw [if_neg (by decide), bare, around] at moves
  exact ⟨bare, around, moves.2.2, lowered withFinalSigma _⟩

end Small

end SourceHarvest
