import SourceHarvest.VectorStore.Milvus

/-!
# The filter for the rows of a file

The store reads a filter by its own rule for literals: a backslash makes the character behind it
stand for itself, and the first quote that does not stand behind one closes the literal.  Read in
this way, the filter for a file holds the path of that file and ends where its literal ends, so it
can neither match another file nor go on as an expression.
-/

namespace SourceHarvest.Milvus

/-- Read a literal after the quote that opens it, into its text and what follows the quote that
closes it.  A literal that nothing closes is none. -/
def readLiteral : List Char → Option (List Char × List Char)
  | [] => none
  | '"' :: rest => some ([], rest)
  | ['\\'] => none
  | '\\' :: c :: rest => (readLiteral rest).map fun (text, after) => (c :: text, after)
  | c :: rest => (readLiteral rest).map fun (text, after) => (c :: text, after)

theorem readLiteral_cons {c : Char} (noQuote : c ≠ '"') (noBackslash : c ≠ '\\')
    (rest : List Char) :
    readLiteral (c :: rest) = (readLiteral rest).map fun (text, after) => (c :: text, after) := by
  rw [readLiteral]
  · exact noQuote
  all_goals simp [noBackslash]

/-- A literal that is closed stays as it is, whatever is put behind it. -/
theorem readLiteral_append {input text rest : List Char}
    (closed : readLiteral input = some (text, rest)) (more : List Char) :
    readLiteral (input ++ more) = some (text, rest ++ more) := by
  induction input using readLiteral.induct generalizing text with
  | case1 => cases closed
  | case2 after =>
      simp only [readLiteral, Option.some.injEq, Prod.mk.injEq] at closed
      rcases closed with ⟨rfl, rfl⟩
      rfl
  | case3 => cases closed
  | case4 c after inductionHypothesis =>
      simp only [readLiteral, Option.map_eq_some_iff, Prod.exists, Prod.mk.injEq] at closed
      rcases closed with ⟨inner, left, closed, rfl, rfl⟩
      simp [readLiteral, inductionHypothesis closed]
  | case5 c after noQuote unfinished escaped inductionHypothesis =>
      have noBackslash : c ≠ '\\' := by
        intro backslash
        cases after with
        | nil => exact unfinished backslash rfl
        | cons next after => exact escaped next after backslash rfl
      simp only [readLiteral_cons noQuote noBackslash, Option.map_eq_some_iff, Prod.exists,
        Prod.mk.injEq] at closed
      rcases closed with ⟨inner, left, closed, rfl, rfl⟩
      simp [readLiteral_cons noQuote noBackslash, inductionHypothesis closed]

/-! ### Escaping -/

/-- Put a backslash before every occurrence of a mark. -/
def escapeEach (mark : Char) (text : List Char) : List Char :=
  text.flatMap fun c => if c = mark then ['\\', c] else [c]

/-- Backslashes are escaped before quotes, so the backslash that escapes a quote stays single. -/
theorem escapeFilter_eq_escapeEach (text : List Char) :
    escapeFilter text = escapeEach '"' (escapeEach '\\' text) := by
  rw [escapeFilter, escapeEach, escapeEach, List.flatMap_assoc]
  apply congrArg (text.flatMap ·)
  funext c
  by_cases backslash : c = '\\'
  · subst c
    rfl
  · simp [backslash]

/-- An escaped text is read back up to the quote behind it, whatever follows that. -/
theorem readLiteral_escapeFilter (text rest : List Char) :
    readLiteral (escapeFilter text ++ '"' :: rest) = some (text, rest) := by
  induction text with
  | nil => rfl
  | cons c text inductionHypothesis =>
      rw [escapeFilter, List.flatMap_cons, List.append_assoc, ← escapeFilter]
      split
      · simp [readLiteral, inductionHypothesis]
      · rename_i plain
        rw [not_or] at plain
        simp [readLiteral_cons plain.2 plain.1, inductionHypothesis]

theorem toList_around (early late : String) (text : List Char) :
    (early ++ String.ofList text ++ late).toList = early.toList ++ (text ++ late.toList) := by
  rw [String.toList_append, String.toList_append, String.toList_ofList, List.append_assoc]

theorem toList_pathFilter (relativePath : String) :
    (pathFilter relativePath).toList =
      "relative_path == \"".toList ++ (escapeFilter relativePath.toList ++ ['"']) :=
  toList_around "relative_path == \"" "\"" _

/-- The filter for a file ends in the path of that file with its backslashes and then its quotes
escaped.  Read as a literal this is the path, it is closed by the last character and by none before,
and no other path has the same filter. -/
theorem pathFilter_names_one_path (relativePath : String) :
    ∃ body : List Char,
      (pathFilter relativePath).toList = "relative_path == \"".toList ++ body ∧
      body = escapeEach '"' (escapeEach '\\' relativePath.toList) ++ ['"'] ∧
      readLiteral body = some (relativePath.toList, []) ∧
      (∀ early late : List Char, body = early ++ late → late ≠ [] → readLiteral early = none) ∧
      ∀ other : String, pathFilter other = pathFilter relativePath ↔ other = relativePath := by
  have reads := readLiteral_escapeFilter relativePath.toList []
  refine ⟨_, toList_pathFilter relativePath, ?_, reads, ?_, ?_⟩
  · rw [escapeFilter_eq_escapeEach]
  · intro early late split remains
    rw [Option.eq_none_iff_forall_ne_some]
    rintro ⟨text, rest⟩ closed
    -- What closed early would leave the rest of the filter behind its literal.
    rw [split, readLiteral_append closed late, Option.some.injEq, Prod.mk.injEq,
      List.append_eq_nil_iff] at reads
    exact remains reads.2.2
  · intro other
    constructor
    · intro same
      have literals := congrArg String.toList same
      rw [toList_pathFilter, toList_pathFilter, List.append_cancel_left_eq] at literals
      rw [← literals, readLiteral_escapeFilter, Option.some.injEq, Prod.mk.injEq] at reads
      exact String.toList_injective reads.1
    · rintro rfl
      rfl

end SourceHarvest.Milvus
