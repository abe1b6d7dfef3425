import SourceHarvest.Ingestion.FileJob

/-!
# Paths of names

An absolute path that is made of proper names shows them again, and so does what is left
of it below a root.  So files with different names have different paths, and different
paths from the root as long as no name holds a backslash.
-/

namespace SourceHarvest

namespace Text

/-- A text without the mark is a single part. -/
theorem splitAtMark_of_not_mem {mark : Char} {text : List Char} (free : mark ∉ text) :
    splitAtMark mark text = [text] := by
  induction text with
  | nil => rfl
  | cons c rest inductionHypothesis =>
      have other : c ≠ mark := fun same => free (same ▸ List.mem_cons_self)
      rw [splitAtMark, if_neg other,
        inductionHypothesis fun inside => free (List.mem_cons_of_mem _ inside)]

theorem splitAtMark_append_mark {mark : Char} {part : List Char} (free : mark ∉ part)
    (rest : List Char) : splitAtMark mark (part ++ mark :: rest) = part :: splitAtMark mark rest := by
  induction part with
  | nil => rw [List.nil_append, splitAtMark, if_pos rfl]
  | cons c part inductionHypothesis =>
      have other : c ≠ mark := fun same => free (same ▸ List.mem_cons_self)
      rw [List.cons_append, splitAtMark, if_neg other,
        inductionHypothesis fun inside => free (List.mem_cons_of_mem _ inside)]

/-- Joining parts without the mark loses nothing. -/
theorem splitAtMark_joinWithMark {mark : Char} {parts : List (List Char)} (nonempty : parts ≠ [])
    (free : ∀ part ∈ parts, mark ∉ part) : splitAtMark mark (joinWithMark mark parts) = parts := by
  induction parts with
  | nil => exact absurd rfl nonempty
  | cons part rest inductionHypothesis =>
      have first := free part List.mem_cons_self
      cases rest with
      | nil =>
          have single : joinWithMark mark [part] = part := by simp [joinWithMark, List.intercalate]
          rw [single, splitAtMark_of_not_mem first]
      | cons next more =>
          rw [joinWithMark_cons_cons, splitAtMark_append_mark first, inductionHypothesis
            (List.cons_ne_nil _ _) fun part member => free part (List.mem_cons_of_mem _ member)]

theorem mem_joinWithMark {mark c : Char} {parts : List (List Char)}
    (member : c ∈ joinWithMark mark parts) : c = mark ∨ ∃ part ∈ parts, c ∈ part := by
  induction parts with
  | nil => cases member
  | cons part rest inductionHypothesis =>
      cases rest with
      | nil =>
          refine .inr ⟨part, List.mem_cons_self, ?_⟩
          simpa [joinWithMark, List.intercalate] using member
      | cons next more =>
          rw [joinWithMark_cons_cons, List.mem_append, List.mem_cons] at member
          rcases member with here | same | later
          · exact .inr ⟨part, List.mem_cons_self, here⟩
          · exact .inl same
          · rcases inductionHypothesis later with same | ⟨other, inside, here⟩
            · exact .inl same
            · exact .inr ⟨other, List.mem_cons_of_mem _ inside, here⟩

end Text

namespace Path

/-- A name that an entry of a directory can have. -/
def IsName (name : String) : Prop :=
  '/' ∉ name.toList ∧ name ≠ "" ∧ name ≠ "."

instance : DecidablePred IsName := fun name =>
  inferInstanceAs (Decidable ('/' ∉ name.toList ∧ name ≠ "" ∧ name ≠ "."))

theorem toList_ofNames (names : List String) :
    (ofNames names).text.toList = '/' :: Text.joinWithMark '/' (names.map String.toList) := by
  rw [ofNames, String.toList_append, String.toList_intercalate]
  rfl

theorem isAbsolute_ofNames (names : List String) : (ofNames names).isAbsolute = true := by
  rw [isAbsolute, toList_ofNames]
  rfl

theorem isVoid_toList {name : String} (legal : IsName name) : isVoid name.toList = false := by
  rcases legal with ⟨_, nonempty, notDot⟩
  simp only [isVoid, Bool.or_eq_false_iff, beq_eq_false_iff_ne]
  constructor
  · intro blank
    exact nonempty (String.toList_inj.mp blank)
  · intro dot
    exact notDot (String.toList_inj.mp dot)

theorem markedParts_ofNames {names : List String} (nonempty : names ≠ [])
    (legal : ∀ name ∈ names, IsName name) :
    (ofNames names).markedParts = names.map fun name => (name.toList, true) := by
  have split : (ofNames names).parts = names.map String.toList := by
    rw [parts, toList_ofNames]
    apply Text.splitAtMark_joinWithMark
    · simpa using nonempty
    · intro part member
      rcases List.mem_map.mp member with ⟨name, inside, rfl⟩
      exact (legal name inside).1
  cases names with
  | nil => exact absurd rfl nonempty
  | cons name rest =>
      have first := isVoid_toList (legal name List.mem_cons_self)
      rw [markedParts, split, List.map_cons]
      simp only [isAbsolute_ofNames, if_true, first, List.map_map, List.map_cons, Bool.not_false]
      congr 1
      apply List.map_congr_left
      intro other member
      have void := isVoid_toList (legal other (List.mem_cons_of_mem _ member))
      simp [void]

theorem markedParts_root : (ofNames []).markedParts = [([], false)] := by
  decide

theorem names_ofNames {names : List String} (legal : ∀ name ∈ names, IsName name) :
    (ofNames names).names = names := by
  cases names with
  | nil => decide
  | cons name rest =>
      rw [Path.names, markedParts_ofNames (List.cons_ne_nil _ _) legal, List.filter_eq_self.mpr,
        List.map_map]
      · refine (List.map_congr_left fun found _ => ?_).trans (List.map_id _)
        exact String.ofList_toList
      · intro part member
        rcases List.mem_map.mp member with ⟨found, _, rfl⟩
        rfl

theorem ofNames_injective {first second : List String} (firstLegal : ∀ name ∈ first, IsName name)
    (secondLegal : ∀ name ∈ second, IsName name) (same : ofNames first = ofNames second) :
    first = second := by
  rw [← names_ofNames firstLegal, same, names_ofNames secondLegal]

theorem dropVoid_of_named {marked : List (List Char × Bool)}
    (named : ∀ part ∈ marked, part.2 = true) :
    (marked.dropWhile fun part => !part.2) = marked := by
  cases marked with
  | nil => rfl
  | cons part rest =>
      have first := named part List.mem_cons_self
      rw [List.dropWhile_cons_of_neg (by simp [first])]

theorem dropVoidEnd_of_named {marked : List (List Char × Bool)}
    (named : ∀ part ∈ marked, part.2 = true) : dropVoidEnd marked = marked := by
  rw [dropVoidEnd, dropVoid_of_named fun part member => named part (List.mem_reverse.mp member),
    List.reverse_reverse]

/-- Names are taken off the front where they stand there, and nowhere else. -/
theorem dropNames?_map (names others : List String) :
    dropNames? names (others.map fun name => (name.toList, true)) =
      if names <+: others then some ((others.drop names.length).map fun name => (name.toList, true))
      else none := by
  induction names generalizing others with
  | nil => simp [dropNames?]
  | cons name rest inductionHypothesis =>
      cases others with
      | nil => simp [dropNames?]
      | cons other more =>
          simp only [List.map_cons, dropNames?, if_true, String.ofList_toList,
            List.cons_prefix_cons, List.length_cons, List.drop_succ_cons]
          by_cases same : other = name
          · rw [if_pos same, inductionHypothesis]
            simp [same]
          · rw [if_neg same, if_neg fun both => same both.1.symm]

/-- The text of names below a root. -/
def textBelow (names : List String) : String :=
  String.ofList (Text.joinWithMark '/' (names.map String.toList))

theorem below?_ofNames {root names : List String} (rootLegal : ∀ name ∈ root, IsName name)
    (legal : ∀ name ∈ names, IsName name) :
    (ofNames root).below? (ofNames names) =
      if root <+: names then some ⟨textBelow (names.drop root.length)⟩ else none := by
  have ofMarked_map (rest : List String) : ofMarked false (dropVoidEnd
      ((rest.map fun name => (name.toList, true)).dropWhile fun part => !part.2)) =
        ⟨textBelow rest⟩ := by
    have named : ∀ part ∈ rest.map fun name => (name.toList, true), part.2 = true := by
      intro part member
      rcases List.mem_map.mp member with ⟨name, _, rfl⟩
      rfl
    rw [dropVoid_of_named named, dropVoidEnd_of_named named, ofMarked, textBelow, List.map_map]
    rfl
  rw [below?, isAbsolute_ofNames, isAbsolute_ofNames, if_pos rfl, names_ofNames rootLegal]
  cases names with
  | nil =>
      cases root with
      | nil => decide
      | cons name rest =>
          rw [markedParts_root]
          simp [dropNames?]
  | cons name rest =>
      rw [markedParts_ofNames (List.cons_ne_nil _ _) legal, dropNames?_map]
      split
      · rw [Option.map_some, ofMarked_map]
      · rfl

end Path

namespace FileJob

open SourceHarvest.Path

/-- No name holds a backslash, so that a path from the root is taken as it is. -/
def Unescaped (names : List String) : Prop :=
  ∀ name ∈ names, '\\' ∉ name.toList

variable {root rest others : List String}

/-- The path of a file below the root is made of the names below the root. -/
theorem relativePath_below (rootLegal : ∀ name ∈ root, IsName name)
    (legal : ∀ name ∈ rest, IsName name) (plain : Unescaped rest) :
    relativePath (ofNames root) (ofNames (root ++ rest)) = textBelow rest := by
  have whole : ∀ name ∈ root ++ rest, IsName name := fun name member =>
    (List.mem_append.mp member).elim (rootLegal name) (legal name)
  rw [relativePath, below?_ofNames rootLegal whole, if_pos (List.prefix_append root rest),
    List.drop_left, Option.getD_some]
  simp only [textBelow, String.toList_ofList]
  congr 1
  refine (List.map_congr_left fun c member => ?_).trans (List.map_id _)
  apply if_neg
  intro backslash
  rcases Text.mem_joinWithMark member with slash | ⟨part, inside, here⟩
  · exact absurd (backslash.symm.trans slash) (by decide)
  · rcases List.mem_map.mp inside with ⟨name, named, rfl⟩
    exact plain name named (backslash ▸ here)

/-- The path of a file outside the root starts with a slash. -/
theorem head?_relativePath_outside (rootLegal : ∀ name ∈ root, IsName name)
    (legal : ∀ name ∈ others, IsName name) (outside : ¬ root <+: others) :
    (relativePath (ofNames root) (ofNames others)).toList.head? = some '/' := by
  rw [relativePath, below?_ofNames rootLegal legal, if_neg outside, Option.getD_none,
    String.toList_ofList, toList_ofNames]
  rfl

theorem head?_textBelow (legal : ∀ name ∈ rest, IsName name) :
    (textBelow rest).toList.head? ≠ some '/' := by
  rw [textBelow, String.toList_ofList]
  cases rest with
  | nil => simp [Text.joinWithMark]
  | cons name more =>
      rcases legal name List.mem_cons_self with ⟨free, nonempty, _⟩
      cases shown : name.toList with
      | nil => exact absurd (String.toList_inj.mp shown) nonempty
      | cons c tail =>
          have other : c ≠ '/' := fun same => free (shown ▸ same ▸ List.mem_cons_self)
          cases more with
          | nil => simpa [Text.joinWithMark, shown] using other
          | cons next further =>
              rw [List.map_cons, List.map_cons, Text.joinWithMark_cons_cons, shown]
              simpa using other

theorem textBelow_injective (nonempty : rest ≠ []) (legal : ∀ name ∈ rest, IsName name)
    (othersLegal : ∀ name ∈ others, IsName name) (same : textBelow rest = textBelow others) :
    rest = others := by
  have joined := String.ofList_inj.mp same
  have free (names : List String) (legal : ∀ name ∈ names, IsName name) :
      ∀ part ∈ names.map String.toList, '/' ∉ part := by
    intro part member
    rcases List.mem_map.mp member with ⟨name, inside, rfl⟩
    exact (legal name inside).1
  have split := Text.splitAtMark_joinWithMark (by simpa using nonempty) (free rest legal)
  cases others with
  | nil =>
      -- Joined names are empty only where there are none, as names are not empty.
      rw [joined] at split
      cases rest with
      | nil => exact absurd rfl nonempty
      | cons name more =>
          have blank : name.toList = [] := (List.cons.inj split.symm).1
          exact absurd (String.toList_inj.mp blank) (legal name List.mem_cons_self).2.1
  | cons name more =>
      rw [joined, Text.splitAtMark_joinWithMark (by simp) (free _ othersLegal)] at split
      exact (List.map_inj_right fun _ _ => String.toList_inj.mp).mp split.symm

/-- Different files have different paths from the root if one of them lies below it. -/
theorem relativePath_injective (rootLegal : ∀ name ∈ root, IsName name) (nonempty : rest ≠ [])
    (legal : ∀ name ∈ rest, IsName name) (plain : Unescaped rest)
    (othersLegal : ∀ name ∈ others, IsName name)
    (othersPlain : root <+: others → Unescaped (others.drop root.length))
    (same : relativePath (ofNames root) (ofNames (root ++ rest)) =
      relativePath (ofNames root) (ofNames others)) : root ++ rest = others := by
  rw [relativePath_below rootLegal legal plain] at same
  by_cases below : root <+: others
  · have further := othersPlain below
    rcases below with ⟨more, rfl⟩
    rw [List.drop_left] at further
    have moreLegal : ∀ name ∈ more, IsName name := fun name member =>
      othersLegal name (List.mem_append_right _ member)
    rw [relativePath_below rootLegal moreLegal further] at same
    rw [textBelow_injective nonempty legal moreLegal same]
  · have slash := head?_relativePath_outside rootLegal othersLegal below
    rw [← same] at slash
    exact absurd slash (head?_textBelow legal)

end FileJob

end SourceHarvest
