import SourceHarvest.Proofs.Path.Names
import Mathlib.Data.List.DropRight

/-!
# Spellings of a path

A path can be written with parts that name nothing, single dots and empty parts.  They show in its
text, but not all of them in what is left of it below a root: those among the names of the root go,
and so do those at the end.  So paths with different texts can have the same relative path.
-/

namespace SourceHarvest

namespace Text

theorem mem_joinWithMark_of_mem {mark c : Char} {parts : List (List Char)} {part : List Char}
    (member : part ∈ parts) (inside : c ∈ part) : c ∈ joinWithMark mark parts := by
  induction parts with
  | nil => cases member
  | cons first rest inductionHypothesis =>
      cases rest with
      | nil =>
          obtain rfl := List.mem_singleton.mp member
          simpa [joinWithMark, List.intercalate] using inside
      | cons next more =>
          rw [joinWithMark_cons_cons, List.mem_append, List.mem_cons]
          rcases List.mem_cons.mp member with rfl | later
          · exact .inl inside
          · exact .inr (.inr (inductionHypothesis later))

theorem mem_of_mem_splitAtMark {mark c : Char} {text part : List Char}
    (member : part ∈ splitAtMark mark text) (inside : c ∈ part) : c ∈ text := by
  rw [← joinWithMark_splitAtMark mark text]
  exact mem_joinWithMark_of_mem member inside

end Text

namespace Path

/-- The names among parts. -/
def namesOf (marked : List (List Char × Bool)) : List String :=
  (marked.filter (·.2)).map fun part => String.ofList part.1

/-- The path is spelled with outer names and then inner ones.  All other parts of it name nothing;
they stand among the outer names, in front of the inner ones or at the end. -/
def Spells (outerNames innerNames : List String) (path : Path) : Prop :=
  ∃ outer voids, path.markedParts = outer ++ innerNames.map (fun name => (name.toList, true)) ++ voids ∧
    namesOf outer = outerNames ∧ ∀ part ∈ voids, part.2 = false

section Parts

variable {marked voids left : List (List Char × Bool)} {names : List String}

theorem namesOf_append (first second : List (List Char × Bool)) :
    namesOf (first ++ second) = namesOf first ++ namesOf second := by
  rw [namesOf, List.filter_append, List.map_append, namesOf, namesOf]

theorem namesOf_eq_nil_iff : namesOf marked = [] ↔ ∀ part ∈ marked, part.2 = false := by
  rw [namesOf, List.map_eq_nil_iff, List.filter_eq_nil_iff]
  simp only [Bool.not_eq_true]

/-- Only parts that name nothing are dropped at the end. -/
theorem exists_dropVoidEnd_append (marked : List (List Char × Bool)) :
    ∃ voids, marked = dropVoidEnd marked ++ voids ∧ ∀ part ∈ voids, part.2 = false := by
  refine ⟨marked.rtakeWhile fun part => !part.2,
    List.rdropWhile_append_rtakeWhile.symm, fun part member => ?_⟩
  simpa using List.mem_takeWhile_imp (List.mem_reverse.mp member)

theorem dropVoidEnd_append (void : ∀ part ∈ voids, part.2 = false) :
    dropVoidEnd (marked ++ voids) = dropVoidEnd marked := by
  rw [dropVoidEnd, List.reverse_append, List.dropWhile_append_of_pos, dropVoidEnd]
  intro part member
  rw [void part (List.mem_reverse.mp member)]
  rfl

/-- What is taken off the front of parts has the given names. -/
theorem dropNames?_eq_some (taken : dropNames? names marked = some left) :
    ∃ outer, marked = outer ++ left ∧ namesOf outer = names := by
  induction marked generalizing names with
  | nil =>
      cases names with
      | nil =>
          cases taken
          exact ⟨[], rfl, rfl⟩
      | cons => cases taken
  | cons first rest inductionHypothesis =>
      rcases first with ⟨part, named⟩
      cases names with
      | nil =>
          cases taken
          exact ⟨[], rfl, rfl⟩
      | cons name others =>
          rw [dropNames?] at taken
          cases named with
          | true =>
              rw [if_pos rfl] at taken
              split at taken
              · rename_i same
                obtain ⟨outer, rfl, rfl⟩ := inductionHypothesis taken
                exact ⟨(part, true) :: outer, rfl, congrArg (· :: namesOf outer) same⟩
              · cases taken
          | false =>
              rw [if_neg Bool.false_ne_true] at taken
              obtain ⟨outer, rfl, named⟩ := inductionHypothesis taken
              exact ⟨(part, false) :: outer, rfl, named⟩

/-- Parts can be taken off the front by their names, up to the last of these. -/
theorem exists_dropNames?_append (outer more : List (List Char × Bool)) :
    ∃ voids, dropNames? (namesOf outer) (outer ++ more) = some (voids ++ more) ∧
      ∀ part ∈ voids, part.2 = false := by
  induction outer with
  | nil => exact ⟨[], by cases more <;> rfl, fun _ impossible => by cases impossible⟩
  | cons part rest inductionHypothesis =>
      rcases part with ⟨part, named⟩
      obtain ⟨voids, taken, void⟩ := inductionHypothesis
      cases named with
      | true =>
          refine ⟨voids, ?_, void⟩
          have named : namesOf ((part, true) :: rest) = String.ofList part :: namesOf rest := rfl
          rw [named, List.cons_append, dropNames?, if_pos rfl, if_pos rfl, taken]
      | false =>
          have same : namesOf ((part, false) :: rest) = namesOf rest := rfl
          rw [same]
          cases names : namesOf rest with
          | nil =>
              refine ⟨(part, false) :: rest, by rw [dropNames?], fun other member => ?_⟩
              rcases List.mem_cons.mp member with rfl | inside
              · rfl
              · exact namesOf_eq_nil_iff.mp names other inside
          | cons name others =>
              refine ⟨voids, ?_, void⟩
              rw [List.cons_append, dropNames?, if_neg (by decide), ← names, taken]

end Parts

section Below

variable {base path : Path} {names : List String}

/-- A part with a slash in it is none, and a part that is a name counts as one. -/
theorem markedParts_spec {part : List Char × Bool} (member : part ∈ path.markedParts) :
    '/' ∉ part.1 ∧ (isVoid part.1 = false → part.2 = true) := by
  have free : ∀ part ∈ path.parts, '/' ∉ part := by
    intro part inside
    rw [parts] at inside
    split at inside <;> exact Text.not_mem_of_mem_splitAtMark inside
  rw [markedParts] at member
  split at member
  · cases member
  · rename_i first rest split
    rw [split] at free
    rcases List.mem_cons.mp member with rfl | inside
    · refine ⟨free _ List.mem_cons_self, fun proper => ?_⟩
      simp only [proper, Bool.not_false, bne_iff_ne, ne_eq, ite_eq_left_iff]
      rintro - rfl
      cases proper
    · rcases List.mem_map.mp inside with ⟨other, later, rfl⟩
      exact ⟨free _ (List.mem_cons_of_mem _ later), fun proper => by rw [proper]; rfl⟩

theorem ofMarked_names (names : List String) :
    ofMarked false (names.map fun name => (name.toList, true)) = ⟨textBelow names⟩ := by
  rw [ofMarked, textBelow, List.map_map]
  rfl

/-- Parts whose text is that of names are these names. -/
theorem eq_names_of_ofMarked {marked : List (List Char × Bool)} (nonempty : names ≠ [])
    (legal : ∀ name ∈ names, IsName name) (inside : ∀ part ∈ marked, part ∈ path.markedParts)
    (same : ofMarked false marked = ⟨textBelow names⟩) :
    marked = names.map fun name => (name.toList, true) := by
  have joined : Text.joinWithMark '/' (marked.map (·.1)) =
      Text.joinWithMark '/' (names.map String.toList) :=
    String.ofList_inj.mp (congrArg Path.text same)
  have namesFree : ∀ part ∈ names.map String.toList, '/' ∉ part := by
    intro part member
    rcases List.mem_map.mp member with ⟨name, named, rfl⟩
    exact (legal name named).1
  have partsFree : ∀ part ∈ marked.map (·.1), '/' ∉ part := by
    intro part member
    rcases List.mem_map.mp member with ⟨held, there, rfl⟩
    exact (markedParts_spec (inside held there)).1
  have split := Text.splitAtMark_joinWithMark (by simpa using nonempty) namesFree
  have texts : marked.map (·.1) = names.map String.toList := by
    rw [← joined] at split
    by_cases none : marked = []
    · -- There is one part in an empty text, and it is no name.
      rw [none] at split
      rcases names with _ | ⟨name, others⟩
      · exact absurd rfl nonempty
      · have blank : name.toList = [] := (List.cons.inj split.symm).1
        exact absurd (String.toList_inj.mp blank) (legal name List.mem_cons_self).2.1
    · rwa [Text.splitAtMark_joinWithMark (by simpa using none) partsFree] at split
  have flags : marked = (marked.map (·.1)).map fun part => (part, true) := by
    rw [List.map_map]
    refine ((List.map_congr_left fun part member => ?_).trans (List.map_id _)).symm
    have named : part.1 ∈ names.map String.toList := texts ▸ List.mem_map_of_mem member
    rcases List.mem_map.mp named with ⟨name, isName, same⟩
    have proper := isVoid_toList (legal name isName)
    rw [same] at proper
    exact Prod.ext rfl ((markedParts_spec (inside part member)).2 proper).symm
  rw [flags, texts, List.map_map]
  rfl

/-- What is left of a path below another one is made of names exactly if the path is spelled with the
names of the other one and then these names. -/
theorem below?_eq_some_iff (nonempty : names ≠ []) (legal : ∀ name ∈ names, IsName name) :
    base.below? path = some ⟨textBelow names⟩ ↔
      base.isAbsolute = path.isAbsolute ∧ Spells base.names names path := by
  have named : ∀ part ∈ names.map fun name => (name.toList, true), part.2 = true := by
    intro part member
    rcases List.mem_map.mp member with ⟨name, _, rfl⟩
    rfl
  rw [below?]
  split
  · rename_i alike
    rw [and_iff_right alike]
    constructor
    · intro found
      obtain ⟨left, taken, rest⟩ := Option.map_eq_some_iff.mp found
      obtain ⟨outer, whole, outerNames⟩ := dropNames?_eq_some taken
      obtain ⟨voids, ending, void⟩ :=
        exists_dropVoidEnd_append (left.dropWhile fun part => !part.2)
      have split : left = (left.takeWhile fun part => !part.2) ++
          dropVoidEnd (left.dropWhile fun part => !part.2) ++ voids := by
        rw [List.append_assoc, ← ending, List.takeWhile_append_dropWhile]
      have inside : ∀ part ∈ dropVoidEnd (left.dropWhile fun part => !part.2),
          part ∈ path.markedParts := by
        intro part member
        rw [whole, split]
        exact List.mem_append_right _ (List.mem_append_left _ (List.mem_append_right _ member))
      have core := eq_names_of_ofMarked nonempty legal inside rest
      have lead : ∀ part ∈ left.takeWhile fun part => !part.2, part.2 = false := fun part member => by
        simpa using List.mem_takeWhile_imp member
      refine ⟨outer ++ left.takeWhile fun part => !part.2, voids, ?_, ?_, void⟩
      · rw [core] at split
        rw [whole, List.append_assoc, List.append_assoc, ← List.append_assoc (List.takeWhile _ left),
          ← split]
      · rw [namesOf_append, outerNames, namesOf_eq_nil_iff.mpr lead, List.append_nil]
    · rintro ⟨outer, voids, whole, outerNames, void⟩
      obtain ⟨lead, taken, leadVoid⟩ := exists_dropNames?_append outer
        (names.map (fun name => (name.toList, true)) ++ voids)
      rw [outerNames, ← List.append_assoc, ← whole] at taken
      have begins : ((names.map fun name => (name.toList, true)) ++ voids).dropWhile
          (fun part => !part.2) = (names.map fun name => (name.toList, true)) ++ voids := by
        cases names with
        | nil => exact absurd rfl nonempty
        | cons name others => rfl
      rw [taken, Option.map_some, List.dropWhile_append_of_pos fun part member => by
        rw [leadVoid part member]; rfl, begins, dropVoidEnd_append void, dropVoidEnd_of_named named,
        ofMarked_names]
  · rename_i unlike
    exact iff_of_false (Option.some_ne_none _).symm fun both => unlike both.1

/-- The characters of parts are those of the path. -/
theorem mem_text_of_markedParts {part : List Char × Bool} (member : part ∈ path.markedParts)
    {c : Char} (inside : c ∈ part.1) : c ∈ path.text.toList := by
  have parted : part.1 ∈ path.parts := by
    rw [markedParts] at member
    split at member
    · cases member
    · rename_i first rest split
      rw [split]
      rcases List.mem_cons.mp member with rfl | later
      · exact List.mem_cons_self
      · rcases List.mem_map.mp later with ⟨other, further, rfl⟩
        exact List.mem_cons_of_mem _ further
  rw [parts] at parted
  split at parted
  · rename_i rest text
    rw [text]
    exact List.mem_cons_of_mem _ (Text.mem_of_mem_splitAtMark parted inside)
  · exact Text.mem_of_mem_splitAtMark parted inside

/-- What is left of a path has the characters of the path, and slashes. -/
theorem mem_text_of_below? {left : Path} (found : base.below? path = some left) {c : Char}
    (noSlash : c ≠ '/') (inside : c ∈ left.text.toList) : c ∈ path.text.toList := by
  rw [below?] at found
  split at found
  · obtain ⟨marked, taken, rfl⟩ := Option.map_eq_some_iff.mp found
    obtain ⟨outer, whole, _⟩ := dropNames?_eq_some taken
    rw [ofMarked, String.toList_ofList] at inside
    rcases Text.mem_joinWithMark inside with slash | ⟨part, member, here⟩
    · exact absurd slash noSlash
    · rcases List.mem_map.mp member with ⟨held, there, rfl⟩
      obtain ⟨voids, ending, _⟩ := exists_dropVoidEnd_append (marked.dropWhile fun part => !part.2)
      have kept : held ∈ marked.dropWhile fun part => !part.2 := by
        rw [ending]
        exact List.mem_append_left _ there
      refine mem_text_of_markedParts ?_ here
      rw [whole]
      exact List.mem_append_right _ ((List.dropWhile_sublist _).subset kept)
  · cases found

/-- What is followed from an absolute path is absolute. -/
theorem isAbsolute_join (absolute : base.isAbsolute = true) (path : Path) :
    (base.join path).isAbsolute = true := by
  have leads (further : String) : Path.isAbsolute ⟨base.text ++ further⟩ = true := by
    rw [isAbsolute] at absolute ⊢
    rw [String.toList_append]
    cases text : base.text.toList with
    | nil =>
        rw [text] at absolute
        cases absolute
    | cons c rest =>
        rw [text] at absolute
        exact absolute
  rw [join]
  split
  · assumption
  · split
    · exact leads _
    · rw [String.append_assoc]
      exact leads _

/-- A canonical path is spelled with its names. -/
theorem spells_ofNames {outer inner : List String} (outerLegal : ∀ name ∈ outer, IsName name)
    (nonempty : inner ≠ []) (legal : ∀ name ∈ inner, IsName name) :
    Spells outer inner (ofNames (outer ++ inner)) := by
  refine ⟨outer.map fun name => (name.toList, true), [], ?_, ?_, fun _ impossible => by cases impossible⟩
  · rw [markedParts_ofNames (by simp [nonempty]), List.map_append, List.append_nil]
    intro name member
    exact (List.mem_append.mp member).elim (outerLegal name) (legal name)
  · rw [namesOf, List.filter_eq_self.mpr, List.map_map]
    · exact (List.map_congr_left fun name _ => String.ofList_toList).trans (List.map_id _)
    · intro part member
      rcases List.mem_map.mp member with ⟨name, _, rfl⟩
      rfl

theorem unescaped_of_ofNames (plain : '\\' ∉ (ofNames names).text.toList) :
    FileJob.Unescaped names := by
  intro name member inside
  apply plain
  rw [toList_ofNames]
  exact List.mem_cons_of_mem _
    (Text.mem_joinWithMark_of_mem (List.mem_map_of_mem member) inside)

end Below

end Path

namespace FileJob

open SourceHarvest.Path

variable {outer inner : List String} {path : Path}

/-- Where a path has no backslash, its relative path is what is left of it, as it is. -/
theorem relativePath_of_unescaped {root : Path} (plain : '\\' ∉ path.text.toList) :
    relativePath root path = ((root.below? path).getD path).text := by
  have kept : '\\' ∉ ((root.below? path).getD path).text.toList := by
    cases found : root.below? path with
    | none => exact plain
    | some left => exact fun inside => plain (mem_text_of_below? found (by decide) inside)
  have same : (((root.below? path).getD path).text.toList.map fun c => if c = '\\' then '/' else c) =
      ((root.below? path).getD path).text.toList := by
    refine (List.map_congr_left fun c member => if_neg ?_).trans (List.map_id _)
    rintro rfl
    exact kept member
  rw [relativePath, same, String.ofList_toList]

/-- An absolute path has the relative path of a file exactly if it is spelled like the file. -/
theorem relativePath_eq_iff_spells (outerLegal : ∀ name ∈ outer, IsName name) (nonempty : inner ≠ [])
    (legal : ∀ name ∈ inner, IsName name) (unescaped : Unescaped inner)
    (absolute : path.isAbsolute = true) (plain : '\\' ∉ path.text.toList) :
    relativePath (ofNames outer) path = relativePath (ofNames outer) (ofNames (outer ++ inner)) ↔
      Spells outer inner path := by
  rw [relativePath_below outerLegal legal unescaped, relativePath_of_unescaped plain]
  have below : (ofNames outer).below? path = some ⟨textBelow inner⟩ ↔ _ :=
    below?_eq_some_iff nonempty legal
  rw [isAbsolute_ofNames, absolute, names_ofNames outerLegal, and_iff_right rfl] at below
  rw [← below]
  cases found : (ofNames outer).below? path with
  | none =>
      refine ⟨fun same => ?_, fun found => absurd found.symm (Option.some_ne_none _)⟩
      have slash : path.text.toList.head? = some '/' := by simpa [isAbsolute] using absolute
      rw [Option.getD_none] at same
      rw [same] at slash
      exact absurd slash (head?_textBelow legal)
  | some left =>
      rw [Option.getD_some, Option.some.injEq]
      exact ⟨fun same => congrArg Path.mk same, fun same => congrArg Path.text same⟩

end FileJob

end SourceHarvest
