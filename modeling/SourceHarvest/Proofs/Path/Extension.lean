import SourceHarvest.FileTree.Resolve
import SourceHarvest.Proofs.Path.Backslashes

/-!
# Paths with another extension

A path with another extension in place of its own has the same parts up to its last name.  As many
characters are cut off the end of the path as the extension has.  Parts that name nothing can stand at
that end, so it may be less than the extension that goes.  And a name of two dots may be left, which
stays then.
-/

namespace SourceHarvest.Path

/-! ## Cutting names at dots -/

section Dots

variable {name stem suffix : List Char}

/-- A name is cut at its last dot, if something stands before it. -/
theorem cutAtDot_append (filled : stem ≠ []) (plain : '.' ∉ suffix) :
    cutAtDot (stem ++ '.' :: suffix) = (stem, some suffix) := by
  have taken : (stem ++ '.' :: suffix).reverse.takeWhile (· != '.') = suffix.reverse := by
    rw [List.reverse_append, List.reverse_cons, List.append_assoc, List.singleton_append,
      List.takeWhile_append_of_pos]
    · simp
    · intro c member
      have other : c ≠ '.' := fun same => plain (same ▸ List.mem_reverse.mp member)
      simpa using other
  have length : (stem ++ '.' :: suffix).length - suffix.length - 1 = stem.length := by
    rw [List.length_append, List.length_cons]
    omega
  simp only [cutAtDot, taken, List.reverse_reverse, length, List.take_left]
  rw [if_pos ⟨by rw [List.length_append, List.length_cons]; omega, filled⟩]

/-- A name has no extension, or it is what stands before its last dot, the dot and the extension. -/
theorem cutAtDot_cases (name : List Char) :
    cutAtDot name = (name, none) ∨ ∃ stem suffix, stem ≠ [] ∧ '.' ∉ suffix ∧
      name = stem ++ '.' :: suffix ∧ cutAtDot name = (stem, some suffix) := by
  by_cases dotted : ∃ stem suffix, stem ≠ [] ∧ '.' ∉ suffix ∧ name = stem ++ '.' :: suffix
  · obtain ⟨stem, suffix, filled, plain, rfl⟩ := dotted
    exact .inr ⟨stem, suffix, filled, plain, rfl, cutAtDot_append filled plain⟩
  · left
    rw [cutAtDot, if_neg]
    rintro ⟨shorter, filled⟩
    -- The characters behind the last dot are fewer than all, so there is a dot before them.
    have whole : name.rdropWhile (· != '.') ++ name.rtakeWhile (· != '.') = name :=
      List.rdropWhile_append_rtakeWhile
    have front : name.rdropWhile (· != '.') ≠ [] := by
      intro none
      rw [none, List.nil_append] at whole
      exact absurd shorter (by rw [← List.rtakeWhile, whole]; exact lt_irrefl _)
    have dot : (name.rdropWhile (· != '.')).getLast front = '.' := by
      simpa using List.rdropWhile_last_not (· != '.') name front
    have opened := List.dropLast_append_getLast front
    rw [dot] at opened
    rw [← opened, List.append_assoc, List.singleton_append] at whole
    refine dotted ⟨_, _, fun none => filled ?_, fun member => ?_, whole.symm⟩
    · have lengths := congrArg List.length whole
      rw [List.length_append, List.length_cons, none, List.length_nil] at lengths
      rw [← List.rtakeWhile, List.take_eq_nil_iff]
      omega
    · have plain := List.mem_takeWhile_imp (List.mem_reverse.mp member)
      simp at plain

end Dots

/-! ## Paths of parts -/

/-- The path with given parts, after the slash of an absolute path. -/
def ofParts (absolute : Bool) (parts : List (List Char)) : Path :=
  ⟨String.ofList ((if absolute then ['/'] else []) ++ Text.joinWithMark '/' parts)⟩

/-- Parts with the mark whether each of them counts as a name. -/
def markParts (absolute : Bool) : List (List Char) → List (List Char × Bool)
  | [] => []
  | first :: rest =>
      (first, if absolute then !isVoid first else first != []) ::
        rest.map fun part => (part, !isVoid part)

theorem markedParts_eq (path : Path) : path.markedParts = markParts path.isAbsolute path.parts := by
  rw [markedParts]
  split <;> (rename_i parted; rw [parted]; rfl)

theorem markParts_fst (absolute : Bool) (parts : List (List Char)) :
    (markParts absolute parts).map (·.1) = parts := by
  cases parts with
  | nil => rfl
  | cons first rest =>
      rw [markParts, List.map_cons, List.map_map]
      exact congrArg _ (List.map_id rest)

/-- Parts that a path can have: there is no slash in them, and a relative path has no empty part in
front of others. -/
structure Parted (absolute : Bool) (parts : List (List Char)) : Prop where
  filled : parts ≠ []
  free : ∀ part ∈ parts, '/' ∉ part
  relative : absolute = false → ∀ rest, parts = [] :: rest → rest = []

section Parts

variable {absolute : Bool} {parts before voids after : List (List Char)} {name other : List Char}
  {path : Path}

/-- Joined parts start with a slash exactly if an empty one stands in front of others. -/
theorem head?_joinWithMark (free : ∀ part ∈ parts, '/' ∉ part) :
    (Text.joinWithMark '/' parts).head? = some '/' ↔ ∃ rest, parts = [] :: rest ∧ rest ≠ [] := by
  rcases parts with _ | ⟨first, _ | ⟨next, more⟩⟩
  · simp [Text.joinWithMark]
  · have plain := free first List.mem_cons_self
    cases first with
    | nil => simp [Text.joinWithMark]
    | cons c tail =>
        have other : c ≠ '/' := fun same => plain (same ▸ List.mem_cons_self)
        simpa [Text.joinWithMark] using other
  · have plain := free first List.mem_cons_self
    rw [Text.joinWithMark_cons_cons]
    cases first with
    | nil => simp
    | cons c tail =>
        have other : c ≠ '/' := fun same => plain (same ▸ List.mem_cons_self)
        simpa using other

/-- The parts of an absolute path are those behind its first slash. -/
theorem parts_cases (path : Path) :
    (∃ rest, path.text.toList = '/' :: rest ∧ path.isAbsolute = true ∧
      path.parts = Text.splitAtMark '/' rest) ∨
    (path.text.toList.head? ≠ some '/' ∧ path.isAbsolute = false ∧
      path.parts = Text.splitAtMark '/' path.text.toList) := by
  rw [isAbsolute, Path.parts]
  split
  · rename_i rest text
    exact .inl ⟨rest, text, by rw [text]; rfl, rfl⟩
  · rename_i relative
    have unlike : path.text.toList.head? ≠ some '/' := by
      intro slash
      obtain ⟨rest, text⟩ := List.head?_eq_some_iff.mp slash
      exact relative rest text
    exact .inr ⟨unlike, beq_eq_false_iff_ne.mpr unlike, rfl⟩

/-- A path is made of its parts. -/
theorem ofParts_parts (path : Path) :
    Parted path.isAbsolute path.parts ∧ ofParts path.isAbsolute path.parts = path := by
  have whole : (⟨String.ofList path.text.toList⟩ : Path) = path := by rw [String.ofList_toList]
  rcases parts_cases path with ⟨rest, text, absolute, parts⟩ | ⟨unlike, relative, parts⟩
  · rw [absolute, parts, ofParts, Text.joinWithMark_splitAtMark]
    rw [text] at whole
    exact ⟨⟨Text.splitAtMark_ne_nil _ _, fun _ => Text.not_mem_of_mem_splitAtMark, by simp⟩, whole⟩
  · rw [relative, parts, ofParts, Text.joinWithMark_splitAtMark]
    refine ⟨⟨Text.splitAtMark_ne_nil _ _, fun _ => Text.not_mem_of_mem_splitAtMark,
      fun _ rest opened => by_contra fun more => unlike ?_⟩, whole⟩
    have slash := (head?_joinWithMark fun _ => Text.not_mem_of_mem_splitAtMark).mpr ⟨rest, opened, more⟩
    rwa [Text.joinWithMark_splitAtMark] at slash

/-- The parts of a path show again. -/
theorem Parted.ofParts_spec (parted : Parted absolute parts) :
    (ofParts absolute parts).isAbsolute = absolute ∧ (ofParts absolute parts).parts = parts := by
  have split := Text.splitAtMark_joinWithMark parted.filled parted.free
  cases absolute with
  | true =>
      have text : (ofParts true parts).text.toList = '/' :: Text.joinWithMark '/' parts := by
        rw [ofParts, String.toList_ofList]
        rfl
      rw [isAbsolute, Path.parts, text]
      exact ⟨rfl, split⟩
  | false =>
      have text : (ofParts false parts).text.toList = Text.joinWithMark '/' parts := by
        rw [ofParts, String.toList_ofList]
        rfl
      have unlike : (Text.joinWithMark '/' parts).head? ≠ some '/' := by
        rw [ne_eq, head?_joinWithMark parted.free]
        rintro ⟨rest, opened, more⟩
        exact more (parted.relative rfl rest opened)
      rw [isAbsolute, Path.parts, text]
      refine ⟨beq_eq_false_iff_ne.mpr unlike, ?_⟩
      split
      · rename_i rest slash
        rw [slash] at unlike
        exact absurd rfl unlike
      · exact split

/-- Other parts can stand behind the start of the parts of a path. -/
theorem Parted.replace (parted : Parted absolute (before ++ name :: voids)) (filled : other ≠ [])
    (free : ∀ part ∈ other :: after, '/' ∉ part) : Parted absolute (before ++ other :: after) := by
  refine ⟨by simp, fun part member => ?_, fun relative rest opened => ?_⟩
  · rcases List.mem_append.mp member with inside | inside
    · exact parted.free part (List.mem_append_left _ inside)
    · exact free part inside
  · cases before with
    | nil => exact absurd (List.cons.inj opened).1 filled
    | cons first further =>
        have empty : first = [] := (List.cons.inj opened).1
        have none := parted.relative relative (further ++ name :: voids) (by rw [empty, List.cons_append])
        exact absurd none (by simp)

/-- Where the marks of parts are known, so are those of the parts before a proper name. -/
theorem markParts_append (proper : isVoid name = false) (void : ∀ part ∈ voids, isVoid part = true) :
    markParts absolute (before ++ name :: voids) =
      markParts absolute before ++ (name, true) :: voids.map fun part => (part, false) := by
  have behind : (voids.map fun part => (part, !isVoid part)) = voids.map fun part => (part, false) :=
    List.map_congr_left fun part member => by rw [void part member]; rfl
  have filled : name ≠ [] := by
    rintro rfl
    cases proper
  cases before with
  | nil => simp [markParts, behind, proper, filled]
  | cons first rest => simp [markParts, behind, proper]

/-- The last name of a path is the last part that is a name. -/
theorem names_of_parts (parted : path.parts = before ++ name :: voids) (proper : isVoid name = false)
    (void : ∀ part ∈ voids, isVoid part = true) :
    path.names = namesOf (markParts path.isAbsolute before) ++ [String.ofList name] := by
  have nothing : namesOf (voids.map fun part => (part, false)) = [] := by
    rw [namesOf_eq_nil_iff]
    intro part member
    obtain ⟨_, _, rfl⟩ := List.mem_map.mp member
    rfl
  have whole : path.names = namesOf (markParts path.isAbsolute path.parts) := by
    rw [← markedParts_eq]
    rfl
  rw [whole, parted, markParts_append proper void, namesOf_append]
  congr 1
  rw [← List.singleton_append, namesOf_append, nothing, List.append_nil]
  rfl

/-- The last name among parts stands before parts that are no names. -/
theorem exists_of_getLast?_namesOf {marked : List (List Char × Bool)} {found : String}
    (last : (namesOf marked).getLast? = some found) :
    ∃ before after, marked = before ++ (found.toList, true) :: after ∧ ∀ part ∈ after, part.2 = false := by
  induction marked using List.reverseRecOn with
  | nil => cases last
  | append_singleton rest part inductionHypothesis =>
      rcases part with ⟨part, named⟩
      rw [namesOf_append] at last
      cases named with
      | true =>
          have same : (namesOf rest ++ [String.ofList part]).getLast? = some found := last
          rw [List.getLast?_concat] at same
          obtain rfl := Option.some.inj same
          exact ⟨rest, [], by rw [String.toList_ofList], fun _ impossible => by cases impossible⟩
      | false =>
          have same : namesOf rest ++ namesOf [(part, false)] = namesOf rest := List.append_nil _
          rw [same] at last
          obtain ⟨before, after, rfl, void⟩ := inductionHypothesis last
          refine ⟨before, after ++ [(part, false)], by simp, fun other member => ?_⟩
          rcases List.mem_append.mp member with inside | here
          · exact void other inside
          · rw [List.mem_singleton.mp here]

/-- A part is marked as a name if it is not void, or a dot in front. -/
theorem mem_markParts {part : List Char × Bool} (member : part ∈ markParts absolute parts) :
    (part.2 = true → isVoid part.1 = false ∨ part.1 = ['.']) ∧ (part.2 = false → isVoid part.1 = true) := by
  cases parts with
  | nil => cases member
  | cons first rest =>
      rcases List.mem_cons.mp member with rfl | inside
      · cases absolute with
        | true => exact ⟨fun proper => .inl (by simpa using proper), fun void => by simpa using void⟩
        | false =>
            constructor
            · intro filled
              by_cases dot : first = ['.']
              · exact .inr dot
              · left
                simpa [isVoid, dot] using filled
            · intro blank
              have empty : first = [] := by simpa using blank
              simp [isVoid, empty]
      · obtain ⟨other, _, rfl⟩ := List.mem_map.mp inside
        exact ⟨fun proper => .inl (by simpa using proper), fun void => by simpa using void⟩

/-- The file name of a path stands behind its other names, and before parts that name nothing. -/
theorem exists_parts_of_fileName? {found : String} (named : path.fileName? = some found) :
    ∃ before voids, path.parts = before ++ found.toList :: voids ∧ isVoid found.toList = false ∧
      found.toList ≠ ['.', '.'] ∧ ∀ part ∈ voids, isVoid part = true := by
  rw [fileName?] at named
  split at named
  · rename_i name last
    split at named
    · cases named
    · rename_i proper
      obtain rfl := Option.some.inj named
      have shown : (namesOf path.markedParts).getLast? = some name := last
      obtain ⟨before, after, marked, void⟩ := exists_of_getLast?_namesOf shown
      rw [markedParts_eq] at marked
      have inside {part : List Char × Bool} (member : part ∈ before ++ (name.toList, true) :: after) :=
        mem_markParts (marked ▸ member)
      refine ⟨before.map (·.1), after.map (·.1), ?_, ?_,
        fun dots => proper (.inl (String.toList_inj.mp dots)), ?_⟩
      · rw [← markParts_fst path.isAbsolute path.parts, marked, List.map_append, List.map_cons]
      · have member : (name.toList, true) ∈ before ++ (name.toList, true) :: after := by simp
        refine ((inside member).1 rfl).resolve_right fun dot => proper (.inr ?_)
        exact String.toList_inj.mp dot
      · intro part member
        obtain ⟨held, there, rfl⟩ := List.mem_map.mp member
        exact (inside (by simp [there])).2 (void held there)
  · cases named

/-! ## The end of a path -/

theorem isVoid_iff {part : List Char} : isVoid part = true ↔ part = [] ∨ part = ['.'] := by
  simp [isVoid]

theorem isVoid_take {part : List Char} (void : isVoid part = true) (count : Nat) :
    isVoid (part.take count) = true := by
  rcases isVoid_iff.mp void with rfl | rfl <;> cases count <;> simp [isVoid]

/-- Parts are joined with a slash before the last one of them. -/
theorem joinWithMark_concat (filled : parts ≠ []) (last : List Char) :
    Text.joinWithMark '/' (parts ++ [last]) = Text.joinWithMark '/' parts ++ '/' :: last := by
  rw [Text.joinWithMark_append filled (List.cons_ne_nil _ _)]
  simp [Text.joinWithMark]

/-- What stands before the last one of joined parts does not depend on it. -/
theorem exists_joinWithMark_concat (before : List (List Char)) : ∃ opening, ∀ last : List Char,
    Text.joinWithMark '/' (before ++ [last]) = opening ++ last := by
  by_cases none : before = []
  · exact ⟨[], fun last => by simp [none, Text.joinWithMark]⟩
  · refine ⟨Text.joinWithMark '/' before ++ ['/'], fun last => ?_⟩
    rw [joinWithMark_concat none, List.append_assoc, List.singleton_append]

/-- Characters that are cut off the end of joined parts come from the parts behind the last name, and
then from that name. -/
theorem exists_take_joinWithMark (before : List (List Char)) {count : Nat} (few : count ≤ name.length)
    (void : ∀ part ∈ voids, isVoid part = true) :
    ∃ shortened less, (∀ part ∈ less, isVoid part = true) ∧ (voids = [] → less = []) ∧
      shortened <+: name ∧ name.length ≤ shortened.length + count ∧
      count ≤ (Text.joinWithMark '/' (before ++ name :: voids)).length ∧
      (Text.joinWithMark '/' (before ++ name :: voids)).take
        ((Text.joinWithMark '/' (before ++ name :: voids)).length - count) =
        Text.joinWithMark '/' (before ++ shortened :: less) := by
  induction voids using List.reverseRecOn generalizing count with
  | nil =>
      obtain ⟨opening, joined⟩ := exists_joinWithMark_concat before
      refine ⟨name.take (name.length - count), [], fun _ impossible => (by cases impossible),
        fun _ => rfl, List.take_prefix _ _, ?_, ?_, ?_⟩
      · rw [List.length_take]
        omega
      · rw [joined, List.length_append]
        omega
      · rw [joined, joined, List.length_append, Nat.add_sub_assoc few, List.take_length_add_append]
  | append_singleton others last inductionHypothesis =>
      have others_void : ∀ part ∈ others, isVoid part = true := fun part member =>
        void part (List.mem_append_left _ member)
      rw [← List.cons_append, ← List.append_assoc, joinWithMark_concat (by simp), List.length_append,
        List.length_cons]
      by_cases inside : count ≤ last.length
      · refine ⟨name, others ++ [last.take (last.length - count)], ?_, by simp, List.prefix_rfl,
          by omega, by omega, ?_⟩
        · intro part member
          rcases List.mem_append.mp member with old | new
          · exact others_void part old
          · rw [List.mem_singleton.mp new]
            exact isVoid_take (void last (by simp)) _
        · rw [← List.cons_append, ← List.append_assoc, joinWithMark_concat (by simp),
            Nat.add_sub_assoc (by omega),
            List.take_length_add_append, Nat.sub_add_comm inside, List.take_succ_cons]
      · obtain ⟨shortened, less, lessVoid, _, start, long, fits, taken⟩ :=
          inductionHypothesis (by omega : count - (last.length + 1) ≤ name.length) others_void
        refine ⟨shortened, less, lessVoid, by simp, start, by omega, by omega, ?_⟩
        rw [List.take_append_of_le_length (by omega), ← taken]
        congr 1
        omega

section Names

variable (parted : path.parts = before ++ name :: voids) (proper : isVoid name = false)
  (void : ∀ part ∈ voids, isVoid part = true)

include parted proper void

theorem fileName?_of_parts :
    path.fileName? = if name = ['.', '.'] then none else some (String.ofList name) := by
  have last : path.names.getLast? = some (String.ofList name) := by
    rw [names_of_parts parted proper void, List.getLast?_concat]
  have notDot : String.ofList name ≠ "." := by
    intro dot
    obtain rfl : name = ['.'] := String.ofList_inj.mp dot
    cases proper
  have dots : String.ofList name = ".." ↔ name = ['.', '.'] := String.ofList_inj
  rw [fileName?, last]
  simp only [notDot, or_false, dots]

/-- The path without as many characters at its end as the extension of its last name has. -/
theorem withoutExtension_spec (forth : name ≠ ['.', '.']) :
    ∃ shortened less, path.withoutExtension =
        ofParts path.isAbsolute (before ++ shortened :: less) ∧
      (∀ part ∈ less, isVoid part = true) ∧ (voids = [] → less = []) ∧
      (cutAtDot shortened).1 = (cutAtDot name).1 ∧ '/' ∉ shortened ∧ isVoid shortened = false := by
  obtain ⟨split, whole⟩ := ofParts_parts path
  rw [parted] at split whole
  have free : '/' ∉ name := split.free name (by simp)
  have extension : path.extension? = (cutAtDot name).2.map String.ofList := by
    rw [extension?, fileName?_of_parts parted proper void, if_neg forth, Option.bind_some,
      String.toList_ofList]
  rcases cutAtDot_cases name with uncut | ⟨stem, suffix, filled, plain, rfl, cut⟩
  · refine ⟨name, voids, ?_, void, id, rfl, free, proper⟩
    rw [withoutExtension, extension, uncut, whole]
    simp
  · obtain ⟨shortened, less, lessVoid, ended, ⟨rest, start⟩, long, fits, taken⟩ :=
      exists_take_joinWithMark before (by rw [List.length_append, List.length_cons]; omega :
        suffix.length ≤ (stem ++ '.' :: suffix).length) void
    -- The dot is still there, as only the suffix can be gone.
    obtain ⟨left, rfl⟩ : ∃ left, shortened = stem ++ '.' :: left := by
      rw [List.append_cons] at start
      obtain ⟨left, same⟩ := List.prefix_of_prefix_length_le (List.prefix_append (stem ++ ['.']) suffix)
        ⟨rest, start⟩ (by rw [List.length_append, List.length_cons] at long ⊢; simp; omega)
      exact ⟨left, by rw [← same, List.append_assoc, List.singleton_append]⟩
    have behind : left ++ rest = suffix := by
      rw [List.append_assoc, List.cons_append] at start
      exact (List.cons.inj (List.append_cancel_left start)).2
    have length : ((path.extension?.map String.toList).getD []).length = suffix.length := by
      rw [extension, cut, Option.map_some, Option.map_some, String.toList_ofList, Option.getD_some]
    refine ⟨stem ++ '.' :: left, less, ?_, lessVoid, ended, ?_, ?_, ?_⟩
    · have text := congrArg (fun path => path.text.toList) whole
      simp only [ofParts, String.toList_ofList] at text
      rw [withoutExtension, length, ← text, List.length_append, Nat.add_sub_assoc fits,
        List.take_length_add_append, taken]
      rfl
    · rw [cut, cutAtDot_append filled fun member => plain (behind ▸ List.mem_append_left _ member)]
    · intro member
      rw [← start] at free
      exact free (List.mem_append_left _ member)
    · cases stem with
      | nil => exact absurd rfl filled
      | cons c more => cases more <;> simp [isVoid]

end Names

/-- A name with a dot in its extension is another name than one whose extension has none. -/
theorem cutAtDot_fst_append_ne {extension : List Char} (dotted : '.' ∈ extension) :
    (cutAtDot name).1 ++ '.' :: extension ≠ name := by
  intro same
  rcases cutAtDot_cases name with uncut | ⟨stem, suffix, _, plain, whole, cut⟩
  · rw [uncut] at same
    have lengths := congrArg List.length same
    simp at lengths
  · rw [cut, whole] at same
    exact plain ((List.cons.inj (List.append_cancel_left same)).2 ▸ dotted)

theorem not_mem_cutAtDot_fst {c : Char} (free : c ∉ name) : c ∉ (cutAtDot name).1 := by
  rcases cutAtDot_cases name with uncut | ⟨stem, suffix, _, _, rfl, cut⟩
  · rwa [uncut]
  · rw [cut]
    exact fun member => free (List.mem_append_left _ member)

/-- A path without extension that has no file name is all that there is with another extension. -/
theorem withExtension_of_fileName?_none (unnamed : path.withoutExtension.fileName? = none)
    (extension : String) : path.withExtension extension = path.withoutExtension := by
  unfold withExtension
  simp only [unnamed]

/-- The last name of a path without extension gives way to its stem with the other extension. -/
theorem withExtension_of_parts (parted : path.withoutExtension.parts = before ++ name :: voids)
    (proper : isVoid name = false) (void : ∀ part ∈ voids, isVoid part = true)
    (forth : name ≠ ['.', '.']) (extension : String) :
    path.withExtension extension = ofParts path.withoutExtension.isAbsolute
      (before ++ [(cutAtDot name).1 ++ '.' :: extension.toList]) := by
  have named := fileName?_of_parts parted proper void
  rw [if_neg forth] at named
  have front : (dropVoidEnd path.withoutExtension.markedParts).dropLast =
      markParts path.withoutExtension.isAbsolute before := by
    have ending : dropVoidEnd (markParts path.withoutExtension.isAbsolute before ++ [(name, true)]) =
        markParts path.withoutExtension.isAbsolute before ++ [(name, true)] :=
      List.rdropWhile_concat_neg _ _ _ (by simp)
    rw [markedParts_eq, parted, markParts_append proper void, List.append_cons, dropVoidEnd_append,
      ending, List.dropLast_concat]
    intro part member
    obtain ⟨_, _, rfl⟩ := List.mem_map.mp member
    rfl
  unfold withExtension
  simp only [named, front, String.toList_ofList, ofMarked, List.map_append, markParts_fst, List.map_cons,
    List.map_nil, ofParts]

/-- With another extension, one with a dot in it, a path keeps all but its last name, which becomes
another name. -/
theorem withExtension_spec (parted : path.parts = before ++ name :: voids)
    (proper : isVoid name = false) (void : ∀ part ∈ voids, isVoid part = true)
    (forth : name ≠ ['.', '.']) {extension : String} (dotted : '.' ∈ extension.toList)
    (plain : '/' ∉ extension.toList) :
    (path.withExtension extension).isAbsolute = path.isAbsolute ∧
    ∃ other less, (path.withExtension extension).parts = before ++ other :: less ∧
      (∀ part ∈ less, isVoid part = true) ∧ (voids = [] → less = []) ∧ isVoid other = false ∧
      other ≠ name := by
  obtain ⟨shortened, less, cut, lessVoid, ended, stem, free, shortProper⟩ :=
    withoutExtension_spec parted proper void forth
  have split := (ofParts_parts path).1
  rw [parted] at split
  have filled : shortened ≠ [] := by
    rintro rfl
    cases shortProper
  have freeLess : ∀ part ∈ shortened :: less, '/' ∉ part := by
    intro part member
    rcases List.mem_cons.mp member with rfl | behind
    · exact free
    · rcases isVoid_iff.mp (lessVoid part behind) with rfl | rfl <;> simp
  have parts := (split.replace filled freeLess).ofParts_spec
  rw [← cut] at parts
  by_cases dots : shortened = ['.', '.']
  · have unnamed := fileName?_of_parts parts.2 shortProper lessVoid
    rw [if_pos dots] at unnamed
    rw [withExtension_of_fileName?_none unnamed]
    exact ⟨parts.1, shortened, less, parts.2, lessVoid, ended, shortProper,
      fun same => forth (same ▸ dots)⟩
  · have extended := withExtension_of_parts parts.2 shortProper lessVoid dots extension
    rw [stem, parts.1] at extended
    have slashless : ∀ part ∈ [(cutAtDot name).1 ++ '.' :: extension.toList], '/' ∉ part := by
      have first := not_mem_cutAtDot_fst (split.free name (by simp))
      simpa using ⟨first, plain⟩
    have again := (split.replace (by simp) slashless).ofParts_spec
    rw [← extended] at again
    refine ⟨again.1, _, [], again.2, by simp, fun _ => rfl, ?_, cutAtDot_fst_append_ne dotted⟩
    have long : extension.toList ≠ [] := List.ne_nil_of_mem dotted
    simp [isVoid, List.append_eq_cons_iff, long]

/-- A path with another extension, one with a dot in it, is another path. -/
theorem names_withExtension_ne (named : path.fileName? ≠ none) {extension : String}
    (dotted : '.' ∈ extension.toList) (plain : '/' ∉ extension.toList) :
    (path.withExtension extension).names ≠ path.names := by
  obtain ⟨found, known⟩ := Option.ne_none_iff_exists'.mp named
  obtain ⟨before, voids, parted, proper, forth, void⟩ := exists_parts_of_fileName? known
  obtain ⟨absolute, other, less, otherParted, lessVoid, _, otherProper, distinct⟩ :=
    withExtension_spec parted proper void forth dotted plain
  rw [names_of_parts parted proper void, names_of_parts otherParted otherProper lessVoid, absolute]
  intro same
  exact distinct (String.ofList_inj.mp (List.singleton_inj.mp (List.append_cancel_left same)))

end Parts

end SourceHarvest.Path

namespace SourceHarvest.FileTree

open SourceHarvest.Path

variable {path : Path}

theorem splitAtMark_text (path : Path) : Text.splitAtMark '/' path.text.toList =
    if path.isAbsolute then [] :: path.parts else path.parts := by
  rcases parts_cases path with ⟨rest, text, absolute, parts⟩ | ⟨_, relative, parts⟩
  · rw [text, absolute, parts, Text.splitAtMark, if_pos rfl, if_pos rfl]
  · rw [relative, parts, if_neg Bool.false_ne_true]

/-- The last step of a path is its last part, if it is a name. -/
theorem steps_of_parts {before : List (List Char)} {name : List Char}
    (parted : path.parts = before ++ [name]) (filled : name ≠ []) :
    steps path = ((before.map String.ofList).filter (· != "")) ++ [String.ofList name] := by
  have named : String.ofList name ≠ "" := fun blank => filled (String.ofList_inj.mp blank)
  have split : ∃ front, (Text.splitAtMark '/' path.text.toList).map String.ofList =
      front ++ [String.ofList name] ∧
        front.filter (· != "") = (before.map String.ofList).filter (· != "") := by
    rw [splitAtMark_text, parted]
    split
    · exact ⟨"" :: before.map String.ofList, by simp, by simp⟩
    · exact ⟨before.map String.ofList, by simp, rfl⟩
  obtain ⟨front, whole, same⟩ := split
  simp only [steps, whole, List.getLast?_concat, Option.some.injEq, named, if_false, List.filter_append, same]
  simp [named]

theorem exists_parts_of_steps {step : String} (last : (steps path).getLast? = some step)
    (filled : step ≠ "") : ∃ before, path.parts = before ++ [step.toList] := by
  have nonempty := (ofParts_parts path).1.filled
  have parted := List.dropLast_append_getLast nonempty
  by_cases blank : path.parts.getLast nonempty = []
  · -- Behind the last slash there is a step to the directory itself.
    have ended : ((Text.splitAtMark '/' path.text.toList).map String.ofList).getLast? = some "" := by
      rw [splitAtMark_text, ← parted, blank]
      split <;> simp [List.getLast?_cons]
    simp only [steps, if_pos ended, List.getLast?_concat, Option.some.injEq] at last
    exact absurd last.symm filled
  · rw [steps_of_parts parted.symm blank, List.getLast?_concat] at last
    rw [← Option.some.inj last, String.toList_ofList]
    exact ⟨_, parted.symm⟩

end SourceHarvest.FileTree
