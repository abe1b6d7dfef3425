import SourceHarvest.Proofs.Discovery
import Mathlib.Data.String.Basic

/-!
# Eligible files

A file below a root is eligible if its name is wanted and a walk from the root may come to it:
no directory between the two has an excluded name, and the standard filter lets every entry on
the way pass.  Discovery finds the eligible files that lie deep enough and no others, in the
order of their names.
-/

namespace SourceHarvest

namespace Path

theorem names_of_isName {name : String} (legal : IsName name) : (⟨name⟩ : Path).names = [name] := by
  have unslashed : (⟨name⟩ : Path).parts = [name.toList] := by
    rw [parts]
    split
    · rename_i rest text
      exact absurd (text ▸ List.mem_cons_self) legal.1
    · exact Text.splitAtMark_of_not_mem legal.1
  have relative : (⟨name⟩ : Path).isAbsolute = false := by
    rw [isAbsolute, beq_eq_false_iff_ne]
    intro head
    exact legal.1 (List.mem_of_mem_head? head)
  have filled : name.toList ≠ [] := fun blank => legal.2.1 (String.toList_inj.mp blank)
  simp [names, markedParts, unslashed, relative, filled]

/-- The extension of a path is that of its last name. -/
theorem extension?_ofNames {around : Location} {name : String}
    (legal : ∀ part ∈ around ++ [name], IsName part) :
    (ofNames (around ++ [name])).extension? = (⟨name⟩ : Path).extension? := by
  have last : IsName name := legal name (List.mem_append_right _ List.mem_cons_self)
  rw [extension?, extension?, fileName?, fileName?, names_ofNames legal, names_of_isName last,
    List.getLast?_concat]
  rfl

end Path

namespace Ignore.Scope

theorem around_append_singleton (tree : FileTree) (here : Location) (name : String) :
    around tree (here ++ [name]) = ofDirectory tree (here ++ [name]) :: around tree here := by
  rw [around, around, List.length_append, List.length_singleton, List.range_succ,
    List.reverse_append, List.reverse_singleton, List.singleton_append, List.map_cons]
  congr 1
  · rw [List.take_of_length_le (by simp)]
  · apply List.map_congr_left
    intro length member
    have inside : length < here.length + 1 := List.mem_range.mp (List.mem_reverse.mp member)
    rw [List.take_append_of_le_length (Nat.le_of_lt_succ inside)]

end Ignore.Scope

namespace Discovery

variable {discovery : Discovery} {tree : FileTree}

/-- The standard filter lets an entry pass: by the ignore files around it, and by its name where
they are silent. -/
def passes (discovery : Discovery) (tree : FileTree) (location : Location) : Bool :=
  Ignore.Scope.admits (.load tree discovery.personalFile)
    (Ignore.Scope.around tree location.dropLast) location (tree.way location = .onward)

/-- The names below a root lead to a file that is wanted and that a walk may come to. -/
structure Eligible (discovery : Discovery) (tree : FileTree) (root below : Location) : Prop where
  file : ∃ content modified, tree.get? (root ++ below) = some (.file content modified)
  wanted : ∃ extension, (Path.ofNames (root ++ below)).extension? = some extension ∧
    ∃ given ∈ discovery.extensions, Text.lowercase extension = Path.plainExtension given
  entered : ∀ name ∈ below.dropLast, name ∉ discovery.excludedNames
  passed : ∀ part, part ≠ [] → part <+: below → discovery.passes tree (root ++ part)

section Step

variable {here rest : Location} {name : String}

theorem wantsName_iff (legal : ∀ part ∈ here ++ [name], Path.IsName part) :
    discovery.wantsName name = true ↔
      ∃ extension, (Path.ofNames (here ++ [name])).extension? = some extension ∧
        ∃ given ∈ discovery.extensions, Text.lowercase extension = Path.plainExtension given := by
  rw [Path.extension?_ofNames legal, wantsName]
  cases (⟨name⟩ : Path).extension? with
  | none => simp
  | some extension => simp [eq_comm]

/-- Below a directory, a file is eligible if it is eligible from there and the directory is
entered. -/
theorem eligible_cons_iff (onward : tree.way (here ++ [name]) = .onward) :
    discovery.Eligible tree here (name :: rest) ↔
      discovery.passes tree (here ++ [name]) = true ∧ name ∉ discovery.excludedNames ∧
        discovery.Eligible tree (here ++ [name]) rest := by
  obtain ⟨time, directory⟩ := FileTree.get?_of_way_onward onward
  have further : ∀ part : Location, here ++ name :: part = here ++ [name] ++ part :=
    fun part => List.append_cons here name part
  have nonempty (held : ∃ content modified,
      tree.get? (here ++ [name] ++ rest) = some (.file content modified)) : rest ≠ [] := by
    rintro rfl
    obtain ⟨content, modified, held⟩ := held
    rw [List.append_nil, directory] at held
    cases held
  constructor
  · rintro ⟨file, wanted, entered, passed⟩
    rw [further] at file wanted
    rw [List.dropLast_cons_of_ne_nil (nonempty file)] at entered
    refine ⟨?_, entered name List.mem_cons_self, file, wanted, ?_, ?_⟩
    · exact passed [name] (List.cons_ne_nil _ _) (List.prefix_append [name] rest)
    · exact fun other member => entered other (List.mem_cons_of_mem _ member)
    · intro part _ inside
      rw [← further]
      exact passed (name :: part) (List.cons_ne_nil _ _) (List.cons_prefix_cons.mpr ⟨rfl, inside⟩)
  · rintro ⟨passes, included, file, wanted, entered, passed⟩
    constructor
    · rwa [further]
    · rwa [further]
    · rw [List.dropLast_cons_of_ne_nil (nonempty file)]
      exact List.forall_mem_cons.mpr ⟨included, entered⟩
    · intro part filled inside
      cases part with
      | nil => exact absurd rfl filled
      | cons first more =>
          obtain ⟨rfl, within⟩ := List.cons_prefix_cons.mp inside
          rw [further]
          by_cases last : more = []
          · rwa [last, List.append_nil]
          · exact passed more last within

/-- Where a file lies, nothing else is eligible, and the file is if its name passes and is
wanted. -/
theorem eligible_cons_iff_of_file {content : ByteArray} {modified : Int} (sound : tree.Sound)
    (held : tree.get? (here ++ [name]) = some (.file content modified)) :
    discovery.Eligible tree here (name :: rest) ↔
      (discovery.passes tree (here ++ [name]) = true ∧ discovery.wantsName name = true) ∧
        rest = [] := by
  rw [wantsName_iff (sound.named_of_get? held)]
  constructor
  · rintro ⟨⟨content, modified, file⟩, wanted, _, passed⟩
    have last : rest = [] := by
      by_contra more
      have blocked : tree.way (here ++ [name]) ≠ .onward := by
        rw [FileTree.way_of_get? held]
        exact Way.ne_onward_of_nowhere rfl
      rw [List.append_cons, sound.nested.get?_below (List.prefix_append _ _) (by simpa using more)
        blocked] at file
      cases file
    subst last
    exact ⟨⟨passed [name] (List.cons_ne_nil _ _) (List.prefix_refl _), wanted⟩, rfl⟩
  · rintro ⟨⟨passes, wanted⟩, rfl⟩
    constructor
    · exact ⟨content, modified, held⟩
    · exact wanted
    · simp
    · intro part filled inside
      rcases List.prefix_cons_iff.mp inside with none | ⟨more, rfl, within⟩
      · exact absurd none filled
      · rwa [List.prefix_nil.mp within]

/-- An eligible file is an entry of its directory, or lies below one that is a directory. -/
theorem Eligible.entry (eligible : discovery.Eligible tree here (name :: rest))
    (nested : tree.Nested) :
    (∃ time, tree.get? (here ++ [name]) = some (.directory time)) ∨
      ∃ content modified, tree.get? (here ++ [name]) = some (.file content modified) := by
  cases rest with
  | nil => exact .inr eligible.file
  | cons next more =>
      left
      apply FileTree.get?_of_way_onward
      by_contra blocked
      obtain ⟨content, modified, held⟩ := eligible.file
      rw [List.append_cons, nested.get?_below (List.prefix_append _ _) (by simp) blocked] at held
      cases held

theorem Eligible.ne_nil {below : Location} (eligible : discovery.Eligible tree here below)
    (onward : tree.way here = .onward) : below ≠ [] := by
  rintro rfl
  obtain ⟨time, directory⟩ := FileTree.get?_of_way_onward onward
  obtain ⟨content, modified, held⟩ := eligible.file
  rw [List.append_nil, directory] at held
  cases held

/-- What is collected under a name is eligible and not too deep, if that is so of what is collected
in the directory of this name. -/
theorem mem_collectUnder_iff (sound : tree.Sound) {depth : Nat} {location : Location}
    (inner : tree.way (here ++ [name]) = .onward →
      (location ∈ discovery.collect tree (.load tree discovery.personalFile) depth
          (Ignore.Scope.around tree (here ++ [name])) (here ++ [name]) ↔
        ∃ below, location = here ++ [name] ++ below ∧ below.length ≤ depth ∧
          discovery.Eligible tree (here ++ [name]) below)) :
    location ∈ discovery.collectUnder tree (.load tree discovery.personalFile) depth
        (Ignore.Scope.around tree here) here name ↔
      ∃ rest, location = here ++ name :: rest ∧ rest.length ≤ depth ∧
        discovery.Eligible tree here (name :: rest) := by
  have passes : discovery.passes tree (here ++ [name]) =
      Ignore.Scope.admits (.load tree discovery.personalFile) (Ignore.Scope.around tree here)
        (here ++ [name]) (tree.way (here ++ [name]) = .onward) := by
    rw [Discovery.passes, List.dropLast_concat]
  simp only [collectUnder]
  split
  · rename_i time directory
    have onward : tree.way (here ++ [name]) = .onward := FileTree.way_of_get? directory
    simp only [onward, decide_true] at passes
    simp only [List.append_assoc, List.singleton_append] at inner
    simp only [eligible_cons_iff onward, ← Ignore.Scope.around_append_singleton, ← passes]
    split
    · rename_i entered
      rw [Bool.and_eq_true, Bool.not_eq_true', List.contains_eq_mem, decide_eq_false_iff_not]
        at entered
      rw [inner onward]
      simp only [entered, not_false_eq_true, true_and]
    · rename_i barred
      rw [Bool.and_eq_true, Bool.not_eq_true', List.contains_eq_mem, decide_eq_false_iff_not]
        at barred
      simp only [List.not_mem_nil, false_iff]
      rintro ⟨below, _, _, admitted, included, _⟩
      exact barred ⟨admitted, included⟩
  · rename_i content modified held
    have blocked : ¬ tree.way (here ++ [name]) = .onward := by
      rw [FileTree.way_of_get? held]
      exact Way.ne_onward_of_nowhere rfl
    simp only [blocked, decide_false] at passes
    simp only [eligible_cons_iff_of_file sound held, ← passes, ← Bool.and_eq_true]
    split
    · rename_i taken
      simp [taken]
    · rename_i refused
      simp [refused]
  · rename_i noDirectory noFile
    simp only [List.not_mem_nil, false_iff]
    rintro ⟨rest, _, _, eligible⟩
    rcases eligible.entry sound.nested with ⟨time, held⟩ | ⟨content, modified, held⟩
    · exact noDirectory time held
    · exact noFile content modified held

end Step

/-- Collecting in a directory takes what is eligible and not too deep. -/
theorem mem_collect_iff (sound : tree.Sound) {depth : Nat} {here location : Location}
    (onward : tree.way here = .onward) :
    location ∈ discovery.collect tree (.load tree discovery.personalFile) depth
        (Ignore.Scope.around tree here) here ↔
      ∃ below, location = here ++ below ∧ below.length ≤ depth ∧
        discovery.Eligible tree here below := by
  induction depth generalizing here with
  | zero =>
      simp only [collect, List.not_mem_nil, false_iff]
      rintro ⟨below, _, short, eligible⟩
      exact eligible.ne_nil onward (List.length_eq_zero_iff.mp (Nat.le_zero.mp short))
  | succ depth inductionHypothesis =>
      have under (name : String) :
          location ∈ discovery.collectUnder tree (.load tree discovery.personalFile) depth
              (Ignore.Scope.around tree here) here name ↔
            ∃ rest, location = here ++ name :: rest ∧ rest.length ≤ depth ∧
              discovery.Eligible tree here (name :: rest) :=
        mem_collectUnder_iff sound inductionHypothesis
      rw [collect_succ, List.mem_flatMap]
      constructor
      · rintro ⟨name, _, found⟩
        obtain ⟨rest, same, short, eligible⟩ := (under name).mp found
        exact ⟨name :: rest, same, Nat.succ_le_succ short, eligible⟩
      · rintro ⟨below, same, short, eligible⟩
        cases below with
        | nil => exact absurd rfl (eligible.ne_nil onward)
        | cons name rest =>
            refine ⟨name, ?_,
              (under name).mpr ⟨rest, same, Nat.le_of_succ_le_succ short, eligible⟩⟩
            rw [FileTree.mem_children_iff, List.mem_map]
            have nonempty : here ++ [name] ≠ [] := by simp
            rcases eligible.entry sound.nested with ⟨time, held⟩ | ⟨content, modified, held⟩
            · exact ⟨_, FileTree.mem_of_get? nonempty held, rfl⟩
            · exact ⟨_, FileTree.mem_of_get? nonempty held, rfl⟩

/-! ## The order of what is found -/

/-- Paths with different names ascend by their names once they are put in order. -/
theorem pairwise_inOrder {paths : List Path} (distinct : (paths.map Path.names).Nodup) :
    (inOrder paths).Pairwise fun left right => left.before right = true := by
  have inTurn : (inOrder paths).Pairwise fun left right => (!right.before left) = true := by
    apply List.pairwise_mergeSort
    · intro first second third
      simp only [Path.before, Bool.not_eq_true', decide_eq_false_iff_not, not_lt]
      exact le_trans
    · intro first second
      simp only [Path.before, Bool.or_eq_true, Bool.not_eq_true', decide_eq_false_iff_not, not_lt]
      exact le_total _ _
  have apart : (inOrder paths).Pairwise fun left right => left.names ≠ right.names := by
    apply List.pairwise_map.mp
    exact (((List.mergeSort_perm _ _).map Path.names).nodup_iff).mpr distinct
  apply (inTurn.and apart).imp
  rintro left right ⟨notAfter, other⟩
  simp only [Path.before, Bool.not_eq_true', decide_eq_false_iff_not, not_lt] at notAfter
  rw [Path.before, decide_eq_true_iff]
  exact lt_of_le_of_ne notAfter other

end Discovery

namespace Small

/-! ## A root with an excluded name -/

/-- Directories and files below a root that has an excluded name itself. -/
def workshop : FileTree :=
  { entries :=
      [ (["build"], .directory 5000),
        (["build", "A.java"], .file "class A".toUTF8 5000),
        (["build", "L.java"], .link "A.java"),
        (["build", "a"], .directory 5000),
        (["build", "a", "B.JAVA"], .file "class B".toUTF8 5000),
        (["build", "build"], .directory 5000),
        (["build", "build", "C.java"], .file "class C".toUTF8 5000) ]
    workingDirectory := []
    clock := 6000 }

/-- Files are wanted by their extension, and directories excluded by their name. -/
def search : Discovery :=
  { extensions := [".java"], excludedNames := ["build"], greatestDepth := 2, personalFile := none }

theorem sound_workshop : workshop.Sound :=
  ⟨by decide +kernel, by decide +kernel, FileTree.nested_of_entries (by decide +kernel),
    by decide +kernel⟩

end Small

end SourceHarvest
