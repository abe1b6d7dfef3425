import SourceHarvest.Discovery
import SourceHarvest.Proofs.FileTree.Sound
import Mathlib.Data.List.Nodup

/-!
# What discovery finds

Discovery finds files that lie in the tree below the root, each of them once.  Their paths
are made of the names of the root and of further names.
-/

namespace SourceHarvest

namespace FileTree

theorem mem_children_iff {tree : FileTree} {here : Location} {name : String} :
    name ∈ tree.children here ↔ here ++ [name] ∈ tree.entries.map (·.1) := by
  rw [children, List.mem_filterMap, List.mem_map]
  constructor
  · rintro ⟨held, inside, found⟩
    split at found
    · rename_i last lastName
      split at found
      · rename_i around
        cases found
        refine ⟨held, inside, ?_⟩
        rw [← around, ← List.dropLast_append_getLast? _ lastName]
        simp
      · cases found
    · cases found
  · rintro ⟨held, inside, same⟩
    refine ⟨held, inside, ?_⟩
    simp [same]

theorem nodup_children {tree : FileTree} (sound : tree.Sound) (here : Location) :
    (tree.children here).Nodup := by
  rw [children, List.Nodup, List.pairwise_filterMap]
  refine (List.pairwise_map.mp sound.distinct).imp ?_
  intro first second distinct name firstName other secondName same
  apply distinct
  -- A name is that of an entry if it is a child in the tree of that entry alone.
  have leads {held : Location × Entry} {name : String}
      (found : name ∈ children { tree with entries := [held] } here) :
      held.1 = here ++ [name] := by
    simpa [eq_comm] using mem_children_iff.mp found
  rw [leads (List.mem_filterMap.mpr ⟨first, List.mem_singleton_self first, firstName⟩),
    leads (List.mem_filterMap.mpr ⟨second, List.mem_singleton_self second, secondName⟩), same]

end FileTree

namespace Discovery

variable {discovery : Discovery} {tree : FileTree} {personal : Ignore.PersonalRules}

/-- The files wanted under a name in a directory, whose entries may lie at most `depth` deep. -/
def collectUnder (discovery : Discovery) (tree : FileTree) (personal : Ignore.PersonalRules)
    (depth : Nat) (scopes : List Ignore.Scope) (here : Location) (name : String) :
    List Location :=
  let there := here ++ [name]
  match tree.get? there with
  | some (.directory _) =>
      if Ignore.Scope.admits personal scopes there true &&
          !discovery.excludedNames.contains name then
        discovery.collect tree personal depth
          (Ignore.Scope.ofDirectory tree there :: scopes) there
      else []
  | some (.file ..) =>
      if Ignore.Scope.admits personal scopes there false && discovery.wantsName name then [there]
      else []
  | _ => []

theorem collect_succ (depth : Nat) (scopes : List Ignore.Scope) (here : Location) :
    discovery.collect tree personal (depth + 1) scopes here =
      (tree.children here).flatMap (discovery.collectUnder tree personal depth scopes here) :=
  rfl

section Under

variable {depth : Nat} {scopes : List Ignore.Scope} {here : Location} {name : String}

/-- What is found under a name is the file of that name, or is found in the directory. -/
theorem mem_collectUnder {location : Location}
    (found : location ∈ discovery.collectUnder tree personal depth scopes here name) :
    (location = here ++ [name] ∧ ∃ content time, tree.get? location = some (.file content time)) ∨
      ∃ deeper, location ∈ discovery.collect tree personal depth deeper (here ++ [name]) := by
  simp only [collectUnder] at found
  split at found
  · split at found
    · exact .inr ⟨_, found⟩
    · cases found
  · rename_i content time held
    split at found
    · obtain rfl := List.mem_singleton.mp found
      exact .inl ⟨rfl, content, time, held⟩
    · cases found
  · cases found

theorem nodup_collectUnder (inner : ∀ deeper,
      (discovery.collect tree personal depth deeper (here ++ [name])).Nodup) :
    (discovery.collectUnder tree personal depth scopes here name).Nodup := by
  simp only [collectUnder]
  split
  · split
    · exact inner _
    · exact List.nodup_nil
  · split
    · exact List.nodup_singleton _
    · exact List.nodup_nil
  · exact List.nodup_nil

end Under

/-- What is found below a directory is a file in the table, further down than the directory. -/
theorem mem_collect {depth : Nat} {scopes : List Ignore.Scope} {here location : Location}
    (found : location ∈ discovery.collect tree personal depth scopes here) :
    ∃ name rest content time, location = here ++ name :: rest ∧
      tree.get? location = some (.file content time) := by
  induction depth generalizing scopes here with
  | zero => cases found
  | succ depth inductionHypothesis =>
      rw [collect_succ, List.mem_flatMap] at found
      rcases found with ⟨name, _, found⟩
      rcases mem_collectUnder found with ⟨rfl, content, time, held⟩ | ⟨deeper, inside⟩
      · exact ⟨name, [], content, time, rfl, held⟩
      · rcases inductionHypothesis inside with ⟨next, rest, content, time, rfl, held⟩
        exact ⟨name, next :: rest, content, time, by simp, held⟩

/-- What is found under different names differs in these names. -/
theorem prefix_of_mem_collectUnder {depth : Nat} {scopes : List Ignore.Scope}
    {here location : Location} {name : String}
    (found : location ∈ discovery.collectUnder tree personal depth scopes here name) :
    here ++ [name] <+: location := by
  rcases mem_collectUnder found with ⟨rfl, _⟩ | ⟨deeper, inside⟩
  · exact List.prefix_refl _
  · rcases mem_collect inside with ⟨next, rest, _, _, rfl, _⟩
    exact List.prefix_append _ _

theorem nodup_collect (sound : tree.Sound) (depth : Nat) (scopes : List Ignore.Scope)
    (here : Location) : (discovery.collect tree personal depth scopes here).Nodup := by
  induction depth generalizing scopes here with
  | zero => exact List.nodup_nil
  | succ depth inductionHypothesis =>
      rw [collect_succ, List.nodup_flatMap]
      constructor
      · exact fun name _ => nodup_collectUnder fun deeper => inductionHypothesis deeper _
      · refine (FileTree.nodup_children sound here).imp ?_
        intro first second distinct location inFirst inSecond
        rcases prefix_of_mem_collectUnder inFirst with ⟨firstRest, firstSame⟩
        rcases prefix_of_mem_collectUnder inSecond with ⟨secondRest, secondSame⟩
        rw [← secondSame, List.append_assoc, List.append_assoc] at firstSame
        exact distinct (List.cons.inj (List.append_cancel_left firstSame)).1

/-- The files below a root are in the tree, made of its names and further ones, each once. -/
theorem run_spec {root : Path} {files : List Path} (sound : tree.Sound)
    (found : discovery.run tree root = .ok files) :
    ∃ location time, tree.find root = .ok (location, .directory time) ∧ files.Nodup ∧
      ∀ path ∈ files, ∃ rest content modified, rest ≠ [] ∧ path = Path.ofNames (location ++ rest) ∧
        tree.get? (location ++ rest) = some (.file content modified) := by
  rw [run] at found
  split at found
  · rename_i location time rooted
    simp only [inOrder, Except.ok.injEq] at found
    subst found
    refine ⟨location, time, rooted, ?_, ?_⟩
    · refine ((List.mergeSort_perm _ _).nodup_iff).mpr ?_
      refine (nodup_collect sound _ _ _).map_on ?_
      intro first firstFound second secondFound same
      have legal {place : Location} (inside : place ∈ discovery.collect tree
          (Ignore.PersonalRules.load tree discovery.personalFile) discovery.greatestDepth
          (Ignore.Scope.around tree location) location) : ∀ name ∈ place, Path.IsName name := by
        rcases mem_collect inside with ⟨name, rest, _, _, rfl, held⟩
        exact sound.named _ (FileTree.mem_of_get? (by simp) held)
      exact Path.ofNames_injective (legal firstFound) (legal secondFound) same
    · intro path member
      rcases List.mem_map.mp ((List.mergeSort_perm _ _).mem_iff.mp member) with ⟨place, inside, rfl⟩
      rcases mem_collect inside with ⟨name, rest, content, modified, rfl, held⟩
      exact ⟨name :: rest, content, modified, by simp, rfl, held⟩
  · cases found

/-- No file is found twice. -/
theorem nodup_of_run {root : Path} {files : List Path} (sound : tree.Sound)
    (found : discovery.run tree root = .ok files) : files.Nodup := by
  obtain ⟨_, _, _, distinct, _⟩ := run_spec sound found
  exact distinct

/-- Files that are collected in the order of their names are found in this order. -/
theorem run_of_collect {root : Path} {location : Location} {time : Int} {files : List Path}
    (rooted : tree.find root = .ok (location, .directory time))
    (collected : (discovery.collect tree (Ignore.PersonalRules.load tree discovery.personalFile)
      discovery.greatestDepth (Ignore.Scope.around tree location) location).map Path.ofNames = files)
    (ordered : files.Pairwise fun left right => !right.before left) :
    discovery.run tree root = .ok files := by
  rw [run, rooted]
  simp only [collected]
  rw [inOrder, List.mergeSort_of_pairwise ordered]

end Discovery

end SourceHarvest
