import SourceHarvest.Proofs.FileTree.Changes

/-!
# Replacing a file that is there

A path that leads to a file ends in a name of its own, with no slash behind it.  The name
itself is taken by that file or by a link.  So an entry that is there can always be renamed
to a path under which a file is found.
-/

namespace SourceHarvest

/-- Behind a mark at the end of a text there is an empty part. -/
theorem Text.splitAtMark_concat (mark : Char) (text : List Char) :
    ∃ first rest, Text.splitAtMark mark (text ++ [mark]) = first :: (rest ++ [[]]) := by
  induction text with
  | nil => exact ⟨[], [], by simp [Text.splitAtMark]⟩
  | cons c text inductionHypothesis =>
      obtain ⟨first, rest, parts⟩ := inductionHypothesis
      rw [List.cons_append, Text.splitAtMark, parts]
      split
      · exact ⟨[], first :: rest, rfl⟩
      · exact ⟨c :: first, rest, rfl⟩

namespace FileTree

/-- A slash at the end of a path is a step. -/
theorem getLast?_steps_of_slash {path : Path} {text : List Char}
    (slash : path.text.toList = text ++ ['/']) : (steps path).getLast? = some "" := by
  obtain ⟨first, rest, split⟩ := Text.splitAtMark_concat '/' text
  have parts : ((Text.splitAtMark '/' path.text.toList).map String.ofList).getLast? = some "" := by
    rw [slash, split, List.getLast?_map, ← List.cons_append, List.getLast?_concat]
    rfl
  simp only [steps, if_pos parts, List.getLast?_concat]

/-- Without a slash at its end a path is bare. -/
theorem withoutFinalSlashes_eq {path : Path} (bare : (steps path).getLast? ≠ some "") :
    withoutFinalSlashes path = path := by
  rw [withoutFinalSlashes]
  cases reversed : path.text.toList.reverse with
  | nil => rfl
  | cons last others =>
      have whole := congrArg List.reverse reversed
      rw [List.reverse_reverse, List.reverse_cons] at whole
      have different : (last == '/') = false := by
        rw [beq_eq_false_iff_ne]
        rintro rfl
        exact bare (getLast?_steps_of_slash whole)
      rw [List.dropWhile_cons, different]
      simp only [Bool.false_eq_true, if_false, List.reverse_cons, ← whole]
      cases text : path.text.toList with
      | nil => rfl
      | cons first rest => simp only [← text, String.ofList_toList]

variable {tree : FileTree} {last : LastName} {links : Nat} {here : Location}
  {remaining : List String} {place : Place}

/-- A walk that does not end at a directory ends with a name of its own. -/
theorem Walks.exists_last (walks : Walks tree last links here remaining place)
    (nested : tree.Nested) (onward : tree.way here = .onward)
    (blocked : tree.way place.location ≠ .onward) :
    ∃ step, remaining.getLast? = some step ∧ ¬ (step = "." ∨ step = "") ∧ step ≠ ".." := by
  have behind {step name : String} {rest : List String} (ends : rest.getLast? = some name) :
      (step :: rest).getLast? = some name := by
    rw [List.getLast?_cons, ends]
    rfl
  induction walks with
  | stay => exact absurd onward blocked
  | pass _ _ inductionHypothesis =>
      obtain ⟨name, ends, proper⟩ := inductionHypothesis onward blocked
      exact ⟨name, behind ends, proper⟩
  | up _ inductionHypothesis =>
      obtain ⟨name, ends, proper⟩ := inductionHypothesis (nested.dropLast onward) blocked
      exact ⟨name, behind ends, proper⟩
  | into _ held _ inductionHypothesis =>
      obtain ⟨name, ends, proper⟩ := inductionHypothesis (way_of_get? held) blocked
      exact ⟨name, behind ends, proper⟩
  | @follow _ _ step rest _ proper _ _ _ _ inductionHypothesis =>
      by_cases ended : rest = []
      · subst ended
        exact ⟨step, rfl, proper.named, proper.forth⟩
      · obtain ⟨name, ends, proper⟩ := inductionHypothesis (by split <;> simp [onward]) blocked
        have whole : rest.getLast? = some name := by
          rw [List.getLast?_append] at ends
          cases found : rest.getLast? with
          | none => exact absurd (List.getLast?_eq_none_iff.mp found) ended
          | some other => rwa [found] at ends
        exact ⟨name, behind whole, proper⟩
  | atLink proper | atEntry proper | free proper => exact ⟨_, rfl, proper.named, proper.forth⟩

/-- Where the last name stands for itself, a walk comes to an entry too, maybe to a link. -/
theorem Walks.itself_of_followed {location : Location} {entry : Entry}
    (walks : Walks tree .followed links here remaining (.present location entry))
    (nested : tree.Nested) (onward : tree.way here = .onward)
    (blocked : tree.way location ≠ .onward) :
    ∃ there found, Walks tree .itself links here remaining (.present there found) ∧
      tree.way there ≠ .onward := by
  generalize mode : LastName.followed = last at walks
  generalize ended : Place.present location entry = place at walks
  have proper_itself {step : String} {rest : List String} (proper : Proper last step rest) :
      Proper .itself step rest :=
    { proper with fillable := fun both => by cases both.1 }
  induction walks with
  | stay =>
      cases ended
      exact absurd onward blocked
  | pass void _ inductionHypothesis =>
      obtain ⟨there, found, further, calm⟩ := inductionHypothesis onward ended
      exact ⟨there, found, .pass void further, calm⟩
  | up _ inductionHypothesis =>
      obtain ⟨there, found, further, calm⟩ := inductionHypothesis (nested.dropLast onward) ended
      exact ⟨there, found, .up further, calm⟩
  | into proper held _ inductionHypothesis =>
      obtain ⟨there, found, further, calm⟩ := inductionHypothesis (way_of_get? held) ended
      exact ⟨there, found, .into (proper_itself proper) held further, calm⟩
  | @follow _ here step rest _ proper target held _ _ inductionHypothesis =>
      by_cases last : rest = []
      · subst last
        refine ⟨here ++ [step], .link target, .atLink (proper_itself proper) held rfl, ?_⟩
        rw [way_of_get? held]
        exact Way.noConfusion
      · obtain ⟨there, found, further, calm⟩ :=
          inductionHypothesis (by split <;> simp [onward]) ended
        exact ⟨there, found, .follow (proper_itself proper) held (fun both => last both.1) further,
          calm⟩
  | atLink _ _ itself => exact LastName.noConfusion (mode.trans itself)
  | atEntry proper held nowhere =>
      cases ended
      exact ⟨_, _, .atEntry (proper_itself proper) held nowhere, blocked⟩
  | free => cases ended

/-- Where a file is found the path itself leads to an entry that is no directory. -/
theorem Sound.resolve_itself_of_find (sound : tree.Sound) {path : Path} {location : Location}
    {entry : Entry} (found : tree.find path = .ok (location, entry)) (blocked : entry.way = .nowhere) :
    ∃ there other, tree.resolve .itself path = .ok (.present there other) ∧ other.way ≠ .onward := by
  have resolved := find_eq_ok_iff.mp found
  have holds : tree.way location = entry.way := (sound.resolve_holds resolved).1
  obtain ⟨accepted, walks⟩ := resolve_eq_ok_iff.mp resolved
  obtain ⟨there, other, further, calm⟩ := walks.itself_of_followed sound.nested
    (sound.way_start path) (Way.ne_onward_of_nowhere (holds.trans blocked))
  have itself : tree.resolve .itself path = .ok (.present there other) :=
    resolve_eq_ok_iff.mpr ⟨accepted, further⟩
  have same : tree.way there = other.way := (sound.resolve_holds itself).1
  exact ⟨there, other, itself, same ▸ calm⟩

/-- What is there can be renamed to a path under which a file is found. -/
theorem Sound.exists_rename (sound : tree.Sound) {source target : Path} {origin location : Location}
    {moved entry : Entry} (resolved : tree.resolve .itself source = .ok (.present origin moved))
    (found : tree.find target = .ok (location, entry)) (blocked : entry.way = .nowhere) :
    ∃ after, tree.rename source target = .ok after := by
  obtain ⟨there, other, itself, calm⟩ := sound.resolve_itself_of_find found blocked
  have holds := sound.resolve_holds itself
  obtain ⟨step, ends, named, forth⟩ := (resolve_eq_ok_iff.mp itself).2.exists_last sound.nested
    (sound.way_start target) (fun onward => calm (holds.1.symm.trans onward))
  have bare : withoutFinalSlashes target = target := withoutFinalSlashes_eq fun slash => by
    rw [ends] at slash
    exact named (.inr (Option.some.inj slash))
  have proper : ¬ ((steps target).getLast?.all fun step => step = "." || step = "..") = true := by
    rw [ends]
    simpa using ⟨fun dot => named (.inl dot), forth⟩
  simp only [rename, resolved, bare, itself, bind, Except.bind]
  rw [if_neg proper, if_neg (by simp)]
  have moves : ∃ after, (if there = origin then (.ok tree : Except FileError FileTree) else
      .ok (((tree.erase origin).renewAround origin).enter there moved)) = .ok after := by
    split
    · exact ⟨_, rfl⟩
    · exact ⟨_, rfl⟩
  cases other with
  | directory => exact absurd rfl calm
  | file | link | fullDevice => exact moves

end FileTree

end SourceHarvest
