import SourceHarvest.Proofs.FileTree.Replacing
import SourceHarvest.Proofs.Fingerprint.Replacement

/-!
# When a cache cannot be saved

Saving can fail while directories are made and when the temporary file is written.  The cache
is not touched before the temporary file takes its place, and that cannot fail where there is
a cache.  So a cache that cannot be saved is the one from before, and none comes to be where
there was none.
-/

namespace SourceHarvest.Ledger

variable {ledger : Ledger} {cachePath : Path} {tree after : FileTree} {failure : Failure}

/-- Saving fails before anything is written, or when the temporary file is renamed. -/
theorem save_eq_error (failed : ledger.save cachePath tree = (.error failure, after)) :
    after = (prepared cachePath tree).2 ∨
      ∃ written error, (prepared cachePath tree).2.write (temporaryPath cachePath)
          ledger.encode.toUTF8 = .ok written ∧
        written.rename (temporaryPath cachePath) cachePath = .error error ∧ after = written := by
  cases saves_of_save failed with
  | unprepared | unwritten => exact .inl rfl
  | unreplaced _ wrote refused => exact .inr ⟨_, _, wrote, refused, rfl⟩

/-- The directories around a cache can be made without a change to what is found. -/
theorem find_prepared (sound : tree.Sound) (cachePath : Path) {path : Path} {location : Location}
    {content : ByteArray} {time : Int} (found : tree.find path = .ok (location, .file content time)) :
    (prepared cachePath tree).2.find path = .ok (location, .file content time) := by
  have resolved := FileTree.find_eq_ok_iff.mp found
  have holds := sound.resolve_holds resolved
  have retains := retains_prepared sound cachePath
  have grows := FileTree.Grows.of_retains (prepared_spec sound cachePath).2.workingDirectory retains
  have held := (retains location _ (holds.2 Way.noConfusion)).2 Way.noConfusion
  exact FileTree.find_eq_ok_iff.mpr (sound.resolve_of_grows grows resolved holds.1 held rfl (.inl rfl))

/-- Once the temporary file is written, it takes the place of whatever file the path of the cache
leads to then. -/
theorem exists_rename_written (sound : tree.Sound) {content : ByteArray}
    (nonempty : content.isEmpty = false) {written : FileTree}
    (wrote : tree.write (temporaryPath cachePath) content = .ok written) {location : Location}
    {entry : Entry} (found : written.find cachePath = .ok (location, entry))
    (blocked : entry.way = .nowhere) :
    ∃ replaced, written.rename (temporaryPath cachePath) cachePath = .ok replaced := by
  obtain ⟨place, filled, nowhere, writtenSound, changes⟩ := sound.write_spec nonempty wrote
  have temporary := sound.resolve_transfer filled nowhere changes rfl (.inr rfl)
  obtain ⟨_, _, moved, _⟩ := writtenSound.resolve_itself_of_find
    (FileTree.find_eq_ok_iff.mpr temporary) rfl
  exact writtenSound.exists_rename moved found blocked

/-- A file that is there is there also once the temporary file is written. -/
theorem exists_find_written (sound : tree.Sound) {location : Location} {content held : ByteArray}
    {time : Int} (found : tree.find cachePath = .ok (location, .file held time))
    (nonempty : content.isEmpty = false) {written : FileTree}
    (wrote : tree.write (temporaryPath cachePath) content = .ok written) :
    ∃ entry, written.find cachePath = .ok (location, entry) ∧ entry.way = .nowhere := by
  obtain ⟨place, filled, nowhere, _, changes⟩ := sound.write_spec nonempty wrote
  have resolved := FileTree.find_eq_ok_iff.mp found
  have holds := sound.resolve_holds resolved
  -- The temporary file can be a link to the cache, which then holds what was written.
  obtain ⟨entry, there, blocked⟩ : ∃ entry, written.get? location = some entry ∧
      entry.way = .nowhere := by
    by_cases same : location = place.location
    · exact ⟨_, same ▸ changes.held, rfl⟩
    · exact ⟨_, ((sound.spares_write filled wrote same).retains _ (holds.2 Way.noConfusion)).2
        Way.noConfusion, rfl⟩
  exact ⟨entry, FileTree.find_eq_ok_iff.mpr
    (sound.resolve_of_grows (changes.grows nowhere) resolved holds.1 there blocked (.inl rfl)), blocked⟩

/-- The directories around a cache are all that is new once they are made. -/
theorem addsDirectories_prepared (sound : tree.Sound) (cachePath : Path) :
    FileTree.AddsDirectories tree (prepared cachePath tree).2 := by
  rw [prepared]
  split
  · exact sound.addsDirectories_makeDirectories _
  · exact .refl tree

/-- A cache that cannot be replaced stays as it is. -/
theorem find_of_unsaved (sound : tree.Sound) {location : Location} {content : ByteArray} {time : Int}
    (found : tree.find cachePath = .ok (location, .file content time))
    (failed : ledger.save cachePath tree = (.error failure, after)) :
    after.find cachePath = .ok (location, .file content time) := by
  have ready := find_prepared sound cachePath found
  rcases save_eq_error failed with rfl | ⟨written, error, wrote, renamed, _⟩
  · exact ready
  · have preparedSound := (prepared_spec sound cachePath).1
    obtain ⟨entry, there, blocked⟩ :=
      exists_find_written preparedSound ready (isEmpty_encode ledger) wrote
    obtain ⟨replaced, done⟩ :=
      exists_rename_written preparedSound (isEmpty_encode ledger) wrote there blocked
    cases renamed.symm.trans done

/-- A cache that is found after a failure to replace it was there before. -/
theorem get?_of_unsaved (sound : tree.Sound)
    (failed : ledger.save cachePath tree = (.error failure, after)) {location : Location}
    {content : ByteArray} {time : Int}
    (found : after.find cachePath = .ok (location, .file content time)) :
    tree.get? location = some (.file content time) := by
  have preparedSound := (prepared_spec sound cachePath).1
  rcases save_eq_error failed with rfl | ⟨written, error, wrote, renamed, rfl⟩
  · have held := (preparedSound.resolve_holds (FileTree.find_eq_ok_iff.mp found)).2 Way.noConfusion
    exact addsDirectories_prepared sound cachePath _ _ held Way.noConfusion
  · obtain ⟨replaced, done⟩ :=
      exists_rename_written preparedSound (isEmpty_encode ledger) wrote found rfl
    cases renamed.symm.trans done

end SourceHarvest.Ledger
