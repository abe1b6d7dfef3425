import SourceHarvest.Proofs.FileTree.Kinds
import SourceHarvest.Proofs.Ingestion.Harvest

/-!
# When a run succeeds

A run succeeds exactly if its settings are valid, the store is reached, the cache is loaded, the
files below the root are found, and a cache can be saved.  Whether a cache can be saved does not
depend on what is in it, nor on what was added to a log.  So nothing that becomes of a file makes a
run fail.
-/

namespace SourceHarvest

namespace Ledger

/-- Whether a ledger is saved is decided by making the directories around its cache, writing the text
and renaming the temporary file. -/
theorem save_fst_eq (ledger : Ledger) (cachePath : Path) (tree : FileTree) :
    (ledger.save cachePath tree).1 =
      match (prepared cachePath tree).1 with
      | .error error => .error (Failure.ofFile error)
      | .ok () =>
          match (prepared cachePath tree).2.write (temporaryPath cachePath) ledger.encode.toUTF8 with
          | .error error =>
              .error ((Failure.ofFile error).context "Failed to write fingerprint cache")
          | .ok written =>
              match written.rename (temporaryPath cachePath) cachePath with
              | .error error =>
                  .error ((Failure.ofFile error).context "Failed to replace fingerprint cache")
              | .ok _ => .ok () := by
  have saves : Saves ledger cachePath tree (ledger.save cachePath tree).1
    (ledger.save cachePath tree).2 := saves_of_save rfl
  generalize (ledger.save cachePath tree).1 = result at saves ⊢
  generalize (ledger.save cachePath tree).2 = after at saves
  cases saves with
  | unprepared unready => simp only [unready]
  | unwritten ready refused => simp only [ready, refused]
  | unreplaced ready wrote refused => simp only [ready, wrote, refused]
  | replaced ready wrote renamed => simp only [ready, wrote, renamed]

/-- Whether a ledger can be saved depends on the kinds of the entries of the tree, and not on what
is in the ledger. -/
theorem save_result_eq {tree other : FileTree} (same : FileTree.SameKinds tree other)
    (ledger otherLedger : Ledger) (cachePath : Path) :
    (otherLedger.save cachePath other).1 = (ledger.save cachePath tree).1 := by
  have alike : (prepared cachePath other).1 = (prepared cachePath tree).1 ∧
      FileTree.SameKinds (prepared cachePath tree).2 (prepared cachePath other).2 := by
    rw [prepared, prepared]
    cases cachePath.parent? with
    | none => exact ⟨rfl, same⟩
    | some directory => exact same.makeDirectories directory
  obtain ⟨made, kinds⟩ := alike
  rw [save_fst_eq, save_fst_eq, made]
  cases (prepared cachePath tree).1 with
  | error failure => rfl
  | ok =>
      have wrote := kinds.write (temporaryPath cachePath) (isEmpty_encode ledger)
        (isEmpty_encode otherLedger)
      simp only
      generalize (prepared cachePath tree).2.write (temporaryPath cachePath) ledger.encode.toUTF8 =
        left at wrote
      generalize (prepared cachePath other).2.write (temporaryPath cachePath)
        otherLedger.encode.toUTF8 = right at wrote
      cases wrote with
      | error failure => rfl
      | @ok written otherWritten kinds =>
          have renamed := kinds.rename (temporaryPath cachePath) cachePath
          simp only
          generalize written.rename (temporaryPath cachePath) cachePath = left at renamed
          generalize otherWritten.rename (temporaryPath cachePath) cachePath = right at renamed
          cases renamed <;> rfl

end Ledger

/-- Adding a record to a log changes the kind of nothing. -/
theorem OutcomeLog.sameKinds_add (path : Path) (record : OutcomeRecord) {tree : FileTree}
    (sound : tree.Sound) : (OutcomeLog.add path tree record).Sound ∧
      FileTree.SameKinds tree (OutcomeLog.add path tree record) := by
  rw [OutcomeLog.add]
  split
  · rename_i longer appended
    exact ⟨(sound.append_spec appended).1, sound.sameKinds_append appended⟩
  · exact ⟨sound, .refl tree⟩

/-- Adding records to a log changes the kind of nothing. -/
theorem Session.sameKinds_logged (session : Session) (records : List OutcomeRecord)
    {tree : FileTree} (sound : tree.Sound) :
    FileTree.SameKinds tree (session.logged records tree) := by
  rw [logged]
  cases session.log with
  | none => exact .refl tree
  | some path =>
      simp only
      induction records generalizing tree with
      | nil => exact .refl tree
      | cons record rest inductionHypothesis =>
          rcases OutcomeLog.sameKinds_add path record sound with ⟨added, kinds⟩
          exact kinds.trans (inductionHypothesis added)

namespace Ingestion

variable {σ : Type} {services : Services σ} {session : Session} {configuration : Configuration}
  {before : World σ}

/-- All that a run needs to succeed. -/
structure Ready (services : Services σ) (configuration : Configuration) (before : World σ) : Prop where
  valid : configuration.validate = .ok ()
  connected : (services.connect before.remote).1 = .ok ()
  loaded : ∃ ledger, Ledger.load before.tree configuration.cachePath = .ok ledger
  discovered : ∃ root files, resolveRoot configuration before.tree = .ok root ∧
    (discovery services configuration).run before.tree root = .ok files
  saved : (Ledger.empty.save configuration.cachePath before.tree).1 = .ok ()

/-- A run reaches the store, if it succeeds. -/
theorem connected_of_run {after : World σ} {summary : RunSummary}
    (ran : (run services session configuration).run before = (.ok summary, after)) :
    (services.connect before.remote).1 = .ok () := by
  rcases bind_eq_ok ran with ⟨⟨⟩, _, checked, ran⟩
  rcases Prod.mk.inj checked with ⟨_, rfl⟩
  rcases bind_eq_ok ran with ⟨⟨⟩, _, connected, _⟩
  rcases remotely_eq_ok connected with ⟨_, reached, _⟩
  have answer := (Prod.mk.inj reached).1
  cases reply : (services.connect before.remote).1 with
  | ok => rfl
  | error failure =>
      simp only [reply] at answer
      cases answer

/-- Work on all files leaves a tree in which a cache can be saved if and only if it could be saved
before. -/
theorem save_after_runBatches (sound : before.tree.Sound) {ledger : Ledger} {root : Path}
    {files : List Path} (discovered : (discovery services configuration).run before.tree root = .ok files)
    {progress : Progress} {middle : World σ}
    (worked : runBatches services session configuration root
      (blocksOf (configuration.batchSize - 1) files).zipIdx ⟨RunSummary.start files.length, ledger⟩
      { before with remote := (services.connect before.remote).2 } = (progress, middle)) :
    (progress.ledger.save configuration.cachePath middle.tree).1 =
      (Ledger.empty.save configuration.cachePath before.tree).1 := by
  obtain ⟨proceedings, describe, _⟩ := exists_describe_files services session configuration root
    (Discovery.nodup_of_run sound discovered) ⟨RunSummary.start files.length, ledger⟩
    { before with remote := (services.connect before.remote).2 }
  rw [worked] at describe
  rw [describe.tree]
  exact Ledger.save_result_eq (session.sameKinds_logged _ sound) _ _ _

/-- A run over a sound tree succeeds exactly if all is ready, whatever becomes of the files. -/
theorem run_ok_iff (sound : before.tree.Sound) :
    (∃ summary after, (run services session configuration).run before = (.ok summary, after)) ↔
      Ready services configuration before := by
  constructor
  · rintro ⟨summary, after, ran⟩
    rcases exists_account_of_sound sound ran with ⟨account, _⟩
    have saved := congrArg Prod.fst account.saved
    rw [Ledger.save_result_eq (session.sameKinds_logged _ sound) .empty] at saved
    exact ⟨account.valid, connected_of_run ran, ⟨_, account.loaded⟩,
      ⟨_, _, account.resolved, account.discovered⟩, saved⟩
  · intro ready
    rcases ready.loaded with ⟨ledger, loaded⟩
    rcases ready.discovered with ⟨root, files, resolved, discovered⟩
    generalize worked : runBatches services session configuration root
      (blocksOf (configuration.batchSize - 1) files).zipIdx ⟨RunSummary.start files.length, ledger⟩
      { before with remote := (services.connect before.remote).2 } = done
    rcases done with ⟨progress, middle⟩
    rw [run_of_discovered ready.valid ready.connected loaded resolved discovered worked,
      save_after_runBatches sound discovered worked, ready.saved]
    exact ⟨_, _, rfl⟩

/-- Where all is ready a run has an account. -/
theorem exists_account_of_ready (session : Session) (sound : before.tree.Sound)
    (ready : Ready services configuration before) :
    ∃ after, Nonempty (Account services session configuration before after) := by
  obtain ⟨summary, after, ran⟩ := (run_ok_iff sound).mpr ready
  rcases exists_account_of_sound sound ran with ⟨account, _⟩
  exact ⟨after, ⟨account⟩⟩

end Ingestion

end SourceHarvest
