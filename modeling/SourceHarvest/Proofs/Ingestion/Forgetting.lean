import SourceHarvest.Proofs.Ingestion.Account

/-!
# What forgetting a file does

A file that was forgotten successfully has lost its stored rows and its fingerprint, and
nothing else has changed.
-/

namespace SourceHarvest.Ingestion

variable {σ : Type}

/-- The root against which a file to forget is found: canonical while it exists. -/
def standingRoot (configuration : Configuration) (tree : FileTree) : Path :=
  match tree.canonicalize configuration.root with
  | .ok canonical => canonical
  | .error _ => configuration.root

-- Unfolding by equations would try to evaluate the file tree.
theorem trackedPath_eq (tree : FileTree) (root path : Path) :
    trackedPath tree root path =
      match tree.canonicalize (root.join path) with
      | .ok canonical => canonical
      | .error _ => root.join path := by
  delta trackedPath
  rfl

/-- What was done where forgetting succeeded. -/
theorem forget_eq_ok {services : Services σ} {configuration : Configuration} {path : Path}
    {before after : World σ} {had : Bool}
    (ran : (forget services configuration path).run before = (.ok had, after)) :
    ∃ ledger tracked, tracked = trackedPath before.tree (standingRoot configuration before.tree) path ∧
      Ledger.load before.tree configuration.cachePath = .ok ledger ∧ had = ledger.has tracked ∧
      services.deleteFile
          (FileJob.relativePath (standingRoot configuration before.tree) tracked) before.remote =
        (.ok (), after.remote) ∧
      (ledger.remove tracked).save configuration.cachePath before.tree = (.ok (), after.tree) := by
  rcases bind_eq_ok ran with ⟨world, _, got, ran⟩
  rcases Prod.mk.inj got with ⟨same, rfl⟩
  cases same
  rcases bind_eq_ok ran with ⟨ledger, _, looked, ran⟩
  rcases lookingAtFiles_eq_ok looked with ⟨loaded, rfl⟩
  rcases bind_eq_ok ran with ⟨⟨⟩, _, dropped, ran⟩
  rcases remotely_eq_ok dropped with ⟨remote, deleted, rfl⟩
  rcases bind_eq_ok ran with ⟨⟨⟩, _, changed, ran⟩
  rcases changingFiles_eq_ok changed with ⟨tree, saved, rfl⟩
  rcases Prod.mk.inj ran with ⟨told, rfl⟩
  cases told
  rcases Prod.mk.inj deleted with ⟨done, rfl⟩
  refine ⟨ledger, _, rfl, loaded, rfl, ?_, saved⟩
  exact Prod.ext (during_eq_ok done) rfl

end SourceHarvest.Ingestion
