import SourceHarvest.Proofs.Fingerprint.Reloading
import SourceHarvest.Proofs.Ingestion.TableServices
import Mathlib.Logic.Relation

/-!
# Fingerprints that last

Once the fingerprint of a file was taken, the file counts as unchanged until it is written later, is no
longer found, or loses its fingerprint.  Nothing that is done for other files makes a difference, nor
does saving the fingerprints and loading them again.
-/

namespace SourceHarvest

/-- A job that runs to its end has a dialogue with the world. -/
theorem Job.exists_dialogue {ω α : Type} (answer : (request : Request) → ω → request.Answer × ω)
    (job : Job α) (world : ω) : ∃ dialogue, job.Yields dialogue (job.run answer world).1 ∧
      Plays answer world dialogue (job.run answer world).2 := by
  induction job generalizing world with
  | done result => exact ⟨[], .done result, rfl⟩
  | ask request resume inductionHypothesis =>
      obtain ⟨dialogue, yields, plays⟩ :=
        inductionHypothesis (answer request world).1 (answer request world).2
      exact ⟨⟨request, (answer request world).1⟩ :: dialogue, .ask _ yields, rfl, plays⟩

namespace Tracking

variable {σ : Type} {services : Services σ} {world : World σ} {path : Path}

/-- What a job finds out in a world of services. -/
def found {α : Type} (services : Services σ) (world : World σ) (job : Job α) : α :=
  (job.run services.answer world).1

/-- What a job finds out is grounded in the tree. -/
theorem exists_grounded {α : Type} (services : Services σ) (world : World σ) (job : Job α) :
    ∃ dialogue, job.Yields dialogue (found services world job) ∧
      ∀ reply ∈ dialogue, reply.Grounded services world.tree := by
  obtain ⟨dialogue, yields, plays⟩ := job.exists_dialogue services.answer world
  exact ⟨dialogue, yields, (Services.plays_answer plays).2.2.2⟩

/-- A file counts as changed where its fingerprint is outdated. -/
theorem found_hasChanged (services : Services σ) (world : World σ) (ledger : Ledger) (path : Path) :
    found services world (hasChanged ledger path) = ledger.outdated world.tree path := by
  obtain ⟨dialogue, yields, grounded⟩ := exists_grounded services world (hasChanged ledger path)
  exact (FileJob.yields_hasChanged yields grounded).2

/-- The fingerprint of a file is made of its time and its bytes. -/
theorem found_fingerprint {count : Nat} {fingerprint : Fingerprint}
    (taken : found services world (Tracking.fingerprint path count).run = .ok fingerprint) :
    world.tree.millis? path = some fingerprint.lastModified ∧
      (∃ content, world.tree.read path = .ok content ∧
        fingerprint.hash = contentHash content.toList) ∧
      fingerprint.chunkCount = count := by
  obtain ⟨dialogue, yields, grounded⟩ :=
    exists_grounded services world (Tracking.fingerprint path count).run
  rw [taken, Tracking.fingerprint, FileJob.yields_exceptBind_iff] at yields
  rcases yields with ⟨_, _, impossible⟩ | ⟨first, time, second, rfl, dated, yields⟩
  · cases impossible
  rw [readBytes, bind_assoc, FileJob.yields_questionBind_iff] at yields
  obtain ⟨answer, rest, rfl, yields⟩ := yields
  have known := (FileJob.yields_modifiedMillis dated fun reply member =>
    grounded reply (List.mem_append_left _ member)).2
  have honest : answer = world.tree.read path := grounded ⟨.read path, answer⟩ (by simp)
  subst honest
  cases content : world.tree.read path with
  | error failure =>
      rw [content] at yields
      cases (Job.yields_pure_iff.mp yields).2
  | ok bytes =>
      rw [content] at yields
      simp only [pure_bind] at yields
      cases (Job.yields_pure_iff.mp yields).2
      exact ⟨known.symm, ⟨bytes, rfl, rfl⟩, rfl⟩

/-- Take the fingerprint of a file anew. -/
def update (ledger : Ledger) (path : Path) (chunkCount : Nat) : ExceptT Failure Job Ledger :=
  ledger.record path <$> Tracking.fingerprint path chunkCount

/-- A new fingerprint takes the place of the old one, and is that of the file as it is. -/
theorem found_update {ledger next : Ledger} {count : Nat}
    (updated : found services world (update ledger path count).run = .ok next) :
    ∃ first content, world.tree.millis? path = some first ∧ world.tree.read path = .ok content ∧
      next = ledger.record path ⟨contentHash content.toList, first, count⟩ := by
  have mapped : found services world (update ledger path count).run =
      (found services world (Tracking.fingerprint path count).run).map (ledger.record path) := by
    rw [update, ExceptT.run_map]
    exact congrArg Prod.fst (Job.run_andThen services.answer _ _ world)
  rw [mapped] at updated
  cases taken : found services world (Tracking.fingerprint path count).run with
  | error failure =>
      rw [taken] at updated
      cases updated
  | ok fingerprint =>
      rw [taken] at updated
      obtain ⟨dated, ⟨content, readable, hashed⟩, counted⟩ := found_fingerprint taken
      obtain ⟨hash, lastModified, chunkCount⟩ := fingerprint
      cases hashed
      cases counted
      exact ⟨lastModified, content, dated, readable, (Except.ok.inj updated).symm⟩

/-! ## What happens elsewhere -/

/-- The fingerprints, and the world with their files. -/
structure Scene (σ : Type) where
  ledger : Ledger
  world : World σ

/-- A scene that can come about: the tree is sound, the fingerprints are in order, and their numbers
have 64 bits. -/
structure Scene.Valid (scene : Scene σ) : Prop where
  sound : scene.world.tree.Sound
  ordered : scene.ledger.Ordered
  fits : scene.ledger.Fits

theorem Scene.Valid.record {ledger : Ledger} (valid : Scene.Valid ⟨ledger, world⟩) (path : Path)
    {fingerprint : Fingerprint} (fits : fingerprint.Fits) :
    Scene.Valid ⟨ledger.record path fingerprint, world⟩ :=
  ⟨valid.sound, valid.ordered.record _ _, valid.fits.record _ fits⟩

theorem Scene.Valid.remove {ledger : Ledger} (valid : Scene.Valid ⟨ledger, world⟩) (path : Path) :
    Scene.Valid ⟨ledger.remove path, world⟩ :=
  ⟨valid.sound, valid.ordered.remove _, valid.fits.remove _⟩

/-- Something happens that leaves the fingerprint of a path alone.  The world may change in any way.
Fingerprints are saved in any order, where the temporary file is not diverted and the path of the cache
does not lead over itself. -/
inductive Elsewhere (services : Services σ) (cachePath path : Path) : Scene σ → Scene σ → Prop where
  | updated {ledger next : Ledger} {world : World σ} {other : Path} {count : Nat}
      (apart : other ≠ path) (counted : count ≤ Json.greatestWord)
      (taken : found services world (update ledger other count).run = .ok next) :
      Elsewhere services cachePath path ⟨ledger, world⟩ ⟨next, world⟩
  | unreadable {ledger : Ledger} {world : World σ} {other : Path} {count : Nat} {failure : Failure}
      (failed : found services world (update ledger other count).run = .error failure) :
      Elsewhere services cachePath path ⟨ledger, world⟩ ⟨ledger, world⟩
  | recorded {ledger : Ledger} {world : World σ} {other : Path} {fingerprint : Fingerprint}
      (apart : other ≠ path) (fits : fingerprint.Fits) :
      Elsewhere services cachePath path ⟨ledger, world⟩ ⟨ledger.record other fingerprint, world⟩
  | removed {ledger : Ledger} {world : World σ} {other : Path} (apart : other ≠ path) :
      Elsewhere services cachePath path ⟨ledger, world⟩ ⟨ledger.remove other, world⟩
  | changed {ledger : Ledger} {world later : World σ} (sound : later.tree.Sound) :
      Elsewhere services cachePath path ⟨ledger, world⟩ ⟨ledger, later⟩
  | reloaded {ledger listed next : Ledger} {world : World σ} {after : FileTree}
      (listing : listed.entries.Perm ledger.entries) (undiverted : world.tree.Undiverted cachePath)
      (clear : ¬ (Ledger.prepared cachePath world.tree).2.LeadsOverItself cachePath)
      (saved : listed.save cachePath world.tree = (.ok (), after))
      (loaded : Ledger.load after cachePath = .ok next) :
      Elsewhere services cachePath path ⟨ledger, world⟩ ⟨next, { world with tree := after }⟩

variable {cachePath : Path} {scene later : Scene σ}

/-- What is saved is loaded again as it was. -/
theorem Scene.Valid.load_saved (valid : scene.Valid) {listed : Ledger} {after : FileTree}
    (listing : listed.entries.Perm scene.ledger.entries)
    (undiverted : scene.world.tree.Undiverted cachePath)
    (clear : ¬ (Ledger.prepared cachePath scene.world.tree).2.LeadsOverItself cachePath)
    (saved : listed.save cachePath scene.world.tree = (.ok (), after)) :
    after.Sound ∧ Ledger.load after cachePath = .ok scene.ledger := by
  obtain ⟨sound, loaded, _⟩ := Ledger.load_after_save valid.sound undiverted saved
  rw [Ledger.decode_encode_of_perm valid.ordered valid.fits listing] at loaded
  exact ⟨sound, loaded clear⟩

/-- One thing that happens elsewhere leaves the fingerprint of the path as it is. -/
theorem Elsewhere.preserves (step : Elsewhere services cachePath path scene later)
    (valid : scene.Valid) : later.Valid ∧ later.ledger.get? path = scene.ledger.get? path := by
  cases step with
  | updated apart counted taken =>
      obtain ⟨first, content, dated, _, rfl⟩ := found_update taken
      have fits : Fingerprint.Fits ⟨contentHash content.toList, first, _⟩ :=
        ⟨FileTree.le_of_millis? dated, counted⟩
      exact ⟨valid.record _ fits, Ledger.get?_record_other apart.symm _ _⟩
  | unreadable => exact ⟨valid, rfl⟩
  | recorded apart fits =>
      exact ⟨valid.record _ fits, Ledger.get?_record_other apart.symm _ _⟩
  | removed apart =>
      exact ⟨valid.remove _, Ledger.get?_remove_other apart.symm _⟩
  | changed sound => exact ⟨⟨sound, valid.ordered, valid.fits⟩, rfl⟩
  | reloaded listing undiverted clear saved loaded =>
      obtain ⟨sound, again⟩ := valid.load_saved listing undiverted clear saved
      cases again.symm.trans loaded
      exact ⟨⟨sound, valid.ordered, valid.fits⟩, rfl⟩

/-- All that happens elsewhere leaves the fingerprint of the path as it is. -/
theorem preserves_elsewhere
    (steps : Relation.ReflTransGen (Elsewhere services cachePath path) scene later)
    (valid : scene.Valid) : later.Valid ∧ later.ledger.get? path = scene.ledger.get? path := by
  induction steps with
  | refl => exact ⟨valid, rfl⟩
  | tail _ step inductionHypothesis =>
      obtain ⟨before, kept⟩ := inductionHypothesis
      obtain ⟨after, same⟩ := step.preserves before
      exact ⟨after, same.trans kept⟩

/-- The fingerprints without that of a path. -/
def Scene.without (scene : Scene σ) (path : Path) : Scene σ :=
  { scene with ledger := scene.ledger.remove path }

/-- A path has its fingerprint in a scene, and there it counts as changed exactly if it is found to be
written later or no time of it is found.  Whatever is saved there is loaded again. -/
structure Scene.Tracks (services : Services σ) (cachePath path : Path) (fingerprint : Fingerprint)
    (scene : Scene σ) : Prop where
  known : scene.ledger.get? path = some fingerprint
  changed_iff : found services scene.world (hasChanged scene.ledger path) = true ↔
    ∀ now, scene.world.tree.millis? path = some now → fingerprint.lastModified < now
  reloads : ∀ {listed : Ledger} {after : FileTree}, listed.entries.Perm scene.ledger.entries →
    scene.world.tree.Undiverted cachePath →
    ¬ (Ledger.prepared cachePath scene.world.tree).2.LeadsOverItself cachePath →
    listed.save cachePath scene.world.tree = (.ok (), after) →
      Ledger.load after cachePath = .ok scene.ledger

theorem Scene.Valid.tracks {fingerprint : Fingerprint} (valid : scene.Valid)
    (known : scene.ledger.get? path = some fingerprint) :
    scene.Tracks services cachePath path fingerprint := by
  constructor
  · exact known
  · rw [found_hasChanged, Ledger.outdated, known]
    cases scene.world.tree.millis? path <;> simp
  · intro listed after listing undiverted clear saved
    exact (valid.load_saved listing undiverted clear saved).2

end Tracking

namespace Small

open Tracking

/-- A file beside a link to a directory. -/
def beside : World RowTable where
  tree := { linked with entries := (["r", "A.java"], .file "class A".toUTF8 5000) :: linked.entries }
  remote := .empty
  records := []

/-- The fingerprint of a file and that of another one. -/
def pairOfFingerprints : Ledger :=
  (Ledger.empty.record file ⟨contentHash "class A".toUTF8.toList, 5000, 1⟩).record ⟨"/r/B.java"⟩
    ⟨"B", 5000, 0⟩

end Small

end SourceHarvest
