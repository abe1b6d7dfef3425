import SourceHarvest.Proofs.Ingestion.Forgetting
import SourceHarvest.Proofs.Ingestion.Harvest

/-!
# Histories of a source tree

A history starts with an empty store and no cache.  The tree below the root changes in any
way, runs that evict stale chunks succeed, and files are forgotten.  Alongside the world it
keeps what nobody writes down: which trees there were, and which chunks each file was last
processed into.
-/

namespace SourceHarvest.Ingestion

open FileJob

/-- What stays fixed over a history: where the root and the cache are, how the rows of the
store are read off, and which encodings are under the ids of chunks. -/
structure Setting (σ : Type) where
  around : Location
  cachePath : Path
  rows : σ → RowTable
  met : Set (List UInt8)
  plain : ∀ name ∈ around, Path.IsPlain name
  distinct : NoCollision met

namespace Setting

variable {σ : Type} (setting : Setting σ)

/-- The canonical path of the root. -/
def root : Path :=
  Path.ofNames setting.around

/-- No name below the root holds a backslash. -/
def Unescaped (tree : FileTree) : Prop :=
  ∀ held ∈ tree.entries, setting.around <+: held.1 →
    FileJob.Unescaped (held.1.drop setting.around.length)

/-- The path is made of proper names, and below the root of names without a backslash. -/
def Traceable (path : Path) : Prop :=
  ∃ names, path = Path.ofNames names ∧ (∀ name ∈ names, Path.IsName name) ∧
    (setting.around <+: names → FileJob.Unescaped (names.drop setting.around.length))

/-- The path is traceable and leads below the root. -/
def Below (path : Path) : Prop :=
  ∃ rest, path = Path.ofNames (setting.around ++ rest) ∧ rest ≠ [] ∧
    (∀ name ∈ rest, Path.IsName name) ∧ FileJob.Unescaped rest

/-- No file below the root goes back in time from the earlier tree to the later one. -/
def Ages (earlier later : FileTree) : Prop :=
  ∀ rest older newer, earlier.millis? (Path.ofNames (setting.around ++ rest)) = some older →
    later.millis? (Path.ofNames (setting.around ++ rest)) = some newer → older ≤ newer

/-- Where no time passes, no file goes back in time. -/
theorem pairwise_ages_of_still {trees : List FileTree} (time : Int)
    (still : ∀ tree ∈ trees, tree.Sound ∧ tree.Still time) : trees.Pairwise setting.Ages := by
  have same {tree : FileTree} (member : tree ∈ trees) {path : Path} {millis : Nat}
      (dated : tree.millis? path = some millis) : millis = time.toNat % 0x10000000000000000 := by
    rw [FileTree.millis?] at dated
    split at dated
    · rename_i found modified
      rw [(still tree member).2.modified_eq (still tree member).1 modified] at dated
      split at dated
      · cases dated
      · exact (Option.some.inj dated).symm
    · cases dated
  apply List.pairwise_of_forall_mem_list
  intro earlier first later second rest older newer was is
  rw [same first was, same second is]

theorem Below.traceable {setting : Setting σ} {path : Path} (below : setting.Below path) :
    setting.Traceable path := by
  rcases below with ⟨rest, rfl, _, legal, plain⟩
  refine ⟨_, rfl, fun name member => ?_, fun _ => ?_⟩
  · rcases List.mem_append.mp member with outer | inner
    · exact (setting.plain name outer).1
    · exact legal name inner
  · rwa [List.drop_left]

/-- A file below the root is known by its relative path. -/
theorem Below.eq_of_relativePath {setting : Setting σ} {path other : Path}
    (below : setting.Below path) (traceable : setting.Traceable other)
    (same : relativePath setting.root path = relativePath setting.root other) : path = other := by
  rcases below with ⟨rest, rfl, nonempty, legal, plain⟩
  rcases traceable with ⟨names, rfl, namesLegal, namesPlain⟩
  rw [relativePath_injective (fun name member => (setting.plain name member).1) nonempty legal
    plain namesLegal namesPlain same]

/-- What a tree without backslashes below the root holds is traceable. -/
theorem traceable_of_get? {tree : FileTree} (sound : tree.Sound)
    (unescaped : setting.Unescaped tree) {location : Location} {entry : Entry}
    (held : tree.get? location = some entry) : setting.Traceable (Path.ofNames location) := by
  refine ⟨location, rfl, sound.named_of_get? held, fun inside => ?_⟩
  by_cases nonempty : location = []
  · subst nonempty
    exact fun name member => by simp at member
  · exact unescaped _ (FileTree.mem_of_get? nonempty held) inside

end Setting

/-! ## Steps -/

variable {σ : Type} {services : Services σ} {session : Session} {configuration : Configuration}
  {before after : World σ}

namespace Account

variable (account : Account services session configuration before after)

/-- The trees that there are in the course of a run, in order. -/
def trees : List FileTree :=
  ((List.range ((account.proceedings.records session).length + 1)).map fun count =>
    session.logged ((account.proceedings.records session).take count) before.tree) ++ [after.tree]

/-- Without a log the tree changes but once in the course of a run. -/
theorem eq_or_eq_of_mem_trees (quiet : session.log = none) {tree : FileTree}
    (member : tree ∈ account.trees) : tree = before.tree ∨ tree = after.tree := by
  rcases List.mem_append.mp member with earlier | last
  · rcases List.mem_map.mp earlier with ⟨count, _, rfl⟩
    rw [Session.logged, quiet]
    exact .inl rfl
  · exact .inr (List.mem_singleton.mp last)

/-- The chunks that each file was last processed into, after a run. -/
def latest (known : Path → List Chunk) (path : Path) : List Chunk :=
  match (account.proceedings.report path).outcome with
  | .processed _ =>
      if path ∈ account.files then
        ((bounded? services configuration (account.proceedings.seen path) account.root path).map
          (·.chunks)).getD []
      else known path
  | _ => known path

theorem latest_outside {path : Path} (outside : path ∉ account.files) (known : Path → List Chunk) :
    account.latest known path = known path := by
  rw [latest]
  split
  · exact if_neg outside
  · rfl

theorem latest_processed {path : Path} (member : path ∈ account.files) {count : Nat}
    (processed : (account.proceedings.report path).outcome = .processed count)
    (known : Path → List Chunk) :
    account.latest known path = ((bounded? services configuration (account.proceedings.seen path)
      account.root path).map (·.chunks)).getD [] := by
  simp only [latest, processed, if_pos member]

theorem latest_unprocessed {path : Path}
    (unprocessed : ∀ count, (account.proceedings.report path).outcome ≠ .processed count)
    (known : Path → List Chunk) : account.latest known path = known path := by
  rw [latest]
  split
  · rename_i count processed
    exact absurd processed (unprocessed count)
  · rfl

/-- Each file saw one of the trees that there were. -/
theorem seen_mem_trees {path : Path} (member : path ∈ account.files) :
    account.proceedings.seen path ∈ account.trees := by
  rcases account.describe.seen path member with ⟨count, seen⟩
  refine List.mem_append_left _ (List.mem_map.mpr
    ⟨min count (account.proceedings.records session).length, ?_, ?_⟩)
  · exact List.mem_range.mpr (Nat.lt_succ_of_le (Nat.min_le_right _ _))
  · rw [seen, ← List.take_take, List.take_length]

end Account

/-- What is asked of a run in a history: that it is not forced, drops stale chunks, and works
below the root of the setting, with its cache and on its store. -/
structure Setting.Admits (setting : Setting σ)
    (account : Account services session configuration before after) : Prop where
  unforced : configuration.force = false
  evicting : configuration.evictStale = true
  cachePath : configuration.cachePath = setting.cachePath
  root : account.root = setting.root
  keeps : services.KeepsRows setting.rows
  unescaped : setting.Unescaped before.tree
  meets : account.Meets setting.met
  counted : account.Counted

/-- Histories, with the trees that there were and the chunks that files were last processed into. -/
inductive Setting.History (setting : Setting σ) :
    List FileTree → World σ → (Path → List Chunk) → Prop where
  | start (world : World σ) (apart : world.tree.Apart setting.around setting.cachePath)
      (fresh : Ledger.load world.tree setting.cachePath = .ok .empty)
      (bare : setting.rows world.remote = .empty) :
      History setting [world.tree] world fun _ => []
  | edit {trees : List FileTree} {world : World σ} {latest : Path → List Chunk}
      (history : History setting trees world latest) (tree : FileTree) (sound : tree.Sound)
      (same : FileTree.SameAround setting.around world.tree tree) :
      History setting (trees ++ [tree]) { world with tree } latest
  | run {trees : List FileTree} {latest : Path → List Chunk} {services : Services σ}
      {session : Session} {configuration : Configuration} {before after : World σ}
      (history : History setting trees before latest)
      (account : Account services session configuration before after)
      (admits : setting.Admits account) :
      History setting (trees ++ account.trees) after (account.latest latest)
  | forget {trees : List FileTree} {latest : Path → List Chunk} {services : Services σ}
      {configuration : Configuration} {before after : World σ} {path : Path} {had : Bool}
      (history : History setting trees before latest)
      (cachePath : configuration.cachePath = setting.cachePath)
      (root : standingRoot configuration before.tree = setting.root)
      (keeps : services.KeepsRows setting.rows)
      (unescaped : setting.Unescaped before.tree) (traceable : setting.Traceable path)
      (ran : (forget services configuration path).run before = (.ok had, after)) :
      History setting (trees ++ [after.tree]) after latest

/-! ## What is found where -/

namespace Setting

variable {setting : Setting σ}

/-- The files of a run lie below the root. -/
theorem Admits.below {account : Account services session configuration before after}
    (admits : setting.Admits account) (sound : before.tree.Sound) {path : Path}
    (member : path ∈ account.files) : setting.Below path := by
  obtain ⟨rest, _, _, rfl, nonempty, held⟩ := account.exists_below sound setting.plain admits.root member
  have plain := admits.unescaped _ (FileTree.mem_of_get? (by simp [nonempty]) held)
    (List.prefix_append _ _)
  rw [List.drop_left] at plain
  exact ⟨rest, rfl, nonempty, fun name inside =>
    sound.named_of_get? held name (List.mem_append_right _ inside), plain⟩

/-- The relative paths of the files of a run tell them apart. -/
theorem Admits.apart {account : Account services session configuration before after}
    (admits : setting.Admits account) (sound : before.tree.Sound) :
    (account.files.map (relativePath account.root)).Nodup := by
  apply account.distinct.map_on
  intro first firstMember second secondMember same
  rw [admits.root] at same
  exact (admits.below sound firstMember).eq_of_relativePath
    (admits.below sound secondMember).traceable same

/-- A traceable path is forgotten as a traceable path. -/
theorem traceable_trackedPath {tree : FileTree} {root path : Path} (sound : tree.Sound)
    (unescaped : setting.Unescaped tree) (traceable : setting.Traceable path) :
    setting.Traceable (trackedPath tree root path) := by
  have absolute : root.join path = path := by
    rcases traceable with ⟨names, rfl, _⟩
    exact if_pos (Path.isAbsolute_ofNames names)
  rw [trackedPath_eq, absolute]
  split
  · rename_i canonical resolved
    rcases FileTree.canonicalize_eq_ok resolved with ⟨location, entry, found, rfl⟩
    rcases sound.find_spec found with ⟨⟨held, there, _⟩, _⟩
    exact setting.traceable_of_get? sound unescaped there
  · exact traceable

end Setting

end SourceHarvest.Ingestion
