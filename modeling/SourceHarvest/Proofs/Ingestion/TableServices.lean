import SourceHarvest.Proofs.Ingestion.Harvest
import SourceHarvest.Proofs.Ingestion.Questions

/-!
# Services over a table

The plainest services keep their rows in a table and answer by fixed functions.  They keep rows as
a store does, and what they answer does not depend on what they were asked before.  Runs with
them over small source trees show that the assumptions on runs can be met.
-/

namespace SourceHarvest

namespace Services

/-- Services that keep rows in a table.  The functions say what is answered, and so for which files
and chunks a call fails. -/
def ofTable (extensions : List String) (parse : Path → String → Except Failure ParsedSource)
    (embed : List String → Except Failure (List Embedding))
    (evict : String → Except Failure Unit) (upsert : List Chunk → Except Failure Unit) :
    Services RowTable where
  extensions := extensions
  parse := parse
  embed texts table := (embed texts, table)
  connect table := (.ok (), table)
  upsert chunks embeddings table :=
    match upsert chunks with
    | .ok () => (.ok (), table.upsert chunks embeddings)
    | .error failure => (.error failure, table)
  deleteFile relativePath table :=
    match evict relativePath with
    | .ok () => (.ok (), table.deleteFile relativePath)
    | .error failure => (.error failure, table)

variable (extensions : List String) (parse : Path → String → Except Failure ParsedSource)
  (embed : List String → Except Failure (List Embedding)) (evict : String → Except Failure Unit)
  (upsert : List Chunk → Except Failure Unit)

theorem keepsRows_ofTable : (ofTable extensions parse embed evict upsert).KeepsRows id where
  connect _ := rfl
  embed _ _ := rfl
  upsert chunks embeddings table := by
    cases answered : upsert chunks <;> simp [ofTable, answered, Except.toBool]
  deleteFile relativePath table := by
    cases answered : evict relativePath <;> simp [ofTable, answered, Except.toBool]

theorem steady_ofTable : (ofTable extensions parse embed evict upsert).Steady where
  embed _ _ _ := rfl
  upsert chunks embeddings left right := by
    simp only [ofTable]
    cases upsert chunks <;> rfl
  deleteFile relativePath left right := by
    simp only [ofTable]
    cases evict relativePath <;> rfl

end Services

/-! ## Small trees

Files lie in one directory, each is one syntax node and so one chunk, and no time passes. -/

namespace Small

open Ingestion

/-- The directory `/r` with some files, and maybe a cache in `/c`. -/
def tree (files : List (String × String)) (cache : Option Ledger) : FileTree where
  entries :=
    (match cache with
      | some ledger =>
          [ (["c"], .directory 5000),
            (["c", "cache.json"], .file ledger.encode.toUTF8 5000) ]
      | none => []) ++
    (["r"], .directory 5000) :: files.map fun file => (["r", file.1], .file file.2.toUTF8 5000)
  workingDirectory := []
  clock := 5000

/-- A source as one syntax node. -/
def parsed (source : String) : ParsedSource where
  tree := .node "program" true ⟨0, 0, 0, 0⟩ none []
  source
  language := "java"
  hasError := false

/-- Services that never fail, unless it is for the vectors. -/
def services (embed : List String → Except Failure (List Embedding)) : Services RowTable :=
  .ofTable ["java"] (fun _ source => .ok (parsed source)) embed (fun _ => .ok ()) fun _ => .ok ()

/-- Chunks get vectors without any entries. -/
def embed (texts : List String) : Except Failure (List Embedding) :=
  .ok (texts.map fun _ => ⟨[]⟩)

def configuration : Configuration :=
  { Configuration.default ⟨"/r"⟩ ⟨"/c"⟩ with cachePath := ⟨"/c/cache.json"⟩ }

/-- A session without a log, in which files take turns in some way. -/
def session (schedule : List Nat) : Session :=
  ⟨"session", 0, fun _ => schedule, none⟩

/-- The encodings under the ids of the chunks of a file. -/
def encodings (path : Path) (source : String) : List (List UInt8) :=
  BoundedChunks.encodings configuration path (FileJob.relativePath ⟨"/r"⟩ path) (parsed source)

/-- To know the encodings of a file it is enough to know its text. -/
theorem meets_of_source {embed : List String → Except Failure (List Embedding)}
    {settings : Configuration} {tree : FileTree} {root path : Path} {source : String}
    {met : Set (List UInt8)} (readable : tree.source? path = some source)
    (inside : ∀ encoding ∈ BoundedChunks.encodings settings path (FileJob.relativePath root path)
      (parsed source), encoding ∈ met) :
    FileJob.Meets (services embed) settings tree root path met := by
  intro other grammar found answered
  obtain rfl := Option.some.inj (readable.symm.trans found)
  obtain rfl := Except.ok.inj answered
  exact inside

theorem meets {embed : List String → Except Failure (List Embedding)} {tree : FileTree}
    {path : Path} {source : String} {met : Set (List UInt8)}
    (readable : tree.source? path = some source) (inside : ∀ encoding ∈ encodings path source,
      encoding ∈ met) :
    FileJob.Meets (services embed) configuration tree ⟨"/r"⟩ path met :=
  meets_of_source readable inside

/-- What holds of the directory and of all files, and of the cache if there is one, holds of every
entry of a small tree. -/
theorem forall_mem_tree {files : List (String × String)} {cache : Option Ledger}
    {property : Location × Entry → Prop}
    (cached : ∀ ledger ∈ cache, property (["c"], .directory 5000) ∧
      property (["c", "cache.json"], .file ledger.encode.toUTF8 5000))
    (root : property (["r"], .directory 5000))
    (below : ∀ file ∈ files, property (["r", file.1], .file file.2.toUTF8 5000)) :
    ∀ held ∈ (tree files cache).entries, property held := by
  intro held member
  rcases List.mem_append.mp member with inCache | rest
  · cases cache with
    | none => cases inCache
    | some ledger =>
        rcases List.mem_pair.mp inCache with rfl | rfl
        · exact (cached ledger rfl).1
        · exact (cached ledger rfl).2
  · rcases List.mem_cons.mp rest with rfl | inside
    · exact root
    · rcases List.mem_map.mp inside with ⟨file, listed, rfl⟩
      exact below file listed

/-- A small tree is sound if its files have different names. -/
theorem sound_tree {files : List (String × String)} (cache : Option Ledger)
    (named : ∀ file ∈ files, Path.IsName file.1) (distinct : (files.map (·.1)).Nodup) :
    (tree files cache).Sound := by
  have legal : ∀ name ∈ ["c", "cache.json", "r"], Path.IsName name := by decide
  constructor
  · have inside : Function.Injective fun name : String => ["r", name] := by
      intro first second same
      simpa using same
    have below : (files.map fun file => ["r", file.1]).Nodup := by
      have apart := distinct.map inside
      rwa [List.map_map] at apart
    cases cache with
    | none => simpa [tree, Function.comp_def] using below
    | some ledger => simpa [tree, Function.comp_def] using below
  · apply forall_mem_tree
    · simp [legal]
    · simp [legal]
    · intro file member
      simp [legal, named file member]
  · apply FileTree.nested_of_entries
    apply forall_mem_tree
    · rintro ledger ⟨⟩
      exact ⟨FileTree.way_root _, rfl⟩
    · exact FileTree.way_root _
    · intro file member
      cases cache with
      | none => rfl
      | some ledger => rfl
  · rfl

/-- There are no links in the tree. -/
theorem unlinked_tree (files : List (String × String)) (cache : Option Ledger)
    (names : List String) : (tree files cache).Unlinked [] names := by
  apply FileTree.unlinked_of_entries
  apply forall_mem_tree
  · rintro ledger ⟨⟩
    exact ⟨by rintro target ⟨⟩, by rintro target ⟨⟩⟩
  · rintro target ⟨⟩
  · rintro file member target ⟨⟩

theorem find_cache (files : List (String × String)) (ledger : Ledger) :
    (tree files (some ledger)).find configuration.cachePath =
      .ok (["c", "cache.json"], .file ledger.encode.toUTF8 5000) := by
  have accepted : FileTree.refusal? configuration.cachePath.text = none := by decide +kernel
  have absolute : configuration.cachePath.isAbsolute = true := by decide +kernel
  have names : FileTree.steps configuration.cachePath = ["c", "cache.json"] := by decide +kernel
  rw [FileTree.find, FileTree.resolve, accepted, absolute, names]
  rfl

/-- The cache of a small tree is loaded as the ledger that it was made of. -/
theorem load_cache (files : List (String × String)) {ledger : Ledger} (ordered : ledger.Ordered)
    (fits : ledger.Fits) :
    Ledger.load (tree files (some ledger)) configuration.cachePath = .ok ledger := by
  rw [Ledger.load_of_find (find_cache files ledger), Ledger.decode_encode ordered fits]

/-- The cache and its temporary file are outside the directory of the files. -/
theorem cachePaths_plain (files : List (String × String)) (cache : Option Ledger) :
    ∀ path ∈ [["c", "cache.json"], ["c", "cache.json.tmp"]], path ≠ [] ∧
      (∀ name ∈ path, Path.IsPlain name) ∧ ¬ ["r"] <+: path ∧ (tree files cache).Unlinked [] path := by
  intro names member
  rcases List.mem_pair.mp member with rfl | rfl
  · exact ⟨by decide, by decide +kernel, by decide +kernel, unlinked_tree files cache _⟩
  · exact ⟨by decide, by decide +kernel, by decide +kernel, unlinked_tree files cache _⟩

theorem temporaryPath_cache : Ledger.temporaryPath (Path.ofNames ["c", "cache.json"]) =
    Path.ofNames ["c", "cache.json.tmp"] := by
  decide +kernel

theorem apart_tree (files : List (String × String)) (cache : Option Ledger)
    (sound : (tree files cache).Sound) :
    (tree files cache).Apart ["r"] configuration.cachePath :=
  FileTree.Apart.of_names sound temporaryPath_cache (cachePaths_plain files cache)

/-- The file that is worked on. -/
def file : Path :=
  ⟨"/r/A.java"⟩

/-- A run works on the files that are found below its root. -/
theorem root_files_eq {services : Services RowTable} {session : Session} {settings : Configuration}
    {before after : World RowTable} (account : Account services session settings before after)
    {root : Path} {files : List Path} (resolved : resolveRoot settings before.tree = .ok root)
    (discovered : (discovery services settings).run before.tree root = .ok files) :
    account.root = root ∧ account.files = files := by
  have same : account.root = root := Except.ok.inj (account.resolved.symm.trans resolved)
  have found := account.discovered
  rw [same] at found
  exact ⟨same, Except.ok.inj (found.symm.trans discovered)⟩

section Single

variable {embed : List String → Except Failure (List Embedding)} {schedule : List Nat}
  {before after : World RowTable}
  (account : Account (services embed) (session schedule) configuration before after)

include account in
/-- A run over a single file works on that file alone. -/
theorem files_eq (resolved : resolveRoot configuration before.tree = .ok ⟨"/r"⟩)
    (discovered : (discovery (services embed) configuration).run before.tree ⟨"/r"⟩ = .ok [file]) :
    account.root = ⟨"/r"⟩ ∧ account.files = [file] :=
  root_files_eq account resolved discovered

theorem meets_of_single (root : account.root = ⟨"/r"⟩) (files : account.files = [file])
    {source : String} (readable : before.tree.source? file = some source)
    {met : Set (List UInt8)} (inside : ∀ encoding ∈ encodings file source, encoding ∈ met) :
    account.Meets met := by
  intro path member
  rw [account.seen_eq rfl member, root]
  rw [files, List.mem_singleton] at member
  subst member
  exact meets readable inside

end Single

/-- One file, and no cache. -/
def fresh : World RowTable :=
  ⟨tree [("A.java", "class A")] none, .empty, []⟩

theorem sound_fresh : fresh.tree.Sound :=
  sound_tree none (by decide) (by decide)

/-- The file was indexed. -/
def indexed : World RowTable :=
  ((run (services embed) (session []) configuration).run fresh).2

theorem eq_mk_snd {α β : Type} {first : α} {pair : α × β} (same : pair.1 = first) :
    pair = (first, pair.2) := by
  rw [← same]

theorem run_fresh : (run (services embed) (session []) configuration).run fresh =
    (.ok ⟨1, 1, 0, 0, 1, 0, []⟩, indexed) := by
  rw [indexed]
  exact eq_mk_snd (by decide +kernel)

end Small

end SourceHarvest
