import SourceHarvest.Proofs.Discovery
import SourceHarvest.Proofs.Ingestion.TableServices
import SourceHarvest.Proofs.Path.Backslashes
import SourceHarvest.VectorStore.Memory

/-!
# Files that share an identity

In ids and in the store a file is known by its relative path alone.  Files whose names are cut
into different parts at their backslashes are kept apart everywhere; where the parts are the same,
the two files share their ids, and to drop the rows of one drops those of the other.
-/

namespace SourceHarvest

/-! ## Files in other places -/

/-- The same piece of source, of a file at another path. -/
def ExtractedChunk.movedTo (extracted : ExtractedChunk) (path : Path) : ExtractedChunk :=
  { extracted with metadata := { extracted.metadata with absolutePath := path } }

namespace SyntaxTree

variable {units : List String} {file : SourceFile} {path : Path}

theorem chunk?_movedTo (scope around : Option String) (tree : SyntaxTree) :
    tree.chunk? { file with absolutePath := path } scope around =
      (tree.chunk? file scope around).map (·.movedTo path) := by
  rw [chunk?, chunk?]
  cases tree.text? file.source with
  | none => rfl
  | some content =>
      rw [Option.bind_some, Option.bind_some]
      split <;> rfl

mutual

theorem chunks_movedTo (scope around : Option String) (tree : SyntaxTree) :
    chunks units { file with absolutePath := path } scope around tree =
      (chunks units file scope around tree).map (·.movedTo path) := by
  cases tree with
  | node category named span nameIndex children =>
      rw [chunks, chunks, List.map_append, chunksOfAll_movedTo]
      congr 1
      split
      · rw [chunk?_movedTo, Option.toList_map]
      · rfl

theorem chunksOfAll_movedTo (scope around : Option String) (trees : List SyntaxTree) :
    chunksOfAll units { file with absolutePath := path } scope around trees =
      (chunksOfAll units file scope around trees).map (·.movedTo path) := by
  cases trees with
  | nil => rfl
  | cons tree rest =>
      rw [chunksOfAll, chunksOfAll, List.map_append, chunks_movedTo, chunksOfAll_movedTo]

end

end SyntaxTree

theorem SourceFile.wholeChunk?_movedTo (file : SourceFile) (path : Path) :
    SourceFile.wholeChunk? { file with absolutePath := path } =
      file.wholeChunk?.map (·.movedTo path) := by
  rw [wholeChunk?, wholeChunk?]
  split <;> rfl

namespace BoundedChunks

variable {configuration : Configuration} {relativePath : String} {parsed : ParsedSource}

/-- Where a file lies changes no unit of it but for the path. -/
theorem units_movedTo (first second : Path) :
    (units configuration first relativePath parsed).toOption =
      (units configuration second relativePath parsed).toOption.map
        (·.map (·.movedTo first)) := by
  have moved := @SyntaxTree.chunks_movedTo ((configuration.unitsFor? parsed.language).getD [])
    ⟨second, relativePath, parsed.language, parsed.source⟩ first
    (parsed.tree.scopeName? parsed.source) none parsed.tree
  simp only [units, SyntaxTree.extract, moved]
  cases SyntaxTree.chunks ((configuration.unitsFor? parsed.language).getD [])
      ⟨second, relativePath, parsed.language, parsed.source⟩
      (parsed.tree.scopeName? parsed.source) none parsed.tree with
  | cons found others => rfl
  | nil =>
      simp only [List.map_nil]
      split
      · rfl
      · split
        · rw [Except.toOption, Except.toOption, Option.map_some, ← Option.toList_map,
            ← SourceFile.wholeChunk?_movedTo]
        · rfl

/-- The encodings under the ids of a file tell its relative path and not its path. -/
theorem encodings_congr (first second : Path) :
    encodings configuration first relativePath parsed =
      encodings configuration second relativePath parsed := by
  have moved := @units_movedTo configuration relativePath parsed first second
  cases firstUnits : units configuration first relativePath parsed with
  | error failure =>
      cases secondUnits : units configuration second relativePath parsed with
      | error other => rw [encodings, encodings, firstUnits, secondUnits]
      | ok extracted =>
          rw [firstUnits, secondUnits] at moved
          cases moved
  | ok extracted =>
      cases secondUnits : units configuration second relativePath parsed with
      | error other =>
          rw [firstUnits, secondUnits] at moved
          cases moved
      | ok others =>
          rw [firstUnits, secondUnits] at moved
          cases moved
          rw [encodings, encodings, firstUnits, secondUnits]
          simp only [List.zipIdx_map, List.map_map]
          rfl

/-- An encoding that was met for a file bears its relative path. -/
theorem exists_of_mem_encodings {path : Path} {encoding : List UInt8}
    (member : encoding ∈ encodings configuration path relativePath parsed) :
    ∃ metadata hash ordinal, metadata.relativePath = relativePath ∧
      encoding = ChunkId.encode metadata hash ordinal := by
  rw [encodings] at member
  split at member
  · rename_i extracted found
    obtain ⟨placed, inside, rfl⟩ := List.mem_map.mp member
    exact ⟨_, _, _, (bears_of_mem_units found placed.1 (List.fst_mem_of_mem_zipIdx inside)).relativePath,
      rfl⟩
  · cases member

end BoundedChunks

/-! ## Two files -/

namespace FileJob

/-- The chunk was cut from a file, whatever its source and its syntax were then. -/
def IsCutFrom (root path : Path) (chunk : Chunk) : Prop :=
  ∃ configuration parsed bounded,
    BoundedChunks.ofParsed configuration path (relativePath root path) parsed = .ok bounded ∧
      chunk ∈ bounded.chunks

theorem IsCutFrom.relativePath_eq {root path : Path} {chunk : Chunk}
    (cutFrom : IsCutFrom root path chunk) : chunk.metadata.relativePath = relativePath root path := by
  obtain ⟨configuration, parsed, bounded, cut, member⟩ := cutFrom
  obtain ⟨_, _, _, _, bears, _⟩ := BoundedChunks.exists_unit_of_ofParsed cut member
  exact bears.relativePath

/-- Nothing of one file is taken for something of the other one: not its relative path, no encoding
under an id, and no row of it when the other file is dropped from a store. -/
structure KeptApart (root first second : Path) : Prop where
  relativePath : relativePath root first ≠ relativePath root second
  encodings : ∀ firstConfiguration secondConfiguration firstParsed secondParsed,
    List.Disjoint
      (BoundedChunks.encodings firstConfiguration first (FileJob.relativePath root first) firstParsed)
      (BoundedChunks.encodings secondConfiguration second (FileJob.relativePath root second)
        secondParsed)
  rows : ∀ (table : RowTable), ∀ row ∈ table.rows,
    (IsCutFrom root second row.chunk → row ∈ (table.deleteFile (FileJob.relativePath root first)).rows) ∧
    (IsCutFrom root first row.chunk → row ∈ (table.deleteFile (FileJob.relativePath root second)).rows)

/-- One file is taken for the other one: they have one relative path, the same source gives the same
encodings under its ids in both of them, and to drop one from a store drops all rows of the other. -/
structure Merged (root first second : Path) : Prop where
  relativePath : relativePath root first = relativePath root second
  encodings : ∀ configuration parsed,
    BoundedChunks.encodings configuration first (FileJob.relativePath root first) parsed =
      BoundedChunks.encodings configuration second (FileJob.relativePath root second) parsed
  rows : ∀ (table : RowTable), ∀ row ∈ (table.deleteFile (FileJob.relativePath root first)).rows,
    ¬ IsCutFrom root first row.chunk ∧ ¬ IsCutFrom root second row.chunk

variable {root first second : Path}

/-- Ids and rows show the relative path of a file, so it decides. -/
theorem keptApart_iff :
    KeptApart root first second ↔ relativePath root first ≠ relativePath root second := by
  refine ⟨KeptApart.relativePath, fun distinct => ⟨distinct, ?_, ?_⟩⟩
  · intro _ _ _ _ encoding inFirst inSecond
    obtain ⟨_, _, _, firstBears, rfl⟩ := BoundedChunks.exists_of_mem_encodings inFirst
    obtain ⟨_, _, _, secondBears, same⟩ := BoundedChunks.exists_of_mem_encodings inSecond
    apply distinct
    rw [← firstBears, ChunkId.relativePath_eq_of_encode_eq same, secondBears]
  · intro table row member
    simp only [RowTable.deleteFile, List.mem_filter, bne_iff_ne, ne_eq, and_iff_right member]
    constructor
    · intro cutFrom same
      exact distinct (same.symm.trans cutFrom.relativePath_eq)
    · intro cutFrom same
      exact distinct (cutFrom.relativePath_eq.symm.trans same)

theorem merged_iff :
    Merged root first second ↔ relativePath root first = relativePath root second := by
  refine ⟨Merged.relativePath, fun same => ⟨same, fun configuration parsed => ?_, ?_⟩⟩
  · rw [same, BoundedChunks.encodings_congr first second]
  · intro table row member
    have other : row.chunk.metadata.relativePath ≠ relativePath root first := by
      simpa using (List.mem_filter.mp member).2
    exact ⟨fun cutFrom => other cutFrom.relativePath_eq,
      fun cutFrom => other (cutFrom.relativePath_eq.trans same.symm)⟩

end FileJob

namespace Small

open FileJob Ingestion

/-- A directory with a file, and another file whose name holds a backslash. -/
def escaped : FileTree where
  entries :=
    [ (["r"], .directory 5000),
      (["r", "a"], .directory 5000),
      (["r", "a", "B.java"], .file "class B".toUTF8 5000),
      (["r", "a\\B.java"], .file "class A".toUTF8 5000) ]
  workingDirectory := []
  clock := 5000

theorem sound_escaped : escaped.Sound :=
  ⟨by decide +kernel, by decide +kernel, FileTree.nested_of_entries (by decide +kernel),
    by decide +kernel⟩

end Small

end SourceHarvest
