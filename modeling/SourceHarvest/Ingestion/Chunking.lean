import SourceHarvest.Chunk.Windows
import SourceHarvest.Configuration.Basic
import SourceHarvest.Syntax.Extraction

/-!
# The chunks of a file

The units of a parsed file are cut into windows, and windows with too many tokens are
dropped.  A file in which no unit is found is indexed as a whole, unless it has syntax
errors, which make it fail.
-/

namespace SourceHarvest

/-- The chunks of a file that are indexed, and how many were dropped. -/
structure BoundedChunks where
  chunks : List Chunk
  dropped : Nat
deriving DecidableEq, Repr

namespace BoundedChunks

/-- The units of a parsed file, or the file as a whole. -/
def units (configuration : Configuration) (path : Path) (relativePath : String)
    (parsed : ParsedSource) : Except Failure (List ExtractedChunk) :=
  let file : SourceFile := ⟨path, relativePath, parsed.language, parsed.source⟩
  let categories := (configuration.unitsFor? parsed.language).getD []
  match parsed.tree.extract categories file with
  | [] =>
      if parsed.hasError then .error (Failure.ofCause (.emptySyntaxTree path))
      else if configuration.wholeFileFallback then .ok file.wholeChunk?.toList
      else .ok []
  | found => .ok found

/-- All windows over the units of a file, in order. -/
def windows (size : WindowSize) (extracted : List ExtractedChunk) : Except Failure (List Chunk) :=
  (·.flatten) <$> (assignIds extracted).mapM (·.split size)

/-- Keep the chunks that do not have too many tokens. -/
def bound (limit : Nat) (chunks : List Chunk) : BoundedChunks :=
  let kept := chunks.filter fun chunk => estimateTokens chunk.content ≤ limit
  ⟨kept, chunks.length - kept.length⟩

/-- The chunks of a parsed file. -/
def ofParsed (configuration : Configuration) (path : Path) (relativePath : String)
    (parsed : ParsedSource) : Except Failure BoundedChunks := do
  let extracted ← units configuration path relativePath parsed
  let all ← windows configuration.window extracted
  pure (bound configuration.hardTokenLimit all)

theorem length_bound (limit : Nat) (chunks : List Chunk) :
    (bound limit chunks).chunks.length + (bound limit chunks).dropped = chunks.length := by
  have shorter := List.length_filter_le (fun chunk => decide (estimateTokens chunk.content ≤ limit)) chunks
  simp only [bound]
  omega

end BoundedChunks

end SourceHarvest
