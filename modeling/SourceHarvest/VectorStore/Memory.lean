import SourceHarvest.Chunk.Basic
import SourceHarvest.Embedding.Basic

/-!
# Rows kept in memory

A table of chunks with their vectors, at most one row for each id.  It shows what the
calls of a run do to a store: chunks are put in place of those with their ids, and all
chunks of a file are dropped together.
-/

namespace SourceHarvest

/-- A chunk in a store, with its vector. -/
structure StoredRow where
  chunk : Chunk
  embedding : Embedding
deriving DecidableEq, Repr

/-- A table of rows with distinct ids. -/
structure RowTable where
  rows : List StoredRow
deriving DecidableEq, Repr

namespace RowTable

/-- The table without rows. -/
def empty : RowTable := ⟨[]⟩

/-- The row with an id. -/
def get? (table : RowTable) (id : String) : Option StoredRow :=
  table.rows.find? fun row => row.chunk.id == id

/-- The rows of a file. -/
def ofFile (table : RowTable) (relativePath : String) : List StoredRow :=
  table.rows.filter fun row => row.chunk.metadata.relativePath == relativePath

/-- Put one row in, in place of a row with its id. -/
def put (table : RowTable) (row : StoredRow) : RowTable :=
  ⟨row :: table.rows.filter fun held => held.chunk.id != row.chunk.id⟩

/-- Put chunks in with their vectors. -/
def upsert (table : RowTable) (chunks : List Chunk) (embeddings : List Embedding) : RowTable :=
  (List.zipWith StoredRow.mk chunks embeddings).foldl put table

/-- Drop the rows of a file. -/
def deleteFile (table : RowTable) (relativePath : String) : RowTable :=
  ⟨table.rows.filter fun row => row.chunk.metadata.relativePath != relativePath⟩

theorem get?_put_self (table : RowTable) (row : StoredRow) :
    (table.put row).get? row.chunk.id = some row := by
  simp [get?, put]

theorem ofFile_deleteFile_self (table : RowTable) (relativePath : String) :
    (table.deleteFile relativePath).ofFile relativePath = [] := by
  simp [ofFile, deleteFile]

end RowTable

end SourceHarvest
