import SourceHarvest.Path
import SourceHarvest.Text.Lines

/-!
# Chunks of source

A chunk is a piece of a source file that is indexed by itself.  Its metadata says
where it stands and what it is; its id is its key in the vector store.
-/

namespace SourceHarvest

/-- What a chunk is in the structure of its file. -/
inductive ChunkKind where
  | namespaceUnit
  | classUnit
  | interfaceUnit
  | enumeration
  | function
  | method
  | property
  | templateDirective
  | templateBlock
  | file
deriving DecidableEq, Repr

namespace ChunkKind

/-- All kinds, in order. -/
def all : List ChunkKind :=
  [namespaceUnit, classUnit, interfaceUnit, enumeration, function, method, property,
    templateDirective, templateBlock, file]

/-- The name of a kind in records. -/
def name : ChunkKind → String
  | namespaceUnit => "namespace"
  | classUnit => "class"
  | interfaceUnit => "interface"
  | enumeration => "enum"
  | function => "function"
  | method => "method"
  | property => "property"
  | templateDirective => "template_directive"
  | templateBlock => "template_block"
  | file => "file"

/-- The kind with a given name. -/
def ofName? (name : String) : Option ChunkKind :=
  all.find? (·.name == name)

/-- Kinds whose names head the units inside them. -/
def isContainer : ChunkKind → Bool
  | classUnit | interfaceUnit | enumeration => true
  | _ => false

/-- Kinds whose units have names of their own as members. -/
def isMember : ChunkKind → Bool
  | function | method | property => true
  | _ => false

theorem ofName?_name (kind : ChunkKind) : ofName? kind.name = some kind := by
  cases kind <;> decide

theorem name_injective {first second : ChunkKind} (equal : first.name = second.name) :
    first = second := by
  have found := ofName?_name first
  rw [equal, ofName?_name second] at found
  exact (Option.some.inj found).symm

end ChunkKind

/-- Where a chunk stands and what it is.  Lines count from one, the last one included. -/
structure ChunkMetadata where
  absolutePath : Path
  relativePath : String
  scopeName : Option String
  containerName : Option String
  memberName : Option String
  kind : ChunkKind
  language : String
  startLine : Nat
  endLine : Nat
  contentHash : String
deriving DecidableEq, Repr

/-- A piece of source before it has an id. -/
structure ExtractedChunk where
  content : String
  metadata : ChunkMetadata
deriving DecidableEq, Repr

/-- A piece of source with its id. -/
structure Chunk where
  id : String
  content : String
  metadata : ChunkMetadata
deriving DecidableEq, Repr

/-- A rough count of the tokens of a text: one for each four bytes begun. -/
def estimateTokens (text : String) : Nat :=
  (text.utf8ByteSize + 3) / 4

end SourceHarvest
