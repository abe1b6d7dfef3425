import SourceHarvest.Chunk.Identity
import SourceHarvest.Syntax.Category
import SourceHarvest.Syntax.Tree
import SourceHarvest.Text.Blank
import SourceHarvest.Text.Search

/-!
# Extraction of chunks

Every construct whose category is one of the units becomes a chunk, outer ones before
those inside them.  A class-like construct heads everything inside it, whether or not
it is a unit itself.  A file without units can become one chunk as a whole.
-/

namespace SourceHarvest

/-- The file that chunks are taken from. -/
structure SourceFile where
  absolutePath : Path
  relativePath : String
  language : String
  source : String

namespace SyntaxTree

/-- The source text that a construct covers, if its ends lie between characters. -/
def text? (source : String) (tree : SyntaxTree) : Option String :=
  (Text.slice? source.toList tree.span.startByte tree.span.endByte).map String.ofList

/-- The category is that of something that names. -/
def looksLikeName (category : String) : Bool :=
  Text.occursIn "identifier".toList category.toList || Text.occursIn "name".toList category.toList

/-- The part that names a construct: the one marked so, else the first that looks like it. -/
def identifierNode? (tree : SyntaxTree) : Option SyntaxTree :=
  match tree.nameChild? with
  | some child => some child
  | none => tree.children.find? fun child => child.isNamed && looksLikeName child.category

/-- The name of a construct. -/
def identifier? (source : String) (tree : SyntaxTree) : Option String :=
  tree.identifierNode?.bind (text? source)

/-- The kind of chunk that a construct makes. -/
def kind (tree : SyntaxTree) : ChunkKind :=
  ChunkKind.ofCategory tree.category

/-- The name of the package or namespace that a file declares at its top. -/
def scopeName? (source : String) (root : SyntaxTree) : Option String :=
  (root.children.find? fun child => child.kind = .namespaceUnit).bind (identifier? source)

/-- The name under which a construct stands in records. -/
def ownContainer? (source : String) (around : Option String) (tree : SyntaxTree) :
    Option String :=
  if tree.kind.isContainer then tree.identifier? source else around

/-- The name that heads the parts of a construct; without a name of its own it passes on
the one around it. -/
def innerContainer? (source : String) (around : Option String) (tree : SyntaxTree) :
    Option String :=
  if tree.kind.isContainer then (tree.identifier? source).or around else around

/-- The chunk of one construct, unless its text is blank or cannot be cut out. -/
def chunk? (file : SourceFile) (scope around : Option String) (tree : SyntaxTree) :
    Option ExtractedChunk :=
  (tree.text? file.source).bind fun content =>
    if Text.isBlankText content.toList then none
    else
      some
        { content
          metadata :=
            { absolutePath := file.absolutePath
              relativePath := file.relativePath
              scopeName := scope
              containerName := tree.ownContainer? file.source around
              memberName := if tree.kind.isMember then tree.identifier? file.source else none
              kind := tree.kind
              language := file.language
              startLine := tree.span.startRow + 1
              endLine := tree.span.endRow + 1
              contentHash := contentHash (utf8Bytes content) } }

mutual

/-- The chunks of a construct and of all inside it. -/
def chunks (units : List String) (file : SourceFile) (scope around : Option String) :
    SyntaxTree → List ExtractedChunk
  | node category named span nameIndex children =>
      let tree := node category named span nameIndex children
      let own := if units.contains category then (tree.chunk? file scope around).toList else []
      own ++ chunksOfAll units file scope (tree.innerContainer? file.source around) children

/-- The chunks of several constructs in order. -/
def chunksOfAll (units : List String) (file : SourceFile) (scope around : Option String) :
    List SyntaxTree → List ExtractedChunk
  | [] => []
  | tree :: rest =>
      chunks units file scope around tree ++ chunksOfAll units file scope around rest

end

/-- All chunks of a file, in the order of the source. -/
def extract (units : List String) (file : SourceFile) (root : SyntaxTree) :
    List ExtractedChunk :=
  chunks units file (root.scopeName? file.source) none root

end SyntaxTree

/-- The whole file as one chunk, unless it is blank. -/
def SourceFile.wholeChunk? (file : SourceFile) : Option ExtractedChunk :=
  if Text.isBlankText file.source.toList then none
  else
    some
      { content := file.source
        metadata :=
          { absolutePath := file.absolutePath
            relativePath := file.relativePath
            scopeName := none
            containerName := none
            memberName := none
            kind := .file
            language := file.language
            startLine := 1
            endLine := max 1 (Text.lineCount file.source.toList)
            contentHash := contentHash (utf8Bytes file.source) } }

end SourceHarvest
