import SourceHarvest.Failure.Basic
import SourceHarvest.FileTree.Operations
import SourceHarvest.Syntax.Tree

/-!
# Languages

A file belongs to a language by the extension of its name.  Every language has a set
of categories whose constructs are indexed unless the settings say otherwise.
-/

namespace SourceHarvest

/-- A language that source files can be written in. -/
inductive Language where
  | rust
  | typescript
  | javascript
  | python
  | go
  | cpp
  | java
  | csharp
deriving DecidableEq, Repr

namespace Language

/-- All languages, in order. -/
def all : List Language :=
  [rust, typescript, javascript, python, go, cpp, java, csharp]

/-- The name of a language in records and settings. -/
def tag : Language → String
  | rust => "rust"
  | typescript => "typescript"
  | javascript => "javascript"
  | python => "python"
  | go => "go"
  | cpp => "cpp"
  | java => "java"
  | csharp => "csharp"

/-- The language of each known extension, in the order of the extensions. -/
def byExtension : List (String × Language) :=
  [("cc", cpp), ("cpp", cpp), ("cs", csharp), ("go", go), ("h", cpp), ("hpp", cpp),
   ("java", java), ("js", javascript), ("jsx", javascript), ("mjs", javascript),
   ("py", python), ("rs", rust), ("ts", typescript), ("tsx", typescript)]

/-- The known extensions, in order. -/
def extensions : List String :=
  byExtension.map (·.1)

/-- The extension by which a path is assigned to a language, in lowercase. -/
def extensionOf (path : Path) : String :=
  Text.lowercase (path.extension?.getD "")

/-- The language of the file at a path. -/
def ofPath? (path : Path) : Option Language :=
  byExtension.lookup (extensionOf path)

/-- The categories whose constructs are indexed by default. -/
def defaultUnits : Language → List String
  | rust => ["function_item", "struct_item", "enum_item", "trait_item", "impl_item"]
  | typescript =>
      ["class_declaration", "abstract_class_declaration", "interface_declaration",
        "enum_declaration", "function_declaration", "method_definition"]
  | javascript =>
      ["class_declaration", "function_declaration", "generator_function_declaration",
        "method_definition"]
  | python => ["class_definition", "function_definition"]
  | go => ["type_declaration", "function_declaration", "method_declaration"]
  | cpp => ["class_specifier", "struct_specifier", "enum_specifier", "function_definition"]
  | java =>
      ["class_declaration", "interface_declaration", "enum_declaration", "record_declaration",
        "method_declaration", "constructor_declaration"]
  | csharp =>
      ["class_declaration", "interface_declaration", "enum_declaration", "struct_declaration",
        "record_declaration", "method_declaration", "constructor_declaration",
        "property_declaration"]

end Language

/-- How source becomes a tree: for an extension and a text, the tree and whether parts of the
text had to be passed over. -/
abbrev Grammar := String → String → Except Failure (SyntaxTree × Bool)

namespace Grammar

/-- Parse a text as the file at a path; only the extension of the path counts. -/
def parse (grammar : Grammar) (path : Path) (source : String) : Except Failure ParsedSource :=
  match Language.ofPath? path with
  | none => .error (Failure.ofCause (.unsupportedExtension (Language.extensionOf path)))
  | some language => do
      let (tree, hasError) ← grammar (Language.extensionOf path) source
      pure { tree, source, language := language.tag, hasError }

/-- Parse the file at a path. -/
def parseFile (grammar : Grammar) (tree : FileTree) (path : Path) :
    Except Failure ParsedSource :=
  match Language.ofPath? path with
  | none => .error (Failure.ofCause (.unsupportedExtension (Language.extensionOf path)))
  | some _ => do
      let source ← Failure.during "Failed to read source file"
        (Failure.ofFileResult (tree.readText path))
      grammar.parse path source

end Grammar

end SourceHarvest
