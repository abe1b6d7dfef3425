import SourceHarvest.Chunk.Basic

/-!
# Categories of constructs

The grammars name the categories of their constructs.  A fixed table says what kind
of chunk a construct makes; a category outside the table makes the kind `file`.
-/

namespace SourceHarvest.ChunkKind

/-- The categories of each kind. -/
def categories : List (ChunkKind × List String) :=
  [ (namespaceUnit,
      ["package_declaration", "package_clause", "namespace_declaration",
        "file_scoped_namespace_declaration", "namespace_definition"]),
    (classUnit,
      ["class_declaration", "abstract_class_declaration", "class_definition", "class_specifier",
        "struct_specifier", "struct_item", "struct_declaration", "record_declaration",
        "impl_item", "type_declaration"]),
    (interfaceUnit, ["interface_declaration", "trait_item"]),
    (enumeration, ["enum_declaration", "enum_item", "enum_specifier"]),
    (function,
      ["function_declaration", "function_definition", "function_item",
        "generator_function_declaration"]),
    (method, ["method_declaration", "method_definition", "constructor_declaration"]),
    (property,
      ["property_declaration", "field_declaration", "public_field_definition",
        "property_signature"]),
    (templateDirective, ["directive", "template_directive"]),
    (templateBlock, ["section", "template_block"]) ]

/-- The kind of chunk that a construct of a category makes. -/
def ofCategory (category : String) : ChunkKind :=
  match categories.find? fun row => row.2.contains category with
  | some row => row.1
  | none => file

end SourceHarvest.ChunkKind
