import ApiBindings.Document.Node

/-!
# Type declarations

A declaration gives a name to an object type with properties and parents, to an enum, or to any
other type.
-/
namespace ApiBindings

inductive DeclarationKind
  | object
  | enumeration
  | typeAlias
  deriving DecidableEq, Repr

def DeclarationKind.word : DeclarationKind → String
  | .object => "object"
  | .enumeration => "enum"
  | .typeAlias => "alias"

structure PropertyDeclaration where
  name : String
  type : String
  required : Bool
  /-- The text of the comment, or whatever stands in its place. -/
  description : Node
  schema : Node
  deriving Repr, DecidableEq

/-- What is declared, without the name. -/
structure DeclarationBody where
  kind : DeclarationKind
  type : String
  properties : List PropertyDeclaration
  parents : List String
  deriving Repr, DecidableEq

structure Declaration where
  typeName : String
  body : DeclarationBody
  deriving Repr, DecidableEq

namespace DeclarationBody

/-- The text of a type that nothing is known about. -/
def unknownType : String := "Record<string, any>"

def object (properties : List PropertyDeclaration) (parents : List String) : DeclarationBody :=
  ⟨.object, unknownType, properties, parents⟩

/-- Another name for a type; an empty text stands for an unknown type. -/
def typeAlias (type : String) : DeclarationBody :=
  ⟨.typeAlias, if type = "" then unknownType else type, [], []⟩

def enumeration (type : String) : DeclarationBody := ⟨.enumeration, type, [], []⟩

end DeclarationBody

namespace PropertyDeclaration

def toNode (property : PropertyDeclaration) : Node :=
  .object [(.text "name", .text property.name), (.text "type", .text property.type),
    (.text "required", .bool property.required), (.text "description", property.description),
    (.text "schema", property.schema)]

end PropertyDeclaration

namespace Declaration

def toNode (declaration : Declaration) : Node :=
  let body := declaration.body
  .object [(.text "type_name", .text declaration.typeName), (.text "kind", .text body.kind.word),
    (.text "type", .text body.type),
    (.text "properties", .list (body.properties.map PropertyDeclaration.toNode)),
    (.text "parents", .list (body.parents.map Node.text)),
    (.text "is_enum", .bool (body.kind == .enumeration))]

end Declaration

end ApiBindings
