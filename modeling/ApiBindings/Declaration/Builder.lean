import ApiBindings.Declaration.Basic
import ApiBindings.Declaration.EnumText
import ApiBindings.Reference.Resolution
import ApiBindings.Settings
import ApiBindings.Text.CodePoint

/-!
# Declarations of a document

Every component schema gives one declaration, and every operation with parameters gives one
more for them. The list is sorted by type name; declarations of one name keep their order and
leave a remark.
-/
namespace ApiBindings

/-- Where the declarations of a document come from. -/
structure DeclarationBuilder where
  document : Node
  settings : Settings
  namer : Namer

namespace DeclarationBuilder

variable [Text.Romanization]

def create (document : Node) (settings : Settings) : Except Misfit DeclarationBuilder :=
  return ⟨document, settings, ← settings.namer document⟩

def typeText (builder : DeclarationBuilder) (schema : Node) : Attempt String :=
  Schema.typeText builder.settings.namespaceName schema

/-- Title and description, as far as they are there. -/
def describeProperty (schema : Members) : String :=
  " ".intercalate
    (([schema.field "title", schema.field "description"].filter Node.isPresent).map Node.display)

/-- A property schema; one that is no object counts as empty. -/
def propertySchema (property : Node) : Members := property.members?.getD []

def property (builder : DeclarationBuilder) (required : List Scalar) (key : Scalar)
    (property : Node) : Attempt PropertyDeclaration := do
  let schema := propertySchema property
  let type ← builder.typeText (if schema.isEmpty then Schema.standIn else .object schema)
  return ⟨key.display, type, required.any key.same, .text (describeProperty schema), .object schema⟩

/-- The members given as properties. A schema without any has none of them, and one that gives
something else is not asked for its required keys. -/
def propertyMembers? (schema : Members) : Option Members :=
  match schema.field "properties" with
  | .object members => some members
  | other => if other.isPresent then none else some []

/-- The properties of an object schema. -/
def properties (builder : DeclarationBuilder) (schema : Members) :
    Attempt (List PropertyDeclaration) :=
  match propertyMembers? schema with
  | some members => do
    let required ← Schema.requiredKeys schema
    members.mapM fun (key, node) => builder.property required key node
  | none => pure []

/-- The name of the type a schema refers to. -/
def parentName (builder : DeclarationBuilder) (schema : Members) : Noted String :=
  Schema.referenceName builder.settings.namespaceName schema

/-- What one component of a composition adds: a parent if it is a reference, its own properties
otherwise. -/
def component (builder : DeclarationBuilder) (schema : Node) :
    Attempt (List String × List PropertyDeclaration) :=
  match schema with
  | .object members =>
    if (Members.field members "$ref").isPresent then do return ([← builder.parentName members], [])
    else do return ([], ← builder.properties members)
  | _ => pure ([], [])

/-- A composition of parents and properties. -/
def composition (builder : DeclarationBuilder) (schema : Members) : Attempt DeclarationBody := do
  let components ← (← (schema.field "allOf").elementsOrNone).mapM builder.component
  return .object (components.flatMap (·.2)) (components.flatMap (·.1))

def enumeration (builder : DeclarationBuilder) (schema : Members) : Attempt DeclarationBody :=
  match schema.field "enum" with
  | .list values =>
    match builder.settings.enumStyle with
    | .enumeration => pure (.enumeration (EnumText.enumBody values))
    | .literals => do
      return .typeAlias (← EnumText.literalUnion builder.settings.namespaceName values)
  | _ => pure (.typeAlias "string")

/-- An array of a referenced type, or of anything. -/
def array (builder : DeclarationBuilder) (schema : Members) : Noted String :=
  match schema.field "items" with
  | .object items =>
    if (Members.field items "$ref").isPresent then do return (← builder.parentName items) ++ "[]"
    else pure "any[]"
  | _ => pure "any[]"

/-- The declaration of an object schema. A reference is followed first, so that one that leads
nowhere fails here. -/
def bodyOfMembers (builder : DeclarationBuilder) (schema : Members) : Attempt DeclarationBody := do
  if (schema.field "$ref").isPresent then
    let _ ← Reference.resolveNode builder.document (.object schema)
    return .typeAlias (← builder.typeText (.object schema))
  else if decide (schema.field "enum" ≠ .null) then builder.enumeration schema
  else if (schema.field "allOf").isPresent then builder.composition schema
  else if (schema.field "properties").isPresent then
    return .object (← builder.properties schema) []
  else if schema.field "type" == .text "array" && (schema.field "items").isPresent then
    return .typeAlias (← builder.array schema)
  else if schema.field "type" == .text "object" then return .typeAlias DeclarationBody.unknownType
  else return .typeAlias (← builder.typeText (.object schema))

def body (builder : DeclarationBuilder) (schema : Node) : Attempt DeclarationBody :=
  match schema with
  | .object members => builder.bodyOfMembers members
  | other => do return .typeAlias (← builder.typeText other)

/-- The key of a component as a raw name. -/
def componentName (key : Scalar) : Except Misfit String :=
  match key with
  | .text name => .ok name
  | .moment _ => .error .notReplaceable
  | other => .error (.noMember other.kind "replace")

def ofComponent (builder : DeclarationBuilder) (key : Scalar) (schema : Node) :
    Attempt Declaration := do
  let body ← builder.body schema
  return ⟨← TypeName.sanitize builder.settings.namespaceName (← componentName key), body⟩

/-- One declaration for each component schema, in document order. -/
def componentDeclarations (builder : DeclarationBuilder) : Attempt (List Declaration) := do
  (← Document.schemas builder.document).mapM fun (key, schema) => builder.ofComponent key schema

/-- The schema of a parameter: its own, or the parameter itself if it has a type. -/
def parameterSchema (parameter : Members) : Node :=
  match parameter.field "schema" with
  | .null => if (parameter.get? "type").isSome then .object parameter else .null
  | schema => schema

/-- The property of a parameter; one without a name has none. -/
def parameterProperty? (builder : DeclarationBuilder) (parameter : Node) :
    Attempt (Option PropertyDeclaration) := do
  match ← Reference.resolveNode builder.document parameter with
  | .object members =>
    if !(Members.field members "name").isPresent then return none
    else
      let schema := parameterSchema members
      let description := Members.field members "description"
      return some ⟨(Members.field members "name").display, ← builder.typeText schema,
        Members.field members "required" == .bool true,
        if description.isPresent then description else .text "",
        if schema.isPresent then schema else .object []⟩
  | _ => return none

/-- The declaration of the parameters of an operation and of its path, if there are any. -/
def ofParameters? (builder : DeclarationBuilder) (operation : Operation) :
    Attempt (Option Declaration) := do
  let own ← (operation.field "parameters").elementsOrNone
  let shared ← (Members.field operation.pathItem "parameters").elementsOrNone
  let properties := (← (own ++ shared).mapM builder.parameterProperty?).reduceOption
  if properties.isEmpty then return none
  else return some ⟨← builder.namer.typeName operation, .object properties []⟩

/-- One declaration for each operation with parameters, in document order. -/
def parameterDeclarations (builder : DeclarationBuilder) : Attempt (List Declaration) := do
  let operations ← Document.operations builder.document
  return (← operations.mapM builder.ofParameters?).reduceOption

/-- The names that occur again after they have occurred. -/
def repeated : List String → List String → List String
  | _, [] => []
  | seen, name :: rest =>
    if name ∈ seen then name :: repeated seen rest else repeated (name :: seen) rest

def sortByName (declarations : List Declaration) : List Declaration :=
  Text.sortBy Declaration.typeName declarations

/-- All declarations of the document, sorted by type name. -/
def declarations (builder : DeclarationBuilder) : Attempt (List Declaration) := do
  let all := (← builder.componentDeclarations) ++ (← builder.parameterDeclarations)
  (repeated [] (all.map (·.typeName))).forM fun name => Noted.remark (.duplicateType name)
  return sortByName all

end DeclarationBuilder

end ApiBindings
