import ApiBindings.Schema.Describe
import ApiBindings.Reference.Resolution
import ApiBindings.Operation

/-!
# Parameters of operations

Parameters are grouped by where they are sent; header parameters are not passed on. A parameter
of the operation takes the place of one of its path with the same name and location, and a
placeholder of the path that nothing declares becomes a required text parameter.
-/
namespace ApiBindings

variable [Text.Romanization]

inductive ParameterLocation
  | query
  | path
  | cookie
  deriving DecidableEq, Repr

namespace ParameterLocation

def all : List ParameterLocation := [.query, .path, .cookie]

def word : ParameterLocation → String
  | .query => "query"
  | .path => "path"
  | .cookie => "cookie"

end ParameterLocation

structure Parameter where
  name : String
  location : ParameterLocation
  required : Bool
  type : String
  /-- Whether the schema is an object, itself or through a component. -/
  isObject : Bool
  /-- The name a path parameter has inside the function. -/
  alias? : Option String
  /-- Whether a query parameter carries an object. -/
  isComplexType : Bool
  description : Node
  schema : Node
  deriving Repr, DecidableEq

/-- The parameters of an operation by location, in the order the locations were filled. -/
abbrev ParameterGroups := List (ParameterLocation × List Parameter)

namespace Parameter

def optionalText (text : Option String) : Node := (text.map Node.text).getD .null

def toNode (parameter : Parameter) : Node :=
  .object [(.text "name", .text parameter.name), (.text "location", .text parameter.location.word),
    (.text "required", .bool parameter.required), (.text "type", .text parameter.type),
    (.text "is_object", .bool parameter.isObject), (.text "alias", optionalText parameter.alias?),
    (.text "is_complex_type", .bool parameter.isComplexType),
    (.text "description", parameter.description), (.text "schema", parameter.schema)]

/-- The parameter of a placeholder that nothing declares. -/
def ofPlaceholder (name : String) : Parameter where
  name := name
  location := .path
  required := true
  type := "string"
  isObject := false
  alias? := none
  isComplexType := false
  description := .null
  schema := .object [(.text "type", .text "string")]

end Parameter

namespace ParameterGroups

def group (groups : ParameterGroups) (location : ParameterLocation) : List Parameter :=
  (groups.lookup location).getD []

/-- Replaces the group of a location, or puts it at the end. -/
def set (location : ParameterLocation) (group : List Parameter) : ParameterGroups → ParameterGroups
  | [] => [(location, group)]
  | (other, old) :: rest =>
    if other = location then (other, group) :: rest else (other, old) :: set location group rest

/-- Changes the parameters of a location, if it has any. -/
def modify (location : ParameterLocation) (change : List Parameter → List Parameter)
    (groups : ParameterGroups) : ParameterGroups :=
  groups.map fun (other, group) => (other, if other = location then change group else group)

def toNode (groups : ParameterGroups) : Node :=
  .object (groups.map fun (location, group) =>
    (.text location.word, .list (group.map Parameter.toNode)))

end ParameterGroups

/-- What parameters and bodies are read against. -/
structure SchemaContext where
  document : Node
  namespaceName : String

namespace SchemaContext

def typeText (context : SchemaContext) (schema : Node) : Attempt String :=
  Schema.typeText context.namespaceName schema

def resolve (context : SchemaContext) (node : Node) : Attempt Node :=
  Reference.resolveNode context.document node

end SchemaContext

namespace Parameter

/-- The word up to a closing brace, if it is followed by one. -/
def placeholderName? (text : List Char) : Option (List Char) :=
  let name := text.takeWhile Text.isWord
  if name.isEmpty then none
  else if (text.drop name.length).head? = some '\x7d' then some name else none

/-- The names of the placeholders of a path, in order. -/
def placeholders : List Char → List String
  | [] => []
  | c :: rest =>
    if c = '\x7b' then
      match placeholderName? rest with
      | some name => String.ofList name :: placeholders rest
      | none => placeholders rest
    else placeholders rest

/-- The schema of a parameter: its own, the parameter itself if it has a type, or a stand-in. -/
def schemaOf (parameter : Members) : Members :=
  match parameter.field "schema" with
  | .object schema => schema
  | .null => if (parameter.get? "type").isSome then parameter
             else (Schema.standIn.members?).getD []
  | _ => (Schema.standIn.members?).getD []

/-- Whether a component schema of this name is an object. -/
def namesObject (context : SchemaContext) (name : Option String) : Except Misfit Bool :=
  match name.filter (· ≠ "") with
  | none => .ok false
  | some name => do
    match ← Document.schema? context.document name with
    | some component => return component.field "type" == .text "object"
    | none => return false

/-- The name of the component that a schema, or else its parameter, refers to. -/
def componentName? (parameter schema : Members) : Option String :=
  match (Reference.name? (.object schema)).filter (· ≠ "") with
  | some name => some name
  | none => Reference.name? (.object parameter)

def ofMembers (context : SchemaContext) (location : ParameterLocation) (parameter : Members) :
    Attempt Parameter := do
  let schema := schemaOf parameter
  let declared := schema.field "type"
  let type := if declared.isPresent then declared else parameter.field "type"
  let throughComponent ← namesObject context (componentName? parameter schema)
  return {
    name := (parameter.field "name").display
    location := location
    required := parameter.field "required" == .bool true
    type := ← context.typeText (.object schema)
    isObject := type == .text "object" || throughComponent
    alias? := none
    isComplexType := false
    description := parameter.field "description"
    schema := .object schema }

/-- Adds a parameter for each placeholder that none of the parameters names. -/
def addPlaceholders : List Parameter → List String → List Parameter
  | group, [] => group
  | group, name :: rest =>
    if group.any fun parameter => parameter.name == name then addPlaceholders group rest
    else addPlaceholders (group ++ [ofPlaceholder name]) rest

/-- The resolved parameters that are sent at a location. -/
def atLocation (context : SchemaContext) (parameters : List Members)
    (location : ParameterLocation) : Attempt (List Parameter) :=
  (parameters.filter fun parameter => parameter.field "in" == .text location.word).mapM
    (ofMembers context location)

/-- The parameters by location, with those of the placeholders of a path. -/
def groups (context : SchemaContext) (parameters : List Node) (path : String) :
    Attempt ParameterGroups := do
  let resolved := (← parameters.mapM context.resolve).filterMap Node.members?
  let found ← ParameterLocation.all.mapM fun location => do
    return (location, ← atLocation context resolved location)
  let filled : ParameterGroups := found.filter fun (_, group) => !group.isEmpty
  let inPath := addPlaceholders (filled.group .path) (placeholders path.toList)
  return if inPath.isEmpty then filled else filled.set .path inPath

/-- The name and location of a parameter, which tell parameters apart. -/
def identity (parameter : Members) : Except Misfit (Scalar × Scalar) :=
  return (← (parameter.field "name").asKey, ← (parameter.field "in").asKey)

def sameIdentity (one other : Scalar × Scalar) : Bool := one.1.same other.1 && one.2.same other.2

/-- The identities of parameters that are objects. -/
def identities (context : SchemaContext) : List Node → Attempt (List (Scalar × Scalar))
  | [] => return []
  | parameter :: rest => do
    match ← context.resolve parameter with
    | .object members => return (← identity members) :: (← identities context rest)
    | _ => identities context rest

/-- The parameters of a path that the operation does not declare itself. -/
def notDeclared (context : SchemaContext) (declared : List (Scalar × Scalar)) :
    List Node → Attempt (List Node)
  | [] => return []
  | parameter :: rest => do
    match ← context.resolve parameter with
    | .object members =>
      if declared.any (sameIdentity (← identity members)) then notDeclared context declared rest
      else return parameter :: (← notDeclared context declared rest)
    | _ => return parameter :: (← notDeclared context declared rest)

/-- The parameters of an operation, followed by those of its path that it does not declare. -/
def ofOperation (context : SchemaContext) (operation : Operation) : Attempt (List Node) := do
  let own ← (operation.field "parameters").elementsOrNone
  let declared ← identities context own
  let shared ← (Members.field operation.pathItem "parameters").elementsOrNone
  return own ++ (← notDeclared context declared shared)

end Parameter

end ApiBindings
