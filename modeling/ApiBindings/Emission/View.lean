import ApiBindings.Service.Group
import ApiBindings.Declaration.Basic

/-!
# Views for the templates

A view holds just what a template prints: finished texts and the choices between its parts. A
view is made from an entry or a declaration, or from plain data that is shaped like one; in
plain data a missing field prints nothing.
-/
namespace ApiBindings

/-- What a service file prints of one function. -/
structure FunctionView where
  comment : String
  functionName : String
  typeName : String
  method : String
  pathInComment : String
  path : String
  deprecated : Bool
  hasParameters : Bool
  /-- The type and the media type of the body. -/
  body : Option (String × String)
  uploads : List (String × Bool)
  /-- Path parameters with their aliases. -/
  pathParameters : List (String × String)
  hasFormData : Bool
  responseType : String
  traceId : Option String
  deriving Repr, DecidableEq

structure PropertyView where
  name : String
  type : String
  comment : Option String
  required : Bool
  deriving Repr, DecidableEq

inductive DeclarationView
  | interface (name : String) (parents : List String) (properties : List PropertyView)
  | enumeration (name type : String)
  | typeAlias (name type : String)
  deriving Repr, DecidableEq

/-- A name that an index file exports, and the file it comes from. -/
structure IndexItem where
  name : String
  file : String
  deriving Repr, DecidableEq

namespace FunctionView

/-- The text of a node that is there. -/
def shown? (node : Node) : Option String := if node.isPresent then some node.display else none

def ofEntry (entry : Entry) : FunctionView where
  comment := (shown? entry.comment).getD entry.functionName
  functionName := entry.functionName
  typeName := entry.typeName
  method := Spelling.upper entry.method
  pathInComment := entry.pathInComment
  path := entry.path
  deprecated := entry.deprecated
  hasParameters := entry.hasParameters
  body := entry.body.map fun body => (body.type, body.mediaType)
  uploads := (entry.uploads.getD []).map fun upload => (upload.title, upload.multiple)
  pathParameters := (entry.parameters.group .path).map fun parameter =>
    (parameter.name, (Parameter.optionalText parameter.alias?).display)
  hasFormData := entry.hasFormData
  responseType := entry.response.type
  traceId := entry.traceId.filter (· ≠ "")

end FunctionView

namespace DeclarationView

def ofProperty (property : PropertyDeclaration) : PropertyView :=
  ⟨property.name, property.type, FunctionView.shown? property.description, property.required⟩

def ofDeclaration (declaration : Declaration) : DeclarationView :=
  let body := declaration.body
  match body.kind with
  | .object => .interface declaration.typeName body.parents (body.properties.map ofProperty)
  | .enumeration => .enumeration declaration.typeName body.type
  | .typeAlias => .typeAlias declaration.typeName body.type

end DeclarationView

namespace PlainData

/-- What a field prints: nothing if it is missing. -/
def printed (node : Node) (key : String) : String := ((node.get? key).map Node.display).getD ""

def given (node : Node) (key : String) : Bool := (node.field key).isPresent

/-- A field of a field that was given at all. -/
def inner (node : Node) (key field : String) : Except Misfit Node :=
  match node with
  | .object members =>
    match Members.get? members key with
    | some inside => .ok (inside.field field)
    | none => .error (.notGiven key)
  | _ => .error (.notGiven key)

def innerText (node : Node) (key field : String) : Except Misfit String := do
  let _ ← inner node key field
  return printed (node.field key) field

/-- The values of a field that may be missing. -/
def each (node : Node) (key : String) : Except Misfit (List Node) :=
  match node.get? key with
  | none => .ok []
  | some values => values.elements

def eachGiven (node : Node) (key : String) : Except Misfit (List Node) :=
  if given node key then each node key else .ok []

def functionView (node : Node) : Except Misfit FunctionView := do
  let parameters ← inner node "params" "path"
  return {
    comment := if given node "desc" then printed node "desc" else printed node "function_name"
    functionName := printed node "function_name"
    typeName := printed node "type_name"
    method := Spelling.upper (printed node "method")
    pathInComment := printed node "path_in_comment"
    path := printed node "path"
    deprecated := given node "deprecated"
    hasParameters := given node "has_params"
    body := if given node "body" then
      some (printed (node.field "body") "type",
        if given (node.field "body") "media_type" then printed (node.field "body") "media_type"
        else "")
      else none
    uploads := (← eachGiven node "files").map fun file =>
      (printed file "title", given file "multiple")
    pathParameters := (← if parameters.isPresent then parameters.elements else pure []).map
      fun parameter => (printed parameter "name", printed parameter "alias")
    hasFormData := given node "has_form_data"
    responseType := ← innerText node "response" "type"
    traceId := if given node "trace_id" then some (printed node "trace_id") else none }

def propertyView (node : Node) : PropertyView :=
  ⟨printed node "name", printed node "type", FunctionView.shown? (node.field "description"),
    given node "required"⟩

def declarationView (node : Node) : Except Misfit DeclarationView := do
  if node.field "kind" == .text DeclarationKind.object.word then
    let parents ← eachGiven node "parents"
    let properties ← each node "properties"
    return .interface (printed node "type_name") (parents.map Node.display)
      (properties.map propertyView)
  else if given node "is_enum" then
    return .enumeration (printed node "type_name") (printed node "type")
  else return .typeAlias (printed node "type_name") (printed node "type")

def indexItem (node : Node) : IndexItem :=
  ⟨printed node "controller_name", printed node "file_name"⟩

end PlainData

end ApiBindings
