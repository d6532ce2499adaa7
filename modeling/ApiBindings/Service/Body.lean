import ApiBindings.Service.Parameter

/-!
# Request bodies, uploads and responses

A body is described by its first media type. The properties of a form that carry files are
passed as uploads of their own; they are collected through references and components of a
composition, each schema once: the objects still to be visited are known beforehand, and every
visit takes one of them away.
-/
namespace ApiBindings

structure BodyProperty where
  name : String
  type : String
  required : Bool
  description : Node
  schema : Node
  deriving Repr, DecidableEq

structure RequestBody where
  /-- The first media type, empty when any will do. -/
  mediaType : String
  required : Bool
  type : String
  /-- The properties that carry no files. -/
  properties : List BodyProperty
  schema : Node
  deriving Repr, DecidableEq

structure Upload where
  title : String
  multiple : Bool
  deriving Repr, DecidableEq

structure Response where
  mediaType : String
  type : String
  deriving Repr, DecidableEq

namespace BodyProperty

def toNode (property : BodyProperty) : Node :=
  .object [(.text "name", .text property.name), (.text "type", .text property.type),
    (.text "required", .bool property.required), (.text "description", property.description),
    (.text "schema", property.schema)]

end BodyProperty

namespace RequestBody

def toNode (body : RequestBody) : Node :=
  .object [(.text "media_type", .text body.mediaType), (.text "required", .bool body.required),
    (.text "type", .text body.type),
    (.text "properties", .list (body.properties.map BodyProperty.toNode)),
    (.text "schema", body.schema)]

end RequestBody

namespace Upload

def toNode (upload : Upload) : Node :=
  .object [(.text "title", .text upload.title), (.text "multiple", .bool upload.multiple)]

end Upload

namespace Response

/-- The response nothing is said about. -/
def unknown : Response := ⟨"*/*", "any"⟩

def toNode (response : Response) : Node :=
  .object [(.text "media_type", .text response.mediaType), (.text "type", .text response.type)]

end Response

namespace RequestBody

/-- The members of a `content` object, if there are any. -/
def content? (node : Node) : Option Members :=
  match node.field "content" with
  | .object (first :: rest) => some (first :: rest)
  | _ => none

/-- The schema of a media type, or a stand-in for a missing one. -/
def mediaSchema (media : Node) : Node :=
  let schema := media.field "schema"
  if schema.isPresent then schema else Schema.standIn

def fileFormats : List String := ["binary", "base64"]

/-- Whether a format says that the value is a file. -/
def isFileFormat (format : Node) : Except Misfit Bool :=
  match format with
  | .text word => .ok (fileFormats.contains word)
  | other => do
    let _ ← other.asKey
    return false

/-- Whether a property schema is a list of values. -/
def isMultiple (property : Members) : Bool :=
  property.field "type" == .text "string[]" || property.field "type" == .text "array"

/-- Whether a property carries a file or a list of files. -/
def isFile (property : Members) : Except Misfit Bool := do
  if ← isFileFormat (property.field "format") then return true
  else if isMultiple property then
    match property.field "items" with
    | .object items => isFileFormat (Members.field items "format")
    | _ => return false
  else return false

variable [Text.Romanization]

/-- The properties of a form that carry no files. -/
def plainProperties (context : SchemaContext) (required : List Scalar) :
    List (Scalar × Node) → Attempt (List BodyProperty)
  | [] => return []
  | (key, .object property) :: rest => do
    if ← (isFile property : Attempt Bool) then plainProperties context required rest
    else
      let type ← context.typeText (.object property)
      let first : BodyProperty := ⟨key.display, type, required.any key.same,
        Members.field property "description", .object property⟩
      return first :: (← plainProperties context required rest)
  | _ :: rest => plainProperties context required rest

/-- The properties of an object body. -/
def propertiesOf (context : SchemaContext) (schema : Node) : Attempt (List BodyProperty) :=
  match schema with
  | .object members =>
    match Members.field members "properties" with
    | .object properties => do
      if Members.field members "type" == .text "object" then
        plainProperties context (← Schema.requiredKeys members) properties
      else return []
    | _ => pure []
  | _ => pure []

/-- The media type as it is shown; `*/*` is shown as nothing. -/
def mediaTypeText (mediaType : Scalar) : String :=
  if mediaType == .text "*/*" then "" else mediaType.display

/-- The body of a request, if it has any content. -/
def ofNode? (context : SchemaContext) (node : Node) : Attempt (Option RequestBody) := do
  let body ← context.resolve node
  match content? body with
  | some ((mediaType, media) :: _) =>
    let schema := mediaSchema media
    let properties ← propertiesOf context schema
    return some {
      mediaType := mediaTypeText mediaType
      required := body.field "required" == .bool true
      type := ← context.typeText schema
      properties := properties
      schema := schema }
  | _ => return none

end RequestBody

namespace Upload

mutual

/-- The places of all objects in a node, itself included. -/
def objectPlaces (steps : List Step) : Node → List (List Step)
  | .scalar _ => []
  | .list items => placesOfItems steps 0 items
  | .object members => steps :: placesOfMembers steps members

def placesOfItems (steps : List Step) (position : Nat) : List Node → List (List Step)
  | [] => []
  | item :: rest =>
    objectPlaces (steps ++ [.index position]) item ++ placesOfItems steps (position + 1) rest

def placesOfMembers (steps : List Step) : List (Scalar × Node) → List (List Step)
  | [] => []
  | (.text key, value) :: rest =>
    objectPlaces (steps ++ [.key key]) value ++ placesOfMembers steps rest
  | _ :: rest => placesOfMembers steps rest

end

/-- All objects that a search from a node may visit. -/
def objects (document : Node) (sharing : Sharing) (start : Located) : List Spot :=
  let places := (objectPlaces [] document).map (⟨true, ·⟩)
    ++ if start.inDocument then []
       else (objectPlaces start.steps start.node).map (⟨false, ·⟩)
  places.map sharing.firstSpot

/-- The uploads among the properties of one schema. -/
def ofProperties : List (Scalar × Node) → Except Misfit (List Upload)
  | [] => return []
  | (key, .object property) :: rest => do
    if ← RequestBody.isFile property then
      return ⟨key.display, RequestBody.isMultiple property⟩ :: (← ofProperties rest)
    else ofProperties rest
  | _ :: rest => ofProperties rest

/-- The uploads of one schema, without those of its components. -/
def own (schema : Members) : Except Misfit (List Upload) :=
  match schema.field "properties" with
  | .object properties => ofProperties properties
  | _ => .ok []

/-- The components of a composition as schemas to visit. -/
def components (schema : Located) : Except Misfit (List Located) := do
  let all := schema.field "allOf"
  let _ ← all.node.elementsOrNone
  return all.items

/-- Objects without one of them. -/
def without (visited : Spot) (objects : List Spot) : List Spot := objects.filter (· ≠ visited)

@[simp] theorem mem_without {visited object : Spot} {objects : List Spot} :
    object ∈ without visited objects ↔ object ∈ objects ∧ object ≠ visited := by
  simp [without]

theorem length_without_lt {visited : Spot} {objects : List Spot} (member : visited ∈ objects) :
    (without visited objects).length < objects.length :=
  List.length_filter_lt_length_iff_exists.mpr ⟨visited, member, by simp⟩

/-- Visits the waiting schemas in order, the components of a schema before what waits behind
it; an object that was visited is not visited again, wherever it is met. -/
def collect (document : Node) (sharing : Sharing) (unvisited : List Spot)
    (waiting : List Located) : Attempt (List Upload) :=
  match waiting with
  | [] => return []
  | first :: rest => do
    let schema ← Reference.resolve document first
    match schema.node with
    | .object members =>
      if _fresh : sharing.identity schema ∈ unvisited then
        let uploads ← own members
        let inside ← components schema
        let others := without (sharing.identity schema) unvisited
        return uploads ++ (← collect document sharing others (inside ++ rest))
      else collect document sharing unvisited rest
    | _ => collect document sharing unvisited rest
termination_by (unvisited.length, waiting.length)
decreasing_by
  · exact Prod.Lex.left _ _ (length_without_lt _fresh)
  · exact Prod.Lex.right _ (by simp)
  · exact Prod.Lex.right _ (by simp)

/-- The uploads of a form schema. -/
def ofSchema (document : Node) (sharing : Sharing) (schema : Located) :
    Attempt (List Upload) := do
  collect document sharing (objects document sharing schema) [schema]

/-- The uploads of a request body that is a form with parts, if there are any. -/
def ofBody? (document : Node) (sharing : Sharing) (body : Located) :
    Attempt (Option (List Upload)) := do
  let body ← Reference.resolve document body
  match (body.node.field "content").get? "multipart/form-data" with
  | some _ =>
    let media := (body.field "content").field "multipart/form-data"
    let uploads ← ofSchema document sharing (media.field "schema")
    return if uploads.isEmpty then none else some uploads
  | none => return none

end Upload

namespace Response

/-- The response codes that are looked at, in order. -/
def codes : List Scalar := [.text "default", .text "200", .int 200, .text "201", .int 201]

/-- The first response that is there, or the last that was looked at. -/
def chosen (responses : Members) : Node :=
  let found := codes.map responses.valueOf
  (found.find? Node.isPresent).getD (found.getLastD .null)

/-- The schema inside an envelope: that of the first data field that is there. -/
def unwrapped (dataFields : List String) (envelope : Members) (schema : Node) : Node :=
  ((dataFields.map envelope.field).find? Node.isPresent).getD schema

/-- Looks through an envelope that the schema refers to by name. -/
def unwrap (context : SchemaContext) (dataFields : List String) (schema : Node) :
    Except Misfit Node :=
  match (Reference.name? schema).filter (· ≠ "") with
  | none => .ok schema
  | some name => do
    match ← Document.schema? context.document name with
    | some (.object component) =>
      match Members.field component "properties" with
      | .object envelope =>
        if Members.field component "type" == .text "object" then
          return unwrapped dataFields envelope schema
        else return schema
      | _ => return schema
    | _ => return schema

variable [Text.Romanization]

/-- The response of an operation. -/
def ofNode (context : SchemaContext) (dataFields : Option (List String)) (responses : Node) :
    Attempt Response :=
  match responses with
  | .object members => do
    let response ← context.resolve (chosen members)
    match RequestBody.content? response with
    | some ((mediaType, media) :: _) =>
      let schema := RequestBody.mediaSchema media
      let schema ← match dataFields with
        | some (first :: rest) => (unwrap context (first :: rest) schema : Attempt Node)
        | _ => pure schema
      return ⟨mediaType.display, ← context.typeText schema⟩
    | _ => return unknown
  | _ => pure unknown

end Response

end ApiBindings
