import ApiBindings.Service.Path
import ApiBindings.Service.Body
import ApiBindings.Name.Registry
import ApiBindings.Digest.Sha256

/-!
# Entries

An entry is one function to generate. It is built in three stages. The first reads parameters,
body, uploads and response and may fail on a reference; the second claims a name and records
the gateway alias, and cannot fail; the third puts the entry together. A failure of the first
stage leaves the claimed names and the recorded aliases as they were.
-/
namespace ApiBindings

variable [Text.Romanization]

/-- A gateway alias of an operation. -/
structure GatewayMapping where
  gatewayApi : Node
  action : Node
  product : Node
  version : Node
  deriving Repr, DecidableEq

namespace GatewayMapping

def toNode (mapping : GatewayMapping) : Node :=
  .object [(.text "gateway_api", mapping.gatewayApi), (.text "action", mapping.action),
    (.text "product", mapping.product), (.text "version", mapping.version)]

end GatewayMapping

structure Entry where
  functionName : String
  typeName : String
  method : String
  path : String
  pathInComment : String
  hasPathVariables : Bool
  hasApiPrefix : Bool
  /-- Summary and description for the comment, or what stands in their place. -/
  comment : Node
  hasHeader : Bool
  parameters : ParameterGroups
  body : Option RequestBody
  uploads : Option (List Upload)
  hasFormData : Bool
  response : Response
  operationId : Option String
  summary : Node
  description : Node
  tags : List String
  deprecated : Bool
  gatewayVersion : Node
  traceId : Option String
  deriving Repr, DecidableEq

namespace Entry

def hasParameters (entry : Entry) : Bool := !entry.parameters.isEmpty

def toNode (entry : Entry) : Node :=
  let optional (node : Option Node) : Node := node.getD .null
  .object [
    (.text "function_name", .text entry.functionName),
    (.text "type_name", .text entry.typeName),
    (.text "method", .text entry.method),
    (.text "path", .text entry.path),
    (.text "path_in_comment", .text entry.pathInComment),
    (.text "has_path_variables", .bool entry.hasPathVariables),
    (.text "has_api_prefix", .bool entry.hasApiPrefix),
    (.text "desc", entry.comment),
    (.text "has_header", .bool entry.hasHeader),
    (.text "params", entry.parameters.toNode),
    (.text "has_params", .bool entry.hasParameters),
    (.text "body", optional (entry.body.map RequestBody.toNode)),
    (.text "files", optional (entry.uploads.map fun uploads => .list (uploads.map Upload.toNode))),
    (.text "has_form_data", .bool entry.hasFormData),
    (.text "response", entry.response.toNode),
    (.text "operation_id", Parameter.optionalText entry.operationId),
    (.text "summary", entry.summary),
    (.text "description", entry.description),
    (.text "tags", .list (entry.tags.map Node.text)),
    (.text "deprecated", .bool entry.deprecated),
    (.text "gateway_version", entry.gatewayVersion),
    (.text "trace_id", Parameter.optionalText entry.traceId)]

/-- A stable mark of an entry: the first 32 digits of the digest of its data. -/
def traceIdOf (entry : Entry) : Except Misfit String := do
  let data ← Json.write Json.canonicalStyle entry.toNode
  let bytes ← (Utf8.encode (String.ofList data)).mapError .notEncodable
  return ((Sha256.hexDigest bytes).take 32).toString

/-- The entry with its mark. -/
def traced (entry : Entry) : Except Misfit Entry :=
  return { entry with traceId := some (← entry.traceIdOf) }

end Entry

/-- What is read from an operation before a name is claimed. -/
structure EntryParts where
  parameters : ParameterGroups
  body : Option RequestBody
  uploads : Option (List Upload)
  response : Response
  /-- The function name before it is made unique. -/
  baseName : String
  deriving Repr

namespace EntryParts

def hasFormData (parts : EntryParts) : Bool :=
  parts.uploads.any (!·.isEmpty)
    || parts.body.any fun body => Text.occursIn "form".toList body.mediaType.toList

end EntryParts

/-- What entries of a document are built from. -/
structure ServiceBuilder where
  document : Node
  sharing : Sharing
  settings : Settings
  namer : Namer

namespace ServiceBuilder

def create (document : Node) (sharing : Sharing) (settings : Settings) :
    Except Misfit ServiceBuilder :=
  return ⟨document, sharing, settings, ← settings.namer document⟩

def context (builder : ServiceBuilder) : SchemaContext :=
  ⟨builder.document, builder.settings.namespaceName⟩

/-- The operation object at its place in the document. -/
def located (operation : Operation) : Located :=
  ⟨true, [.key "paths", .key operation.path, .key operation.method], .object operation.fields⟩

/-- Reads the parts of an operation. -/
def parts (builder : ServiceBuilder) (operation : Operation) : Attempt EntryParts := do
  let context := builder.context
  let parameters ← Parameter.groups context (← Parameter.ofOperation context operation)
    operation.path
  let body ← RequestBody.ofNode? context (operation.field "requestBody")
  let uploads ← Upload.ofBody? builder.document builder.sharing
    ((located operation).field "requestBody")
  let response ← Response.ofNode context builder.settings.dataFields (operation.field "responses")
  return ⟨parameters, body, uploads, response,
    Spelling.file (← builder.namer.functionName operation)⟩

def gatewayKey : String := "x-antTech-description"

/-- The gateway extension of an operation, its own or among its extensions. -/
def gateway? (operation : Operation) : Option Members :=
  match operation.field gatewayKey with
  | .null => ((operation.field "extensions").field gatewayKey).members?
  | extension => extension.members?

/-- The path of the gateway, if it is given, in place of the template of the operation. -/
def gatewayPath (operation : Operation) (gateway : Members) : Node :=
  let path := gateway.field "antTechApiName"
  if path.isPresent then path else .text (ServicePath.template operation.path)

def mapping? (operation : Operation) : Option GatewayMapping :=
  (gateway? operation).map fun gateway =>
    ⟨gatewayPath operation gateway, gateway.field "apiName", gateway.field "productCode",
      gateway.field "antTechVersion"⟩

/-- The path before it is prefixed; a gateway path has to be text. -/
def formattedPath (operation : Operation) : Except Misfit String :=
  match gateway? operation with
  | none => .ok (ServicePath.template operation.path)
  | some gateway =>
    match gatewayPath operation gateway with
    | .text path => .ok path
    | .moment _ => .error .notReplaceable
    | other => .error (.noMember other.kind "replace")

/-- The text of the comment: summary and description, without a summary that repeats the
function name. -/
def comment (operation : Operation) (functionName : String) : Node :=
  if operation.summary == .text functionName then operation.description
  else .text (" ".intercalate
    (([operation.summary, operation.description].filter Node.isPresent).map Node.display))

/-- Path parameters get their aliases, and query parameters that are objects are marked. -/
def finishParameters (groups : ParameterGroups) : ParameterGroups :=
  (groups.modify .path ServicePath.withAliases).modify .query fun parameters =>
    parameters.map fun parameter => { parameter with isComplexType := parameter.isObject }

/-- Puts an entry together under the name that was claimed for it. -/
def finish (builder : ServiceBuilder) (tag : String) (operation : Operation) (parts : EntryParts)
    (functionName : String) : Attempt Entry := do
  let path := ServicePath.renameAll (← formattedPath operation) 0 (parts.parameters.group .path)
  let context : PrefixContext := ⟨path, operation.method, tag, functionName⟩
  let entry : Entry := {
    functionName := functionName
    typeName := ← builder.namer.typeName operation
    method := operation.method
    path := ServicePath.prefixed builder.settings.apiPrefix context
    pathInComment := ServicePath.inComment path
    hasPathVariables := path.toList.contains '\x7b'
    hasApiPrefix := ServicePath.hasPrefix builder.settings.apiPrefix
    comment := comment operation functionName
    hasHeader := parts.body.any fun body => body.mediaType != ""
    parameters := finishParameters parts.parameters
    body := parts.body
    uploads := parts.uploads
    hasFormData := parts.hasFormData
    response := parts.response
    operationId := operation.operationId?
    summary := operation.summary
    description := operation.description
    tags := ← operation.tags
    deprecated := operation.field "deprecated" == .bool true
    gatewayVersion := ((gateway? operation).map fun gateway =>
      gateway.field "antTechVersion").getD .null
    traceId := none }
  if builder.settings.generateTraceId then entry.traced else return entry

/-- What building entries leaves behind: the claimed names and the recorded aliases. -/
structure Progress where
  registry : Registry
  mappings : List GatewayMapping
  deriving Repr

/-- The progress once the parts of an operation are read. -/
def advance (progress : Progress) (operation : Operation) (parts : EntryParts) : Progress :=
  ⟨(progress.registry.claim parts.baseName).2, progress.mappings ++ (mapping? operation).toList⟩

/-- Builds the entry of an operation under a tag. -/
def entry (builder : ServiceBuilder) (tag : String) (operation : Operation) (progress : Progress) :
    Noted (Except Failure Entry × Progress) := do
  match ← (builder.parts operation).run with
  | .error failure => return (.error failure, progress)
  | .ok parts =>
    let functionName := (progress.registry.claim parts.baseName).1
    return (← (builder.finish tag operation parts functionName).run,
      advance progress operation parts)

end ServiceBuilder

end ApiBindings
