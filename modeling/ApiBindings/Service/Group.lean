import ApiBindings.Service.Entry
import ApiBindings.Text.CodePoint

/-!
# Tag groups

Operations are grouped by sanitized tag in the order in which tags are first seen. Names are
made unique within a group in document order, before any operation is left out; the entries of
a group are then sorted by path, and groups without entries are left out.
-/
namespace ApiBindings

structure TagGroup where
  className : String
  instanceName : String
  entries : List Entry
  deriving Repr, DecidableEq

namespace TagGroup

/-- The generated language. -/
def language : String := "ts"

end TagGroup

namespace ServiceBuilder

variable [Text.Romanization]

/-- The tags an operation is filed under: its controller, its own tags, its id, or the first
segment of its path. -/
def rawTags (operation : Operation) : Except Misfit (List String) := do
  let controller := operation.field "x-swagger-router-controller"
  if controller.isPresent then return [controller.display]
  let tags ← operation.tags
  if tags ≠ [] then return tags
  match operation.operationId? with
  | some operationId => return [operationId]
  | none =>
    let segments := (Text.cut '/' operation.path.toList).filter (· ≠ [])
    return [String.ofList (segments.headD [])]

/-- Files an operation under a tag, behind what is filed there already. -/
def file (tag : String) (operation : Operation) :
    List (String × List Operation) → List (String × List Operation)
  | [] => [(tag, [operation])]
  | (other, operations) :: rest =>
    if other = tag then (other, operations ++ [operation]) :: rest
    else (other, operations) :: file tag operation rest

/-- The filings of an operation: one for each of its raw tags. -/
def filings (builder : ServiceBuilder) (operation : Operation) :
    Attempt (List (String × Operation)) := do
  let tags ← rawTags operation
  let names ← (tags.mapM (TypeName.sanitize builder.settings.namespaceName) : Noted (List String))
  return names.map fun name => (name, operation)

def fileAll (filings : List (String × Operation)) : List (String × List Operation) :=
  filings.foldl (fun groups (tag, operation) => file tag operation groups) []

/-- The operations of the document by tag. -/
def collect (builder : ServiceBuilder) : Attempt (List (String × List Operation)) := do
  let operations ← Document.operations builder.document
  return fileAll (← operations.mapM builder.filings).flatten

/-- A failure while an operation is built, told with the operation; failures of references are
told as they are. -/
def wrap (operation : Operation) : Failure → Failure
  | .misfit reason =>
    .endpoint (operation.operationId?.getD operation.path) operation.method operation.path
      (some (.misfit reason))
  | failure => failure

/-- The entries of operations, in order, until one fails. -/
def entriesOf (builder : ServiceBuilder) (tag : String) :
    List Operation → Progress → Noted (Except Failure (List Entry) × Progress)
  | [], progress => return (.ok [], progress)
  | operation :: rest, progress => do
    match ← builder.entry tag operation progress with
    | (.error failure, progress) => return (.error (wrap operation failure), progress)
    | (.ok entry, progress) =>
      match ← builder.entriesOf tag rest progress with
      | (.error failure, progress) => return (.error failure, progress)
      | (.ok entries, progress) => return (.ok (entry :: entries), progress)

/-- The operations of a group that have functions: those whose path holds no expression. -/
def supported (operations : List Operation) : List Operation :=
  operations.filter fun operation => !ServicePath.hasExpression operation.path

def sortByPath (entries : List Entry) : List Entry :=
  Text.sortBy Entry.path entries

/-- The group of the entries that are wanted, unless there are none. -/
def group? (builder : ServiceBuilder) (tag : String) (entries : List Entry) : Option TagGroup :=
  let wanted := entries.filter fun entry =>
    ServicePath.isWanted builder.settings.generateApis entry.path
  if wanted.isEmpty then none
  else
    let name := Spelling.className tag
    some ⟨builder.namer.className tag name, Spelling.lowerFirst name, sortByPath wanted⟩

/-- The groups of filed operations, with the aliases recorded until the end or a failure. -/
def groupsOf (builder : ServiceBuilder) : List (String × List Operation) → List GatewayMapping →
    Noted (Except Failure (List TagGroup) × List GatewayMapping)
  | [], mappings => return (.ok [], mappings)
  | (tag, operations) :: rest, mappings => do
    match ← builder.entriesOf tag (supported operations) ⟨.empty, mappings⟩ with
    | (.error failure, progress) => return (.error failure, progress.mappings)
    | (.ok entries, progress) =>
      match ← builder.groupsOf rest progress.mappings with
      | (.error failure, mappings) => return (.error failure, mappings)
      | (.ok groups, mappings) =>
        return (.ok ((builder.group? tag entries).toList ++ groups), mappings)

/-- The tag groups of the document, and the aliases recorded on the way. -/
def groups (builder : ServiceBuilder) :
    Noted (Except Failure (List TagGroup) × List GatewayMapping) := do
  match ← builder.collect.run with
  | .error failure => return (.error failure, [])
  | .ok filed => builder.groupsOf filed []

end ServiceBuilder

end ApiBindings
