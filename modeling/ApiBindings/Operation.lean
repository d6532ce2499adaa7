import ApiBindings.Document.Display

/-!
# Operations

An operation is one method of one path. The operations of a document come in the order of its
paths, and within a path in a fixed order of methods.
-/
namespace ApiBindings

structure Operation where
  path : String
  method : String
  /-- The operation object. -/
  fields : Members
  /-- The path item that holds the operation. -/
  pathItem : Members
  deriving Repr, Inhabited

namespace Operation

/-- The methods that give operations, in the order they are taken. -/
def methods : List String := ["get", "put", "post", "delete", "patch"]

/-- A member of the operation object, null if it is missing. -/
def field (operation : Operation) (key : String) : Node := Members.field operation.fields key

/-- The operation id, if it is a text that is not empty. -/
def operationId? (operation : Operation) : Option String :=
  (operation.field "operationId").text?.filter (· ≠ "")

def tags (operation : Operation) : Except Misfit (List String) :=
  return (← (operation.field "tags").elementsOrNone).map Node.display

def summary (operation : Operation) : Node := operation.field "summary"

def description (operation : Operation) : Node := operation.field "description"

/-- The operation object with its path and method. -/
def toNode (operation : Operation) : Node :=
  .object ((operation.fields.insert (.text "path") (.text operation.path)).insert
    (.text "method") (.text operation.method))

/-- The operations of one path. -/
def ofPath (path : String) (item : Node) : List Operation :=
  match item with
  | .object members =>
    methods.filterMap fun method =>
      (Members.field members method).members?.map fun fields => ⟨path, method, fields, members⟩
  | _ => []

end Operation

namespace Document

/-- The paths of a document, which all have to be text. -/
def paths (document : Node) : Except Misfit (List (String × Node)) := do
  let members ← (← document.ask "paths").membersOrNone "keys"
  members.mapM fun (key, item) =>
    match key with
    | .text path => .ok (path, item)
    | other => .error (.noMember other.kind "split")

/-- The operations of a document in document order. -/
def operations (document : Node) : Except Misfit (List Operation) :=
  return (← paths document).flatMap fun (path, item) => Operation.ofPath path item

end Document

end ApiBindings
