import ApiBindings.Name.Spelling
import ApiBindings.Name.SharedSegments
import ApiBindings.Operation

/-!
# Names of operations

A namer knows the namespace, the segments that all paths share, and hooks that may override
every name. By default a function is named by its operation id, or by its method and the path
behind the shared segments; a long name that holds the namespace keeps what follows it.
-/
namespace ApiBindings

/-- Overrides of names; nothing, or the empty name, keeps the default. -/
structure NamingHooks where
  functionOf : Operation → Option String
  typeOf : Operation → Option String
  classOf : String → Option String

def NamingHooks.none : NamingHooks := ⟨fun _ => .none, fun _ => .none, fun _ => .none⟩

structure Namer where
  namespaceName : String
  /-- The segments shared by all paths, closed by a slash. -/
  base : String
  hooks : NamingHooks
  /-- Names up to this length are never shortened. -/
  maxLength : Nat

namespace Namer

variable [Text.Romanization]

def create (namespaceName : String) (paths : List String) (hooks : NamingHooks)
    (maxLength : Nat) : Namer :=
  ⟨namespaceName, SharedSegments.base paths, hooks, maxLength⟩

/-- The override of a hook, unless it is empty. -/
def override (hook : Option String) : Option String := hook.filter (· ≠ "")

/-- The name inside a segment that is wholly a parameter, `{name}` or `:name`. -/
def parameter? (segment : List Char) : Option (List Char) :=
  let oneLine (name : List Char) : Bool := !name.isEmpty && !name.contains '\n'
  let braced : Option (List Char) := match segment with
    | '\x7b' :: rest =>
      if rest.getLast? = some '\x7d' && oneLine rest.dropLast then some rest.dropLast else none
    | _ => none
  match braced, segment with
  | some name, _ => some name
  | none, ':' :: name => if oneLine name then some name else none
  | none, _ => none

/-- What one path segment adds to a name. -/
def segmentName (namer : Namer) (segment : List Char) : Noted String :=
  let upper (name : List Char) : Noted String := do
    return Spelling.upperFirst (← TypeName.sanitize namer.namespaceName (String.ofList name))
  match parameter? segment with
  | some name => return "By" ++ (← upper name)
  | none => upper segment

/-- A name made of the path segments behind the shared ones. -/
def pathName (namer : Namer) (path : String) : Noted String := do
  let rest := Text.replaceFirst namer.base.toList [] path.toList
  let names ← ((Text.cut '/' rest).filter (· ≠ [])).mapM namer.segmentName
  return String.join names

/-- Cuts a long name behind the last occurrence of the namespace, whatever its case. -/
def shorten (namer : Namer) (method name : String) : String :=
  if namer.namespaceName = "" then name
  else
    match Text.lastIndexOf? (Text.lower namer.namespaceName.toList) (Text.lower name.toList) with
    | some index =>
      if name.length > namer.maxLength then
        method ++ String.ofList (name.toList.drop (index + namer.namespaceName.length))
      else name
    | none => name

/-- The function name by default, before it is shortened. -/
def plainName (namer : Namer) (operation : Operation) : Noted String :=
  let byId := operation.operationId?.map fun operationId =>
    Spelling.unreserved (Spelling.function operationId) operation.method
  match byId.filter (· ≠ "") with
  | some name => pure name
  | none => do return operation.method ++ (← namer.pathName operation.path)

def functionName (namer : Namer) (operation : Operation) : Noted String := do
  let name ← match override (namer.hooks.functionOf operation) with
    | some name => pure name
    | none => namer.plainName operation
  return Spelling.lowerFirst (namer.shorten operation.method name)

/-- The name of the type that holds the parameters of an operation. -/
def typeName (namer : Namer) (operation : Operation) : Noted String := do
  let base ← match override (namer.hooks.typeOf operation) with
    | some name => pure name
    | none => namer.functionName operation
  let qualifier := if namer.namespaceName = "" then "" else namer.namespaceName ++ "."
  TypeName.sanitize namer.namespaceName (qualifier ++ base ++ "Params")

def className (namer : Namer) (tag default : String) : String :=
  (override (namer.hooks.classOf tag)).getD default

end Namer

end ApiBindings
