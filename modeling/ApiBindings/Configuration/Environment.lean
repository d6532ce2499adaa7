import ApiBindings.Document.Node
import ApiBindings.Text.Letter

/-!
# Environment variables in a configuration

A variable is written as its name in braces behind a dollar sign. Every text of a configuration
is expanded once: a value is put in as it is, even if it looks like a variable itself, and an
unknown variable stays as it is written. Keys are not expanded.
-/
namespace ApiBindings

/-- Variables and their values, in the order they were set. -/
abbrev Environment := List (String × String)

namespace Environment

def startsName (c : Char) : Bool := c.isAlpha || c == '_'

def continuesName (c : Char) : Bool := c.isAlphanum || c == '_'

/-- The name of the variable that starts a text, if one does. -/
def variableName? : List Char → Option (List Char)
  | '$' :: '\x7b' :: rest =>
    let name := rest.takeWhile continuesName
    if name.head?.any startsName && (rest.drop name.length).head? = some '\x7d' then some name
    else none
  | _ => none

/-- Expands a text while `covered` characters still belong to the last variable. -/
def expandFrom (environment : Environment) : Nat → List Char → List Char
  | _, [] => []
  | covered + 1, _ :: rest => expandFrom environment covered rest
  | 0, c :: rest =>
    match variableName? (c :: rest) with
    | some name =>
      match environment.lookup (String.ofList name) with
      | some value => value.toList ++ expandFrom environment (name.length + 2) rest
      | none => c :: expandFrom environment 0 rest
    | none => c :: expandFrom environment 0 rest

def expandText (environment : Environment) (text : String) : String :=
  String.ofList (expandFrom environment 0 text.toList)

mutual

/-- Expands every text of a tree. -/
def expand (environment : Environment) : Node → Node
  | .scalar (.text value) => .text (expandText environment value)
  | .scalar value => .scalar value
  | .list items => .list (expandItems environment items)
  | .object members => .object (expandMembers environment members)

def expandItems (environment : Environment) : List Node → List Node
  | [] => []
  | item :: rest => expand environment item :: expandItems environment rest

def expandMembers (environment : Environment) : List (Scalar × Node) → List (Scalar × Node)
  | [] => []
  | (key, value) :: rest => (key, expand environment value) :: expandMembers environment rest

end

/-- The value of the last variable with a name, whatever its case. -/
def find? (environment : Environment) (name : String) : Option String :=
  (environment.reverse.find? fun (known, _) =>
    Text.lower known.toList == Text.lower name.toList).map (·.2)

end Environment

end ApiBindings
