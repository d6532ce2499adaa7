import ApiBindings.Document.Node
import ApiBindings.Text.Quoted

/-!
# Nodes as displayed text

Text is displayed as it is; inside a list or an object it is quoted.
-/
namespace ApiBindings

namespace Scalar

/-- A scalar that is not text, displayed; text is left to the caller's rule. -/
def displayWith (text moment : List Char → List Char) : Scalar → List Char
  | .null => "None".toList
  | .bool value => if value then "True".toList else "False".toList
  | .int value => (toString value).toList
  | .float value => value.write Binary64.displayFormat
  | .text value => text value.toList
  | .moment value => moment value.display

def display (value : Scalar) : String := String.ofList (value.displayWith id id)

def quoted : Scalar → List Char
  | .moment value => value.quoted
  | value => value.displayWith Text.quoted id

end Scalar

namespace Node

mutual

/-- A node as it is written inside a list or an object. -/
def quoted : Node → List Char
  | .scalar value => value.quoted
  | .list items => '[' :: quotedItems items ++ [']']
  | .object members => '\x7b' :: quotedMembers members ++ ['\x7d']

def quotedItems : List Node → List Char
  | [] => []
  | [item] => item.quoted
  | item :: rest => item.quoted ++ ',' :: ' ' :: quotedItems rest

def quotedMembers : List (Scalar × Node) → List Char
  | [] => []
  | [(key, value)] => key.quoted ++ ':' :: ' ' :: value.quoted
  | (key, value) :: rest =>
    key.quoted ++ ':' :: ' ' :: value.quoted ++ ',' :: ' ' :: quotedMembers rest

end

/-- The text a node stands for where text is wanted. -/
def display : Node → String
  | .scalar value => value.display
  | node => String.ofList node.quoted

end Node

end ApiBindings
