import ApiBindings.Schema.Kind
import ApiBindings.Schema.TypeDescriptor
import ApiBindings.Name.TypeName
import ApiBindings.Document.Display
import ApiBindings.Json.Writer

/-!
# Types of schemas

The description of a schema follows its kind. It never follows references: a reference becomes
the name of the type it points to. The recursion goes from a schema to its items, alternatives
and properties, each of which is a smaller node.
-/
namespace ApiBindings

namespace Node

theorem sizeOf_lt_of_get? (members : List (Scalar × Node)) (key : String) (value : Node)
    (found : Members.get? members key = some value) : sizeOf value < sizeOf members := by
  induction members with
  | nil => simp [Members.get?] at found
  | cons member rest ih =>
    obtain ⟨name, node⟩ := member
    simp only [Members.get?, List.find?_cons] at found
    split at found
    · simp only [Option.map_some, Option.some.injEq] at found
      subst found
      simp only [List.cons.sizeOf_spec, Prod.mk.sizeOf_spec]
      omega
    · have := ih found
      simp only [List.cons.sizeOf_spec]
      omega

theorem sizeOf_field_lt (members : List (Scalar × Node)) (key : String)
    (present : Members.field members key ≠ null) :
    sizeOf (Members.field members key) < sizeOf members := by
  unfold Members.field at present ⊢
  cases found : Members.get? members key with
  | none => simp [found] at present
  | some value => exact sizeOf_lt_of_get? members key value found

end Node

namespace Schema

/-- A text is its own literal, other values are written as data. -/
def literal : Node → Except Misfit String
  | .text value => .ok value
  | value => return String.ofList (← Json.write Json.literalStyle value)

/-- A text with its double quotes escaped, in double quotes. -/
def quotedLiteral (value : String) : String :=
  "\"" ++ String.ofList (Text.replaceAll ['"'] ['\\', '"'] value.toList) ++ "\""

def isUnionText (text : String) : Bool := Text.occursIn [' ', '|', ' '] text.toList

/-- Whether a type is written as a union. -/
def isUnion (type : TypeDescriptor) : Bool := isUnionText type.text

def qualify (namespaceName name : String) : String :=
  ".".intercalate ([namespaceName, name].filter (· ≠ ""))

def arrayOf (item : TypeDescriptor) : TypeDescriptor :=
  .mk .array (if isUnion item then "(" ++ item.text ++ ")[]" else item.text ++ "[]") [item] none

def tupleOf (items : List TypeDescriptor) : TypeDescriptor :=
  .mk .tuple ("[" ++ ",".intercalate (items.map (·.text)) ++ "]") items none

def unionOf (members : List TypeDescriptor) : TypeDescriptor :=
  .mk .union (" | ".intercalate (members.map (·.text))) members none

def intersectionOf (members : List TypeDescriptor) : TypeDescriptor :=
  .mk .intersection ("(" ++ " & ".intercalate (members.map (·.text)) ++ ")") members none

/-- Keeps the first descriptor of each text. -/
def distinct : List TypeDescriptor → List TypeDescriptor
  | [] => []
  | type :: rest => type :: (distinct rest).filter fun other => decide (other.text ≠ type.text)

def literalUnionOf (values : List TypeDescriptor) : TypeDescriptor :=
  let members := distinct values
  .mk .literalUnion (" | ".intercalate (members.map (·.text))) members none

/-- The keys a schema requires, if it has a list of them. -/
def requiredKeys (schema : Members) : Except Misfit (List Scalar) :=
  match schema.field "required" with
  | .list keys => Node.keysOf keys
  | _ => .ok []

/-- One property of an object type. -/
def propertyText (key : Scalar) (required : Bool) (type : TypeDescriptor) : String :=
  "'" ++ key.display ++ "'" ++ (if required then "" else "?") ++ ": " ++ type.text ++ "; "

def objectOf (properties : List (Scalar × Bool × TypeDescriptor)) : TypeDescriptor :=
  .mk .object
    ("\x7b " ++ String.join (properties.map fun (key, required, type) =>
      propertyText key required type) ++ "\x7d")
    (properties.map fun (_, _, type) => type) none

/-- Whether a property schema itself says that it is required. -/
def saysRequired (property : Node) : Bool := property.field "required" == .bool true

/-- The items of an array schema: those of a nested schema, or its own. -/
def arrayItems (schema : Members) : Node :=
  match schema.field "schema" with
  | .object nested => Members.field nested "items"
  | _ => schema.field "items"

/-- What an item of a tuple is described by: its nested schema, if it has one. -/
def itemSchema (item : Node) : Node := (item.get? "schema").getD item

theorem sizeOf_arrayItems_lt (schema : List (Scalar × Node))
    (present : arrayItems schema ≠ .null) : sizeOf (arrayItems schema) < sizeOf schema := by
  unfold arrayItems at present ⊢
  split
  · rename_i nested isNested
    simp only [isNested] at present
    have inner := Node.sizeOf_field_lt nested "items" present
    have outer := Node.sizeOf_field_lt schema "schema" (by rw [isNested]; simp)
    rw [isNested] at outer
    simp only [Node.object.sizeOf_spec] at outer
    omega
  · rename_i notNested
    split at present
    · rename_i nested isNested
      exact absurd isNested (notNested nested)
    · exact Node.sizeOf_field_lt schema "items" present

theorem sizeOf_itemSchema_le (item : Node) : sizeOf (itemSchema item) ≤ sizeOf item := by
  unfold itemSchema
  cases found : item.get? "schema" with
  | none => simp
  | some value =>
    cases item with
    | scalar _ => simp [Node.get?, Node.members?] at found
    | list _ => simp [Node.get?, Node.members?] at found
    | object members =>
      simp only [Node.get?, Node.members?, Option.bind_some] at found
      have := Node.sizeOf_lt_of_get? members "schema" value found
      simp only [Option.getD_some, Node.object.sizeOf_spec]
      omega

/-- The description of a node that is no object. -/
def describeLiteral (node : Node) : Attempt TypeDescriptor :=
  match node with
  | .null => pure .any
  | other => do
    let text ← literal other
    return .leaf .literal text

variable [Text.Romanization]

/-- The type name of the last part of a reference. -/
def referenceName (namespaceName : String) (schema : Members) : Noted String :=
  let reference := (schema.field "$ref").display
  TypeName.sanitize namespaceName (String.ofList (Text.lastPiece '/' reference.toList))

mutual

/-- The type of a schema in a namespace. -/
def describe (namespaceName : String) (schema : Node) : Attempt TypeDescriptor :=
  match schema with
  | .object members =>
    match kindOfMembers members with
    | .reference => do
      let name ← referenceName namespaceName members
      return .mk .reference (qualify namespaceName name) [] (some name)
    | .number => pure .number
    | .date => pure .date
    | .string => pure .string
    | .boolean => pure .boolean
    | .array =>
      match _items : arrayItems members with
      | .list items => do return tupleOf (← describeItems namespaceName items)
      | .object item => do return arrayOf (← describe namespaceName (.object item))
      | .scalar item => do return arrayOf (← describeLiteral (.scalar item))
    | .enumeration =>
      match _values : Members.field members "enum" with
      | .list values => do return literalUnionOf (← describeValues namespaceName values)
      | _ => pure .string
    | .oneOf =>
      match _alternatives : Members.field members "oneOf" with
      | .list alternatives => do return unionOf (← describeAll namespaceName alternatives)
      | other => do return unionOf (← (← other.elements).mapM describeLiteral)
    | .allOf =>
      match _components : Members.field members "allOf" with
      | .list components => do return intersectionOf (← describeAll namespaceName components)
      | other => do return intersectionOf (← (← other.elements).mapM describeLiteral)
    | .object =>
      match _properties : Members.field members "properties" with
      | .object (first :: rest) => do
        let required ← requiredKeys members
        return objectOf (← describeProperties namespaceName required (first :: rest))
      | _ => pure .record
    | .missing | .literal | .unknown => pure .any
  | other => describeLiteral other
termination_by sizeOf schema
decreasing_by
  all_goals simp only [Node.object.sizeOf_spec]
  · have smaller := sizeOf_arrayItems_lt members (by rw [_items]; simp)
    rw [_items] at smaller
    simp only [Node.list.sizeOf_spec] at smaller
    omega
  · have smaller := sizeOf_arrayItems_lt members (by rw [_items]; simp)
    rw [_items] at smaller
    simp only [Node.object.sizeOf_spec] at smaller
    omega
  · have smaller := Node.sizeOf_field_lt members "enum" (by rw [_values]; simp)
    rw [_values] at smaller
    simp only [Node.list.sizeOf_spec] at smaller
    omega
  · have smaller := Node.sizeOf_field_lt members "oneOf" (by rw [_alternatives]; simp)
    rw [_alternatives] at smaller
    simp only [Node.list.sizeOf_spec] at smaller
    omega
  · have smaller := Node.sizeOf_field_lt members "allOf" (by rw [_components]; simp)
    rw [_components] at smaller
    simp only [Node.list.sizeOf_spec] at smaller
    omega
  · have smaller := Node.sizeOf_field_lt members "properties" (by rw [_properties]; simp)
    rw [_properties] at smaller
    simp only [Node.object.sizeOf_spec] at smaller
    omega

def describeAll (namespaceName : String) (schemas : List Node) : Attempt (List TypeDescriptor) :=
  match schemas with
  | [] => return []
  | schema :: rest => return (← describe namespaceName schema) :: (← describeAll namespaceName rest)
termination_by sizeOf schemas

/-- The types of the items of a tuple. -/
def describeItems (namespaceName : String) (items : List Node) : Attempt (List TypeDescriptor) :=
  match items with
  | [] => return []
  | item :: rest =>
    return (← describe namespaceName (itemSchema item)) :: (← describeItems namespaceName rest)
termination_by sizeOf items
decreasing_by
  all_goals simp only [List.cons.sizeOf_spec]
  · have := sizeOf_itemSchema_le item
    omega
  · omega

/-- The types of enum values: a text is a quoted literal, other values describe themselves. -/
def describeValues (namespaceName : String) (values : List Node) : Attempt (List TypeDescriptor) :=
  match values with
  | [] => return []
  | value :: rest => do
    let type ← match value with
      | .text text => pure (.leaf .literal (quotedLiteral text))
      | other => describe namespaceName other
    return type :: (← describeValues namespaceName rest)
termination_by sizeOf values

def describeProperties (namespaceName : String) (required : List Scalar)
    (properties : List (Scalar × Node)) : Attempt (List (Scalar × Bool × TypeDescriptor)) :=
  match properties with
  | [] => return []
  | (key, property) :: rest => do
    let type ← describe namespaceName property
    let isRequired := required.any key.same || saysRequired property
    return (key, isRequired, type) :: (← describeProperties namespaceName required rest)
termination_by sizeOf properties

end

/-- The type of a schema as text. -/
def typeText (namespaceName : String) (schema : Node) : Attempt String :=
  return (← describe namespaceName schema).text

end Schema

end ApiBindings
