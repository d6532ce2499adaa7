import ApiBindings.Document.Node

/-!
# Kinds of schemas

Every node that stands for a schema has one of thirteen kinds. The checks run in a fixed order
and the first match wins: a reference before everything, a numeric format before the type, and
enum values before both.
-/
namespace ApiBindings

inductive SchemaKind
  | missing
  | literal
  | reference
  | number
  | date
  | string
  | boolean
  | array
  | enumeration
  | oneOf
  | allOf
  | object
  | unknown
  deriving DecidableEq, Repr

def SchemaKind.word : SchemaKind → String
  | .missing => "missing"
  | .literal => "literal"
  | .reference => "reference"
  | .number => "number"
  | .date => "date"
  | .string => "string"
  | .boolean => "boolean"
  | .array => "array"
  | .enumeration => "enum"
  | .oneOf => "oneOf"
  | .allOf => "allOf"
  | .object => "object"
  | .unknown => "unknown"

namespace Schema

def numberTypes : List String :=
  ["int64", "integer", "long", "float", "double", "number", "int", "int32"]

def dateTypes : List String := ["Date", "date", "dateTime", "date-time", "datetime"]

def stringTypes : List String := ["string", "email", "password", "url", "byte", "binary"]

/-- The schema that stands in for a missing one. -/
def standIn : Node :=
  .object [(.text "type", .text "object"), (.text "properties", .object
    [(.text "id", .object [(.text "type", .text "number")])])]

def format? (schema : Members) : Option String := (schema.field "format").text?

/-- The declared type; of a list of types, the first that is not `null`. -/
def declaredType (schema : Members) : Node :=
  match schema.field "type" with
  | .list types => (types.find? fun type => decide (type ≠ .text "null")).getD .null
  | type => type

/-- The type a schema is treated as. -/
def effectiveType (schema : Members) : Node :=
  if decide (schema.field "enum" ≠ .null) then .text "enum"
  else if (format? schema).any numberTypes.contains then .text "number"
  else declaredType schema

/-- The kind by type and format, if these decide it. -/
def kindByType? (type format : Option String) : Option SchemaKind :=
  let typeIn (types : List String) : Bool := type.any types.contains
  let formatIn (types : List String) : Bool := format.any types.contains
  if typeIn numberTypes then some .number
  else if typeIn dateTypes || ((type = none || type = some "string") && formatIn dateTypes) then
    some .date
  else if typeIn stringTypes || (type = none && formatIn stringTypes) then some .string
  else if type = some "boolean" then some .boolean
  else if type = some "array" then some .array
  else if type = some "enum" then some .enumeration
  else none

/-- The kind of an object node. -/
def kindOfMembers (schema : Members) : SchemaKind :=
  let type := (effectiveType schema).text?
  if (schema.field "$ref").isPresent then .reference
  else match kindByType? type (format? schema) with
    | some kind => kind
    | none =>
      if (schema.field "oneOf").isPresent then .oneOf
      else if (schema.field "allOf").isPresent then .allOf
      else if type = some "object" || (schema.field "properties").isPresent then .object
      else .unknown

def kind : Node → SchemaKind
  | .null => .missing
  | .object members => kindOfMembers members
  | _ => .literal

end Schema

end ApiBindings
