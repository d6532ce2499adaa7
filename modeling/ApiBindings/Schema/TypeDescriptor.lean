/-!
# Type descriptors

A descriptor is a type of the generated language: its text, the shape it has, and the
descriptors of its parts.
-/
namespace ApiBindings

inductive TypeShape
  | any
  | primitive
  | reference
  | literal
  | array
  | tuple
  | union
  | intersection
  | object
  | literalUnion
  deriving DecidableEq, Repr

def TypeShape.word : TypeShape → String
  | .any => "any"
  | .primitive => "primitive"
  | .reference => "reference"
  | .literal => "literal"
  | .array => "array"
  | .tuple => "tuple"
  | .union => "union"
  | .intersection => "intersection"
  | .object => "object"
  | .literalUnion => "literal-union"

inductive TypeDescriptor
  | mk (shape : TypeShape) (text : String) (parts : List TypeDescriptor) (name : Option String)
  deriving Repr

namespace TypeDescriptor

def shape : TypeDescriptor → TypeShape
  | mk shape _ _ _ => shape

def text : TypeDescriptor → String
  | mk _ text _ _ => text

/-- The descriptors of the item, the members or the properties, in order. -/
def parts : TypeDescriptor → List TypeDescriptor
  | mk _ _ parts _ => parts

/-- The name of the type a reference stands for. -/
def name : TypeDescriptor → Option String
  | mk _ _ _ name => name

/-- A descriptor without parts. -/
def leaf (shape : TypeShape) (text : String) : TypeDescriptor := mk shape text [] none

def any : TypeDescriptor := leaf .any "any"

def number : TypeDescriptor := leaf .primitive "number"
def date : TypeDescriptor := leaf .primitive "Date"
def string : TypeDescriptor := leaf .primitive "string"
def boolean : TypeDescriptor := leaf .primitive "boolean"

/-- An object type nothing is known about. -/
def record : TypeDescriptor := leaf .object "Record<string, any>"

end TypeDescriptor

end ApiBindings
