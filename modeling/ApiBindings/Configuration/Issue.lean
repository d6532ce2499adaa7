/-!
# Faults in a configuration

An issue says where in a configuration a value is wrong and what kind of fault it has.
-/
namespace ApiBindings

/-- A part of a configuration, by keys and positions. -/
inductive Place
  | key (name : String)
  | index (position : Nat)
  deriving DecidableEq, Repr

/-- The kinds of faults a value of a configuration can have. -/
inductive Fault
  | missing
  | notText
  | notList
  | notObject
  /-- The value is of a kind that is no truth value. -/
  | notTruth
  /-- The text or number stands for neither truth value. -/
  | unknownTruth
  | notInteger
  /-- The text is not that of an integer. -/
  | unknownInteger
  /-- The number or its text is too long. -/
  | hugeInteger
  | fractional
  | notFinite
  | negative
  /-- The value is none of the words allowed. -/
  | unknownWord
  /-- The value is no rule that computes a prefix. -/
  | notRule
  /-- The value gives no naming rules. -/
  | notNaming
  /-- The key is not known. -/
  | unknownKey
  /-- The value cannot be read as data. -/
  | unreadable
  deriving DecidableEq, Repr

def Fault.word : Fault → String
  | .missing => "missing"
  | .notText => "string_type"
  | .notList => "list_type"
  | .notObject => "model_type"
  | .notTruth => "bool_type"
  | .unknownTruth => "bool_parsing"
  | .notInteger => "int_type"
  | .unknownInteger => "int_parsing"
  | .hugeInteger => "int_parsing_size"
  | .fractional => "int_from_float"
  | .notFinite => "finite_number"
  | .negative => "greater_than_equal"
  | .unknownWord => "literal_error"
  | .notRule => "callable_type"
  | .notNaming => "is_instance_of"
  | .unknownKey => "extra_forbidden"
  | .unreadable => "value_error"

/-- One thing wrong with a configuration: where, and what kind of fault. -/
structure Issue where
  location : List Place
  fault : Fault
  deriving DecidableEq, Repr

/-- The issue seen from one level further out. -/
def Issue.below (place : Place) (issue : Issue) : Issue := ⟨place :: issue.location, issue.fault⟩

end ApiBindings
