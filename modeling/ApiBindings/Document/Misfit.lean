import ApiBindings.Text.Utf8

/-!
# Values that do not fit their place

A document is read without validation, so a value may be of a kind that the place it stands in
cannot use. A misfit says which use failed and what kind of value it met.
-/
namespace ApiBindings

/-- The kinds of values a document holds. -/
inductive Kind
  | null
  | bool
  | int
  | float
  | text
  | list
  | object
  | date
  | clock
  | instant
  deriving DecidableEq, Repr, Inhabited

def Kind.word : Kind → String
  | .null => "NoneType"
  | .bool => "bool"
  | .int => "int"
  | .float => "float"
  | .text => "str"
  | .list => "list"
  | .object => "dict"
  | .date => "date"
  | .clock => "time"
  | .instant => "datetime"

/-- Kinds of calendar values are written with the name of their family. -/
def Kind.fullWord : Kind → String
  | .date => "datetime.date"
  | .clock => "datetime.time"
  | .instant => "datetime.datetime"
  | kind => kind.word

/-- Why a value cannot be used where it stands. -/
inductive Misfit
  /-- Several values are wanted and the value holds none. -/
  | notIterable (kind : Kind)
  /-- The value is looked up in a set or used as a key, and lists and objects cannot be. -/
  | notHashable (kind : Kind)
  /-- Keys of different kinds are to be put in order. -/
  | notOrdered (kind other : Kind)
  /-- A calendar value has no form as a literal. -/
  | notLiteral (kind : Kind)
  /-- A calendar value cannot be a key of an object that is written as data. -/
  | notDataKey (kind : Kind)
  /-- A member or an operation is asked of a value that does not have it. -/
  | noMember (kind : Kind) (member : String)
  /-- A member is looked up by name in a value that has no named members. -/
  | noNames (kind : Kind)
  /-- A replacement in a text is asked of a calendar value. -/
  | notReplaceable
  /-- A digit without a decimal value stands in a number. -/
  | notDecimal (text : String)
  /-- A number has too many digits to be read. -/
  | tooManyDigits (count : Nat)
  /-- A list of pairs holds an item of another length. -/
  | notPair (index length : Nat)
  /-- A key of a configuration is no text. -/
  | notFieldName
  /-- A field is asked of something that a template was not given. -/
  | notGiven (field : String)
  /-- A text that has no bytes is to be written in bytes. -/
  | notEncodable (error : Utf8.EncodeError)
  deriving DecidableEq, Repr, Inhabited

/-- The longest integer that is read. -/
def digitLimit : Nat := 4300

def Misfit.message : Misfit → String
  | .notIterable kind => s!"'{kind.fullWord}' object is not iterable"
  | .notHashable kind => s!"unhashable type: '{kind.word}'"
  | .notOrdered kind other =>
    s!"'<' not supported between instances of '{kind.fullWord}' and '{other.fullWord}'"
  | .notLiteral kind => s!"Object of type {kind.word} is not JSON serializable"
  | .notDataKey kind => s!"keys must be str, int, float, bool or None, not {kind.word}"
  | .noMember kind member => s!"'{kind.fullWord}' object has no attribute '{member}'"
  | .noNames .list => "list indices must be integers or slices, not str"
  | .noNames .text => "string indices must be integers, not 'str'"
  | .noNames kind => s!"argument of type '{kind.fullWord}' is not iterable"
  | .notReplaceable => "'str' object cannot be interpreted as an integer"
  | .notDecimal text => s!"invalid literal for int() with base 10: '{text}'"
  | .tooManyDigits count =>
    s!"Exceeds the limit ({digitLimit} digits) for integer string conversion: "
      ++ s!"value has {count} digits; use sys.set_int_max_str_digits() to increase the limit"
  | .notPair index length =>
    s!"dictionary update sequence element #{index} has length {length}; 2 is required"
  | .notFieldName => "keywords must be strings"
  | .notGiven field => s!"'{field}' is undefined"
  | .notEncodable error => error.message

end ApiBindings
