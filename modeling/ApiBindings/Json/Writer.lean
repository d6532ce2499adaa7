import ApiBindings.Document.Node
import ApiBindings.Text.CodePoint

/-!
# Writing nodes as JSON

Items are separated by a comma and a blank, a key and its value by a colon and a blank. Only
quotes, backslashes and control characters are escaped. Keys that are no text are written in
quotes as data; calendar values have no form as data unless the style displays them.
-/
namespace ApiBindings.Json

/-- Whether members are put in the order of their keys, and whether calendar values are
written as displayed text. -/
structure Style where
  sorted : Bool
  displaysMoments : Bool

/-- Literals keep the order of members and refuse calendar values. -/
def literalStyle : Style := ⟨false, false⟩

/-- The style in which equal data has equal text. -/
def canonicalStyle : Style := ⟨true, true⟩

def hex4 (value : Nat) : List Char :=
  let digits := Nat.toDigits 16 value
  List.replicate (4 - digits.length) '0' ++ digits

def escapedChar (c : Char) : List Char :=
  if c = '"' then ['\\', '"']
  else if c = '\\' then ['\\', '\\']
  else if c = '\n' then ['\\', 'n']
  else if c = '\r' then ['\\', 'r']
  else if c = '\t' then ['\\', 't']
  else if c = '\x08' then ['\\', 'b']
  else if c = '\x0c' then ['\\', 'f']
  else if c.toNat < 0x20 then '\\' :: 'u' :: hex4 c.toNat
  else [c]

/-- A text in double quotes. -/
def string (text : List Char) : List Char :=
  '"' :: text.flatMap escapedChar ++ ['"']

/-- A scalar that is neither text nor a calendar value. -/
def plainScalar : Scalar → Option (List Char)
  | .null => some "null".toList
  | .bool value => some (if value then "true".toList else "false".toList)
  | .int value => some (toString value).toList
  | .float value => some (value.write Binary64.dataFormat)
  | .text _ | .moment _ => none

def scalar (style : Style) : Scalar → Except Misfit (List Char)
  | .text value => .ok (string value.toList)
  | .moment value =>
    if style.displaysMoments then .ok (string value.display)
    else .error (.notLiteral (Scalar.kind (.moment value)))
  | value => .ok ((plainScalar value).getD [])

def key : Scalar → Except Misfit (List Char)
  | .text value => .ok (string value.toList)
  | .moment value => .error (.notDataKey (Scalar.kind (.moment value)))
  | value => .ok (string ((plainScalar value).getD []))

/-- Keys have an order among texts, among numbers, and among dates. -/
def keyLt? : Scalar → Scalar → Option Bool
  | .text a, .text b => some (Text.precedes a.toList b.toList)
  | .bool a, .bool b => some (Scalar.boolInt a < Scalar.boolInt b)
  | .bool a, .int b => some (Scalar.boolInt a < b)
  | .int a, .bool b => some (a < Scalar.boolInt b)
  | .int a, .int b => some (a < b)
  | .bool a, .float b => some ((Binary64.ofInt (Scalar.boolInt a)).numericLt b)
  | .float a, .bool b => some (a.numericLt (Binary64.ofInt (Scalar.boolInt b)))
  | .int a, .float b => some ((Binary64.ofInt a).numericLt b)
  | .float a, .int b => some (a.numericLt (Binary64.ofInt b))
  | .float a, .float b => some (a.numericLt b)
  | .moment (.date a), .moment (.date b) =>
    some (Text.precedes (Moment.dateText a) (Moment.dateText b))
  | .moment (.instant a s none), .moment (.instant b t none) =>
    some (Text.precedes (Moment.dateText a ++ Moment.clockText s)
      (Moment.dateText b ++ Moment.clockText t))
  | _, _ => none

/-- The first two neighbours without an order. -/
def firstUnordered? : List Scalar → Option (Scalar × Scalar)
  | one :: other :: rest =>
    if (keyLt? other one).isSome then firstUnordered? (other :: rest) else some (other, one)
  | _ => none

/-- Members in the order of their keys; keys of different kinds have none. -/
def sortMembers (members : List (Scalar × List Char)) :
    Except Misfit (List (Scalar × List Char)) :=
  match firstUnordered? (members.map (·.1)) with
  | some (key, other) => .error (.notOrdered key.kind other.kind)
  | none => .ok (members.mergeSort fun one other => !(keyLt? other.1 one.1).getD false)

def memberText (member : Scalar × List Char) : Except Misfit (List Char) :=
  return (← key member.1) ++ [':', ' '] ++ member.2

mutual

def write (style : Style) : Node → Except Misfit (List Char)
  | .scalar value => scalar style value
  | .list items => return '[' :: Text.join [',', ' '] (← writeItems style items) ++ [']']
  | .object members => do
    let written ← writeMembers style members
    let ordered ← if style.sorted then sortMembers written else pure written
    return '\x7b' :: Text.join [',', ' '] (← ordered.mapM memberText) ++ ['\x7d']

def writeItems (style : Style) : List Node → Except Misfit (List (List Char))
  | [] => return []
  | item :: rest => return (← write style item) :: (← writeItems style rest)

def writeMembers (style : Style) :
    List (Scalar × Node) → Except Misfit (List (Scalar × List Char))
  | [] => return []
  | (key, value) :: rest => return (key, ← write style value) :: (← writeMembers style rest)

end

end ApiBindings.Json
