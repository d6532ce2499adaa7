import ApiBindings.Text.Pieces

/-!
# YAML tags

A tag says what kind of value a node stands for. A plain scalar without a tag gets one from its
form: the words and number forms of YAML 1.1 are values, everything else is text.
-/
namespace ApiBindings.Yaml

inductive Tag
  | null
  | bool
  | int
  | float
  | timestamp
  | text
  | sequence
  | mapping
  /-- A mapping that stands for the set of its keys. -/
  | set
  /-- A sequence of mappings with one pair each. -/
  | pairs
  /-- The key whose mappings are merged into the one around it. -/
  | merge
  /-- The key of a default value. -/
  | value
  | unknown (name : String)
  deriving Repr, DecidableEq

namespace Tag

/-- The start of the names of all tags that are known. -/
def family : String := "tag:yaml.org,2002:"

def known : List (String × Tag) :=
  [("null", .null), ("bool", .bool), ("int", .int), ("float", .float), ("timestamp", .timestamp),
    ("str", .text), ("seq", .sequence), ("map", .mapping), ("set", .set), ("omap", .pairs),
    ("pairs", .pairs), ("merge", .merge), ("value", .value)]

def ofName (name : String) : Tag :=
  match known.find? fun entry => family ++ entry.1 == name with
  | some entry => entry.2
  | none => .unknown name

/-! ## Forms of plain scalars -/

def boolWords : List String :=
  ["yes", "Yes", "YES", "no", "No", "NO", "true", "True", "TRUE", "false", "False", "FALSE",
    "on", "On", "ON", "off", "Off", "OFF"]

def nullWords : List String := ["~", "null", "Null", "NULL", ""]

def infinityWords : List String := [".inf", ".Inf", ".INF"]

def nanWords : List String := [".nan", ".NaN", ".NAN"]

def isOctal (c : Char) : Bool := '0' ≤ c && c ≤ '7'
def isHex (c : Char) : Bool := c.isDigit || ('a' ≤ c && c ≤ 'f') || ('A' ≤ c && c ≤ 'F')
def orUnderscore (inClass : Char → Bool) (c : Char) : Bool := inClass c || c == '_'

/-- Nothing but characters of a class, and at least one. -/
def allOf (inClass : Char → Bool) (text : List Char) : Bool := !text.isEmpty && text.all inClass

/-- A digit followed by digits and underscores. -/
def isDigits (text : List Char) : Bool :=
  text.head?.any Char.isDigit && text.all (orUnderscore Char.isDigit)

def unsigned (text : List Char) : List Char :=
  match text with
  | '-' :: rest | '+' :: rest => rest
  | _ => text

/-- One digit, or two below sixty. -/
def isSixtieth (text : List Char) : Bool :=
  match text with
  | [a] => a.isDigit
  | [a, b] => '0' ≤ a && a ≤ '5' && b.isDigit
  | _ => false

/-- A whole number in one of five notations. -/
def isInt (text : List Char) : Bool :=
  let digits := unsigned text
  match digits with
  | '0' :: 'b' :: rest => allOf (orUnderscore fun c => c == '0' || c == '1') rest
  | '0' :: 'x' :: rest => allOf (orUnderscore isHex) rest
  | '0' :: rest => rest.all (orUnderscore isOctal)
  | _ =>
    match Text.cut ':' digits with
    | first :: sixtieths => isDigits first && sixtieths.all isSixtieth
    | [] => false

/-- An exponent, which always has a sign, or nothing. -/
def isExponent (text : List Char) : Bool :=
  match text with
  | [] => true
  | e :: sign :: digits =>
    (e == 'e' || e == 'E') && (sign == '+' || sign == '-') && allOf Char.isDigit digits
  | _ => false

/-- What follows the point of a number: digits and underscores, and an exponent. -/
def isFraction (text : List Char) : Bool :=
  isExponent (text.dropWhile (orUnderscore Char.isDigit))

/-- A number with a point, in base ten or in sixtieths, or one of the special values. -/
def isFloat (text : List Char) : Bool :=
  let digits := unsigned text
  let whole := digits.takeWhile (· != '.')
  match digits.drop whole.length with
  | '.' :: places =>
    if whole = [] then
      nanWords.contains (String.ofList text) || infinityWords.contains (String.ofList digits)
        || (digits = text && places.head?.any Char.isDigit && isFraction places)
    else match Text.cut ':' whole with
      | [only] => isDigits only && isFraction places
      | first :: sixtieths =>
        isDigits first && sixtieths.all isSixtieth && places.all (orUnderscore Char.isDigit)
      | [] => false
  | _ => false

/-! ## Calendar forms -/

/-- The parts of a written date or instant. -/
structure TimestampParts where
  year : List Char
  month : List Char
  day : List Char
  /-- Hour, minute, second, the digits of a fraction, and what follows them. -/
  clock : Option (List Char × List Char × List Char × List Char × List Char)
  deriving Repr

/-- Digits at the start of a text, at most `most` of them. -/
def leadingDigits (least most : Nat) (text : List Char) : Option (List Char × List Char) :=
  let digits := (text.take most).takeWhile Char.isDigit
  if digits.length < least then none else some (digits, text.drop digits.length)

/-- What follows a character that has to stand here. -/
def after (c : Char) (text : List Char) : Option (List Char) :=
  match text with
  | d :: rest => if d = c then some rest else none
  | [] => none

def isTabOrSpace (c : Char) : Bool := c == ' ' || c == '\t'

/-- What separates a date from a time: a letter or some blanks. -/
def afterSeparator (text : List Char) : Option (List Char) :=
  match text with
  | 'T' :: rest | 't' :: rest => some rest
  | c :: _ => if isTabOrSpace c then some (text.dropWhile isTabOrSpace) else none
  | [] => none

/-- An offset from UTC, or nothing. -/
def isOffset (text : List Char) : Bool :=
  match text with
  | [] => true
  | ['Z'] => true
  | sign :: rest =>
    if sign == '+' || sign == '-' then
      match leadingDigits 1 2 rest with
      | some (_, []) => true
      | some (_, ':' :: minutes) => minutes.length == 2 && minutes.all Char.isDigit
      | _ => false
    else false

/-- The time of an instant; the blanks before an offset are dropped. -/
def clockParts (text : List Char) :
    Option (List Char × List Char × List Char × List Char × List Char) := do
  let (hour, rest) ← leadingDigits 1 2 (← afterSeparator text)
  let (minute, rest) ← leadingDigits 2 2 (← after ':' rest)
  let (second, rest) ← leadingDigits 2 2 (← after ':' rest)
  let (fraction, rest) := match rest with
    | '.' :: places => places.span Char.isDigit
    | _ => ([], rest)
  let offset := rest.dropWhile isTabOrSpace
  if isOffset offset && (rest.isEmpty || !offset.isEmpty) then
    some (hour, minute, second, fraction, offset)
  else none

/-- The parts of a calendar form, if the text is one. -/
def timestampParts? (text : List Char) : Option TimestampParts := do
  let (year, rest) ← leadingDigits 4 4 text
  let (month, rest) ← leadingDigits 1 2 (← after '-' rest)
  let (day, rest) ← leadingDigits 1 2 (← after '-' rest)
  if rest.isEmpty then some ⟨year, month, day, none⟩
  else some ⟨year, month, day, some (← clockParts rest)⟩

/-- A plain date needs two digits for month and day. -/
def isTimestamp (text : List Char) : Bool :=
  match timestampParts? text with
  | some parts => parts.clock.isSome || (parts.month.length == 2 && parts.day.length == 2)
  | none => false

/-- The tag of a plain scalar by its form. -/
def ofPlain (value : String) : Tag :=
  let text := value.toList
  if boolWords.contains value then .bool
  else if isFloat text then .float
  else if isInt text then .int
  else if value = "<<" then .merge
  else if nullWords.contains value then .null
  else if isTimestamp text then .timestamp
  else if value = "=" then .value
  else if ["!", "&", "*"].contains value then .unknown "yaml"
  else .text

end Tag

end ApiBindings.Yaml
