import ApiBindings.Document.Node
import ApiBindings.Toml.Text

/-!
# Numbers and calendar values of a TOML text

A calendar value is tried before a number, since both start with digits. What follows a value is
not looked at: it is the caller who finds anything but the end of the value there.
-/
namespace ApiBindings.Toml

/-! ## Digits -/

/-- Digits behind a first one; single underscores between them are dropped. -/
def moreDigits (isDigit : Char → Bool) : List Char → List Char × List Char
  | [] => ([], [])
  | '_' :: c :: rest =>
    if isDigit c then
      let (digits, after) := moreDigits isDigit rest
      (c :: digits, after)
    else ([], '_' :: c :: rest)
  | c :: rest =>
    if isDigit c then
      let (digits, after) := moreDigits isDigit rest
      (c :: digits, after)
    else ([], c :: rest)

/-- One digit or more. -/
def digits? (isDigit : Char → Bool) : List Char → Option (List Char × List Char)
  | c :: rest =>
    if isDigit c then
      let (digits, after) := moreDigits isDigit rest
      some (c :: digits, after)
    else none
  | [] => none

/-- A number of exactly so many decimal digits, within bounds. -/
def fixed? (width least most : Nat) (text : List Char) : Option (Nat × List Char) :=
  let digits := text.take width
  let value := Json.natOf digits
  if digits.length = width ∧ digits.all Char.isDigit ∧ least ≤ value ∧ value ≤ most then
    some (value, text.drop width)
  else none

/-- What follows a character. -/
def after? (c : Char) : List Char → Option (List Char)
  | first :: rest => if first = c then some rest else none
  | [] => none

/-! ## Calendar values -/

/-- The places of a second, cut or filled up to microseconds. -/
def microseconds (text : List Char) : Nat × List Char :=
  match text with
  | '.' :: rest =>
    let places := rest.takeWhile Char.isDigit
    if places = [] then (0, text)
    else
      let kept := places.take 6
      (Json.natOf (kept ++ List.replicate (6 - kept.length) '0'), rest.drop places.length)
  | _ => (0, text)

def clock? (text : List Char) : Option (Clock × List Char) := do
  let (hour, text) ← fixed? 2 0 23 text
  let (minute, text) ← fixed? 2 0 59 (← after? ':' text)
  let (second, text) ← fixed? 2 0 59 (← after? ':' text)
  let (microsecond, text) := microseconds text
  return (⟨hour, minute, second, microsecond⟩, text)

/-- The distance from UTC in seconds. -/
def offset? (text : List Char) : Option (Int × List Char) :=
  let signed (sign : Int) (text : List Char) : Option (Int × List Char) := do
    let (hours, text) ← fixed? 2 0 23 text
    let (minutes, text) ← fixed? 2 0 59 (← after? ':' text)
    return (sign * (3600 * hours + 60 * minutes), text)
  match text with
  | c :: rest =>
    if c = 'Z' ∨ c = 'z' then some (0, rest)
    else if c = '+' then signed 1 rest
    else if c = '-' then signed (-1) rest
    else none
  | [] => none

/-- A date by its digits, which may stand for a day that the calendar does not have. -/
def date? (text : List Char) : Option (Date × List Char) := do
  let (year, text) ← fixed? 4 0 9999 text
  let (month, text) ← fixed? 2 1 12 (← after? '-' text)
  let (day, text) ← fixed? 2 1 31 (← after? '-' text)
  return (⟨year, month, day⟩, text)

def isDay (day : Date) : Bool := 1 ≤ day.year && day.day ≤ Moment.daysInMonth day.year day.month

/-- The time of day behind a date. -/
def clockBehind? (text : List Char) : Option (Clock × List Char) :=
  match text with
  | c :: rest => if c = 'T' ∨ c = 't' ∨ c = ' ' then clock? rest else none
  | [] => none

/-- A date with or without a time of day, or a time of day alone. -/
def moment? (text : List Char) : Option (Except TomlError (Moment × List Char)) :=
  match date? text with
  | some (day, after) => some <|
    if !isDay day then malformed
    else match clockBehind? after with
      | none => .ok (.date day, after)
      | some (time, after) =>
        match offset? after with
        | some (offset, after) => .ok (.instant day time (some offset), after)
        | none => .ok (.instant day time none, after)
  | none => (clock? text).map fun (time, after) => .ok (.clock time, after)

/-! ## Numbers -/

/-- The letters of the bases other than ten. -/
def bases : List (Char × Nat) := [('x', 16), ('o', 8), ('b', 2)]

def isDigitOf (base : Nat) (c : Char) : Bool :=
  (Json.hexDigit? c).any fun digit => decide (digit < base)

def valueOf (base : Nat) (digits : List Char) : Nat :=
  digits.foldl (fun value c => base * value + (Json.hexDigit? c).getD 0) 0

/-- A number in another base than ten. -/
def based? (text : List Char) : Option (Int × List Char) :=
  match text with
  | '0' :: letter :: rest => do
    let base ← bases.lookup letter
    let (digits, after) ← digits? (isDigitOf base) rest
    return (valueOf base digits, after)
  | _ => none

/-- Digits before a point: a zero alone or a number without zeros before it. -/
def whole? (text : List Char) : Option (List Char × List Char) :=
  match text with
  | '0' :: rest => some (['0'], rest)
  | _ => digits? Char.isDigit text

/-- The places behind a point. -/
def places (text : List Char) : List Char × List Char :=
  ((after? '.' text).bind (digits? Char.isDigit)).getD ([], text)

def sign (text : List Char) : Bool × List Char :=
  match text with
  | '-' :: rest => (true, rest)
  | '+' :: rest => (false, rest)
  | _ => (false, text)

def exponent? (text : List Char) : Option (Int × List Char) := do
  let (negative, text) := sign (← (after? 'e' text).or (after? 'E' text))
  let (digits, after) ← digits? Char.isDigit text
  let size : Int := Json.natOf digits
  return (if negative then -size else size, after)

/-- A decimal number; one with places or an exponent is a floating point number. -/
def decimal? (text : List Char) : Option (Except TomlError (Node × List Char)) := do
  let (negative, text) := sign text
  let (digits, text) ← whole? text
  let (places, text) := places text
  let number := Json.natOf (digits ++ places)
  let shift : Int := places.length
  match exponent? text with
  | some (power, after) =>
    return .ok (.float (Binary64.ofDecimal negative number (power - shift)), after)
  | none =>
    if places ≠ [] then return .ok (.float (Binary64.ofDecimal negative number (-shift)), text)
    else if digits.length > digitLimit then return .error (.tooManyDigits digits.length)
    else
      let size : Int := number
      return .ok (.int (if negative then -size else size), text)

/-- The words for numbers that are not finite, with their signs. -/
def words : List (List Char × Node) :=
  [("true".toList, .bool true), ("false".toList, .bool false),
    ("inf".toList, .float (Binary64.infinity false)), ("nan".toList, .float Binary64.nan),
    ("+inf".toList, .float (Binary64.infinity false)), ("+nan".toList, .float Binary64.nan),
    ("-inf".toList, .float (Binary64.infinity true)), ("-nan".toList, .float Binary64.nan)]

def word? (text : List Char) : Option (Node × List Char) :=
  (words.find? fun word => word.1.isPrefixOf text).map fun word =>
    (word.2, text.drop word.1.length)

/-- A value of one piece that is no string. -/
def plainValue (text : List Char) : Except TomlError (Node × List Char) :=
  match word? text, moment? text, based? text, decimal? text with
  | some found, _, _, _ => .ok found
  | none, some found, _, _ => found.map fun (value, after) => (.moment value, after)
  | none, none, some (value, after), _ => .ok (.int value, after)
  | none, none, none, some found => found
  | none, none, none, none => malformed

end ApiBindings.Toml
