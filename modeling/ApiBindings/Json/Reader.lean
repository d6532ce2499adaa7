import ApiBindings.Document.Node
import ApiBindings.Text.Class
import ApiBindings.Text.CodePoint

/-!
# Reading JSON

The reader works on the characters that are left and knows nothing of positions: an error keeps
what was left where it arose, and the place is counted from that afterwards. Numbers with a
point or an exponent are floating point, others integers of any size; three words for special
numbers are allowed. Nesting is bounded by the length of the text, since every opening bracket
takes one character.
-/
namespace ApiBindings.Json

/-- What is wrong with a text that is no JSON. -/
inductive Problem
  | byteOrderMark
  | noValue
  | noName
  | noColon
  | noComma
  | extraData
  | unterminated
  | controlCharacter
  | badEscape
  | badCodeEscape
  deriving DecidableEq, Repr

/-- A problem at the place where `rest` is what remains of the text, or a number with too many
digits to be read. -/
inductive ReadError
  | at (problem : Problem) (rest : List Char)
  | tooManyDigits (count : Nat)
  deriving DecidableEq, Repr

def fail {α : Type} (problem : Problem) (rest : List Char) : Except ReadError α :=
  .error (.at problem rest)

def isSpace (c : Char) : Bool := c == ' ' || c == '\t' || c == '\n' || c == '\r'

def skipSpace (text : List Char) : List Char := text.dropWhile isSpace

def hexDigit? (c : Char) : Option Nat :=
  if c.isDigit then some (c.toNat - '0'.toNat)
  else if 'a' ≤ c ∧ c ≤ 'f' then some (c.toNat - 'a'.toNat + 10)
  else if 'A' ≤ c ∧ c ≤ 'F' then some (c.toNat - 'A'.toNat + 10)
  else none

/-- Four hexadecimal digits that are not the last characters of the text. -/
def code? : List Char → Option (Nat × List Char)
  | a :: b :: c :: d :: rest => do
    if rest.isEmpty then none
    else
      let value := 4096 * (← hexDigit? a) + 256 * (← hexDigit? b) + 16 * (← hexDigit? c)
      return (value + (← hexDigit? d), rest)
  | _ => none

def isHighSurrogate (code : Nat) : Bool := 0xd800 ≤ code && code < 0xdc00
def isLowSurrogate (code : Nat) : Bool := 0xdc00 ≤ code && code < 0xe000

def simpleEscape? (c : Char) : Option Char :=
  if c = '"' ∨ c = '\\' ∨ c = '/' then some c
  else if c = 'b' then some '\x08'
  else if c = 'f' then some '\x0c'
  else if c = 'n' then some '\n'
  else if c = 'r' then some '\r'
  else if c = 't' then some '\t'
  else none

/-- An escape after `backslash u`, joined with a second one to a character beyond U+FFFF. -/
def codeEscape (text : List Char) : Except ReadError (Char × List Char) :=
  match code? text with
  | none => fail .badCodeEscape ('u' :: text)
  | some (high, rest) =>
    match isHighSurrogate high, rest with
    | true, '\\' :: 'u' :: after =>
      if after.length ≤ 4 then .ok (Text.ofCodePoint high, rest)
      else match code? after with
        | none => fail .badCodeEscape ('u' :: after)
        | some (low, final) =>
          if isLowSurrogate low then
            .ok (Char.ofNat (0x10000 + (high - 0xd800) * 1024 + (low - 0xdc00)), final)
          else .ok (Text.ofCodePoint high, rest)
    | _, _ => .ok (Text.ofCodePoint high, rest)

/-- The characters up to the closing quote; `start` is the text from the opening one. -/
def stringTail (start : List Char) :
    Nat → List Char → List Char → Except ReadError (String × List Char)
  | 0, _, _ => fail .unterminated start
  | fuel + 1, done, text =>
    match text with
    | [] => fail .unterminated start
    | '"' :: rest => .ok (String.ofList done.reverse, rest)
    | ['\\'] => fail .unterminated start
    | '\\' :: 'u' :: rest => do
      let (c, rest) ← codeEscape rest
      stringTail start fuel (c :: done) rest
    | '\\' :: c :: rest =>
      match simpleEscape? c with
      | some meaning => stringTail start fuel (meaning :: done) rest
      | none => fail .badEscape text
    | c :: rest =>
      if c.toNat < 0x20 then fail .controlCharacter text
      else stringTail start fuel (c :: done) rest

/-- A string from its opening quote on. -/
def readString (text : List Char) : Except ReadError (String × List Char) :=
  stringTail text text.length [] text.tail

def digitsOf (text : List Char) : List Char × List Char := text.span Char.isDigit

def natOf (digits : List Char) : Nat :=
  digits.foldl (fun value c => 10 * value + (c.toNat - '0'.toNat)) 0

/-- A point with digits after it. -/
def fraction (text : List Char) : List Char × List Char :=
  match text with
  | '.' :: rest => if (digitsOf rest).1 = [] then ([], text) else digitsOf rest
  | _ => ([], text)

/-- An exponent with digits, as a number. -/
def exponent? (text : List Char) : Option (Int × List Char) :=
  let signed (negative : Bool) (rest : List Char) : Option (Int × List Char) :=
    let (digits, after) := digitsOf rest
    if digits = [] then none
    else
      let size : Int := natOf digits
      some (if negative then -size else size, after)
  match text with
  | e :: rest =>
    if e = 'e' ∨ e = 'E' then
      match rest with
      | '-' :: rest => signed true rest
      | '+' :: rest => signed false rest
      | _ => signed false rest
    else none
  | [] => none

/-- A number without its sign. -/
def readNumber (start : List Char) (negative : Bool) (text : List Char) :
    Except ReadError (Node × List Char) :=
  let whole : List Char × List Char := match text with
    | '0' :: rest => (['0'], rest)
    | _ => digitsOf text
  if whole.1 = [] then fail .noValue start
  else
    let (places, afterPoint) := fraction whole.2
    match exponent? afterPoint with
    | some (power, rest) =>
      .ok (.float (Binary64.ofDecimal negative (natOf (whole.1 ++ places))
        (power - places.length)), rest)
    | none =>
      if places ≠ [] then
        .ok (.float (Binary64.ofDecimal negative (natOf (whole.1 ++ places))
          (-(places.length : Int))), afterPoint)
      else if whole.1.length > digitLimit then .error (.tooManyDigits whole.1.length)
      else
        let size : Int := natOf whole.1
        .ok (.int (if negative then -size else size), whole.2)

/-- The words that stand for values. -/
def words : List (List Char × Node) :=
  [("null".toList, .null), ("true".toList, .bool true), ("false".toList, .bool false),
    ("NaN".toList, .float Binary64.nan), ("Infinity".toList, .float (Binary64.infinity false)),
    ("-Infinity".toList, .float (Binary64.infinity true))]

def readWord? (text : List Char) : Option (Node × List Char) :=
  (words.find? fun word => word.1.isPrefixOf text).map fun word =>
    (word.2, text.drop word.1.length)

mutual

/-- A value at the start of the text. -/
def readValue : Nat → List Char → Except ReadError (Node × List Char)
  | 0, text => fail .noValue text
  | fuel + 1, text =>
    match text with
    | '"' :: _ => do
      let (value, rest) ← readString text
      return (.text value, rest)
    | '[' :: rest =>
      match skipSpace rest with
      | ']' :: after => .ok (.list [], after)
      | inside => do
        let (items, rest) ← readItems fuel [] inside
        return (.list items, rest)
    | '\x7b' :: rest =>
      match skipSpace rest with
      | '\x7d' :: after => .ok (.object [], after)
      | inside => do
        let (members, rest) ← readMembers fuel [] inside
        return (.object members, rest)
    | _ =>
      match readWord? text with
      | some found => .ok found
      | none =>
        match text with
        | '-' :: rest => readNumber text true rest
        | _ => readNumber text false text

/-- The items of a list up to its end. -/
def readItems : Nat → List Node → List Char → Except ReadError (List Node × List Char)
  | 0, _, text => fail .noValue text
  | fuel + 1, done, text => do
    let (item, rest) ← readValue fuel text
    match skipSpace rest with
    | ']' :: after => return ((item :: done).reverse, after)
    | ',' :: after => readItems fuel (item :: done) (skipSpace after)
    | other => fail .noComma other

/-- The members of an object up to its end. -/
def readMembers : Nat → Members → List Char → Except ReadError (Members × List Char)
  | 0, _, text => fail .noName text
  | fuel + 1, done, text =>
    match text with
    | '"' :: _ => do
      let (name, rest) ← readString text
      match skipSpace rest with
      | ':' :: after =>
        let (value, rest) ← readValue fuel (skipSpace after)
        let members := done.insert (.text name) value
        match skipSpace rest with
        | '\x7d' :: after => return (members, after)
        | ',' :: after => readMembers fuel members (skipSpace after)
        | other => fail .noComma other
      | other => fail .noColon other
    | _ => fail .noName text

end

/-- The value of a whole text. -/
def readAll (text : List Char) : Except ReadError Node :=
  match text with
  | '\ufeff' :: _ => fail .byteOrderMark text
  | _ => do
    let (value, rest) ← readValue (2 * text.length + 2) (skipSpace text)
    match skipSpace rest with
    | [] => return value
    | extra => fail .extraData extra

def Problem.message : Problem → String
  | .byteOrderMark => "Unexpected UTF-8 BOM (decode using utf-8-sig)"
  | .noValue => "Expecting value"
  | .noName => "Expecting property name enclosed in double quotes"
  | .noColon => "Expecting ':' delimiter"
  | .noComma => "Expecting ',' delimiter"
  | .extraData => "Extra data"
  | .unterminated => "Unterminated string starting at"
  | .controlCharacter => "Invalid control character at"
  | .badEscape => "Invalid \\escape"
  | .badCodeEscape => "Invalid \\uXXXX escape"

/-- A place in a text by line, column and number of characters before it. -/
def place (before : List Char) : String :=
  let line := before.count '\n' + 1
  let column := (before.reverse.takeWhile (· != '\n')).length + 1
  s!"line {line} column {column} (char {before.length})"

/-- What to tell about a text that could not be read. -/
def ReadError.message (text : List Char) : ReadError → String
  | .at problem rest =>
    let before := text.take (text.length - rest.length)
    problem.message ++ ": " ++ place before
  | .tooManyDigits count => (Misfit.tooManyDigits count).message

def read (text : String) : Except ReadError Node := readAll text.toList

end ApiBindings.Json
