import ApiBindings.Configuration.Checked
import ApiBindings.Document.Node
import ApiBindings.Text.Letter

/-!
# Values of a configuration

Each kind of setting has a check that turns a node into a value. Text is taken as it is; truth
values and integers may also be given by numbers and by text.
-/
namespace ApiBindings.Configuration

def text : Node → Checked String
  | .text value => .sound value
  | _ => .fault .notText

/-- A value that may be null. -/
def orNull {α : Type} (check : Node → Checked α) : Node → Checked (Option α)
  | .null => .sound none
  | node => (check node).map some

def texts : Node → Checked (List String)
  | .list items => .each text items
  | _ => .fault .notList

/-- As `texts`, where an absent value stands for none. -/
def textsOrNone (node : Node) : Checked (List String) :=
  if node.isPresent then texts node else .sound []

def wordsForTrue : List String := ["1", "on", "t", "true", "y", "yes"]
def wordsForFalse : List String := ["0", "off", "f", "false", "n", "no"]

/-- The truth value a word stands for, whatever its case. -/
def truthOfWord (word : String) : Checked Bool :=
  let word := String.ofList (word.toList.map Char.toLower)
  if word ∈ wordsForTrue then .sound true
  else if word ∈ wordsForFalse then .sound false
  else .fault .unknownTruth

/-- The number of negative integers of 64 bits. -/
def integerBound : Int := 9223372036854775808

/-- Integers of 64 bits. -/
def isSmall (value : Int) : Bool := -integerBound ≤ value && value < integerBound

/-- Floating point numbers strictly between the ends of the 64-bit integers. -/
def isSmallFloat (value : Int) : Bool := -integerBound < value && value < integerBound

def truthOfInt (value : Int) : Checked Bool :=
  if value = 1 then .sound true else if value = 0 then .sound false else .fault .unknownTruth

def truth : Node → Checked Bool
  | .bool value => .sound value
  | .text word => truthOfWord word
  | .int value => if isSmall value then truthOfInt value else .fault .notTruth
  | .float value =>
    match value.toInt? with
    | some value => if isSmallFloat value then truthOfInt value else .fault .notTruth
    | none => .fault .notTruth
  | _ => .fault .notTruth

/-- White space around a number: the blanks of Unicode without the four separators. -/
def isSpace (c : Char) : Bool := Text.isBlank c && !(28 ≤ c.toNat && c.toNat ≤ 31)

def isLeadingDigit (c : Char) : Bool := '1' ≤ c && c ≤ '9'

/-- Drops zeros and single underscores after a zero; one zero stays if nothing but a point or
the end follows. -/
def afterZero (last : Char) : List Char → Option (List Char)
  | [] => some [last]
  | c :: rest =>
    if c = '0' ∨ (c = '_' ∧ last ≠ '_') then afterZero c rest
    else if isLeadingDigit c then some (c :: rest)
    else if c = '.' then some (last :: c :: rest)
    else none

/-- Drops zeros at the start of a number that starts with a digit or a minus. -/
def dropZeros : List Char → Option (List Char)
  | [] => none
  | c :: rest =>
    if c = '0' then afterZero c rest
    else if isLeadingDigit c ∨ c = '-' then some (c :: rest)
    else none

/-- Drops a point with nothing but zeros behind it. -/
def dropPoint (text : List Char) : List Char :=
  match text.dropWhile (· != '.') with
  | '.' :: places => if places.all (· == '0') then text.takeWhile (· != '.') else text
  | _ => text

/-- Whether two underscores stand side by side. -/
def hasDoubleUnderscore : List Char → Bool
  | '_' :: '_' :: _ => true
  | _ :: rest => hasDoubleUnderscore rest
  | [] => false

/-- Drops single underscores between other characters. -/
def dropUnderscores (text : List Char) : List Char :=
  if text.head? = some '_' ∨ text.getLast? = some '_' ∨ hasDoubleUnderscore text then text
  else text.filter (· != '_')

/-- The most digits a number may have. -/
def mostDigits : Nat := 4300

/-- Digits without a needless zero at the start, as a number. -/
def natural (digits : List Char) : Checked Nat :=
  if digits = [] ∨ !digits.all Char.isDigit ∨ (digits.length > 1 ∧ digits.head? = some '0') then
    .fault .unknownInteger
  else if digits.length > mostDigits then .fault .hugeInteger
  else .sound (digits.foldl (fun value c => 10 * value + (c.toNat - '0'.toNat)) 0)

/-- The integer a text stands for. -/
def integerOfText (text : List Char) : Checked Int :=
  let text := Text.trim isSpace text
  let unsigned := match text with
    | '+' :: rest => rest
    | _ => text
  match (dropZeros unsigned).map fun text => dropUnderscores (dropPoint text) with
  | none => .fault .unknownInteger
  | some ('-' :: digits) => (natural digits).map fun (value : Nat) => -(value : Int)
  | some digits => (natural digits).map fun (value : Nat) => (value : Int)

def integer : Node → Checked Int
  | .int value => .sound value
  | .bool value => .sound (Scalar.boolInt value)
  | .text text => integerOfText text.toList
  | .float value =>
    match value.toInt? with
    | some value => if isSmallFloat value then .sound value else .fault .hugeInteger
    | none => .fault (if value.ratio?.isSome then .fractional else .notFinite)
  | _ => .fault .notInteger

/-- An integer that is not negative. -/
def count (node : Node) : Checked Nat :=
  match integer node with
  | .sound value => if value < 0 then .fault .negative else .sound value.toNat
  | .faulty issues => .faulty issues

/-- A member that has to be there. -/
def required {α : Type} (members : Members) (key : String) (check : Node → Checked α) : Checked α :=
  (match Members.get? members key with
    | some node => check node
    | none => .fault .missing).below (.key key)

/-- A member with a value for when it is missing. -/
def optional {α : Type} (members : Members) (key : String) (default : α)
    (check : Node → Checked α) : Checked α :=
  match Members.get? members key with
  | some node => (check node).below (.key key)
  | none => .sound default

end ApiBindings.Configuration
