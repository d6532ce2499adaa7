import ApiBindings.Source.Load
import ApiBindings.Text.Class
import ApiBindings.Yaml.Scan
import ApiBindings.Yaml.Tree

/-!
# Values of a YAML tree

Each tagged node stands for a value. Merged mappings are put in front of the pairs of their own
mapping, so that these override them. Nodes are built level by level, so of several faults the
one nearest to the root is told, and of those on one level the first.
-/
namespace ApiBindings.Yaml

/-! ## Merged mappings -/

/-- A node that cannot be built. -/
def Tree.unbuildable : Tree := .scalar (.unknown "") ""

def Tree.isMergeKey : Tree → Bool
  | .scalar .merge _ => true
  | _ => false

/-- The pairs that a merged value brings: its own, or those of several mappings, where the
first ones win. Anything else cannot be merged. -/
def Tree.mergedPairs : Tree → List (Tree × Tree)
  | .mapping _ _ pairs => pairs
  | .sequence _ items =>
    items.reverse.flatMap fun item =>
      match item with
      | .mapping _ _ pairs => pairs
      | _ => [(.unbuildable, .unbuildable)]
  | .scalar _ _ => [(.unbuildable, .unbuildable)]

mutual

/-- Puts the pairs of merged mappings in front of those of their mapping, everywhere. -/
def Tree.merge : Tree → Tree
  | .scalar tag text => .scalar tag text
  | .sequence tag items => .sequence tag (mergeItems items)
  | .mapping number tag pairs =>
    let pairs := mergePairs pairs
    let (merges, own) := pairs.partition fun (key, _) => key.isMergeKey
    .mapping number tag (merges.flatMap (fun (_, value) => value.mergedPairs) ++ own)

def Tree.mergeItems : List Tree → List Tree
  | [] => []
  | item :: rest => item.merge :: mergeItems rest

def Tree.mergePairs : List (Tree × Tree) → List (Tree × Tree)
  | [] => []
  | (key, value) :: rest => (key.merge, value.merge) :: mergePairs rest

end

/-! ## Scalars -/

def boolOf (text : String) : Except FormatError Scalar :=
  let word := String.ofList (text.toList.map Char.toLower)
  if ["yes", "true", "on"].contains word then .ok (.bool true)
  else if ["no", "false", "off"].contains word then .ok (.bool false)
  else .error (.unknownWord word)

/-- The sign of a number and what follows it. -/
def signed (text : List Char) : Bool × List Char :=
  match text with
  | '-' :: rest => (true, rest)
  | '+' :: rest => (false, rest)
  | _ => (false, text)

def withoutUnderscores (text : String) : List Char := text.toList.filter (· != '_')

/-- The value of digits in a base, or nothing if there are none or a character is no digit. -/
def valueInBase? (base : Nat) (digits : List Char) : Option Nat :=
  if digits = [] then none
  else digits.foldlM (fun value c =>
    match (Text.decimalValue? c).or (Json.hexDigit? c) with
    | some digit => if digit < base then some (base * value + digit) else none
    | none => none) 0

/-- Reads an integer that may have blanks around it and a sign. -/
def integerInBase (base : Nat) (text : List Char) : Except FormatError Int :=
  let (negative, digits) := signed (Text.trimBlanks text)
  match valueInBase? base digits with
  | some value =>
    if base = 10 && digits.length > digitLimit then
      .error (.noValue (Misfit.tooManyDigits digits.length).message)
    else .ok (if negative then -(value : Int) else value)
  | none =>
    .error (.noValue ("invalid literal for int() with base " ++ toString base ++ ": "
      ++ String.ofList (Text.quoted text)))

/-- The value of parts of which each counts sixty times the next. -/
def sixtieths (parts : List Int) : Int := parts.foldl (fun value part => 60 * value + part) 0

def intOf (text : String) : Except FormatError Scalar := do
  let (negative, digits) := signed (withoutUnderscores text)
  if withoutUnderscores text = [] || digits = [] then .error .emptyNumber
  else
    let value ← match digits with
      | ['0'] => pure 0
      | '0' :: 'b' :: rest => integerInBase 2 rest
      | '0' :: 'x' :: rest => integerInBase 16 rest
      | '0' :: _ => integerInBase 8 digits
      | _ =>
        if digits.contains ':' then
          return .int ((if negative then -1 else 1)
            * sixtieths (← (Text.cut ':' digits).mapM (integerInBase 10)))
        else integerInBase 10 digits
    return .int (if negative then -value else value)

/-- A decimal number as digits and an exponent. -/
def decimalOf? (text : List Char) : Option Binary64 :=
  let (negative, text) := signed text
  let (whole, rest) := text.span Char.isDigit
  let (places, rest) := match rest with
    | '.' :: places => places.span Char.isDigit
    | _ => ([], rest)
  if whole = [] ∧ places = [] then none
  else
    let digits := Json.natOf (whole ++ places)
    match rest, Json.exponent? rest with
    | [], _ => some (Binary64.ofDecimal negative digits (-(places.length : Int)))
    | _, some (power, []) => some (Binary64.ofDecimal negative digits (power - places.length))
    | _, _ => none

/-- Reads a floating point number, which may also be one of the special words. -/
def floatingOf (text : List Char) : Except FormatError Binary64 :=
  let trimmed := Text.trimBlanks text
  let (negative, word) := signed trimmed
  let word := String.ofList word
  if word = "inf" || word = "infinity" then .ok (Binary64.infinity negative)
  else if word = "nan" then .ok Binary64.nan
  else match decimalOf? trimmed with
    | some value => .ok value
    | none =>
      .error (.noValue ("could not convert string to float: " ++ String.ofList (Text.quoted text)))

/-- Adds parts of which each counts sixty times the one before, the last one first, rounding
after every step. -/
def addSixtieths (parts : List Binary64) : Binary64 :=
  (parts.foldl (fun (sum, base) part =>
    (sum.add (part.mul (Binary64.ofInt base)), 60 * base)) (Binary64.ofInt 0, (1 : Int))).1

def floatOf (text : String) : Except FormatError Scalar := do
  let lowered := (withoutUnderscores text).map Char.toLower
  let (negative, digits) := signed lowered
  let apply (value : Binary64) : Scalar := .float (if negative then value.negate else value)
  if lowered = [] then .error .emptyNumber
  else if digits = ".inf".toList then return apply (Binary64.infinity false)
  else if digits = ".nan".toList then return .float Binary64.nan
  else if digits.contains ':' then
    let parts ← (Text.cut ':' digits).mapM floatingOf
    return apply (addSixtieths parts.reverse)
  else return apply (← floatingOf digits)

/-! ## Calendar values -/

def number (digits : List Char) : Nat := Json.natOf digits

def outOfRange (message : String) : FormatError := .noValue message

def dateOf (parts : Tag.TimestampParts) : Except FormatError Date :=
  let day : Date := ⟨number parts.year, number parts.month, number parts.day⟩
  if day.year = 0 then .error (outOfRange "year 0 is out of range")
  else if day.month = 0 ∨ 12 < day.month then .error (outOfRange "month must be in 1..12")
  else if day.day = 0 ∨ Moment.daysInMonth day.year day.month < day.day then
    .error (outOfRange "day is out of range for month")
  else .ok day

def clockOf (hour minute second fraction : List Char) : Except FormatError Clock :=
  let micros := (fraction.take 6) ++ List.replicate (6 - fraction.length) '0'
  let time : Clock := ⟨number hour, number minute, number second, number micros⟩
  if 23 < time.hour then .error (outOfRange "hour must be in 0..23")
  else if 59 < time.minute then .error (outOfRange "minute must be in 0..59")
  else if 59 < time.second then .error (outOfRange "second must be in 0..59")
  else .ok time

/-- An offset that is too far from UTC, told by whole days and the seconds beyond them. -/
def farOffset (seconds : Int) : FormatError :=
  let rest := seconds % 86400
  outOfRange ("offset must be a timedelta strictly between -timedelta(hours=24) and "
    ++ "timedelta(hours=24), not datetime.timedelta(days=" ++ toString (seconds / 86400)
    ++ (if rest = 0 then "" else ", seconds=" ++ toString rest) ++ ").")

/-- The seconds of an offset, which has to be less than a day. -/
def offsetOf (text : List Char) : Except FormatError (Option Int) :=
  match text with
  | [] => .ok none
  | ['Z'] => .ok (some 0)
  | sign :: rest =>
    let size : Int := match Text.cut ':' rest with
      | [hours, minutes] => 3600 * number hours + 60 * number minutes
      | _ => 3600 * number rest
    let seconds := if sign = '-' then -size else size
    if size < 86400 then .ok (some seconds) else .error (farOffset seconds)

/-- A date, or an instant if a time is given. -/
def momentOf (text : String) : Except FormatError Scalar := do
  match Tag.timestampParts? text.toList with
  | none => throw .notCalendar
  | some parts =>
    match parts.clock with
    | none => return .moment (.date (← dateOf parts))
    | some (hour, minute, second, fraction, offset) =>
      let offset ← offsetOf offset
      let day ← dateOf parts
      return .moment (.instant day (← clockOf hour minute second fraction) offset)

/-- The value of a scalar with a tag. -/
def scalarOf (tag : Tag) (text : String) : Except FormatError Scalar :=
  match tag with
  | .null => .ok .null
  | .bool => boolOf text
  | .int => intOf text
  | .float => floatOf text
  | .timestamp => momentOf text
  | .text => .ok (.text text)
  | _ => .error .yaml

/-! ## Nodes -/

/-- A node with what was found wrong in it, each fault with its level. -/
abbrev Built := Node × List (Nat × FormatError)

def Built.faulty (level : Nat) (error : FormatError) : Built := (.null, [(level, error)])

/-- The text of a scalar in a mapping: the value of its default key. -/
def defaultText? (pairs : List (Tree × Tree)) : Option String :=
  pairs.findSome? fun (key, value) =>
    match key, value with
    | .scalar .value _, .scalar _ text => some text
    | _, _ => none

def ofScalar (level : Nat) (tag : Tag) (text : String) : Built :=
  match scalarOf tag text with
  | .ok value => (.scalar value, [])
  | .error error => .faulty level error

/-- Puts a built pair into members; a key has to be a scalar. -/
def insertPair (level : Nat) (members : Members) (key value : Built) :
    Members × List (Nat × FormatError) :=
  match key.1 with
  | .scalar scalar => (members.insert scalar value.1, key.2 ++ value.2)
  | _ => (members, key.2 ++ [(level, .yaml)] ++ value.2)

/-- Two built nodes as a list. -/
def pairNode (key value : Built) : Built := (.list [key.1, value.1], key.2 ++ value.2)

/-- A fault for a kind of collection that its tag does not fit. -/
def mistagged (level : Nat) (tag : Tag) : Built :=
  match tag with
  | .sequence | .mapping | .set | .pairs => .faulty (level + 1) .yaml
  | _ => .faulty level .yaml

/-- The value of a key that was built; the default key is an ordinary text there. -/
def asKey (key : Tree) (built : Built) : Built :=
  match key with
  | .scalar .value text => (.text text, [])
  | _ => built

mutual

/-- The value of a tree on a level, where the content of a collection is one level further. -/
def build (level : Nat) : Tree → Built
  | .scalar tag text =>
    match tag with
    | .sequence | .mapping | .set | .pairs => mistagged level tag
    | _ => ofScalar level tag text
  | .sequence tag items =>
    match tag with
    | .sequence =>
      let (nodes, faults) := buildItems (level + 1) items
      (.list nodes, faults)
    | .pairs =>
      let (nodes, faults) := buildPairItems (level + 1) items
      (.list nodes, faults)
    | _ => mistagged level tag
  | .mapping _ tag pairs =>
    match tag with
    | .mapping =>
      let (members, faults) := buildPairs (level + 1) [] pairs
      (.object members, faults)
    | .set =>
      let (members, faults) := buildPairs (level + 1) [] pairs
      (.list (members.map fun member => .scalar member.1), faults)
    | .sequence | .pairs => mistagged level tag
    | _ =>
      match defaultText? pairs with
      | some text => ofScalar level tag text
      | none => .faulty level .yaml

def buildItems (level : Nat) : List Tree → List Node × List (Nat × FormatError)
  | [] => ([], [])
  | item :: rest =>
    let (node, faults) := build level item
    let (nodes, more) := buildItems level rest
    (node :: nodes, faults ++ more)

/-- The items of a sequence of mappings with one pair each. -/
def buildPairItems (level : Nat) : List Tree → List Node × List (Nat × FormatError)
  | [] => ([], [])
  | .mapping _ _ [(key, value)] :: rest =>
    let (node, faults) := pairNode (build level key) (build level value)
    let (nodes, more) := buildPairItems level rest
    (node :: nodes, faults ++ more)
  | _ :: _ => ([], [(level, .yaml)])

def buildPairs (level : Nat) (members : Members) :
    List (Tree × Tree) → Members × List (Nat × FormatError)
  | [] => (members, [])
  | (key, value) :: rest =>
    let (members, faults) :=
      insertPair level members (asKey key (build level key)) (build level value)
    let (members, more) := buildPairs level members rest
    (members, faults ++ more)

end

/-- The first fault on the lowest level. -/
def firstFault? (faults : List (Nat × FormatError)) : Option FormatError :=
  match (faults.map (·.1)).min? with
  | none => none
  | some level => faults.lookup level

/-! ## Objects that stand at several places -/

/-- The objects met on the way through a tree, each with the place of the first meeting, and the
places at which one of them was met again. -/
structure Met where
  objects : List (Tree × Spot)
  again : Sharing

/-- The text that a key is built into, if it is one. -/
def keyText? (key : Tree) : Option String := (asKey key (build 0 key)).1.text?

mutual

/-- Goes through a tree that stands at a place, and into each object once. A pair is passed over
when a later one of the same mapping has its key. -/
def Tree.meet (spot : Spot) (met : Met) : Tree → Met
  | .mapping number .mapping pairs =>
    let object := Tree.mapping number .mapping pairs
    match met.objects.lookup object with
    | some first => { met with again := (spot, first) :: met.again }
    | none => meetPairs spot { met with objects := (object, spot) :: met.objects } pairs
  | .sequence .sequence items => meetItems spot 0 met items
  | _ => met

def Tree.meetItems (spot : Spot) (position : Nat) (met : Met) : List Tree → Met
  | [] => met
  | item :: rest =>
    meetItems spot (position + 1) (item.meet (spot.below (.index position)) met) rest

def Tree.meetPairs (spot : Spot) (met : Met) : List (Tree × Tree) → Met
  | [] => met
  | (key, value) :: rest =>
    match keyText? key with
    | some name =>
      if rest.any fun (other, _) => keyText? other == some name then meetPairs spot met rest
      else meetPairs spot (value.meet (spot.below (.key name)) met) rest
    | none => meetPairs spot met rest

end

def Tree.sharing (tree : Tree) : Sharing := (tree.meet (.root true) ⟨[], []⟩).again

def Tree.value (tree : Tree) : Except FormatError LoadedDocument :=
  let tree := tree.merge
  let (node, faults) := build 0 tree
  match firstFault? faults with
  | some error => .error error
  | none => .ok ⟨node, tree.sharing⟩

/-- The value of a YAML text; an empty one is null. -/
def read (text : String) : Except FormatError LoadedDocument := do
  if text.toList.all isAllowed then
    match ← Tree.ofTokens? (Token.ofText text.toList) with
    | some tree => tree.value
    | none => return ⟨.null, []⟩
  else throw .yaml

@[reducible] def reader : YamlReader := ⟨read⟩

end ApiBindings.Yaml
