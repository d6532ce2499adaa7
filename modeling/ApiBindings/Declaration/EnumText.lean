import ApiBindings.Schema.Describe

/-!
# Texts of enum declarations

In the literal style an enum is a union of its values. A text such as `Active(enabled)=1` also
stands for `Active`, `active` and `1`: what is before a parenthesis, the same with a small first
letter, and what is behind an equals sign. Each literal is listed once.
-/
namespace ApiBindings.EnumText

variable [Text.Romanization]

/-- The part of a text before its first parenthesis, if it is one line and not empty. -/
def label? (value : List Char) : Option (List Char) :=
  let label := value.takeWhile fun c => c != '(' && c != '\n'
  match value.drop label.length with
  | '(' :: _ => if label.isEmpty then none else some label
  | _ => none

/-- The part of a text between its first two equals signs. -/
def tail? (value : List Char) : Option (List Char) :=
  match Text.cut '=' value with
  | _ :: tail :: _ => some tail
  | _ => none

def spanDigits (text : List Char) : List Char × List Char := text.span Text.isDecimal

/-- The digits of a number before and behind its point. -/
def mantissa? (text : List Char) : Option (List Char × List Char × List Char) :=
  match spanDigits text with
  | ([], '.' :: rest) =>
    match spanDigits rest with
    | ([], _) => none
    | (places, after) => some ([], places, after)
  | ([], _) => none
  | (whole, '.' :: rest) =>
    let (places, after) := spanDigits rest
    some (whole, places, after)
  | (whole, rest) => some (whole, [], rest)

def digitsValue (digits : List Char) : Nat :=
  digits.foldl (fun value c => 10 * value + (Text.decimalValue? c).getD 0) 0

/-- The power of ten written behind a mantissa, where nothing else may stand. -/
def exponent? (text : List Char) : Option Int :=
  match text with
  | [] => some 0
  | e :: rest =>
    if e = 'e' ∨ e = 'E' then
      let (negative, digits) : Bool × List Char := match rest with
        | '-' :: digits => (true, digits)
        | '+' :: digits => (false, digits)
        | digits => (false, digits)
      if digits.isEmpty || !digits.all Text.isDecimal then none
      else
        let size : Int := digitsValue digits
        some (if negative then -size else size)
    else none

/-- The number a tail is written as, if it is one. -/
def number? (tail : List Char) : Option (Except Misfit Node) := do
  let text := Text.trimBlanks tail
  let (negative, text) : Bool × List Char := match text with
    | '-' :: rest => (true, rest)
    | text => (false, text)
  let (whole, places, rest) ← mantissa? text
  let exponent ← exponent? rest
  if tail.any fun c => c = '.' ∨ c = 'e' ∨ c = 'E' then
    return .ok (.float (Binary64.ofDecimal negative (digitsValue (whole ++ places))
      (exponent - places.length)))
  else if whole.length > digitLimit then return .error (.tooManyDigits whole.length)
  else
    let size : Int := digitsValue whole
    return .ok (.int (if negative then -size else size))

/-- The texts among the values. -/
def texts (values : List Node) : List String := values.filterMap Node.text?

/-- A value as a literal. -/
def valueLiteral (namespaceName : String) : Node → Attempt String
  | .text value => pure (Schema.quotedLiteral value)
  | other => Schema.typeText namespaceName other

/-- The literals of the label of a text. -/
def labelLiterals (value : String) : List String :=
  match label? value.toList with
  | some label =>
    [Schema.quotedLiteral (String.ofList label),
      Schema.quotedLiteral (String.ofList (Text.lowerFirst label))]
  | none => []

/-- The literal of the tail of a text: a number as it is written in data, or the tail itself. -/
def tailLiterals (value : String) : Except Misfit (List String) :=
  match tail? value.toList with
  | none => .ok []
  | some tail =>
    match number? tail with
    | some number => return [← Schema.literal (← number)]
    | none => .ok (if tail.isEmpty then [] else [String.ofList tail])

/-- Keeps the first of equal texts. -/
def distinct : List String → List String
  | [] => []
  | text :: rest => text :: (distinct rest).filter fun other => decide (other ≠ text)

/-- The union of the values and of what their texts also stand for. -/
def literalUnion (namespaceName : String) (values : List Node) : Attempt String := do
  let literals ← values.mapM (valueLiteral namespaceName)
  let labels := (texts values).flatMap labelLiterals
  let tails ← (texts values).mapM fun value => (tailLiterals value : Attempt (List String))
  return " | ".intercalate (distinct (literals ++ labels ++ tails.flatten))

/-- The body of an enum, each value standing for itself. -/
def enumBody (values : List Node) : String :=
  let member (value : Node) : String := value.display ++ "=\"" ++ value.display ++ "\""
  "\x7b" ++ ",".intercalate (values.map member) ++ "\x7d"

end ApiBindings.EnumText
