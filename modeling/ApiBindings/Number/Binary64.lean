import ApiBindings.Text.Pieces

/-!
# Binary floating point numbers and their shortest decimal text

A number is kept as its 64 bits and read as a mantissa times a power of two. All conversions
are exact computations on natural numbers: a decimal is rounded to the nearest number, ties to
the even mantissa, and a number is written with the fewest digits that round back to it, the
nearest of those.
-/
namespace ApiBindings

/-- A 64-bit floating point number. -/
structure Binary64 where
  bits : UInt64
  deriving DecidableEq, Repr, Inhabited

/-- What the bits stand for; a finite magnitude is `mantissa * 2 ^ exponent`. -/
inductive Binary64.Reading
  | nan
  | infinite (negative : Bool)
  | finite (negative : Bool) (mantissa : Nat) (exponent : Int)
  deriving DecidableEq, Repr

namespace Binary64

/-- All mantissas are below this bound. -/
def mantissaBound : Nat := Nat.pow 2 53

/-- The least mantissa of a normal number; the code of the exponent is written above it. -/
def leastNormal : Nat := Nat.pow 2 52

/-- The code of the sign. -/
def signCode : Nat := Nat.pow 2 63

def leastExponent : Int := -1074

def reading (x : Binary64) : Reading :=
  let code := x.bits.toNat
  let negative := signCode ≤ code
  let exponent : Nat := code / leastNormal % 2048
  let fraction := code % leastNormal
  if exponent = 2047 then if fraction = 0 then .infinite negative else .nan
  else if exponent = 0 then .finite negative fraction leastExponent
  else .finite negative (leastNormal + fraction) ((exponent : Int) - 1075)

def ofCode (negative : Bool) (code : Nat) : Binary64 :=
  ⟨UInt64.ofNat (code + if negative then signCode else 0)⟩

def infinity (negative : Bool) : Binary64 := ofCode negative (2047 * leastNormal)
def nan : Binary64 := ofCode false (2047 * leastNormal + leastNormal / 2)

/-- The power of `base` as a fraction, so that negative exponents stay exact. -/
def power (base : Nat) (exponent : Int) : Nat × Nat :=
  (Nat.pow base exponent.toNat, Nat.pow base (-exponent).toNat)

/-- The quotient rounded to the nearest natural number, a half to the even one. -/
def roundedQuotient (numerator denominator : Nat) : Nat :=
  let quotient := numerator / denominator
  let twice := 2 * (numerator % denominator)
  if twice > denominator ∨ (twice = denominator ∧ quotient % 2 = 1) then quotient + 1 else quotient

/-- The number with this mantissa and exponent, or infinity when it is too large. -/
def assemble (negative : Bool) (mantissa : Nat) (exponent : Int) : Binary64 :=
  let (mantissa, exponent) :=
    if mantissa = mantissaBound then (leastNormal, exponent + 1) else (mantissa, exponent)
  if exponent > 971 then infinity negative
  else if mantissa < leastNormal then ofCode negative mantissa
  else ofCode negative ((exponent + 1075).toNat * leastNormal + (mantissa - leastNormal))

/-- The number nearest to a fraction. -/
def ofRatio (negative : Bool) (numerator denominator : Nat) : Binary64 :=
  if numerator = 0 then ofCode negative 0
  else
    let start := max ((numerator.log2 : Int) - denominator.log2 - 54) leastExponent
    let scaled (exponent : Int) : Nat × Nat :=
      let (up, down) := power 2 exponent
      (numerator * down, denominator * up)
    let exponent := ([start, start + 1, start + 2].find? fun exponent =>
      (scaled exponent).1 / (scaled exponent).2 < mantissaBound).getD (start + 3)
    assemble negative (roundedQuotient (scaled exponent).1 (scaled exponent).2) exponent

/-- The number nearest to `digits * 10 ^ exponent`. -/
def ofDecimal (negative : Bool) (digits : Nat) (exponent : Int) : Binary64 :=
  if digits = 0 then ofCode negative 0
  else
    let magnitude : Int := (Nat.toDigits 10 digits).length + exponent
    if magnitude > 400 then infinity negative
    else if magnitude < -400 then ofCode negative 0
    else
      let (up, down) := power 10 exponent
      ofRatio negative (digits * up) down

/-- Compares `a * 10 ^ p` with `b * 2 ^ q`. -/
def compareScaled (a : Nat) (p : Int) (b : Nat) (q : Int) : Ordering :=
  let (tenUp, tenDown) := power 10 p
  let (twoUp, twoDown) := power 2 q
  compare (a * tenUp * twoDown) (b * twoUp * tenDown)

/-- Whether `digits * 10 ^ place` rounds to the positive number `mantissa * 2 ^ exponent`. -/
def roundsTo (mantissa : Nat) (exponent : Int) (digits : Nat) (place : Int) : Bool :=
  let below := if mantissa = leastNormal ∧ exponent > leastExponent then 1 else 2
  let inclusive := mantissa % 2 = 0
  let low := compareScaled digits place (4 * mantissa - below) (exponent - 2)
  let high := compareScaled digits place (4 * mantissa + 2) (exponent - 2)
  (low = .gt ∨ (inclusive ∧ low = .eq)) ∧ (high = .lt ∨ (inclusive ∧ high = .eq))

/-- The number of decimal places before the point, zero or less for small fractions. -/
def decimalMagnitude (mantissa : Nat) (exponent : Int) : Int :=
  let (up, down) := power 2 exponent
  ((Nat.toDigits 10 (mantissa * up * Nat.pow 10 400 / down)).length : Int) - 400

/-- The better neighbour of the number on the grid of multiples of `10 ^ place`. -/
def onGrid? (mantissa : Nat) (exponent place : Int) : Option Nat :=
  let (twoUp, twoDown) := power 2 exponent
  let (tenUp, tenDown) := power 10 place
  let numerator := mantissa * twoUp * tenDown
  let denominator := twoDown * tenUp
  let floor := numerator / denominator
  let nearest := roundedQuotient numerator denominator
  let other := if nearest = floor then floor + 1 else floor
  if roundsTo mantissa exponent nearest place then some nearest
  else if roundsTo mantissa exponent other place then some other
  else none

/-- The fewest digits that round back, with the place of the last one. Seventeen always do. -/
def shortestDigits (mantissa : Nat) (exponent : Int) : Nat × Int :=
  let magnitude := decimalMagnitude mantissa exponent
  ((List.range 17).findSome? fun (count : Nat) =>
    let place := magnitude - (count : Nat) - 1
    (onGrid? mantissa exponent place).map fun digits => (digits, place)).getD (mantissa, 0)

/-- Digits without the zeros at their end. -/
def dropTrailingZeros (digits : List Char) : List Char :=
  (digits.reverse.dropWhile (· == '0')).reverse

/-- How numbers are written: positionally for decimal exponents from `least` up to below
`bound`, always with a point, and otherwise with an exponent of at least two digits. -/
structure Format where
  least : Int
  bound : Int
  infinity : List Char
  nan : List Char

def writeExponent (exponent : Int) : List Char :=
  let digits := Nat.toDigits 10 exponent.natAbs
  let sign := if exponent < 0 then '-' else '+'
  'e' :: sign :: (if digits.length < 2 then '0' :: digits else digits)

def writeDigits (format : Format) (digits : List Char) (exponent : Int) : List Char :=
  if format.least ≤ exponent ∧ exponent < format.bound then
    if exponent < 0 then
      '0' :: '.' :: List.replicate (-exponent - 1).toNat '0' ++ digits
    else
      let whole := digits.take (exponent.toNat + 1)
      let rest := digits.drop (exponent.toNat + 1)
      whole ++ List.replicate (exponent.toNat + 1 - whole.length) '0' ++ '.'
        :: (if rest.isEmpty then ['0'] else rest)
  else
    digits.take 1 ++ (if digits.length > 1 then '.' :: digits.drop 1 else [])
      ++ writeExponent exponent

def write (format : Format) (x : Binary64) : List Char :=
  match x.reading with
  | .nan => format.nan
  | .infinite negative => (if negative then ['-'] else []) ++ format.infinity
  | .finite negative mantissa exponent =>
    let sign := if negative then ['-'] else []
    if mantissa = 0 then sign ++ ['0', '.', '0']
    else
      let (digits, place) := shortestDigits mantissa exponent
      let all := Nat.toDigits 10 digits
      sign ++ writeDigits format (dropTrailingZeros all) (place + all.length - 1)

/-- Displayed numbers: positional from `1e-4` to below `1e16`. -/
def displayFormat : Format := ⟨-4, 16, "inf".toList, "nan".toList⟩

/-- Numbers in data: as displayed, with the words for the values that are no numbers. -/
def dataFormat : Format := ⟨-4, 16, "Infinity".toList, "NaN".toList⟩

def display (x : Binary64) : String := String.ofList (x.write displayFormat)

/-- The value as a signed fraction, when it is finite. -/
def ratio? (x : Binary64) : Option (Int × Nat) :=
  match x.reading with
  | .finite negative mantissa exponent =>
    let (up, down) := power 2 exponent
    some ((if negative then -1 else 1) * (mantissa * up : Nat), down)
  | _ => none

/-- The value as an integer, when it is one. -/
def toInt? (x : Binary64) : Option Int :=
  match x.ratio? with
  | some (numerator, denominator) =>
    if numerator % denominator = 0 then some (numerator / denominator) else none
  | none => none

def isZero (x : Binary64) : Bool := x.toInt? == some 0

/-- Numeric equality: the zeros are equal, and nothing equals a value that is no number. -/
def numericEq (x y : Binary64) : Bool :=
  match x.reading, y.reading with
  | .nan, _ | _, .nan => false
  | _, _ => x = y || (x.isZero && y.isZero)

/-- Numeric order of the values that have one; infinities stand at the ends. -/
def numericLt (x y : Binary64) : Bool :=
  match x.reading, y.reading with
  | .nan, _ | _, .nan => false
  | .infinite negative, .infinite other => negative && !other
  | .infinite negative, _ => negative
  | _, .infinite negative => !negative
  | _, _ =>
    match x.ratio?, y.ratio? with
    | some (a, b), some (c, d) => a * d < c * b
    | _, _ => false

def ofInt (value : Int) : Binary64 := ofRatio (value < 0) value.natAbs 1

/-- The number with the other sign. -/
def negate (x : Binary64) : Binary64 := ⟨x.bits ^^^ 0x8000000000000000⟩

/-- The number nearest to a signed fraction. -/
def ofSignedRatio (numerator : Int) (denominator : Nat) : Binary64 :=
  ofRatio (numerator < 0) numerator.natAbs denominator

/-- The rounded sum of numbers that are not negative. -/
def add (x y : Binary64) : Binary64 :=
  match x.ratio?, y.ratio? with
  | some (a, b), some (c, d) => ofSignedRatio (a * d + c * b) (b * d)
  | some _, none => y
  | none, _ => x

/-- The rounded product of numbers that are not negative. -/
def mul (x y : Binary64) : Binary64 :=
  match x.ratio?, y.ratio? with
  | some (a, b), some (c, d) => ofSignedRatio (a * c) (b * d)
  | some _, none => y
  | none, _ => x

end Binary64

end ApiBindings
