import ApiBindings.Text.Class

/-!
# Text as ASCII letters and digits

Punycode: the ASCII characters of a text come first, and behind a hyphen follows where the
other characters go. Each of them is given by its distance from the last one, counted over all
places of the text, in a number with digits of changing weight.
-/
namespace ApiBindings.Text.Punycode

def base : Nat := 36
def leastThreshold : Nat := 1
def mostThreshold : Nat := 26
def initialBias : Nat := 72
def firstCode : Nat := 128

/-- The digits are the letters and then the ten decimal digits. -/
def digit (value : Nat) : Char :=
  if value < 26 then Char.ofNat ('a'.toNat + value) else Char.ofNat ('0'.toNat + (value - 26))

def threshold (bias place : Nat) : Nat := min mostThreshold (max leastThreshold (place - bias))

/-- The digits of a number from the one at `place` on. Every digit makes the number smaller. -/
def digitsFrom (bias : Nat) : Nat → Nat → Nat → List Char
  | 0, _, _ => []
  | fuel + 1, place, value =>
    let least := threshold bias place
    if value < least then [digit value]
    else
      digit (least + (value - least) % (base - least))
        :: digitsFrom bias fuel (place + base) ((value - least) / (base - least))

def digits (bias value : Nat) : List Char := digitsFrom bias (value + 1) base value

/-- Halves a distance until it is small, and counts the steps in places. -/
def settle : Nat → Nat → Nat → Nat × Nat
  | 0, places, distance => (places, distance)
  | fuel + 1, places, distance =>
    if distance > (base - leastThreshold) * mostThreshold / 2 then
      settle fuel (places + base) (distance / (base - leastThreshold))
    else (places, distance)

/-- The bias after a distance; `count` is the number of characters that are placed. -/
def adapted (distance count : Nat) (first : Bool) : Nat :=
  let distance := if first then distance / 700 else distance / 2
  let (places, distance) := settle distance 0 (distance + distance / count)
  places + (base - leastThreshold + 1) * distance / (distance + 38)

structure Progress where
  output : List Char
  bias : Nat
  distance : Nat
  placed : Nat

/-- Passes one character while those with a code are placed; `basic` is the number of ASCII
characters. -/
def pass (basic code : Nat) (progress : Progress) (c : Char) : Progress :=
  if c.toNat < code then { progress with distance := progress.distance + 1 }
  else if c.toNat = code then
    ⟨progress.output ++ digits progress.bias progress.distance,
      adapted progress.distance (progress.placed + 1) (progress.placed == basic), 0,
      progress.placed + 1⟩
  else progress

/-- Places the characters of one code after the other, the smallest first. -/
def place (text : List Char) (basic : Nat) : Nat → List Nat → Progress → Progress
  | _, [], progress => progress
  | last, code :: codes, progress =>
    let start := { progress with
      distance := progress.distance + (code - last) * (progress.placed + 1) }
    let after := text.foldl (pass basic code) start
    place text basic (code + 1) codes { after with distance := after.distance + 1 }

/-- The codes of the characters that are not ASCII, each once, in order. -/
def codes (text : List Char) : List Nat :=
  ((text.filter (!isAscii ·)).map Char.toNat).eraseDups.mergeSort

def encode (text : List Char) : List Char :=
  let basic := text.filter isAscii
  let start : Progress := ⟨[], initialBias, 0, basic.length⟩
  basic ++ (if basic.isEmpty then [] else ['-'])
    ++ (place text basic.length firstCode (codes text) start).output

end ApiBindings.Text.Punycode
