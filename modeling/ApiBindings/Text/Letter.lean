import ApiBindings.Text.Class
import ApiBindings.Text.Table.Case
import ApiBindings.Text.Table.Accent

/-!
# Letter case and accents

Upper and lower case follow the full Unicode mappings, so one letter may become several. The
only mapping that looks at its neighbours is the lower case of a capital sigma, which has a
form of its own at the end of a word. Removing accents decomposes each character and keeps
what is no combining mark; marks may come out of a decomposition in any order, since none of
them is kept.
-/
namespace ApiBindings.Text

namespace Table

/-- A run of letters `first, first + step, …, last` and the image of its first letter. -/
structure Run where
  first : Nat
  last : Nat
  step : Nat
  image : Nat

def Run.read (item : List Char) : Run :=
  match cut '>' item with
  | [source, image] =>
    match cut '/' source with
    | [bounds, step] =>
      match cut '-' bounds with
      | [first, last] => ⟨hexValue first, hexValue last, hexValue step, hexValue image⟩
      | _ => ⟨1, 0, 1, 0⟩
    | _ => ⟨1, 0, 1, 0⟩
  | _ => ⟨1, 0, 1, 0⟩

def Run.image? (run : Run) (c : Char) : Option Char :=
  if run.first ≤ c.toNat ∧ c.toNat ≤ run.last ∧ (c.toNat - run.first) % run.step = 0 then
    some (Char.ofNat (run.image + (c.toNat - run.first)))
  else none

/-- Characters joined by `+`. -/
def characters (text : List Char) : List Char :=
  (cut '+' text).map fun digits => Char.ofNat (hexValue digits)

/-- An item `letter>image+image`. -/
def longImage (item : List Char) : Nat × List Char :=
  match cut '>' item with
  | [letter, image] => (hexValue letter, characters image)
  | _ => (0, [])

/-- An item `image<letter/letter` gives one pair for each letter. -/
def plainImages (item : List Char) : List (Nat × List Char) :=
  match cut '<' item with
  | [image, letters] => (cut '/' letters).map fun letter => (hexValue letter, characters image)
  | _ => []

def upperRunList : List Run := (items upperRuns).map Run.read
def upperLongList : List (Nat × List Char) := (items upperLong).map longImage
def lowerRunList : List Run := (items lowerRuns).map Run.read
def lowerLongList : List (Nat × List Char) := (items lowerLong).map longImage
def casedRanges : List (Nat × Nat) := ranges cased
def caseIgnorableRanges : List (Nat × Nat) := ranges caseIgnorable
def markRanges : List (Nat × Nat) := ranges mark
def plainList : List (Nat × List Char) := (items plain).flatMap plainImages

def mapped (runs : List Run) (long : List (Nat × List Char)) (c : Char) : List Char :=
  match long.lookup c.toNat with
  | some image => image
  | none => ((runs.findSome? (Run.image? · c)).map fun image => [image]).getD [c]

end Table

def upperOf (c : Char) : List Char :=
  if isAscii c then [c.toUpper] else Table.mapped Table.upperRunList Table.upperLongList c

def lowerOf (c : Char) : List Char :=
  if isAscii c then [c.toLower] else Table.mapped Table.lowerRunList Table.lowerLongList c

def isCaseIgnorable (c : Char) : Bool :=
  if isAscii c then c == '\'' || c == '.' || c == ':' || c == '^' || c.toNat == 96
  else Table.covers Table.caseIgnorableRanges c

def isCased (c : Char) : Bool :=
  if isAscii c then c.isAlpha else Table.covers Table.casedRanges c

/-- The first character that is not passed over has case. -/
def meetsCased : List Char → Bool
  | [] => false
  | c :: rest => if isCaseIgnorable c then meetsCased rest else isCased c

/-- Lower case of a text whose characters before it are `before`, nearest first. -/
def lowerAfter : List Char → List Char → List Char
  | _, [] => []
  | before, c :: rest =>
    (if c == 'Σ' then [if meetsCased before && !meetsCased rest then 'ς' else 'σ'] else lowerOf c)
      ++ lowerAfter (c :: before) rest

def upper (text : List Char) : List Char := text.flatMap upperOf

def lower (text : List Char) : List Char := lowerAfter [] text

def upperFirst : List Char → List Char
  | [] => []
  | c :: rest => upper [c] ++ rest

def lowerFirst : List Char → List Char
  | [] => []
  | c :: rest => lower [c] ++ rest

/-- The three letters that make up a Hangul syllable, the last of which may be absent. -/
def hangulLetters (c : Char) : List Char :=
  let index := c.toNat - 0xac00
  let final := index % 28
  [Char.ofNat (0x1100 + index / 588), Char.ofNat (0x1161 + index % 588 / 28)]
    ++ if final = 0 then [] else [Char.ofNat (0x11a7 + final)]

/-- A character without its accents: what is left of its compatibility decomposition. -/
def withoutAccent (c : Char) : List Char :=
  if isAscii c then [c]
  else if 0xac00 ≤ c.toNat ∧ c.toNat ≤ 0xd7a3 then hangulLetters c
  else if Table.covers Table.markRanges c then []
  else (Table.plainList.lookup c.toNat).getD [c]

def removeAccents (text : List Char) : List Char := text.flatMap withoutAccent

end ApiBindings.Text
