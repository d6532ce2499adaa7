import ApiBindings.Text.Class
import ApiBindings.Text.Table.Width

/-!
# Columns

The number of columns a text takes where every character has the same width, and texts cut or
filled to a number of columns.
-/
namespace ApiBindings.Text

namespace Table

def hiddenRanges : List (Nat × Nat) := ranges hidden
def wideRanges : List (Nat × Nat) := ranges wide

end Table

/-- Columns of one character: control characters take none. -/
def columns (c : Char) : Nat :=
  if c.toNat < 32 ∨ (127 ≤ c.toNat ∧ c.toNat < 160) then 0
  else if c.toNat < 0x300 then 1
  else if Table.covers Table.hiddenRanges c then 0
  else if Table.covers Table.wideRanges c then 2
  else 1

def width (text : List Char) : Nat := text.foldl (fun total c => total + columns c) 0

/-- The start of a text that takes at most so many columns. -/
def takeWidth : Nat → List Char → List Char
  | _, [] => []
  | limit, c :: rest =>
    if columns c ≤ limit then c :: takeWidth (limit - columns c) rest else []

/-- Fills a text with blanks up to a width. -/
def fill (limit : Nat) (text : List Char) : List Char :=
  text ++ List.replicate (limit - width text) ' '

/-- A text in exactly so many columns. A wide character that does not fit gives way to a blank. -/
def exactly (limit : Nat) (text : List Char) : List Char := fill limit (takeWidth limit text)

/-- A text of at most so many columns; one that is cut ends in dots. -/
def shortened (limit : Nat) (text : List Char) : List Char :=
  if width text ≤ limit then text else exactly (limit - 1) text ++ ['…']

/-- A text in the middle of a line. -/
def centred (limit : Nat) (text : List Char) : List Char :=
  fill limit (List.replicate ((limit - width text) / 2) ' ' ++ text)

end ApiBindings.Text
