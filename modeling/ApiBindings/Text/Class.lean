import ApiBindings.Text.Pieces
import ApiBindings.Text.Table.Class

/-!
# Character classes

Blanks, word characters, digits and printable characters of Unicode 14. Each class decides
ASCII by a rule of its own and looks other characters up in a table of ranges.
-/
namespace ApiBindings.Text

namespace Table

def hexDigit (c : Char) : Nat :=
  if c.isDigit then c.toNat - '0'.toNat else c.toNat - 'a'.toNat + 10

def hexValue (digits : List Char) : Nat :=
  digits.foldl (fun value c => 16 * value + hexDigit c) 0

/-- A range is written `first-last`, a single code point alone. -/
def ranges (table : String) : List (Nat × Nat) :=
  (items table).map fun item =>
    match cut '-' item with
    | [first, last] => (hexValue first, hexValue last)
    | _ => (hexValue item, hexValue item)

def covers (table : List (Nat × Nat)) (c : Char) : Bool :=
  table.any fun range => range.1 ≤ c.toNat && c.toNat ≤ range.2

def wordRanges : List (Nat × Nat) := ranges word
def blankRanges : List (Nat × Nat) := ranges blank
def unprintableRanges : List (Nat × Nat) := ranges unprintable
def otherDigitRanges : List (Nat × Nat) := ranges otherDigit
def decimalZeros : List Nat := (items decimalZero).map hexValue

end Table

def isAscii (c : Char) : Bool := c.toNat < 128

/-- White space: the ASCII blanks, the four separators below the blank, and the Unicode spaces. -/
def isBlank (c : Char) : Bool :=
  if isAscii c then c.toNat == 32 || (9 ≤ c.toNat && c.toNat ≤ 13) || (28 ≤ c.toNat && c.toNat ≤ 31)
  else Table.covers Table.blankRanges c

/-- An ASCII letter, digit or underscore. -/
def isAsciiWord (c : Char) : Bool := c.isAlphanum || c == '_'

/-- A letter, a number of any kind or an underscore. -/
def isWord (c : Char) : Bool :=
  if isAscii c then isAsciiWord c else Table.covers Table.wordRanges c

/-- The value of a decimal digit of any script. -/
def decimalValue? (c : Char) : Option Nat :=
  if isAscii c then if c.isDigit then some (c.toNat - '0'.toNat) else none
  else (Table.decimalZeros.find? fun start => start ≤ c.toNat && c.toNat < start + 10).map
    fun start => c.toNat - start

def isDecimal (c : Char) : Bool := (decimalValue? c).isSome

/-- A decimal digit or a digit without a decimal place, such as a superscript. -/
def isDigit (c : Char) : Bool :=
  isDecimal c || (!isAscii c && Table.covers Table.otherDigitRanges c)

/-- Whether a character is shown as itself in quoted text. -/
def isPrintable (c : Char) : Bool :=
  if isAscii c then 32 ≤ c.toNat && c.toNat < 127 else !Table.covers Table.unprintableRanges c

/-- A unified ideograph of the basic block, up to U+9FA5. -/
def isIdeograph (c : Char) : Bool := 0x4e00 ≤ c.toNat && c.toNat ≤ 0x9fa5

def trimBlanks (text : List Char) : List Char := trim isBlank text

end ApiBindings.Text
