/-!
# Code points

A text is a sequence of code points. Half of a surrogate pair is one of them, though no character:
data that is written with escapes may hold it alone. The halves stand as the last characters of the
last plane for private use, which a text therefore cannot hold for themselves. Texts are ordered by
their code points, and a text comes before those that continue it; sorting by a text keeps items of
one text as they stand.
-/
namespace ApiBindings.Text

/-- Whether a code point is half of a surrogate pair. -/
def isSurrogate (code : Nat) : Bool := 0xd800 ≤ code && code < 0xe000

/-- How far behind its code half of a surrogate pair stands. -/
def surrogateOffset : Nat := 0x102000

def ofCodePoint (code : Nat) : Char :=
  Char.ofNat (if isSurrogate code then code + surrogateOffset else code)

def codePoint (c : Char) : Nat :=
  if 0xd800 + surrogateOffset ≤ c.toNat then c.toNat - surrogateOffset else c.toNat

def isHalf (c : Char) : Bool := isSurrogate (codePoint c)

/-- Whether a text comes before another one and is not the same. -/
def precedes : List Char → List Char → Bool
  | _, [] => false
  | [], _ :: _ => true
  | c :: one, d :: other => codePoint c < codePoint d || (c = d && precedes one other)

/-- Items in the order of a text they have. -/
def sortBy {α : Type} (key : α → String) (items : List α) : List α :=
  items.mergeSort fun one other => !precedes (key other).toList (key one).toList

end ApiBindings.Text
