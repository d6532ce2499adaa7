import ApiBindings.Text.Class

/-!
# Romanization

Names are written in Latin letters, and ideographs in them have to be read. How they are read is
not settled here: a romanization is given wherever names are made, and a result that needs more of
it than that it is a function says so. One way to give it is a table of words, of which the first
that fits is read at each place.
-/
namespace ApiBindings.Text

/-- A way to read a text with ideographs in Latin letters. -/
class Romanization where
  read : List Char → List Char

/-- Reads a text from left to right by a table of words, while `covered` characters belong to the
last word. An ideograph outside the table is read as an underscore. -/
def readFrom (words : List (List Char × List Char)) : Nat → List Char → List Char
  | _, [] => []
  | covered + 1, _ :: rest => readFrom words covered rest
  | 0, c :: rest =>
    match words.find? (fun word => word.1.isPrefixOf (c :: rest)) with
    | some (chinese, latin) => latin ++ readFrom words (chinese.length - 1) rest
    | none => (if isIdeograph c then '_' else c) :: readFrom words 0 rest

/-- A table is written as its words, separated by blanks, each with its reading behind an equals
sign. -/
def wordsOf (table : String) : List (List Char × List Char) :=
  (items table).map fun item =>
    match cut '=' item with
    | [chinese, latin] => (chinese, latin)
    | _ => ([], [])

namespace Romanization

/-- The romanization by a table of words. -/
@[reducible] def ofTable (table : String) : Romanization := ⟨readFrom (wordsOf table) 0⟩

end Romanization

end ApiBindings.Text
