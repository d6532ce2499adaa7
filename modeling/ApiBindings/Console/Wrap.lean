import ApiBindings.Text.Width

/-!
# Lines of limited width

Tabs give way to blanks, and a line that is too long is broken between words. A word that is
longer than a whole line starts on a line of its own; it is either folded over several lines or
left for the caller to cut.
-/
namespace ApiBindings.Console

/-- The words of a line with the blanks around them: blanks belong to the word before, and those
at the start to the first one. -/
def wordsFrom : Nat → List Char → List (List Char)
  | 0, _ => []
  | fuel + 1, text =>
    let lead := text.takeWhile Text.isBlank
    let rest := text.drop lead.length
    let body := rest.takeWhile fun c => !Text.isBlank c
    let rest := rest.drop body.length
    let trail := rest.takeWhile Text.isBlank
    if body = [] then [] else (lead ++ body ++ trail) :: wordsFrom fuel (rest.drop trail.length)

def words (line : List Char) : List (List Char) := wordsFrom (line.length + 1) line

/-- Folds a word into pieces of limited width. -/
def fold (limit : Nat) : Nat → List Char → List Char → List (List Char)
  | _, piece, [] => [piece]
  | taken, piece, c :: rest =>
    if taken + Text.columns c > limit then piece :: fold limit (Text.columns c) [c] rest
    else fold limit (taken + Text.columns c) (piece ++ [c]) rest

/-- The lines that are full, the one that is being filled, and the columns it takes. -/
structure Filling where
  full : List (List Char)
  current : List Char
  taken : Nat

namespace Filling

def empty : Filling := ⟨[], [], 0⟩

/-- Starts a new line, unless nothing was put anywhere yet. -/
def turn (filling : Filling) : Filling :=
  if filling.full = [] ∧ filling.current = [] then filling
  else ⟨filling.full ++ [filling.current], [], 0⟩

def put (filling : Filling) (word : List Char) : Filling :=
  { filling with current := filling.current ++ word, taken := filling.taken + Text.width word }

/-- Adds a word, on a new line if it has to be. -/
def add (limit : Nat) (folds : Bool) (filling : Filling) (word : List Char) : Filling :=
  let needed := Text.width (word.reverse.dropWhile Text.isBlank).reverse
  if filling.taken + needed ≤ limit then filling.put word
  else if needed > limit then
    if folds then (fold limit 0 [] word).foldl (fun filling piece => filling.turn.put piece) filling
    else filling.turn.put word
  else filling.turn.put word

def lines (filling : Filling) : List (List Char) := filling.full ++ [filling.current]

end Filling

/-- Drops blanks at the end as far as the line is too long. -/
def dropExcess (limit : Nat) (line : List Char) : List Char :=
  let blanks := (line.reverse.takeWhile Text.isBlank).length
  line.take (line.length - min blanks (line.length - limit))

/-- Columns from one tab stop to the next. -/
def tabSize : Nat := 8

/-- Replaces tabs by the blanks up to the next stop; `taken` columns stand before the text. -/
def expandTabs (taken : Nat) : List Char → List Char
  | [] => []
  | c :: rest =>
    if c = '\t' then
      let blanks := tabSize - taken % tabSize
      List.replicate blanks ' ' ++ expandTabs (taken + blanks) rest
    else c :: expandTabs (taken + Text.columns c) rest

/-- Breaks one line. -/
def breakLine (limit : Nat) (folds : Bool) (line : List Char) : List (List Char) :=
  let line := expandTabs 0 line
  let lines := match words line with
    | [] => [line]
    | found => (found.foldl (Filling.add limit folds) .empty).lines
  lines.map (dropExcess limit)

/-- The lines of a text, each within a width. -/
def wrap (limit : Nat) (folds : Bool) (text : List Char) : List (List Char) :=
  (Text.cut '\n' text).flatMap (breakLine limit folds)

end ApiBindings.Console
