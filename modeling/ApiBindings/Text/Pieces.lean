/-!
# Cutting and rewriting text

Text is worked on as a list of characters. Cutting at a separator always gives at least one
piece, and joining the pieces with the separator gives the text back. Occurrences are replaced
from left to right and do not overlap; the scan carries the number of characters still covered
by the last occurrence, so every function here recurses on the text itself.
-/
namespace ApiBindings.Text

/-- The pieces between separators: one more than there are separators. -/
def cut (separator : Char) : List Char → List (List Char)
  | [] => [[]]
  | c :: rest =>
    if c = separator then [] :: cut separator rest
    else match cut separator rest with
      | [] => [[c]]
      | piece :: pieces => (c :: piece) :: pieces

/-- Pieces with a separator between each two. -/
def join (separator : List Char) (pieces : List (List Char)) : List Char :=
  List.intercalate separator pieces

theorem cut_ne_nil (separator : Char) (text : List Char) : cut separator text ≠ [] := by
  induction text with
  | nil => simp [cut]
  | cons c rest ih =>
    simp only [cut]
    split
    · simp
    · split <;> simp

/-- The items of a table, separated by blanks and line ends. -/
def items (table : String) : List (List Char) :=
  ((cut '\n' table.toList).flatMap (cut ' ')).filter (· ≠ [])

/-- The piece after the last separator. -/
def lastPiece (separator : Char) (text : List Char) : List Char :=
  (cut separator text).getLast (cut_ne_nil separator text)

/-- The piece before the first separator. -/
def firstPiece (separator : Char) (text : List Char) : List Char :=
  text.takeWhile (· != separator)

/-- Replaces occurrences of `old` while `covered` characters still belong to the last one. -/
def replaceFrom (old new : List Char) : Nat → List Char → List Char
  | _, [] => []
  | covered + 1, _ :: rest => replaceFrom old new covered rest
  | 0, c :: rest =>
    if old.isPrefixOf (c :: rest) then new ++ replaceFrom old new (old.length - 1) rest
    else c :: replaceFrom old new 0 rest

/-- Replaces every occurrence of a non-empty text. -/
def replaceAll (old new text : List Char) : List Char :=
  replaceFrom old new 0 text

/-- Replaces the first occurrence of a non-empty text, if there is one. -/
def replaceFirst (old new : List Char) : List Char → List Char
  | [] => []
  | c :: rest =>
    if old.isPrefixOf (c :: rest) then new ++ (c :: rest).drop old.length
    else c :: replaceFirst old new rest

/-- Whether `part` occurs in the text. -/
def occursIn (part : List Char) : List Char → Bool
  | [] => part.isEmpty
  | c :: rest => part.isPrefixOf (c :: rest) || occursIn part rest

/-- The number of characters before the last occurrence of `part`. -/
def lastIndexOf? (part : List Char) : List Char → Option Nat
  | [] => if part.isEmpty then some 0 else none
  | c :: rest =>
    match lastIndexOf? part rest with
    | some index => some (index + 1)
    | none => if part.isPrefixOf (c :: rest) then some 0 else none

/-- Drops characters of a class at both ends. -/
def trim (inClass : Char → Bool) (text : List Char) : List Char :=
  ((text.dropWhile inClass).reverse.dropWhile inClass).reverse

theorem replaceFrom_length_le (old : List Char) (covered : Nat) (text : List Char) :
    (replaceFrom old [] covered text).length ≤ text.length := by
  induction text generalizing covered with
  | nil => simp [replaceFrom]
  | cons c rest ih =>
    match covered with
    | covered + 1 =>
      simp only [replaceFrom, List.length_cons]
      exact Nat.le_succ_of_le (ih covered)
    | 0 =>
      simp only [replaceFrom]
      split
      · simp only [List.nil_append, List.length_cons]
        exact Nat.le_succ_of_le (ih _)
      · simp only [List.length_cons]
        exact Nat.succ_le_succ (ih 0)

/-- Removing a text that occurs makes the text shorter. -/
theorem replaceAll_nil_length_lt (old text : List Char) (nonempty : old ≠ [])
    (occurs : occursIn old text = true) : (replaceAll old [] text).length < text.length := by
  induction text with
  | nil =>
    simp only [occursIn, List.isEmpty_iff] at occurs
    exact absurd occurs nonempty
  | cons c rest ih =>
    simp only [replaceAll, replaceFrom]
    split
    · simp only [List.nil_append, List.length_cons]
      exact Nat.lt_succ_of_le (replaceFrom_length_le old _ rest)
    · rename_i notHere
      simp only [occursIn, notHere, Bool.false_or] at occurs
      simp only [List.length_cons]
      exact Nat.succ_lt_succ (ih occurs)

/-- Removes a non-empty text again and again until it no longer occurs: one removal can join
the characters around it into another occurrence. -/
def eraseAll (part text : List Char) : List Char :=
  if _occurs : part ≠ [] ∧ occursIn part text = true then
    eraseAll part (replaceAll part [] text)
  else text
termination_by text.length
decreasing_by exact replaceAll_nil_length_lt part text _occurs.1 _occurs.2

/-- Drops each run of separators before an ASCII letter or digit and raises that character. -/
def camelFrom (isSeparator : Char → Bool) : List Char → List Char → List Char
  | pending, [] => pending
  | pending, c :: rest =>
    if isSeparator c then camelFrom isSeparator (pending ++ [c]) rest
    else if pending ≠ [] ∧ c.isAlphanum then c.toUpper :: camelFrom isSeparator [] rest
    else pending ++ c :: camelFrom isSeparator [] rest

/-- Camel case: a run of separators before an ASCII letter or digit disappears and the
character is raised; other separators stay. -/
def camel (isSeparator : Char → Bool) (text : List Char) : List Char :=
  camelFrom isSeparator [] text

end ApiBindings.Text
