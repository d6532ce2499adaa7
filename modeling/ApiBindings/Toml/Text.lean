import ApiBindings.Json.Reader

/-!
# Keys and strings of a TOML text

Everything here reads from the start of a text and gives what remains of it. Lines end at line
feeds; no other control character but the tab may stand anywhere.
-/
namespace ApiBindings

/-- Why a text is no TOML. -/
inductive TomlError
  | malformed
  /-- An integer has more digits than are read. -/
  | tooManyDigits (count : Nat)
  deriving DecidableEq, Repr

namespace Toml

def malformed {α : Type} : Except TomlError α := .error .malformed

def orMalformed {α : Type} : Option α → Except TomlError α
  | some value => .ok value
  | none => malformed

def isBlank (c : Char) : Bool := c == ' ' || c == '\t'

def isSpace (c : Char) : Bool := isBlank c || c == '\n'

def skipBlanks (text : List Char) : List Char := text.dropWhile isBlank

/-- Characters that must not stand inside a line. -/
def isControl (c : Char) : Bool := (c.toNat < 32 && c != '\t') || c.toNat == 127

/-- What follows a comment, if there is one. -/
def skipComment : List Char → Except TomlError (List Char)
  | '#' :: rest =>
    if (rest.takeWhile (· != '\n')).any isControl then malformed
    else .ok (rest.dropWhile (· != '\n'))
  | text => .ok text

/-- Skips blanks, line ends and comments. Every comment takes a character. -/
def skipSpaces : Nat → List Char → Except TomlError (List Char)
  | 0, text => .ok text
  | fuel + 1, text =>
    match text.dropWhile isSpace with
    | '#' :: rest => do skipSpaces fuel (← skipComment ('#' :: rest))
    | other => .ok other

/-! ## Strings -/

/-- Cuts a text at the first occurrence of a mark. -/
def cutAt? (mark : List Char) : List Char → Option (List Char × List Char)
  | [] => none
  | c :: rest =>
    if mark.isPrefixOf (c :: rest) then some ([], (c :: rest).drop mark.length)
    else (cutAt? mark rest).map fun (before, after) => (c :: before, after)

/-- The character with the code that the next digits give. -/
def codedCharacter (length : Nat) (text : List Char) : Except TomlError (Char × List Char) :=
  let digits := text.take length
  match digits.foldlM (fun value c => (Json.hexDigit? c).map fun digit => 16 * value + digit) 0 with
  | some code =>
    if digits.length = length ∧ Nat.isValidChar code then .ok (Char.ofNat code, text.drop length)
    else malformed
  | none => malformed

/-- Escapes of one character after the backslash. -/
def escapes : List (Char × Char) :=
  [('b', '\x08'), ('t', '\t'), ('n', '\n'), ('f', '\x0c'), ('r', '\r'), ('"', '"'), ('\\', '\\')]

/-- What an escape stands for; the text starts behind the backslash. Where lines may end, a
backslash at the end of one swallows all space up to the next character. -/
def escape (lines : Bool) : List Char → Except TomlError (List Char × List Char)
  | [] => malformed
  | c :: rest =>
    if lines && isSpace c then
      match skipBlanks (c :: rest) with
      | [] => .ok ([], [])
      | '\n' :: after => .ok ([], after.dropWhile isSpace)
      | _ => malformed
    else if c = 'u' then (codedCharacter 4 rest).map fun (value, after) => ([value], after)
    else if c = 'U' then (codedCharacter 8 rest).map fun (value, after) => ([value], after)
    else match escapes.lookup c with
      | some value => .ok ([value], rest)
      | none => malformed

/-- The characters up to the closing mark of a string with escapes. -/
def escapedTail (lines : Bool) (mark : List Char) :
    Nat → List Char → List Char → Except TomlError (List Char × List Char)
  | 0, _, _ => malformed
  | fuel + 1, done, text =>
    if mark.isPrefixOf text then .ok (done.reverse, text.drop mark.length)
    else match text with
      | [] => malformed
      | '\\' :: rest => do
        let (meaning, after) ← escape lines rest
        escapedTail lines mark fuel (meaning.reverse ++ done) after
      | c :: rest =>
        if isControl c && !(lines && c == '\n') then malformed
        else escapedTail lines mark fuel (c :: done) rest

/-- The characters up to the closing mark of a string without escapes. -/
def plainTail (lines : Bool) (mark text : List Char) :
    Except TomlError (List Char × List Char) := do
  let (inside, after) ← orMalformed (cutAt? mark text)
  if inside.any fun c => isControl c && !(lines && c == '\n') then malformed
  else return (inside, after)

/-- The text between a mark and the next one. -/
def tail (lines escaped : Bool) (mark text : List Char) :
    Except TomlError (List Char × List Char) :=
  if escaped then escapedTail lines mark (text.length + 1) [] text else plainTail lines mark text

/-- A string of one line. The quote says whether it has escapes. -/
def line (quote : Char) (text : List Char) : Except TomlError (String × List Char) := do
  let (inside, after) ← tail false (quote == '"') [quote] text
  return (String.ofList inside, after)

/-- Up to two quotes before a closing mark of three belong to the string. -/
def extraQuotes (quote : Char) : List Char → List Char × List Char
  | a :: b :: rest =>
    if a = quote then
      if b = quote then ([quote, quote], rest) else ([quote], b :: rest)
    else ([], a :: b :: rest)
  | [a] => if a = quote then ([quote], []) else ([], [a])
  | [] => ([], [])

/-- A string of several lines. A line end behind the opening mark does not count. -/
def lines (quote : Char) (text : List Char) : Except TomlError (String × List Char) := do
  let text := match text with
    | '\n' :: rest => rest
    | _ => text
  let (inside, after) ← tail true (quote == '"') [quote, quote, quote] text
  let (quotes, after) := extraQuotes quote after
  return (String.ofList (inside ++ quotes), after)

/-- A string from its opening mark on. -/
def string (quote : Char) (text : List Char) : Except TomlError (String × List Char) :=
  if [quote, quote, quote].isPrefixOf text then lines quote (text.drop 3)
  else line quote text.tail

/-! ## Keys -/

def isKeyCharacter (c : Char) : Bool := c.isAlphanum || c == '-' || c == '_'

def keyPart (text : List Char) : Except TomlError (String × List Char) :=
  match text with
  | '"' :: rest => line '"' rest
  | '\'' :: rest => line '\'' rest
  | _ =>
    let name := text.takeWhile isKeyCharacter
    if name = [] then malformed else .ok (String.ofList name, text.drop name.length)

/-- A key: names of tables and the name of the last member. -/
structure Key where
  tables : List String
  last : String
  deriving DecidableEq, Repr

/-- The parts of a key behind those that were read. -/
def keyTail : Nat → List String → String → List Char → Except TomlError (Key × List Char)
  | 0, _, _, _ => malformed
  | fuel + 1, tables, last, text =>
    match skipBlanks text with
    | '.' :: rest => do
      let (part, after) ← keyPart (skipBlanks rest)
      keyTail fuel (tables ++ [last]) part after
    | other => .ok (⟨tables, last⟩, other)

/-- A key of parts with points between them, and blanks around the points. -/
def key (text : List Char) : Except TomlError (Key × List Char) := do
  let (part, after) ← keyPart text
  keyTail (after.length + 1) [] part after

end Toml

end ApiBindings
