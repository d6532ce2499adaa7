import ApiBindings.Toml.Number
import ApiBindings.Toml.Table

/-!
# TOML

A text is a sequence of statements, one a line: a member, the header of a table, or the header
of a table in a list. Nesting of values is bounded by the length of the text, since every
opening bracket takes one character.
-/
namespace ApiBindings.Toml

mutual

/-- A value at the start of a text. -/
def value : Nat → List Char → Except TomlError (Node × List Char)
  | 0, _ => malformed
  | fuel + 1, text =>
    match text with
    | '"' :: _ => (string '"' text).map fun (value, after) => (.text value, after)
    | '\'' :: _ => (string '\'' text).map fun (value, after) => (.text value, after)
    | '[' :: rest => do
      let (items, after) ← listItems fuel [] rest
      return (.list items, after)
    | '\x7b' :: rest =>
      match skipBlanks rest with
      | '\x7d' :: after => .ok (.object [], after)
      | inside => do
        let (table, after) ← tableMembers fuel [] inside
        return (table.toNode, after)
    | _ => plainValue text

/-- The items of a list up to its end. A comma may stand behind the last one. -/
def listItems : Nat → List Node → List Char → Except TomlError (List Node × List Char)
  | 0, _, _ => malformed
  | fuel + 1, done, text => do
    match ← skipSpaces text.length text with
    | ']' :: after => return (done.reverse, after)
    | inside =>
      let (item, after) ← value fuel inside
      match ← skipSpaces after.length after with
      | ']' :: after => return ((item :: done).reverse, after)
      | ',' :: after => listItems fuel (item :: done) after
      | _ => malformed

/-- The members of a table in one line, up to its end. -/
def tableMembers : Nat → Table → List Char → Except TomlError (Table × List Char)
  | 0, _, _ => malformed
  | fuel + 1, table, text => do
    let (key, after) ← key text
    match after with
    | '=' :: rest =>
      let (member, after) ← value fuel (skipBlanks rest)
      let table ← orMalformed (Table.changeBelow (Table.add key.last member) key.tables table)
      match skipBlanks after with
      | '\x7d' :: after => return (table, after)
      | ',' :: after => tableMembers fuel table (skipBlanks after)
      | _ => malformed
    | _ => malformed

end

/-- What was read so far: the whole table, the header that holds, and the number of headers. -/
structure Progress where
  root : Table
  header : List String
  part : Nat

namespace Progress

def start : Progress := ⟨[], [], 0⟩

def member (progress : Progress) (text : List Char) : Except TomlError (Progress × List Char) := do
  let (key, after) ← key text
  match after with
  | '=' :: rest =>
    let (value, after) ← value (rest.length + 1) (skipBlanks rest)
    let root ← orMalformed (Table.assign progress.part progress.header key value progress.root)
    return ({ progress with root := root }, after)
  | _ => malformed

/-- The header of a table, up to its closing mark. -/
def enter (progress : Progress) (change : Key → Table.Change) (mark text : List Char) :
    Except TomlError (Progress × List Char) := do
  let (key, after) ← key (skipBlanks text)
  let root ← orMalformed (change key progress.root)
  if mark.isPrefixOf after then
    return (⟨root, key.tables ++ [key.last], progress.part + 1⟩, after.drop mark.length)
  else malformed

/-- The statement at the start of a text, if there is one. -/
def statement (progress : Progress) (text : List Char) : Except TomlError (Progress × List Char) :=
  match text with
  | '[' :: '[' :: rest => progress.enter Table.append [']', ']'] rest
  | '[' :: rest => progress.enter Table.declare [']'] rest
  | [] => .ok (progress, [])
  | c :: _ => if c = '\n' ∨ c = '#' then .ok (progress, text) else progress.member text

/-- Reads statement after statement; every line takes a character. -/
def run : Nat → Progress → List Char → Except TomlError Progress
  | 0, progress, _ => .ok progress
  | fuel + 1, progress, text => do
    let (progress, after) ← progress.statement (skipBlanks text)
    match ← skipComment (skipBlanks after) with
    | [] => return progress
    | '\n' :: rest => run fuel progress rest
    | _ => malformed

end Progress

/-- The table that a text stands for. -/
def read (text : String) : Except TomlError Node :=
  (Progress.run (text.length + 1) .start text.toList).map fun progress => progress.root.toNode

end ApiBindings.Toml
