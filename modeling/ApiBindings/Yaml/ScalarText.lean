import ApiBindings.Yaml.Cursor
import ApiBindings.Json.Reader
import ApiBindings.Failure

/-!
# Scalars in a YAML text

Plain, quoted and block scalars, each read from its first character to the place behind it.
Line breaks inside a scalar are folded: a single one becomes a blank, of several the first is
dropped. Literal blocks keep their lines.
-/
namespace ApiBindings.Yaml

def unreadable {α : Type} : Except FormatError α := .error .yaml

/-- One line break folded with those behind it. -/
def folded (first : List Char) (others : List Char) : List Char :=
  if first ≠ ['\n'] then first ++ others
  else if others = [] then [' ']
  else others

/-! ## Plain scalars -/

/-- Characters that end a plain scalar inside brackets. -/
def isFlowMark (c : Char) : Bool :=
  c == ',' || c == '?' || c == '[' || c == ']' || c == '\x7b' || c == '\x7d'

/-- Whether a colon before this character ends a plain scalar. -/
def endsKey (inFlow : Bool) (c : Char) : Bool :=
  isBlankOrEnd c || (inFlow && (c == ',' || c == '[' || c == ']' || c == '\x7b' || c == '\x7d'))

/-- The characters of a plain scalar up to the next blank. -/
def plainRun (inFlow : Bool) : List Char → List Char
  | [] => []
  | c :: rest =>
    if isBlankOrEnd c || (c == ':' && endsKey inFlow (rest.headD '\x00'))
        || (inFlow && isFlowMark c) then []
    else c :: plainRun inFlow rest

/-- The breaks of blank lines and the place of the next text; nothing before a document marker. -/
def plainBreaks : Nat → List Char → Cursor → Option (List Char) × Cursor
  | 0, _, cursor => (none, cursor)
  | fuel + 1, breaks, cursor =>
    if cursor.peek == ' ' then plainBreaks fuel breaks cursor.next
    else if isBreak cursor.peek then
      let (lineBreak, cursor) := cursor.lineBreak
      if cursor.atDocumentMarker then (none, cursor)
      else plainBreaks fuel (breaks ++ lineBreak) cursor
    else (some breaks, cursor)

/-- What stands between two runs of a plain scalar: nothing if it ends here. The flag says
whether a line ended. -/
def plainSpaces (cursor : Cursor) : List Char × Bool × Cursor :=
  let blanks := cursor.rest.takeWhile (· == ' ')
  let cursor := cursor.skip blanks.length
  if isBreak cursor.peek then
    let (first, cursor) := cursor.lineBreak
    if cursor.atDocumentMarker then ([], true, cursor)
    else match plainBreaks (cursor.rest.length + 1) [] cursor with
      | (some others, cursor) => (folded first others, true, cursor)
      | (none, cursor) => ([], true, cursor)
  else (blanks, false, cursor)

/-- The runs of a plain scalar with what stands between them. -/
def plainRuns (inFlow : Bool) (indent : Int) :
    Nat → List Char → List Char → Bool → Cursor → List Char × Bool × Cursor
  | 0, done, _, sawBreak, cursor => (done, sawBreak, cursor)
  | fuel + 1, done, spaces, sawBreak, cursor =>
    let run := plainRun inFlow cursor.rest
    if run = [] then (done, sawBreak, cursor)
    else
      let done := done ++ spaces ++ run
      let (spaces, sawBreak, cursor) := plainSpaces (cursor.skip run.length)
      if spaces = [] || cursor.peek == '#' || (!inFlow && (cursor.column : Int) < indent) then
        (done, sawBreak, cursor)
      else plainRuns inFlow indent fuel done spaces sawBreak cursor

/-- A plain scalar inside a block of this indentation, and whether a line ended behind it. -/
def plainScalar (inFlow : Bool) (indent : Int) (cursor : Cursor) : String × Bool × Cursor :=
  let (text, sawBreak, cursor) :=
    plainRuns inFlow (indent + 1) (cursor.rest.length + 1) [] [] false cursor
  (String.ofList text, sawBreak, cursor)

/-! ## Quoted scalars -/

/-- Escapes of one character after the backslash. -/
def escapes : List (Char × Char) :=
  [('0', '\x00'), ('a', '\x07'), ('b', '\x08'), ('t', '\t'), ('\t', '\t'), ('n', '\n'),
    ('v', '\x0b'), ('f', '\x0c'), ('r', '\r'), ('e', '\x1b'), (' ', ' '), ('"', '"'),
    ('\\', '\\'), ('/', '/'), ('N', '\u0085'), ('_', '\u00a0'), ('L', '\u2028'), ('P', '\u2029')]

/-- The number of hexadecimal digits after the letters of numeric escapes. -/
def codeLengths : List (Char × Nat) := [('x', 2), ('u', 4), ('U', 8)]

/-- The value of hexadecimal digits. -/
def hexValue? (digits : List Char) : Option Nat :=
  digits.foldlM (fun value c => (Json.hexDigit? c).map fun digit => 16 * value + digit) 0

/-- The character of a code. -/
def characterOf (code : Nat) : Except FormatError Char :=
  if code ≥ 0x80000000 then .error .hugeCode
  else if code ≥ 0x110000 then .error (.noValue "chr() arg not in range(0x110000)")
  else .ok (Text.ofCodePoint code)

/-- Blank lines inside quotes; a document marker must not stand there. -/
def quotedBreaks : Nat → List Char → Cursor → Except FormatError (List Char × Cursor)
  | 0, _, _ => unreadable
  | fuel + 1, breaks, cursor =>
    if cursor.atDocumentMarker then unreadable
    else
      let cursor := cursor.skipWhile isTabOrBlank
      if isBreak cursor.peek then
        let (lineBreak, cursor) := cursor.lineBreak
        quotedBreaks fuel (breaks ++ lineBreak) cursor
      else .ok (breaks, cursor)

/-- Blanks and line breaks inside quotes. -/
def quotedSpaces (cursor : Cursor) : Except FormatError (List Char × Cursor) :=
  let blanks := cursor.rest.takeWhile isTabOrBlank
  let cursor := cursor.skip blanks.length
  if cursor.rest.isEmpty then unreadable
  else if isBreak cursor.peek then do
    let (first, cursor) := cursor.lineBreak
    let (others, cursor) ← quotedBreaks (cursor.rest.length + 1) [] cursor
    return (folded first others, cursor)
  else return (blanks, cursor)

/-- What an escape stands for; the cursor is behind the backslash. -/
def escape (cursor : Cursor) : Except FormatError (List Char × Cursor) :=
  match escapes.lookup cursor.peek, codeLengths.lookup cursor.peek with
  | some c, _ => .ok ([c], cursor.next)
  | none, some length =>
    let digits := cursor.next.rest.take length
    match hexValue? digits with
    | some code =>
      if digits.length = length then do return ([← characterOf code], cursor.skip (length + 1))
      else unreadable
    | none => unreadable
  | none, none =>
    if isBreak cursor.peek then
      let cursor := cursor.lineBreak.2
      quotedBreaks (cursor.rest.length + 1) [] cursor
    else unreadable

/-- Characters that mean something inside quotes. -/
def isQuotedMark (c : Char) : Bool := isBlankOrEnd c || c == '"' || c == '\'' || c == '\\'

/-- The text up to the closing quote. Only double quotes know escapes; a single quote is
written twice between single ones. -/
def quotedText (double : Bool) : Nat → List Char → Cursor → Except FormatError (List Char × Cursor)
  | 0, _, _ => unreadable
  | fuel + 1, done, cursor =>
    let c := cursor.peek
    let run := cursor.rest.takeWhile fun c => !isQuotedMark c
    if run ≠ [] then quotedText double fuel (done ++ run) (cursor.skip run.length)
    else if isBlankOrEnd c then do
      let (spaces, cursor) ← quotedSpaces cursor
      quotedText double fuel (done ++ spaces) cursor
    else if double && c == '"' then .ok (done, cursor.next)
    else if !double && c == '\'' then
      if cursor.peekAt 1 == '\'' then quotedText double fuel (done ++ [c]) (cursor.skip 2)
      else .ok (done, cursor.next)
    else if double && c == '\\' then do
      let (meaning, cursor) ← escape cursor.next
      quotedText double fuel (done ++ meaning) cursor
    else quotedText double fuel (done ++ [c]) cursor.next

/-- A quoted scalar from its opening quote on. -/
def quotedScalar (double : Bool) (cursor : Cursor) : Except FormatError (String × Cursor) := do
  let (text, rest) ← quotedText double (cursor.rest.length + 1) [] cursor.next
  return (String.ofList text, rest)

/-! ## Block scalars -/

/-- What happens to the line breaks at the end of a block. -/
inductive Chomping
  | clip
  | strip
  | keep
  deriving DecidableEq, Repr

def chomping? (c : Char) : Option Chomping :=
  if c = '+' then some .keep else if c = '-' then some .strip else none

/-- A digit that is not zero, if there is a digit at all. -/
def increment? (c : Char) : Except FormatError (Option Nat) :=
  if c.isDigit then
    if c = '0' then unreadable else .ok (some (c.toNat - '0'.toNat))
  else .ok none

/-- The header of a block, chomping and indentation in either order. -/
def blockHeader (cursor : Cursor) : Except FormatError ((Chomping × Option Nat) × Cursor) := do
  let (header, cursor) ← match chomping? cursor.peek with
    | some chomping =>
      let cursor := cursor.next
      match ← increment? cursor.peek with
      | some increment => pure ((chomping, some increment), cursor.next)
      | none => pure ((chomping, none), cursor)
    | none =>
      match ← increment? cursor.peek with
      | some increment =>
        let cursor := cursor.next
        match chomping? cursor.peek with
        | some chomping => pure ((chomping, some increment), cursor.next)
        | none => pure ((Chomping.clip, some increment), cursor)
      | none => pure ((Chomping.clip, none), cursor)
  if isBreakOrEnd cursor.peek || cursor.peek == ' ' then return (header, cursor)
  else unreadable

/-- Passes over blanks, a comment and the line break behind them; nothing else may stand there. -/
def ignoredLine (cursor : Cursor) : Except FormatError Cursor :=
  let cursor := cursor.skipWhile (· == ' ')
  let cursor := if cursor.peek == '#' then cursor.skipLine else cursor
  if isBreakOrEnd cursor.peek then .ok cursor.lineBreak.2 else unreadable

/-- The blank lines at the start of a block, and the widest indentation among them. -/
def leadingLines : Nat → List Char → Nat → Cursor → List Char × Nat × Cursor
  | 0, breaks, widest, cursor => (breaks, widest, cursor)
  | fuel + 1, breaks, widest, cursor =>
    if cursor.peek == ' ' then
      let cursor := cursor.next
      leadingLines fuel breaks (max widest cursor.column) cursor
    else if isBreak cursor.peek then
      let (lineBreak, cursor) := cursor.lineBreak
      leadingLines fuel (breaks ++ lineBreak) widest cursor
    else (breaks, widest, cursor)

/-- Blanks up to an indentation. -/
def skipIndent (indent : Nat) (cursor : Cursor) : Cursor :=
  cursor.skip (min (indent - cursor.column) (cursor.rest.takeWhile (· == ' ')).length)

/-- Blank lines between the lines of a block. -/
def blockBreaks (indent : Nat) : Nat → List Char → Cursor → List Char × Cursor
  | 0, breaks, cursor => (breaks, cursor)
  | fuel + 1, breaks, cursor =>
    let cursor := skipIndent indent cursor
    if isBreak cursor.peek then
      let (lineBreak, cursor) := cursor.lineBreak
      blockBreaks indent fuel (breaks ++ lineBreak) cursor
    else (breaks, cursor)

def blockBreaksFrom (indent : Nat) (cursor : Cursor) : List Char × Cursor :=
  blockBreaks indent (cursor.rest.length + 1) [] cursor

/-- Whether a block has another line here. -/
def inBlock (indent : Nat) (cursor : Cursor) : Bool :=
  cursor.column == indent && !cursor.rest.isEmpty

/-- What is put between two lines of a block: folding joins lines that start with text. -/
def between (fold startsWithText nextStartsWithText : Bool) (lineBreak breaks : List Char) :
    List Char :=
  if fold && lineBreak == ['\n'] && startsWithText && nextStartsWithText then
    if breaks = [] then [' '] else []
  else lineBreak

/-- The lines of a block: the text, the last line break, and the blank lines behind it. -/
def blockLines (fold : Bool) (indent : Nat) :
    Nat → List Char → List Char → Cursor → List Char × List Char × List Char × Cursor
  | 0, done, breaks, cursor => (done, [], breaks, cursor)
  | fuel + 1, done, breaks, cursor =>
    let line := cursor.rest.takeWhile fun c => !isBreak c
    let (lineBreak, after) := (cursor.skip line.length).lineBreak
    let done := done ++ breaks ++ line
    let (breaks, after) := blockBreaksFrom indent after
    if inBlock indent after then
      let joint :=
        between fold (!isTabOrBlank cursor.peek) (!isTabOrBlank after.peek) lineBreak breaks
      blockLines fold indent fuel (done ++ joint) breaks after
    else (done, lineBreak, breaks, after)

/-- A block scalar from its indicator on; `parent` is the indentation around it. -/
def blockScalar (fold : Bool) (parent : Int) (cursor : Cursor) :
    Except FormatError (String × Cursor) := do
  let ((chomping, increment), cursor) ← blockHeader cursor.next
  let cursor ← ignoredLine cursor
  let least : Nat := max 1 (parent + 1).toNat
  let (breaks, indent, cursor) := match increment with
    | none =>
      let (breaks, widest, cursor) := leadingLines (cursor.rest.length + 1) [] 0 cursor
      (breaks, max least widest, cursor)
    | some increment =>
      let indent := least + increment - 1
      let (breaks, cursor) := blockBreaksFrom indent cursor
      (breaks, indent, cursor)
  let (text, lineBreak, breaks, cursor) :=
    if inBlock indent cursor then blockLines fold indent (cursor.rest.length + 1) [] breaks cursor
    else ([], [], breaks, cursor)
  let ending := match chomping with
    | .strip => []
    | .clip => lineBreak
    | .keep => lineBreak ++ breaks
  return (String.ofList (text ++ ending), cursor)

end ApiBindings.Yaml
