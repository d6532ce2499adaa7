import ApiBindings.Yaml.Properties

/-!
# Cutting a YAML text into tokens

The scanner goes through a text once. In blocks the column of a token tells where collections
start and end. Whether a scalar is a key is known only when the colon behind it is met: until
then its place is kept as a possible key, one for each level of brackets, as long as the line
lasts and for at most 1024 characters. The token of the key is then put in front of it.
-/
namespace ApiBindings.Yaml

/-- A place where a key may have started. -/
structure PossibleKey where
  /-- The number of tokens before the key. -/
  tokens : Nat
  /-- Nothing but a key can stand there. -/
  required : Bool
  index : Nat
  line : Nat
  column : Nat
  deriving Repr

structure Scanner where
  cursor : Cursor
  /-- The tokens so far, last one first, and their number. -/
  tokens : List Token
  count : Nat
  flowLevel : Nat
  indent : Int
  /-- The indentations further out. -/
  indents : List Int
  /-- A key may start here. -/
  allowsKey : Bool
  keys : List (Nat × PossibleKey)

namespace Scanner

def start (text : List Char) : Scanner where
  cursor := Cursor.start text
  tokens := []
  count := 0
  flowLevel := 0
  indent := -1
  indents := []
  allowsKey := true
  keys := []

/-- The longest distance between a key and its colon. -/
def keyLimit : Nat := 1024

def emit (scanner : Scanner) (token : Token) : Scanner :=
  { scanner with tokens := token :: scanner.tokens, count := scanner.count + 1 }

/-- Puts a token behind the first `place` tokens. -/
def emitAt (scanner : Scanner) (place : Nat) (token : Token) : Scanner :=
  let later := scanner.tokens.take (scanner.count - place)
  let earlier := scanner.tokens.drop (scanner.count - place)
  { scanner with tokens := later ++ token :: earlier, count := scanner.count + 1 }

def moveTo (scanner : Scanner) (cursor : Cursor) : Scanner := { scanner with cursor := cursor }

def inFlow (scanner : Scanner) : Bool := scanner.flowLevel != 0

/-- Closes the blocks that are indented further than a column. -/
def closeBlocks (column : Int) : List Int → Scanner → Scanner
  | outer :: rest, scanner =>
    if scanner.indent > column then
      closeBlocks column rest { scanner.emit .blockEnd with indent := outer, indents := rest }
    else scanner
  | [], scanner => scanner

/-- Closes the blocks that end before a column; inside brackets indentation does not count. -/
def unwind (scanner : Scanner) (column : Int) : Scanner :=
  if scanner.inFlow then scanner else closeBlocks column scanner.indents scanner

/-- Opens a block at a column if it is indented further than the one around it; its token is
put behind the first `place` tokens. -/
def openBlock (scanner : Scanner) (column : Nat) (place : Nat) (token : Token) : Scanner :=
  if scanner.indent < column then
    { scanner.emitAt place token with
      indent := column
      indents := scanner.indent :: scanner.indents }
  else scanner

/-! ## Possible keys -/

def isStale (scanner : Scanner) (key : PossibleKey) : Bool :=
  key.line != scanner.cursor.line || scanner.cursor.index - key.index > keyLimit

/-- Drops the keys whose colon can no longer come; none of them may be required. -/
def dropStale (scanner : Scanner) : Except FormatError Scanner :=
  let (stale, kept) := scanner.keys.partition fun (_, key) => scanner.isStale key
  if stale.any fun (_, key) => key.required then unreadable
  else .ok { scanner with keys := kept }

/-- Drops the key of this level. -/
def dropKey (scanner : Scanner) : Except FormatError Scanner :=
  match scanner.keys.lookup scanner.flowLevel with
  | none => .ok scanner
  | some key =>
    if key.required then unreadable
    else
      .ok { scanner with keys := scanner.keys.filter fun (level, _) => level != scanner.flowLevel }

/-- Keeps this place as that of a possible key. -/
def saveKey (scanner : Scanner) : Except FormatError Scanner := do
  if scanner.allowsKey then
    let dropped ← scanner.dropKey
    let cursor := scanner.cursor
    let required := !scanner.inFlow && scanner.indent == cursor.column
    let key : PossibleKey := ⟨scanner.count, required, cursor.index, cursor.line, cursor.column⟩
    return { dropped with keys := (scanner.flowLevel, key) :: dropped.keys }
  else return scanner

def allowKey (scanner : Scanner) (allows : Bool) : Scanner := { scanner with allowsKey := allows }

/-- Passes over characters and emits their token. -/
def take (scanner : Scanner) (length : Nat) (token : Token) : Scanner :=
  (scanner.moveTo (scanner.cursor.skip length)).emit token

/-! ## The tokens -/

/-- Ends all blocks before a directive or a marker. -/
def endBlocks (scanner : Scanner) : Except FormatError Scanner := do
  return (← (scanner.unwind (-1)).dropKey).allowKey false

def fetchDirective (scanner : Scanner) : Except FormatError Scanner := do
  let scanner ← scanner.endBlocks
  let (directive, cursor) ← readDirective scanner.cursor
  return (scanner.moveTo cursor).emit (.directive directive)

def fetchMarker (scanner : Scanner) (token : Token) : Except FormatError Scanner := do
  return (← scanner.endBlocks).take 3 token

def fetchOpening (scanner : Scanner) (token : Token) : Except FormatError Scanner := do
  let scanner ← scanner.saveKey
  return ({ scanner with flowLevel := scanner.flowLevel + 1 }.allowKey true).take 1 token

/-- A closing bracket; outside of brackets it is at fault. -/
def fetchClosing (scanner : Scanner) (token : Token) : Except FormatError Scanner := do
  if scanner.flowLevel = 0 then unreadable
  else
    let scanner ← scanner.dropKey
    return ({ scanner with flowLevel := scanner.flowLevel - 1 }.allowKey false).take 1 token

def fetchFlowEntry (scanner : Scanner) : Except FormatError Scanner := do
  return (← (scanner.allowKey true).dropKey).take 1 .flowEntry

def fetchBlockEntry (scanner : Scanner) : Except FormatError Scanner := do
  let opened ←
    if scanner.inFlow then pure scanner
    else if scanner.allowsKey then
      pure (scanner.openBlock scanner.cursor.column scanner.count .blockSequenceStart)
    else unreadable
  return (← (opened.allowKey true).dropKey).take 1 .blockEntry

/-- The opening of a mapping by a question mark or a colon of its own. -/
def openMapping (scanner : Scanner) : Except FormatError Scanner :=
  if scanner.inFlow then .ok scanner
  else if scanner.allowsKey then
    .ok (scanner.openBlock scanner.cursor.column scanner.count .blockMappingStart)
  else unreadable

def fetchKey (scanner : Scanner) : Except FormatError Scanner := do
  let scanner ← scanner.openMapping
  return (← (scanner.allowKey !scanner.inFlow).dropKey).take 1 .key

/-- A colon: behind a possible key that key becomes one, otherwise the key was given with a
question mark or is missing. -/
def fetchValue (scanner : Scanner) : Except FormatError Scanner := do
  match scanner.keys.lookup scanner.flowLevel with
  | some key =>
    let rest := scanner.keys.filter fun (level, _) => level != scanner.flowLevel
    let keyed := { scanner with keys := rest }.emitAt key.tokens .key
    let opened :=
      if keyed.inFlow then keyed else keyed.openBlock key.column key.tokens .blockMappingStart
    return (opened.allowKey false).take 1 .value
  | none =>
    let scanner ← scanner.openMapping
    return (← (scanner.allowKey !scanner.inFlow).dropKey).take 1 .value

/-- An alias, an anchor or a tag, which may start a key. -/
def fetchProperty (scanner : Scanner) (read : Cursor → Except FormatError (Token × Cursor)) :
    Except FormatError Scanner := do
  let scanner := (← scanner.saveKey).allowKey false
  let (token, cursor) ← read scanner.cursor
  return (scanner.moveTo cursor).emit token

def fetchAnchor (scanner : Scanner) (token : String → Token) : Except FormatError Scanner :=
  scanner.fetchProperty fun cursor => do
    let (name, cursor) ← readAnchor cursor
    return (token name, cursor)

def fetchQuoted (scanner : Scanner) (double : Bool) : Except FormatError Scanner :=
  scanner.fetchProperty fun cursor => do
    let (text, cursor) ← quotedScalar double cursor
    return (.scalar text false, cursor)

def fetchBlock (scanner : Scanner) (fold : Bool) : Except FormatError Scanner := do
  let scanner ← (scanner.allowKey true).dropKey
  let (text, cursor) ← blockScalar fold scanner.indent scanner.cursor
  return (scanner.moveTo cursor).emit (.scalar text false)

/-- A plain scalar; a key may start behind it if a line ended there. -/
def fetchPlain (scanner : Scanner) : Except FormatError Scanner := do
  let scanner ← scanner.saveKey
  let (text, sawBreak, cursor) := plainScalar scanner.inFlow scanner.indent scanner.cursor
  return ((scanner.moveTo cursor).allowKey sawBreak).emit (.scalar text true)

/-- Characters that cannot start a plain scalar. -/
def isIndicator (c : Char) : Bool := "-?:,[]\x7b\x7d#&*!|>'\"%@\x60".toList.contains c

/-- Whether a plain scalar starts here. -/
def startsPlain (scanner : Scanner) : Bool :=
  let c := scanner.cursor.peek
  (!isBlankOrEnd c && !isIndicator c)
    || (!isBlankOrEnd (scanner.cursor.peekAt 1)
      && (c == '-' || (!scanner.inFlow && (c == '?' || c == ':'))))

/-- The token at this place. -/
def fetch (scanner : Scanner) : Except FormatError Scanner :=
  let cursor := scanner.cursor
  let blankNext := isBlankOrEnd (cursor.peekAt 1)
  match cursor.peek with
  | '[' => scanner.fetchOpening .flowSequenceStart
  | '\x7b' => scanner.fetchOpening .flowMappingStart
  | ']' => scanner.fetchClosing .flowSequenceEnd
  | '\x7d' => scanner.fetchClosing .flowMappingEnd
  | ',' => scanner.fetchFlowEntry
  | '*' => scanner.fetchAnchor .aliasOf
  | '&' => scanner.fetchAnchor .anchor
  | '!' => scanner.fetchProperty readTag
  | '\'' => scanner.fetchQuoted false
  | '"' => scanner.fetchQuoted true
  | c =>
    if c == '%' && cursor.column == 0 then scanner.fetchDirective
    else if cursor.column == 0 && cursor.atMarker '-' then scanner.fetchMarker .documentStart
    else if cursor.column == 0 && cursor.atMarker '.' then scanner.fetchMarker .documentEnd
    else if c == '-' && blankNext then scanner.fetchBlockEntry
    else if c == '?' && (scanner.inFlow || blankNext) then scanner.fetchKey
    else if c == ':' && (scanner.inFlow || blankNext) then scanner.fetchValue
    else if c == '|' && !scanner.inFlow then scanner.fetchBlock false
    else if c == '>' && !scanner.inFlow then scanner.fetchBlock true
    else if scanner.startsPlain then scanner.fetchPlain
    else unreadable

/-- Goes to the next token; blocks that end before it are closed. -/
def advance (scanner : Scanner) : Except FormatError Scanner := do
  let (sawBreak, cursor) := scanner.cursor.skipToToken
  let scanner := scanner.moveTo cursor
  let scanner := if sawBreak && !scanner.inFlow then scanner.allowKey true else scanner
  return (← scanner.dropStale).unwind cursor.column

/-- The end of the text, which ends all blocks. -/
def finish (scanner : Scanner) : Except FormatError Scanner := do
  return (← scanner.endBlocks).emit .streamEnd

/-- The tokens up to the end of the text or to the first fault, last one first. -/
def run : Nat → Scanner → List Token
  | 0, scanner => .broken .yaml :: scanner.tokens
  | fuel + 1, scanner =>
    match scanner.advance with
    | .error error => .broken error :: scanner.tokens
    | .ok ready =>
      if ready.cursor.rest.isEmpty then
        match ready.finish with
        | .ok done => done.tokens
        | .error error => .broken error :: ready.tokens
      else
        match ready.fetch with
        | .ok next => run fuel next
        | .error error => .broken error :: ready.tokens

end Scanner

/-- The tokens of a text. -/
def Token.ofText (text : List Char) : List Token :=
  (Scanner.run (text.length + 1) (Scanner.start text)).reverse

end ApiBindings.Yaml
