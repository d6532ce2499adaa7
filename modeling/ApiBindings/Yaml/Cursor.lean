import ApiBindings.Text.Pieces

/-!
# Places in a YAML text

A cursor is what remains of a text with the place where it starts. Lines end at line feeds and
carriage returns, at a next line (U+0085) and at the two Unicode separators; a byte order mark
takes no column. Behind the end of the text a cursor shows NUL, which no YAML text contains.
-/
namespace ApiBindings.Yaml

/-- The characters a YAML text may contain. -/
def isAllowed (c : Char) : Bool :=
  let code := c.toNat
  code == 9 || code == 10 || code == 13 || (32 ≤ code && code ≤ 126) || code == 0x85
    || (0xa0 ≤ code && code ≤ 0xfffd) || 0x10000 ≤ code

def isBreak (c : Char) : Bool :=
  c == '\n' || c == '\r' || c == '\u0085' || c == '\u2028' || c == '\u2029'

def isBreakOrEnd (c : Char) : Bool := isBreak c || c == '\x00'

def isBlankOrEnd (c : Char) : Bool := isBreakOrEnd c || c == ' ' || c == '\t'

def isTabOrBlank (c : Char) : Bool := c == ' ' || c == '\t'

def byteOrderMark : Char := '\ufeff'

structure Cursor where
  rest : List Char
  index : Nat
  line : Nat
  column : Nat
  deriving Repr

namespace Cursor

def start (text : List Char) : Cursor := ⟨text, 0, 0, 0⟩

def peek (cursor : Cursor) : Char := cursor.rest.headD '\x00'

def peekAt (cursor : Cursor) (offset : Nat) : Char := cursor.rest.getD offset '\x00'

/-- The place behind the next character. -/
def next (cursor : Cursor) : Cursor :=
  match cursor.rest with
  | [] => cursor
  | c :: rest =>
    if isBreak c && !(c == '\r' && rest.head? == some '\n') then
      ⟨rest, cursor.index + 1, cursor.line + 1, 0⟩
    else
      ⟨rest, cursor.index + 1, cursor.line,
        if c = byteOrderMark then cursor.column else cursor.column + 1⟩

def skip : Nat → Cursor → Cursor
  | 0, cursor => cursor
  | count + 1, cursor => skip count cursor.next

/-- Skips the characters of a class. -/
def skipWhile (inClass : Char → Bool) (cursor : Cursor) : Cursor :=
  cursor.skip (cursor.rest.takeWhile inClass).length

def skipLine (cursor : Cursor) : Cursor := cursor.skipWhile fun c => !isBreak c

/-- The line break at a place and the place behind it. All breaks but the two separators count
as a line feed. -/
def lineBreak (cursor : Cursor) : List Char × Cursor :=
  match cursor.rest with
  | '\r' :: '\n' :: _ => (['\n'], cursor.skip 2)
  | c :: _ =>
    if c == '\u2028' || c == '\u2029' then ([c], cursor.next)
    else if isBreak c then (['\n'], cursor.next)
    else ([], cursor)
  | [] => ([], cursor)

/-- Whether the next three characters are a marker of a document, followed by a blank. -/
def atMarker (marker : Char) (cursor : Cursor) : Bool :=
  cursor.peek == marker && cursor.peekAt 1 == marker && cursor.peekAt 2 == marker
    && isBlankOrEnd (cursor.peekAt 3)

def atDocumentMarker (cursor : Cursor) : Bool := cursor.atMarker '-' || cursor.atMarker '.'

/-- Whether lines in between are only passed over, or also the blanks before the next one. -/
def skipToTokenFuel : Nat → Bool → Cursor → Bool × Cursor
  | 0, sawBreak, cursor => (sawBreak, cursor)
  | fuel + 1, sawBreak, cursor =>
    let cursor := cursor.skipWhile (· == ' ')
    let cursor := if cursor.peek == '#' then cursor.skipLine else cursor
    if isBreak cursor.peek then skipToTokenFuel fuel true cursor.lineBreak.2
    else (sawBreak, cursor)

/-- The next place that is no blank, comment or line break, and whether a line ended before it.
A byte order mark at the start of the text is passed over. -/
def skipToToken (cursor : Cursor) : Bool × Cursor :=
  let cursor := if cursor.index = 0 ∧ cursor.peek = byteOrderMark then cursor.next else cursor
  skipToTokenFuel (cursor.rest.length + 1) false cursor

end Cursor

end ApiBindings.Yaml
