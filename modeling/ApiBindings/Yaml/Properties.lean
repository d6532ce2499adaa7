import ApiBindings.Yaml.ScalarText
import ApiBindings.Yaml.Token
import ApiBindings.Text.Utf8

/-!
# Directives, anchors and tags

The parts of a YAML text that start with a percent sign, an ampersand, an asterisk or an
exclamation mark, each read from that character on.
-/
namespace ApiBindings.Yaml

/-- Letters, digits, hyphens and underscores of ASCII. -/
def isNameChar (c : Char) : Bool := c.isAlphanum || c == '-' || c == '_'

/-- The name at a place, which must not be empty. -/
def readName (cursor : Cursor) : Except FormatError (String × Cursor) :=
  let name := cursor.rest.takeWhile isNameChar
  if name = [] then unreadable else .ok (String.ofList name, cursor.skip name.length)

def endsWord (cursor : Cursor) : Bool := cursor.peek == ' ' || isBreakOrEnd cursor.peek

/-! ## Anchors -/

/-- Characters that may follow the name of an anchor. -/
def endsAnchor (c : Char) : Bool :=
  isBlankOrEnd c || c == '?' || c == ':' || c == ',' || c == ']' || c == '\x7d' || c == '%'
    || c == '@' || c == '\x60'

/-- The name of an anchor or an alias, from its indicator on. -/
def readAnchor (cursor : Cursor) : Except FormatError (String × Cursor) := do
  let (name, cursor) ← readName cursor.next
  if endsAnchor cursor.peek then return (name, cursor) else unreadable

/-! ## Tags -/

def isUriChar (c : Char) : Bool := c.isAlphanum || "-;/?:@&=+$,_.!~*'()[]%".toList.contains c

/-- Bytes written as a percent sign and two digits each, one after the other. -/
def escapedBytes : Nat → List Char → Except FormatError (List UInt8 × Nat)
  | 0, _ => .ok ([], 0)
  | fuel + 1, text =>
    match text with
    | '%' :: a :: b :: rest =>
      match hexValue? [a, b] with
      | some byte => do
        let (bytes, length) ← escapedBytes fuel rest
        return (UInt8.ofNat byte :: bytes, length + 3)
      | none => unreadable
    | '%' :: _ => unreadable
    | _ => .ok ([], 0)

/-- The characters of a tag, where escaped bytes have to be UTF-8. -/
def uriText : Nat → List Char → Cursor → Except FormatError (List Char × Cursor)
  | 0, done, cursor => .ok (done, cursor)
  | fuel + 1, done, cursor =>
    if cursor.peek == '%' then do
      let (bytes, length) ← escapedBytes cursor.rest.length cursor.rest
      match Utf8.decode bytes with
      | .ok text => uriText fuel (done ++ text) (cursor.skip length)
      | .error _ => unreadable
    else if isUriChar cursor.peek then uriText fuel (done ++ [cursor.peek]) cursor.next
    else .ok (done, cursor)

/-- The text of a tag, which must not be empty. -/
def readUri (cursor : Cursor) : Except FormatError (String × Cursor) := do
  let (text, rest) ← uriText (cursor.rest.length + 1) [] cursor
  if rest.index = cursor.index then unreadable else return (String.ofList text, rest)

/-- A handle: one exclamation mark before a blank, or a name between two. -/
def readHandle (cursor : Cursor) : Except FormatError (String × Cursor) :=
  if cursor.peek != '!' then unreadable
  else
    let name := cursor.next.rest.takeWhile isNameChar
    let length := if cursor.peekAt 1 == ' ' then 1 else name.length + 2
    if length = 1 || cursor.peekAt (name.length + 1) == '!' then
      .ok (String.ofList (cursor.rest.take length), cursor.skip length)
    else unreadable

/-- Whether another exclamation mark stands in the word behind the first one. -/
def hasHandle (cursor : Cursor) : Bool :=
  (cursor.next.rest.takeWhile fun c => !isBreakOrEnd c && c != ' ').contains '!'

/-- A tag, from its exclamation mark on. -/
def readTag (cursor : Cursor) : Except FormatError (Token × Cursor) := do
  let (token, cursor) ←
    if cursor.peekAt 1 == '<' then do
      let (suffix, cursor) ← readUri (cursor.skip 2)
      if cursor.peek == '>' then pure (Token.tag none suffix, cursor.next) else unreadable
    else if isBlankOrEnd (cursor.peekAt 1) then pure (Token.tag none "!", cursor.next)
    else if hasHandle cursor then do
      let (handle, cursor) ← readHandle cursor
      let (suffix, cursor) ← readUri cursor
      pure (Token.tag (some handle) suffix, cursor)
    else do
      let (suffix, cursor) ← readUri cursor.next
      pure (Token.tag (some "!") suffix, cursor)
  if endsWord cursor then return (token, cursor) else unreadable

/-! ## Directives -/

def readDigits (cursor : Cursor) : Except FormatError (Nat × Cursor) :=
  let digits := cursor.rest.takeWhile Char.isDigit
  if digits = [] then unreadable else .ok (Json.natOf digits, cursor.skip digits.length)

def skipBlanks (cursor : Cursor) : Cursor := cursor.skipWhile (· == ' ')

/-- The number of a version, of which only the part before the point is kept. -/
def readVersion (cursor : Cursor) : Except FormatError (Directive × Cursor) := do
  let (major, cursor) ← readDigits (skipBlanks cursor)
  if cursor.peek != '.' then unreadable
  else
    let (_, cursor) ← readDigits cursor.next
    if endsWord cursor then return (.version major, cursor) else unreadable

/-- A handle and the text it stands for. -/
def readHandleDirective (cursor : Cursor) : Except FormatError (Directive × Cursor) := do
  let (handle, cursor) ← readHandle (skipBlanks cursor)
  if cursor.peek != ' ' then unreadable
  else
    let (target, cursor) ← readUri (skipBlanks cursor)
    if endsWord cursor then return (.handle handle target, cursor) else unreadable

/-- A directive, from its percent sign to the end of its line. -/
def readDirective (cursor : Cursor) : Except FormatError (Directive × Cursor) := do
  let (name, cursor) ← readName cursor.next
  if !endsWord cursor then unreadable
  else
    let (directive, cursor) ←
      if name = "YAML" then readVersion cursor
      else if name = "TAG" then readHandleDirective cursor
      else pure (Directive.other, cursor.skipLine)
    return (directive, ← ignoredLine cursor)

end ApiBindings.Yaml
