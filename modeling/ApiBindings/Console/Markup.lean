import ApiBindings.Text.Letter

/-!
# Styled text

Text for the console may hold tags in square brackets, which set a style up to a closing tag.
Without colours nothing is left of a tag; what remains of this is that a closing tag has to
close something. A backslash before a bracket keeps a tag as text.
-/
namespace ApiBindings.Console

/-- A closing tag that closes nothing. -/
structure UnmatchedTag where
  tag : String
  deriving DecidableEq, Repr

/-- Characters a tag may start with; capitals and digits start none. -/
def startsTag (c : Char) : Bool := ('a' ≤ c && c ≤ 'z') || c == '#' || c == '/' || c == '@'

/-- The inside of a tag, and what follows it; the text starts behind the opening bracket. -/
def tag? : List Char → Option (List Char × List Char)
  | [] => none
  | c :: rest =>
    let inside := rest.takeWhile fun c => c != ']' && c != '['
    match startsTag c, rest.drop inside.length with
    | true, ']' :: after => some (c :: inside, after)
    | _, _ => none

inductive Piece
  | text (content : List Char)
  | tag (inside : List Char)
  deriving DecidableEq, Repr

/-- Puts a character in front of the text that comes next. -/
def before (c : Char) : List Piece → List Piece
  | .text content :: rest => .text (c :: content) :: rest
  | pieces => .text [c] :: pieces

/-- The pieces of a text. Of backslashes before a tag every two stand for one, and a last one
keeps the tag. -/
def pieces : Nat → List Char → List Piece
  | 0, _ => []
  | fuel + 1, text =>
    let slashes := (text.takeWhile (· == '\\')).length
    match text.drop slashes with
    | '[' :: rest =>
      match tag? rest with
      | some (inside, after) =>
        .text (List.replicate (slashes / 2) '\\') ::
          (if slashes % 2 = 1 then .text ('[' :: inside ++ [']']) else .tag inside) ::
          pieces fuel after
      | none => ordinary fuel text
    | _ => ordinary fuel text
where
  ordinary (fuel : Nat) : List Char → List Piece
    | [] => []
    | c :: rest => before c (pieces fuel rest)

/-- The name of a style: a tag up to an equals sign. -/
def styleName (inside : List Char) : List Char :=
  Text.lower (Text.trimBlanks (Text.firstPiece '=' inside))

/-- The styles that are still open after a tag, the last one first. -/
def opened (styles : List (List Char)) (inside : List Char) :
    Except UnmatchedTag (List (List Char)) :=
  match inside with
  | '/' :: rest =>
    let name := styleName rest
    if name = [] then
      match styles with
      | _ :: others => .ok others
      | [] => .error ⟨String.ofList inside⟩
    else if name ∈ styles then .ok (styles.erase name)
    else .error ⟨String.ofList inside⟩
  | _ => .ok (styleName inside :: styles)

/-- The text that is left when the tags are gone. -/
def plainPieces (styles : List (List Char)) : List Piece → Except UnmatchedTag (List Char)
  | [] => .ok []
  | .text content :: rest => do
    return Text.replaceAll ['\\', '['] ['['] content ++ (← plainPieces styles rest)
  | .tag inside :: rest => do plainPieces (← opened styles inside) rest

/-- Control characters that are never sent to a console. -/
def isDropped (c : Char) : Bool :=
  c == '\x07' || c == '\x08' || c == '\x0b' || c == '\x0c' || c == '\r'

/-- A styled text without its styles. -/
def plain (text : String) : Except UnmatchedTag (List Char) :=
  if text.toList.contains '[' then
    return (← plainPieces [] (pieces (text.toList.length + 1) text.toList)).filter (!isDropped ·)
  else .ok (text.toList.filter (!isDropped ·))

end ApiBindings.Console
