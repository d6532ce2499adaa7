import ApiBindings.Noted
import ApiBindings.Text.Letter
import ApiBindings.Text.Romanization

/-!
# Type names

Names of schemas, tags and path segments are free text. A type name is the last path segment
before any comma, in camel case, without accents, of ASCII word characters and ideographs
only, without the namespace, and with its ideographs read in Latin letters. A reserved word, an
empty name and a name that starts with a digit get a mark in front.
-/
namespace ApiBindings.TypeName

/-- Words that cannot name anything in the generated language. -/
def reservedWords : List String :=
  ["break", "case", "catch", "class", "const", "continue", "debugger", "default", "delete", "do",
   "else", "enum", "export", "extends", "false", "finally", "for", "function", "if", "import",
   "in", "instanceof", "new", "null", "return", "super", "switch", "this", "throw", "true", "try",
   "typeof", "var", "void", "while", "with"]

def isReserved (name : String) : Bool := reservedWords.contains name

/-- Stands in front of a name that is a reserved word. -/
def reservedMark : String := "__openAPI__"

/-- Stands in front of a name that is empty or starts with a digit. -/
def unreadableMark : String := "Pinyin_"

def isSeparator (c : Char) : Bool := c == '-' || c == '_' || c == ' '

/-- Characters that stay in a name: ASCII word characters, blanks and ideographs. -/
def isKept (c : Char) : Bool := Text.isAsciiWord c || Text.isBlank c || Text.isIdeograph c

/-- The last path segment of a raw name, up to a comma. -/
def lastSegment (raw : List Char) : List Char :=
  Text.firstPiece ',' (Text.lastPiece '/' (Text.replaceAll ['[', '['] ['_'] raw))

/-- A raw name in camel case with nothing but kept characters. -/
def spelling (raw : List Char) : List Char :=
  (Text.camel isSeparator (Text.removeAccents (lastSegment raw))).filter isKept

/-- A spelling that cannot stand alone: blank, a lone underscore, or with a leading digit. -/
def needsMark (name : List Char) : Bool :=
  (Text.trimBlanks name).isEmpty || name == ['_'] || (name.head?.map Char.isDigit).getD false

def withoutBlanks (name : List Char) : List Char := name.filter fun c => !Text.isBlank c

variable [Text.Romanization]

/-- A name in Latin letters. One without ideographs is not handed to the romanization. -/
def latin (name : List Char) : List Char :=
  if name.any Text.isIdeograph then Text.Romanization.read name else name

theorem latin_of_ideograph {name : List Char} {c : Char} (member : c ∈ name)
    (ideograph : Text.isIdeograph c = true) : latin name = Text.Romanization.read name :=
  if_pos (List.any_eq_true.mpr ⟨c, member, ideograph⟩)

theorem latin_of_plain {name : List Char} (plain : ∀ c ∈ name, Text.isIdeograph c = false) :
    latin name = name :=
  if_neg (by simpa using plain)

/-- The type name of a raw name inside a namespace. -/
def sanitize (namespaceName raw : String) : Noted String :=
  if isReserved raw then pure (reservedMark ++ raw)
  else
    let name := Text.eraseAll namespaceName.toList (spelling raw.toList)
    if needsMark name then do
      Noted.remark (.name raw)
      return unreadableMark ++ String.ofList (withoutBlanks name)
    else pure (String.ofList (latin (withoutBlanks name)))

end ApiBindings.TypeName
