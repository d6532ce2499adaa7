import ApiBindings.Service.Parameter
import ApiBindings.Settings

/-!
# Paths of service functions

The path of an operation becomes a template in which each placeholder is an expression. Path
parameters are renamed to their aliases, a prefix may go in front, and a list of path ends may
pick the operations that are generated.
-/
namespace ApiBindings.ServicePath

/-- An expression inside a template. -/
def expression (name : List Char) : List Char := '$' :: '\x7b' :: name ++ ['\x7d']

/-- The text up to a closing brace, if there is one. -/
def braced? (text : List Char) : Option (List Char) :=
  let name := text.takeWhile (· != '\x7d')
  if name.length < text.length then some name else none

/-- Turns placeholders, `:name` up to the next slash or `{name}`, into expressions; `covered`
characters still belong to the last one. -/
def templateFrom : Nat → List Char → List Char
  | _, [] => []
  | covered + 1, _ :: rest => templateFrom covered rest
  | 0, c :: rest =>
    if c = ':' then
      let name := rest.takeWhile (· != '/')
      expression name ++ templateFrom name.length rest
    else if c = '\x7b' then
      match braced? rest with
      | some name => expression name ++ templateFrom (name.length + 1) rest
      | none => c :: templateFrom 0 rest
    else c :: templateFrom 0 rest

def template (path : String) : String := String.ofList (templateFrom 0 path.toList)

/-- The alias of the path parameter at a position. -/
def aliasAt (position : Nat) : String := "param" ++ toString position

/-- Replaces the first expression of a name by that of its alias. -/
def rename (path name newName : String) : String :=
  String.ofList (Text.replaceFirst (expression name.toList) (expression newName.toList) path.toList)

/-- Renames the path parameters one after the other, from a position on. -/
def renameAll (path : String) : Nat → List Parameter → String
  | _, [] => path
  | position, parameter :: rest =>
    renameAll (rename path parameter.name (aliasAt position)) (position + 1) rest

/-- Path parameters with their aliases. -/
def withAliases (parameters : List Parameter) : List Parameter :=
  parameters.zipIdx.map fun (parameter, position) =>
    { parameter with alias? := some (aliasAt position) }

/-- A path as it may stand inside a comment. -/
def inComment (path : String) : String :=
  String.ofList (Text.replaceAll ['*'] "&#42;".toList path.toList)

def isQuote (c : Char) : Bool := c == '\'' || c == '"' || c.toNat == 96

/-- Whether a path starts with a literal, with or without a slash before it. -/
def startsWith (literal path : List Char) : Bool :=
  literal.isPrefixOf path || ('/' :: literal).isPrefixOf path

/-- Puts a prefix before a path: a quoted one as it is, unless the path starts with it, and any
other as an expression. -/
def withPrefix (apiPrefix path : List Char) : List Char :=
  match apiPrefix with
  | [] => path
  | c :: rest =>
    if isQuote c then
      let literal := rest.dropLast
      if startsWith literal path then path else literal ++ path
    else expression apiPrefix ++ path

/-- The prefix of one operation, without blanks around it. -/
def prefixText (apiPrefix : Option ApiPrefix) (context : PrefixContext) : List Char :=
  match apiPrefix with
  | none => []
  | some (.fixed text) => Text.trimBlanks text.toList
  | some (.computed rule) => Text.trimBlanks (rule context).toList

/-- The path of a function with the configured prefix. -/
def prefixed (apiPrefix : Option ApiPrefix) (context : PrefixContext) : String :=
  String.ofList (withPrefix (prefixText apiPrefix context) context.path.toList)

/-- Whether a prefix is configured at all. -/
def hasPrefix : Option ApiPrefix → Bool
  | none => false
  | some (.fixed text) => text != ""
  | some (.computed _) => true

/-- What stands for a placeholder when paths are compared. -/
def neutral : List Char := ['_', '_']

/-- Makes all placeholders equal, with or without a dollar before the brace; `covered`
characters still belong to the last one. -/
def neutralizeFrom : Nat → List Char → List Char
  | _, [] => []
  | covered + 1, _ :: rest => neutralizeFrom covered rest
  | 0, '$' :: '\x7b' :: rest =>
    match braced? rest with
    | some name => neutral ++ neutralizeFrom (name.length + 2) ('\x7b' :: rest)
    | none => '$' :: neutralizeFrom 0 ('\x7b' :: rest)
  | 0, c :: rest =>
    if c = '\x7b' then
      match braced? rest with
      | some name => neutral ++ neutralizeFrom (name.length + 1) rest
      | none => c :: neutralizeFrom 0 rest
    else c :: neutralizeFrom 0 rest

def neutralize (path : String) : List Char := neutralizeFrom 0 path.toList

/-- Whether a path ends with one of the wanted ones, whatever the names of placeholders. -/
def isWanted (wanted : List String) (path : String) : Bool :=
  wanted.isEmpty || wanted.any fun ending => (neutralize ending).isSuffixOf (neutralize path)

/-- Whether a path of the document holds an expression already; such operations are left out. -/
def hasExpression (path : String) : Bool := Text.occursIn ['$', '\x7b'] path.toList

end ApiBindings.ServicePath
