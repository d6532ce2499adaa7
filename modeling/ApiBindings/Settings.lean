import ApiBindings.Name.Namer

/-!
# Settings of one document

What a run is told about one document: where it is, where the results go, and how names, types
and paths are written.
-/
namespace ApiBindings

/-- Enum schemas become enums of the generated language or unions of literals. -/
inductive EnumStyle
  | enumeration
  | literals
  deriving DecidableEq, Repr

def EnumStyle.word : EnumStyle → String
  | .enumeration => "enum"
  | .literals => "string-literal"

/-- What a computed path prefix may depend on. -/
structure PrefixContext where
  path : String
  method : String
  tag : String
  functionName : String

/-- A text that goes before every path, or a rule that gives one for each operation. -/
inductive ApiPrefix
  | fixed (text : String)
  | computed (rule : PrefixContext → String)

structure Settings where
  source : String
  output : String
  projectName : String
  namespaceName : String
  enumStyle : EnumStyle
  /-- Properties of an envelope whose schema is the response type; the first that is there. -/
  dataFields : Option (List String)
  apiPrefix : Option ApiPrefix
  /-- Ends of the paths to generate; none means all. -/
  generateApis : List String
  requestImportStatement : String
  nullable : Bool
  generateTraceId : Bool
  templatesFolder : Option String
  functionNameMaxLength : Nat
  hooks : NamingHooks

namespace Settings

/-- The settings of a document nothing else is said about. -/
def ofSource (source : String) : Settings where
  source := source
  output := "./src/service"
  projectName := "api"
  namespaceName := "API"
  enumStyle := .literals
  dataFields := none
  apiPrefix := none
  generateApis := []
  requestImportStatement := "import \x7b request \x7d from 'umi';"
  nullable := false
  generateTraceId := false
  templatesFolder := none
  functionNameMaxLength := 20
  hooks := .none

/-- The namer for a document with these settings. -/
def namer (settings : Settings) (document : Node) : Except Misfit Namer :=
  return Namer.create settings.namespaceName ((← Document.paths document).map (·.1))
    settings.hooks settings.functionNameMaxLength

end Settings

end ApiBindings
