import ApiBindings.CommandLine.Arguments
import ApiBindings.Configuration.Find
import ApiBindings.Console.Table
import ApiBindings.Generation

/-!
# Running a command

A run prints lines and may change the directory tree. A failure of the work itself is told and
ends the run with status 1; anything else that goes wrong breaks the run off without a word, and
what was printed before stays. Wrong usage prints nothing either and has a status of its own.
-/
namespace ApiBindings

/-- What breaks a run off. -/
inductive Breakdown
  | failure (failure : Failure)
  /-- A text to be printed closes a style that is not open. -/
  | unmatchedTag (tag : Console.UnmatchedTag)
  deriving DecidableEq, Repr

structure RunResult where
  lines : List String
  status : UInt8
  tree : FileTree
  breakdown : Option Breakdown
  deriving Repr

namespace Failure

/-- Whether a failure is told to the user, and not taken for a fault of the program. -/
def isTold : Failure → Bool
  | .misfit _ | .format _ | .invalid _ | .notUtf8 _ | .notEncodable _ | .nulInName | .system ..
  | .rendering _ => false
  | .general _ | .schema _ | .unresolved .. | .cyclic .. | .load .. | .generation .. | .endpoint ..
  | .configuration .. | .output .. => true

end Failure

namespace Command

variable [Text.Romanization] [YamlReader] [Configuration.Validator] [TemplateEngine]

/-- Where commands run. -/
structure Surroundings where
  web : Source.Web
  environment : Environment

def done (tree : FileTree) (lines : List String) : RunResult := ⟨lines, 0, tree, none⟩

def broken (tree : FileTree) (lines : List String) (breakdown : Breakdown) : RunResult :=
  ⟨lines, 1, tree, some breakdown⟩

/-- Ends a run with a failure. -/
def failed (tree : FileTree) (lines : List String) (failure : Failure) : RunResult :=
  if failure.isTold then
    match Console.lines ("[red]Error:[/red] " ++ failure.message) with
    | .ok told => ⟨lines ++ told, 1, tree, none⟩
    | .error tag => broken tree lines (.unmatchedTag tag)
  else broken tree lines (.failure failure)

/-- What is told about the files of a document. -/
def filesWritten (written : List String) : List String :=
  "[dim]Generated files:[/dim]" :: written.map fun path => "  - " ++ path

/-- Prints texts one after the other; those before a text with a wrong tag are printed. -/
def printAll : List String → List String × Option Console.UnmatchedTag
  | [] => ([], none)
  | text :: rest =>
    match Console.lines text with
    | .error tag => ([], some tag)
    | .ok lines =>
      let (others, tag) := printAll rest
      (lines ++ others, tag)

/-- What is shown as long as a document is being generated; it is not among the lines of a run,
but its tags have to match. -/
def announcement (settings : Settings) : String :=
  "[progress.description]Generating services for " ++ settings.source ++ " in "
    ++ settings.projectPath.display ++ "..."

/-- Generates document after document; `printed` is what the ones before have printed. -/
def generateAll (web : Source.Web) (tree : FileTree) (printed : List String) :
    List Settings → RunResult
  | [] => done tree printed
  | settings :: rest =>
    match Console.plain (announcement settings) with
    | .error tag => broken tree printed (.unmatchedTag tag)
    | .ok _ =>
      let loaded := Source.load web tree tree.workingName settings.source
      match Generation.write tree settings loaded with
      | (tree, .error failure) => failed tree printed failure
      | (tree, .ok written) =>
        match printAll (filesWritten written) with
        | (lines, some tag) => broken tree (printed ++ lines) (.unmatchedTag tag)
        | (lines, none) => generateAll web tree (printed ++ lines) rest

/-- The operations of a model as a table. -/
def operationTable (model : ServiceModel) : Console.Table where
  title := "Operations"
  columns := ["Class", "Function", "Method", "Path", "Response"]
  rows := model.groups.flatMap fun group => group.entries.map fun entry =>
    [group.className, entry.functionName, String.ofList (Text.upper entry.method.toList),
      entry.path, entry.response.type]

/-- The declarations of a model as a table. -/
def declarationTable (model : ServiceModel) : Console.Table where
  title := "Declarations"
  columns := ["Type", "Kind", "Extends"]
  rows := model.declarations.map fun declaration =>
    [declaration.typeName, declaration.body.kind.word, ", ".intercalate declaration.body.parents]

/-- Prints both tables of a model. -/
def showModel (tree : FileTree) (model : ServiceModel) : RunResult :=
  match (operationTable model).lines, (declarationTable model).lines with
  | .ok operations, .ok declarations => done tree (operations ++ declarations)
  | .ok operations, .error tag => broken tree operations (.unmatchedTag tag)
  | .error tag, _ => broken tree [] (.unmatchedTag tag)

/-- The model of the document that settings name. -/
def modelOf (web : Source.Web) (tree : FileTree) (settings : Settings) :
    Except Failure ServiceModel := do
  let document ← Source.load web tree tree.workingName settings.source
  (ServiceModel.ofDocument document.root document.sharing settings).outcome

def run (surroundings : Surroundings) (tree : FileTree) : Command → RunResult
  | .generate configuration =>
    match Configuration.find surroundings.environment tree configuration with
    | .error failure => failed tree [] failure
    | .ok documents => generateAll surroundings.web tree [] documents
  | .inspect source namespaceName =>
    let settings := { Settings.ofSource source with namespaceName := namespaceName }
    match modelOf surroundings.web tree settings with
    | .error failure => failed tree [] failure
    | .ok model => showModel tree model

/-- The status of a run with arguments that make no command. -/
def usageStatus : UInt8 := 2

/-- Runs the command that arguments stand for. -/
def runArguments (surroundings : Surroundings) (tree : FileTree) (arguments : List String) :
    RunResult :=
  match read? arguments with
  | some command => command.run surroundings tree
  | none => ⟨[], usageStatus, tree, none⟩

end Command

end ApiBindings
