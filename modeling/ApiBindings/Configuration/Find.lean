import ApiBindings.Configuration.Checked
import ApiBindings.Configuration.Environment
import ApiBindings.Settings
import ApiBindings.Source.Load
import ApiBindings.Toml.Value

/-!
# Finding a configuration

A configuration is the file that is asked for. If none is, it is the first of these in the
working directory: a YAML file with one of the default names, or the tool's own table in the
file of a whole project. How YAML is read and how the data are validated are not settled here.
-/
namespace ApiBindings.Configuration

/-- A validator of configurations. It takes data in which the variables are expanded, and looks in
the environment for what is missing there. It answers with the settings of all documents or with
what is wrong with them, or else it breaks off. -/
class Validator where
  validate : Environment → Node → Except Misfit (Checked (List Settings))

variable [YamlReader] [Validator]

def defaultNames : List String := ["svcgen.yaml", "svcgen.yml"]

def projectFile : String := "pyproject.toml"

def toolsKey : String := "tool"

def toolName : String := "svcgen"

def jsonExtension : String := ".json"

/-- The text of a file that is there. -/
def textAt (tree : FileTree) (name : FileName) : Except Failure String := do
  let content ← (tree.read name).mapError fun error => .system error name.display
  (FileTree.textOf content).mapError .notUtf8

def jsonData (name : FileName) (text : String) : Except Failure Node :=
  match Json.read text with
  | .ok node => .ok node
  | .error (.at problem rest) =>
    let told := (Json.ReadError.at problem rest).message text.toList
    .error (.configuration ("Configuration file is not valid: " ++ told) name.display none
      (some (.told told)))
  | .error (.tooManyDigits count) => .error (.misfit (.tooManyDigits count))

/-- The data of a YAML file; what counts as absent stands for an empty object. -/
def yamlData (name : FileName) (text : String) : Except Failure Node :=
  match YamlReader.read text with
  | .ok document => .ok (if document.root.isPresent then document.root else .object [])
  | .error .yaml =>
    .error (.configuration "Configuration file is not valid: " name.display none
      (some (.format .yaml)))
  | .error error => .error (.format error)

/-- The data of a file, in JSON or else in YAML. -/
def dataOf (name : FileName) (text : String) : Except Failure Node :=
  if Text.lower name.extension.toList = jsonExtension.toList then jsonData name text
  else yamlData name text

def isThere (tree : FileTree) (name : FileName) : Except Failure Bool :=
  (tree.present name).mapError fun error => .system error name.display

/-- The data of a file that has to be there. -/
def dataAt (tree : FileTree) (name : FileName) : Except Failure Node := do
  if ← isThere tree name then dataOf name (← textAt tree name)
  else throw (.configuration "Configuration file not found" name.display none none)

/-- The settings that data stand for. Issues are told with the name the data came under. -/
def settingsIn (environment : Environment) (shown : String) (data : Node) :
    Except Failure (List Settings) := do
  match ← (Validator.validate environment (environment.expand data)).mapError .misfit with
  | .sound found => return found
  | .faulty issues => throw (.configuration "" shown none (some (.invalid issues)))

/-- The settings in a file of this tool. -/
def settingsAt (environment : Environment) (tree : FileTree) (shown : String) (name : FileName) :
    Except Failure (List Settings) := do
  settingsIn environment shown (← dataAt tree name)

/-- The data for this tool in the file of a project, if there are any. -/
def toolData? (project : Node) : Except Misfit (Option Node) :=
  match project.get? toolsKey with
  | none => .ok none
  | some (.object tools) => .ok (Members.get? tools toolName)
  | some (.list items) => if .text toolName ∈ items then .error (.noNames .list) else .ok none
  | some (.text value) =>
    if Text.occursIn toolName.toList value.toList then .error (.noNames .text) else .ok none
  | some (.scalar value) => .error (.noNames value.kind)

def tomlData (text : String) : Except Failure Node :=
  match Toml.read text with
  | .ok node => .ok node
  | .error .malformed => .error (.format .toml)
  | .error (.tooManyDigits count) => .error (.misfit (.tooManyDigits count))

/-- The settings in the file of a project, if it is there and has any. -/
def settingsInProject? (environment : Environment) (tree : FileTree) :
    Except Failure (Option (List Settings)) := do
  let name := tree.workingName ++ FileName.read projectFile
  if ← isThere tree name then
    let project ← tomlData (← textAt tree name)
    match ← (toolData? project).mapError .misfit with
    | some data => return some (← settingsIn environment name.display data)
    | none => return none
  else return none

/-- The first file with a default name that is there. -/
def defaultFile? (tree : FileTree) : List String → Except Failure (Option FileName)
  | [] => return none
  | candidate :: rest => do
    let name := tree.workingName ++ FileName.read candidate
    if ← isThere tree name then return some name
    else defaultFile? tree rest

/-- The settings in the working directory. -/
def settingsHere (environment : Environment) (tree : FileTree) :
    Except Failure (List Settings) := do
  match ← defaultFile? tree defaultNames with
  | some name => settingsAt environment tree name.display name
  | none =>
    match ← settingsInProject? environment tree with
    | some found => return found
    | none =>
      throw (.configuration "No svcgen configuration found" tree.workingName.display none none)

/-- The settings of all documents: those at a path, or those in the working directory if there
is no path or an empty one. -/
def find (environment : Environment) (tree : FileTree) (path : Option String) :
    Except Failure (List Settings) :=
  match Failure.given path with
  | some path => settingsAt environment tree path (FileName.read path)
  | none => settingsHere environment tree

end ApiBindings.Configuration
