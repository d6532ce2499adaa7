import ApiBindings.Failure
import ApiBindings.File.Tree
import ApiBindings.Json.Reader
import ApiBindings.Reference.Place
import ApiBindings.Source.Response

/-!
# Loading documents

A document comes from the web or from a file and is JSON or YAML. It has to be an object;
nothing else about it is checked. How the web answers and how YAML is read are not settled here.
-/
namespace ApiBindings

/-- A reader of YAML. -/
class YamlReader where
  read : String → Except FormatError LoadedDocument

namespace Source

variable [YamlReader]

/-- The web as far as it is known: the answer to a request for an address. -/
abbrev Web := String → WebAnswer

/-- A JSON text has no aliases. -/
def json (text : String) : Except Cause LoadedDocument :=
  match Json.read text with
  | .ok node => .ok ⟨node, []⟩
  | .error error => .error (.told (error.message text.toList))

def yaml (text : String) : Except Cause LoadedDocument :=
  (YamlReader.read text).mapError .format

/-- What is told when a response came although the address has no host. -/
def noHost (url : Url) : String :=
  "unknown url type: " ++ String.ofList (Text.quoted url.display.toList)

/-- A document from the web, with one request. -/
def fromWeb (web : Web) (source : String) : Except Cause LoadedDocument :=
  match Url.read? source with
  | none => .error .badAddress
  | some url =>
    match web url.display with
    | .failed reason => .error (.told reason)
    | .refused reason => .error (.told (if url.hasHost then reason else noHost url))
    | .response response =>
      if !url.hasHost then .error (.told (noHost url))
      else if response.isYaml source then yaml response.body
      else json response.body

def textOf (content : List UInt8) : Except Cause String :=
  (FileTree.textOf content).mapError fun error => .told error.message

def yamlExtensions : List String := [".yaml", ".yml"]

/-- A document from a file; a relative name is looked up below a base. -/
def fromFile (tree : FileTree) (base : FileName) (source : String) :
    Except Cause LoadedDocument := do
  let name := base ++ FileName.read source
  let system (error : SystemError) : Cause := .system error name.display
  if !(← (tree.present name).mapError system) then
    throw (.told ("File not found: " ++ name.display))
  else
    let text ← textOf (← (tree.read name).mapError system)
    if yamlExtensions.contains (String.ofList (Text.lower name.extension.toList)) then yaml text
    else json text

/-- The document at a source, whatever it holds. -/
def content (web : Web) (tree : FileTree) (base : FileName) (source : String) :
    Except Cause LoadedDocument :=
  if Url.isWeb source then fromWeb web source else fromFile tree base source

/-- The document at a source, which has to be an object. -/
def load (web : Web) (tree : FileTree) (base : FileName) (source : String) :
    Except Failure LoadedDocument :=
  match content web tree base source with
  | .error cause => .error (.load source (some cause))
  | .ok document =>
    match document.root with
    | .object _ => .ok document
    | _ => .error (.load source (some (.told "document root is not a mapping")))

end Source

namespace FileTree

/-- The working directory by its full name. -/
def workingName (tree : FileTree) : FileName := ⟨"/", tree.working⟩

end FileTree

end ApiBindings
