import ApiBindings.Emission.Plan

/-!
# Writing planned files

Planned files are kept in memory or written to a directory tree. A folder may hold files that
replace templates; such a file is looked up and rendered when the planned file is written. Writing
stops at the first file that cannot be written, and what was written before stays.
-/
namespace ApiBindings

variable [TemplateEngine]

namespace TemplateName

/-- The file that replaces a template, if the folder holds one. -/
def replacement? (tree : FileTree) (folder : Option String) (name : TemplateName) :
    Option (FileName × List UInt8) :=
  match folder.filter (· ≠ "") with
  | none => none
  | some folder =>
    match tree.look (FileName.read folder ++ ⟨"", [name.fileName]⟩) with
    | .ok (.file content) => some (FileName.read folder, content)
    | _ => none

end TemplateName

namespace PlannedFile

/-- The text a file gets: that of its template, or what the file that replaces it is rendered to. -/
def finalText (tree : FileTree) (folder : Option String) (file : PlannedFile) :
    Except Failure String :=
  match file.context.template.replacement? tree folder with
  | none => .ok file.text
  | some (folder, content) => do
    let text ← (FileTree.textOf content).mapError .notUtf8
    (TemplateEngine.render tree folder text file.context).mapError
      (RenderError.failure file.context.template)

end PlannedFile

/-- Files in memory, in the order in which their paths were first written. -/
structure KeptFiles where
  files : List (String × String)
  deriving Repr

namespace KeptFiles

def empty : KeptFiles := ⟨[]⟩

/-- Puts a text at a path, which keeps its place if it is taken. -/
def put (path text : String) : List (String × String) → List (String × String)
  | [] => [(path, text)]
  | (other, old) :: rest =>
    if other = path then (other, text) :: rest else (other, old) :: put path text rest

def write (kept : KeptFiles) (path text : String) : KeptFiles := ⟨put path text kept.files⟩

def get? (kept : KeptFiles) (path : String) : Option String := kept.files.lookup path

/-- Keeps planned files; the templates' own texts are taken where the tree replaces none. -/
def writeAll (tree : FileTree) (folder : Option String) (kept : KeptFiles)
    (plan : List PlannedFile) : Except Failure KeptFiles :=
  plan.foldlM (fun kept file => return kept.write file.path (← file.finalText tree folder)) kept

end KeptFiles

namespace FileTree

def hasNul (part : String) : Bool := part.toList.contains '\x00'

/-- A failure to write the file with this name. -/
def outputFailure (name : FileName) (error : NamedError) : Failure :=
  .output name.display (some (.system error.1 error.2.display))

/-- Why no file system takes a name. -/
def nameFailure? (name : FileName) : Option Failure :=
  if name.parts.all fun part => part.toList.all Utf8.isNameable then
    if name.parts.any hasNul then some .nulInName else none
  else some (.notEncodable (Utf8.halves Utf8.isNameByte name.display.toList))

/-- What is left in the file of a text, and whether this is the text. -/
def contentOf (text : String) : List UInt8 × Except Failure Unit :=
  match Utf8.encode text with
  | .ok bytes => (bytes, .ok ())
  | .error error => ([], .error (.notEncodable error))

/-- Writes one generated file and the directories above it. A text without bytes leaves an empty
file. -/
def writeOutput (tree : FileTree) (name : FileName) (text : String) :
    FileTree × Except Failure Unit :=
  match nameFailure? name.parent, nameFailure? name with
  | some failure, _ => (tree, .error failure)
  | none, some failure =>
    match tree.makeDirectories name.root name.parts.dropLast.reverse with
    | (tree, some error) => (tree, .error (outputFailure name error))
    | (tree, none) => (tree, .error failure)
  | none, none =>
    match tree.store name (contentOf text).1 with
    | (tree, some error) => (tree, .error (outputFailure name error))
    | (tree, none) => (tree, (contentOf text).2)

/-- Writes planned files below a directory until one fails; gives their names. -/
def writePlan (folder : Option String) (directory : FileName) :
    List PlannedFile → FileTree → FileTree × Except Failure (List String)
  | [], tree => (tree, .ok [])
  | file :: rest, tree =>
    match file.finalText tree folder with
    | .error failure => (tree, .error failure)
    | .ok text =>
      let name := directory ++ FileName.read file.path
      match tree.writeOutput name text with
      | (tree, .error failure) => (tree, .error failure)
      | (tree, .ok ()) =>
        match writePlan folder directory rest tree with
        | (tree, .error failure) => (tree, .error failure)
        | (tree, .ok written) => (tree, .ok (name.display :: written))

end FileTree

end ApiBindings
