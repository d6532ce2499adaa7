import ApiBindings.Declaration.Builder
import ApiBindings.Emission.Output

/-!
# A whole run

A run resolves the document into declarations and tag groups before anything is written, so a
document that cannot be resolved leaves the output as it was.
-/
namespace ApiBindings

variable [Text.Romanization]

/-- What a document is resolved into. -/
structure ServiceModel where
  declarations : List Declaration
  groups : List TagGroup
  mappings : List GatewayMapping
  deriving Repr

namespace ServiceModel

/-- Resolves a document: declarations first, then groups. -/
def ofDocument (document : Node) (sharing : Sharing) (settings : Settings) :
    Attempt ServiceModel := do
  let declarations ← (← DeclarationBuilder.create document settings).declarations
  let builder ← ServiceBuilder.create document sharing settings
  match ← (builder.groups : Noted (Except Failure (List TagGroup) × List GatewayMapping)) with
  | (.error failure, _) => throw failure
  | (.ok groups, mappings) => return ⟨declarations, groups, mappings⟩

def plan (model : ServiceModel) (settings : Settings) : List PlannedFile :=
  PlannedFile.plan settings model.declarations model.groups

end ServiceModel

namespace Settings

/-- The directory the generated files go to. -/
def projectPath (settings : Settings) : FileName :=
  FileName.read settings.output ++ FileName.read settings.projectName

end Settings

namespace Generation

variable [TemplateEngine]

/-- Generates into memory: the paths in the order they are written, and the files. -/
def preview (tree : FileTree) (settings : Settings) (document : LoadedDocument) :
    Attempt (List String × KeptFiles) := do
  let plan := (← ServiceModel.ofDocument document.root document.sharing settings).plan settings
  match KeptFiles.empty.writeAll tree settings.templatesFolder plan with
  | .ok kept => return (plan.map PlannedFile.path, kept)
  | .error failure => throw failure

/-- Generates into a directory tree: the tree afterwards, and the names of the written files or
the failure that ended the run. -/
def write (tree : FileTree) (settings : Settings) (document : Except Failure LoadedDocument) :
    FileTree × Except Failure (List String) :=
  match document with
  | .error failure => (tree, .error failure)
  | .ok document =>
    match (ServiceModel.ofDocument document.root document.sharing settings).outcome with
    | .error failure => (tree, .error failure)
    | .ok model =>
      tree.writePlan settings.templatesFolder settings.projectPath (model.plan settings)

end Generation

end ApiBindings
