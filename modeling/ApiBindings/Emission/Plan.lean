import ApiBindings.Emission.Context

/-!
# Planned files

What a run writes is a plan first: for every file its path below the project directory and what its
template is filled with. The declarations come first, then the functions of
each group with the index of the group behind them, then the index of all classes. Groups of
one class name share a directory and one line of the last index.
-/
namespace ApiBindings

structure PlannedFile where
  /-- The path below the project directory, with slashes. -/
  path : String
  context : TemplateContext
  deriving Repr

namespace PlannedFile

/-- The text if the template is not replaced. -/
def text (file : PlannedFile) : String := file.context.text

def ofDeclarations (settings : Settings) (declarations : List Declaration) : PlannedFile :=
  ⟨"typings.d.ts", .interface settings.namespaceName settings.nullable declarations⟩

/-- The directory of a group. -/
def directory (group : TagGroup) : String := group.className ++ "/"

/-- The file of one function. -/
def ofEntry (settings : Settings) (group : TagGroup) (entry : Entry) : PlannedFile :=
  ⟨directory group ++ Spelling.file (entry.functionName ++ "." ++ TagGroup.language),
    .serviceController settings.namespaceName settings.requestImportStatement group.className
      group.instanceName entry⟩

def sortByFunction (entries : List Entry) : List Entry :=
  Text.sortBy Entry.functionName entries

def functionItem (entry : Entry) : IndexItem :=
  ⟨entry.functionName, Spelling.file entry.functionName⟩

/-- The index of the functions of a group, in the order of their names. -/
def indexOf (group : TagGroup) : PlannedFile :=
  ⟨directory group ++ "index.ts", .apiIndex ((sortByFunction group.entries).map functionItem)⟩

def classNames (groups : List TagGroup) : List String :=
  Text.sortBy id (groups.map TagGroup.className).eraseDups

/-- The index of all classes. -/
def indexOfClasses (groups : List TagGroup) : PlannedFile :=
  ⟨"index.ts", .serviceIndex ((classNames groups).map fun name => ⟨name, name⟩)⟩

/-- The files of one group. -/
def ofGroup (settings : Settings) (group : TagGroup) : List PlannedFile :=
  group.entries.map (ofEntry settings group) ++ [indexOf group]

/-- All files of a run in the order they are written. -/
def plan (settings : Settings) (declarations : List Declaration) (groups : List TagGroup) :
    List PlannedFile :=
  ofDeclarations settings declarations
    :: groups.flatMap (ofGroup settings) ++ [indexOfClasses groups]

end PlannedFile

end ApiBindings
