import ApiBindings.CommandLine.Run
import ApiBindings.Configuration.Check
import ApiBindings.Yaml.Value

/-!
# The program

The working directory is read as a whole, the command runs on what was read, and the files that
are new or changed are written. The program neither reaches the web nor reads ideographs, it fills
nothing into templates from elsewhere, and files outside the working directory are not there for it.
-/
namespace ApiBindings.Main

/-- The bytes between zeros. -/
def cutAtZeros (bytes : List UInt8) : List (List UInt8) :=
  bytes.foldr (fun byte pieces =>
    match byte == 0, pieces with
    | true, _ => [] :: pieces
    | false, piece :: rest => (byte :: piece) :: rest
    | false, [] => [[byte]]) [[]]

/-- A variable from its name and value with an equals sign between them. -/
def assignment? (bytes : List UInt8) : Option (String × String) :=
  match Utf8.decode bytes with
  | .error _ => none
  | .ok text =>
    let name := Text.firstPiece '=' text
    if name = text then none
    else some (String.ofList name, String.ofList (text.drop (name.length + 1)))

def environment : IO Environment := do
  try
    let bytes ← IO.FS.readBinFile "/proc/self/environ"
    return (cutAtZeros bytes.toList).filterMap assignment?
  catch _ => return []

/-- Adds what is in a directory to a tree; what cannot be read is left out. -/
partial def readInto (place : List String) (directory : IO.FS.DirEntry) (tree : FileTree) :
    IO FileTree := do
  let mut tree := tree
  for entry in ← directory.path.readDir do
    let below := place ++ [entry.fileName]
    if ← entry.path.isDir then
      tree ← readInto below entry (tree.set below .directory)
    else
      try
        let content ← IO.FS.readBinFile entry.path
        tree := tree.set below (.file content.toList)
      catch _ => continue
  return tree

/-- The working directory with all that is in it. -/
def workingTree : IO FileTree := do
  let working := (FileName.read (← IO.currentDir).toString).parts
  readInto working ⟨".", "."⟩ (FileTree.ofWorking working)

/-- Writes the entries that a tree has and another has not. -/
def writeChanges (old new : FileTree) : IO Unit := do
  for (place, entry) in new.entries do
    if old.entry? place ≠ some entry then
      let name := (⟨"/", place⟩ : FileName).display
      match entry with
      | .directory => IO.FS.createDirAll name
      | .file content => IO.FS.writeBinFile name ⟨content.toArray⟩

def noWeb : Source.Web := fun _ => .failed "the web cannot be reached"

/-- No table of readings is at hand, so ideographs stay in names. -/
@[reducible] def noReadings : Text.Romanization := ⟨id⟩

def breakdownMessage : Breakdown → String
  | .failure failure => failure.message
  | .unmatchedTag tag => tag.tag

end ApiBindings.Main

open ApiBindings in
def main (arguments : List String) : IO UInt32 := do
  let _ := Main.noReadings
  let _ := Yaml.reader
  let _ := Configuration.validator
  let _ := TemplateEngine.verbatim
  let tree ← Main.workingTree
  let result := Command.runArguments ⟨Main.noWeb, ← Main.environment⟩ tree arguments
  Main.writeChanges tree result.tree
  for line in result.lines do
    IO.println line
  match result.breakdown with
  | some breakdown => IO.eprintln (Main.breakdownMessage breakdown)
  | none => pure ()
  return result.status.toUInt32
