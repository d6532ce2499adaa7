import ApiBindings.File.Name
import ApiBindings.Text.Utf8
import ApiBindings.Text.CodePoint

/-!
# Directory trees

A tree maps places, lists of parts from the root, to files and directories. Names are looked up
part by part from the working directory, and every step has to start in a directory. All changes
are functions from trees to trees, so what a failed sequence of steps leaves behind is a value.
-/
namespace ApiBindings

/-- What a file system answers when it cannot do something. -/
inductive SystemError
  | noEntry
  | exists
  | notDirectory
  | isDirectory
  | nameTooLong
  deriving DecidableEq, Repr

namespace SystemError

def number : SystemError → Nat
  | .noEntry => 2
  | .exists => 17
  | .notDirectory => 20
  | .isDirectory => 21
  | .nameTooLong => 36

def text : SystemError → String
  | .noEntry => "No such file or directory"
  | .exists => "File exists"
  | .notDirectory => "Not a directory"
  | .isDirectory => "Is a directory"
  | .nameTooLong => "File name too long"

/-- The error with the name it is about. -/
def message (error : SystemError) (name : String) : String :=
  "[Errno " ++ toString error.number ++ "] " ++ error.text ++ ": "
    ++ String.ofList (Text.quoted name.toList)

end SystemError

inductive FileEntry
  | directory
  | file (content : List UInt8)
  deriving DecidableEq, Repr

/-- A file system as far as it is known: the entries below the root, which is a directory
itself, and the working directory. -/
structure FileTree where
  entries : List (List String × FileEntry)
  working : List String
  deriving Repr

namespace FileTree

/-- A tree with nothing but the working directory and those above it. -/
def ofWorking (working : List String) : FileTree :=
  ⟨((List.range working.length).map fun count => (working.take (count + 1), .directory)), working⟩

/-- The most bytes one part of a name may have. -/
def partLimit : Nat := 255

def entry? (tree : FileTree) (place : List String) : Option FileEntry :=
  if place = [] then some .directory else tree.entries.lookup place

/-- The place one part further. -/
def enter (tree : FileTree) (place : List String) (part : String) :
    Except SystemError (List String) :=
  match tree.entry? place with
  | none => .error .noEntry
  | some (.file _) => .error .notDirectory
  | some .directory =>
    if Utf8.nameSize part > partLimit then .error .nameTooLong
    else if part = ".." then .ok place.dropLast
    else .ok (place ++ [part])

/-- The place a name stands for; all but the last part have to exist. -/
def locate (tree : FileTree) (name : FileName) : Except SystemError (List String) :=
  name.parts.foldlM tree.enter (if name.isAbsolute then [] else tree.working)

/-- The entry a name stands for. -/
def look (tree : FileTree) (name : FileName) : Except SystemError FileEntry := do
  match tree.entry? (← tree.locate name) with
  | some entry => return entry
  | none => throw .noEntry

/-- Whether a name stands for anything; only a part that is too long is an error. -/
def present (tree : FileTree) (name : FileName) : Except SystemError Bool :=
  match tree.look name with
  | .ok _ => .ok true
  | .error .nameTooLong => .error .nameTooLong
  | .error _ => .ok false

def isDirectory (tree : FileTree) (name : FileName) : Bool :=
  match tree.look name with
  | .ok .directory => true
  | _ => false

/-- The content of a file. -/
def read (tree : FileTree) (name : FileName) : Except SystemError (List UInt8) := do
  match ← tree.look name with
  | .file content => return content
  | .directory => throw .isDirectory

/-- Puts an entry at a place, which keeps its position if it is taken. -/
def put (place : List String) (entry : FileEntry) :
    List (List String × FileEntry) → List (List String × FileEntry)
  | [] => [(place, entry)]
  | (other, old) :: rest =>
    if other = place then (other, entry) :: rest else (other, old) :: put place entry rest

def set (tree : FileTree) (place : List String) (entry : FileEntry) : FileTree :=
  { tree with entries := put place entry tree.entries }

/-- Makes one directory. -/
def makeDirectory (tree : FileTree) (name : FileName) : Except SystemError FileTree := do
  let place ← tree.locate name
  match tree.entry? place with
  | some _ => throw .exists
  | none => return tree.set place .directory

/-- An error with the name it is about. -/
abbrev NamedError := SystemError × FileName

/-- What an error means for a directory that only has to be there. -/
def orThere (tree : FileTree) (name : FileName) (error : SystemError) :
    FileTree × Option NamedError :=
  (tree, if tree.isDirectory name then none else some (error, name))

/-- Makes a directory and those above it that are missing; one that is there already will do.
The parts are given last first. The tree is what was made until an error. -/
def makeDirectories (tree : FileTree) (root : String) : List String → FileTree × Option NamedError
  | [] =>
    match tree.makeDirectory ⟨root, []⟩ with
    | .ok tree => (tree, none)
    | .error error => tree.orThere ⟨root, []⟩ error
  | part :: above =>
    let name : FileName := ⟨root, (part :: above).reverse⟩
    match tree.makeDirectory name with
    | .ok tree => (tree, none)
    | .error .noEntry =>
      match tree.makeDirectories root above with
      | (tree, some error) => (tree, some error)
      | (tree, none) =>
        match tree.makeDirectory name with
        | .ok tree => (tree, none)
        | .error error => tree.orThere name error
    | .error error => tree.orThere name error

/-- Writes a file, in place of one that is there. -/
def writeFile (tree : FileTree) (name : FileName) (content : List UInt8) :
    Except SystemError FileTree := do
  let place ← tree.locate name
  match tree.entry? place with
  | some .directory => throw .isDirectory
  | _ => return tree.set place (.file content)

/-- Removes a file. -/
def removeFile (tree : FileTree) (place : List String) : FileTree :=
  { tree with entries := tree.entries.filter fun entry => decide (entry.1 ≠ place) }

/-- Writes a file below directories that are made where they are missing. A file with the same
name is removed first. -/
def store (tree : FileTree) (name : FileName) (content : List UInt8) :
    FileTree × Option NamedError :=
  match tree.makeDirectories name.root name.parts.dropLast.reverse with
  | (tree, some error) => (tree, some error)
  | (tree, none) =>
    match tree.present name with
    | .error error => (tree, some (error, name))
    | .ok present =>
      let cleared : FileTree :=
        if present && !tree.isDirectory name then
          match tree.locate name with
          | .ok place => tree.removeFile place
          | .error _ => tree
        else tree
      match cleared.writeFile name content with
      | .ok tree => (tree, none)
      | .error error => (cleared, some (error, name))

/-- The files below the working directory with their names, sorted. -/
def files (tree : FileTree) : List (String × List UInt8) :=
  let below := tree.entries.filterMap fun (place, entry) =>
    match entry with
    | .file content =>
      if tree.working.isPrefixOf place ∧ place.length > tree.working.length then
        some ("/".intercalate (place.drop tree.working.length), content)
      else none
    | .directory => none
  Text.sortBy (·.1) below

/-- Line ends of all systems as one. -/
def oneLineEnd : List Char → List Char
  | [] => []
  | '\r' :: '\n' :: rest => '\n' :: oneLineEnd rest
  | '\r' :: rest => '\n' :: oneLineEnd rest
  | c :: rest => c :: oneLineEnd rest

/-- The text that the content of a file stands for, with one kind of line end. -/
def textOf (content : List UInt8) : Except Utf8.DecodeError String :=
  (Utf8.decode content).map fun text => String.ofList (oneLineEnd text)

end FileTree

end ApiBindings
