import ApiBindings.Text.Pieces

/-!
# File names

A file name is a root and the parts below it. Reading a name drops empty parts and single dots
but keeps double dots, which only a file system can resolve; two slashes at the start are a root
of their own. A name without root and parts is written as a dot.
-/
namespace ApiBindings

structure FileName where
  root : String
  parts : List String
  deriving DecidableEq, Repr, Inhabited

namespace FileName

def rootOf (text : List Char) : String :=
  match text with
  | '/' :: '/' :: '/' :: _ => "/"
  | '/' :: '/' :: _ => "//"
  | '/' :: _ => "/"
  | _ => ""

def read (text : String) : FileName :=
  ⟨rootOf text.toList, ((Text.cut '/' text.toList).map String.ofList).filter fun part =>
    part ≠ "" ∧ part ≠ "."⟩

def display (name : FileName) : String :=
  if name.root = "" ∧ name.parts = [] then "."
  else name.root ++ "/".intercalate name.parts

def isAbsolute (name : FileName) : Bool := name.root ≠ ""

/-- A name below another; an absolute one stands alone. -/
def join (base name : FileName) : FileName :=
  if name.isAbsolute then name else ⟨base.root, base.parts ++ name.parts⟩

instance : Append FileName := ⟨join⟩

/-- The name without its last part. -/
def parent (name : FileName) : FileName := ⟨name.root, name.parts.dropLast⟩

def last (name : FileName) : String := name.parts.getLastD ""

/-- The end of the last part from its last point on, if something stands on both sides of it. -/
def extension (name : FileName) : String :=
  let text := name.last.toList
  match Text.lastIndexOf? ['.'] text with
  | some index =>
    if 0 < index ∧ index + 1 < text.length then String.ofList (text.drop index) else ""
  | none => ""

end FileName

end ApiBindings
