import ApiBindings.Document.Node
import ApiBindings.Toml.Text

/-!
# Tables under construction

The headers and keys of a TOML text open tables, and whether a table may be opened again
depends on how it came to be:

* a table that lies on the way to another one may still be declared by a header, once;
* a table that was opened by the points of a key may be opened again by keys of the same part
  of the text, and by nothing else;
* a table that was declared is never opened by the points of a key;
* a value that was written out is never changed.

Tables in a list are added by headers; whatever goes below the list goes into the last of them.
-/
namespace ApiBindings.Toml

/-- How a table came to be. Parts of a text are counted by its headers. -/
inductive Standing
  | implied
  | opened (part : Nat)
  | declared
  deriving DecidableEq, Repr

inductive Slot
  | value (node : Node)
  | table (standing : Standing) (slots : List (String × Slot))
  | tables (before : List (List (String × Slot))) (last : List (String × Slot))

abbrev Table := List (String × Slot)

mutual

def Slot.toNode : Slot → Node
  | .value node => node
  | .table _ slots => .object (slotMembers slots)
  | .tables before last => .list (slotObjects before ++ [.object (slotMembers last)])

def slotMembers : List (String × Slot) → Members
  | [] => []
  | (name, slot) :: rest => (.text name, slot.toNode) :: slotMembers rest

def slotObjects : List (List (String × Slot)) → List Node
  | [] => []
  | table :: rest => .object (slotMembers table) :: slotObjects rest

end

namespace Table

def toNode (table : Table) : Node := .object (slotMembers table)

/-- Sets a slot, which keeps its position if it is there. -/
def set (name : String) (slot : Slot) : Table → Table
  | [] => [(name, slot)]
  | (other, old) :: rest =>
    if other = name then (name, slot) :: rest else (other, old) :: set name slot rest

/-- A change of a table, or none if it must not be changed so. -/
abbrev Change := Table → Option Table

/-- Changes the table below a header; tables that are missing are implied by it. -/
def changeBelow (change : Change) : List String → Change
  | [], table => change table
  | name :: path, table =>
    match table.lookup name with
    | none => do
      return table.set name (.table .implied (← changeBelow change path []))
    | some (.table standing slots) => do
      return table.set name (.table standing (← changeBelow change path slots))
    | some (.tables before last) => do
      return table.set name (.tables before (← changeBelow change path last))
    | some (.value _) => none

/-- Whether the points of a key may open a table. -/
def mayOpen (part : Nat) : Standing → Bool
  | .implied => true
  | .opened other => other == part
  | .declared => false

/-- Changes the table that the points of a key lead to, all of which are opened. -/
def changeOpened (part : Nat) (change : Change) : List String → Change
  | [], table => change table
  | name :: path, table =>
    match table.lookup name with
    | none => do
      return table.set name (.table (.opened part) (← changeOpened part change path []))
    | some (.table standing slots) =>
      if mayOpen part standing then do
        return table.set name (.table (.opened part) (← changeOpened part change path slots))
      else none
    | some _ => none

/-- Adds a member that is not there yet. -/
def add (name : String) (value : Node) : Change := fun table =>
  match table.lookup name with
  | none => some (table.set name (.value value))
  | some _ => none

/-- Declares a table. -/
def declareHere (name : String) : Change := fun table =>
  match table.lookup name with
  | none => some (table.set name (.table .declared []))
  | some (.table .implied slots) => some (table.set name (.table .declared slots))
  | some _ => none

/-- Adds an empty table to a list of tables. -/
def appendHere (name : String) : Change := fun table =>
  match table.lookup name with
  | none => some (table.set name (.tables [] []))
  | some (.tables before last) => some (table.set name (.tables (before ++ [last]) []))
  | some _ => none

def declare (key : Key) : Change := changeBelow (declareHere key.last) key.tables

def append (key : Key) : Change := changeBelow (appendHere key.last) key.tables

/-- Adds a member with a key of several parts below a header. -/
def assign (part : Nat) (header : List String) (key : Key) (value : Node) : Change :=
  changeBelow (changeOpened part (add key.last value) key.tables) header

end Table

end ApiBindings.Toml
