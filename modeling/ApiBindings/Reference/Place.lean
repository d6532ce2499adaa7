import ApiBindings.Document.Node

/-!
# Places in a document

A node is found by the steps that lead to it from the root. A text that names a node and uses it
again makes one object that stands at several places. What asks for an object by its identity then
must not go by the place it was found at, so the places of such objects are kept beside the
document: each with the place at which the object stands first.
-/
namespace ApiBindings

inductive Step
  | key (name : String)
  | index (position : Nat)
  deriving DecidableEq, Repr

/-- A place in the document or in a node outside of it. -/
structure Spot where
  inDocument : Bool
  steps : List Step
  deriving DecidableEq, Repr

namespace Spot

def root (inDocument : Bool) : Spot := ⟨inDocument, []⟩

/-- The place one step below another. -/
def below (spot : Spot) (step : Step) : Spot := ⟨spot.inDocument, spot.steps ++ [step]⟩

end Spot

/-- A node and where it stands: in the document, by the steps from its root, or outside. -/
structure Located where
  inDocument : Bool
  steps : List Step
  node : Node
  deriving Repr

namespace Located

def root (document : Node) : Located := ⟨true, [], document⟩

def outside (node : Node) : Located := ⟨false, [], node⟩

def spot (located : Located) : Spot := ⟨located.inDocument, located.steps⟩

/-- The member of an object, with null for a missing one. -/
def field (located : Located) (key : String) : Located :=
  ⟨located.inDocument, located.steps ++ [.key key], located.node.field key⟩

/-- The items of a list. -/
def items (located : Located) : List Located :=
  match located.node with
  | .list items =>
    items.zipIdx.map fun (item, position) =>
      ⟨located.inDocument, located.steps ++ [.index position], item⟩
  | _ => []

end Located

/-- Places at which an object stands again, each with the place at which it stands first. Only
roots and places one step below a first place are listed: what is inside of an object that stands
again is shared with it. -/
abbrev Sharing := List (Spot × Spot)

namespace Sharing

/-- The first place of the object at a root or one step below a first place. -/
def listed (sharing : Sharing) (spot : Spot) : Spot := (sharing.lookup spot).getD spot

/-- The place at which the object at a place stands first. -/
def firstSpot (sharing : Sharing) (spot : Spot) : Spot :=
  spot.steps.foldl (fun above step => sharing.listed (above.below step))
    (sharing.listed (.root spot.inDocument))

/-- What tells an object from all others: the place at which it stands first. -/
def identity (sharing : Sharing) (located : Located) : Spot := sharing.firstSpot located.spot

end Sharing

/-- A document as it was read. -/
structure LoadedDocument where
  root : Node
  sharing : Sharing

end ApiBindings
