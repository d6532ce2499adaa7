import ApiBindings.Proofs.Document.Members
import ApiBindings.Proofs.Reference.Chain
import Mathlib.Data.List.Induction

/-!
# Places in a document

The steps from the root of a document lead to one node at most. Whatever a pointer leads to stands
at its own place in the document, and stays there through all that is read off it. Where an object
stands at several places, all that is inside of it does, and what a search reads off it is the same
at each of them.
-/
namespace ApiBindings

/-- The node that steps lead to. -/
def Node.at? (node : Node) : List Step → Option Node
  | [] => some node
  | .key name :: rest => (node.get? name).bind fun next => next.at? rest
  | .index position :: rest =>
    match node with
    | .list items => items[position]?.bind fun next => next.at? rest
    | _ => none

theorem Node.at?_append (node : Node) (steps further : List Step) :
    node.at? (steps ++ further) = (node.at? steps).bind fun reached => reached.at? further := by
  induction steps generalizing node with
  | nil => rfl
  | cons step rest ih =>
    cases step with
    | key name =>
      simp only [List.cons_append, at?]
      cases node.get? name with
      | none => rfl
      | some next => exact ih next
    | index position =>
      cases node with
      | list items =>
        simp only [List.cons_append, at?]
        cases items[position]? with
        | none => rfl
        | some next => exact ih next
      | _ => rfl

namespace Located

/-- A node of the document at its own place. -/
structure StandsIn (document : Node) (located : Located) : Prop where
  inDocument : located.inDocument = true
  found : document.at? located.steps = some located.node

variable {document : Node} {located : Located}

theorem StandsIn.below (stands : StandsIn document located) {step : Step} {node : Node}
    (next : located.node.at? [step] = some node) :
    StandsIn document ⟨located.inDocument, located.steps ++ [step], node⟩ where
  inDocument := stands.inDocument
  found := by
    rw [Node.at?_append, stands.found]
    exact next

theorem StandsIn.field (stands : StandsIn document located) {key : String}
    (present : (located.node.get? key).isSome) : StandsIn document (located.field key) := by
  obtain ⟨node, held⟩ := Option.isSome_iff_exists.mp present
  have next : located.node.at? [.key key] = some node := by simp [Node.at?, held]
  have below := stands.below next
  rw [Located.field, Node.field, held]
  exact below

/-- Each item of a list stands one step below it. -/
theorem exists_step_of_items {item : Located} (member : item ∈ located.items) :
    ∃ step, item = ⟨located.inDocument, located.steps ++ [step], item.node⟩ ∧
      located.node.at? [step] = some item.node := by
  unfold Located.items at member
  split at member
  · rename_i items isList
    obtain ⟨⟨node, position⟩, held, rfl⟩ := List.mem_map.mp member
    have placed : items[position]? = some node := List.mem_zipIdx_iff_getElem?.mp held
    exact ⟨.index position, rfl, by simp [Node.at?, isList, placed]⟩
  · simp at member

end Located

open Located

namespace Pointer

variable {document : Node}

/-- A step leads one step below the place it is made from. -/
theorem step_ok {current next : Located} {part : List Char}
    (stepped : step current part = .ok (some next)) :
    ∃ step node, next = ⟨current.inDocument, current.steps ++ [step], node⟩ ∧
      current.node.at? [step] = some node := by
  unfold step at stepped
  split at stepped
  · rename_i members isObject
    simp only [Except.ok.injEq, Option.map_eq_some_iff] at stepped
    obtain ⟨node, held, rfl⟩ := stepped
    exact ⟨_, node, rfl, by simp [Node.at?, Node.get?, Node.members?, isObject, held]⟩
  · rename_i items isList
    simp only [bind, Except.bind] at stepped
    split at stepped
    · simp at stepped
    · split at stepped
      · simp only [pure, Except.pure, Except.ok.injEq, Option.map_eq_some_iff] at stepped
        obtain ⟨node, held, rfl⟩ := stepped
        exact ⟨_, node, rfl, by simp [Node.at?, isList, held]⟩
      · simp [pure, Except.pure] at stepped
  · simp at stepped

/-- A walk leads to a place below the one it starts at. -/
theorem walkFrom_ok {pointer : String} {current target : Located} {parts : List (List Char)}
    (walked : walkFrom pointer current parts = .ok target) :
    ∃ further, target = ⟨current.inDocument, current.steps ++ further, target.node⟩ ∧
      current.node.at? further = some target.node := by
  induction parts generalizing current with
  | nil =>
    obtain rfl := Except.ok.inj walked
    exact ⟨[], by simp, rfl⟩
  | cons part rest ih =>
    rw [walkFrom] at walked
    split at walked
    · rename_i next stepped
      -- The walk goes on below the node of this step, so its steps come behind it.
      obtain ⟨step, node, rfl, held⟩ := step_ok stepped
      obtain ⟨further, same, found⟩ := ih walked
      refine ⟨step :: further, by simpa using same, ?_⟩
      rw [← List.singleton_append, Node.at?_append, held]
      exact found
    · simp at walked
    · simp at walked

/-- A walk leads to a node at its own place. -/
theorem standsIn_of_walk {pointer : String} {target : Located}
    (walked : walk document pointer = .ok target) : StandsIn document target := by
  unfold walk at walked
  split at walked
  · simp at walked
  · rename_i found
    split at walked
    · simp at walked
    · obtain rfl := Except.ok.inj walked
      obtain ⟨further, same, held⟩ := walkFrom_ok found
      rw [same]
      exact ⟨rfl, held⟩

end Pointer

namespace Reference

variable {document : Node}

theorem Follows.standsIn {start reached : Located} {pointers : List String}
    (follows : Follows document start pointers reached) :
    reached = start ∨ StandsIn document reached := by
  induction follows with
  | here => exact .inl rfl
  | next _ walked _ ih =>
    rcases ih with rfl | stands
    · exact .inr (Pointer.standsIn_of_walk walked)
    · exact .inr stands

/-- An object at its own place in the document, or a node that is no object. -/
def Placed (document : Node) (located : Located) : Prop :=
  located.node.isObject → StandsIn document located

theorem Placed.field {located : Located} (placed : Placed document located) (key : String) :
    Placed document (located.field key) := by
  intro isObject
  have present : (located.node.get? key).isSome := by
    cases held : located.node.get? key with
    | none => simp [Located.field, Node.field, held, Node.isObject, Node.members?] at isObject
    | some node => rfl
  obtain ⟨value, held⟩ := Option.isSome_iff_exists.mp present
  obtain ⟨members, isMembers, _⟩ := Option.bind_eq_some_iff.mp held
  exact (placed (Option.isSome_iff_exists.mpr ⟨members, isMembers⟩)).field present

/-- What a node resolves to is the node itself or stands in the document. -/
theorem eq_or_standsIn_of_resolve {located reached : Located}
    (resolved : (resolve document located).outcome = .ok reached) :
    reached = located ∨ StandsIn document reached := by
  -- Either no pointer was followed, or the last one was walked from the root.
  rw [outcome_resolve] at resolved
  obtain ⟨_, pointers, _, follows⟩ := (target_ok_iff _ _ _).mp resolved
  exact follows.standsIn

theorem placed_of_resolve {located reached : Located} (placed : Placed document located)
    (resolved : (resolve document located).outcome = .ok reached) : Placed document reached := by
  rcases eq_or_standsIn_of_resolve resolved with rfl | stands
  · exact placed
  · exact fun _ => stands

end Reference

namespace Spot

/-- The node at a place in the document, or in a node outside of it. -/
def node? (document outside : Node) (spot : Spot) : Option Node :=
  (if spot.inDocument then document else outside).at? spot.steps

theorem node?_below (document outside : Node) (spot : Spot) (step : Step) :
    (spot.below step).node? document outside =
      (spot.node? document outside).bind fun node => node.at? [step] :=
  Node.at?_append ..

end Spot

namespace Sharing

variable {sharing : Sharing} {document outside : Node}

/-- Places that are said to hold one object hold one node. -/
def Sound (sharing : Sharing) (document outside : Node) : Prop :=
  ∀ again ∈ sharing, again.1.node? document outside = again.2.node? document outside

/-- Without aliases each object stands at one place. -/
@[simp] theorem firstSpot_nil (spot : Spot) : firstSpot [] spot = spot := by
  have steps (front : Spot) (further : List Step) :
      further.foldl (fun above step => listed [] (above.below step)) front =
        ⟨front.inDocument, front.steps ++ further⟩ := by
    induction further generalizing front with
    | nil => simp
    | cons step rest ih =>
      rw [List.foldl_cons, ih]
      simp [listed, Spot.below]
  exact steps _ _

theorem sound_nil : Sound [] document outside := by simp [Sound]

theorem firstSpot_below (spot : Spot) (step : Step) :
    sharing.firstSpot (spot.below step) = sharing.listed ((sharing.firstSpot spot).below step) := by
  simp [firstSpot, Spot.below]

theorem Sound.node?_listed (sound : sharing.Sound document outside) (spot : Spot) :
    (sharing.listed spot).node? document outside = spot.node? document outside := by
  unfold listed
  cases found : sharing.lookup spot with
  | none => rfl
  | some first =>
    obtain ⟨_, _, rfl, _⟩ := List.lookup_eq_some_iff.mp found
    exact (sound (spot, first) (by simp)).symm

/-- An object is the same node at its first place. -/
theorem Sound.node?_firstSpot (sound : sharing.Sound document outside) (spot : Spot) :
    (sharing.firstSpot spot).node? document outside = spot.node? document outside := by
  obtain ⟨inDocument, steps⟩ := spot
  -- Each step leads from the first place of an object to a place inside of it.
  induction steps using List.reverseRecOn with
  | nil => exact sound.node?_listed _
  | append_singleton steps step ih =>
    change (sharing.firstSpot (Spot.below ⟨inDocument, steps⟩ step)).node? document outside = _
    rw [firstSpot_below, sound.node?_listed, Spot.node?_below, ih]
    exact (Spot.node?_below ..).symm

end Sharing

namespace Located

/-- Nodes that are one object wherever they stand: they are equal and have one first place. -/
structure Alike (sharing : Sharing) (one other : Located) : Prop where
  node : one.node = other.node
  identity : sharing.identity one = sharing.identity other

variable {sharing : Sharing} {one other : Located}

theorem Alike.below (alike : Alike sharing one other) (step : Step) (node : Node) :
    Alike sharing ⟨one.inDocument, one.steps ++ [step], node⟩
      ⟨other.inDocument, other.steps ++ [step], node⟩ where
  node := rfl
  identity := by
    have same := alike.identity
    unfold Sharing.identity at same ⊢
    change sharing.firstSpot (one.spot.below step) = sharing.firstSpot (other.spot.below step)
    rw [Sharing.firstSpot_below, Sharing.firstSpot_below, same]

theorem Alike.field (alike : Alike sharing one other) (key : String) :
    Alike sharing (one.field key) (other.field key) := by
  have below := alike.below (.key key) (one.node.field key)
  rw [Located.field, Located.field, ← alike.node]
  exact below

theorem Alike.items (alike : Alike sharing one other) {item : Located}
    (member : item ∈ one.items) : ∃ item' ∈ other.items, Alike sharing item item' := by
  unfold Located.items at member ⊢
  rw [← alike.node]
  split at member
  · obtain ⟨⟨node, position⟩, held, rfl⟩ := List.mem_map.mp member
    exact ⟨_, List.mem_map_of_mem held, alike.below _ _⟩
  · cases member

theorem Alike.resolve (alike : Alike sharing one other) {document : Node} {reached : Located}
    (resolved : (Reference.resolve document one).outcome = .ok reached) :
    ∃ reached', (Reference.resolve document other).outcome = .ok reached' ∧
      Alike sharing reached reached' := by
  simp only [Reference.outcome_resolve, Reference.target, ← alike.node] at resolved ⊢
  split at resolved
  · obtain rfl := Except.ok.inj resolved
    exact ⟨other, rfl, alike⟩
  · exact ⟨reached, resolved, rfl, rfl⟩

end Located

end ApiBindings
