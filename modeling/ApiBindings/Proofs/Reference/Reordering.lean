import ApiBindings.Proofs.Document.Reordering
import ApiBindings.Proofs.Reference.Growth

/-!
# References and the order of members

A pointer is walked by looking up one key after the other. So a walk in a document whose members
come in another order reaches the same node, unless it ends on the way to the object whose members
were moved. Where no pointer of the document does that, every reference resolves as before.
-/
namespace ApiBindings

open Node

namespace Pointer

/-- A walk reaches the same, or it ends on the way to the place. -/
theorem walkFrom_cases {pointer : String} {place : List String} {node node' : Node}
    (reorders : ReordersAt place node node') (inDocument : Bool) (steps : List Step)
    (parts : List (List Char)) :
    walkFrom pointer ⟨inDocument, steps, node⟩ parts =
        walkFrom pointer ⟨inDocument, steps, node'⟩ parts ∨
      ∃ target, walkFrom pointer ⟨inDocument, steps, node⟩ parts = .ok target ∧
        target.node.isObject ∧ target.steps <+: steps ++ place.map .key := by
  induction parts generalizing place node node' steps with
  | nil =>
    rcases reorders.eq_or_isObject with rfl | ⟨isObject, _⟩
    · exact .inl rfl
    · exact .inr ⟨_, rfl, isObject, List.prefix_append _ _⟩
  | cons part rest ih =>
    rcases reorders.eq_or_isObject with rfl | ⟨isObject, isObject'⟩
    · exact .inl rfl
    rw [walkFrom, walkFrom, step_object _ _ isObject, step_object _ _ isObject']
    -- The key leads to one node in both, or it is the next one on the way to the place.
    rcases reorders.get?_cases (String.ofList part) with
      same | ⟨_, next, next', rfl, found, found', inside⟩
    · dsimp only
      rw [same]
      cases node'.get? (String.ofList part) <;> exact .inl rfl
    · have further := ih inside (steps ++ [.key (String.ofList part)])
      rw [← List.append_cons] at further
      dsimp only
      rw [found, found']
      exact further

end Pointer

/-- No pointer that is written in a document leads to a place in it or to a node that contains this
place. -/
def Document.NeverTowards (place : List String) (document : Node) : Prop :=
  ∀ pointer ∈ document.references, ∀ target, Pointer.walk document pointer = .ok target →
    ¬ target.steps <+: place.map .key

namespace Document

variable {place : List String} {document document' : Node}

theorem walk_of_reordersAt (reorders : ReordersAt place document document')
    (apart : NeverTowards place document) {pointer : String}
    (written : pointer ∈ document.references) :
    Pointer.walk document pointer = Pointer.walk document' pointer := by
  have walks := apart pointer written
  unfold Pointer.walk at walks ⊢
  rcases Pointer.walkFrom_cases reorders true [] (Pointer.parts pointer) with
    same | ⟨target, walked, isObject, onWay⟩
  · rw [Located.root, Located.root, same]
  · -- An object is no empty node, so the pointer leads to this one.
    have present : target.node ≠ .null := by
      rintro empty
      simp [empty, Node.isObject, Node.members?] at isObject
    have leads := walks target
    rw [Located.root, walked] at leads
    exact absurd onWay (leads (if_neg present))

theorem NeverTowards.of_reordersAt {other : List String}
    (reorders : ReordersAt place document document') (apart : NeverTowards place document)
    (apart' : NeverTowards other document) : NeverTowards other document' := by
  intro pointer written target walked
  have written : pointer ∈ document.references := reorders.symm.references_subset written
  rw [← walk_of_reordersAt reorders apart written] at walked
  exact apart' pointer written target walked

end Document

namespace Reference

variable {place : List String} {document document' : Node}

theorem Follows.of_reordersAt (reorders : ReordersAt place document document')
    (apart : Document.NeverTowards place document) {start reached : Located}
    {pointers : List String} (follows : Follows document start pointers reached)
    (written : start.node.references ⊆ document.references) :
    Follows document' start pointers reached ∧ reached.node.references ⊆ document.references := by
  induction follows with
  | here => exact ⟨.here _, written⟩
  | @next start target reached pointer rest refers walked _ ih =>
    have known : pointer ∈ document.references :=
      written (mem_references_of_localReference? _ pointer refers)
    obtain ⟨onwards, inside⟩ := ih (Pointer.references_subset_of_walk document _ _ walked)
    rw [Document.walk_of_reordersAt reorders apart known] at walked
    exact ⟨.next refers walked onwards, inside⟩

/-- A node of the document stands for the same in both documents. -/
theorem target_of_reordersAt (reorders : ReordersAt place document document')
    (apart : Document.NeverTowards place document) {located : Located}
    (written : located.node.references ⊆ document.references) :
    target document located = target document' located := by
  -- The same chain is followed in the other document.
  obtain ⟨pointers, last, distinct, follows, ends⟩ := target_ends document located
  obtain ⟨follows', inside⟩ := follows.of_reordersAt reorders apart written
  refine (target_of_ends distinct follows' ?_).symm
  -- The last node is the same, and so is a walk that fails there.
  generalize target document located = result at ends
  cases ends with
  | concrete free => exact .concrete free
  | again refers seen => exact .again refers seen
  | broken refers fresh stuck =>
    have known := inside (mem_references_of_localReference? _ _ refers)
    rw [Document.walk_of_reordersAt reorders apart known] at stuck
    exact .broken refers fresh stuck

theorem resolveNode_of_reordersAt (reorders : ReordersAt place document document')
    (apart : Document.NeverTowards place document) {node : Node}
    (written : node.references ⊆ document.references) :
    (resolveNode document node).outcome = (resolveNode document' node).outcome := by
  rw [resolveNode, resolveNode, Attempt.outcome_bind, Attempt.outcome_bind, outcome_resolve,
    outcome_resolve, target_of_reordersAt reorders apart written]

end Reference

end ApiBindings
