import ApiBindings.Proofs.Reference.Followed
import ApiBindings.Proofs.Service.Growth.Reading

/-!
# Uploads of a document that gets more paths

A search for uploads visits objects, each once. A larger document has more of them, but a search
that starts at a place that stays meets only objects that were there before, and these are told from
one another as they were. So it goes the same way.
-/
namespace ApiBindings

open Document Reference

variable {document : Node} {more : Members} {sharing sharing' : Sharing}

/-- The place of an object that stays when the document gets more paths. -/
structure Pointer.HoldsObject (document : Node) (steps : List Step) : Prop where
  settled : Settled document steps
  found : ∃ members, document.at? steps = some (.object members)

/-- Two places that stay hold one object in the larger document exactly if they did before. -/
def Sharing.StaysAlike (document : Node) (sharing sharing' : Sharing) : Prop :=
  ∀ one other, Pointer.HoldsObject document one → Pointer.HoldsObject document other →
    (sharing'.firstSpot ⟨true, one⟩ = sharing'.firstSpot ⟨true, other⟩ ↔
      sharing.firstSpot ⟨true, one⟩ = sharing.firstSpot ⟨true, other⟩)

namespace Upload

theorem components_stay {schema : Located} {inside : List Located}
    (stays : Stays document schema) (taken : components schema = .ok inside) {component : Located}
    (member : component ∈ inside) : Stays document component := by
  rw [components_ok taken] at member
  exact (stays.field "allOf").items member

/-- A search for uploads goes the same way in the larger document: it meets objects that stay, and
these are visited in both or in none. -/
theorem collect_keptBy (grows : MayGrow document) (alike : sharing.StaysAlike document sharing')
    {unvisited unvisited' : List Spot} {waiting : List Located}
    (stay : ∀ located ∈ waiting, Stays document located)
    (placed : ∀ located ∈ waiting, located.node.isObject → Stands document .null located)
    (same : ∀ steps, Pointer.HoldsObject document steps →
      (sharing.firstSpot ⟨true, steps⟩ ∈ unvisited ↔
        sharing'.firstSpot ⟨true, steps⟩ ∈ unvisited')) :
    (collect document sharing unvisited waiting).KeptBy
      (collect (appendPaths more document) sharing' unvisited' waiting) := by
  -- Both searches take the same steps: whether an object was visited is asked of those that stay
  -- only, and what one search takes away from its unvisited ones, the other takes away from its.
  induction unvisited, waiting using collect.induct sharing
    generalizing unvisited' with
  | case1 unvisited =>
    rw [collect, collect]
    exact .refl _
  | case2 unvisited first rest inside later =>
    obtain ⟨here, others⟩ := List.forall_mem_cons.mp stay
    obtain ⟨placedFirst, placedOthers⟩ := List.forall_mem_cons.mp placed
    rw [collect, collect]
    apply Attempt.KeptBy.bind (Reference.resolve_keptBy grows here.written)
    intro schema resolved
    have stays := stays_of_resolve grows here resolved
    have stands := stands_of_resolve placedFirst resolved
    cases held : schema.node with
    | object members =>
      rw [held] at stands
      have spot : schema.spot = ⟨true, schema.steps⟩ := by rw [Located.spot, stays.inDocument]
      have holds : Pointer.HoldsObject document schema.steps := by
        have found : schema.spot.node? document .null = some schema.node := stands rfl
        rw [spot, held] at found
        exact ⟨stays.settled, members, found⟩
      have visited : sharing.identity schema ∈ unvisited ↔
          sharing'.identity schema ∈ unvisited' := by
        rw [Sharing.identity, Sharing.identity, spot]
        exact same schema.steps holds
      dsimp only
      by_cases fresh : sharing.identity schema ∈ unvisited
      · rw [dif_pos fresh, dif_pos (visited.mp fresh)]
        apply Attempt.KeptBy.bind (.refl _)
        intro uploads _
        apply Attempt.KeptBy.bind (.refl _)
        intro components taken
        rw [Attempt.outcome_misfit, Attempt.mapError_ok] at taken
        refine .bind (inside schema fresh components (List.forall_mem_append.mpr ⟨?_, others⟩)
          (List.forall_mem_append.mpr ⟨?_, placedOthers⟩) ?_) fun _ _ => .refl _
        · exact fun located member => components_stay stays taken member
        · exact fun located member _ => Stands.component (stands rfl) taken member
        · intro steps holds'
          rw [mem_without, mem_without, same steps holds', Sharing.identity, Sharing.identity, spot]
          exact and_congr_right fun _ => not_congr (alike _ _ holds' holds).symm
      · rw [dif_neg fresh, dif_neg (fun member => fresh (visited.mpr member))]
        exact later others placedOthers same
    | _ => exact later others placedOthers same

theorem ofSchema_keptBy (grows : MayGrow document) (alike : sharing.StaysAlike document sharing')
    {schema : Located} (stays : Stays document schema) (placed : Placed document schema) :
    (ofSchema document sharing schema).KeptBy
      (ofSchema (appendPaths more document) sharing' schema) := by
  refine collect_keptBy grows alike (List.forall_mem_singleton.mpr stays)
    (List.forall_mem_singleton.mpr fun isObject => stands_of_standsIn (placed isObject)) ?_
  rintro steps ⟨settled, members, found⟩
  -- An object that stays is among the objects of both documents.
  have found' := (settled.at?_appendPaths more grows.listed).trans found
  exact iff_of_true
    (List.mem_map_of_mem (List.mem_append_left _ (List.mem_map_of_mem (mem_objectPlaces [] found))))
    (List.mem_map_of_mem
      (List.mem_append_left _ (List.mem_map_of_mem (mem_objectPlaces [] found'))))

theorem ofBody?_keptBy (grows : MayGrow document) (alike : sharing.StaysAlike document sharing')
    {body : Located} (stays : Stays document body) (placed : Placed document body) :
    (ofBody? document sharing body).KeptBy
      (ofBody? (appendPaths more document) sharing' body) := by
  apply Attempt.KeptBy.bind (Reference.resolve_keptBy grows stays.written)
  intro body resolved
  have stays := stays_of_resolve grows stays resolved
  have placed := placed_of_resolve placed resolved
  split
  · exact .bind (ofSchema_keptBy grows alike (((stays.field _).field _).field _)
      (((placed.field _).field _).field _)) fun _ _ => .refl _
  · exact .refl _

end Upload

end ApiBindings
