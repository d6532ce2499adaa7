import ApiBindings.Proofs.Reference.Places

/-!
# Documents with more paths

More paths at the end of a document change the document itself and the node of all its paths, and
nothing else: every node below stays where it is and as it is. So a reference that leads to one of
these nodes leads to the same node of the larger document, and whatever resolves there stays.
-/
namespace ApiBindings

namespace Document

/-- The document with more members at the end of its paths. -/
def appendPaths (more : Members) (document : Node) : Node :=
  match document with
  | .object members =>
    .object (Members.insert (.text "paths") (.object (pathItems document ++ more)) members)
  | other => other

theorem get?_appendPaths {document : Node} (listed : HasPaths document) (more : Members)
    (key : String) :
    (appendPaths more document).get? key =
      if key = "paths" then some (.object (pathItems document ++ more))
      else document.get? key := by
  cases document with
  | object members => exact Members.get?_insert members "paths" key _
  | _ => simp [HasPaths, Node.get?, Node.members?] at listed

theorem paths_appendPaths {document : Node} {more : Members} {paths paths' : List (String × Node)}
    (given : Document.paths document = .ok paths)
    (given' : Document.paths (appendPaths more document) = .ok paths') :
    ∃ rest, paths' = paths ++ rest := by
  have items := pathItems_eq given
  have items' := pathItems_eq given'
  obtain ⟨members, rfl, _⟩ := paths_ok.mp given
  have grown : pathItems (appendPaths more (.object members)) =
      pathItems (.object members) ++ more := by
    have held : (appendPaths more (.object members)).field "paths" =
        .object (pathItems (.object members) ++ more) := by
      have same : (appendPaths more (.object members)).field "paths" =
        Members.field (Members.insert (.text "paths")
          (.object (pathItems (.object members) ++ more)) members) "paths" := rfl
      rw [same, Members.field_insert, if_pos rfl]
    rw [pathItems, held]
    rfl
  rw [grown, items, eq_comm, List.map_eq_append_iff] at items'
  obtain ⟨front, rest, rfl, same, _⟩ := items'
  have apart : Function.Injective fun path : String × Node =>
      ((.text path.1, path.2) : Scalar × Node) := by
    intro one other same
    simpa [Prod.ext_iff] using same
  exact ⟨rest, by rw [List.map_injective_iff.mpr apart same]⟩

/-- The operations of a document come first when it gets more paths. -/
theorem operations_appendPaths {document : Node} {more : Members}
    {operations operations' : List Operation}
    (listed : Document.operations document = .ok operations)
    (listed' : Document.operations (appendPaths more document) = .ok operations') :
    ∃ rest, operations' = operations ++ rest := by
  obtain ⟨paths, given, rfl⟩ := operations_ok.mp listed
  obtain ⟨paths', given', rfl⟩ := operations_ok.mp listed'
  obtain ⟨rest, rfl⟩ := paths_appendPaths given given'
  exact ⟨_, List.flatMap_append⟩

end Document

namespace Pointer

open Document

variable {document : Node} {more : Members}

theorem step_object (current : Located) (part : List Char) (isObject : current.node.isObject) :
    step current part = .ok ((current.node.get? (String.ofList part)).map fun node =>
      ⟨current.inDocument, current.steps ++ [.key (String.ofList part)], node⟩) := by
  obtain ⟨members, held⟩ := Node.exists_of_isObject isObject
  simp only [step, held]
  rfl

/-- A walk goes on from the place it starts at. -/
theorem steps_of_walkFrom {pointer : String} {current target : Located} {parts : List (List Char)}
    (walked : walkFrom pointer current parts = .ok target) :
    target.inDocument = current.inDocument ∧ current.steps <+: target.steps := by
  obtain ⟨further, same, _⟩ := walkFrom_ok walked
  rw [same]
  exact ⟨rfl, List.prefix_append ..⟩

/-- A place below a path of the document, or outside of its paths but not the document itself. -/
def Settled (document : Node) (steps : List Step) : Prop :=
  ∃ first rest, steps = .key first :: rest ∧ (first = "paths" →
    ∃ name further, rest = .key name :: further ∧ ((pathItems document).get? name).isSome)

theorem Settled.append {steps : List Step} (settled : Settled document steps)
    (further : List Step) : Settled document (steps ++ further) := by
  obtain ⟨first, rest, rfl, below⟩ := settled
  refine ⟨first, rest ++ further, rfl, fun here => ?_⟩
  obtain ⟨name, others, rfl, held⟩ := below here
  exact ⟨name, others ++ further, rfl, held⟩

theorem Settled.of_prefix {steps longer : List Step} (settled : Settled document steps)
    (extended : steps <+: longer) : Settled document longer := by
  obtain ⟨further, rfl⟩ := extended
  exact settled.append further

/-- What stands at a place that stays is what stood there. -/
theorem Settled.at?_appendPaths (more : Members) (listed : HasPaths document) {steps : List Step}
    (settled : Settled document steps) :
    (appendPaths more document).at? steps = document.at? steps := by
  obtain ⟨first, rest, rfl, below⟩ := settled
  rw [Node.at?, Node.at?, get?_appendPaths listed]
  split
  · rename_i here
    obtain ⟨name, further, rfl, held⟩ := below here
    obtain ⟨item, found⟩ := Option.isSome_iff_exists.mp held
    have paths : document.get? first = some (.object (pathItems document)) := here ▸ listed
    rw [paths]
    simp [Node.at?, Node.get?, Node.members?, Members.get?_append, found]
  · rfl

theorem isObject_of_hasPaths (listed : HasPaths document) : document.isObject := by
  cases document with
  | object members => rfl
  | _ => simp [HasPaths, Node.get?, Node.members?] at listed

theorem isObject_appendPaths (listed : HasPaths document) :
    (appendPaths more document).isObject := by
  cases document with
  | object members => rfl
  | _ => simp [HasPaths, Node.get?, Node.members?] at listed

/-- A walk that ends neither at the document nor at the node of all paths ends at the same place
of the larger document. -/
theorem walkFrom_appendPaths (more : Members) {pointer : String} {target : Located}
    {parts : List (List Char)} (listed : HasPaths document)
    (walked : walkFrom pointer (Located.root document) parts = .ok target)
    (inside : target.steps ≠ [] ∧ target.steps ≠ [.key "paths"]) :
    walkFrom pointer (Located.root (appendPaths more document)) parts = .ok target ∧
      target.inDocument = true ∧ Settled document target.steps := by
  have isObject : (Located.root document).node.isObject := isObject_of_hasPaths listed
  have isObject' : (Located.root (appendPaths more document)).node.isObject :=
    isObject_appendPaths listed
  cases parts with
  | nil =>
    obtain rfl := Except.ok.inj walked
    exact absurd rfl inside.1
  | cons part rest =>
    rw [walkFrom, step_object _ _ isObject] at walked
    rw [walkFrom, step_object _ _ isObject', Located.root, get?_appendPaths listed]
    by_cases here : String.ofList part = "paths"
    · -- The second step leads to a path of the document, which is found first in the larger one.
      have held : (Located.root document).node.get? "paths" =
        some (.object (pathItems document)) := listed
      simp only [here, held, Option.map_some] at walked
      simp only [here, if_true, Option.map_some]
      cases rest with
      | nil =>
        obtain rfl := Except.ok.inj walked
        exact absurd rfl inside.2
      | cons name rest =>
        rw [walkFrom, step_object _ _ rfl] at walked ⊢
        cases found : (pathItems document).get? (String.ofList name) with
        | none => simp [Node.get?, Node.members?, found] at walked
        | some item =>
          simp only [Node.get?, Node.members?, Option.bind_some, Members.get?_append, found,
            Option.map_some, Option.some_or] at walked ⊢
          obtain ⟨stays, longer⟩ := steps_of_walkFrom walked
          refine ⟨walked, stays, Settled.of_prefix ⟨_, _, rfl, fun _ => ⟨_, _, rfl, ?_⟩⟩ longer⟩
          simp [found]
    · cases held : document.get? (String.ofList part) with
      | none => simp [Located.root, held] at walked
      | some node =>
        simp only [Located.root, held, Option.map_some] at walked
        simp only [here, if_false, Option.map_some]
        obtain ⟨stays, longer⟩ := steps_of_walkFrom walked
        exact ⟨walked, stays,
          Settled.of_prefix ⟨_, _, rfl, fun same => absurd same here⟩ longer⟩

/-- Where a pointer leads in a document that gets more paths, unless it leads to the document or
to the node of all paths. -/
theorem walk_appendPaths (more : Members) {pointer : String} {target : Located}
    (listed : HasPaths document) (walked : walk document pointer = .ok target)
    (inside : target.steps ≠ [] ∧ target.steps ≠ [.key "paths"]) :
    walk (appendPaths more document) pointer = .ok target ∧
      target.inDocument = true ∧ Settled document target.steps := by
  unfold walk at walked ⊢
  split at walked
  · simp at walked
  · rename_i reached found
    split at walked
    · simp at walked
    · rename_i present
      obtain rfl := Except.ok.inj walked
      obtain ⟨found', settled⟩ := walkFrom_appendPaths more listed found inside
      rw [found']
      simp [present, settled]

end Pointer

namespace Reference

open Document Pointer

variable {document : Node} {more : Members}

/-- No pointer that is written in the document leads to the document itself or to the node of all
paths. -/
def NeverToAllPaths (document : Node) : Prop :=
  ∀ pointer ∈ document.references, ∀ target, walk document pointer = .ok target →
    target.steps ≠ [] ∧ target.steps ≠ [.key "paths"]

/-- A document that can get more paths without any of its references leading elsewhere. -/
structure MayGrow (document : Node) : Prop where
  listed : HasPaths document
  apart : NeverToAllPaths document

/-- A place in the document that stays when the document gets more paths. -/
structure Stays (document : Node) (located : Located) : Prop where
  written : located.node.references ⊆ document.references
  inDocument : located.inDocument = true
  settled : Settled document located.steps

namespace Stays

variable {located : Located}

theorem field (stays : Stays document located) (key : String) :
    Stays document (located.field key) where
  written := List.Subset.trans (Node.references_field located.node key) stays.written
  inDocument := stays.inDocument
  settled := stays.settled.append _

theorem items (stays : Stays document located) {item : Located} (member : item ∈ located.items) :
    Stays document item := by
  unfold Located.items at member
  split at member
  · rename_i items isList
    obtain ⟨⟨node, position⟩, held, rfl⟩ := List.mem_map.mp member
    have written := Node.references_of_item (List.fst_mem_of_mem_zipIdx held)
    rw [← isList] at written
    exact ⟨List.Subset.trans written stays.written, stays.inDocument, stays.settled.append _⟩
  · simp at member

end Stays

theorem Follows.appendPaths (more : Members) {start reached : Located} {pointers : List String}
    (grows : MayGrow document) (follows : Follows document start pointers reached)
    (written : start.node.references ⊆ document.references) :
    Follows (Document.appendPaths more document) start pointers reached ∧
      (pointers ≠ [] → Stays document reached) := by
  induction follows with
  | here => exact ⟨.here _, fun nonempty => absurd rfl nonempty⟩
  | @next start target reached pointer rest refers walked onwards ih =>
    have known : pointer ∈ document.references :=
      written (Node.mem_references_of_localReference? _ pointer refers)
    have below := references_subset_of_walk document pointer target walked
    -- The pointer is written in the document, so it leads neither to the root nor to all paths.
    obtain ⟨walked', place⟩ := walk_appendPaths more grows.listed walked
      (grows.apart _ known _ walked)
    obtain ⟨onwards', stays⟩ := ih below
    refine ⟨.next refers walked' onwards', fun _ => ?_⟩
    cases onwards with
    | here => exact ⟨below, place.1, place.2⟩
    | next => exact stays (List.cons_ne_nil _ _)

/-- A reference that can be followed leads to the same node when the document gets more paths. -/
theorem target_appendPaths (more : Members) {located reached : Located}
    (grows : MayGrow document) (written : located.node.references ⊆ document.references)
    (resolved : target document located = .ok reached) :
    target (Document.appendPaths more document) located = .ok reached ∧
      (reached = located ∨ Stays document reached) := by
  obtain ⟨free, pointers, distinct, follows⟩ := (target_ok_iff _ _ _).mp resolved
  obtain ⟨follows', stays⟩ := Follows.appendPaths more grows follows written
  -- The same pointers are distinct, so the larger document meets no cycle either.
  refine ⟨(target_ok_iff _ _ _).mpr ⟨free, pointers, distinct, follows'⟩, ?_⟩
  cases follows with
  | here => exact .inl rfl
  | next => exact .inr (stays (List.cons_ne_nil _ _))

theorem resolve_keptBy {located : Located} (grows : MayGrow document)
    (written : located.node.references ⊆ document.references) :
    (resolve document located).KeptBy (resolve (Document.appendPaths more document) located) := by
  intro reached resolved
  rw [outcome_resolve] at resolved ⊢
  exact (target_appendPaths more grows written resolved).1

theorem stays_of_resolve {located reached : Located} (grows : MayGrow document)
    (stays : Stays document located) (resolved : (resolve document located).outcome = .ok reached) :
    Stays document reached := by
  rw [outcome_resolve] at resolved
  rcases (target_appendPaths [] grows stays.written resolved).2 with rfl | reached
  · exact stays
  · exact reached

end Reference

end ApiBindings
