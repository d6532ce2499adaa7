import ApiBindings.Proofs.Declaration.Run
import ApiBindings.Proofs.Generation
import ApiBindings.Proofs.Name.SharedSegments
import ApiBindings.Proofs.Name.TypeName
import ApiBindings.Proofs.Reference.Escape
import ApiBindings.Proofs.Reference.Reordering

/-!
# Declarations and the order of a document

A declaration is made from one component or from one operation, from what its references lead to
and from the base of all paths. None of these depends on the order in which components and paths
are written, as long as no reference reads this order itself. The declarations of two documents
that differ in it are therefore the same up to their order, and being sorted by name they are the
same list where no name comes twice.
-/
namespace ApiBindings

namespace Document

/-- Two documents with the same components and the same paths but for their order. -/
inductive Reordered : Node → Node → Prop
  | intro {document between document' : Node}
      (components : Node.ReordersAt ["components", "schemas"] document between)
      (paths : Node.ReordersAt ["paths"] between document') : Reordered document document'

/-- No pointer that is written in the document leads to all its component schemas, to all its paths
or to a node that contains them. -/
structure OrderUnread (document : Node) : Prop where
  components : NeverTowards ["components", "schemas"] document
  paths : NeverTowards ["paths"] document

/-- What is read off one document for declarations is read off the other one as well, in any
order. -/
structure ReadsAs (document document' : Node) : Prop where
  written : document.references ⊆ document'.references
  resolved : ∀ node : Node, node.references ⊆ document.references →
    (Reference.resolveNode document node).KeptBy (Reference.resolveNode document' node)
  schemas : ∀ schemas, Document.schemas document = .ok schemas →
    ∃ schemas', Document.schemas document' = .ok schemas' ∧ schemas.Perm schemas'
  paths : ∀ paths, Document.paths document = .ok paths →
    ∃ paths', Document.paths document' = .ok paths' ∧ paths.Perm paths'

namespace ReadsAs

variable {document between document' : Node}

theorem trans (first : ReadsAs document between) (second : ReadsAs between document') :
    ReadsAs document document' where
  written := List.Subset.trans first.written second.written
  resolved node written value made :=
    second.resolved node (List.Subset.trans written first.written) value
      (first.resolved node written value made)
  schemas schemas listed := by
    obtain ⟨schemas', listed', moved⟩ := first.schemas schemas listed
    obtain ⟨schemas'', listed'', moved'⟩ := second.schemas schemas' listed'
    exact ⟨schemas'', listed'', moved.trans moved'⟩
  paths paths given := by
    obtain ⟨paths', given', moved⟩ := first.paths paths given
    obtain ⟨paths'', given'', moved'⟩ := second.paths paths' given'
    exact ⟨paths'', given'', moved.trans moved'⟩

theorem of_components (reorders : Node.ReordersAt ["components", "schemas"] document document')
    (apart : NeverTowards ["components", "schemas"] document) : ReadsAs document document' where
  written := reorders.references_subset
  resolved node written value made := by
    rwa [← Reference.resolveNode_of_reordersAt reorders apart written]
  schemas schemas listed := exists_schemas reorders listed
  paths paths given := ⟨paths, paths_eq reorders (by simp) ▸ given, .refl paths⟩

theorem of_paths (reorders : Node.ReordersAt ["paths"] document document')
    (apart : NeverTowards ["paths"] document) : ReadsAs document document' where
  written := reorders.references_subset
  resolved node written value made := by
    rwa [← Reference.resolveNode_of_reordersAt reorders apart written]
  schemas schemas listed := ⟨schemas, schemas_eq reorders (by simp) ▸ listed, .refl schemas⟩
  paths paths given := exists_paths reorders given

theorem operations (reads : ReadsAs document document') {operations : List Operation}
    (listed : Document.operations document = .ok operations) :
    ∃ operations', Document.operations document' = .ok operations' ∧
      operations.Perm operations' := by
  obtain ⟨paths, given, rfl⟩ := operations_ok.mp listed
  obtain ⟨paths', given', moved⟩ := reads.paths paths given
  exact ⟨_, operations_ok.mpr ⟨paths', given', rfl⟩, moved.flatMap_right _⟩

end ReadsAs

/-- The order of a document that is not read by its references does not matter either way. -/
theorem Reordered.readsAs {document document' : Node} (reordered : Reordered document document')
    (unread : OrderUnread document) :
    ReadsAs document document' ∧ ReadsAs document' document := by
  obtain ⟨components, paths⟩ := reordered
  -- The references of all three documents lead to the same places.
  have between := unread.components.of_reordersAt components unread.components
  have between' := unread.components.of_reordersAt components unread.paths
  have after := between'.of_reordersAt paths between'
  exact ⟨(ReadsAs.of_components components unread.components).trans (.of_paths paths between'),
    (ReadsAs.of_paths paths.symm after).trans (.of_components components.symm between)⟩

end Document

namespace DeclarationBuilder

open Document

variable {builder : DeclarationBuilder} {document' : Node}

theorem create_of_readsAs {document : Node} {settings : Settings}
    (reads : ReadsAs document document') (created : create document settings = .ok builder) :
    create document' settings = .ok { builder with document := document' } := by
  unfold create Settings.namer at created ⊢
  cases given : Document.paths document with
  | error reason => simp [given, bind, Except.bind] at created
  | ok paths =>
    obtain ⟨paths', given', moved⟩ := reads.paths paths given
    have namers := Namer.create_of_perm settings.namespaceName (moved.map (·.1)) settings.hooks
      settings.functionNameMaxLength
    rw [given] at created
    rw [given']
    obtain rfl := Except.ok.inj created
    exact congrArg (fun namer => (Except.ok ⟨document', settings, namer⟩ :
      Except Misfit DeclarationBuilder)) namers.symm

section

variable [Text.Romanization]

/-- A component is declared alike by another document that reads as this one. -/
theorem ofComponent_keptBy (reads : ReadsAs builder.document document') (key : Scalar)
    {schema : Node} (written : schema.references ⊆ builder.document.references) :
    (builder.ofComponent key schema).KeptBy
      ({ builder with document := document' }.ofComponent key schema) := by
  refine .bind ?_ fun _ _ => .refl _
  cases schema with
  | object members =>
    -- Only a reference is followed here, and its target is not even used.
    unfold body bodyOfMembers
    dsimp only
    split
    · exact .bind (reads.resolved _ written) fun _ _ => .refl _
    · exact .refl _
  | _ => exact .refl _

theorem parameterProperty?_keptBy (reads : ReadsAs builder.document document') {parameter : Node}
    (written : parameter.references ⊆ builder.document.references) :
    (builder.parameterProperty? parameter).KeptBy
      ({ builder with document := document' }.parameterProperty? parameter) :=
  .bind (reads.resolved _ written) fun _ _ => .refl _

theorem ofParameters?_keptBy (reads : ReadsAs builder.document document')
    {operation : Operation} (among : HasOperation builder.document operation) :
    (builder.ofParameters? operation).KeptBy
      ({ builder with document := document' }.ofParameters? operation) := by
  apply Attempt.KeptBy.bind (.refl _)
  intro own taken
  apply Attempt.KeptBy.bind (.refl _)
  intro shared taken'
  rw [Attempt.outcome_misfit, Attempt.mapError_ok] at taken taken'
  refine .bind (.mapM fun parameter member => parameterProperty?_keptBy reads ?_) fun _ _ => .refl _
  exact references_of_isParameter among (isParameter_of_taken taken taken' member)

theorem exists_componentDeclarations (reads : ReadsAs builder.document document')
    {components : List Declaration}
    (made : builder.componentDeclarations.outcome = .ok components) :
    ∃ components', { builder with document := document' }.componentDeclarations.outcome =
      .ok components' ∧ components.Perm components' := by
  obtain ⟨schemas, listed, all⟩ := componentDeclarations_ok.mp made
  obtain ⟨schemas', listed', moved⟩ := reads.schemas schemas listed
  have kept := Attempt.KeptBy.mapM fun (schema : Scalar × Node) (member : schema ∈ schemas) =>
    ofComponent_keptBy reads schema.1 (references_of_schemas listed member)
  have all := (Attempt.outcome_mapM_ok ..).mp (kept _ ((Attempt.outcome_mapM_ok ..).mpr all))
  obtain ⟨components', all', moved'⟩ := exists_forall₂_of_perm moved all
  exact ⟨components', componentDeclarations_ok.mpr ⟨schemas', listed', all'⟩, moved'⟩

theorem exists_parameterDeclarations (reads : ReadsAs builder.document document')
    {parameters : List Declaration}
    (made : builder.parameterDeclarations.outcome = .ok parameters) :
    ∃ parameters', { builder with document := document' }.parameterDeclarations.outcome =
      .ok parameters' ∧ parameters.Perm parameters' := by
  obtain ⟨operations, results, listed, all, rfl⟩ := parameterDeclarations_ok.mp made
  obtain ⟨operations', listed', moved⟩ := reads.operations listed
  have kept := Attempt.KeptBy.mapM fun operation (member : operation ∈ operations) =>
    ofParameters?_keptBy reads ⟨operations, listed, member⟩
  have all := (Attempt.outcome_mapM_ok ..).mp (kept _ ((Attempt.outcome_mapM_ok ..).mpr all))
  obtain ⟨results', all', moved'⟩ := exists_forall₂_of_perm moved all
  exact ⟨_, parameterDeclarations_ok.mpr ⟨operations', results', listed', all', rfl⟩,
    moved'.filterMap id⟩

/-- The declarations of a document with some settings. -/
def Declares (settings : Settings) (document : Node) (declarations : List Declaration) : Prop :=
  ∃ builder, create document settings = .ok builder ∧
    builder.declarations.outcome = .ok declarations

theorem Declares.unique {settings : Settings} {document : Node} {one other : List Declaration}
    (first : Declares settings document one) (second : Declares settings document other) :
    one = other := by
  obtain ⟨builder, created, made⟩ := first
  obtain ⟨builder', created', made'⟩ := second
  obtain rfl := Except.ok.inj (created.symm.trans created')
  exact Except.ok.inj (made.symm.trans made')

theorem Declares.sorted {settings : Settings} {document : Node} {declarations : List Declaration}
    (declared : Declares settings document declarations) :
    declarations.Pairwise fun one other =>
      Text.mayPrecede Declaration.typeName one other = true := by
  obtain ⟨_, _, made⟩ := declared
  obtain ⟨_, _, _, _, _, _, _, _, rfl⟩ := declarations_ok made
  exact Text.pairwise_sortBy Declaration.typeName _

/-- A document that reads as another one has the same declarations, in an order of its own as far
as names come twice. -/
theorem Declares.of_readsAs {settings : Settings} {document : Node}
    {declarations : List Declaration} (declared : Declares settings document declarations)
    (reads : ReadsAs document document') :
    ∃ declarations', Declares settings document' declarations' ∧
      declarations.Perm declarations' := by
  obtain ⟨builder, created, made⟩ := declared
  have created' := create_of_readsAs reads created
  obtain rfl : builder.document = document := by
    obtain ⟨_, _, rfl⟩ := (create_ok []).mp created
    rfl
  obtain ⟨components, parameters, first, second, rfl⟩ := declarations_iff.mp made
  obtain ⟨components', first', moved⟩ := exists_componentDeclarations reads first
  obtain ⟨parameters', second', moved'⟩ := exists_parameterDeclarations reads second
  refine ⟨_, ⟨_, created', declarations_iff.mpr ⟨_, _, first', second', rfl⟩⟩, ?_⟩
  exact (Text.sortBy_perm Declaration.typeName _).trans
    ((moved.append moved').trans (Text.sortBy_perm Declaration.typeName _).symm)

/-- For two documents that differ in the order of their component schemas and of their paths, and
whose references read neither of these orders, declarations are made from one of them if they are
made from the other, and they are the same list if no type name comes twice. -/
theorem declarations_of_reordered (settings : Settings) (document document' : Node)
    (reordered : Reordered document document') (unread : OrderUnread document) :
    ((∃ declarations, Declares settings document declarations) ↔
      ∃ declarations, Declares settings document' declarations) ∧
    ∀ declarations declarations', Declares settings document declarations →
      Declares settings document' declarations' → (declarations.map (·.typeName)).Nodup →
      declarations = declarations' := by
  obtain ⟨reads, reads'⟩ := reordered.readsAs unread
  constructor
  · constructor
    · rintro ⟨declarations, declared⟩
      obtain ⟨declarations', declared', _⟩ := declared.of_readsAs reads
      exact ⟨declarations', declared'⟩
    · rintro ⟨declarations', declared'⟩
      obtain ⟨declarations, declared, _⟩ := declared'.of_readsAs reads'
      exact ⟨declarations, declared⟩
  · intro declarations declarations' declared declared' distinct
    obtain ⟨others, declared'', moved⟩ := declared.of_readsAs reads
    obtain rfl := declared''.unique declared'
    -- Of two sorted lists with the same items, only items of one name can stand in another order.
    refine List.Perm.eq_of_pairwise (fun one other inOne inOther first second => ?_)
      declared.sorted declared'.sorted moved
    have same := Text.eq_of_mayPrecede first second
    exact List.inj_on_of_nodup_map distinct inOne (moved.symm.subset inOther) same

end

/-- A document with these component schemas and paths. -/
def ofParts (schemas paths : Members) : Node :=
  .object [(.text "components", .object [(.text "schemas", .object schemas)]),
    (.text "paths", .object paths)]

/-- A component and another one that refers to it. -/
def pet : Scalar × Node := (.text "Pet", .object [(.text "type", .text "object")])

def owner : Scalar × Node :=
  (.text "Owner", .object [(.text "$ref", .text (Pointer.ofComponent "Pet"))])

/-- A path with one operation. -/
def readAt (path : String) : Scalar × Node :=
  (.text path, .object [(.text "get", .object [(.text "summary", .text path)])])

def petsFirst : Node := ofParts [pet, owner] [readAt "/pets", readAt "/owners"]

def ownersFirst : Node := ofParts [owner, pet] [readAt "/owners", readAt "/pets"]

theorem reordered_petsFirst : Reordered petsFirst ownersFirst := by
  have swapped {one other : Scalar × Node} : [one, other].Perm [other, one] := .swap other one []
  have components : Node.ReordersAt ["components", "schemas"] petsFirst
      (ofParts [owner, pet] [readAt "/pets", readAt "/owners"]) :=
    @Node.ReordersAt.within _ _ [] _ _ _ rfl
      (@Node.ReordersAt.within _ _ [] _ _ _ rfl (.here swapped (by decide)))
  have paths : Node.ReordersAt ["paths"] (ofParts [owner, pet] [readAt "/pets", readAt "/owners"])
      ownersFirst :=
    @Node.ReordersAt.within _ _ [_] _ _ _ rfl (.here swapped (by decide))
  exact .intro components paths

/-- The only pointer leads to one component, not to all of them. -/
theorem orderUnread_petsFirst : OrderUnread petsFirst := by
  have reached : Pointer.walk petsFirst (Pointer.ofComponent "Pet") =
      .ok ⟨true, [.key "components", .key "schemas", .key "Pet"], pet.2⟩ :=
    Pointer.walk_ofComponent rfl rfl (by decide) (by decide)
  have only : petsFirst.references = [Pointer.ofComponent "Pet"] := by decide +kernel
  constructor
  all_goals
    intro pointer written target walked
    rw [only, List.mem_singleton] at written
    subst written
    obtain rfl := Except.ok.inj (reached.symm.trans walked)
    decide

theorem exists_declares_petsFirst : ∃ declarations,
    Declares (Settings.ofSource "openapi.json") petsFirst declarations ∧
      (declarations.map (·.typeName)).Perm ["Pet", "Owner"] := by
  let builder : DeclarationBuilder := ⟨petsFirst, Settings.ofSource "openapi.json",
    Namer.create "API" ["/pets", "/owners"] .none 20⟩
  obtain ⟨components, made⟩ := Attempt.exists_outcome builder.componentDeclarations
    (by decide +kernel)
  have made' : builder.parameterDeclarations.outcome = .ok [] := by decide +kernel
  refine ⟨sortByName (components ++ []),
    ⟨builder, rfl, declarations_iff.mpr ⟨components, [], made, made', rfl⟩⟩, ?_⟩
  obtain ⟨schemas, listed, all⟩ := componentDeclarations_ok.mp made
  have names : components.map (·.typeName) = ["Pet", "Owner"] := by
    obtain rfl := Except.ok.inj (listed.symm.trans rfl)
    have petName : (TypeName.sanitize "API" "Pet").value = "Pet" :=
      TypeName.value_sanitize_of_isPlainName (by decide +kernel)
    have ownerName : (TypeName.sanitize "API" "Owner").value = "Owner" :=
      TypeName.value_sanitize_of_isPlainName (by decide +kernel)
    rw [typeNames_of_ofComponent all ["Pet", "Owner"] rfl]
    exact congrArg₂ _ petName (congrArg₂ _ ownerName rfl)
  have sorted := (Text.sortBy_perm Declaration.typeName (components ++ [])).map (·.typeName)
  rw [List.append_nil] at sorted ⊢
  exact names ▸ sorted

theorem declarations_of_ownedPet : ∃ declarations,
    Declares (Settings.ofSource "openapi.json") petsFirst declarations ∧
      Declares (Settings.ofSource "openapi.json") ownersFirst declarations ∧
      (declarations.map (·.typeName)).Perm ["Pet", "Owner"] := by
  obtain ⟨declarations, declared, names⟩ := exists_declares_petsFirst
  obtain ⟨succeeds, same⟩ := declarations_of_reordered (Settings.ofSource "openapi.json")
    petsFirst ownersFirst reordered_petsFirst orderUnread_petsFirst
  obtain ⟨declarations', declared'⟩ := succeeds.mp ⟨declarations, declared⟩
  obtain rfl := same _ _ declared declared' (names.nodup_iff.mpr (by decide))
  exact ⟨declarations, declared, declared', names⟩

end DeclarationBuilder

end ApiBindings
