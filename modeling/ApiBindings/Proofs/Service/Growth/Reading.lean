import ApiBindings.Proofs.Reference.Growth
import ApiBindings.Proofs.Service.Parameters

/-!
# Reading from a document that gets more paths

Parameters, bodies and responses are read off nodes, through references and named components. Nodes
of the document, references in it and its components are the same when it gets more paths; so
whatever is read without a failure is read again.
-/
namespace ApiBindings

open Document Reference

variable {document : Node} {more : Members} {namespaceName : String}

namespace Document

theorem ask_appendPaths (more : Members) (document : Node) {key : String} (other : key ≠ "paths") :
    (appendPaths more document).ask key = document.ask key := by
  cases document with
  | object members => simp [appendPaths, Node.ask, Members.field_insert, other]
  | _ => rfl

theorem schema?_appendPaths (more : Members) (document : Node) (name : String) :
    schema? (appendPaths more document) name = schema? document name := by
  have other : "components" ≠ "paths" := by decide
  simp only [schema?, schemas, ask_appendPaths more document other]

end Document

/-- What is read against a document that gets more paths. -/
def SchemaContext.appendPaths (more : Members) (context : SchemaContext) : SchemaContext :=
  { context with document := Document.appendPaths more context.document }

namespace SchemaContext

variable {context : SchemaContext}

theorem resolve_keptBy (grows : MayGrow context.document) {node : Node}
    (written : node.references ⊆ context.document.references) :
    (context.resolve node).KeptBy ((context.appendPaths more).resolve node) := by
  have start : (Located.outside node).node.references ⊆ context.document.references := written
  exact .bind (Reference.resolve_keptBy grows start) fun _ _ => .refl _

end SchemaContext

namespace Parameter

variable {context : SchemaContext}

theorem identities_keptBy (grows : MayGrow context.document) {parameters : List Node}
    (written : ∀ parameter ∈ parameters, parameter.references ⊆ context.document.references) :
    (identities context parameters).KeptBy (identities (context.appendPaths more) parameters) := by
  induction parameters with
  | nil => exact .refl _
  | cons parameter rest ih =>
    have later := ih fun other member => written other (List.mem_cons_of_mem _ member)
    rw [identities, identities]
    apply Attempt.KeptBy.bind (SchemaContext.resolve_keptBy grows (written _ (by simp)))
    intro resolved _
    cases resolved with
    | object members => exact .bind (.refl _) fun _ _ => .bind later fun _ _ => .refl _
    | _ => exact later

theorem notDeclared_keptBy (grows : MayGrow context.document) (declared : List (Scalar × Scalar))
    {parameters : List Node}
    (written : ∀ parameter ∈ parameters, parameter.references ⊆ context.document.references) :
    (notDeclared context declared parameters).KeptBy
      (notDeclared (context.appendPaths more) declared parameters) := by
  induction parameters with
  | nil => exact .refl _
  | cons parameter rest ih =>
    have later := ih fun other member => written other (List.mem_cons_of_mem _ member)
    rw [notDeclared, notDeclared]
    apply Attempt.KeptBy.bind (SchemaContext.resolve_keptBy grows (written _ (by simp)))
    intro resolved _
    cases resolved with
    | object members =>
      apply Attempt.KeptBy.bind (.refl _)
      intro name _
      split
      · exact later
      · exact .bind later fun _ _ => .refl _
    | _ => exact .bind later fun _ _ => .refl _

theorem ofOperation_keptBy (grows : MayGrow context.document) {operation : Operation}
    (fields : Node.referencesOfMembers operation.fields ⊆ context.document.references)
    (pathItem : Node.referencesOfMembers operation.pathItem ⊆ context.document.references) :
    (ofOperation context operation).KeptBy (ofOperation (context.appendPaths more) operation) := by
  apply Attempt.KeptBy.bind (.refl _)
  intro own taken
  rw [Attempt.outcome_misfit, Attempt.mapError_ok] at taken
  apply Attempt.KeptBy.bind
  · exact identities_keptBy grows fun parameter member =>
      List.Subset.trans (Node.references_of_listed taken member) fields
  intro declared _
  apply Attempt.KeptBy.bind (.refl _)
  intro shared taken
  rw [Attempt.outcome_misfit, Attempt.mapError_ok] at taken
  apply Attempt.KeptBy.bind
  · exact notDeclared_keptBy grows declared fun parameter member =>
      List.Subset.trans (Node.references_of_listed taken member) pathItem
  exact fun _ _ => .refl _

theorem references_of_ofOperation {operation : Operation} {parameters : List Node}
    (fields : Node.referencesOfMembers operation.fields ⊆ context.document.references)
    (pathItem : Node.referencesOfMembers operation.pathItem ⊆ context.document.references)
    (made : (ofOperation context operation).outcome = .ok parameters) {parameter : Node}
    (member : parameter ∈ parameters) : parameter.references ⊆ context.document.references := by
  obtain ⟨own, shared, taken, taken', among⟩ := ofOperation_ok made
  rcases List.mem_append.mp (among member) with member | member
  · exact List.Subset.trans (Node.references_of_listed taken member) fields
  · exact List.Subset.trans (Node.references_of_listed taken' member) pathItem

variable [Text.Romanization]

theorem ofMembers_appendPaths (context : SchemaContext) (location : ParameterLocation)
    (parameter : Members) :
    ofMembers (context.appendPaths more) location parameter =
      ofMembers context location parameter := by
  have same (name : Option String) :
      namesObject (context.appendPaths more) name = namesObject context name := by
    simp only [namesObject, SchemaContext.appendPaths, schema?_appendPaths]
  simp only [ofMembers, same]
  rfl

theorem groups_keptBy (grows : MayGrow context.document) {parameters : List Node}
    (written : ∀ parameter ∈ parameters, parameter.references ⊆ context.document.references)
    (path : String) :
    (groups context parameters path).KeptBy
      (groups (context.appendPaths more) parameters path) := by
  apply Attempt.KeptBy.bind
  · exact .mapM fun parameter member => SchemaContext.resolve_keptBy grows (written _ member)
  intro resolved _
  have same (location : ParameterLocation) :
      atLocation (context.appendPaths more) (resolved.filterMap Node.members?) location =
        atLocation context (resolved.filterMap Node.members?) location := by
    simp only [atLocation]
    congr 1
    funext parameter
    exact ofMembers_appendPaths context location parameter
  simp only [same]
  exact .refl _

end Parameter

namespace RequestBody

variable {context : SchemaContext}

variable [Text.Romanization]

theorem propertiesOf_appendPaths (context : SchemaContext) (schema : Node) :
    propertiesOf (context.appendPaths more) schema = propertiesOf context schema := by
  have plain (required : List Scalar) (properties : List (Scalar × Node)) :
      plainProperties (context.appendPaths more) required properties =
        plainProperties context required properties := by
    induction properties with
    | nil => rfl
    | cons first rest ih =>
      obtain ⟨key, property⟩ := first
      cases property with
      | object members =>
        simp only [plainProperties, ih]
        rfl
      | _ => simp only [plainProperties, ih]
  simp only [propertiesOf, plain]

theorem ofNode?_keptBy (grows : MayGrow context.document) {node : Node}
    (written : node.references ⊆ context.document.references) :
    (ofNode? context node).KeptBy (ofNode? (context.appendPaths more) node) := by
  apply Attempt.KeptBy.bind (SchemaContext.resolve_keptBy grows written)
  intro body _
  simp only [propertiesOf_appendPaths]
  exact .refl _

end RequestBody

namespace Response

variable {context : SchemaContext}

/-- The response that is taken is the value of one of the codes. -/
theorem chosen_eq (responses : Members) :
    ∃ code ∈ codes, chosen responses = responses.valueOf code := by
  simp only [chosen]
  cases found : (codes.map responses.valueOf).find? Node.isPresent with
  | none => exact ⟨.int 201, by simp [codes], by simp [codes]⟩
  | some response =>
    obtain ⟨code, looked, rfl⟩ := List.mem_map.mp (List.mem_of_find?_eq_some found)
    exact ⟨code, looked, rfl⟩

theorem references_chosen (responses : Members) :
    (chosen responses).references ⊆ (Node.object responses).references := by
  obtain ⟨code, _, same⟩ := chosen_eq responses
  rw [same]
  exact List.Subset.trans (Node.references_valueOf responses code)
    (Node.referencesOfMembers_subset responses)

variable [Text.Romanization]

theorem ofNode_keptBy (grows : MayGrow context.document) (dataFields : Option (List String))
    {responses : Node} (written : responses.references ⊆ context.document.references) :
    (ofNode context dataFields responses).KeptBy
      (ofNode (context.appendPaths more) dataFields responses) := by
  cases responses with
  | object members =>
    apply Attempt.KeptBy.bind
      (SchemaContext.resolve_keptBy grows (List.Subset.trans (references_chosen members) written))
    intro response _
    have same (fields : List String) (schema : Node) :
        unwrap (context.appendPaths more) fields schema = unwrap context fields schema := by
      simp only [unwrap, SchemaContext.appendPaths, schema?_appendPaths]
    simp only [same]
    exact .refl _
  | _ => exact .refl _

end Response

end ApiBindings
