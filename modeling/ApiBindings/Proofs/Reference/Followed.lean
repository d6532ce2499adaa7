import ApiBindings.Proofs.Declaration.Reading
import ApiBindings.Proofs.Service.Filing
import ApiBindings.Proofs.Service.Parameters
import ApiBindings.Proofs.Service.UploadSearch

/-!
# References that are followed

Component schemas and parameters are resolved when they are declared. An operation that has
functions is read through its parameters, its request body, the response that is taken and the
schemas of a form. References anywhere else are printed as type names. So what is read of an
operation fails as its own references do, or for a value of another kind than is asked for.
-/
namespace ApiBindings

open Reference ServiceBuilder

open Document

/-- A request body that is a form with parts, and the schema of the form. -/
def IsForm (document : Node) (operation : Operation) (schema : Located) : Prop :=
  ∃ body, (resolve document ((located operation).field "requestBody")).outcome = .ok body ∧
    ((body.node.field "content").get? "multipart/form-data").isSome ∧
    schema = ((body.field "content").field "multipart/form-data").field "schema"

/-- The nodes whose references are followed while the parts of an operation are read. -/
inductive FollowedBy (document : Node) (operation : Operation) : Located → Prop
  | parameter {parameter : Node} (declared : IsParameter operation parameter) :
      FollowedBy document operation (.outside parameter)
  | requestBody : FollowedBy document operation (.outside (operation.field "requestBody"))
  | response {responses : Members} (given : operation.field "responses" = .object responses) :
      FollowedBy document operation (.outside (Response.chosen responses))
  | form {start schema : Located} (form : IsForm document operation start)
      (inside : Upload.FormSchema document start schema) : FollowedBy document operation schema

/-- The nodes whose references are followed in every run on a document. -/
inductive Followed (document : Node) : Located → Prop
  | component {schemas : Members} {key : Scalar} {schema : Node}
      (listed : Document.schemas document = .ok schemas) (member : (key, schema) ∈ schemas) :
      Followed document (.outside schema)
  | parameter {operation : Operation} {parameter : Node}
      (among : HasOperation document operation) (declared : IsParameter operation parameter) :
      Followed document (.outside parameter)
  | function {operation : Operation} {located : Located}
      (among : HasFunction document operation)
      (followed : FollowedBy document operation located) : Followed document located

namespace Followed

variable {document : Node}

/-- A node whose reference can be followed. -/
def Resolves (document : Node) (located : Located) : Prop :=
  ∃ reached, (resolve document located).outcome = .ok reached

theorem resolves_of_free {located : Located} (free : located.node.localReference? = none) :
    Resolves document located := by
  refine ⟨located, ?_⟩
  rw [outcome_resolve, target, free]

/-- A node without a reference of its own. -/
theorem free_of_absent {members : Members}
    (absent : (Members.field members "$ref").isPresent = false) :
    (Node.object members).localReference? = none := by
  cases held : members.get? "$ref" with
  | none => simp [Node.localReference?, Node.get?, Node.members?, held]
  | some node =>
    rw [Members.field, held] at absent
    cases text : node.text? with
    | none => simp [Node.localReference?, Node.get?, Node.members?, held, text]
    | some pointer =>
      obtain rfl : node = .text pointer := by
        unfold Node.text? at text
        split at text
        · rw [Option.some.inj text]
        · simp at text
      have empty : pointer = "" := by simpa [Node.isPresent, Scalar.isPresent] using absent
      simp [Node.localReference?, Node.get?, Node.members?, held, Node.text?, empty]

theorem free_of_notObject {node : Node} (other : node.isObject = false) :
    node.localReference? = none := by
  cases node with
  | object members => simp [Node.isObject, Node.members?] at other
  | _ => rfl

/-- Where no path comes twice, every operation is found at its place. -/
theorem standsIn_of_hasOperation {document : Node} {operation : Operation}
    (distinct : ((pathItems document).map (·.1)).Nodup)
    (among : HasOperation document operation) : (located operation).StandsIn document := by
  obtain ⟨operations, listed, member⟩ := among
  obtain ⟨paths, given, rfl⟩ := operations_ok.mp listed
  obtain ⟨⟨path, item⟩, held, member⟩ := List.mem_flatMap.mp member
  obtain ⟨rfl, rfl, _, found⟩ := Operation.mem_ofPath.mp member
  have here : (.text operation.path, .object operation.pathItem) ∈ pathItems document := by
    rw [pathItems_eq given]
    exact List.mem_map_of_mem held
  -- The place of an operation is looked up by its path, which has to be the only one of its name.
  have ofPath := Members.get?_of_mem distinct here
  have ofMethod : Members.get? operation.pathItem operation.method =
      some (.object operation.fields) := by
    unfold Members.field at found
    cases looked : Members.get? operation.pathItem operation.method with
    | none => simp [looked] at found
    | some fields => simpa [looked] using found
  have all : document.get? "paths" = some (.object (pathItems document)) :=
    hasPaths_of_mem given (List.ne_nil_of_mem held)
  have ofItem (members : Members) (key : String) :
      (Node.object members).get? key = Members.get? members key := rfl
  refine ⟨rfl, ?_⟩
  simp [located, Node.at?, all, ofItem, ofPath, ofMethod]

theorem placed_of_isForm {document : Node} {operation : Operation} {start : Located}
    (form : IsForm document operation start) (placed : (located operation).StandsIn document) :
    Placed document start := by
  obtain ⟨body, resolved, _, rfl⟩ := form
  have operationPlaced : Placed document (located operation) := fun _ => placed
  exact (((placed_of_resolve (operationPlaced.field _) resolved).field _).field _).field _

end Followed

namespace Reference

variable {document : Node} {kind : Failure → Prop}

theorem resolveNode_failsAs {node : Node}
    (fails : (resolve document (.outside node)).FailsAs kind) :
    (resolveNode document node).FailsAs kind :=
  .bind fails fun _ => .pure _

/-- Whether a reference can be followed is not asked of the place it stands at. -/
theorem resolve_failsAs {one other : Located} (same : one.node = other.node)
    (fails : (resolve document one).FailsAs kind) : (resolve document other).FailsAs kind := by
  intro failure failed
  refine fails failure ?_
  rw [outcome_resolve, target] at failed ⊢
  rw [same]
  split
  · rename_i free
    simp [free] at failed
  · rename_i pointer refers
    simpa [refers] using failed

end Reference

namespace Parameter

variable {context : SchemaContext} {kind : Failure → Prop}
  (misfit : ∀ reason, kind (.misfit reason))
include misfit

theorem identities_failsAs {parameters : List Node}
    (each : ∀ parameter ∈ parameters, (context.resolve parameter).FailsAs kind) :
    (identities context parameters).FailsAs kind := by
  induction parameters with
  | nil => exact .pure _
  | cons parameter rest ih =>
    obtain ⟨here, later⟩ := List.forall_mem_cons.mp each
    rw [identities]
    refine .bind here fun resolved => ?_
    split
    · exact .bind (.misfit misfit _) fun _ => .bind (ih later) fun _ => .pure _
    · exact ih later

theorem notDeclared_failsAs (declared : List (Scalar × Scalar)) {parameters : List Node}
    (each : ∀ parameter ∈ parameters, (context.resolve parameter).FailsAs kind) :
    (notDeclared context declared parameters).FailsAs kind := by
  induction parameters with
  | nil => exact .pure _
  | cons parameter rest ih =>
    obtain ⟨here, later⟩ := List.forall_mem_cons.mp each
    rw [notDeclared]
    refine .bind here fun resolved => ?_
    split
    · refine .bind (.misfit misfit _) fun name => ?_
      split
      · exact ih later
      · exact .bind (ih later) fun _ => .pure _
    · exact .bind (ih later) fun _ => .pure _

theorem ofOperation_failsAs {operation : Operation}
    (each : ∀ parameter, IsParameter operation parameter →
      (context.resolve parameter).FailsAs kind) : (ofOperation context operation).FailsAs kind := by
  refine .bind_of_outcome (.misfit misfit _) fun own taken => ?_
  rw [Attempt.outcome_misfit, Attempt.mapError_ok] at taken
  refine .bind (identities_failsAs misfit fun parameter member =>
    each parameter ⟨own, member, .inl taken⟩) fun declared => ?_
  refine .bind_of_outcome (.misfit misfit _) fun shared taken' => ?_
  rw [Attempt.outcome_misfit, Attempt.mapError_ok] at taken'
  exact .bind (notDeclared_failsAs misfit declared fun parameter member =>
    each parameter ⟨shared, member, .inr taken'⟩) fun _ => .pure _

variable [Text.Romanization]

theorem groups_failsAs {parameters : List Node} (path : String)
    (each : ∀ parameter ∈ parameters, (context.resolve parameter).FailsAs kind) :
    (groups context parameters path).FailsAs kind := by
  have describing := Attempt.ofDescribing_failsAs misfit
  have ofMembers (location : ParameterLocation) (parameter : Members) :
      (ofMembers context location parameter).FailsAs kind :=
    .bind (.misfit misfit _) fun _ => .bind (describing.typeText _ _) fun _ => .pure _
  refine .bind (.mapM_of_mem each) fun resolved =>
    .bind (.mapM (fun location => ?_) _) fun _ => .pure _
  exact .bind (.mapM (ofMembers location) _) fun _ => .pure _

end Parameter

section

variable {kind : Failure → Prop} (misfit : ∀ reason, kind (.misfit reason))
include misfit

theorem Upload.collect_failsAs {document : Node} {sharing : Sharing} {start : Located}
    (each : ∀ schema, FormSchema document start schema → (resolve document schema).FailsAs kind)
    {unvisited : List Spot} {waiting : List Located}
    (form : ∀ schema ∈ waiting, FormSchema document start schema) :
    (collect document sharing unvisited waiting).FailsAs kind := by
  induction unvisited, waiting using collect.induct sharing with
  | case1 =>
    rw [collect]
    exact .pure _
  | case2 unvisited first rest inside later =>
    obtain ⟨ofForm, others⟩ := List.forall_mem_cons.mp form
    rw [collect]
    refine .bind_of_outcome (each first ofForm) fun schema resolved => ?_
    cases schema.node with
    | object members =>
      dsimp only
      split
      · rename_i fresh
        refine .bind (.misfit misfit _) fun _ => .bind_of_outcome (.misfit misfit _)
          fun components taken => ?_
        rw [Attempt.outcome_misfit, Attempt.mapError_ok] at taken
        refine .bind (inside schema fresh components fun next member => ?_) fun _ => .pure _
        -- What a schema adds to those that wait are its components, which belong to the form too.
        rcases List.mem_append.mp member with member | member
        · exact .component ofForm resolved taken member
        · exact others next member
      · exact later others
    | _ => exact later others

theorem Upload.ofBody?_failsAs {document : Node} {sharing : Sharing} {operation : Operation}
    (each : ∀ located, FollowedBy document operation located →
      (resolve document located).FailsAs kind) :
    (ofBody? document sharing ((located operation).field "requestBody")).FailsAs kind := by
  have body : (resolve document ((located operation).field "requestBody")).FailsAs kind := by
    have same : (Located.outside (operation.field "requestBody")).node =
      ((located operation).field "requestBody").node := rfl
    exact resolve_failsAs same (each _ .requestBody)
  refine .bind_of_outcome body fun body resolved => ?_
  split
  · rename_i media held
    have form : IsForm document operation
        (((body.field "content").field "multipart/form-data").field "schema") :=
      ⟨body, resolved, by rw [held]; rfl, rfl⟩
    refine .bind (Upload.collect_failsAs misfit (fun schema inside => each _ (.form form inside))
      ?_) fun _ => .pure _
    exact List.forall_mem_singleton.mpr .here
  · exact .pure _

variable [Text.Romanization]

theorem RequestBody.ofNode?_failsAs {context : SchemaContext} {node : Node}
    (body : (context.resolve node).FailsAs kind) : (ofNode? context node).FailsAs kind := by
  have describing := Attempt.ofDescribing_failsAs misfit
  have plain (required : List Scalar) (properties : List (Scalar × Node)) :
      (plainProperties context required properties).FailsAs kind := by
    induction properties with
    | nil => exact .pure _
    | cons first rest ih =>
      obtain ⟨key, property⟩ := first
      cases property with
      | object members =>
        rw [plainProperties]
        refine .bind (.misfit misfit _) fun carried => ?_
        split
        · exact ih
        · exact .bind (describing.typeText _ _) fun _ => .bind ih fun _ => .pure _
      | _ => exact ih
  have ofSchema (schema : Node) : (propertiesOf context schema).FailsAs kind := by
    unfold propertiesOf
    split
    · split
      · split
        · exact .bind (.misfit misfit _) fun _ => plain _ _
        · exact .pure _
      · exact .pure _
    · exact .pure _
  refine .bind body fun resolved => ?_
  split
  · exact .bind (ofSchema _) fun _ => .bind (describing.typeText _ _) fun _ => .pure _
  · exact .pure _

theorem Response.ofNode_failsAs {context : SchemaContext} (dataFields : Option (List String))
    {responses : Node}
    (chosen : ∀ members, responses = .object members →
      (context.resolve (chosen members)).FailsAs kind) :
    (ofNode context dataFields responses).FailsAs kind := by
  unfold ofNode
  split
  · rename_i members
    refine .bind (chosen members rfl) fun response => ?_
    split
    · have text (mediaType : Scalar) (schema : Node) :
          (do return ⟨mediaType.display, ← context.typeText schema⟩ :
            Attempt Response).FailsAs kind :=
        .bind ((Attempt.ofDescribing_failsAs misfit).typeText _ _) fun _ => .pure _
      dsimp only
      split
      · exact .bind (.misfit misfit _) fun _ => text _ _
      · exact .bind (.pure _) fun _ => text _ _
    · exact .pure _
  · exact .pure _

/-- The parts of an operation fail as its references do, or for what does not fit. -/
theorem ServiceBuilder.parts_failsAs {builder : ServiceBuilder} {operation : Operation}
    (each : ∀ located, FollowedBy builder.document operation located →
      (resolve builder.document located).FailsAs kind) :
    (builder.parts operation).FailsAs kind := by
  have parameter (node : Node) (declared : IsParameter operation node) :
      (builder.context.resolve node).FailsAs kind :=
    resolveNode_failsAs (each _ (.parameter declared))
  refine .bind_of_outcome (Parameter.ofOperation_failsAs misfit parameter)
    fun parameters collected => ?_
  obtain ⟨own, shared, taken, taken', among⟩ := Parameter.ofOperation_ok collected
  exact .bind (Parameter.groups_failsAs misfit _ fun node member =>
      parameter node (isParameter_of_taken taken taken' (among member))) fun _ =>
    .bind (RequestBody.ofNode?_failsAs misfit (resolveNode_failsAs (each _ .requestBody))) fun _ =>
    .bind (Upload.ofBody?_failsAs misfit each) fun _ =>
    .bind (Response.ofNode_failsAs misfit _ fun responses given =>
      resolveNode_failsAs (each _ (.response given))) fun _ =>
    .bind (.noted _) fun _ => .pure _

/-- Putting an entry together follows no reference. -/
theorem ServiceBuilder.finish_failsAs (builder : ServiceBuilder) (tag : String)
    (operation : Operation) (parts : EntryParts) (functionName : String) :
    (builder.finish tag operation parts functionName).FailsAs kind := by
  refine .bind (.misfit misfit _) fun _ => .bind (.noted _) fun _ =>
    .bind (.misfit misfit _) fun _ => ?_
  dsimp only
  split
  · exact .misfit misfit _
  · exact .pure _

end

end ApiBindings
