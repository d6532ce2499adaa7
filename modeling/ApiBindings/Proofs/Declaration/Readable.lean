import ApiBindings.Proofs.FailureKinds
import ApiBindings.Proofs.Declaration.Run
import ApiBindings.Proofs.Schema.Describable

/-!
# Components and parameters that can be read

A declaration is made from a schema by its shape, and each shape has parts that are asked for more
than they may be: lists of required keys, collections of components, values of an enumeration,
parameters of an operation. Where these fit, a declaration fails for its references only; where it
is made, they did fit.
-/
namespace ApiBindings

/-- Whatever fails here fails for a reference that leads nowhere. -/
abbrev Attempt.FailsOnReferences {α : Type} (attempt : Attempt α) : Prop :=
  attempt.FailsAs fun failure => failure.isResolution = true

/-- Following a node ends at a node, or at a reference that leads nowhere. -/
def Reference.Legible (document node : Node) : Prop :=
  ∀ reason, target document (Located.outside node) ≠ .error (.misfit reason)

namespace Reference

variable {document node : Node}

theorem resolveNode_fails (legible : Legible document node) :
    (resolveNode document node).FailsOnReferences := by
  refine .bind ?_ fun _ => .pure _
  intro failure failed
  rw [outcome_resolve] at failed
  rcases target_fails failed with known | ⟨reason, rfl⟩
  · exact known
  · exact absurd failed (legible reason)

theorem legible_of_succeeds (succeeds : (resolveNode document node).Succeeds) :
    Legible document node := by
  obtain ⟨value, made⟩ := succeeds
  obtain ⟨reached, resolved, _⟩ := (Attempt.outcome_bind_ok ..).mp made
  rw [outcome_resolve] at resolved
  intro reason failed
  rw [failed] at resolved
  cases resolved

end Reference

open Schema

namespace DeclarationBuilder

/-- Keys are listed as required, and what is declared under the properties can be described. The
keys are asked for also where a schema gives no properties. -/
def PropertiesReadable (schema : Members) : Prop :=
  ∀ properties, propertyMembers? schema = some properties →
    (requiredKeys schema).isOk = true ∧
      ∀ property ∈ properties, property.2.isObject = true → Describable property.2

/-- The values of an enumeration can be described, and no text among them ends in a number with
too many digits. -/
def ValuesReadable (values : List Node) : Prop :=
  (∀ value ∈ values, Describable value) ∧
    ∀ text ∈ EnumText.texts values, (EnumText.tailLiterals text).isOk = true

/-- The components of a composition stand in a collection, and those which are no references have
properties that can be declared. -/
def CompositionReadable (schema : Members) : Prop :=
  ∃ components, (schema.field "allOf").elementsOrNone = .ok components ∧
    ∀ members, .object members ∈ components → (Members.field members "$ref").isPresent = false →
      PropertiesReadable members

/-- What is looked at in an object schema, by the shape of its declaration. -/
def BodyReadable (document : Node) (style : EnumStyle) (schema : Members) : Prop :=
  if (schema.field "$ref").isPresent then Reference.Legible document (.object schema)
  else if schema.field "enum" ≠ .null then
    ∀ values, schema.field "enum" = .list values → style = .literals → ValuesReadable values
  else if (schema.field "allOf").isPresent then CompositionReadable schema
  else if (schema.field "properties").isPresent then PropertiesReadable schema
  else if schema.field "type" == .text "array" && (schema.field "items").isPresent then True
  else if schema.field "type" == .text "object" then True
  else Describable (.object schema)

/-- A component has a text for a key and a schema that can be read. -/
structure ComponentReadable (document : Node) (style : EnumStyle) (key : Scalar) (schema : Node) :
    Prop where
  named : (componentName key).isOk = true
  body : match schema with
    | .object members => BodyReadable document style members
    | value => Describable value

/-- A parameter can be followed to a node, and if this has a name it can be described. -/
structure ParameterReadable (document parameter : Node) : Prop where
  legible : Reference.Legible document parameter
  described : ∀ members,
    (Reference.resolveNode document parameter).outcome = .ok (.object members) →
    (Members.field members "name").isPresent = true → Describable (parameterSchema members)

/-- Parameters stand in a collection, if there are any, and can be read one by one. -/
def ParametersReadable (document node : Node) : Prop :=
  ∃ parameters, node.elementsOrNone = .ok parameters ∧
    ∀ parameter ∈ parameters, ParameterReadable document parameter

variable {builder : DeclarationBuilder}

theorem describable_of_parts_nil {schema : Node} (formed : wellFormed schema = true)
    (none : parts schema = []) : Describable schema :=
  .intro formed fun part member => by simp [none] at member

theorem describable_standIn : Describable standIn := by
  have only : parts standIn = [.object [(.text "type", .text "number")]] := rfl
  refine .intro rfl fun part member => ?_
  rw [only, List.mem_singleton] at member
  subst member
  exact describable_of_parts_nil rfl rfl

variable [Text.Romanization]

/-- A property that is no object, or an empty one, stands for a schema that can be described. -/
theorem property_succeeds (required : List Scalar) (key : Scalar) (node : Node) :
    (builder.property required key node).Succeeds ↔ (node.isObject = true → Describable node) := by
  refine (Attempt.succeeds_bind_pure _ _).trans ((typeText_succeeds _).trans ?_)
  cases node with
  | object members =>
    cases members with
    | nil =>
      -- Nothing is there to be described, and the stand-in always can be.
      exact iff_of_true describable_standIn fun _ => describable_of_parts_nil rfl rfl
    | cons first rest => exact ⟨fun described _ => described, fun described => described rfl⟩
  | _ => exact iff_of_true describable_standIn (by simp [Node.isObject, Node.members?])

theorem properties_succeeds (schema : Members) :
    (builder.properties schema).Succeeds ↔ PropertiesReadable schema := by
  unfold properties PropertiesReadable
  split
  · rename_i properties held
    rw [Attempt.succeeds_bind_iff fun required => (Attempt.succeeds_mapM _ _).trans
      (forall₂_congr fun property _ => property_succeeds required property.1 property.2),
      Attempt.succeeds_misfit]
    simp only [held, Option.some.injEq, forall_eq']
  · rename_i none
    exact iff_of_true (Attempt.succeeds_pure _) fun properties held => by simp [none] at held

theorem valueLiteral_succeeds (namespaceName : String) (value : Node) :
    (EnumText.valueLiteral namespaceName value).Succeeds ↔ Describable value := by
  unfold EnumText.valueLiteral
  split
  · exact iff_of_true (Attempt.succeeds_pure _) (describable_of_parts_nil rfl rfl)
  · exact typeText_succeeds namespaceName

theorem literalUnion_succeeds (namespaceName : String) (values : List Node) :
    (EnumText.literalUnion namespaceName values).Succeeds ↔ ValuesReadable values := by
  unfold EnumText.literalUnion ValuesReadable
  rw [Attempt.succeeds_bind_iff fun literals => (Attempt.succeeds_bind_pure _ _).trans
    (Attempt.succeeds_mapM _ _), Attempt.succeeds_mapM]
  simp only [valueLiteral_succeeds, Attempt.succeeds_misfit]

theorem component_succeeds (schema : Node) :
    (builder.component schema).Succeeds ↔ ∀ members, schema = .object members →
      (Members.field members "$ref").isPresent = false → PropertiesReadable members := by
  unfold component
  split
  · rename_i members
    simp only [Node.object.injEq, forall_eq']
    cases refers : (Members.field members "$ref").isPresent with
    | true =>
      rw [if_pos rfl]
      exact iff_of_true ((Attempt.succeeds_bind_pure _ _).mpr (Attempt.succeeds_noted _)) (by simp)
    | false =>
      rw [if_neg Bool.false_ne_true, Attempt.succeeds_bind_pure, properties_succeeds]
      simp
  · rename_i other
    exact iff_of_true (Attempt.succeeds_pure _) fun members held => absurd held (other members)

theorem composition_succeeds (schema : Members) :
    (builder.composition schema).Succeeds ↔ CompositionReadable schema := by
  unfold composition CompositionReadable
  rw [Attempt.succeeds_bind]
  simp only [Attempt.outcome_misfit, Attempt.mapError_ok, Attempt.succeeds_bind_pure,
    Attempt.succeeds_mapM, component_succeeds]
  refine exists_congr fun components => and_congr_right fun _ => ?_
  constructor
  · exact fun each members among => each _ among members rfl
  · rintro each _ among members rfl
    exact each members among

theorem enumeration_succeeds (schema : Members) :
    (builder.enumeration schema).Succeeds ↔ ∀ values, schema.field "enum" = .list values →
      builder.settings.enumStyle = .literals → ValuesReadable values := by
  unfold enumeration
  split
  · rename_i values held
    simp only [held, Node.list.injEq, forall_eq']
    cases builder.settings.enumStyle with
    | enumeration => exact iff_of_true (Attempt.succeeds_pure _) (by simp)
    | literals =>
      dsimp only
      rw [Attempt.succeeds_bind_pure, literalUnion_succeeds]
      simp
  · rename_i other
    exact iff_of_true (Attempt.succeeds_pure _) fun values held => absurd held (other values)

omit [Text.Romanization] in
/-- A reference is described by its name. -/
theorem describable_of_reference {members : Members}
    (refers : (members.field "$ref").isPresent = true) : Describable (.object members) := by
  have kind : kindOfMembers members = .reference := if_pos refers
  exact describable_of_parts_nil (by rw [wellFormed, kind]) (by rw [parts, kind])

/-- Without a reference, a declaration is made exactly when its schema can be read. -/
theorem bodyOfMembers_succeeds {schema : Members}
    (plain : (schema.field "$ref").isPresent = false) :
    (builder.bodyOfMembers schema).Succeeds ↔
      BodyReadable builder.document builder.settings.enumStyle schema := by
  -- Both sides decide on the shape in the same order.
  unfold bodyOfMembers BodyReadable
  simp only [plain, Bool.false_eq_true, if_false, decide_eq_true_eq]
  split
  · exact enumeration_succeeds schema
  split
  · exact composition_succeeds schema
  split
  · exact (Attempt.succeeds_bind_pure _ _).trans (properties_succeeds schema)
  split
  · exact iff_of_true ((Attempt.succeeds_bind_pure _ _).mpr (Attempt.succeeds_noted _)) trivial
  split
  · exact iff_of_true (Attempt.succeeds_pure _) trivial
  · exact (Attempt.succeeds_bind_pure _ _).trans (typeText_succeeds _)

theorem bodyReadable_of_succeeds {schema : Members}
    (succeeds : (builder.bodyOfMembers schema).Succeeds) :
    BodyReadable builder.document builder.settings.enumStyle schema := by
  cases refers : (schema.field "$ref").isPresent with
  | false => exact (bodyOfMembers_succeeds refers).mp succeeds
  | true =>
    rw [bodyOfMembers, if_pos refers, Attempt.succeeds_bind] at succeeds
    obtain ⟨value, resolved, _⟩ := succeeds
    rw [BodyReadable, if_pos refers]
    exact Reference.legible_of_succeeds ⟨value, resolved⟩

theorem bodyOfMembers_fails {schema : Members}
    (readable : BodyReadable builder.document builder.settings.enumStyle schema) :
    (builder.bodyOfMembers schema).FailsOnReferences := by
  cases refers : (schema.field "$ref").isPresent with
  | false => exact .of_succeeds ((bodyOfMembers_succeeds refers).mpr readable)
  | true =>
    rw [BodyReadable, if_pos refers] at readable
    rw [bodyOfMembers, if_pos refers]
    apply Attempt.FailsAs.bind (Reference.resolveNode_fails readable)
    -- Its target is only asked for; what is declared is the name of the reference.
    intro _
    refine .of_succeeds ((Attempt.succeeds_bind_pure _ _).mpr ((typeText_succeeds _).mpr ?_))
    exact describable_of_reference refers

/-- Naming a declaration fails for the key of its component only. -/
theorem named_succeeds (key : Scalar) (body : DeclarationBody) :
    (do return ⟨← TypeName.sanitize builder.settings.namespaceName (← componentName key), body⟩ :
      Attempt Declaration).Succeeds ↔ (componentName key).isOk = true := by
  have sanitized (raw : String) :
      (do return ⟨← TypeName.sanitize builder.settings.namespaceName raw, body⟩ :
        Attempt Declaration).Succeeds :=
    (Attempt.succeeds_bind_pure _ _).mpr (Attempt.succeeds_noted _)
  rw [Attempt.succeeds_bind_iff fun raw => iff_true_intro (sanitized raw),
    Attempt.succeeds_misfit, and_iff_left trivial]

theorem componentReadable_of_succeeds {key : Scalar} {schema : Node}
    (succeeds : (builder.ofComponent key schema).Succeeds) :
    ComponentReadable builder.document builder.settings.enumStyle key schema := by
  rw [ofComponent, Attempt.succeeds_bind] at succeeds
  obtain ⟨body, made, named⟩ := succeeds
  refine ⟨(named_succeeds key body).mp named, ?_⟩
  cases schema with
  | object members => exact bodyReadable_of_succeeds ⟨body, made⟩
  | _ =>
    have described : Attempt.Succeeds (builder.body _) := ⟨body, made⟩
    exact (typeText_succeeds _).mp ((Attempt.succeeds_bind_pure _ _).mp described)

theorem ofComponent_fails {key : Scalar} {schema : Node}
    (readable : ComponentReadable builder.document builder.settings.enumStyle key schema) :
    (builder.ofComponent key schema).FailsOnReferences := by
  have body : (builder.body schema).FailsOnReferences := by
    have read := readable.body
    cases schema with
    | object members => exact bodyOfMembers_fails read
    | _ =>
      exact .of_succeeds ((Attempt.succeeds_bind_pure _ _).mpr ((typeText_succeeds _).mpr read))
  exact .bind body fun _ => .of_succeeds ((named_succeeds key _).mpr readable.named)

theorem parameterReadable_of_succeeds {parameter : Node}
    (succeeds : (builder.parameterProperty? parameter).Succeeds) :
    ParameterReadable builder.document parameter := by
  rw [parameterProperty?, Attempt.succeeds_bind] at succeeds
  obtain ⟨reached, resolved, succeeds⟩ := succeeds
  -- What the parameter leads to is the node that was described.
  refine ⟨Reference.legible_of_succeeds ⟨reached, resolved⟩, fun members leads named => ?_⟩
  obtain rfl := Except.ok.inj (resolved.symm.trans leads)
  dsimp only at succeeds
  rw [if_neg (by simp [named])] at succeeds
  exact (typeText_succeeds _).mp ((Attempt.succeeds_bind_pure _ _).mp succeeds)

theorem parameterProperty?_fails {parameter : Node}
    (readable : ParameterReadable builder.document parameter) :
    (builder.parameterProperty? parameter).FailsOnReferences := by
  apply Attempt.FailsAs.bind_of_outcome (Reference.resolveNode_fails readable.legible)
  intro reached resolved
  split
  · rename_i members
    split
    · exact .pure _
    · rename_i named
      have described := readable.described members resolved (by simpa using named)
      have typed := (typeText_succeeds builder.settings.namespaceName).mpr described
      exact .of_succeeds ((Attempt.succeeds_bind_pure _ _).mpr typed)
  · exact .pure _

theorem parametersReadable_of_succeeds {operation : Operation}
    (succeeds : (builder.ofParameters? operation).Succeeds) :
    ParametersReadable builder.document (operation.field "parameters") ∧
      ParametersReadable builder.document (Members.field operation.pathItem "parameters") := by
  obtain ⟨result, made⟩ := succeeds
  obtain ⟨own, shared, properties, taken, taken', all, _⟩ := ofParameters?_ok.mp made
  have each : ∀ parameter ∈ own ++ shared, ParameterReadable builder.document parameter := by
    intro parameter member
    obtain ⟨property, _, read⟩ := exists_of_forall₂ all member
    exact parameterReadable_of_succeeds ⟨property, read⟩
  rw [List.forall_mem_append] at each
  exact ⟨⟨own, taken, each.1⟩, ⟨shared, taken', each.2⟩⟩

theorem ofParameters?_fails {operation : Operation}
    (own : ParametersReadable builder.document (operation.field "parameters"))
    (shared : ParametersReadable builder.document
      (Members.field operation.pathItem "parameters")) :
    (builder.ofParameters? operation).FailsOnReferences := by
  obtain ⟨ownNodes, given, each⟩ := own
  obtain ⟨sharedNodes, given', each'⟩ := shared
  refine .bind_of_ok given (.bind_of_ok given' (.bind ?_ fun properties => ?_))
  · apply Attempt.FailsAs.mapM_of_mem
    intro parameter member
    rcases List.mem_append.mp member with inOwn | inShared
    · exact parameterProperty?_fails (each parameter inOwn)
    · exact parameterProperty?_fails (each' parameter inShared)
  · dsimp only
    split
    · exact .pure _
    · exact .bind (.noted _) fun _ => .pure _

end DeclarationBuilder

end ApiBindings
