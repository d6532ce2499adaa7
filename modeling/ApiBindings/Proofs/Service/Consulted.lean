import ApiBindings.Proofs.Declaration.Readable
import ApiBindings.Proofs.Reference.Named
import ApiBindings.Proofs.Text.Romanization
import ApiBindings.Service.Body

/-!
# Readers that look components up

Whether a parameter is an object and whether a response is an envelope is read off a component
schema. The reference to it is not followed for this: its component is looked up by name, so both
answers are those of the node it resolves to where the look-up finds this node.
-/
namespace ApiBindings

open Reference Pointer

namespace Parameter

/-- The type that a parameter declares for itself, in its schema or beside it. -/
def declaredType (parameter : Members) : Node :=
  let declared := (schemaOf parameter).field "type"
  if declared.isPresent then declared else parameter.field "type"

variable {parameter : Members} {first : String}

theorem namesObject_of_consulted {context : SchemaContext} {schema : Node} {found : Option Located}
    (looked : consulted context.document schema = .ok found) :
    namesObject context (name? schema) =
      .ok (found.any fun component => component.node.field "type" == .text "object") := by
  unfold namesObject
  rcases consulted_ok looked with ⟨unnamed, rfl⟩ | ⟨name, component, named, listed, rfl⟩
  · rw [unnamed]
    rfl
  · rw [named]
    dsimp only
    rw [listed]
    cases component <;> rfl

theorem describable_of_localReference? {schema : Members}
    (refers : (Node.object schema).localReference? = some first) :
    Schema.Describable (.object schema) := by
  apply DeclarationBuilder.describable_of_reference
  obtain ⟨found, present⟩ := text_of_localReference? refers
  have written : schema.get? "$ref" = some (.text first) := found
  simp [Members.field, written, Node.isPresent, Scalar.isPresent, present]

variable [Text.Romanization]

/-- A parameter whose schema is a local reference is an object if it says so itself or if the
component that is looked up does. -/
theorem isObject_ofMembers (context : SchemaContext) (location : ParameterLocation)
    {found : Option Located}
    (refers : (Node.object (schemaOf parameter)).localReference? = some first)
    (named : writtenName first ≠ "")
    (looked : consulted context.document (.object (schemaOf parameter)) = .ok found) :
    ∃ built, (ofMembers context location parameter).outcome = .ok built ∧
      (built.isObject = true ↔ declaredType parameter = .text "object" ∨
        ∃ component ∈ found, component.node.field "type" = .text "object") := by
  -- The schema has a name, so that of the parameter itself is not asked for.
  have own : componentName? parameter (schemaOf parameter) =
      name? (.object (schemaOf parameter)) := by
    rw [componentName?, name?_of_localReference? refers, Option.filter_some,
      if_pos (by simpa using named)]
  have describable := describable_of_localReference? refers
  obtain ⟨type, described⟩ : (context.typeText (.object (schemaOf parameter))).Succeeds :=
    (Schema.typeText_succeeds context.namespaceName).mpr describable
  simp only [ofMembers, own, namesObject_of_consulted looked, Attempt.outcome_bind_ok,
    Attempt.outcome_misfit, Attempt.outcome_pure, described, Except.mapError, Except.ok.injEq,
    exists_eq_left', declaredType, Bool.or_eq_true, beq_iff_eq, Option.any_eq_true,
    Option.mem_def]

end Parameter

namespace Response

/-- The properties of an envelope: an object schema with properties. -/
def envelope? (component : Node) : Option Members :=
  if component.field "type" = .text "object" then (component.field "properties").members? else none

/-- Inside the envelope that is looked up for a schema. -/
theorem unwrap_of_consulted (context : SchemaContext) {schema : Node} {found : Option Located}
    (dataFields : List String) (looked : consulted context.document schema = .ok found) :
    unwrap context dataFields schema =
      .ok ((found.bind fun component => envelope? component.node).elim schema fun envelope =>
        unwrapped dataFields envelope schema) := by
  unfold unwrap
  rcases consulted_ok looked with ⟨unnamed, rfl⟩ | ⟨name, component, named, listed, rfl⟩
  · rw [unnamed]
    rfl
  · rw [named]
    dsimp only
    rw [listed]
    cases component with
    | none => rfl
    | some component =>
      cases component with
      | object members =>
        have properties : (Node.object members).field "properties" =
          Members.field members "properties" := rfl
        have type : (Node.object members).field "type" = Members.field members "type" := rfl
        simp only [Option.map_some, Option.bind_some, componentAt, envelope?, properties, type,
          bind, Except.bind, pure, Except.pure]
        cases Members.field members "properties" with
        | object envelope =>
          by_cases isObject : Members.field members "type" = .text "object"
          · simp [isObject, Node.members?]
          · simp [isObject]
        | _ => simp [Node.members?]
      | _ => rfl

end Response

namespace Reference

section

variable [Text.Romanization]

/-- A local reference that is resolved is looked up under its name as well. The component found is
the node it resolves to, at its place, exactly if the last pointer of its chain names it as the
first one is written. Then the parameter with this schema is an object, itself declared as one
apart, exactly if the node is, and a response with it is read inside the node if this is an
envelope. -/
theorem consulted_resolved_iff (document : Node) (schema : Members) (first : String)
    (reached : Located) (refers : (Node.object schema).localReference? = some first)
    (resolved : (resolve document (.outside (.object schema))).outcome = .ok reached) :
    ∃ before last, (before ++ [last]).Nodup ∧
      Follows document (.outside (.object schema)) (before ++ [last]) reached ∧
      (consulted document (.object schema) = .ok (some reached) ↔
        NamesTarget document first last) ∧
      (NamesTarget document first last → ∀ namespaceName,
        (∀ location parameter, Parameter.schemaOf parameter = schema → ∃ built,
          (Parameter.ofMembers ⟨document, namespaceName⟩ location parameter).outcome = .ok built ∧
          (built.isObject = true ↔ Parameter.declaredType parameter = .text "object" ∨
            reached.node.field "type" = .text "object")) ∧
        ∀ dataFields, Response.unwrap ⟨document, namespaceName⟩ dataFields (.object schema) =
          .ok ((Response.envelope? reached.node).elim (.object schema) fun envelope =>
            Response.unwrapped dataFields envelope (.object schema))) := by
  rw [outcome_resolve] at resolved
  obtain ⟨free, pointers, distinct, follows⟩ := (target_ok_iff _ _ _).mp resolved
  rcases follows.walk_last with ⟨_, rfl⟩ | ⟨before, last, rfl, walked⟩
  · -- The schema is a reference, so it is not where the chain ends.
    have free : (Node.object schema).localReference? = none := free
    simp [refers] at free
  · have agrees := consulted_iff_namesTarget refers walked
    refine ⟨before, last, distinct, follows, agrees, fun names namespaceName => ⟨?_, ?_⟩⟩
    · rintro location parameter rfl
      obtain ⟨built, made, isObject⟩ := Parameter.isObject_ofMembers ⟨document, namespaceName⟩
        location refers names.named (agrees.mpr names)
      exact ⟨built, made, by simpa using isObject⟩
    · intro dataFields
      exact Response.unwrap_of_consulted ⟨document, namespaceName⟩ dataFields (agrees.mpr names)

end

/-- A page of items. -/
def pageSchema : Node :=
  .object [(.text "type", .text "object"), (.text "properties", .object
    [(.text "items", .object [(.text "type", .text "array")])])]

/-- The component `Page`, with another name for it elsewhere in the document. -/
def pageDocument : Node :=
  .object [(.text "components", .object [(.text "schemas", .object [(.text "Page", pageSchema)])]),
    (.text "definitions", .object
      [(.text "Page", .object [(.text "$ref", .text "#/components/schemas/Page")])])]

def pageReference : Members := [(.text "$ref", .text "#/definitions/Page")]

def pageParameter : Members :=
  [(.text "name", .text "page"), (.text "in", .text "query"),
    (.text "schema", .object pageReference)]

/-- Both pointers of the chain are written with the name of the component. -/
theorem consulted_resolved_pageReference :
    (Node.object pageReference).localReference? = some "#/definitions/Page" ∧
    (resolve pageDocument (.outside (.object pageReference))).outcome =
      .ok (componentAt "Page" pageSchema) ∧
    consulted pageDocument (.object pageReference) = .ok (some (componentAt "Page" pageSchema)) ∧
    (∃ built, (Parameter.ofMembers ⟨pageDocument, "API"⟩ .query pageParameter).outcome =
      .ok built ∧ built.isObject = true) ∧
    Response.unwrap ⟨pageDocument, "API"⟩ ["items"] (.object pageReference) =
      .ok (.object [(.text "type", .text "array")]) := by
  have refers : (Node.object pageReference).localReference? = some "#/definitions/Page" := by
    decide +kernel
  have walked : walk pageDocument "#/definitions/Page" =
      .ok ⟨true, [.key "definitions", .key "Page"],
        .object [(.text "$ref", .text "#/components/schemas/Page")]⟩ := by
    have written : ofSteps [.key "definitions", .key "Page"] = "#/definitions/Page" := by
      decide +kernel
    rw [← written, walk_ofSteps_iff (by simp [Step.IsNamed]) rfl]
    simp [Step.IsReadable]
  have walked' : walk pageDocument "#/components/schemas/Page" =
      .ok (componentAt "Page" pageSchema) := by
    have written : ofComponent "Page" = "#/components/schemas/Page" := by decide +kernel
    rw [← written]
    exact walk_ofComponent rfl rfl (by decide) (by simp [pageSchema])
  have chain : Follows pageDocument (.outside (.object pageReference))
      ["#/definitions/Page", "#/components/schemas/Page"] (componentAt "Page" pageSchema) :=
    .next refers walked (.next (by decide +kernel) walked' (.here _))
  have free : (componentAt "Page" pageSchema).node.localReference? = none := rfl
  have resolved : (resolve pageDocument (.outside (.object pageReference))).outcome =
      .ok (componentAt "Page" pageSchema) := by
    rw [outcome_resolve]
    exact target_of_ends (by decide) chain (.concrete free)
  have names : NamesTarget pageDocument "#/definitions/Page" "#/components/schemas/Page" :=
    ⟨rfl, by decide +kernel, by decide +kernel⟩
  obtain ⟨before, last, distinct, follows, agrees, reads⟩ :=
    consulted_resolved_iff pageDocument pageReference _ _ refers resolved
  obtain rfl : "#/components/schemas/Page" = last := by
    have same := (Ends.determined chain (by decide) (.concrete free) follows distinct
      (.concrete free)).1
    simpa using congrArg List.getLast? same
  obtain ⟨parameters, responses⟩ := reads names "API"
  obtain ⟨built, made, isObject⟩ := parameters .query pageParameter rfl
  exact ⟨refers, resolved, agrees.mpr names, ⟨built, made, isObject.mpr (.inr rfl)⟩,
    (responses ["items"]).trans rfl⟩

/-- A component with a slash in its key, which its pointer writes as an escape. -/
def slashDocument : Node :=
  .object [(.text "components", .object [(.text "schemas", .object [(.text "a/b", pageSchema)])])]

def slashReference : Members := [(.text "$ref", .text "#/components/schemas/a~1b")]

def slashParameter : Members :=
  [(.text "name", .text "filter"), (.text "in", .text "query"),
    (.text "schema", .object slashReference)]

/-- Under the escape no component is found, so the parameter is no object and the envelope stays
closed, though the reference resolves to an object with properties. -/
theorem not_consulted_of_slashReference :
    (resolve slashDocument (.outside (.object slashReference))).outcome =
      .ok (componentAt "a/b" pageSchema) ∧
    pageSchema.field "type" = .text "object" ∧
    consulted slashDocument (.object slashReference) = .ok none ∧
    (∃ built, (Parameter.ofMembers ⟨slashDocument, "API"⟩ .query slashParameter).outcome =
      .ok built ∧ built.isObject = false) ∧
    Response.envelope? pageSchema =
      some [(.text "items", .object [(.text "type", .text "array")])] ∧
    Response.unwrap ⟨slashDocument, "API"⟩ ["items"] (.object slashReference) =
      .ok (.object slashReference) := by
  have refers : (Node.object slashReference).localReference? =
      some "#/components/schemas/a~1b" := by
    decide +kernel
  have walked : walk slashDocument "#/components/schemas/a~1b" =
      .ok (componentAt "a/b" pageSchema) := by
    have written : ofComponent "a/b" = "#/components/schemas/a~1b" := by decide +kernel
    rw [← written]
    exact walk_ofComponent rfl rfl (by decide) (by simp [pageSchema])
  have resolved : (resolve slashDocument (.outside (.object slashReference))).outcome =
      .ok (componentAt "a/b" pageSchema) := by
    rw [outcome_resolve]
    exact target_of_ends (List.nodup_singleton _) (.next refers walked (.here _)) (.concrete rfl)
  have written : writtenName "#/components/schemas/a~1b" = "a~1b" := by decide +kernel
  have named : writtenName "#/components/schemas/a~1b" ≠ "" := by
    rw [written]
    decide
  have looked : consulted slashDocument (.object slashReference) = .ok none := by
    rw [consulted_of_named refers named, written]
    rfl
  have own : Parameter.schemaOf slashParameter = slashReference := rfl
  have undeclared : Parameter.declaredType slashParameter = .null := rfl
  rw [← own] at refers looked
  obtain ⟨built, made, isObject⟩ :=
    Parameter.isObject_ofMembers ⟨slashDocument, "API"⟩ .query refers named looked
  refine ⟨resolved, rfl, looked, ⟨built, made, ?_⟩, rfl,
    Response.unwrap_of_consulted ⟨slashDocument, "API"⟩ ["items"] looked⟩
  rw [← Bool.not_eq_true, isObject]
  simp [undeclared]

end Reference

end ApiBindings
