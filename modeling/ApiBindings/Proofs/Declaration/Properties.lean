import ApiBindings.Proofs.Declaration.Run
import ApiBindings.Proofs.Text.Romanization

/-!
# Where declared properties come from

A declaration lists its properties as it meets them: those of an object schema, of the objects in a
composition one after the other, and the named parameters of an operation with those of its path.
Each list is free of repetitions where the document is, but they are put behind each other as they
are. So a name is declared twice whenever two of them have it.
-/
namespace ApiBindings.DeclarationBuilder

variable {builder : DeclarationBuilder}

/-- The properties an object schema lists, with the schema of each. -/
def listedProperties (schema : Members) : List (Scalar × Members) :=
  match schema.field "properties" with
  | .object members => members.map fun (key, node) => (key, propertySchema node)
  | _ => []

/-- What a component of a composition lists, if it is not a reference. -/
def inlineProperties (schema : Node) : List (Scalar × Members) :=
  match schema with
  | .object members =>
    if (Members.field members "$ref").isPresent then [] else listedProperties members
  | _ => []

/-- What is gone through in a node; nothing if it cannot be. -/
def itemsOf (node : Node) : List Node := node.elementsOrNone.toOption.getD []

/-- The properties a component schema is declared with. -/
def declaredProperties (schema : Node) : List (Scalar × Members) :=
  match schema with
  | .object members =>
    if (Members.field members "$ref").isPresent ∨ Members.field members "enum" ≠ .null then []
    else if (Members.field members "allOf").isPresent then
      (itemsOf (Members.field members "allOf")).flatMap inlineProperties
    else listedProperties members
  | _ => []

/-- The object a parameter stands for, if it has a name. -/
def namedParameter? (document parameter : Node) : Option Members :=
  match (Reference.resolveNode document parameter).outcome with
  | .ok (.object members) => if (Members.field members "name").isPresent then some members else none
  | _ => none

/-- The named parameters of an operation, behind its own those of its path. -/
def namedParameters (document : Node) (operation : Operation) : List Members :=
  (itemsOf (operation.field "parameters") ++
    itemsOf (Members.field operation.pathItem "parameters")).filterMap (namedParameter? document)

/-- The text that is shown with a parameter. -/
def parameterText (parameter : Members) : Node :=
  if (Members.field parameter "description").isPresent then Members.field parameter "description"
  else .text ""

section

variable [Text.Romanization]

/-- The parent a component of a composition adds, if it is a reference. -/
def componentParents (builder : DeclarationBuilder) (schema : Node) : List String :=
  match schema with
  | .object members =>
    if (Members.field members "$ref").isPresent then [(builder.parentName members).value] else []
  | _ => []

/-- A property is what this member is declared as. -/
structure DeclaredAs (builder : DeclarationBuilder) (source : Scalar × Members)
    (property : PropertyDeclaration) : Prop where
  name : property.name = source.1.display
  type : (builder.typeText
    (if source.2.isEmpty then Schema.standIn else .object source.2)).outcome = .ok property.type
  description : property.description = .text (describeProperty source.2)
  schema : property.schema = .object source.2

/-- A property has the name of this member and shows its title and description. -/
def OfMember (source : Scalar × Members) (property : PropertyDeclaration) : Prop :=
  property.name = source.1.display ∧ property.description = .text (describeProperty source.2)

/-- A property has the name of this parameter and shows its description. -/
def OfParameter (parameter : Members) (property : PropertyDeclaration) : Prop :=
  property.name = (Members.field parameter "name").display ∧
    property.description = parameterText parameter

omit [Text.Romanization] in
/-- A schema lists the members it gives as properties. -/
theorem listedProperties_eq (schema : Members) :
    listedProperties schema =
      ((propertyMembers? schema).getD []).map fun (key, node) => (key, propertySchema node) := by
  unfold listedProperties propertyMembers?
  cases schema.field "properties" with
  | object members => rfl
  | _ => dsimp only; split <;> rfl

omit [Text.Romanization] in
theorem map_eq_of_forall₂ {α β γ : Type} {left : α → γ} {right : β → γ} {items : List α}
    {results : List β} (all : List.Forall₂ (fun item result => right result = left item)
      items results) : results.map right = items.map left := by
  rw [← List.forall₂_eq_eq_eq, List.forall₂_map_left_iff, List.forall₂_map_right_iff]
  exact all.flip

theorem DeclaredAs.ofMember {source : Scalar × Members} {property : PropertyDeclaration}
    (declares : builder.DeclaredAs source property) : OfMember source property :=
  ⟨declares.name, declares.description⟩

theorem property_ok {required : List Scalar} {key : Scalar} {node : Node}
    {property : PropertyDeclaration}
    (made : (builder.property required key node).outcome = .ok property) :
    builder.DeclaredAs (key, propertySchema node) property := by
  simp only [DeclarationBuilder.property, Attempt.outcome_bind_ok, Attempt.outcome_pure,
    Except.ok.injEq] at made
  obtain ⟨type, described, rfl⟩ := made
  exact ⟨rfl, described, rfl, rfl⟩

theorem properties_ok {schema : Members} {properties : List PropertyDeclaration}
    (read : (builder.properties schema).outcome = .ok properties) :
    List.Forall₂ builder.DeclaredAs (listedProperties schema) properties := by
  unfold DeclarationBuilder.properties at read
  rw [listedProperties_eq, List.forall₂_map_left_iff]
  split at read
  · rename_i members held
    simp only [Attempt.outcome_bind_ok, Attempt.outcome_mapM_ok] at read
    obtain ⟨required, _, all⟩ := read
    rw [held]
    exact all.imp fun member property made => property_ok made
  · rename_i none
    obtain rfl := Except.ok.inj read
    rw [none]
    exact .nil

theorem component_ok {schema : Node} {parents : List String} {properties : List PropertyDeclaration}
    (read : (builder.component schema).outcome = .ok (parents, properties)) :
    List.Forall₂ builder.DeclaredAs (inlineProperties schema) properties ∧
      parents = builder.componentParents schema := by
  cases schema with
  | object members =>
    rw [component] at read
    rw [inlineProperties, componentParents]
    split at read
    · rename_i refers
      simp only [Attempt.outcome_bind_ok, Attempt.outcome_noted, Attempt.outcome_pure,
        Except.ok.injEq, Prod.mk.injEq] at read
      obtain ⟨_, rfl, rfl, rfl⟩ := read
      rw [if_pos refers, if_pos refers]
      exact ⟨.nil, rfl⟩
    · rename_i inline
      simp only [Attempt.outcome_bind_ok, Attempt.outcome_pure, Except.ok.injEq,
        Prod.mk.injEq] at read
      obtain ⟨_, made, rfl, rfl⟩ := read
      rw [if_neg inline, if_neg inline]
      exact ⟨properties_ok made, rfl⟩
  | scalar _ | list _ =>
    simp only [component, Attempt.outcome_pure, Except.ok.injEq, Prod.mk.injEq] at read
    obtain ⟨rfl, rfl⟩ := read
    exact ⟨.nil, rfl⟩

/-- A composition is declared with the properties and parents of its components, one after the
other. -/
theorem composition_ok {schema : Members} {body : DeclarationBody}
    (read : (builder.composition schema).outcome = .ok body) :
    List.Forall₂ builder.DeclaredAs ((itemsOf (schema.field "allOf")).flatMap inlineProperties)
      body.properties ∧
      body.parents = (itemsOf (schema.field "allOf")).flatMap builder.componentParents ∧
      body.kind = .object := by
  simp only [composition, Attempt.outcome_bind_ok, Attempt.outcome_misfit, Attempt.mapError_ok,
    Attempt.outcome_mapM_ok, Attempt.outcome_pure, Except.ok.injEq] at read
  obtain ⟨listed, taken, components, all, rfl⟩ := read
  rw [itemsOf, taken]
  have related := all.imp fun _ _ made => component_ok made
  refine ⟨List.rel_flatMap (related.imp fun _ _ both => both.1) fun _ _ same => same, ?_, rfl⟩
  have parents : components.map (·.1) = listed.map builder.componentParents :=
    map_eq_of_forall₂ (related.imp fun _ _ both => both.2)
  simp only [DeclarationBody.object, List.flatMap_def, parents, Except.toOption, Option.getD_some]

theorem enumeration_ok {schema : Members} {body : DeclarationBody}
    (read : (builder.enumeration schema).outcome = .ok body) :
    body.properties = [] ∧ body.kind ≠ .object := by
  unfold enumeration at read
  split at read
  · split at read
    · obtain rfl := Except.ok.inj read
      exact ⟨rfl, nofun⟩
    · simp only [Attempt.outcome_bind_ok, Attempt.outcome_pure, Except.ok.injEq] at read
      obtain ⟨_, _, rfl⟩ := read
      exact ⟨rfl, nofun⟩
  · obtain rfl := Except.ok.inj read
    exact ⟨rfl, nofun⟩

/-- A component is declared with the properties of its schema, and with none if it is declared as
anything but an object. -/
theorem body_ok {schema : Node} {body : DeclarationBody}
    (read : (builder.body schema).outcome = .ok body) :
    List.Forall₂ OfMember (declaredProperties schema) body.properties ∧
      (body.kind = .object ∨ body.properties = []) := by
  have none (nothing : body.properties = []) : List.Forall₂ OfMember [] body.properties ∧
      (body.kind = .object ∨ body.properties = []) :=
    ⟨nothing ▸ .nil, .inr nothing⟩
  cases schema with
  | object members =>
    replace read : (builder.bodyOfMembers members).outcome = .ok body := read
    -- The checks run in the order of the declaration; the last three find no properties to list.
    unfold bodyOfMembers at read
    rw [declaredProperties]
    split at read
    · rename_i refers
      simp only [Attempt.outcome_bind_ok, Attempt.outcome_pure, Except.ok.injEq] at read
      obtain ⟨_, _, _, _, rfl⟩ := read
      rw [if_pos (.inl refers)]
      exact none rfl
    split at read
    · rename_i values
      rw [if_pos (.inr (of_decide_eq_true values))]
      exact none (enumeration_ok read).1
    rename_i own plain
    rw [if_neg (by simpa using And.intro own plain)]
    split at read
    · rename_i composed
      rw [if_pos composed]
      obtain ⟨all, _, kind⟩ := composition_ok read
      exact ⟨all.imp fun _ _ declares => declares.ofMember, .inl kind⟩
    rename_i simple
    rw [if_neg simple]
    split at read
    · simp only [Attempt.outcome_bind_ok, Attempt.outcome_pure, Except.ok.injEq] at read
      obtain ⟨_, made, rfl⟩ := read
      exact ⟨(properties_ok made).imp fun _ _ declares => declares.ofMember, .inl rfl⟩
    rename_i absent
    have nothing : listedProperties members = [] := by
      unfold listedProperties
      split
      · rename_i listed held
        rw [held] at absent
        simpa [Node.isPresent] using absent
      · rfl
    rw [nothing]
    apply none
    split at read
    · simp only [Attempt.outcome_bind_ok, Attempt.outcome_noted, Attempt.outcome_pure,
        Except.ok.injEq] at read
      obtain ⟨_, _, rfl⟩ := read
      rfl
    split at read
    · obtain rfl := Except.ok.inj read
      rfl
    · simp only [Attempt.outcome_bind_ok, Attempt.outcome_pure, Except.ok.injEq] at read
      obtain ⟨_, _, rfl⟩ := read
      rfl
  | scalar _ | list _ =>
    simp only [DeclarationBuilder.body, Attempt.outcome_bind_ok, Attempt.outcome_pure,
      Except.ok.injEq] at read
    obtain ⟨_, _, rfl⟩ := read
    exact none rfl

theorem ofComponent_ok {key : Scalar} {schema : Node} {declaration : Declaration}
    (made : (builder.ofComponent key schema).outcome = .ok declaration) :
    (builder.body schema).outcome = .ok declaration.body := by
  simp only [ofComponent, Attempt.outcome_bind_ok, Attempt.outcome_misfit, Attempt.outcome_noted,
    Attempt.outcome_pure, Except.ok.injEq] at made
  obtain ⟨body, read, _, _, _, _, rfl⟩ := made
  exact read

/-- A parameter has a property if it stands for an object with a name. -/
theorem parameterProperty?_ok {parameter : Node} {result : Option PropertyDeclaration}
    (read : (builder.parameterProperty? parameter).outcome = .ok result) :
    (namedParameter? builder.document parameter = none ∧ result = none) ∨
      ∃ members property, namedParameter? builder.document parameter = some members ∧
        result = some property ∧ OfParameter members property := by
  simp only [parameterProperty?, Attempt.outcome_bind_ok] at read
  obtain ⟨reached, resolved, read⟩ := read
  unfold namedParameter?
  rw [resolved]
  split at read
  · rename_i members
    dsimp only
    split at read
    · rename_i unnamed
      obtain rfl := Except.ok.inj read
      exact .inl ⟨if_neg (by simpa using unnamed), rfl⟩
    · rename_i named
      simp only [Attempt.outcome_bind_ok, Attempt.outcome_pure, Except.ok.injEq] at read
      obtain ⟨type, _, rfl⟩ := read
      exact .inr ⟨members, _, if_pos (by simpa using named), rfl, rfl, rfl⟩
  · rename_i other
    obtain rfl := Except.ok.inj read
    refine .inl ⟨?_, rfl⟩
    split
    · rename_i members same
      exact absurd (Except.ok.inj same) (other members)
    · rfl

/-- The declaration of an operation has one property for each of its named parameters. -/
theorem ofParameters?_properties {operation : Operation} {result : Option Declaration}
    (made : (builder.ofParameters? operation).outcome = .ok result) :
    List.Forall₂ OfParameter (namedParameters builder.document operation)
      ((result.map fun declaration => declaration.body.properties).getD []) := by
  obtain ⟨own, shared, properties, taken, taken', all, rfl⟩ := ofParameters?_ok.mp made
  have kept : List.Forall₂ OfParameter (namedParameters builder.document operation)
      properties.reduceOption := by
    unfold namedParameters itemsOf
    rw [taken, taken']
    clear taken taken' made
    simp only [Except.toOption, Option.getD_some]
    -- The two lists are read as one, in which a parameter that comes to nothing is passed over.
    generalize own ++ shared = nodes at all ⊢
    induction all with
    | nil => exact .nil
    | @cons node property nodes properties first _ ih =>
      rcases parameterProperty?_ok first with ⟨unnamed, rfl⟩ | ⟨members, found, named, rfl, same⟩
      · rw [List.filterMap_cons_none unnamed, List.reduceOption_cons_of_none]
        exact ih
      · rw [List.filterMap_cons_some named, List.reduceOption_cons_of_some]
        exact .cons same ih
  split
  · rename_i none
    rw [List.isEmpty_iff.mp none] at kept
    exact kept
  · exact kept

theorem kind_of_ofParameters? {operation : Operation} {declaration : Declaration}
    (made : (builder.ofParameters? operation).outcome = .ok (some declaration)) :
    declaration.body.kind = .object := by
  obtain ⟨_, _, properties, _, _, _, same⟩ := ofParameters?_ok.mp made
  split at same
  · cases same
  · obtain rfl := Option.some.inj same
    rfl

/-- A condition on declarations is one on the component schemas and on the operations. -/
theorem forall_declarations_iff {holds : Declaration → Prop} {ofSchema : Scalar × Node → Prop}
    {ofOperation : Operation → Prop} {declarations : List Declaration}
    (declared : builder.declarations.outcome = .ok declarations)
    (component : ∀ schema declaration,
      (builder.ofComponent schema.1 schema.2).outcome = .ok declaration →
        (holds declaration ↔ ofSchema schema))
    (parameter : ∀ operation result, (builder.ofParameters? operation).outcome = .ok result →
      ((∀ declaration, result = some declaration → holds declaration) ↔ ofOperation operation)) :
    ∃ schemas operations, Document.schemas builder.document = .ok schemas ∧
      Document.operations builder.document = .ok operations ∧
      ((∀ declaration ∈ declarations, holds declaration) ↔
        (∀ schema ∈ schemas, ofSchema schema) ∧
          ∀ operation ∈ operations, ofOperation operation) := by
  obtain ⟨schemas, components, operations, parameters, listed, made, given, read, rfl⟩ :=
    declarations_ok declared
  refine ⟨schemas, operations, listed, given, ?_⟩
  -- Sorting changes the order only, and an operation without parameters adds nothing.
  have among (declaration : Declaration) :
      declaration ∈ sortByName (components ++ parameters.reduceOption) ↔
        declaration ∈ components ∨ some declaration ∈ parameters := by
    rw [sortByName, (Text.sortBy_perm Declaration.typeName _).mem_iff, List.mem_append,
      List.reduceOption_mem_iff]
  constructor
  · intro all
    constructor
    · intro schema member
      obtain ⟨declaration, known, made⟩ := exists_of_forall₂ made member
      exact (component schema declaration made).mp
        (all declaration ((among declaration).mpr (.inl known)))
    · intro operation member
      obtain ⟨result, known, read⟩ := exists_of_forall₂ read member
      refine (parameter operation result read).mp fun declaration same => ?_
      exact all declaration ((among declaration).mpr (.inr (same ▸ known)))
  · rintro ⟨schemas, operations⟩ declaration known
    rcases (among declaration).mp known with known | known
    · obtain ⟨schema, member, made⟩ := exists_of_forall₂ made.flip known
      exact (component schema declaration made).mpr (schemas schema member)
    · obtain ⟨operation, member, read⟩ := exists_of_forall₂ read.flip known
      exact (parameter operation _ read).mpr (operations operation member) declaration rfl

/-- The names of the properties of a component, in order. -/
def memberNames (schema : Node) : List String :=
  (declaredProperties schema).map fun source => source.1.display

/-- The names of the parameters of an operation and its path, in order. -/
def parameterNames (document : Node) (operation : Operation) : List String :=
  (namedParameters document operation).map fun parameter => (Members.field parameter "name").display

/-- The properties of every declaration have different names exactly if this holds of the members
that each component lists and of the named parameters that each operation has with its path. -/
theorem propertyNames_distinct_iff (builder : DeclarationBuilder) (declarations : List Declaration)
    (declared : builder.declarations.outcome = .ok declarations) :
    ∃ schemas operations, Document.schemas builder.document = .ok schemas ∧
      Document.operations builder.document = .ok operations ∧
      ((∀ declaration ∈ declarations, (declaration.body.properties.map (·.name)).Nodup) ↔
        (∀ schema ∈ schemas, (memberNames schema.2).Nodup) ∧
          ∀ operation ∈ operations, (parameterNames builder.document operation).Nodup) := by
  apply forall_declarations_iff declared
  · intro schema declaration made
    have same : declaration.body.properties.map (·.name) = memberNames schema.2 :=
      map_eq_of_forall₂ ((body_ok (ofComponent_ok made)).1.imp fun _ _ same => same.1)
    rw [same]
  · intro operation result read
    have same : ((result.map fun declaration => declaration.body.properties).getD []).map (·.name) =
        parameterNames builder.document operation :=
      map_eq_of_forall₂ ((ofParameters?_properties read).imp fun _ _ same => same.1)
    rw [← same]
    cases result <;> simp

end

/-- A document with component schemas, and with an operation on a path that has parameters. -/
def withParameters (schemas : Members) (shared own : List Node) : Node :=
  .object [(.text "components", .object [(.text "schemas", .object schemas)]),
    (.text "paths", .object [(.text "/users/\x7bid\x7d", .object
      [(.text "parameters", .list shared), (.text "get", .object
        [(.text "operationId", .text "getUser"), (.text "parameters", .list own)])])])]

/-- A parameter that is a text. -/
def textParameter (name location : String) : Node :=
  .object [(.text "name", .text name), (.text "in", .text location), (.text "required", .bool true),
    (.text "schema", .object [(.text "type", .text "string")])]

/-- A composition of two objects with one property each. -/
def composedOf (one other : String) : Node :=
  let component (name : String) : Node := .object [(.text "properties", .object
    [(.text name, .object [(.text "type", .text "string")])])]
  .object [(.text "allOf", .list [component one, component other])]

theorem propertyNames_distinct_of_two :
    ∃ builder declarations, create (withParameters [(.text "Pet", composedOf "id" "name")]
        [textParameter "id" "path"] [textParameter "page" "query"])
        (Settings.ofSource "openapi.json") = .ok builder ∧
      builder.declarations.outcome = .ok declarations ∧
      ∀ declaration ∈ declarations, (declaration.body.properties.map (·.name)).Nodup := by
  let document := withParameters [(.text "Pet", composedOf "id" "name")]
    [textParameter "id" "path"] [textParameter "page" "query"]
  let settings := Settings.ofSource "openapi.json"
  let builder : DeclarationBuilder :=
    ⟨document, settings, Namer.create "API" ["/users/\x7bid\x7d"] settings.hooks 20⟩
  obtain ⟨components, made⟩ := Attempt.exists_outcome builder.componentDeclarations
    (by decide +kernel)
  obtain ⟨parameters, made'⟩ := Attempt.exists_outcome builder.parameterDeclarations
    (by decide +kernel)
  have declared := declarations_iff.mpr ⟨components, parameters, made, made', rfl⟩
  obtain ⟨schemas, operations, listed, given, distinct⟩ :=
    propertyNames_distinct_iff builder _ declared
  refine ⟨builder, _, rfl, declared, distinct.mpr ⟨?_, ?_⟩⟩
  · have all : (Document.schemas document).toOption.all (fun schemas =>
        schemas.all fun schema => decide (memberNames schema.2).Nodup) = true := by decide +kernel
    rw [show Document.schemas document = .ok schemas from listed] at all
    simpa [Except.toOption] using all
  · have all : (Document.operations document).toOption.all (fun operations =>
        operations.all fun operation => decide (parameterNames document operation).Nodup) = true :=
      by decide +kernel
    rw [show Document.operations document = .ok operations from given] at all
    simpa [Except.toOption] using all

section

variable [Text.Romanization]

/-- A run over one document can be tried for a declaration without sorting. -/
theorem exists_declaration (builder : DeclarationBuilder) (meets : Declaration → Bool)
    (met : (builder.componentDeclarations.outcome.toOption.any fun components =>
      builder.parameterDeclarations.outcome.toOption.any fun parameters =>
        (components ++ parameters).any meets) = true) :
    ∃ declarations, builder.declarations.outcome = .ok declarations ∧
      ∃ declaration ∈ declarations, meets declaration = true := by
  cases made : builder.componentDeclarations.outcome with
  | error failure => simp [made, Except.toOption] at met
  | ok components =>
    cases made' : builder.parameterDeclarations.outcome with
    | error failure => simp [made, made', Except.toOption] at met
    | ok parameters =>
      simp only [made, made', Except.toOption, Option.any_some, List.any_eq_true] at met
      obtain ⟨declaration, member, met⟩ := met
      -- Where a declaration is sorted to does not matter.
      have sorted := Text.sortBy_perm Declaration.typeName (components ++ parameters)
      exact ⟨_, declarations_iff.mpr ⟨components, parameters, made, made', rfl⟩, declaration,
        sorted.mem_iff.mpr member, met⟩

end

/-- A parameter that an operation declares again is declared twice, and so is a member that two
components list. -/
theorem propertyNames_repeated :
    let redeclared := withParameters [] [textParameter "id" "path"] [textParameter "id" "path"]
    let composed := withParameters [(.text "Pet", composedOf "id" "id")] [] []
    ∀ document ∈ [redeclared, composed], ∃ builder declarations,
      create document (Settings.ofSource "openapi.json") = .ok builder ∧
      builder.declarations.outcome = .ok declarations ∧
      ∃ declaration ∈ declarations, declaration.body.properties.map (·.name) = ["id", "id"] := by
  intro redeclared composed
  let settings := Settings.ofSource "openapi.json"
  let builder (document : Node) : DeclarationBuilder :=
    ⟨document, settings, Namer.create "API" ["/users/\x7bid\x7d"] settings.hooks 20⟩
  let twice (declaration : Declaration) : Bool :=
    declaration.body.properties.map (·.name) == ["id", "id"]
  simp only [List.forall_mem_cons, List.not_mem_nil, false_implies, implies_true, and_true]
  constructor
  · obtain ⟨declarations, declared, declaration, member, same⟩ :=
      exists_declaration (builder redeclared) twice (by decide +kernel)
    exact ⟨_, declarations, rfl, declared, declaration, member, by simpa [twice] using same⟩
  · obtain ⟨declarations, declared, declaration, member, same⟩ :=
      exists_declaration (builder composed) twice (by decide +kernel)
    exact ⟨_, declarations, rfl, declared, declaration, member, by simpa [twice] using same⟩

end ApiBindings.DeclarationBuilder
