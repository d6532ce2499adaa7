import ApiBindings.Proofs.Declaration.Reading

/-!
# Schemas that can be described

Most of what is malformed in a schema is passed over when its type is described. Three things are
not: alternatives or components that are no collection, a list of required keys with something in
it that is no scalar, and a value that has no form as a literal. A schema can be described exactly
when none of these is met in it or in a schema that it is described by.
-/
namespace ApiBindings.Schema

/-- The schemas by which a schema is described. -/
def parts (schema : Node) : List Node :=
  match schema with
  | .object members =>
    match kindOfMembers members with
    | .array =>
      match arrayItems members with
      | .list items => items.map itemSchema
      | item => [item]
    | .enumeration =>
      match Members.field members "enum" with
      | .list values => values
      | _ => []
    | .oneOf => (Members.field members "oneOf").elements.toOption.getD []
    | .allOf => (Members.field members "allOf").elements.toOption.getD []
    | .object =>
      match Members.field members "properties" with
      | .object properties => properties.map (·.2)
      | _ => []
    | _ => []
  | _ => []

/-- Whether a schema itself, apart from its parts, can be described. -/
def wellFormed (schema : Node) : Bool :=
  match schema with
  | .object members =>
    match kindOfMembers members with
    | .oneOf => (Members.field members "oneOf").elements.isOk
    | .allOf => (Members.field members "allOf").elements.isOk
    | .object =>
      match Members.field members "properties" with
      | .object (_ :: _) => (requiredKeys members).isOk
      | _ => true
    | _ => true
  | .null => true
  | value => (literal value).isOk

/-- A schema that is well formed, and so are its parts and their parts. -/
inductive Describable : Node → Prop
  | intro {schema : Node} (formed : wellFormed schema = true)
      (inside : ∀ part ∈ parts schema, Describable part) : Describable schema

variable (namespaceName : String)

theorem describeLiteral_succeeds (node : Node) (other : node.isObject = false) :
    (describeLiteral node).Succeeds ↔ wellFormed node = true := by
  have stated (node : Node) : (do
      let text ← (literal node : Attempt String)
      return TypeDescriptor.leaf .literal text : Attempt TypeDescriptor).Succeeds ↔
      (literal node).isOk = true :=
    (Attempt.succeeds_bind_pure _ _).trans (Attempt.succeeds_misfit _)
  cases node with
  | object members => simp [Node.isObject, Node.members?] at other
  | list items => exact stated _
  | scalar value =>
    cases value with
    | null => exact iff_of_true (Attempt.succeeds_pure _) rfl
    | _ => exact stated _

variable [Text.Romanization]

theorem describeAll_eq (schemas : List Node) :
    describeAll namespaceName schemas = schemas.mapM (describe namespaceName) := by
  induction schemas with
  | nil => rw [describeAll, List.mapM_nil]
  | cons schema rest ih => rw [describeAll, List.mapM_cons, ih]

theorem describeItems_eq (items : List Node) :
    describeItems namespaceName items =
      items.mapM fun item => describe namespaceName (itemSchema item) := by
  induction items with
  | nil => rw [describeItems, List.mapM_nil]
  | cons item rest ih => rw [describeItems, List.mapM_cons, ih]

/-- The type of one enum value. -/
def describeValue (value : Node) : Attempt TypeDescriptor :=
  match value with
  | .text text => pure (.leaf .literal (quotedLiteral text))
  | other => describe namespaceName other

theorem describeValues_eq (values : List Node) :
    describeValues namespaceName values = values.mapM (describeValue namespaceName) := by
  induction values with
  | nil => rw [describeValues, List.mapM_nil]
  | cons value rest ih =>
    rw [List.mapM_cons, ← ih]
    conv_lhs => unfold describeValues
    unfold describeValue
    cases value with
    | scalar value => cases value <;> rfl
    | _ => rfl

theorem describeProperties_eq (required : List Scalar) (properties : List (Scalar × Node)) :
    describeProperties namespaceName required properties = properties.mapM fun property => do
      let type ← describe namespaceName property.2
      return (property.1, required.any property.1.same || saysRequired property.2, type) := by
  induction properties with
  | nil => rw [describeProperties, List.mapM_nil]
  | cons property rest ih =>
    rw [describeProperties, List.mapM_cons, ih]
    simp only [bind_assoc, pure_bind]

theorem describeAll_succeeds (schemas : List Node) :
    (describeAll namespaceName schemas).Succeeds ↔
      ∀ schema ∈ schemas, (describe namespaceName schema).Succeeds := by
  rw [describeAll_eq, Attempt.succeeds_mapM]

theorem describeItems_succeeds (items : List Node) :
    (describeItems namespaceName items).Succeeds ↔
      ∀ item ∈ items.map itemSchema, (describe namespaceName item).Succeeds := by
  rw [describeItems_eq, Attempt.succeeds_mapM, List.forall_mem_map]

theorem describe_of_scalar (value : Scalar) :
    describe namespaceName (.scalar value) = describeLiteral (.scalar value) := by
  unfold describe
  rfl

theorem describe_of_list (items : List Node) :
    describe namespaceName (.list items) = describeLiteral (.list items) := by
  unfold describe
  rfl

theorem describeValues_succeeds (values : List Node) :
    (describeValues namespaceName values).Succeeds ↔
      ∀ value ∈ values, (describe namespaceName value).Succeeds := by
  rw [describeValues_eq, Attempt.succeeds_mapM]
  refine forall₂_congr fun value among => ?_
  unfold describeValue
  split
  · -- A text is a literal, quoted or not.
    rename_i text
    have literal : (describe namespaceName (.text text)).Succeeds := by
      rw [describe_of_scalar, describeLiteral_succeeds _ rfl]
      rfl
    exact iff_of_true (Attempt.succeeds_pure _) literal
  · rfl

theorem describeProperties_succeeds (required : List Scalar) (properties : List (Scalar × Node)) :
    (describeProperties namespaceName required properties).Succeeds ↔
      ∀ property ∈ properties.map (·.2), (describe namespaceName property).Succeeds := by
  rw [describeProperties_eq, Attempt.succeeds_mapM, List.forall_mem_map]
  exact forall₂_congr fun property _ => Attempt.succeeds_bind_pure _ _

omit [Text.Romanization] in
theorem exists_scalar_of_elements {node : Node} (other : ∀ items, node ≠ .list items)
    {items : List Node} (taken : node.elements = .ok items) {item : Node} (member : item ∈ items) :
    ∃ value, item = .scalar value := by
  unfold Node.elements at taken
  split at taken
  · exact absurd rfl (other _)
  · obtain rfl := Except.ok.inj taken
    obtain ⟨_, _, rfl⟩ := List.mem_map.mp member
    exact ⟨_, rfl⟩
  · obtain rfl := Except.ok.inj taken
    obtain ⟨_, _, rfl⟩ := List.mem_map.mp member
    exact ⟨_, rfl⟩
  · cases taken

/-- What stands in a collection that is no list is described by its literals. -/
theorem describeElements_succeeds {node : Node} (other : ∀ items, node ≠ .list items)
    (combine : List TypeDescriptor → TypeDescriptor) :
    (do return combine (← (← node.elements).mapM describeLiteral) :
        Attempt TypeDescriptor).Succeeds ↔
      node.elements.isOk = true ∧ ∀ part ∈ node.elements.toOption.getD [],
        (describe namespaceName part).Succeeds := by
  rw [Attempt.succeeds_bind]
  cases taken : node.elements with
  | error reason => simp [Except.isOk, Except.toBool, Except.mapError]
  | ok items =>
    have same : ∀ item ∈ items, describe namespaceName item = describeLiteral item := by
      intro item member
      obtain ⟨value, rfl⟩ := exists_scalar_of_elements other taken member
      exact describe_of_scalar namespaceName value
    simp only [Attempt.outcome_misfit, Except.mapError, Except.ok.injEq, exists_eq_left',
      Attempt.succeeds_bind_pure, Attempt.succeeds_mapM, Except.isOk, Except.toBool,
      Except.toOption, Option.getD_some, true_and]
    exact forall₂_congr fun item member => by rw [same item member]

/-- A description needs a well-formed schema and descriptions of all its parts, no more. -/
theorem describe_succeeds_step (schema : Node) :
    (describe namespaceName schema).Succeeds ↔ wellFormed schema = true ∧
      ∀ part ∈ parts schema, (describe namespaceName part).Succeeds := by
  cases schema with
  | scalar value =>
    rw [describe_of_scalar, describeLiteral_succeeds _ rfl]
    simp [parts]
  | list items =>
    rw [describe_of_list, describeLiteral_succeeds _ rfl]
    simp [parts]
  | object members =>
    -- One case for each kind.
    conv_lhs => unfold describe
    unfold wellFormed parts
    dsimp only
    cases kind : kindOfMembers members with
    | reference =>
      exact iff_of_true ((Attempt.succeeds_bind_pure _ _).mpr (Attempt.succeeds_noted _)) (by simp)
    | number | date | string | boolean | missing | literal | unknown =>
      exact iff_of_true (Attempt.succeeds_pure _) (by simp)
    | array =>
      dsimp only
      split
      · rename_i items held
        rw [Attempt.succeeds_bind_pure, describeItems_succeeds, held]
        simp
      · rename_i item held
        rw [Attempt.succeeds_bind_pure, held]
        simp
      · rename_i item held
        rw [Attempt.succeeds_bind_pure, held, ← describe_of_scalar namespaceName]
        simp
    | enumeration =>
      dsimp only
      split
      · rename_i values held
        rw [Attempt.succeeds_bind_pure, describeValues_succeeds, held]
        simp
      · rename_i other
        refine iff_of_true (Attempt.succeeds_pure _) ⟨rfl, ?_⟩
        split
        · rename_i values held
          exact absurd held (other values)
        · simp
    | oneOf =>
      dsimp only
      split
      · rename_i alternatives held
        rw [Attempt.succeeds_bind_pure, describeAll_succeeds, held]
        simp [Node.elements, Except.isOk, Except.toBool, Except.toOption]
      · rename_i other
        exact describeElements_succeeds namespaceName other unionOf
    | allOf =>
      dsimp only
      split
      · rename_i components held
        rw [Attempt.succeeds_bind_pure, describeAll_succeeds, held]
        simp [Node.elements, Except.isOk, Except.toBool, Except.toOption]
      · rename_i other
        exact describeElements_succeeds namespaceName other intersectionOf
    | object =>
      dsimp only
      split
      · rename_i first rest held
        have described (required : List Scalar) :=
          (Attempt.succeeds_bind_pure (describeProperties namespaceName required (first :: rest))
            objectOf).trans (describeProperties_succeeds namespaceName required (first :: rest))
        rw [held, Attempt.succeeds_bind_iff described, Attempt.succeeds_misfit]
      · rename_i other
        refine iff_of_true (Attempt.succeeds_pure _) ?_
        split
        · rename_i first rest held
          exact absurd held (other first rest)
        · refine ⟨rfl, ?_⟩
          split
          · rename_i properties held
            cases properties with
            | nil => simp
            | cons first rest => exact absurd held (other first rest)
          · simp

omit [Text.Romanization] in
theorem sizeOf_lt_of_elements {members : List (Scalar × Node)} {key : String} {part : Node}
    (member : part ∈ (Members.field members key).elements.toOption.getD []) :
    (∃ value, part = .scalar value) ∨ sizeOf part < sizeOf (Node.object members) := by
  cases taken : (Members.field members key).elements with
  | error reason => simp [taken, Except.toOption] at member
  | ok items =>
    rw [taken] at member
    by_cases isList : ∃ items, Members.field members key = .list items
    · obtain ⟨items', held⟩ := isList
      rw [held] at taken
      obtain rfl := Except.ok.inj taken
      -- An item is smaller than its list, and the list than the object that holds it.
      have inner := List.sizeOf_lt_of_mem member
      have outer := sizeOf_lt_of_field held (by simp)
      simp only [Node.list.sizeOf_spec, Except.toOption, Option.getD_some] at inner outer
      exact .inr (by omega)
    · exact .inl (exists_scalar_of_elements (fun items held => isList ⟨items, held⟩) taken member)

omit [Text.Romanization] in
/-- A part is a scalar or smaller than what it is a part of. -/
theorem sizeOf_lt_of_parts {schema part : Node} (member : part ∈ parts schema) :
    (∃ value, part = .scalar value) ∨ sizeOf part < sizeOf schema := by
  cases schema with
  | object members =>
    -- A part is an item of the array, a value, an alternative or a property; each is inside of the
    -- member that holds it.
    unfold parts at member
    dsimp only at member
    cases kind : kindOfMembers members with
    | array =>
      rw [kind] at member
      dsimp only at member
      split at member
      · rename_i items held
        obtain ⟨item, among, rfl⟩ := List.mem_map.mp member
        have inner := List.sizeOf_lt_of_mem among
        have outer := sizeOf_lt_of_arrayItems held (by simp)
        have own := sizeOf_itemSchema_le item
        simp only [Node.list.sizeOf_spec] at outer
        exact .inr (by omega)
      · obtain rfl := List.mem_singleton.mp member
        cases held : arrayItems members with
        | scalar value => exact .inl ⟨value, rfl⟩
        | _ => exact .inr (sizeOf_lt_of_arrayItems held (by simp))
    | enumeration =>
      rw [kind] at member
      dsimp only at member
      split at member
      · rename_i values held
        have inner := List.sizeOf_lt_of_mem member
        have outer := sizeOf_lt_of_field held (by simp)
        simp only [Node.list.sizeOf_spec] at outer
        exact .inr (by omega)
      · cases member
    | oneOf | allOf =>
      rw [kind] at member
      exact sizeOf_lt_of_elements member
    | object =>
      rw [kind] at member
      dsimp only at member
      split at member
      · rename_i properties held
        obtain ⟨⟨key, property⟩, among, rfl⟩ := List.mem_map.mp member
        have inner := List.sizeOf_lt_of_mem among
        have outer := sizeOf_lt_of_field held (by simp)
        simp only [Node.object.sizeOf_spec, Prod.mk.sizeOf_spec] at inner outer
        exact .inr (by simp only [Node.object.sizeOf_spec]; omega)
      · cases member
    | _ =>
      rw [kind] at member
      cases member
  | _ => cases member

omit [Text.Romanization] in
/-- What passes from the parts of a schema to the schema holds for all schemas. -/
@[elab_as_elim] theorem parts_induction {motive : Node → Prop}
    (step : ∀ schema, (∀ part ∈ parts schema, motive part) → motive schema) (schema : Node) :
    motive schema := by
  induction size : sizeOf schema using Nat.strongRecOn generalizing schema with
  | ind size ih =>
    refine step schema fun part member => ?_
    rcases sizeOf_lt_of_parts member with ⟨value, rfl⟩ | smaller
    · -- A scalar need not be smaller, but it has no parts.
      exact step _ fun part none => by cases none
    · exact ih (sizeOf part) (size ▸ smaller) part rfl

/-- A schema is described exactly when nothing that stops a description is met in it. -/
theorem describe_succeeds {schema : Node} :
    (describe namespaceName schema).Succeeds ↔ Describable schema := by
  constructor
  · induction schema using parts_induction with
    | step schema ih =>
      intro succeeds
      obtain ⟨formed, inside⟩ := (describe_succeeds_step namespaceName schema).mp succeeds
      exact .intro formed fun part member => ih part member (inside part member)
  · intro describable
    induction describable with
    | intro formed _ ih => exact (describe_succeeds_step namespaceName _).mpr ⟨formed, ih⟩

theorem typeText_succeeds {schema : Node} :
    (typeText namespaceName schema).Succeeds ↔ Describable schema :=
  (Attempt.succeeds_bind_pure _ _).trans (describe_succeeds namespaceName)

end ApiBindings.Schema
