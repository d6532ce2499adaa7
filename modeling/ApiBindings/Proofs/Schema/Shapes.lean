import ApiBindings.Proofs.Schema.Describable
import Mathlib.Logic.Relation

/-!
# What occurs in a described type

A description puts a type together from the types of the parts of its schema, in one way for each
kind of schema. So whatever occurs in a described type, at any depth, is the type of a schema that
is shown there, or a text in quotes; and each schema that is shown has its type there. The parts of
a schema are all shown, but for the values of an enumeration: of those with the same type only the
first is, and none that is a text.
-/
namespace ApiBindings

/-- Whether a type of this shape binds its parts tighter than a union does. -/
def TypeShape.bindsParts : TypeShape → Bool
  | .array | .intersection => true
  | _ => false

/-- A descriptor that is found in another one at some depth, or that one itself. -/
def TypeDescriptor.Occurs : TypeDescriptor → TypeDescriptor → Prop :=
  Relation.ReflTransGen fun whole part => part ∈ whole.parts

/-- Each item of a list that is worked through has a result. -/
theorem Attempt.exists_of_mapM {α β : Type} {work : α → Attempt β} {items : List α}
    {results : List β} (made : (items.mapM work).outcome = .ok results) {item : α}
    (member : item ∈ items) : ∃ result ∈ results, (work item).outcome = .ok result :=
  exists_of_forall₂ ((outcome_mapM_ok _ _ _).mp made) member

namespace Schema

/-- An array is built from its item and an intersection from its members. -/
structure Composed (type : TypeDescriptor) : Prop where
  array : type.shape = .array → ∃ item, type = arrayOf item
  intersection : type.shape = .intersection → ∃ members, type = intersectionOf members

/-- A descriptor that has no parts and needs none. -/
structure Plain (type : TypeDescriptor) : Prop extends Composed type where
  parts : type.parts = []

theorem Composed.of_shape {type : TypeDescriptor} (other : type.shape.bindsParts = false) :
    Composed type := by
  constructor <;>
  · intro same
    rw [same] at other
    cases other

theorem plain_leaf {shape : TypeShape} (text : String) (other : shape.bindsParts = false) :
    Plain (.leaf shape text) :=
  ⟨.of_shape other, rfl⟩

theorem composed_arrayOf (item : TypeDescriptor) : Composed (arrayOf item) := by
  refine ⟨fun _ => ⟨item, rfl⟩, fun same => ?_⟩
  cases same

theorem composed_intersectionOf (members : List TypeDescriptor) :
    Composed (intersectionOf members) := by
  refine ⟨fun same => ?_, fun _ => ⟨members, rfl⟩⟩
  cases same

variable (namespaceName : String)

theorem plain_of_describeLiteral {node : Node} {type : TypeDescriptor}
    (described : (describeLiteral node).outcome = .ok type) : Plain type := by
  unfold describeLiteral at described
  split at described
  · obtain rfl := Except.ok.inj described
    exact plain_leaf _ rfl
  · simp only [Attempt.outcome_bind_ok, Attempt.outcome_pure, Except.ok.injEq] at described
    obtain ⟨text, _, rfl⟩ := described
    exact plain_leaf text rfl

variable [Text.Romanization]

/-- The type of a part of a schema. A text among the values of an enumeration is quoted. -/
def describePart (schema part : Node) : Attempt TypeDescriptor :=
  if kind schema = .enumeration then describeValue namespaceName part
  else describe namespaceName part

/-- The types of parts of a schema, one for each. -/
abbrev DescribedAs (schema : Node) : List Node → List TypeDescriptor → Prop :=
  List.Forall₂ fun part inner => (describePart namespaceName schema part).outcome = .ok inner

/-- The type of a schema that is told by its kind alone. -/
def simpleType? : SchemaKind → Option TypeDescriptor
  | .number => some .number
  | .date => some .date
  | .string => some .string
  | .boolean => some .boolean
  | .missing | .literal | .unknown => some .any
  | _ => none

/-- How the type of a schema is made from the types of its parts. -/
inductive Made : Node → List TypeDescriptor → TypeDescriptor → Prop
  | literal {node : Node} {type : TypeDescriptor} (other : node.isObject = false)
      (described : (describeLiteral node).outcome = .ok type) : Made node [] type
  | simple {members : Members} {type : TypeDescriptor}
      (told : simpleType? (kindOfMembers members) = some type) : Made (.object members) [] type
  | reference {members : Members} (sort : kindOfMembers members = .reference) {name : String}
      (named : (referenceName namespaceName members).value = name) :
      Made (.object members) [] (.mk .reference (qualify namespaceName name) [] (some name))
  | tuple {members : Members} (sort : kindOfMembers members = .array)
      (types : List TypeDescriptor) : Made (.object members) types (tupleOf types)
  | array {members : Members} (sort : kindOfMembers members = .array) (item : TypeDescriptor) :
      Made (.object members) [item] (arrayOf item)
  | enumeration {members : Members} (sort : kindOfMembers members = .enumeration)
      {values : List Node} (held : Members.field members "enum" = .list values)
      (types : List TypeDescriptor) : Made (.object members) types (literalUnionOf types)
  /-- The values are no list. -/
  | noEnumeration {members : Members} (sort : kindOfMembers members = .enumeration) :
      Made (.object members) [] .string
  | oneOf {members : Members} (sort : kindOfMembers members = .oneOf) {alternatives : List Node}
      (taken : (Members.field members "oneOf").elements = .ok alternatives)
      (types : List TypeDescriptor) : Made (.object members) types (unionOf types)
  | allOf {members : Members} (sort : kindOfMembers members = .allOf)
      (types : List TypeDescriptor) : Made (.object members) types (intersectionOf types)
  | object {members : Members} (sort : kindOfMembers members = .object)
      (properties : List (Scalar × Bool × TypeDescriptor)) :
      Made (.object members) (properties.map fun (_, _, type) => type) (objectOf properties)
  /-- There are no properties, or they are no object. -/
  | noProperties {members : Members} (sort : kindOfMembers members = .object) :
      Made (.object members) [] .record

theorem describePart_of_other {schema : Node} (other : kind schema ≠ .enumeration) (part : Node) :
    describePart namespaceName schema part = describe namespaceName part :=
  if_neg other

theorem describePart_of_values {schema : Node} (values : kind schema = .enumeration)
    (part : Node) :
    describePart namespaceName schema part = describeValue namespaceName part :=
  if_pos values

/-- Apart from the texts among the values of an enumeration, parts are described as schemas. -/
theorem describePart_ok {schema part : Node} {inner : TypeDescriptor}
    (described : (describePart namespaceName schema part).outcome = .ok inner) :
    (∃ value, kind schema = .enumeration ∧ part = .text value ∧
        inner = .leaf .literal (quotedLiteral value)) ∨
      (kind schema = .enumeration → part.text? = none) ∧
        (describe namespaceName part).outcome = .ok inner := by
  unfold describePart at described
  split at described
  · rename_i values
    unfold describeValue at described
    split at described
    · rename_i value
      exact .inl ⟨value, values, rfl, (Except.ok.inj described).symm⟩
    · rename_i other
      refine .inr ⟨fun _ => ?_, described⟩
      unfold Node.text?
      split
      · rename_i value
        exact absurd rfl (other value)
      · rfl
  · rename_i other
    exact .inr ⟨fun values => absurd values other, described⟩

theorem describedAs_of_mapM {schema : Node} (other : kind schema ≠ .enumeration)
    {items : List Node} {types : List TypeDescriptor}
    (made : (items.mapM (describe namespaceName)).outcome = .ok types) :
    DescribedAs namespaceName schema items types := by
  rw [Attempt.outcome_mapM_ok] at made
  exact made.imp fun part inner described => by
    rwa [describePart_of_other namespaceName other part]

/-- What stands in a collection that is no list is described as it is in a list. -/
theorem describeElements_ok {node : Node} (other : ∀ items, node ≠ .list items)
    {combine : List TypeDescriptor → TypeDescriptor} {type : TypeDescriptor}
    (described : (do
      return combine (← (← node.elements).mapM describeLiteral) :
      Attempt TypeDescriptor).outcome = .ok type) :
    ∃ items types, node.elements = .ok items ∧
      (items.mapM (describe namespaceName)).outcome = .ok types ∧ type = combine types := by
  simp only [Attempt.outcome_bind_ok, Attempt.outcome_pure, Except.ok.injEq,
    Attempt.outcome_misfit, Attempt.mapError_ok] at described
  obtain ⟨items, taken, types, made, rfl⟩ := described
  refine ⟨items, types, taken, ?_, rfl⟩
  rw [Attempt.outcome_mapM_ok] at made ⊢
  -- Keys and characters are scalars, which describe themselves as literals.
  have scalars : ∀ item ∈ items, ∃ value, item = .scalar value :=
    fun item member => exists_scalar_of_elements other taken member
  refine ((List.forall₂_and_left _ _).mpr ⟨scalars, made⟩).imp fun item inner => ?_
  rintro ⟨⟨value, rfl⟩, described⟩
  rwa [describe_of_scalar]

theorem made_of_array {members : Members} {type : TypeDescriptor}
    (sort : kindOfMembers members = .array)
    (described : (describe namespaceName (.object members)).outcome = .ok type) :
    ∃ types, DescribedAs namespaceName (.object members) (parts (.object members)) types ∧
      Made namespaceName (.object members) types type := by
  have other : kind (.object members) ≠ .enumeration := by simp [Schema.kind, sort]
  unfold describe at described
  unfold parts
  simp only [sort] at described ⊢
  -- Several items make a tuple; one schema, or one value, is the item of an array.
  split at described
  · rename_i items held
    simp only [Attempt.outcome_bind_ok, Attempt.outcome_pure, Except.ok.injEq,
      describeItems_eq, Attempt.outcome_mapM_ok] at described
    obtain ⟨types, made, rfl⟩ := described
    refine ⟨types, ?_, .tuple sort types⟩
    rw [held]
    refine List.forall₂_map_left_iff.mpr (made.imp fun item inner described => ?_)
    rwa [describePart_of_other namespaceName other]
  · rename_i item held
    simp only [Attempt.outcome_bind_ok, Attempt.outcome_pure, Except.ok.injEq] at described
    obtain ⟨type, made, rfl⟩ := described
    rw [← describePart_of_other namespaceName other] at made
    rw [held]
    exact ⟨[type], .cons made .nil, .array sort type⟩
  · rename_i item held
    simp only [Attempt.outcome_bind_ok, Attempt.outcome_pure, Except.ok.injEq] at described
    obtain ⟨type, made, rfl⟩ := described
    rw [← describe_of_scalar namespaceName,
      ← describePart_of_other namespaceName other] at made
    rw [held]
    exact ⟨[type], .cons made .nil, .array sort type⟩

theorem made_of_enumeration {members : Members} {type : TypeDescriptor}
    (sort : kindOfMembers members = .enumeration)
    (described : (describe namespaceName (.object members)).outcome = .ok type) :
    ∃ types, DescribedAs namespaceName (.object members) (parts (.object members)) types ∧
      Made namespaceName (.object members) types type := by
  have values : kind (.object members) = .enumeration := sort
  unfold describe at described
  unfold parts
  simp only [sort] at described ⊢
  split at described
  · rename_i items held
    simp only [Attempt.outcome_bind_ok, Attempt.outcome_pure, Except.ok.injEq,
      describeValues_eq, Attempt.outcome_mapM_ok] at described
    obtain ⟨types, made, rfl⟩ := described
    refine ⟨types, ?_, .enumeration sort held types⟩
    rw [held]
    refine made.imp fun value inner described => ?_
    rwa [describePart_of_values namespaceName values]
  · rename_i noList
    obtain rfl := Except.ok.inj described
    refine ⟨[], ?_, .noEnumeration sort⟩
    split
    · rename_i items held
      exact absurd held (noList items)
    · exact .nil

theorem made_of_oneOf {members : Members} {type : TypeDescriptor}
    (sort : kindOfMembers members = .oneOf)
    (described : (describe namespaceName (.object members)).outcome = .ok type) :
    ∃ types, DescribedAs namespaceName (.object members) (parts (.object members)) types ∧
      Made namespaceName (.object members) types type := by
  have other : kind (.object members) ≠ .enumeration := by simp [Schema.kind, sort]
  unfold describe at described
  unfold parts
  simp only [sort] at described ⊢
  split at described
  · rename_i alternatives held
    simp only [Attempt.outcome_bind_ok, Attempt.outcome_pure, Except.ok.injEq,
      describeAll_eq] at described
    obtain ⟨types, made, rfl⟩ := described
    rw [held]
    exact ⟨types, describedAs_of_mapM namespaceName other made,
      .oneOf sort (by rw [held]; rfl) types⟩
  · rename_i noList
    obtain ⟨items, types, taken, made, rfl⟩ :=
      describeElements_ok namespaceName noList described
    rw [taken]
    exact ⟨types, describedAs_of_mapM namespaceName other made, .oneOf sort taken types⟩

theorem made_of_allOf {members : Members} {type : TypeDescriptor}
    (sort : kindOfMembers members = .allOf)
    (described : (describe namespaceName (.object members)).outcome = .ok type) :
    ∃ types, DescribedAs namespaceName (.object members) (parts (.object members)) types ∧
      Made namespaceName (.object members) types type := by
  have other : kind (.object members) ≠ .enumeration := by simp [Schema.kind, sort]
  unfold describe at described
  unfold parts
  simp only [sort] at described ⊢
  split at described
  · rename_i components held
    simp only [Attempt.outcome_bind_ok, Attempt.outcome_pure, Except.ok.injEq,
      describeAll_eq] at described
    obtain ⟨types, made, rfl⟩ := described
    rw [held]
    exact ⟨types, describedAs_of_mapM namespaceName other made, .allOf sort types⟩
  · rename_i noList
    obtain ⟨items, types, taken, made, rfl⟩ :=
      describeElements_ok namespaceName noList described
    rw [taken]
    exact ⟨types, describedAs_of_mapM namespaceName other made, .allOf sort types⟩

theorem made_of_object {members : Members} {type : TypeDescriptor}
    (sort : kindOfMembers members = .object)
    (described : (describe namespaceName (.object members)).outcome = .ok type) :
    ∃ types, DescribedAs namespaceName (.object members) (parts (.object members)) types ∧
      Made namespaceName (.object members) types type := by
  have other : kind (.object members) ≠ .enumeration := by simp [Schema.kind, sort]
  unfold describe at described
  unfold parts
  simp only [sort] at described ⊢
  split at described
  · rename_i first rest held
    simp only [Attempt.outcome_bind_ok, Attempt.outcome_pure, Except.ok.injEq,
      describeProperties_eq, Attempt.outcome_mapM_ok] at described
    obtain ⟨required, _, properties, made, rfl⟩ := described
    refine ⟨_, ?_, .object sort properties⟩
    rw [held]
    refine List.forall₂_map_left_iff.mpr (List.forall₂_map_right_iff.mpr ?_)
    refine made.imp fun property result described => ?_
    obtain ⟨type, inside, rfl⟩ := described
    rwa [describePart_of_other namespaceName other]
  · rename_i noMembers
    obtain rfl := Except.ok.inj described
    refine ⟨[], ?_, .noProperties sort⟩
    split
    · rename_i properties held
      cases properties with
      | nil => exact .nil
      | cons first rest => exact absurd held (noMembers first rest)
    · exact .nil

/-- What a schema is described as is made from the types of its parts. -/
theorem made_of_describe {schema : Node} {type : TypeDescriptor}
    (described : (describe namespaceName schema).outcome = .ok type) :
    ∃ types, DescribedAs namespaceName schema (parts schema) types ∧
      Made namespaceName schema types type := by
  cases schema with
  | scalar value =>
    rw [describe_of_scalar] at described
    exact ⟨[], .nil, .literal rfl described⟩
  | list items =>
    rw [describe_of_list] at described
    exact ⟨[], .nil, .literal rfl described⟩
  | object members =>
    cases sort : kindOfMembers members with
    | array => exact made_of_array namespaceName sort described
    | enumeration => exact made_of_enumeration namespaceName sort described
    | oneOf => exact made_of_oneOf namespaceName sort described
    | allOf => exact made_of_allOf namespaceName sort described
    | object => exact made_of_object namespaceName sort described
    | reference =>
      unfold describe at described
      unfold parts
      simp only [sort, Attempt.outcome_bind_ok, Attempt.outcome_noted, Attempt.outcome_pure,
        Except.ok.injEq, exists_eq_left'] at described ⊢
      exact ⟨[], .nil, described ▸ .reference sort rfl⟩
    | number | date | string | boolean | missing | literal | unknown =>
      unfold describe at described
      unfold parts
      simp only [sort, Attempt.outcome_pure, Except.ok.injEq] at described ⊢
      exact ⟨[], .nil, .simple (by rw [sort, ← described]; rfl)⟩

theorem Made.composed {schema : Node} {types : List TypeDescriptor} {type : TypeDescriptor}
    (made : Made namespaceName schema types type) : Composed type := by
  cases made with
  | literal other described => exact (plain_of_describeLiteral described).toComposed
  | simple told =>
    unfold simpleType? at told
    split at told <;> cases told <;> exact .of_shape rfl
  | array _ item => exact composed_arrayOf item
  | allOf => exact composed_intersectionOf types
  | _ => exact .of_shape rfl

/-- An enumeration lists each text once, all other types have all their parts. -/
theorem Made.parts_eq {schema : Node} {types : List TypeDescriptor} {type : TypeDescriptor}
    (made : Made namespaceName schema types type) :
    type.parts = if kind schema = .enumeration then distinct types else types := by
  cases made with
  | literal other described =>
    rw [(plain_of_describeLiteral described).parts, distinct, ite_self]
  | simple told =>
    unfold simpleType? at told
    split at told <;> cases told <;> exact (ite_self _).symm
  | enumeration sort => exact (if_pos sort).symm
  | noEnumeration sort => exact (ite_self _).symm
  | reference sort | tuple sort | array sort | oneOf sort | allOf sort | object sort
  | noProperties sort =>
    rw [if_neg (by simp [Schema.kind, sort])]
    rfl

/-- The text of the type of an enum value, if it has one. -/
def valueText? (value : Node) : Option String :=
  (describeValue namespaceName value).outcome.toOption.map (·.text)

/-- The enum values that have a place in the type: of those with one text the first. -/
def keptValues : List Node → List Node
  | [] => []
  | value :: rest =>
    value :: (keptValues rest).filter fun other =>
      decide (valueText? namespaceName other ≠ valueText? namespaceName value)

/-- The parts of a schema that have a place in its type. -/
def keptParts (schema : Node) : List Node :=
  if kind schema = .enumeration then keptValues namespaceName (parts schema) else parts schema

/-- A schema whose type is a part of the type of another one. -/
def Shows (schema part : Node) : Prop :=
  part ∈ keptParts namespaceName schema ∧ (kind schema = .enumeration → part.text? = none)

/-- A schema whose type is found in that of another one at some depth, or that one itself. -/
def Shown : Node → Node → Prop := Relation.ReflTransGen (Shows namespaceName)

theorem distinct_of_keptValues {values : List Node} {types : List TypeDescriptor}
    (described : List.Forall₂ (fun value type =>
      (describeValue namespaceName value).outcome = .ok type) values types) :
    List.Forall₂ (fun value type => (describeValue namespaceName value).outcome = .ok type)
      (keptValues namespaceName values) (distinct types) := by
  induction described with
  | nil => exact .nil
  | @cons value type values types first _ ih =>
    -- Values and types are filtered alike, since a type is compared by its text.
    refine .cons first (List.rel_filter ?_ ih)
    intro other inner described
    simp [valueText?, first, described, Except.toOption]

/-- The parts of a described type are the types of the parts that have a place in it. -/
theorem describedAs_keptParts {schema : Node} {type : TypeDescriptor}
    (described : (describe namespaceName schema).outcome = .ok type) :
    DescribedAs namespaceName schema (keptParts namespaceName schema) type.parts := by
  obtain ⟨types, each, made⟩ := made_of_describe namespaceName described
  rw [made.parts_eq]
  unfold keptParts
  split
  · rename_i values
    unfold DescribedAs at each ⊢
    simp only [describePart_of_values namespaceName values] at each ⊢
    exact distinct_of_keptValues namespaceName each
  · exact each

/-- Whatever occurs in a described type is a quoted text or the type of a schema that is shown. -/
theorem shown_of_occurs {schema : Node} {type inner : TypeDescriptor}
    (described : (describe namespaceName schema).outcome = .ok type)
    (occurs : type.Occurs inner) :
    (∃ value, inner = .leaf .literal (quotedLiteral value)) ∨
      ∃ part, Shown namespaceName schema part ∧
        (describe namespaceName part).outcome = .ok inner := by
  -- On the way in, one part after the other, each type is that of a schema until a text is met.
  induction occurs with
  | refl => exact .inr ⟨schema, .refl, described⟩
  | @tail outer inner _ member ih =>
    rcases ih with ⟨value, rfl⟩ | ⟨whole, shown, described'⟩
    · -- A text in quotes has no parts.
      cases member
    · obtain ⟨part, kept, same⟩ :=
        exists_of_forall₂ (describedAs_keptParts namespaceName described').flip member
      rcases describePart_ok namespaceName same with ⟨value, _, _, rfl⟩ | ⟨noText, same⟩
      · exact .inl ⟨value, rfl⟩
      · exact .inr ⟨part, shown.tail ⟨kept, noText⟩, same⟩

/-- The type of a schema that is shown occurs in the type that shows it. -/
theorem occurs_of_shown {schema part : Node} {type : TypeDescriptor}
    (described : (describe namespaceName schema).outcome = .ok type)
    (shown : Shown namespaceName schema part) :
    ∃ inner, type.Occurs inner ∧ (describe namespaceName part).outcome = .ok inner := by
  induction shown with
  | refl => exact ⟨type, .refl, described⟩
  | @tail whole part _ shows ih =>
    obtain ⟨outer, occurs, described'⟩ := ih
    obtain ⟨kept, noText⟩ := shows
    obtain ⟨inner, member, same⟩ :=
      exists_of_forall₂ (describedAs_keptParts namespaceName described') kept
    rcases describePart_ok namespaceName same with ⟨value, values, rfl, _⟩ | ⟨_, same⟩
    · cases noText values
    · exact ⟨inner, occurs.tail member, same⟩

/-- Whatever occurs in a described type is composed. -/
theorem composed_of_occurs {schema : Node} {type inner : TypeDescriptor}
    (described : (describe namespaceName schema).outcome = .ok type)
    (occurs : type.Occurs inner) : Composed inner := by
  rcases shown_of_occurs namespaceName described occurs with ⟨value, rfl⟩ | ⟨part, _, same⟩
  · exact .of_shape rfl
  · obtain ⟨types, _, made⟩ := made_of_describe namespaceName same
    exact made.composed

end Schema

end ApiBindings
