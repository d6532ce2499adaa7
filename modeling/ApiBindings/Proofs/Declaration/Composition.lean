import ApiBindings.Proofs.Declaration.Properties
import ApiBindings.Proofs.Text.Romanization

/-!
# The levels of a composition

A composition lists properties on many levels: beside its components, in a component that is no
reference, and in the components of that one. The declaration is made in one round over the
components, which neither looks beside them nor into them. So it is complete exactly if whatever is
listed anywhere else is listed again by a component of the first round.
-/
namespace ApiBindings.DeclarationBuilder

/-- A level of a composition: the composition itself, or a component of a level that is no
reference. -/
inductive Level (schema : Members) : Members → Prop
  | own : Level schema schema
  | component {level component : Members} {components : List Node} (above : Level schema level)
      (composed : level.field "allOf" = .list components) (listed : .object component ∈ components)
      (inline : ¬ (component.field "$ref").isPresent) : Level schema component

/-- A component of some level is this reference. -/
def Refers (schema reference : Members) : Prop :=
  ∃ level components, Level schema level ∧ level.field "allOf" = .list components ∧
    .object reference ∈ components ∧ (reference.field "$ref").isPresent

section

variable [Text.Romanization]

/-- A declaration has every property that a level of the schema lists, and every type that one
refers to as a parent. -/
structure DeclaresLevels (builder : DeclarationBuilder) (schema : Members)
    (body : DeclarationBody) : Prop where
  properties {level : Members} (reached : Level schema level) : ∀ source ∈ listedProperties level,
    ∃ property ∈ body.properties, builder.DeclaredAs source property
  parents {reference : Members} (refers : Refers schema reference) :
    (builder.parentName reference).value ∈ body.parents

/-- What the levels of the schema list and refer to is also found in these components. -/
structure ListsLevels (builder : DeclarationBuilder) (schema : Members) (components : List Node) :
    Prop where
  properties {level : Members} (reached : Level schema level) : ∀ source ∈ listedProperties level,
    ∃ other ∈ components.flatMap inlineProperties,
      other.1.display = source.1.display ∧ other.2 = source.2
  parents {reference : Members} (refers : Refers schema reference) :
    (builder.parentName reference).value ∈ components.flatMap builder.componentParents

variable {builder : DeclarationBuilder}

/-- Two members are declared as the same property if they are written the same and have the same
schema. -/
theorem DeclaredAs.iff_same {source other : Scalar × Members} {property : PropertyDeclaration}
    (declares : builder.DeclaredAs other property) :
    builder.DeclaredAs source property ↔
      other.1.display = source.1.display ∧ other.2 = source.2 := by
  constructor
  · intro also
    have schema : Node.object other.2 = .object source.2 := declares.schema.symm.trans also.schema
    exact ⟨declares.name.symm.trans also.name, Node.object.inj schema⟩
  · rintro ⟨written, schema⟩
    exact ⟨declares.name.trans written, schema ▸ declares.type, schema ▸ declares.description,
      schema ▸ declares.schema⟩

/-- An object with components is declared by going through them. -/
theorem composition_of_body {schema : Members} {body : DeclarationBody}
    (composed : (schema.field "allOf").isPresent)
    (read : (builder.body (.object schema)).outcome = .ok body) (kind : body.kind = .object) :
    (builder.composition schema).outcome = .ok body := by
  replace read : (builder.bodyOfMembers schema).outcome = .ok body := read
  unfold bodyOfMembers at read
  -- Neither a reference nor an enum is declared as an object.
  split at read
  · simp only [Attempt.outcome_bind_ok, Attempt.outcome_pure, Except.ok.injEq] at read
    obtain ⟨_, _, _, _, rfl⟩ := read
    exact absurd kind nofun
  split at read
  · exact absurd kind (enumeration_ok read).2
  exact read

/-- A composition is declared completely exactly if what its levels list and refer to is repeated
in the components it names itself. -/
theorem composition_declaresLevels_iff (builder : DeclarationBuilder) (schema : Members)
    (first : Node) (rest : List Node) (body : DeclarationBody)
    (composed : schema.field "allOf" = .list (first :: rest))
    (read : (builder.body (.object schema)).outcome = .ok body) (kind : body.kind = .object) :
    builder.DeclaresLevels schema body ↔ builder.ListsLevels schema (first :: rest) := by
  have present : (schema.field "allOf").isPresent := by rw [composed]; rfl
  obtain ⟨all, parents, _⟩ := composition_ok (composition_of_body present read kind)
  rw [composed] at all parents
  change List.Forall₂ builder.DeclaredAs ((first :: rest).flatMap inlineProperties) _ at all
  change body.parents = (first :: rest).flatMap builder.componentParents at parents
  -- A declared property comes from a component, and each of theirs is declared.
  have declared (source : Scalar × Members) :
      (∃ property ∈ body.properties, builder.DeclaredAs source property) ↔
        ∃ other ∈ (first :: rest).flatMap inlineProperties,
          other.1.display = source.1.display ∧ other.2 = source.2 := by
    constructor
    · rintro ⟨property, member, declares⟩
      obtain ⟨other, listed, own⟩ := exists_of_forall₂ all.flip member
      exact ⟨other, listed, own.iff_same.mp declares⟩
    · rintro ⟨other, listed, same⟩
      obtain ⟨property, member, own⟩ := exists_of_forall₂ all listed
      exact ⟨property, member, own.iff_same.mpr same⟩
  constructor
  · rintro ⟨properties, refers⟩
    exact ⟨fun reached source listed => (declared source).mp (properties reached source listed),
      fun reference => parents ▸ refers reference⟩
  · rintro ⟨properties, refers⟩
    exact ⟨fun reached source listed => (declared source).mpr (properties reached source listed),
      fun reference => parents ▸ refers reference⟩

end

variable {builder : DeclarationBuilder}

/-- A composition is flat if nothing is listed beside its components and no component that is no
reference has components. -/
structure Flat (schema : Members) (components : List Node) : Prop where
  beside : listedProperties schema = []
  within {component : Members} (listed : .object component ∈ components)
    (inline : ¬ (component.field "$ref").isPresent) (items : List Node) :
    component.field "allOf" ≠ .list items

theorem Flat.level {schema : Members} {components : List Node} (flat : Flat schema components)
    (composed : schema.field "allOf" = .list components) {level : Members}
    (reached : Level schema level) :
    level = schema ∨
      .object level ∈ components ∧ ¬ (Members.field level "$ref").isPresent := by
  induction reached with
  | own => exact .inl rfl
  | @component level component items _ held listed inline above =>
    -- The level above is the composition itself, as the others have no components.
    rcases above with rfl | ⟨member, plain⟩
    · obtain rfl := Node.list.inj (composed.symm.trans held)
      exact .inr ⟨listed, inline⟩
    · exact absurd held (flat.within member plain items)

theorem Flat.listsLevels [Text.Romanization] {schema : Members} {components : List Node}
    (flat : Flat schema components) (composed : schema.field "allOf" = .list components) :
    builder.ListsLevels schema components := by
  constructor
  · intro level reached source listed
    rcases flat.level composed reached with rfl | ⟨member, inline⟩
    · simp [flat.beside] at listed
    · have own : inlineProperties (.object level) = listedProperties level := if_neg inline
      exact ⟨source, List.mem_flatMap.mpr ⟨_, member, own ▸ listed⟩, rfl, rfl⟩
  · rintro reference ⟨level, items, reached, held, listed, refers⟩
    rcases flat.level composed reached with rfl | ⟨member, inline⟩
    · obtain rfl := Node.list.inj (composed.symm.trans held)
      have own : builder.componentParents (.object reference) =
          [(builder.parentName reference).value] := if_pos refers
      exact List.mem_flatMap.mpr ⟨_, listed, own ▸ List.mem_singleton_self _⟩
    · exact absurd held (flat.within member inline items)

/-- A reference to an animal. -/
def animalReference : Members := [(.text "$ref", .text "#/components/schemas/Animal")]

/-- A property that is a text. -/
def breedProperty : Scalar × Node :=
  (.text "properties", .object [(.text "breed", .object [(.text "type", .text "string")])])

def allOf (components : List Node) : Scalar × Node := (.text "allOf", .list components)

theorem field_allOf (components : List Node) (more : Members) :
    Members.field (allOf components :: more) "allOf" = .list components := rfl

/-- The breed of a dog in a component of its own. -/
def flatComponents : List Node := [.object animalReference, .object [breedProperty]]

/-- The breed of a dog beside the components. -/
def besideComponents : Members := [allOf [.object animalReference], breedProperty]

/-- A dog within the only component. -/
def nestedComponents : Members := [allOf [.object [allOf flatComponents]]]

def petBuilder : DeclarationBuilder := .ofSettings (Settings.ofSource "openapi.json")

theorem composition_declaresLevels_of_flat :
    ∃ body, (petBuilder.body (.object [allOf flatComponents])).outcome = .ok body ∧
      body.kind = .object ∧ petBuilder.DeclaresLevels [allOf flatComponents] body := by
  have composed := field_allOf flatComponents []
  have flat : Flat [allOf flatComponents] flatComponents := by
    refine ⟨rfl, fun {component} listed inline items held => ?_⟩
    simp only [flatComponents, List.mem_cons, Node.object.injEq, List.not_mem_nil,
      or_false] at listed
    rcases listed with rfl | rfl
    · exact inline rfl
    · have absent : Members.field [breedProperty] "allOf" = .null := rfl
      exact absurd (absent.symm.trans held) nofun
  obtain ⟨body, read, kind⟩ := Attempt.exists_outcome_of_any
    (fun body : DeclarationBody => body.kind = .object)
    (petBuilder.body (.object [allOf flatComponents])) (by decide +kernel)
  exact ⟨body, read, kind, (composition_declaresLevels_iff petBuilder [allOf flatComponents]
    (.object animalReference) [.object [breedProperty]] body composed read kind).mpr
    (flat.listsLevels composed)⟩

/-- A property beside the components is not declared. Within a component, neither is a property of
its components nor what they refer to. -/
theorem composition_not_declaresLevels :
    (∃ body, (petBuilder.body (.object besideComponents)).outcome = .ok body ∧
      body.kind = .object ∧ body.properties = [] ∧
      ¬ petBuilder.DeclaresLevels besideComponents body) ∧
    ∃ body, (petBuilder.body (.object nestedComponents)).outcome = .ok body ∧
      body.kind = .object ∧ body.properties = [] ∧ body.parents = [] ∧
      Refers nestedComponents animalReference ∧
      ¬ petBuilder.DeclaresLevels nestedComponents body := by
  constructor
  · obtain ⟨body, read, kind, nothing⟩ := Attempt.exists_outcome_of_any
      (fun body : DeclarationBody => body.kind = .object ∧ body.properties = [])
      (petBuilder.body (.object besideComponents)) (by decide +kernel)
    refine ⟨body, read, kind, nothing, fun declares => ?_⟩
    obtain ⟨property, member, _⟩ := declares.properties .own _ List.mem_cons_self
    simp [nothing] at member
  · obtain ⟨body, read, kind, nothing, alone⟩ := Attempt.exists_outcome_of_any
      (fun body : DeclarationBody =>
        body.kind = .object ∧ body.properties = [] ∧ body.parents = [])
      (petBuilder.body (.object nestedComponents)) (by decide +kernel)
    have within : Level nestedComponents [allOf flatComponents] :=
      .component .own (field_allOf _ _) (List.mem_singleton_self _) (by decide)
    have refers : Refers nestedComponents animalReference :=
      ⟨_, _, within, field_allOf _ _, List.mem_cons_self, by decide⟩
    refine ⟨body, read, kind, nothing, alone, refers, fun declares => ?_⟩
    have parent := declares.parents refers
    simp [alone] at parent

end ApiBindings.DeclarationBuilder
