import ApiBindings.Declaration.Builder
import ApiBindings.Proofs.Document.Members
import ApiBindings.Proofs.Sorting
import Mathlib.Data.List.ReduceOption

/-!
# Runs that make declarations

Every component schema has a declaration, and so has every operation with named parameters, its own
or those of its path. The declarations of a document are these, in the order of their names.
-/
namespace ApiBindings.DeclarationBuilder

/-- A builder for a document with nothing in it, which reads single schemas. -/
def ofSettings (settings : Settings) : DeclarationBuilder :=
  ⟨.object [], settings, Namer.create settings.namespaceName [] settings.hooks
    settings.functionNameMaxLength⟩

variable {builder : DeclarationBuilder}

variable [Text.Romanization]

/-- The declaration of an operation has the properties of its own parameters and of those of its
path, if there are any. -/
theorem ofParameters?_ok {operation : Operation} {result : Option Declaration} :
    (builder.ofParameters? operation).outcome = .ok result ↔ ∃ own shared properties,
      (operation.field "parameters").elementsOrNone = .ok own ∧
      (Members.field operation.pathItem "parameters").elementsOrNone = .ok shared ∧
      List.Forall₂ (fun node property => (builder.parameterProperty? node).outcome = .ok property)
        (own ++ shared) properties ∧
      result = if properties.reduceOption.isEmpty then none
        else some ⟨(builder.namer.typeName operation).value,
          .object properties.reduceOption []⟩ := by
  simp only [ofParameters?, Attempt.outcome_bind_ok, Attempt.outcome_misfit, Attempt.mapError_ok,
    Attempt.outcome_mapM_ok]
  constructor
  · rintro ⟨own, taken, shared, taken', properties, all, made⟩
    refine ⟨own, shared, properties, taken, taken', all, ?_⟩
    split at made
    · rename_i none
      rw [if_pos none]
      exact (Except.ok.inj made).symm
    · rename_i some
      obtain ⟨name, named, made⟩ := (Attempt.outcome_bind_ok ..).mp made
      obtain rfl := Except.ok.inj named
      rw [if_neg some]
      exact (Except.ok.inj made).symm
  · rintro ⟨own, shared, properties, taken, taken', all, rfl⟩
    refine ⟨own, taken, shared, taken', properties, all, ?_⟩
    split
    · rfl
    · exact (Attempt.outcome_bind_ok ..).mpr ⟨_, rfl, rfl⟩

theorem typeName_of_ofComponent {key : String} {schema : Node} {declaration : Declaration}
    (made : (builder.ofComponent (.text key) schema).outcome = .ok declaration) :
    declaration.typeName = (TypeName.sanitize builder.settings.namespaceName key).value := by
  simp only [ofComponent, componentName, Attempt.outcome_bind_ok, Attempt.outcome_misfit,
    Attempt.mapError_ok, Attempt.outcome_noted, Attempt.outcome_pure, Except.ok.injEq] at made
  obtain ⟨body, _, _, rfl, _, rfl, rfl⟩ := made
  rfl

theorem typeNames_of_ofComponent {schemas : Members} {components : List Declaration}
    (made : List.Forall₂ (fun schema declaration =>
      (builder.ofComponent schema.1 schema.2).outcome = .ok declaration) schemas components)
    (keys : List String) (texts : schemas.map (·.1) = keys.map .text) :
    components.map (·.typeName) =
      keys.map fun key => (TypeName.sanitize builder.settings.namespaceName key).value := by
  induction made generalizing keys with
  | nil =>
    obtain rfl := List.map_eq_nil_iff.mp texts.symm
    rfl
  | @cons schema declaration schemas components first _ ih =>
    obtain ⟨key, rest, rfl, same, others⟩ := List.map_eq_cons_iff.mp texts.symm
    have named : schema.1 = .text key := same.symm
    rw [named] at first
    rw [List.map_cons, List.map_cons, ih rest others.symm, typeName_of_ofComponent first]

theorem componentDeclarations_ok {components : List Declaration} :
    builder.componentDeclarations.outcome = .ok components ↔ ∃ schemas,
      Document.schemas builder.document = .ok schemas ∧
      List.Forall₂ (fun schema declaration =>
        (builder.ofComponent schema.1 schema.2).outcome = .ok declaration) schemas components := by
  simp only [componentDeclarations, Attempt.outcome_bind_ok, Attempt.outcome_misfit,
    Attempt.mapError_ok, Attempt.outcome_mapM_ok]

theorem parameterDeclarations_ok {parameters : List Declaration} :
    builder.parameterDeclarations.outcome = .ok parameters ↔ ∃ operations results,
      Document.operations builder.document = .ok operations ∧
      List.Forall₂ (fun operation result =>
        (builder.ofParameters? operation).outcome = .ok result) operations results ∧
      results.reduceOption = parameters := by
  simp only [parameterDeclarations, Attempt.outcome_bind_ok, Attempt.outcome_misfit,
    Attempt.mapError_ok, Attempt.outcome_mapM_ok, Attempt.outcome_pure, Except.ok.injEq,
    exists_and_left]

omit [Text.Romanization] in
theorem outcome_forM_duplicateType (names : List String) :
    Attempt.outcome (names.forM fun name => (Noted.remark (.duplicateType name) : Attempt Unit)) =
      .ok () := by
  induction names with
  | nil => rfl
  | cons first rest ih => exact (Attempt.outcome_bind ..).trans ih

/-- Making the declarations fails on components and on parameters only. -/
theorem declarations_iff {declarations : List Declaration} :
    builder.declarations.outcome = .ok declarations ↔ ∃ components parameters,
      builder.componentDeclarations.outcome = .ok components ∧
      builder.parameterDeclarations.outcome = .ok parameters ∧
      declarations = sortByName (components ++ parameters) := by
  simp only [DeclarationBuilder.declarations, Attempt.outcome_bind_ok, outcome_forM_duplicateType,
    Attempt.outcome_pure, Except.ok.injEq]
  constructor
  · rintro ⟨components, made, parameters, made', _, _, rfl⟩
    exact ⟨components, parameters, made, made', rfl⟩
  · rintro ⟨components, parameters, made, made', rfl⟩
    exact ⟨components, made, parameters, made', (), trivial, rfl⟩

/-- Declarations are made for all component schemas and for all operations. -/
theorem declarations_ok {declarations : List Declaration}
    (declared : builder.declarations.outcome = .ok declarations) :
    ∃ schemas components operations parameters,
      Document.schemas builder.document = .ok schemas ∧
      List.Forall₂ (fun schema declaration =>
        (builder.ofComponent schema.1 schema.2).outcome = .ok declaration) schemas components ∧
      Document.operations builder.document = .ok operations ∧
      List.Forall₂ (fun operation result =>
        (builder.ofParameters? operation).outcome = .ok result) operations parameters ∧
      declarations = sortByName (components ++ parameters.reduceOption) := by
  obtain ⟨components, _, made, made', rfl⟩ := declarations_iff.mp declared
  obtain ⟨schemas, listed, all⟩ := componentDeclarations_ok.mp made
  obtain ⟨operations, parameters, given, read, rfl⟩ := parameterDeclarations_ok.mp made'
  exact ⟨schemas, components, operations, parameters, listed, all, given, read, rfl⟩

/-- What is declared for a component schema is among all declarations. -/
theorem exists_ofComponent {declarations : List Declaration}
    (declared : builder.declarations.outcome = .ok declarations) {schemas : Members}
    (listed : Document.schemas builder.document = .ok schemas) {key : Scalar} {schema : Node}
    (member : (key, schema) ∈ schemas) :
    ∃ declaration ∈ declarations, (builder.ofComponent key schema).outcome = .ok declaration := by
  obtain ⟨schemas', components, _, parameters, listed', made, _, _, rfl⟩ := declarations_ok declared
  obtain rfl := Except.ok.inj (listed.symm.trans listed')
  obtain ⟨declaration, among, made⟩ := exists_of_forall₂ made member
  refine ⟨declaration, ?_, made⟩
  exact (Text.sortBy_perm Declaration.typeName _).mem_iff.mpr (List.mem_append_left _ among)

/-- What is declared for an operation is among all declarations. -/
theorem exists_ofParameters? {declarations : List Declaration}
    (declared : builder.declarations.outcome = .ok declarations) {operation : Operation}
    (among : Document.HasOperation builder.document operation) :
    ∃ result, (builder.ofParameters? operation).outcome = .ok result ∧
      ∀ declaration, result = some declaration → declaration ∈ declarations := by
  obtain ⟨_, components, operations, parameters, _, _, given, read, rfl⟩ := declarations_ok declared
  obtain ⟨operations', given', among⟩ := among
  obtain rfl := Except.ok.inj (given.symm.trans given')
  obtain ⟨result, found, made⟩ := exists_of_forall₂ read among
  refine ⟨result, made, ?_⟩
  rintro declaration rfl
  refine (Text.sortBy_perm Declaration.typeName _).mem_iff.mpr (List.mem_append_right _ ?_)
  exact List.reduceOption_mem_iff.mpr found

end ApiBindings.DeclarationBuilder
