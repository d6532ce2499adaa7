import ApiBindings.Proofs.Declaration.Reading
import ApiBindings.Proofs.Declaration.Run
import ApiBindings.Proofs.Name.TypeName
import ApiBindings.Proofs.Reference.Chain
import Mathlib.Data.List.Count

/-!
# All declarations, and those of one name

Nothing that is declared is lost or merged: the declarations of the components and of the parameters
stand one behind the other, and sorting them by name moves none past another of its name. Reading
the document makes no remark on repeated names. These remarks come from one look at the list, which
makes one at each name that it has met before: a name that occurs `n` times gets `n - 1` of them.
-/
namespace ApiBindings

/-- Work that does not remark on repeated type names. -/
def Attempt.QuietOnTypes {α : Type} (attempt : Attempt α) : Prop :=
  ∀ name, Remark.duplicateType name ∉ attempt.remarks

theorem Attempt.remarks_bind {α β : Type} (attempt : Attempt α) (next : α → Attempt β) :
    (attempt >>= next).remarks = attempt.remarks ++
      match attempt.outcome with
      | .ok value => (next value).remarks
      | .error _ => [] := by
  simp only [remarks, outcome, ExceptT.run_bind, Noted.remarks_bind]
  cases attempt.run.value <;> rfl

theorem Attempt.QuietOnTypes.bind {α β : Type} {attempt : Attempt α} {next : α → Attempt β}
    (first : attempt.QuietOnTypes) (then_ : ∀ value, (next value).QuietOnTypes) :
    (attempt >>= next).QuietOnTypes := by
  intro name made
  rw [Attempt.remarks_bind] at made
  rcases List.mem_append.mp made with earlier | later
  · exact first name earlier
  · cases taken : attempt.outcome with
    | error failure => simp [taken] at later
    | ok value =>
      rw [taken] at later
      exact then_ value name later

theorem Reference.resolve_quiet (document : Node) (located : Located) :
    (resolve document located).QuietOnTypes := by
  intro name made
  unfold resolve at made
  split at made
  · cases made
  · dsimp only at made
    split at made
    · -- The only remark here is on a reference that leads out of the document.
      have same := List.mem_singleton.mp made
      cases same
    · cases made

/-- Reading is quiet on type names, since each of its steps is. -/
theorem ofReading_quiet : Attempt.OfReading Attempt.QuietOnTypes where
  pure _ _ made := by cases made
  bind first then_ := first.bind then_
  misfit result name made := by cases result <;> cases made
  names {_ noted} onNames name made := by
    have among : Remark.duplicateType name ∈ noted.remarks := by
      simpa [Attempt.remarks] using made
    obtain ⟨raw, same⟩ := onNames _ among
    cases same
  reference document located := Reference.resolve_quiet document located

namespace DeclarationBuilder

variable {builder : DeclarationBuilder}

/-- A name is repeated as often as it comes again; all its places count if it was seen before. -/
theorem count_repeated (seen names : List String) (name : String) :
    (repeated seen names).count name =
      if name ∈ seen then names.count name else names.count name - 1 := by
  induction names generalizing seen with
  | nil => simp [repeated]
  | cons first rest ih =>
    rw [repeated]
    by_cases again : first ∈ seen
    · rw [if_pos again, List.count_cons, List.count_cons, ih]
      by_cases same : first = name
      · subst same
        simp [again]
      · simp [same]
    · rw [if_neg again, List.count_cons, ih]
      by_cases same : first = name
      · -- Its first place makes no remark, and from here on it has been seen.
        subst same
        simp [again]
      · simp [same, Ne.symm same]

/-- Whether a node leads to an object with a name. -/
def isNamed (document node : Node) : Bool :=
  match (Reference.resolveNode document node).outcome with
  | .ok (.object members) => (Members.field members "name").isPresent
  | _ => false

/-- Whether an operation or its path lists a parameter that leads to an object with a name. -/
def namesParameter (document : Node) (operation : Operation) : Bool :=
  let listed (node : Node) : List Node := node.elementsOrNone.toOption.getD []
  (listed (operation.field "parameters") ++
    listed (Members.field operation.pathItem "parameters")).any (isNamed document)

section

variable [Text.Romanization]

theorem isSome_of_parameterProperty? {node : Node} {property : Option PropertyDeclaration}
    (read : (builder.parameterProperty? node).outcome = .ok property) :
    property.isSome = isNamed builder.document node := by
  rw [parameterProperty?, Attempt.outcome_bind_ok] at read
  obtain ⟨reached, resolved, read⟩ := read
  rw [isNamed, resolved]
  cases reached with
  | object members =>
    dsimp only at read ⊢
    split at read
    · rename_i unnamed
      obtain rfl := Except.ok.inj read
      simpa using unnamed
    · rename_i named
      obtain ⟨type, _, made⟩ := (Attempt.outcome_bind_ok ..).mp read
      obtain rfl := Except.ok.inj made
      simpa using named
  | scalar value =>
    obtain rfl := Except.ok.inj read
    rfl
  | list items =>
    obtain rfl := Except.ok.inj read
    rfl

theorem isEmpty_of_parameterProperties {nodes : List Node}
    {properties : List (Option PropertyDeclaration)}
    (read : List.Forall₂ (fun node property =>
      (builder.parameterProperty? node).outcome = .ok property) nodes properties) :
    properties.reduceOption.isEmpty = !nodes.any (isNamed builder.document) := by
  induction read with
  | nil => rfl
  | @cons node property nodes properties first _ ih =>
    rw [List.any_cons, ← isSome_of_parameterProperty? first, Bool.not_or, ← ih]
    cases property <;> simp [List.reduceOption_cons_of_some, List.reduceOption_cons_of_none]

/-- An operation has a declaration exactly when it has a parameter with a name. -/
theorem isSome_of_ofParameters? {operation : Operation} {result : Option Declaration}
    (read : (builder.ofParameters? operation).outcome = .ok result) :
    result.isSome = namesParameter builder.document operation := by
  obtain ⟨own, shared, properties, taken, taken', all, rfl⟩ := ofParameters?_ok.mp read
  have named : namesParameter builder.document operation =
      (own ++ shared).any (isNamed builder.document) := by
    simp [namesParameter, taken, taken', Except.toOption]
  rw [named, isEmpty_of_parameterProperties all]
  cases (own ++ shared).any (isNamed builder.document) <;> rfl

/-- The declarations of operations are those of the operations that have one. -/
theorem forall₂_reduceOption {operations : List Operation} {results : List (Option Declaration)}
    (read : List.Forall₂ (fun operation result =>
      (builder.ofParameters? operation).outcome = .ok result) operations results) :
    List.Forall₂ (fun operation declaration =>
        (builder.ofParameters? operation).outcome = .ok (some declaration))
      (operations.filter (namesParameter builder.document)) results.reduceOption := by
  induction read with
  | nil => exact .nil
  | @cons operation result operations results first _ ih =>
    have decided := isSome_of_ofParameters? first
    cases result with
    | none => rwa [List.filter_cons_of_neg (by simp [← decided]), List.reduceOption_cons_of_none]
    | some declaration =>
      rw [List.filter_cons_of_pos (by simp [← decided]), List.reduceOption_cons_of_some]
      exact .cons first ih

omit [Text.Romanization] in
theorem remarks_forM_duplicateType (names : List String) :
    Attempt.remarks (names.forM fun name => (Noted.remark (.duplicateType name) : Attempt Unit)) =
      names.map .duplicateType := by
  induction names with
  | nil => rfl
  | cons first rest ih =>
    rw [List.map_cons, ← ih]
    exact Attempt.remarks_bind ..

/-- The remarks on repeated names are made once everything is declared. -/
theorem count_duplicateType {components parameters : List Declaration}
    (made : builder.componentDeclarations.outcome = .ok components)
    (made' : builder.parameterDeclarations.outcome = .ok parameters) (name : String) :
    builder.declarations.remarks.count (.duplicateType name) =
      ((components ++ parameters).map (·.typeName)).count name - 1 := by
  have none := List.count_eq_zero.mpr (ofReading_quiet.componentDeclarations builder name)
  have none' := List.count_eq_zero.mpr (ofReading_quiet.parameterDeclarations builder name)
  have injective : Function.Injective Remark.duplicateType := fun _ _ => Remark.duplicateType.inj
  rw [DeclarationBuilder.declarations, Attempt.remarks_bind, made]
  dsimp only
  rw [Attempt.remarks_bind, made']
  dsimp only
  rw [Attempt.remarks_bind, outcome_forM_duplicateType, remarks_forM_duplicateType]
  rw [List.count_append, none, List.count_append, none', List.count_append,
    List.count_map_of_injective _ _ injective, count_repeated, if_neg List.not_mem_nil]
  exact (Nat.zero_add _).trans (Nat.zero_add _)

/-- All declarations are those of the component schemas and behind them those of the operations with
a named parameter, each in document order, sorted by name and otherwise as they stood. A name is
remarked on when it stands among them more than once. -/
theorem declarations_sorted_of_sources (builder : DeclarationBuilder)
    (declarations : List Declaration) (declared : builder.declarations.outcome = .ok declarations) :
    ∃ schemas components operations parameters,
      Document.schemas builder.document = .ok schemas ∧
      List.Forall₂ (fun schema declaration =>
        (builder.ofComponent schema.1 schema.2).outcome = .ok declaration) schemas components ∧
      Document.operations builder.document = .ok operations ∧
      List.Forall₂ (fun operation declaration =>
          (builder.ofParameters? operation).outcome = .ok (some declaration))
        (operations.filter (namesParameter builder.document)) parameters ∧
      StablySorted Declaration.typeName (components ++ parameters) declarations ∧
      ∀ name, .duplicateType name ∈ builder.declarations.remarks ↔
        2 ≤ (declarations.map (·.typeName)).count name := by
  obtain ⟨components, _, made, made', rfl⟩ := declarations_iff.mp declared
  obtain ⟨schemas, listed, all⟩ := componentDeclarations_ok.mp made
  obtain ⟨operations, results, given, read, rfl⟩ := parameterDeclarations_ok.mp made'
  refine ⟨schemas, components, operations, results.reduceOption, listed, all, given,
    forall₂_reduceOption read, stablySorted_sortBy _ _, fun name => ?_⟩
  have counted := count_duplicateType made made' name
  have moved := ((Text.sortBy_perm Declaration.typeName (components ++ results.reduceOption)).map
    (·.typeName)).count_eq name
  rw [← List.count_pos_iff, counted, sortByName, moved]
  omega

end

/-- Two components whose names come to one, another one, and two lists of parameters, one of them
without a name. -/
def collidingStores : Node :=
  .object [
    (.text "paths", .object [
      (.text "/pets", .object [(.text "get", .object [
        (.text "parameters", .list [.object [(.text "name", .text "limit")]])])]),
      (.text "/shops", .object [(.text "get", .object [
        (.text "parameters", .list [.object []])])])]),
    (.text "components", .object [(.text "schemas", .object [
      (.text "pet store", .object []), (.text "petStore", .object []),
      (.text "Bag", .object [])])])]

theorem declarations_sorted_of_collidingStores :
    ∃ builder declarations components parameters,
      create collidingStores (Settings.ofSource "openapi.json") = .ok builder ∧
      builder.declarations.outcome = .ok declarations ∧
      components.map (·.typeName) = ["petStore", "petStore", "Bag"] ∧
      parameters.length = 1 ∧
      StablySorted Declaration.typeName (components ++ parameters) declarations ∧
      .duplicateType "petStore" ∈ builder.declarations.remarks := by
  let builder : DeclarationBuilder := ⟨collidingStores, Settings.ofSource "openapi.json",
    Namer.create "API" ["/pets", "/shops"] .none 20⟩
  obtain ⟨components, made⟩ := Attempt.exists_outcome builder.componentDeclarations
    (by decide +kernel)
  obtain ⟨parameters, made'⟩ := Attempt.exists_outcome builder.parameterDeclarations
    (by decide +kernel)
  have declared := declarations_iff.mpr ⟨components, parameters, made, made', rfl⟩
  obtain ⟨schemas, components, operations, parameters, listed, declares, given, read, sorted,
    remarked⟩ := declarations_sorted_of_sources builder _ declared
  have store : (TypeName.sanitize "API" "pet store").value = "petStore" :=
    TypeName.value_sanitize_of_isPlainName (by decide +kernel)
  have store' : (TypeName.sanitize "API" "petStore").value = "petStore" :=
    TypeName.value_sanitize_of_isPlainName (by decide +kernel)
  have bag : (TypeName.sanitize "API" "Bag").value = "Bag" :=
    TypeName.value_sanitize_of_isPlainName (by decide +kernel)
  have names : components.map (·.typeName) = ["petStore", "petStore", "Bag"] := by
    obtain rfl := Except.ok.inj (listed.symm.trans rfl)
    rw [typeNames_of_ofComponent declares ["pet store", "petStore", "Bag"] rfl]
    exact congrArg₂ _ store (congrArg₂ _ store' (congrArg₂ _ bag rfl))
  have one : (operations.filter (namesParameter collidingStores)).length = 1 := by
    have counted : (Document.operations collidingStores).map (fun operations =>
        (operations.filter (namesParameter collidingStores)).length) = .ok 1 := by decide +kernel
    rw [given] at counted
    exact Except.ok.inj counted
  refine ⟨builder, _, components, parameters, rfl, declared, names,
    read.length_eq.symm.trans one, sorted, ?_⟩
  rw [remarked, (sorted.perm.map _).count_eq, List.map_append, names, List.count_append]
  exact Nat.le_add_right _ _

end DeclarationBuilder

end ApiBindings
