import ApiBindings.Proofs.Declaration.Run
import ApiBindings.Proofs.Generation
import ApiBindings.Proofs.Service.FunctionNames
import ApiBindings.Proofs.Service.Parameters
import ApiBindings.Proofs.Text.Romanization

/-!
# Parameters in declarations and in services

The parameters of an operation are read twice: for the declaration of their type, and for the entry
that takes them as its argument. Both find the same parameters of the document, and say the same of
one that has a name and a schema. What only the service adds, the placeholders that nothing
declares, is missing from the declaration.
-/
namespace ApiBindings

/-- A parameter with a name and a schema, which is the parameter itself if it has a type. -/
structure TypedParameter (parameter : Members) : Prop where
  named : (parameter.field "name").isPresent
  typed : (parameter.field "schema").isObject ∨
    (parameter.field "schema" = .null ∧ (parameter.get? "type").isSome)

/-- A parameter object of an operation: one of its own, or one of its path that it does not
declare. -/
def DeclaredParameter (context : SchemaContext) (operation : Operation) (parameter : Members) :
    Prop :=
  ∃ nodes, (Parameter.ofOperation context operation).outcome = .ok nodes ∧
    Parameter.LeadsTo context nodes parameter

/-- The document says of everything that is sent as a parameter what its name and type are. -/
structure DeclaresParameters (context : SchemaContext) (operation : Operation) : Prop where
  typed : ∀ parameter, DeclaredParameter context operation parameter →
    ∀ location : ParameterLocation, parameter.field "in" = .text location.word →
      TypedParameter parameter
  placeholders : ∀ name ∈ Parameter.placeholders operation.path.toList,
    ∃ parameter, DeclaredParameter context operation parameter ∧
      parameter.field "in" = .text ParameterLocation.path.word ∧
      (parameter.field "name").display = name

namespace DeclarationBuilder

variable {builder : DeclarationBuilder}

theorem parameterSchema_of_typed {parameter : Members} (typed : TypedParameter parameter) :
    parameterSchema parameter = .object (Parameter.schemaOf parameter) := by
  unfold parameterSchema Parameter.schemaOf
  rcases typed.typed with isObject | ⟨absent, ownType⟩
  · obtain ⟨schema, held⟩ := Node.exists_of_isObject isObject
    simp [held]
  · simp [absent, ownType]

variable [Text.Romanization]

/-- A parameter with a name and a schema has a property in the declaration. -/
theorem parameterProperty?_of_typed {node : Node} {parameter : Members}
    {result : Option PropertyDeclaration}
    (resolved : (Reference.resolveNode builder.document node).outcome = .ok (.object parameter))
    (typed : TypedParameter parameter)
    (read : (builder.parameterProperty? node).outcome = .ok result) :
    ∃ property, result = some property ∧
      property.name = (parameter.field "name").display ∧
      property.required = (parameter.field "required" == .bool true) ∧
      (Schema.typeText builder.settings.namespaceName
        (.object (Parameter.schemaOf parameter))).outcome = .ok property.type := by
  rw [parameterProperty?, Attempt.outcome_bind_ok] at read
  obtain ⟨reached, same, read⟩ := read
  obtain rfl := Except.ok.inj (resolved.symm.trans same)
  simp only [typed.named, Bool.not_true, Bool.false_eq_true, if_false, Attempt.outcome_bind_ok,
    Attempt.outcome_pure, Except.ok.injEq, parameterSchema_of_typed typed] at read
  obtain ⟨type, described, rfl⟩ := read
  exact ⟨_, rfl, rfl, rfl, described⟩

end DeclarationBuilder

namespace ServiceBuilder

variable {builder : ServiceBuilder}

variable [Text.Romanization]

/-- Every entry of a run is built for an operation of the document. -/
theorem exists_builds {groups : List TagGroup} {mappings : List GatewayMapping}
    (returned : builder.groups.value = (.ok groups, mappings)) {group : TagGroup}
    (among : group ∈ groups) {entry : Entry} (member : entry ∈ group.entries) :
    ∃ tag operation, HasFunction builder.document operation ∧
      builder.Builds tag operation entry.functionName entry := by
  obtain ⟨filed, built, collected, all, rfl, _⟩ := groups_ok returned
  obtain ⟨⟨⟨tag, operations⟩, entries⟩, paired, made⟩ := List.mem_filterMap.mp among
  have builds := List.forall₂_zip all paired
  rw [(group?_some made).1] at member
  have known := (List.mem_filter.mp ((sortByPath_perm _).mem_iff.mp member)).1
  obtain ⟨operation, kept, made⟩ := exists_of_forall₂ (BuildsAll.forall₂ builds).flip known
  exact ⟨tag, operation, hasFunction_of_filed collected (List.of_mem_zip paired).1 kept, made⟩

/-- What an entry says of parameters is read from its operation. -/
theorem Builds.parameters {tag functionName : String} {operation : Operation} {entry : Entry}
    (builds : builder.Builds tag operation functionName entry) :
    entry.typeName = (builder.namer.typeName operation).value ∧
      ∃ nodes groups, (Parameter.ofOperation builder.context operation).outcome = .ok nodes ∧
        (Parameter.groups builder.context nodes operation.path).outcome = .ok groups ∧
        entry.parameters = finishParameters groups := by
  obtain ⟨parts, read, finished⟩ := builds
  obtain ⟨_, _, _, _, same⟩ := finish_unmarked finished
  simp only [ServiceBuilder.parts, Attempt.outcome_bind_ok, Attempt.outcome_pure,
    Except.ok.injEq] at read
  obtain ⟨nodes, collected, groups, grouped, _, _, _, _, _, _, _, _, rfl⟩ := read
  rw [same]
  exact ⟨rfl, nodes, groups, collected, grouped, rfl⟩

end ServiceBuilder

open ServiceBuilder

section

variable [Text.Romanization]

/-- A parameter that the document declares with a name and a schema is a property of the
declaration of its operation. -/
theorem exists_property {declarer : DeclarationBuilder} {context : SchemaContext}
    (sameDocument : declarer.document = context.document)
    (sameNamespace : declarer.settings.namespaceName = context.namespaceName)
    {operation : Operation} {result : Option Declaration}
    (made : (declarer.ofParameters? operation).outcome = .ok result) {nodes : List Node}
    (collected : (Parameter.ofOperation context operation).outcome = .ok nodes)
    {members : Members} (leads : Parameter.LeadsTo context nodes members)
    (typed : TypedParameter members) {location : ParameterLocation} {parameter : Parameter}
    (read : (Parameter.ofMembers context location members).outcome = .ok parameter) :
    ∃ declaration, result = some declaration ∧
      ∃ property ∈ declaration.body.properties, property.name = parameter.name ∧
        property.type = parameter.type ∧ property.required = parameter.required := by
  -- The service reads the parameters of a path that the operation does not declare again, the
  -- declaration reads all of them.
  obtain ⟨node, among, resolved⟩ := leads
  obtain ⟨own, shared, properties, taken, taken', all, rfl⟩ :=
    DeclarationBuilder.ofParameters?_ok.mp made
  have known : node ∈ own ++ shared := by
    obtain ⟨own', shared', listed, listed', among'⟩ := Parameter.ofOperation_ok collected
    obtain rfl := Except.ok.inj (taken.symm.trans listed)
    obtain rfl := Except.ok.inj (taken'.symm.trans listed')
    exact among' among
  obtain ⟨found, member, declared⟩ := exists_of_forall₂ all known
  have resolved' : (Reference.resolveNode declarer.document node).outcome =
      .ok (.object members) := by
    rw [sameDocument]
    exact resolved
  obtain ⟨property, rfl, name, required, type⟩ :=
    DeclarationBuilder.parameterProperty?_of_typed resolved' typed declared
  have inside : property ∈ properties.reduceOption := List.reduceOption_mem_iff.mpr member
  have present : ¬ properties.reduceOption.isEmpty = true := fun nothing => by
    simp [List.isEmpty_iff.mp nothing] at inside
  rw [if_neg present]
  obtain ⟨name', required', type'⟩ := Parameter.ofMembers_ok read
  rw [sameNamespace] at type
  refine ⟨_, rfl, property, inside, name.trans name'.symm, ?_, required.trans required'.symm⟩
  exact Except.ok.inj (type.symm.trans type')

/-- The argument of a generated function has the type that is declared for it: where the document
declares all parameters of an operation by name and schema, the declarations hold one for the
operation under the type name of the entry, with a property for every parameter of the entry, of
the same name and type and required alike. -/
theorem declaration_of_entry (document : Node) (sharing : Sharing) (settings : Settings)
    (declarer : DeclarationBuilder) (builder : ServiceBuilder) (declarations : List Declaration)
    (groups : List TagGroup) (mappings : List GatewayMapping)
    (declarerCreated : DeclarationBuilder.create document settings = .ok declarer)
    (created : ServiceBuilder.create document sharing settings = .ok builder)
    (declared : declarer.declarations.outcome = .ok declarations)
    (returned : builder.groups.value = (.ok groups, mappings)) :
    ∀ group ∈ groups, ∀ entry ∈ group.entries, ∃ tag operation,
      HasFunction document operation ∧ builder.Builds tag operation entry.functionName entry ∧
      (DeclaresParameters builder.context operation → entry.hasParameters = true →
        ∃ declaration ∈ declarations,
          (declarer.ofParameters? operation).outcome = .ok (some declaration) ∧
          declaration.typeName = entry.typeName ∧
          ∀ sent ∈ entry.parameters, ∀ parameter ∈ sent.2,
            ∃ property ∈ declaration.body.properties, property.name = parameter.name ∧
              property.type = parameter.type ∧ property.required = parameter.required) := by
  intro group among entry member
  obtain ⟨tag, operation, function, builds⟩ := exists_builds returned among member
  obtain ⟨services, created', rfl⟩ := (DeclarationBuilder.create_ok sharing).mp declarerCreated
  obtain rfl := Except.ok.inj (created.symm.trans created')
  obtain rfl := document_of_create created
  obtain rfl := settings_of_create created
  refine ⟨tag, operation, function, builds, fun declares present => ?_⟩
  obtain ⟨typeName, nodes, read, collected, grouped, same⟩ := builds.parameters
  obtain ⟨result, made, inside⟩ := DeclarationBuilder.exists_ofParameters? declared function.1
  -- Every parameter of the entry is read off an object that the document declares.
  have each : ∀ sent ∈ entry.parameters, ∀ parameter ∈ sent.2, ∃ declaration,
      result = some declaration ∧ ∃ property ∈ declaration.body.properties,
        property.name = parameter.name ∧ property.type = parameter.type ∧
        property.required = parameter.required := by
    rintro ⟨location, group⟩ held parameter sent
    rw [same] at held
    obtain ⟨group', held', alike⟩ := Parameter.alike_of_finishParameters held
    obtain ⟨original, known, name, type, required⟩ := exists_of_forall₂ alike.flip sent
    rw [← name, ← type, ← required]
    rcases Parameter.mem_groups grouped held' known with
      ⟨members, leads, sentThere, read⟩ | ⟨name, placeholder, _, absent⟩
    · have typed := declares.typed members ⟨nodes, collected, leads⟩ location sentThere
      exact exists_property rfl rfl made collected leads typed read
    · obtain ⟨members, ⟨nodes', collected', leads⟩, inPath, named⟩ :=
        declares.placeholders name placeholder
      obtain rfl := Except.ok.inj (collected.symm.trans collected')
      exact absurd named (absent members leads inPath)
  -- An entry with parameters has one at least, so its operation has a declaration.
  obtain ⟨declaration, rfl⟩ : ∃ declaration, result = some declaration := by
    obtain ⟨⟨location, group⟩, held⟩ : ∃ sent, sent ∈ entry.parameters :=
      List.exists_mem_of_ne_nil _ (by simpa [Entry.hasParameters] using present)
    obtain ⟨group', held', alike⟩ := Parameter.alike_of_finishParameters (same ▸ held)
    have some : group ≠ [] := fun nothing =>
      Parameter.ne_nil_of_groups grouped held' (List.forall₂_nil_right_iff.mp (nothing ▸ alike))
    obtain ⟨parameter, sent⟩ := List.exists_mem_of_ne_nil _ some
    obtain ⟨declaration, made, _⟩ := each _ held parameter sent
    exact ⟨declaration, made⟩
  refine ⟨declaration, inside _ rfl, made, ?_, fun sent held parameter inSent => ?_⟩
  · obtain ⟨_, _, properties, _, _, _, same⟩ := DeclarationBuilder.ofParameters?_ok.mp made
    split at same
    · simp at same
    · rw [Option.some.inj same, typeName]
  · obtain ⟨_, same, property⟩ := each sent held parameter inSent
    obtain rfl := Option.some.inj same
    exact property

end

/-- An operation on a path with a placeholder, with these parameters. -/
def onUser (parameters : List Node) : Node :=
  .object [(.text "paths", .object [(.text "/users/\x7bid\x7d", .object [(.text "get",
    .object [(.text "operationId", .text "getUser"), (.text "tags", .list [.text "default"]),
      (.text "parameters", .list parameters)])])])]

/-- A text parameter of the path. -/
def idInPath : Members :=
  [(.text "name", .text "id"), (.text "in", .text "path"), (.text "required", .bool true),
    (.text "schema", .object [(.text "type", .text "string")])]

theorem declaration_of_idInPath :
    ∃ (declarer : DeclarationBuilder) (builder : ServiceBuilder) (declarations : List Declaration)
      (groups : List TagGroup) (mappings : List GatewayMapping),
      DeclarationBuilder.create (onUser [.object idInPath]) (Settings.ofSource "openapi.json") =
        .ok declarer ∧
      ServiceBuilder.create (onUser [.object idInPath]) [] (Settings.ofSource "openapi.json") =
        .ok builder ∧
      declarer.declarations.outcome = .ok declarations ∧
      builder.groups.value = (.ok groups, mappings) ∧
      ∃ group ∈ groups, ∃ entry ∈ group.entries, entry.hasParameters = true ∧
        ∃ declaration ∈ declarations, declaration.typeName = entry.typeName ∧
          ∀ sent ∈ entry.parameters, ∀ parameter ∈ sent.2,
            ∃ property ∈ declaration.body.properties, property.name = parameter.name ∧
              property.type = parameter.type ∧ property.required = parameter.required := by
  let document := onUser [.object idInPath]
  let settings := Settings.ofSource "openapi.json"
  let namer := Namer.create "API" ["/users/\x7bid\x7d"] .none 20
  let declarer : DeclarationBuilder := ⟨document, settings, namer⟩
  let builder : ServiceBuilder := ⟨document, [], settings, namer⟩
  let operation : Operation := ⟨"/users/\x7bid\x7d", "get",
    [(.text "operationId", .text "getUser"), (.text "tags", .list [.text "default"]),
      (.text "parameters", .list [.object idInPath])],
    [(.text "get", .object [(.text "operationId", .text "getUser"),
      (.text "tags", .list [.text "default"]),
      (.text "parameters", .list [.object idInPath])])]⟩
  have made : declarer.declarations.outcome.toOption.isSome = true := by decide +kernel
  have some : (builder.groups.value.1.toOption.any fun groups => groups.any fun group =>
      group.entries.any Entry.hasParameters) = true := by decide +kernel
  have only : Document.operations document = .ok [operation] := rfl
  have collected : (Parameter.ofOperation builder.context operation).outcome =
      .ok [.object idInPath] := by decide +kernel
  have resolved : (builder.context.resolve (.object idInPath)).outcome =
      .ok (.object idInPath) := by decide +kernel
  have declares : DeclaresParameters builder.context operation := by
    constructor
    · rintro parameter ⟨nodes, collected', node, among, leads⟩ location _
      obtain rfl := Except.ok.inj (collected.symm.trans collected')
      obtain rfl := List.mem_singleton.mp among
      obtain rfl := Node.object.inj (Except.ok.inj (resolved.symm.trans leads))
      exact ⟨by decide, .inl (by decide)⟩
    · intro name among
      have names : Parameter.placeholders operation.path.toList = ["id"] := by decide +kernel
      rw [names, List.mem_singleton] at among
      subst among
      exact ⟨idInPath, ⟨_, collected, _, List.mem_singleton.mpr rfl, resolved⟩, rfl,
        by decide +kernel⟩
  cases declared : declarer.declarations.outcome with
  | error failure => simp [declared, Except.toOption] at made
  | ok declarations =>
    cases returned : builder.groups.value with
    | mk outcome mappings =>
      cases outcome with
      | error failure => simp [returned, Except.toOption] at some
      | ok groups =>
        simp only [returned, Except.toOption, Option.any_some, List.any_eq_true] at some
        obtain ⟨group, among, entry, member, present⟩ := some
        obtain ⟨_, operation', ⟨⟨operations, listed, inside⟩, _⟩, _, told⟩ :=
          declaration_of_entry document [] settings declarer builder declarations groups mappings
            rfl rfl declared returned group among entry member
        obtain rfl := Except.ok.inj (only.symm.trans listed)
        obtain rfl := List.mem_singleton.mp inside
        obtain ⟨declaration, known, _, typeName, each⟩ := told declares present
        exact ⟨declarer, builder, declarations, groups, mappings, rfl, rfl, declared, returned,
          group, among, entry, member, present, declaration, known, typeName, each⟩

section

variable [Text.Romanization]

/-- Name, type and whether it is required, of all parameters that are sent. -/
def parametersSent (document : Node) (settings : Settings) :
    Option (List (String × String × Bool)) := do
  let builder ← (ServiceBuilder.create document [] settings).toOption
  let groups ← builder.groups.value.1.toOption
  return (groups.flatMap (·.entries)).flatMap fun entry => entry.parameters.flatMap fun sent =>
    sent.2.map fun parameter => (parameter.name, parameter.type, parameter.required)

/-- The same of all properties that are declared. -/
def propertiesDeclared (document : Node) (settings : Settings) :
    Option (List (String × String × Bool)) := do
  let builder ← (DeclarationBuilder.create document settings).toOption
  let declarations ← builder.declarations.outcome.toOption
  return declarations.flatMap fun declaration => declaration.body.properties.map fun property =>
    (property.name, property.type, property.required)

end

/-- A placeholder that no parameter is named after is sent but not declared, and a parameter without
a schema is sent as something else than it is declared. -/
theorem parameters_without_property :
    (parametersSent (onUser []) (Settings.ofSource "openapi.json") =
        some [("id", "string", true)] ∧
      propertiesDeclared (onUser []) (Settings.ofSource "openapi.json") = some []) ∧
    let untyped : Node := .object [(.text "name", .text "id"), (.text "in", .text "path"),
      (.text "required", .bool true)]
    parametersSent (onUser [untyped]) (Settings.ofSource "openapi.json") =
        some [("id", "\x7b 'id'?: number; \x7d", true)] ∧
      propertiesDeclared (onUser [untyped]) (Settings.ofSource "openapi.json") =
        some [("id", "any", true)] := by
  decide +kernel

end ApiBindings
