import ApiBindings.Proofs.Service.Filing
import ApiBindings.Proofs.Name.Numbering

/-!
# Runs of the service builder

A run that succeeds builds an entry for each operation it takes, under the name the operation
gets when the names of its group are claimed in order. Nothing else passes from one operation to
the next, and between groups only the recorded aliases do.
-/
namespace ApiBindings.ServiceBuilder

variable (builder : ServiceBuilder)

variable [Text.Romanization]

/-- The name an operation claims in its group. -/
def baseName (operation : Operation) : String :=
  Spelling.file (builder.namer.functionName operation).value

/-- The names operations get when they claim them in order. -/
def claimedNames (operations : List Operation) : List String :=
  Registry.empty.claimAll (operations.map builder.baseName)

/-- An entry is what is put together for an operation under a name. -/
def Builds (tag : String) (operation : Operation) (functionName : String) (entry : Entry) : Prop :=
  ∃ parts, (builder.parts operation).outcome = .ok parts ∧
    (builder.finish tag operation parts functionName).outcome = .ok entry

/-- Entries are built for operations, one each, under their claimed names. -/
def BuildsAll (tag : String) (operations : List Operation) (entries : List Entry) : Prop :=
  List.Forall₂ (fun (claim : Operation × String) entry => builder.Builds tag claim.1 claim.2 entry)
    (operations.zip (builder.claimedNames operations)) entries

/-- The aliases that operations leave behind. -/
def aliasesOf (operations : List Operation) : List GatewayMapping :=
  operations.flatMap fun operation => (mapping? operation).toList

variable {builder}

omit [Text.Romanization] in
/-- A document gets a builder if its paths are texts. -/
theorem create_ok {document : Node} {sharing : Sharing} {settings : Settings} :
    create document sharing settings = .ok builder ↔
      ∃ paths, Document.paths document = .ok paths ∧
      builder = ⟨document, sharing, settings, Namer.create settings.namespaceName (paths.map (·.1))
        settings.hooks settings.functionNameMaxLength⟩ := by
  unfold create Settings.namer
  cases Document.paths document with
  | error reason => simp [bind, Except.bind]
  | ok paths => simp [bind, Except.bind, pure, Except.pure, eq_comm]

omit [Text.Romanization] in
theorem settings_of_create {document : Node} {sharing : Sharing} {settings : Settings}
    (created : create document sharing settings = .ok builder) : builder.settings = settings := by
  obtain ⟨_, _, rfl⟩ := create_ok.mp created
  rfl

omit [Text.Romanization] in
theorem document_of_create {document : Node} {sharing : Sharing} {settings : Settings}
    (created : create document sharing settings = .ok builder) : builder.document = document := by
  obtain ⟨_, _, rfl⟩ := create_ok.mp created
  rfl

omit [Text.Romanization] in
theorem sharing_of_create {document : Node} {sharing : Sharing} {settings : Settings}
    (created : create document sharing settings = .ok builder) : builder.sharing = sharing := by
  obtain ⟨_, _, rfl⟩ := create_ok.mp created
  rfl

theorem parts_baseName {operation : Operation} {parts : EntryParts}
    (read : (builder.parts operation).outcome = .ok parts) :
    parts.baseName = builder.baseName operation := by
  simp only [ServiceBuilder.parts, Attempt.outcome_bind_ok, Attempt.outcome_noted,
    Attempt.outcome_pure, Except.ok.injEq] at read
  obtain ⟨_, _, _, _, _, _, _, _, _, _, _, rfl, rfl⟩ := read
  rfl

theorem entry_value (tag : String) (operation : Operation) (progress : Progress) :
    (builder.entry tag operation progress).value =
      match (builder.parts operation).outcome with
      | .error failure => (.error failure, progress)
      | .ok parts =>
        ((builder.finish tag operation parts (progress.registry.claim parts.baseName).1).outcome,
          advance progress operation parts) := by
  simp only [entry, Noted.value_bind, Attempt.outcome]
  cases (builder.parts operation).run.value <;> rfl

/-- Building one entry claims the base name of the operation and records its alias. -/
theorem entry_ok {tag : String} {operation : Operation} {progress after : Progress} {entry : Entry}
    (built : (builder.entry tag operation progress).value = (.ok entry, after)) :
    builder.Builds tag operation (progress.registry.claim (builder.baseName operation)).1 entry ∧
      after.registry = (progress.registry.claim (builder.baseName operation)).2 ∧
      after.mappings = progress.mappings ++ (mapping? operation).toList := by
  rw [entry_value] at built
  split at built
  · simp at built
  · rename_i parts read
    rw [Prod.mk.injEq] at built
    obtain ⟨finished, rfl⟩ := built
    rw [parts_baseName read] at finished
    exact ⟨⟨parts, read, finished⟩, by simp [advance, parts_baseName read], rfl⟩

/-- A run over operations hands its registry from one to the next. -/
theorem entriesOf_ok {tag : String} {operations : List Operation} {progress after : Progress}
    {entries : List Entry}
    (built : (builder.entriesOf tag operations progress).value = (.ok entries, after)) :
    List.Forall₂
      (fun (claim : Operation × String) entry => builder.Builds tag claim.1 claim.2 entry)
      (operations.zip (progress.registry.claimAll (operations.map builder.baseName))) entries ∧
    after.mappings = progress.mappings ++ aliasesOf operations := by
  -- Each entry hands its progress to the next one, so the induction is over any progress.
  induction operations generalizing progress entries after with
  | nil =>
    simp only [entriesOf, Noted.value_pure, Prod.mk.injEq, Except.ok.injEq] at built
    obtain ⟨rfl, rfl⟩ := built
    simp [aliasesOf]
  | cons operation rest ih =>
    simp only [entriesOf, Noted.value_bind] at built
    split at built
    · simp at built
    · rename_i first between built'
      obtain ⟨builds, registry, mappings⟩ := entry_ok built'
      simp only [Noted.value_bind] at built
      split at built
      · simp at built
      · rename_i others last built''
        simp only [Noted.value_pure, Prod.mk.injEq, Except.ok.injEq] at built
        obtain ⟨rfl, rfl⟩ := built
        obtain ⟨all, recorded⟩ := ih built''
        refine ⟨?_, by simp [recorded, mappings, aliasesOf]⟩
        rw [registry] at all
        exact .cons builds all

/-- A run over filed operations makes a group of the entries of each tag. -/
theorem groupsOf_ok {filed : List (String × List Operation)} {before after : List GatewayMapping}
    {groups : List TagGroup}
    (returned : (builder.groupsOf filed before).value = (.ok groups, after)) :
    (∃ built, List.Forall₂ (fun (group : String × List Operation) entries =>
        builder.BuildsAll group.1 (supported group.2) entries) filed built ∧
      groups = (filed.zip built).filterMap fun group => builder.group? group.1.1 group.2) ∧
    after = before ++ filed.flatMap fun group => aliasesOf (supported group.2) := by
  -- Every group starts from an empty registry; the aliases alone are handed on.
  induction filed generalizing before groups after with
  | nil =>
    simp only [groupsOf, Noted.value_pure, Prod.mk.injEq, Except.ok.injEq] at returned
    obtain ⟨rfl, rfl⟩ := returned
    exact ⟨⟨[], .nil, rfl⟩, by simp⟩
  | cons first rest ih =>
    obtain ⟨tag, operations⟩ := first
    simp only [groupsOf, Noted.value_bind] at returned
    split at returned
    · simp at returned
    · rename_i entries between built
      obtain ⟨builds, recorded⟩ := entriesOf_ok built
      simp only [Noted.value_bind] at returned
      split at returned
      · simp at returned
      · rename_i others last returned'
        simp only [Noted.value_pure, Prod.mk.injEq, Except.ok.injEq] at returned
        obtain ⟨rfl, rfl⟩ := returned
        obtain ⟨⟨built, all, rfl⟩, recorded'⟩ := ih returned'
        refine ⟨⟨entries :: built, .cons builds all, ?_⟩, ?_⟩
        · cases made : builder.group? tag entries <;> simp [made]
        · simp [recorded', recorded]

/-- What a successful run returns: the groups of the filed operations in order, less those
without entries, and the aliases of all operations that have functions. -/
theorem groups_ok {groups : List TagGroup} {mappings : List GatewayMapping}
    (returned : builder.groups.value = (.ok groups, mappings)) :
    ∃ filed built, builder.collect.outcome = .ok filed ∧
      List.Forall₂ (fun (group : String × List Operation) entries =>
        builder.BuildsAll group.1 (supported group.2) entries) filed built ∧
      groups = ((filed.zip built).filterMap fun group => builder.group? group.1.1 group.2) ∧
      mappings = filed.flatMap fun group => aliasesOf (supported group.2) := by
  simp only [ServiceBuilder.groups, Noted.value_bind] at returned
  split at returned
  · simp at returned
  · rename_i filed collected
    obtain ⟨⟨built, all, made⟩, recorded⟩ := groupsOf_ok returned
    exact ⟨filed, built, collected, all, made, by simpa using recorded⟩

/-- A run can be tried for groups without looking into them. -/
theorem exists_groups (builder : ServiceBuilder)
    (present : (builder.groups.value.1.toOption.any fun groups => !groups.isEmpty) = true) :
    ∃ groups mappings, builder.groups.value = (.ok groups, mappings) ∧ groups ≠ [] := by
  cases returned : builder.groups.value with
  | mk outcome mappings =>
    rw [returned] at present
    cases outcome with
    | error failure => simp [Except.toOption] at present
    | ok groups => exact ⟨groups, mappings, rfl, by simpa [Except.toOption] using present⟩

/-- A run can be tried for an entry without looking into the rest. -/
theorem exists_entry (builder : ServiceBuilder) (meets : Entry → Bool)
    (met : (builder.groups.value.1.toOption.any fun groups => groups.any fun group =>
      group.entries.any meets) = true) :
    ∃ groups mappings, builder.groups.value = (.ok groups, mappings) ∧
      ∃ group ∈ groups, ∃ entry ∈ group.entries, meets entry = true := by
  cases returned : builder.groups.value with
  | mk outcome mappings =>
    rw [returned] at met
    cases outcome with
    | error failure => simp [Except.toOption] at met
    | ok groups =>
      simp only [Except.toOption, Option.any_some, List.any_eq_true] at met
      exact ⟨groups, mappings, rfl, met⟩

/-- A document with one operation. -/
def withOperation (path method operationId : String) : Node :=
  .object [(.text "paths", .object [(.text path, .object [(.text method, .object
    [(.text "operationId", .text operationId), (.text "tags", .list [.text "default"])])])])]

/-- Its operation. -/
def onlyOperation (path method operationId : String) : Operation :=
  let fields : Members := [(.text "operationId", .text operationId),
    (.text "tags", .list [.text "default"])]
  ⟨path, method, fields, [(.text method, .object fields)]⟩

/-- The builder for it. -/
def forOperation (path method operationId : String) : ServiceBuilder :=
  ⟨withOperation path method operationId, [], Settings.ofSource "openapi.json",
    Namer.create "API" [path] .none 20⟩

end ApiBindings.ServiceBuilder
