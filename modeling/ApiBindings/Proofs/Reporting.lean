import ApiBindings.Proofs.Declaration.Readable
import ApiBindings.Proofs.Generation
import ApiBindings.Proofs.Text.Romanization

/-!
# Documents whose failures are reported

A failure while an operation is built is told with the operation, but the declarations are made and
the operations are filed before any is built. What does not fit there ends the run with a failure
that names no operation. This cannot happen for a document all of whose components, parameters and
tags can be read, and it does happen for every other one, unless a reference is found earlier that
leads nowhere.
-/
namespace ApiBindings

namespace Document

open DeclarationBuilder

/-- Tags stand in a collection, if there are any and if no controller stands in for them. -/
def TagsReadable (operation : Operation) : Prop :=
  (operation.field "x-swagger-router-controller").isPresent = true ∨
    (operation.field "tags").elementsOrNone.isOk = true

/-- What is looked at in an operation before it is built. -/
structure OperationReadable (document : Node) (operation : Operation) : Prop where
  own : ParametersReadable document (operation.field "parameters")
  shared : ParametersReadable document (Members.field operation.pathItem "parameters")
  tags : TagsReadable operation

/-- What is looked at in a document before any of its operations is built. -/
structure Readable (style : EnumStyle) (document : Node) : Prop where
  components : ∃ schemas, Document.schemas document = .ok schemas ∧
    ∀ schema ∈ schemas, ComponentReadable document style schema.1 schema.2
  operations : ∃ operations, Document.operations document = .ok operations ∧
    ∀ operation ∈ operations, OperationReadable document operation

/-- Every pointer that is written in the document can be followed to its end. -/
def ReferencesLead (document : Node) : Prop :=
  ∀ pointer ∈ document.references, ∃ reached,
    Reference.follow document [pointer] pointer = .ok reached

end Document

open Document

/-- Whatever fails here fails for a value that does not fit. -/
abbrev Attempt.FailsOnMisfits {α : Type} (attempt : Attempt α) : Prop :=
  attempt.FailsAs fun failure => ∃ reason, failure = .misfit reason

namespace DeclarationBuilder

variable {builder : DeclarationBuilder}

variable [Text.Romanization]

/-- A document that can be read has its declarations made, or a reference leads nowhere. -/
theorem declarations_fails (readable : Readable builder.settings.enumStyle builder.document) :
    builder.declarations.FailsOnReferences := by
  obtain ⟨⟨schemas, listed, components⟩, ⟨operations, given, each⟩⟩ := readable
  have components : builder.componentDeclarations.FailsOnReferences :=
    .bind_of_ok listed (.mapM_of_mem fun schema member =>
      ofComponent_fails (components schema member))
  have parameters : builder.parameterDeclarations.FailsOnReferences := by
    refine .bind_of_ok given (.bind (.mapM_of_mem fun operation member => ?_) fun _ => .pure _)
    exact ofParameters?_fails (each operation member).own (each operation member).shared
  refine .bind components fun _ => .bind parameters fun _ => ?_
  exact .bind (.forM (fun _ => .noted _) _) fun _ => .pure _

omit [Text.Romanization] in
theorem resolveNode_succeeds {document node : Node} (lead : ReferencesLead document)
    (written : node.references ⊆ document.references) :
    (Reference.resolveNode document node).Succeeds := by
  refine (Attempt.succeeds_bind_pure _ _).mpr ?_
  rw [Attempt.Succeeds, Reference.outcome_resolve]
  unfold Reference.target
  split
  · exact ⟨_, rfl⟩
  · rename_i pointer refers
    exact lead pointer (written (Node.mem_references_of_localReference? node pointer refers))

/-- Where all references lead somewhere, declarations fail on what does not fit. -/
theorem declarations_misfits (lead : ReferencesLead builder.document) :
    builder.declarations.FailsOnMisfits := by
  -- All that is followed is written in the document, and so it leads somewhere.
  refine builder.declarations_failsAs (fun reason => ⟨reason, rfl⟩)
    (fun schemas listed schema member => .of_succeeds ?_)
    fun operation parameter among declared => .of_succeeds ?_
  · exact resolveNode_succeeds lead (references_of_schemas listed member)
  · exact resolveNode_succeeds lead (references_of_isParameter among declared)

end DeclarationBuilder

namespace ServiceBuilder

variable {builder : ServiceBuilder}

theorem rawTags_isOk (operation : Operation) :
    (rawTags operation).isOk = true ↔ TagsReadable operation := by
  unfold rawTags TagsReadable Operation.tags
  dsimp only
  by_cases controlled : (operation.field "x-swagger-router-controller").isPresent = true
  · rw [if_pos controlled]
    exact iff_of_true rfl (.inl controlled)
  · rw [if_neg controlled, or_iff_right controlled]
    cases (operation.field "tags").elementsOrNone with
    | error reason => rfl
    | ok items =>
      -- Whatever the tags are, there is a tag to file under.
      refine iff_of_true ?_ rfl
      simp only [bind, Except.bind, pure, Except.pure]
      split
      · rfl
      · cases operation.operationId? <;> rfl

variable [Text.Romanization]

/-- Operations are filed when all their tags can be read. -/
theorem collect_succeeds :
    builder.collect.Succeeds ↔ ∃ operations, Document.operations builder.document = .ok operations ∧
      ∀ operation ∈ operations, TagsReadable operation := by
  have filed (operation : Operation) :
      (builder.filings operation).Succeeds ↔ TagsReadable operation := by
    have named (tags : List String) : (do
        let names ← (tags.mapM (TypeName.sanitize builder.settings.namespaceName) :
          Noted (List String))
        return names.map fun name => (name, operation) :
        Attempt (List (String × Operation))).Succeeds :=
      (Attempt.succeeds_bind_pure _ _).mpr (Attempt.succeeds_noted _)
    rw [filings, Attempt.succeeds_bind_iff fun tags => iff_true_intro (named tags),
      Attempt.succeeds_misfit, and_iff_left trivial, rawTags_isOk]
  rw [collect, Attempt.succeeds_bind]
  simp only [Attempt.outcome_misfit, Attempt.mapError_ok, Attempt.succeeds_bind_pure,
    Attempt.succeeds_mapM, filed]

/-- Nothing is grouped that cannot be filed. -/
theorem groups_of_collect {failure : Failure} (unfiled : builder.collect.outcome = .error failure) :
    builder.groups.value = (.error failure, []) := by
  have stuck : builder.collect.run.value = .error failure := unfiled
  simp only [groups, Noted.value_bind, stuck]
  rfl

end ServiceBuilder

namespace ServiceModel

variable {document : Node} {sharing : Sharing} {settings : Settings}

section

variable [Text.Romanization]

/-- A document that can be read is resolved, or it fails for a reference of its declarations or for
an operation that has functions. -/
theorem failsAs_of_readable {kind : Failure → Prop}
    (readable : Readable settings.enumStyle document)
    (resolution : ∀ failure, failure.isResolution = true → kind failure)
    (stopped : ∀ services, ServiceBuilder.create document sharing settings = .ok services →
      ∀ tag operation failure, ServiceBuilder.HasFunction services.document operation →
        services.StopsEntry tag operation failure → kind (ServiceBuilder.wrap operation failure)) :
    (ofDocument document sharing settings).FailsAs kind := by
  obtain ⟨operations, given, each⟩ := readable.operations
  obtain ⟨paths, listed, _⟩ := operations_ok.mp given
  let services : ServiceBuilder := ⟨document, sharing, settings, Namer.create
    settings.namespaceName (paths.map (·.1)) settings.hooks settings.functionNameMaxLength⟩
  let builder : DeclarationBuilder := ⟨document, settings, services.namer⟩
  have created : ServiceBuilder.create document sharing settings = .ok services :=
    ServiceBuilder.create_ok.mpr ⟨paths, listed, rfl⟩
  have created' : DeclarationBuilder.create document settings = .ok builder :=
    (DeclarationBuilder.create_ok sharing).mpr ⟨services, created, rfl⟩
  intro failure failed
  cases declared : builder.declarations.outcome with
  | error earlier =>
    -- What is declared can be read, so this is a reference.
    rw [ofDocument_of_undeclared created' declared] at failed
    obtain rfl := Except.error.inj failed
    exact resolution earlier (DeclarationBuilder.declarations_fails readable earlier declared)
  | ok declarations =>
    have filed : services.collect.Succeeds :=
      ServiceBuilder.collect_succeeds.mpr ⟨operations, given, fun operation member =>
        (each operation member).tags⟩
    rw [ofDocument_of_declared created declared] at failed
    cases stuck : services.groups.value.1 with
    | ok groups => simp [stuck, Except.map] at failed
    | error earlier =>
      rw [stuck] at failed
      obtain rfl := Except.error.inj failed
      -- All operations are filed, so it was one of them that could not be built.
      rcases ServiceBuilder.groups_failed (Prod.ext stuck rfl) with
        unfiled | ⟨tag, operation, failure, among, stops, rfl⟩
      · obtain ⟨groups, collected⟩ := filed
        rw [unfiled] at collected
        cases collected
      · exact stopped services created tag operation failure among stops

/-- A document that can be read is resolved, or its failure is reported. -/
theorem reported_of_readable (readable : Readable settings.enumStyle document) :
    (ofDocument document sharing settings).FailsAs fun failure => failure.isReported = true := by
  refine failsAs_of_readable readable (fun _ => Failure.isReported_of_isResolution) ?_
  intro services _ tag operation failure _ stops
  exact (Failure.isReported_wrap operation stops.ofDocument).2

/-- What is declared and filed could be read. -/
theorem readable_of_ok {builder : DeclarationBuilder} {services : ServiceBuilder}
    {declarations : List Declaration} (declared : builder.declarations.outcome = .ok declarations)
    (same : services.document = builder.document) (filed : services.collect.Succeeds) :
    Readable builder.settings.enumStyle builder.document := by
  obtain ⟨schemas, components, operations, parameters, listed, made, given, read, _⟩ :=
    DeclarationBuilder.declarations_ok declared
  obtain ⟨operations', given', tagged⟩ := ServiceBuilder.collect_succeeds.mp filed
  rw [same, given] at given'
  obtain rfl := Except.ok.inj given'
  refine ⟨⟨schemas, listed, fun schema member => ?_⟩,
    ⟨operations, given, fun operation member => ?_⟩⟩
  · obtain ⟨declaration, _, made⟩ := exists_of_forall₂ made member
    exact DeclarationBuilder.componentReadable_of_succeeds ⟨declaration, made⟩
  · obtain ⟨result, _, read⟩ := exists_of_forall₂ read member
    obtain ⟨own, shared⟩ := DeclarationBuilder.parametersReadable_of_succeeds ⟨result, read⟩
    exact ⟨own, shared, tagged operation member⟩

/-- A document that cannot be read is not resolved. Its failure is not reported, but for that of a
reference which leads nowhere. -/
theorem unreported_of_not_readable (unreadable : ¬ Readable settings.enumStyle document) :
    ∃ failure, (ofDocument document sharing settings).outcome = .error failure ∧
      (failure.isResolution = true ∨ failure.isReported = false) ∧
      (ReferencesLead document → failure.isReported = false) := by
  -- The run ends at one of three stages: paths are listed, declarations are made, tags are filed.
  cases created : ServiceBuilder.create document sharing settings with
  | error reason => exact ⟨.misfit reason, ofDocument_of_uncreated created, .inr rfl, fun _ => rfl⟩
  | ok services =>
    let builder : DeclarationBuilder := ⟨document, settings, services.namer⟩
    have created' : DeclarationBuilder.create document settings = .ok builder :=
      (DeclarationBuilder.create_ok sharing).mpr ⟨services, created, rfl⟩
    cases declared : builder.declarations.outcome with
    | error failure =>
      have unmade : Attempt.OfReading (Attempt.FailsAs fun failure =>
          failure.isResolution = true ∨ failure.isReported = false) :=
        ofReading_failsAs (fun _ => .inr rfl) fun _ known => .inl known
      have told := builder.declarations_failsAs (fun _ => .inr rfl)
        (fun _ _ _ _ => unmade.resolveNode _ _) (fun _ _ _ _ => unmade.resolveNode _ _) failure
        declared
      refine ⟨failure, ofDocument_of_undeclared created' declared, told, fun lead => ?_⟩
      obtain ⟨reason, rfl⟩ := DeclarationBuilder.declarations_misfits lead failure declared
      rfl
    | ok declarations =>
      cases collected : services.collect.outcome with
      | error failure =>
        have misfits : services.collect.FailsAs fun failure => failure.isReported = false :=
          services.collect_failsAs fun _ => rfl
        have unreported := misfits failure collected
        refine ⟨failure, ?_, .inr unreported, fun _ => unreported⟩
        rw [ofDocument_of_declared created declared, ServiceBuilder.groups_of_collect collected]
        rfl
      | ok filed =>
        -- Nothing is left that could not be read.
        obtain ⟨_, _, rfl⟩ := ServiceBuilder.create_ok.mp created
        exact absurd (readable_of_ok declared rfl ⟨filed, collected⟩) unreadable

/-- Whatever fails for a document that can be read is reported. A document that cannot be read is
not resolved, and unless a reference leads nowhere its failure is not reported. Where all references
lead somewhere, failures are therefore reported exactly if the document can be read. -/
theorem failures_reported_iff (document : Node) (sharing : Sharing) (settings : Settings) :
    (Readable settings.enumStyle document → ∀ failure,
      (ofDocument document sharing settings).outcome = .error failure → failure.isReported = true) ∧
    (¬ Readable settings.enumStyle document → ∃ failure,
      (ofDocument document sharing settings).outcome = .error failure ∧
      (failure.isResolution = true ∨ failure.isReported = false)) ∧
    (ReferencesLead document → ((∀ failure,
        (ofDocument document sharing settings).outcome = .error failure →
          failure.isReported = true) ↔
      Readable settings.enumStyle document)) := by
  refine ⟨reported_of_readable, fun unreadable => ?_, fun lead => ⟨fun reported => ?_,
    reported_of_readable⟩⟩
  · obtain ⟨failure, failed, told, _⟩ := unreported_of_not_readable unreadable
    exact ⟨failure, failed, told⟩
  · by_contra unreadable
    obtain ⟨failure, failed, _, untold⟩ := unreported_of_not_readable unreadable
    have told := reported failure failed
    rw [untold lead] at told
    cases told

end

/-- A document with one operation that has these members. -/
def withGet (fields : Members) : Node :=
  .object [(.text "paths", .object [(.text "/users", .object [(.text "get", .object fields)])])]

/-- An operation whose gateway gives a number for its path. -/
def numberAsPath : Members :=
  [(.text "x-antTech-description", .object [(.text "antTechApiName", .int 5)])]

/-- An operation with a number for its parameters. -/
def numberAsParameters : Members := [(.text "parameters", .int 5)]

theorem failures_reported_of_numberAsPath :
    Readable .literals (withGet numberAsPath) ∧ ∃ failure,
      (ofDocument (withGet numberAsPath) [] (Settings.ofSource "openapi.json")).outcome =
        .error failure ∧
      failure.isReported = true := by
  have readable : Readable .literals (withGet numberAsPath) := by
    have absent : DeclarationBuilder.ParametersReadable (withGet numberAsPath) .null :=
      ⟨[], rfl, by simp⟩
    refine ⟨⟨[], rfl, by simp⟩, ⟨_, rfl, fun operation member => ?_⟩⟩
    obtain rfl := List.mem_singleton.mp member
    exact ⟨absent, absent, .inr rfl⟩
  have failed : (ofDocument (withGet numberAsPath) [] (Settings.ofSource "openapi.json")).outcome =
      .error (.endpoint "/users" (some "get") (some "/users")
        (some (.misfit (.noMember .int "replace")))) := rfl
  exact ⟨readable, _, failed, (failures_reported_iff _ _ _).1 readable _ failed⟩

theorem unreported_of_numberAsParameters :
    (withGet numberAsParameters).isObject = true ∧
    (ofDocument (withGet numberAsParameters) [] (Settings.ofSource "openapi.json")).outcome =
      .error (.misfit (.notIterable .int)) ∧
    Failure.isReported (.misfit (.notIterable .int)) = false ∧
    ∃ services, ServiceBuilder.create (withGet numberAsParameters) []
        (Settings.ofSource "openapi.json") = .ok services ∧
      services.groups.value = (.error (.endpoint "/users" (some "get") (some "/users")
        (some (.misfit (.notIterable .int)))), []) :=
  ⟨rfl, rfl, rfl, _, rfl, rfl⟩

end ServiceModel

end ApiBindings
