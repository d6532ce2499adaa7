import ApiBindings.Proofs.Reporting
import ApiBindings.Proofs.Service.Run

/-!
# Documents that are resolved

Nothing in a document is passed over: it is resolved exactly if each of its parts can be built by
itself. These are the components, the parameters of each operation, the tags, and the function of
each operation that has one, under every tag and the name it gets there.
-/
namespace ApiBindings

namespace ServiceBuilder

variable {builder : ServiceBuilder}

variable [Text.Romanization]

/-- Whether an entry is built does not depend on the aliases recorded so far. -/
theorem exists_entry_iff {tag : String} {operation : Operation} {progress : Progress} :
    (∃ entry after, (builder.entry tag operation progress).value = (.ok entry, after)) ↔
      ∃ entry, builder.Builds tag operation
        (progress.registry.claim (builder.baseName operation)).1 entry := by
  constructor
  · rintro ⟨entry, after, built⟩
    exact ⟨entry, (entry_ok built).1⟩
  · rintro ⟨entry, parts, read, finished⟩
    refine ⟨entry, advance progress operation parts, ?_⟩
    rw [entry_value, read]
    dsimp only
    rw [parts_baseName read, finished]

/-- A group is built if each of its operations is, under the name it claims. -/
theorem exists_entriesOf_iff {tag : String} {operations : List Operation} {progress : Progress} :
    (∃ entries after,
        (builder.entriesOf tag operations progress).value = (.ok entries, after)) ↔
      ∀ claim ∈ operations.zip (progress.registry.claimAll (operations.map builder.baseName)),
        ∃ entry, builder.Builds tag claim.1 claim.2 entry := by
  constructor
  · rintro ⟨entries, after, built⟩ claim member
    obtain ⟨entry, _, builds⟩ := exists_of_forall₂ (entriesOf_ok built).1 member
    exact ⟨entry, builds⟩
  · intro each
    -- The registry after an operation is what the later ones claim their names from.
    induction operations generalizing progress with
    | nil => exact ⟨[], progress, rfl⟩
    | cons operation rest ih =>
      have claims : (operation :: rest).zip
            (progress.registry.claimAll ((operation :: rest).map builder.baseName)) =
          (operation, (progress.registry.claim (builder.baseName operation)).1) ::
            rest.zip ((progress.registry.claim (builder.baseName operation)).2.claimAll
              (rest.map builder.baseName)) := rfl
      rw [claims] at each
      obtain ⟨here, later⟩ := List.forall_mem_cons.mp each
      obtain ⟨entry, between, built⟩ := exists_entry_iff.mpr here
      rw [← (entry_ok built).2.1] at later
      obtain ⟨entries, after, built'⟩ := ih later
      refine ⟨entry :: entries, after, ?_⟩
      simp only [entriesOf, Noted.value_bind, built, built', Noted.value_pure]

/-- The groups of filed operations are built if each operation that has a function is. -/
theorem exists_groupsOf_iff {filed : List (String × List Operation)}
    {before : List GatewayMapping} :
    (∃ groups after, (builder.groupsOf filed before).value = (.ok groups, after)) ↔
      ∀ group ∈ filed, ∀ claim ∈ (supported group.2).zip (builder.claimedNames (supported group.2)),
        ∃ entry, builder.Builds group.1 claim.1 claim.2 entry := by
  constructor
  · rintro ⟨groups, after, returned⟩ group member claim among
    obtain ⟨⟨built, all, _⟩, _⟩ := groupsOf_ok returned
    obtain ⟨entries, _, builds⟩ := exists_of_forall₂ all member
    obtain ⟨entry, _, builds⟩ := exists_of_forall₂ builds among
    exact ⟨entry, builds⟩
  · intro each
    induction filed generalizing before with
    | nil => exact ⟨[], before, rfl⟩
    | cons first rest ih =>
      obtain ⟨tag, operations⟩ := first
      obtain ⟨here, later⟩ := List.forall_mem_cons.mp each
      -- Names start anew under each tag, the aliases go on.
      obtain ⟨entries, between, built⟩ : ∃ entries after, (builder.entriesOf tag
          (supported operations) ⟨.empty, before⟩).value = (.ok entries, after) :=
        exists_entriesOf_iff.mpr here
      obtain ⟨groups, after, returned⟩ : ∃ groups after, (builder.groupsOf rest
          between.mappings).value = (.ok groups, after) := ih later
      refine ⟨(builder.group? tag entries).toList ++ groups, after, ?_⟩
      simp only [groupsOf, Noted.value_bind, built, returned, Noted.value_pure]

theorem exists_groups_iff :
    (∃ groups mappings, builder.groups.value = (.ok groups, mappings)) ↔
      ∃ filed, builder.collect.outcome = .ok filed ∧ ∀ group ∈ filed,
        ∀ claim ∈ (supported group.2).zip (builder.claimedNames (supported group.2)),
          ∃ entry, builder.Builds group.1 claim.1 claim.2 entry := by
  cases collected : builder.collect.outcome with
  | error failure => simp [groups_of_collect collected]
  | ok filed =>
    have grouped : builder.groups.value = (builder.groupsOf filed []).value := by
      have run : builder.collect.run.value = .ok filed := collected
      simp only [groups, Noted.value_bind, run]
    simp only [grouped, exists_groupsOf_iff, Except.ok.injEq, exists_eq_left']

/-- The builder of declarations beside one of services. -/
def declarer (services : ServiceBuilder) : DeclarationBuilder :=
  ⟨services.document, services.settings, services.namer⟩

/-- All parts of a document can be built, each by itself. -/
structure BuildsEverything (services : ServiceBuilder) : Prop where
  components : ∃ schemas, Document.schemas services.document = .ok schemas ∧
    ∀ schema ∈ schemas, (services.declarer.ofComponent schema.1 schema.2).Succeeds
  parameters : ∃ operations, Document.operations services.document = .ok operations ∧
    ∀ operation ∈ operations, (services.declarer.ofParameters? operation).Succeeds
  functions : ∃ filed, services.collect.outcome = .ok filed ∧ ∀ group ∈ filed,
    ∀ claim ∈ (supported group.2).zip (services.claimedNames (supported group.2)),
      ∃ entry, services.Builds group.1 claim.1 claim.2 entry

end ServiceBuilder

namespace DeclarationBuilder

variable {builder : DeclarationBuilder}

variable [Text.Romanization]

theorem declarations_succeeds :
    builder.declarations.Succeeds ↔
      (∃ schemas, Document.schemas builder.document = .ok schemas ∧
        ∀ schema ∈ schemas, (builder.ofComponent schema.1 schema.2).Succeeds) ∧
      ∃ operations, Document.operations builder.document = .ok operations ∧
        ∀ operation ∈ operations, (builder.ofParameters? operation).Succeeds := by
  have components : builder.componentDeclarations.Succeeds ↔
      ∃ schemas, Document.schemas builder.document = .ok schemas ∧
        ∀ schema ∈ schemas, (builder.ofComponent schema.1 schema.2).Succeeds := by
    simp only [componentDeclarations, Attempt.succeeds_bind, Attempt.outcome_misfit,
      Attempt.mapError_ok, Attempt.succeeds_mapM]
  have parameters : builder.parameterDeclarations.Succeeds ↔
      ∃ operations, Document.operations builder.document = .ok operations ∧
        ∀ operation ∈ operations, (builder.ofParameters? operation).Succeeds := by
    rw [parameterDeclarations, Attempt.succeeds_bind]
    simp only [Attempt.outcome_misfit, Attempt.mapError_ok, Attempt.succeeds_bind_pure,
      Attempt.succeeds_mapM]
  rw [← components, ← parameters]
  constructor
  · rintro ⟨declarations, declared⟩
    obtain ⟨_, _, made, made', _⟩ := declarations_iff.mp declared
    exact ⟨⟨_, made⟩, ⟨_, made'⟩⟩
  · rintro ⟨⟨_, made⟩, ⟨_, made'⟩⟩
    exact ⟨_, declarations_iff.mpr ⟨_, _, made, made', rfl⟩⟩

end DeclarationBuilder

namespace ServiceModel

variable [Text.Romanization]

/-- A document is resolved exactly if all its parts can be built. -/
theorem succeeds_iff (document : Node) (sharing : Sharing) (settings : Settings) :
    (ofDocument document sharing settings).Succeeds ↔ ∃ services,
      ServiceBuilder.create document sharing settings = .ok services ∧
      services.BuildsEverything := by
  cases created : ServiceBuilder.create document sharing settings with
  | error reason => simp [Attempt.Succeeds, ofDocument_of_uncreated created]
  | ok services =>
    -- Both builders are made of the document and its paths, so one is made if the other is.
    have declarer : DeclarationBuilder.create document settings = .ok services.declarer := by
      refine (DeclarationBuilder.create_ok sharing).mpr ⟨services, created, ?_⟩
      rw [ServiceBuilder.declarer, ServiceBuilder.document_of_create created,
        ServiceBuilder.settings_of_create created]
    simp only [Except.ok.injEq, exists_eq_left']
    constructor
    · rintro ⟨model, resolved⟩
      obtain ⟨builder, made, declared⟩ := declarations_of_ofDocument resolved
      obtain rfl := Except.ok.inj (declarer.symm.trans made)
      obtain ⟨components, parameters⟩ := DeclarationBuilder.declarations_succeeds.mp ⟨_, declared⟩
      obtain ⟨builder, made, returned⟩ := ofDocument_ok resolved
      obtain rfl := Except.ok.inj (created.symm.trans made)
      exact ⟨components, parameters, ServiceBuilder.exists_groups_iff.mp ⟨_, _, returned⟩⟩
    · intro built
      obtain ⟨declarations, declared⟩ : services.declarer.declarations.Succeeds :=
        DeclarationBuilder.declarations_succeeds.mpr ⟨built.components, built.parameters⟩
      obtain ⟨groups, mappings, returned⟩ := ServiceBuilder.exists_groups_iff.mpr built.functions
      rw [ServiceBuilder.declarer, ServiceBuilder.document_of_create created,
        ServiceBuilder.settings_of_create created] at declared
      refine ⟨⟨declarations, groups, mappings⟩, ?_⟩
      rw [ofDocument_of_declared created declared, returned]
      rfl

end ServiceModel

end ApiBindings
