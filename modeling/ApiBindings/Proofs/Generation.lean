import ApiBindings.Generation
import ApiBindings.Proofs.Outcome
import ApiBindings.Proofs.Emission.Kept

/-!
# Whole runs

A run into memory succeeds when its document is resolved and every text it plans can be taken;
what it returns is fixed by the plan alone.
-/
namespace ApiBindings

variable [Text.Romanization]

/-- A document is resolved only if its groups are. -/
theorem ServiceModel.ofDocument_ok {document : Node} {sharing : Sharing} {settings : Settings}
    {model : ServiceModel}
    (resolved : (ServiceModel.ofDocument document sharing settings).outcome = .ok model) :
    ∃ builder, ServiceBuilder.create document sharing settings = .ok builder ∧
      builder.groups.value = (.ok model.groups, model.mappings) := by
  simp only [ServiceModel.ofDocument, Attempt.outcome_bind_ok, Attempt.outcome_misfit,
    Attempt.mapError_ok, Attempt.outcome_noted] at resolved
  obtain ⟨_, _, _, _, builder, created, result, made, resolved⟩ := resolved
  refine ⟨builder, created, ?_⟩
  rw [Except.ok.inj made]
  split at resolved
  · simp at resolved
  · simp only [Attempt.outcome_pure, Except.ok.injEq] at resolved
    rw [← resolved]

omit [Text.Romanization] in
/-- The builders of declarations and of services are made alike. -/
theorem DeclarationBuilder.create_eq (document : Node) (sharing : Sharing) (settings : Settings) :
    DeclarationBuilder.create document settings =
      (ServiceBuilder.create document sharing settings).map fun services =>
        ⟨document, settings, services.namer⟩ := by
  unfold DeclarationBuilder.create ServiceBuilder.create
  cases settings.namer document <;> rfl

omit [Text.Romanization] in
theorem DeclarationBuilder.create_ok {document : Node} (sharing : Sharing) {settings : Settings}
    {builder : DeclarationBuilder} :
    DeclarationBuilder.create document settings = .ok builder ↔ ∃ services,
      ServiceBuilder.create document sharing settings = .ok services ∧
      builder = ⟨document, settings, services.namer⟩ := by
  rw [create_eq document sharing]
  cases ServiceBuilder.create document sharing settings with
  | error reason => simp [Except.map]
  | ok services => simp [Except.map, eq_comm]

/-- A document whose paths cannot be listed is not resolved. -/
theorem ServiceModel.ofDocument_of_uncreated {document : Node} {sharing : Sharing}
    {settings : Settings} {reason : Misfit}
    (uncreated : ServiceBuilder.create document sharing settings = .error reason) :
    (ServiceModel.ofDocument document sharing settings).outcome = .error (.misfit reason) := by
  rw [ofDocument, Attempt.outcome_bind, DeclarationBuilder.create_eq, uncreated]
  rfl

/-- Declarations come first: where they fail, nothing else is tried. -/
theorem ServiceModel.ofDocument_of_undeclared {document : Node} {sharing : Sharing}
    {settings : Settings} {builder : DeclarationBuilder} {failure : Failure}
    (created : DeclarationBuilder.create document settings = .ok builder)
    (undeclared : builder.declarations.outcome = .error failure) :
    (ServiceModel.ofDocument document sharing settings).outcome = .error failure := by
  rw [ofDocument, Attempt.outcome_bind, created, Attempt.outcome_misfit, Except.mapError,
    Except.bind, Attempt.outcome_bind, undeclared]
  rfl

/-- Once the declarations are made, the groups decide. -/
theorem ServiceModel.ofDocument_of_declared {document : Node} {sharing : Sharing}
    {settings : Settings} {services : ServiceBuilder} {declarations : List Declaration}
    (created : ServiceBuilder.create document sharing settings = .ok services)
    (declared : (DeclarationBuilder.mk document settings services.namer).declarations.outcome =
      .ok declarations) :
    (ServiceModel.ofDocument document sharing settings).outcome =
      services.groups.value.1.map fun groups =>
        ⟨declarations, groups, services.groups.value.2⟩ := by
  rw [ofDocument, Attempt.outcome_bind, DeclarationBuilder.create_eq, created,
    Attempt.outcome_misfit, Except.map, Except.mapError, Except.bind, Attempt.outcome_bind,
    declared, Except.bind, Attempt.outcome_bind, Attempt.outcome_misfit, Except.mapError,
    Except.bind, Attempt.outcome_bind, Attempt.outcome_noted, Except.bind]
  obtain ⟨grouped, mappings⟩ := services.groups.value
  cases grouped <;> rfl

/-- A document is resolved only if its declarations are made. -/
theorem ServiceModel.declarations_of_ofDocument {document : Node} {sharing : Sharing}
    {settings : Settings} {model : ServiceModel}
    (resolved : (ServiceModel.ofDocument document sharing settings).outcome = .ok model) :
    ∃ builder, DeclarationBuilder.create document settings = .ok builder ∧
      builder.declarations.outcome = .ok model.declarations := by
  simp only [ServiceModel.ofDocument, Attempt.outcome_bind_ok, Attempt.outcome_misfit,
    Attempt.mapError_ok, Attempt.outcome_noted] at resolved
  obtain ⟨builder, created, declarations, made, _, _, _, _, resolved⟩ := resolved
  refine ⟨builder, created, ?_⟩
  rw [made]
  split at resolved
  · simp at resolved
  · simp only [Attempt.outcome_pure, Except.ok.injEq] at resolved
    rw [← resolved]

namespace Generation

variable [TemplateEngine]

theorem preview_ok {tree : FileTree} {settings : Settings} {document : LoadedDocument}
    {paths : List String} {kept : KeptFiles} :
    (preview tree settings document).outcome = .ok (paths, kept) ↔ ∃ model,
      (ServiceModel.ofDocument document.root document.sharing settings).outcome = .ok model ∧
      KeptFiles.empty.writeAll tree settings.templatesFolder (model.plan settings) = .ok kept ∧
      paths = (model.plan settings).map PlannedFile.path := by
  simp only [preview, Attempt.outcome_bind_ok]
  refine exists_congr fun model => and_congr_right fun _ => ?_
  cases KeptFiles.empty.writeAll tree settings.templatesFolder (model.plan settings) with
  | error failure => simp
  | ok written => simp [and_comm, eq_comm]

/-- Without a folder of templates, every document that is resolved can be previewed. -/
theorem exists_preview (tree : FileTree) {settings : Settings} (document : LoadedDocument)
    {model : ServiceModel} (plain : settings.templatesFolder = none)
    (resolved :
      (ServiceModel.ofDocument document.root document.sharing settings).outcome = .ok model) :
    ∃ kept, (preview tree settings document).outcome =
      .ok ((model.plan settings).map PlannedFile.path, kept) := by
  obtain ⟨kept, written⟩ := KeptFiles.exists_writeAll tree .empty (model.plan settings)
  exact ⟨kept, preview_ok.mpr ⟨model, resolved, plain ▸ written, rfl⟩⟩

end Generation

end ApiBindings
