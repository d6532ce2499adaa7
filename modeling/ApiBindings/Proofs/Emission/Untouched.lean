import ApiBindings.Proofs.Service.Built
import ApiBindings.Proofs.Text.Romanization
import ApiBindings.Yaml.Value

/-!
# Runs that leave the tree as it was

Before the first file is written the document is loaded and resolved as a whole. Since it is
resolved only if every part of it can be built, one broken part anywhere is enough for a run to
leave the tree as it was. Once files are written, a run can only fail for reasons that the building
of the model does not have: a text that replaces a template, a text or a name without bytes, or the
file system.
-/
namespace ApiBindings

/-- Failures that arise while files are written. -/
def Failure.isOfWriting : Failure → Bool
  | .output .. | .nulInName | .notEncodable _ | .notUtf8 _ | .generation .. | .rendering _ => true
  | _ => false

theorem Failure.isOfWriting_of_document {failure : Failure} (known : failure.OfDocument) :
    failure.isOfWriting = false := by
  rcases known with resolution | misfit
  · cases failure <;> simp_all [isResolution, isOfWriting]
  · cases failure <;> simp_all [isMisfit, isOfWriting]

namespace FileTree

theorem finalText_fails [TemplateEngine] {tree : FileTree} {folder : Option String}
    {file : PlannedFile} {failure : Failure}
    (failed : file.finalText tree folder = .error failure) : failure.isOfWriting = true := by
  unfold PlannedFile.finalText at failed
  split at failed
  · cases failed
  · rename_i folder content _
    -- A template that replaces one is missed if it is not text or cannot be rendered.
    cases decoded : FileTree.textOf content with
    | error reason =>
      rw [decoded] at failed
      rw [← Except.error.inj failed]
      rfl
    | ok text =>
      cases rendered : TemplateEngine.render tree folder text file.context with
      | ok text => simp [decoded, rendered, Except.mapError, bind, Except.bind] at failed
      | error reason =>
        simp only [decoded, rendered, Except.mapError, bind, Except.bind] at failed
        rw [← Except.error.inj failed]
        cases reason <;> rfl

theorem nameFailure?_isOfWriting {name : FileName} {failure : Failure}
    (broken : nameFailure? name = some failure) : failure.isOfWriting = true := by
  unfold nameFailure? at broken
  split at broken
  · split at broken
    · rw [← Option.some.inj broken]
      rfl
    · cases broken
  · rw [← Option.some.inj broken]
    rfl

theorem contentOf_fails {text : String} {failure : Failure}
    (failed : (contentOf text).2 = .error failure) : failure.isOfWriting = true := by
  unfold contentOf at failed
  split at failed
  · cases failed
  · rw [← Except.error.inj failed]
    rfl

theorem writeOutput_fails {tree after : FileTree} {name : FileName} {text : String}
    {failure : Failure} (failed : tree.writeOutput name text = (after, .error failure)) :
    failure.isOfWriting = true := by
  unfold writeOutput at failed
  split at failed
  · rename_i broken
    cases failed
    exact nameFailure?_isOfWriting broken
  · rename_i broken
    split at failed <;> cases failed
    · rfl
    · exact nameFailure?_isOfWriting broken
  · split at failed
    · cases failed
      rfl
    · exact contentOf_fails (Prod.mk.inj failed).2

theorem writePlan_fails [TemplateEngine] {folder : Option String} {directory : FileName}
    {plan : List PlannedFile} {tree after : FileTree} {failure : Failure}
    (failed : writePlan folder directory plan tree = (after, .error failure)) :
    failure.isOfWriting = true := by
  induction plan generalizing tree with
  | nil => cases failed
  | cons file rest ih =>
    rw [writePlan] at failed
    split at failed
    · rename_i earlier taken
      cases failed
      exact finalText_fails taken
    · dsimp only at failed
      split at failed
      · rename_i earlier stuck
        cases failed
        exact writeOutput_fails stuck
      · split at failed
        · rename_i stuck
          cases failed
          exact ih stuck
        · cases failed

end FileTree

/-- A document that is loaded may fail to load, and not in writing. -/
theorem Source.load_fails [YamlReader] {web : Source.Web} {tree : FileTree} {base : FileName}
    {source : String} {failure : Failure}
    (failed : Source.load web tree base source = .error failure) :
    failure.isOfWriting = false := by
  unfold Source.load at failed
  split at failed
  · cases failed
    rfl
  · split at failed <;> cases failed
    rfl

namespace Generation

section

variable [Text.Romanization]

/-- What a document is resolved into, if it can be loaded. -/
def resolved (settings : Settings) (document : Except Failure LoadedDocument) :
    Except Failure ServiceModel := do
  let document ← document
  (ServiceModel.ofDocument document.root document.sharing settings).outcome

theorem exists_resolved_iff (settings : Settings) (document : Except Failure LoadedDocument) :
    (∃ model, resolved settings document = .ok model) ↔ ∃ loaded services, document = .ok loaded ∧
      ServiceBuilder.create loaded.root loaded.sharing settings = .ok services ∧
      services.BuildsEverything := by
  cases document with
  | error failure => simp [resolved, bind, Except.bind]
  | ok loaded =>
    simp only [Except.ok.injEq, exists_and_left, exists_eq_left']
    exact ServiceModel.succeeds_iff loaded.root loaded.sharing settings

variable [TemplateEngine]

theorem write_eq (tree : FileTree) (settings : Settings)
    (document : Except Failure LoadedDocument) :
    write tree settings document =
      match resolved settings document with
      | .error failure => (tree, .error failure)
      | .ok model =>
        tree.writePlan settings.templatesFolder settings.projectPath (model.plan settings) := by
  cases document <;> rfl

/-- A run fails in writing, or on its document with the tree as it was. -/
theorem write_fails {tree after : FileTree} {settings : Settings}
    {document : Except Failure LoadedDocument} {failure : Failure}
    (failed : write tree settings document = (after, .error failure)) :
    failure.isOfWriting = true ∨ resolved settings document = .error failure ∧ after = tree := by
  rw [write_eq] at failed
  split at failed
  · rename_i earlier stuck
    cases failed
    exact .inr ⟨stuck, rfl⟩
  · exact .inl (FileTree.writePlan_fails failed)

/-- A run whose document cannot be loaded or resolved ends with that failure and leaves the tree
as it was. The document is resolved only if it is loaded and each of its parts can be built, so
this happens for every broken part. Conversely, a run that fails on anything but writing has
failed on its document, for neither loading nor resolving fails as writing does. -/
theorem write_untouched [YamlReader] (tree : FileTree) (settings : Settings)
    (document : Except Failure LoadedDocument) :
    (∀ failure, resolved settings document = .error failure →
      write tree settings document = (tree, .error failure)) ∧
    ((∃ model, resolved settings document = .ok model) ↔
      ∃ loaded services, document = .ok loaded ∧
        ServiceBuilder.create loaded.root loaded.sharing settings = .ok services ∧
        services.BuildsEverything) ∧
    (∀ after failure, write tree settings document = (after, .error failure) →
      failure.isOfWriting = true ∨ resolved settings document = .error failure ∧ after = tree) ∧
    ∀ web base source, document = Source.load web tree base source → ∀ failure,
      resolved settings document = .error failure → failure.isOfWriting = false := by
  refine ⟨fun failure failed => ?_, exists_resolved_iff settings document,
    fun _ _ => write_fails, ?_⟩
  · rw [write_eq, failed]
  · rintro web base source rfl failure failed
    cases loaded : Source.load web tree base source with
    | error earlier =>
      rw [loaded] at failed
      cases failed
      exact Source.load_fails loaded
    | ok document =>
      rw [loaded] at failed
      exact Failure.isOfWriting_of_document (ServiceModel.ofDocument_fails _ _ settings _ failed)

end

/-- A tree with an index that an earlier run has left. -/
def withIndex : FileTree :=
  (FileTree.ofWorking ["work"]).set ["work", "index.ts"] (.file "old".toUTF8.toList)

attribute [local instance] TemplateEngine.verbatim Yaml.reader

theorem write_untouched_of_numberAsParameters :
    write withIndex (Settings.ofSource "openapi.json")
        (.ok ⟨ServiceModel.withGet ServiceModel.numberAsParameters, []⟩) =
      (withIndex, .error (.misfit (.notIterable .int))) :=
  (write_untouched _ _ _).1 _ rfl

end Generation

end ApiBindings
