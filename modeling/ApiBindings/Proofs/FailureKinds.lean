import ApiBindings.Generation
import ApiBindings.Proofs.Declaration.Reading
import ApiBindings.Proofs.Reference.Chain
import ApiBindings.Proofs.Reference.Followed
import ApiBindings.Proofs.Service.Run

/-!
# Kinds of failures

A document cannot be resolved for one of two reasons: a local reference leads nowhere, or a value
is of another kind than is asked for. While an operation is built, the second reason is told with
the operation and the first one as it is.
-/
namespace ApiBindings

namespace Failure

/-- A local reference that leads nowhere: to no node, or back to itself. -/
def isResolution : Failure → Bool
  | .unresolved .. | .cyclic .. => true
  | _ => false

/-- A value of another kind than is asked for. -/
def isMisfit : Failure → Bool
  | .misfit _ | .endpoint _ _ _ (some (.misfit _)) => true
  | _ => false

/-- A failure that names the reference or the operation it arose at. -/
def isReported : Failure → Bool
  | .unresolved .. | .cyclic .. | .endpoint .. => true
  | _ => false

/-- What can be wrong with a document. -/
def OfDocument (failure : Failure) : Prop := failure.isResolution ∨ failure.isMisfit

theorem ofDocument_misfit (reason : Misfit) : (Failure.misfit reason).OfDocument := .inr rfl

theorem isReported_of_isResolution {failure : Failure} (known : failure.isResolution = true) :
    failure.isReported = true := by
  cases failure with
  | unresolved => rfl
  | cyclic => rfl
  | _ => simp [isResolution] at known

/-- What is told with an operation names it, or the reference that leads nowhere. -/
theorem isReported_wrap (operation : Operation) {failure : Failure} (known : failure.OfDocument) :
    (ServiceBuilder.wrap operation failure).OfDocument ∧
      (ServiceBuilder.wrap operation failure).isReported = true := by
  unfold ServiceBuilder.wrap
  split
  · exact ⟨.inr rfl, rfl⟩
  · rename_i other
    refine ⟨known, ?_⟩
    rcases known with resolution | misfit
    · exact isReported_of_isResolution resolution
    · cases failure with
      | misfit reason => exact absurd rfl (other reason)
      | endpoint => rfl
      | _ => simp [isMisfit] at misfit

end Failure

open Failure

/-- Whatever can fail here fails for what is wrong with a document. -/
abbrev Attempt.FailsOnDocument {α : Type} (attempt : Attempt α) : Prop :=
  attempt.FailsAs Failure.OfDocument

namespace Reference

/-- A walk does not fail for anything but its pointer. -/
theorem walk_fails {document : Node} {pointer : String} {failure : Failure}
    (failed : Pointer.walk document pointer = .error failure) :
    failure.isResolution = true ∨ ∃ reason, failure = .misfit reason := by
  have fromOn (parts : List (List Char)) (current : Located)
      (failed : Pointer.walkFrom pointer current parts = .error failure) :
      failure.isResolution = true ∨ ∃ reason, failure = .misfit reason := by
    induction parts generalizing current with
    | nil => simp [Pointer.walkFrom] at failed
    | cons part rest ih =>
      rw [Pointer.walkFrom] at failed
      split at failed
      · exact ih _ failed
      · obtain rfl := Except.error.inj failed
        exact .inl rfl
      · rename_i reason _
        exact .inr ⟨reason, (Except.error.inj failed).symm⟩
  unfold Pointer.walk at failed
  split at failed
  · rename_i earlier stuck
    obtain rfl := Except.error.inj failed
    exact fromOn _ _ stuck
  · split at failed
    · obtain rfl := Except.error.inj failed
      exact .inl rfl
    · simp at failed

theorem target_fails {document : Node} {located : Located} {failure : Failure}
    (failed : target document located = .error failure) :
    failure.isResolution = true ∨ ∃ reason, failure = .misfit reason := by
  obtain ⟨pointers, last, _, _, ends⟩ := target_ends document located
  rw [failed] at ends
  cases ends with
  | again => exact .inl rfl
  | broken _ _ stuck => exact walk_fails stuck

end Reference

/-- Reading fails on references as well. -/
theorem ofReading_failsAs {kind : Failure → Prop} (misfit : ∀ reason, kind (.misfit reason))
    (resolution : ∀ failure, failure.isResolution = true → kind failure) :
    Attempt.OfReading (Attempt.FailsAs kind) where
  toOfDescribing := Attempt.ofDescribing_failsAs misfit
  reference document located failure failed := by
    rw [Reference.outcome_resolve] at failed
    rcases Reference.target_fails failed with known | ⟨reason, rfl⟩
    · exact resolution failure known
    · exact misfit reason

theorem ofReading_fails : Attempt.OfReading Attempt.FailsOnDocument :=
  ofReading_failsAs ofDocument_misfit fun _ known => .inl known

variable [Text.Romanization]

/-- Declarations fail as the references of components and of parameters do, or for what does not
fit. -/
theorem DeclarationBuilder.declarations_failsAs {kind : Failure → Prop}
    (misfit : ∀ reason, kind (.misfit reason)) (builder : DeclarationBuilder)
    (ofComponent : ∀ schemas, Document.schemas builder.document = .ok schemas →
      ∀ schema ∈ schemas, (Reference.resolveNode builder.document schema.2).FailsAs kind)
    (ofParameter : ∀ operation parameter, Document.HasOperation builder.document operation →
      Document.IsParameter operation parameter →
      (Reference.resolveNode builder.document parameter).FailsAs kind) :
    builder.declarations.FailsAs kind := by
  have describing := Attempt.ofDescribing_failsAs misfit
  have components : builder.componentDeclarations.FailsAs kind := by
    refine .bind_of_outcome (.misfit misfit _) fun schemas listed => .mapM_of_mem ?_
    intro schema member
    rw [Attempt.outcome_misfit, Attempt.mapError_ok] at listed
    exact describing.ofComponent builder schema.1 (ofComponent schemas listed schema member)
  have parameters : builder.parameterDeclarations.FailsAs kind := by
    refine .bind_of_outcome (.misfit misfit _) fun operations given =>
      .bind (.mapM_of_mem fun operation member => ?_) fun _ => .pure _
    rw [Attempt.outcome_misfit, Attempt.mapError_ok] at given
    refine .bind_of_outcome (.misfit misfit _) fun own taken =>
      .bind_of_outcome (.misfit misfit _) fun shared taken' => ?_
    rw [Attempt.outcome_misfit, Attempt.mapError_ok] at taken taken'
    refine .bind (.mapM_of_mem fun parameter listed => ?_) fun properties =>
      describing.ofProperties builder operation _
    exact describing.parameterProperty? builder (ofParameter operation parameter
      ⟨operations, given, member⟩ (Document.isParameter_of_taken taken taken' listed))
  refine .bind components fun _ => .bind parameters fun _ => ?_
  exact .bind (.forM (fun _ => .noted _) _) fun _ => .pure _

namespace ServiceBuilder

variable (builder : ServiceBuilder)

/-- Filing asks for tags and nothing else. -/
theorem collect_failsAs {kind : Failure → Prop} (misfit : ∀ reason, kind (.misfit reason)) :
    builder.collect.FailsAs kind := by
  have filed (operation : Operation) : (builder.filings operation).FailsAs kind :=
    .bind (.misfit misfit _) fun _ => .bind (.noted _) fun _ => .pure _
  exact .bind (.misfit misfit _) fun _ => .bind (.mapM filed _) fun _ => .pure _

/-- What stops the entry of an operation: its parts cannot be read or not be put together. -/
def StopsEntry (tag : String) (operation : Operation) (failure : Failure) : Prop :=
  (builder.parts operation).outcome = .error failure ∨
    ∃ parts functionName, (builder.parts operation).outcome = .ok parts ∧
      (builder.finish tag operation parts functionName).outcome = .error failure

variable {builder}

theorem stopsEntry_of_entry {tag : String} {operation : Operation} {before after : Progress}
    {failure : Failure}
    (failed : (builder.entry tag operation before).value = (.error failure, after)) :
    builder.StopsEntry tag operation failure := by
  rw [entry_value] at failed
  split at failed
  · rename_i read
    obtain ⟨same, _⟩ := Prod.mk.inj failed
    exact .inl (read.trans (congrArg _ (Except.error.inj same)))
  · rename_i parts read
    exact .inr ⟨parts, _, read, (Prod.mk.inj failed).1⟩

theorem StopsEntry.failsAs {kind : Failure → Prop} {tag : String} {operation : Operation}
    {failure : Failure} (stops : builder.StopsEntry tag operation failure)
    (misfit : ∀ reason, kind (.misfit reason)) (parts : (builder.parts operation).FailsAs kind) :
    kind failure := by
  rcases stops with unread | ⟨_, _, _, unfinished⟩
  · exact parts failure unread
  · exact finish_failsAs misfit builder _ _ _ _ failure unfinished

/-- What stops an entry is wrong with the document. -/
theorem StopsEntry.ofDocument {tag : String} {operation : Operation} {failure : Failure}
    (stops : builder.StopsEntry tag operation failure) : failure.OfDocument :=
  stops.failsAs ofDocument_misfit
    (parts_failsAs ofDocument_misfit fun _ _ => ofReading_fails.reference _ _)

/-- Entries fail on one of their operations, and tell it. -/
theorem entriesOf_failed {tag : String} {operations : List Operation} {before after : Progress}
    {failure : Failure}
    (failed : (builder.entriesOf tag operations before).value = (.error failure, after)) :
    ∃ operation ∈ operations, ∃ earlier, builder.StopsEntry tag operation earlier ∧
      failure = wrap operation earlier := by
  induction operations generalizing before after with
  | nil => simp [entriesOf] at failed
  | cons operation rest ih =>
    simp only [entriesOf, Noted.value_bind] at failed
    split at failed
    · rename_i earlier between stuck
      obtain ⟨same, _⟩ := Prod.mk.inj failed
      exact ⟨operation, List.mem_cons_self, earlier, stopsEntry_of_entry stuck,
        (Except.error.inj same).symm⟩
    · simp only [Noted.value_bind] at failed
      split at failed
      · rename_i stuck
        obtain ⟨same, _⟩ := Prod.mk.inj failed
        obtain rfl := Except.error.inj same
        obtain ⟨other, member, told⟩ := ih stuck
        exact ⟨other, List.mem_cons_of_mem _ member, told⟩
      · simp at failed

theorem groupsOf_failed {filed : List (String × List Operation)}
    {before after : List GatewayMapping} {failure : Failure}
    (failed : (builder.groupsOf filed before).value = (.error failure, after)) :
    ∃ filing ∈ filed, ∃ operation ∈ supported filing.2, ∃ earlier,
      builder.StopsEntry filing.1 operation earlier ∧ failure = wrap operation earlier := by
  induction filed generalizing before after with
  | nil => simp [groupsOf] at failed
  | cons filing rest ih =>
    obtain ⟨tag, operations⟩ := filing
    simp only [groupsOf, Noted.value_bind] at failed
    split at failed
    · rename_i stuck
      obtain ⟨same, _⟩ := Prod.mk.inj failed
      obtain rfl := Except.error.inj same
      exact ⟨_, List.mem_cons_self, entriesOf_failed stuck⟩
    · simp only [Noted.value_bind] at failed
      split at failed
      · rename_i stuck
        obtain ⟨same, _⟩ := Prod.mk.inj failed
        obtain rfl := Except.error.inj same
        obtain ⟨other, member, told⟩ := ih stuck
        exact ⟨other, List.mem_cons_of_mem _ member, told⟩
      · simp at failed

/-- A run fails while operations are filed or on an operation that has functions. -/
theorem groups_failed {mappings : List GatewayMapping} {failure : Failure}
    (failed : builder.groups.value = (.error failure, mappings)) :
    builder.collect.outcome = .error failure ∨
      ∃ tag operation earlier, HasFunction builder.document operation ∧
        builder.StopsEntry tag operation earlier ∧ failure = wrap operation earlier := by
  simp only [groups, Noted.value_bind] at failed
  split at failed
  · rename_i stuck
    obtain ⟨same, _⟩ := Prod.mk.inj failed
    obtain rfl := Except.error.inj same
    exact .inl stuck
  · rename_i filed collected
    obtain ⟨⟨tag, operations⟩, member, operation, kept, earlier, told⟩ := groupsOf_failed failed
    exact .inr ⟨tag, operation, earlier, hasFunction_of_filed collected member kept, told⟩

end ServiceBuilder

/-- A document is resolved, or something is wrong with it. -/
theorem ServiceModel.ofDocument_fails (document : Node) (sharing : Sharing) (settings : Settings) :
    (ServiceModel.ofDocument document sharing settings).FailsOnDocument := by
  refine .bind (.misfit ofDocument_misfit _) fun declarations =>
    .bind (DeclarationBuilder.declarations_failsAs ofDocument_misfit _
      (fun _ _ _ _ => ofReading_fails.resolveNode _ _)
      fun _ _ _ _ => ofReading_fails.resolveNode _ _) fun _ =>
    .bind (.misfit ofDocument_misfit _) fun builder => ?_
  intro failure failed
  rw [Attempt.outcome_bind, Attempt.outcome_noted] at failed
  dsimp only [Except.bind] at failed
  split at failed
  · rename_i earlier mappings stuck
    obtain rfl := Except.error.inj failed
    rcases ServiceBuilder.groups_failed stuck with unfiled | ⟨_, operation, _, _, stops, rfl⟩
    · exact ServiceBuilder.collect_failsAs builder ofDocument_misfit _ unfiled
    · exact (Failure.isReported_wrap operation stops.ofDocument).1
  · simp at failed

end ApiBindings
