import ApiBindings.Proofs.Declaration.Run
import ApiBindings.Proofs.Emission.Untouched
import ApiBindings.Proofs.Generation
import ApiBindings.Proofs.Service.FunctionNames

/-!
# Runs that are given up for a reference

Everything is resolved before anything is written, and whatever is resolved has followed its
references to their ends. So a followed reference that leads nowhere leaves the output as it was,
and a run that ends for a reference has followed it. References that are only printed as type names
never stop a run, whether they lead somewhere or not.
-/
namespace ApiBindings

open Reference ServiceBuilder

open Document

namespace Followed

variable {document : Node}

theorem resolves_of_resolveNode {node reached : Node}
    (resolved : (resolveNode document node).outcome = .ok reached) :
    Resolves document (.outside node) := by
  obtain ⟨reached, resolved, _⟩ := (Attempt.outcome_bind_ok ..).mp resolved
  exact ⟨reached, resolved⟩

variable [Text.Romanization]

/-- Once all declarations are made, every component schema leads somewhere. -/
theorem resolves_component {builder : DeclarationBuilder} {declarations : List Declaration}
    (made : builder.declarations.outcome = .ok declarations) {schemas : Members}
    (listed : Document.schemas builder.document = .ok schemas) {key : Scalar} {schema : Node}
    (member : (key, schema) ∈ schemas) : Resolves builder.document (.outside schema) := by
  -- A component without a reference is its own target; one with a reference is resolved.
  obtain ⟨_, _, declared⟩ := DeclarationBuilder.exists_ofComponent made listed member
  obtain ⟨body, described, _⟩ := (Attempt.outcome_bind_ok ..).mp declared
  cases schema with
  | object members =>
    cases refers : (Members.field members "$ref").isPresent with
    | false => exact resolves_of_free (free_of_absent refers)
    | true =>
      have described : (builder.bodyOfMembers members).outcome = .ok body := described
      rw [DeclarationBuilder.bodyOfMembers, if_pos refers, Attempt.outcome_bind_ok] at described
      obtain ⟨_, resolved, _⟩ := described
      exact resolves_of_resolveNode resolved
  | _ => exact resolves_of_free (free_of_notObject rfl)

/-- Once all declarations are made, every parameter of an operation and of its path does. -/
theorem resolves_parameter {builder : DeclarationBuilder} {declarations : List Declaration}
    (made : builder.declarations.outcome = .ok declarations) {operation : Operation}
    {parameter : Node} (among : HasOperation builder.document operation)
    (declared : IsParameter operation parameter) :
    Resolves builder.document (.outside parameter) := by
  obtain ⟨_, described, _⟩ := DeclarationBuilder.exists_ofParameters? made among
  obtain ⟨own, shared, properties, taken, taken', each, _⟩ :=
    DeclarationBuilder.ofParameters?_ok.mp described
  have member : parameter ∈ own ++ shared := by
    obtain ⟨parameters, member, listed | listed⟩ := declared
    · obtain rfl := Except.ok.inj (listed.symm.trans taken)
      exact List.mem_append_left _ member
    · obtain rfl := Except.ok.inj (listed.symm.trans taken')
      exact List.mem_append_right _ member
  obtain ⟨_, _, read⟩ := exists_of_forall₂ each member
  obtain ⟨_, resolved, _⟩ := (Attempt.outcome_bind_ok ..).mp read
  exact resolves_of_resolveNode resolved

/-- Once all groups are made, the parts of every operation with functions are read. -/
theorem exists_parts {builder : ServiceBuilder} {groups : List TagGroup}
    {mappings : List GatewayMapping} (returned : builder.groups.value = (.ok groups, mappings))
    {operation : Operation} (among : HasFunction builder.document operation) :
    ∃ parts, (builder.parts operation).outcome = .ok parts := by
  obtain ⟨filed, built, collected, all, _⟩ := groups_ok returned
  obtain ⟨⟨tag, operations⟩, member, filedThere⟩ := exists_filed collected among.1
  obtain ⟨entries, _, builds⟩ := exists_of_forall₂ all member
  have kept : operation ∈ supported operations := by
    simp [supported, filedThere, among.2]
  obtain ⟨_, _, parts, read, _⟩ := exists_of_forall₂ (BuildsAll.forall₂ builds) kept
  exact ⟨parts, read⟩

/-- Once the parts of an operation are read, its body, its response and its form lead somewhere. -/
theorem resolves_of_parts {builder : ServiceBuilder} {operation : Operation} {parts : EntryParts}
    (read : (builder.parts operation).outcome = .ok parts) :
    Resolves builder.document (.outside (operation.field "requestBody")) ∧
      (∀ responses, operation.field "responses" = .object responses →
        Resolves builder.document (.outside (Response.chosen responses))) ∧
      ∀ start, IsForm builder.document operation start →
        ∃ uploads, (Upload.ofSchema builder.document builder.sharing start).outcome =
          .ok uploads := by
  simp only [ServiceBuilder.parts, Attempt.outcome_bind_ok] at read
  obtain ⟨_, _, _, _, _, body, _, form, _, response, _⟩ := read
  refine ⟨?_, fun responses given => ?_, ?_⟩
  · obtain ⟨_, resolved, _⟩ := (Attempt.outcome_bind_ok ..).mp body
    exact resolves_of_resolveNode resolved
  · rw [given] at response
    obtain ⟨_, resolved, _⟩ := (Attempt.outcome_bind_ok ..).mp response
    exact resolves_of_resolveNode resolved
  · rintro start ⟨body, resolved, present, rfl⟩
    obtain ⟨_, resolved', collected⟩ := (Attempt.outcome_bind_ok ..).mp form
    obtain rfl := Except.ok.inj (resolved.symm.trans resolved')
    obtain ⟨media, held⟩ := Option.isSome_iff_exists.mp present
    simp only [held] at collected
    obtain ⟨uploads, collected, _⟩ := (Attempt.outcome_bind_ok ..).mp collected
    exact ⟨uploads, collected⟩

/-- In a run that resolves its document, every reference that is followed leads somewhere. -/
theorem resolves {sharing : Sharing} {settings : Settings} {model : ServiceModel}
    (keys : document.KeysOnce) (sound : sharing.Sound document .null)
    (resolved : (ServiceModel.ofDocument document sharing settings).outcome = .ok model)
    {located : Located} (followed : Followed document located) : Resolves document located := by
  obtain ⟨declarer, created, declared⟩ := ServiceModel.declarations_of_ofDocument resolved
  obtain ⟨services, _, rfl⟩ := (DeclarationBuilder.create_ok sharing).mp created
  obtain ⟨builder, created', returned⟩ := ServiceModel.ofDocument_ok resolved
  obtain rfl := document_of_create created'
  obtain rfl := sharing_of_create created'
  cases followed with
  | component listed member => exact resolves_component declared listed member
  | parameter among isParameter => exact resolves_parameter declared among isParameter
  | function among followed =>
    obtain ⟨parts, read⟩ := exists_parts returned among
    obtain ⟨body, response, form⟩ := resolves_of_parts read
    cases followed with
    | parameter isParameter => exact resolves_parameter declared among.1 isParameter
    | requestBody => exact body
    | response given => exact response _ given
    | form isForm inside =>
      obtain ⟨uploads, collected⟩ := form _ isForm
      have placed := standsIn_of_hasOperation keys.pathItems among.1
      exact Upload.resolves_of_ofSchema (placed_of_isForm isForm placed) sound collected inside

end Followed

section

variable [Text.Romanization]

/-- All values of a document are of the kinds that they are asked for: what is declared and filed
can be read, and operations that have functions fail on their references only. -/
structure Document.Fits (settings : Settings) (document : LoadedDocument) : Prop where
  readable : Readable settings.enumStyle document.root
  functions : ∀ services,
    ServiceBuilder.create document.root document.sharing settings = .ok services →
    ∀ operation, HasFunction document.root operation →
      (services.parts operation).FailsOnReferences ∧
      ∀ tag parts functionName, (services.parts operation).outcome = .ok parts →
        (services.finish tag operation parts functionName).Succeeds

namespace ServiceModel

variable {settings : Settings} {document : LoadedDocument}

omit [Text.Romanization] in
theorem wrap_of_isResolution (operation : Operation) {failure : Failure}
    (known : failure.isResolution = true) : ServiceBuilder.wrap operation failure = failure := by
  cases failure <;> first | rfl | simp [Failure.isResolution] at known

/-- Where all values fit, only a reference can stop a run. -/
theorem fails_of_fits (fits : Fits settings document) :
    (ofDocument document.root document.sharing settings).FailsOnReferences := by
  refine failsAs_of_readable fits.readable (fun _ known => known) ?_
  intro services created tag operation failure among stops
  rw [document_of_create created] at among
  obtain ⟨onReferences, finished⟩ := fits.functions services created operation among
  have known : failure.isResolution = true := by
    rcases stops with unread | ⟨parts, functionName, read, unfinished⟩
    · exact onReferences failure unread
    · obtain ⟨entry, made⟩ := finished tag parts functionName read
      rw [made] at unfinished
      cases unfinished
  rw [wrap_of_isResolution operation known]
  exact known

/-- A run that is stopped by a reference has followed it. -/
theorem followed_of_isResolution {reason : Failure}
    (failed : (ofDocument document.root document.sharing settings).outcome = .error reason)
    (known : reason.isResolution = true) :
    ∃ located, Followed document.root located ∧
      (resolve document.root located).outcome = .error reason := by
  -- What is wrong with a value is no concern here: only references are looked for.
  let Told (failure : Failure) : Prop := failure.isResolution = true →
    ∃ located, Followed document.root located ∧
      (resolve document.root located).outcome = .error failure
  have misfit (reason : Misfit) : Told (.misfit reason) := fun resolution => by
    simp [Failure.isResolution] at resolution
  have follows {located : Located} (followed : Followed document.root located) :
      (resolve document.root located).FailsAs Told :=
    fun _ stuck _ => ⟨located, followed, stuck⟩
  suffices told : (ofDocument document.root document.sharing settings).FailsAs Told from
    told reason failed known
  refine .bind_of_outcome (.misfit misfit _) fun builder created => .bind ?_ fun _ =>
    .bind_of_outcome (.misfit misfit _) fun services created' => ?_
  · rw [Attempt.outcome_misfit, Attempt.mapError_ok] at created
    obtain ⟨_, _, rfl⟩ := (DeclarationBuilder.create_ok document.sharing).mp created
    exact DeclarationBuilder.declarations_failsAs misfit _
      (fun _ listed _ member => resolveNode_failsAs (follows (.component listed member)))
      fun _ _ among declared => resolveNode_failsAs (follows (.parameter among declared))
  · rw [Attempt.outcome_misfit, Attempt.mapError_ok] at created'
    have same := document_of_create created'
    intro failure failed
    rw [Attempt.outcome_bind, Attempt.outcome_noted] at failed
    dsimp only [Except.bind] at failed
    split at failed
    · rename_i earlier mappings stuck
      obtain rfl := Except.error.inj failed
      rcases groups_failed stuck with unfiled | ⟨tag, operation, failure, among, stops, rfl⟩
      · exact services.collect_failsAs misfit _ unfiled
      · rw [same] at among
        have told : Told failure := stops.failsAs misfit
          (parts_failsAs misfit fun located followed => by
            rw [same] at followed ⊢
            exact follows (.function among followed))
        intro resolution
        unfold wrap at resolution ⊢
        split
        · simp [Failure.isResolution] at resolution
        · exact told (by simpa using resolution)
    · simp at failed

end ServiceModel

namespace Generation

variable [TemplateEngine]

theorem write_of_failed {tree : FileTree} {settings : Settings} {document : LoadedDocument}
    {reason : Failure} (failed :
      (ServiceModel.ofDocument document.root document.sharing settings).outcome = .error reason) :
    write tree settings (.ok document) = (tree, .error reason) := by
  simp only [write, failed]

theorem preview_of_failed {tree : FileTree} {settings : Settings} {document : LoadedDocument}
    {reason : Failure} (failed :
      (ServiceModel.ofDocument document.root document.sharing settings).outcome = .error reason) :
    (preview tree settings document).outcome = .error reason := by
  rw [preview, Attempt.outcome_bind, failed]
  rfl

/-- Where a followed reference leads nowhere, nothing is generated: the run ends before anything is
written, for a reference or for a value of the wrong kind that was met first. A run that ends for a
reference has followed it and has written nothing. So where all values are of the right kinds, a
run ends for a reference exactly if one of those it follows leads nowhere. -/
theorem nothing_of_followed (document : LoadedDocument) (settings : Settings) (tree : FileTree)
    (keys : document.root.KeysOnce) (sound : document.sharing.Sound document.root .null) :
    (∀ located, Followed document.root located → ¬ Followed.Resolves document.root located →
      ∃ reason : Failure, (reason.isResolution ∨ reason.isMisfit) ∧
        write tree settings (.ok document) = (tree, .error reason) ∧
        (preview tree settings document).outcome = .error reason) ∧
    (∀ after reason, write tree settings (.ok document) = (after, .error reason) →
      reason.isResolution → after = tree ∧ ∃ located, Followed document.root located ∧
        (resolve document.root located).outcome = .error reason) ∧
    (Fits settings document →
      ((∃ located, Followed document.root located ∧ ¬ Followed.Resolves document.root located) ↔
        ∃ reason : Failure, reason.isResolution ∧
          write tree settings (.ok document) = (tree, .error reason))) := by
  have stops (located : Located) (followed : Followed document.root located)
      (broken : ¬ Followed.Resolves document.root located) : ∃ reason,
      (ServiceModel.ofDocument document.root document.sharing settings).outcome =
        .error reason := by
    cases outcome : (ServiceModel.ofDocument document.root document.sharing settings).outcome with
    | ok model => exact absurd (followed.resolves keys sound outcome) broken
    | error reason => exact ⟨reason, rfl⟩
  have follows (after : FileTree) (reason : Failure)
      (ended : write tree settings (.ok document) = (after, .error reason))
      (known : reason.isResolution) : after = tree ∧ ∃ located, Followed document.root located ∧
        (resolve document.root located).outcome = .error reason := by
    have written : reason.isOfWriting = false := Failure.isOfWriting_of_document (.inl known)
    obtain inWriting | ⟨failed, rfl⟩ := write_fails ended
    · rw [written] at inWriting
      cases inWriting
    · exact ⟨rfl, ServiceModel.followed_of_isResolution failed known⟩
  refine ⟨fun located followed broken => ?_, follows, fun fits => ⟨?_, ?_⟩⟩
  · obtain ⟨reason, failed⟩ := stops located followed broken
    exact ⟨reason, ServiceModel.ofDocument_fails _ _ _ reason failed, write_of_failed failed,
      preview_of_failed failed⟩
  · rintro ⟨located, followed, broken⟩
    obtain ⟨reason, failed⟩ := stops located followed broken
    exact ⟨reason, ServiceModel.fails_of_fits fits reason failed, write_of_failed failed⟩
  · rintro ⟨reason, known, ended⟩
    obtain ⟨_, located, followed, stuck⟩ := follows tree reason ended known
    refine ⟨located, followed, ?_⟩
    rintro ⟨reached, resolved⟩
    rw [stuck] at resolved
    cases resolved

end Generation

end

/-- A reference to a component that is missing. -/
def missingSchema : Node := .object [(.text "$ref", .text "#/components/schemas/Missing")]

/-- A component schema that is a reference to a missing one. -/
def brokenComponent : Node :=
  .object [(.text "components", .object [(.text "schemas", .object
    [(.text "Pet", missingSchema)])])]

theorem target_missingSchema : target brokenComponent (.outside missingSchema) =
    .error (.unresolved "#/components/schemas/Missing" (some "'Missing' not found")) := by
  have divided : Pointer.parts "#/components/schemas/Missing" =
      ["components".toList, "schemas".toList, "Missing".toList] := by decide +kernel
  have walked : Pointer.walk brokenComponent "#/components/schemas/Missing" =
      .error (.unresolved "#/components/schemas/Missing" (some "'Missing' not found")) := by
    rw [Pointer.walk, divided]
    rfl
  exact target_of_ends List.nodup_nil (.here _) (.broken rfl (by simp) walked)

theorem fits_brokenComponent :
    Document.Fits (Settings.ofSource "openapi.json") ⟨brokenComponent, []⟩ := by
  have none : Document.operations brokenComponent = .ok [] := rfl
  refine ⟨⟨⟨_, rfl, fun schema member => ?_⟩, ⟨[], none, by simp⟩⟩,
    fun _ _ operation among => ?_⟩
  · obtain rfl := List.mem_singleton.mp member
    refine ⟨rfl, ?_⟩
    have refers : (Members.field [(.text "$ref", .text "#/components/schemas/Missing")]
      "$ref").isPresent = true := rfl
    show DeclarationBuilder.BodyReadable _ _ _
    rw [DeclarationBuilder.BodyReadable, if_pos refers]
    intro reason failed
    cases target_missingSchema.symm.trans failed
  · obtain ⟨operations, listed, member⟩ := among.1
    rw [none] at listed
    obtain rfl := Except.ok.inj listed
    cases member

attribute [local instance] TemplateEngine.verbatim

theorem Generation.nothing_of_brokenComponent :
    ∃ (located : Located) (reason : Failure), brokenComponent.KeysOnce ∧
      Followed brokenComponent located ∧ ¬ Followed.Resolves brokenComponent located ∧
      reason.isResolution ∧
      Generation.write (.ofWorking []) (Settings.ofSource "openapi.json")
        (.ok ⟨brokenComponent, []⟩) = (.ofWorking [], .error reason) := by
  have listed : Document.schemas brokenComponent = .ok [(.text "Pet", missingSchema)] := rfl
  have followed : Followed brokenComponent (.outside missingSchema) :=
    .component listed (List.mem_singleton.mpr rfl)
  have broken : ¬ Followed.Resolves brokenComponent (.outside missingSchema) := by
    rintro ⟨reached, resolved⟩
    rw [outcome_resolve, target_missingSchema] at resolved
    cases resolved
  have single {key : Scalar} {value : Node} (inside : value.KeysOnce) :
      (Node.object [(key, value)]).KeysOnce := .object _ (by simp) (by simpa using inside)
  have keys : brokenComponent.KeysOnce := single (single (single (single (.scalar _))))
  obtain ⟨reason, known, written⟩ := ((Generation.nothing_of_followed ⟨brokenComponent, []⟩
    (Settings.ofSource "openapi.json") (.ofWorking []) keys Sharing.sound_nil).2.2
    fits_brokenComponent).mp ⟨_, followed, broken⟩
  exact ⟨_, reason, keys, followed, broken, known, written⟩

/-- References to a missing component at a property, at items, in a union, in a composition, at
media types, at a response that is not taken, and in an operation that has no function. -/
def printedOnly : Node :=
  let operation (operationId : String) (members : Members) : Node :=
    .object [(.text "post", .object ((.text "operationId", .text operationId) ::
      (.text "tags", .list [.text "default"]) :: members))]
  let json (schema : Node) : Node :=
    .object [(.text "content", .object [(.text "application/json",
      .object [(.text "schema", schema)])])]
  .object [
    (.text "components", .object [(.text "schemas", .object [(.text "Pet", .object [
      (.text "properties", .object [
        (.text "owner", missingSchema),
        (.text "friends", .object [(.text "type", .text "array"), (.text "items", missingSchema)]),
        (.text "food", .object [(.text "oneOf", .list [missingSchema])]),
        (.text "kind", .object [(.text "allOf", .list [missingSchema])])])])])]),
    (.text "paths", .object [
      (.text "/pets", operation "list" [(.text "requestBody", json missingSchema),
        (.text "responses", .object [(.text "200", json missingSchema),
          (.text "404", missingSchema)])]),
      (.text "/$\x7bversion\x7d/pets", operation "other" [
        (.text "requestBody", missingSchema),
        (.text "responses", .object [(.text "200", missingSchema)])])])]

/-- A broken component in a document whose paths are no object. -/
def misfitFirst : Node :=
  .object [(.text "paths", .int 5), (.text "components", .object [(.text "schemas", .object
    [(.text "Pet", missingSchema)])])]

theorem planned_printedOnly :
    (ServiceModel.ofDocument printedOnly [] (Settings.ofSource "openapi.json")).outcome.toOption.map
      (fun model => (model.plan (Settings.ofSource "openapi.json")).map PlannedFile.path) =
    some ["typings.d.ts", "_openAPI_default/list.ts", "_openAPI_default/index.ts", "index.ts"] := by
  decide +kernel

/-- References that are only printed may all lead nowhere, and a value of the wrong kind may be met
before the first broken reference. -/
theorem Generation.runs_with_missing :
    ((∀ pointer ∈ printedOnly.references, (Pointer.walk printedOnly pointer).toOption.isNone) ∧
      ∃ paths kept, (Generation.preview (.ofWorking []) (Settings.ofSource "openapi.json")
        ⟨printedOnly, []⟩).outcome = .ok (paths, kept) ∧ "_openAPI_default/list.ts" ∈ paths) ∧
    (misfitFirst.references = ["#/components/schemas/Missing"] ∧
      (Generation.preview (.ofWorking []) (Settings.ofSource "openapi.json")
        ⟨misfitFirst, []⟩).outcome = .error (.misfit (.noMember .int "keys"))) := by
  have unmade : DeclarationBuilder.create misfitFirst (Settings.ofSource "openapi.json") =
      .error (.noMember .int "keys") := rfl
  refine ⟨⟨by decide +kernel, ?_⟩, by decide +kernel, ?_⟩
  rotate_left
  -- The paths are read for the namer, before any component is.
  · rw [Generation.preview, Attempt.outcome_bind, ServiceModel.ofDocument, Attempt.outcome_bind,
      unmade]
    rfl
  have planned := planned_printedOnly
  cases resolved : (ServiceModel.ofDocument printedOnly []
      (Settings.ofSource "openapi.json")).outcome with
  | error failure => simp [resolved, Except.toOption] at planned
  | ok model =>
    have plain : (Settings.ofSource "openapi.json").templatesFolder = none := rfl
    obtain ⟨kept, written⟩ :=
      Generation.exists_preview (.ofWorking []) ⟨printedOnly, []⟩ plain resolved
    refine ⟨_, kept, written, ?_⟩
    rw [resolved] at planned
    simp [Option.some.inj planned]

end ApiBindings
