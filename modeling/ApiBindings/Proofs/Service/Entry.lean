import ApiBindings.Service.Entry
import ApiBindings.Proofs.Outcome

/-!
# What an entry takes over

Once the parts of an operation are read, its entry is fixed by them, the claimed name and the
tag; only the mark of its data is added at the end. The texts by which an operation is
recognized stand in the entry as they stand in the document.
-/
namespace ApiBindings

namespace ServiceBuilder

variable {builder : ServiceBuilder}

variable [Text.Romanization]

/-- The entry of an operation before its data is marked. -/
def unmarked (builder : ServiceBuilder) (tag : String) (operation : Operation) (parts : EntryParts)
    (functionName formatted : String) (tags : List String) : Entry :=
  let path := ServicePath.renameAll formatted 0 (parts.parameters.group .path)
  { functionName := functionName
    typeName := (builder.namer.typeName operation).value
    method := operation.method
    path := ServicePath.prefixed builder.settings.apiPrefix
      ⟨path, operation.method, tag, functionName⟩
    pathInComment := ServicePath.inComment path
    hasPathVariables := path.toList.contains '\x7b'
    hasApiPrefix := ServicePath.hasPrefix builder.settings.apiPrefix
    comment := comment operation functionName
    hasHeader := parts.body.any fun body => body.mediaType != ""
    parameters := finishParameters parts.parameters
    body := parts.body
    uploads := parts.uploads
    hasFormData := parts.hasFormData
    response := parts.response
    operationId := operation.operationId?
    summary := operation.summary
    description := operation.description
    tags := tags
    deprecated := operation.field "deprecated" == .bool true
    gatewayVersion := ((gateway? operation).map fun gateway =>
      gateway.field "antTechVersion").getD .null
    traceId := none }

/-- An entry is put together exactly when its path and tags are texts and its mark, if one is
wanted, can be taken. -/
theorem finish_ok {tag functionName : String} {operation : Operation} {parts : EntryParts}
    {entry : Entry} :
    (builder.finish tag operation parts functionName).outcome = .ok entry ↔
      ∃ formatted tags, formattedPath operation = .ok formatted ∧ operation.tags = .ok tags ∧
        (if builder.settings.generateTraceId then
            (builder.unmarked tag operation parts functionName formatted tags).traced
          else .ok (builder.unmarked tag operation parts functionName formatted tags)) =
          .ok entry := by
  simp only [finish, Attempt.outcome_bind_ok, Attempt.outcome_misfit, Attempt.mapError_ok,
    Attempt.outcome_noted, Except.ok.injEq, exists_eq_left', unmarked]
  split <;> simp [Attempt.mapError_ok]

omit [Text.Romanization] in
theorem traced_ok {entry marked : Entry} (traced : entry.traced = .ok marked) :
    ∃ mark, entry.traceIdOf = .ok mark ∧ marked = { entry with traceId := some mark } := by
  unfold Entry.traced at traced
  cases taken : entry.traceIdOf with
  | error reason => simp [taken, bind, Except.bind] at traced
  | ok mark =>
    refine ⟨mark, rfl, ?_⟩
    simpa [taken, bind, Except.bind, pure, Except.pure, eq_comm] using traced

/-- The mark aside, a finished entry is the unmarked one. -/
theorem finish_unmarked {tag functionName : String} {operation : Operation} {parts : EntryParts}
    {entry : Entry}
    (finished : (builder.finish tag operation parts functionName).outcome = .ok entry) :
    ∃ formatted tags, formattedPath operation = .ok formatted ∧ operation.tags = .ok tags ∧
      entry = { builder.unmarked tag operation parts functionName formatted tags with
        traceId := entry.traceId } := by
  obtain ⟨formatted, tags, path, listed, made⟩ := finish_ok.mp finished
  refine ⟨formatted, tags, path, listed, ?_⟩
  -- With a mark, the entry is the unmarked one with it; without one, it is the unmarked one.
  split at made
  · obtain ⟨mark, _, rfl⟩ := traced_ok made
    rfl
  · obtain rfl := Except.ok.inj made
    rfl

end ServiceBuilder

/-- What a reader needs to find the operation of an entry. -/
structure Entry.Carries (entry : Entry) (operation : Operation) : Prop where
  method : entry.method = operation.method
  operationId : entry.operationId = operation.operationId?
  summary : entry.summary = operation.summary
  description : entry.description = operation.description
  tags : operation.tags = .ok entry.tags

namespace ServiceBuilder

variable {builder : ServiceBuilder}

variable [Text.Romanization]

theorem carries_of_finish {tag functionName : String} {operation : Operation} {parts : EntryParts}
    {entry : Entry}
    (finished : (builder.finish tag operation parts functionName).outcome = .ok entry) :
    entry.Carries operation := by
  obtain ⟨formatted, tags, _, listed, same⟩ := finish_unmarked finished
  rw [same]
  exact ⟨rfl, rfl, rfl, rfl, listed⟩

theorem functionName_of_finish {tag functionName : String} {operation : Operation}
    {parts : EntryParts} {entry : Entry}
    (finished : (builder.finish tag operation parts functionName).outcome = .ok entry) :
    entry.functionName = functionName := by
  obtain ⟨formatted, tags, _, _, same⟩ := finish_unmarked finished
  rw [same]
  rfl

end ServiceBuilder

end ApiBindings
