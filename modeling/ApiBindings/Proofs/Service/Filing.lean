import ApiBindings.Service.Group
import ApiBindings.Proofs.Document.Members
import Mathlib.Data.List.Induction
import Mathlib.Data.List.Nodup

/-!
# Filing operations under tags

Filing keeps the order of the document twice: tags stand where they are first seen, and the
operations of one tag stand as they were filed. An operation is filed once for each of its raw
tags, whatever the sanitized tags they lead to.
-/
namespace ApiBindings.ServiceBuilder

/-- The operations that are filed under a tag. -/
def filedUnder (tag : String) (filings : List (String × Operation)) : List Operation :=
  (filings.filter fun filing => filing.1 = tag).map (·.2)

/-- The tags of filings in the order in which they are first seen. -/
def seenTags (filings : List (String × Operation)) : List String :=
  (filings.map (·.1)).eraseDups

theorem mem_seenTags (tag : String) (filings : List (String × Operation)) :
    tag ∈ seenTags filings ↔ ∃ filing ∈ filings, filing.1 = tag := by
  simp [seenTags, List.mem_eraseDups]

theorem seenTags_concat (filings : List (String × Operation)) (tag : String)
    (operation : Operation) :
    seenTags (filings ++ [(tag, operation)]) =
      if tag ∈ seenTags filings then seenTags filings else seenTags filings ++ [tag] := by
  rw [seenTags, List.map_append, List.eraseDups_append]
  by_cases known : tag ∈ filings.map (·.1)
  · simp [List.removeAll, known, seenTags, List.mem_eraseDups]
  · simp [List.removeAll, known, seenTags, List.mem_eraseDups, List.eraseDups_cons]

theorem nodup_seenTags (filings : List (String × Operation)) : (seenTags filings).Nodup := by
  -- Filing works from the left, so the induction adds the last filing, here and below.
  induction filings using List.reverseRecOn with
  | nil => exact List.nodup_nil
  | append_singleton filings filing ih =>
    rw [seenTags_concat]
    split
    · exact ih
    · rename_i new
      exact List.Nodup.append ih (List.nodup_singleton _) (by simpa using new)

theorem filedUnder_concat (filings : List (String × Operation)) (tag other : String)
    (operation : Operation) :
    filedUnder other (filings ++ [(tag, operation)]) =
      filedUnder other filings ++ if tag = other then [operation] else [] := by
  by_cases same : tag = other <;> simp [filedUnder, same]

theorem filedUnder_append (tag : String) (filings others : List (String × Operation)) :
    filedUnder tag (filings ++ others) = filedUnder tag filings ++ filedUnder tag others := by
  simp [filedUnder]

/-- Tags that are seen first keep their places. -/
theorem seenTags_append (filings others : List (String × Operation)) :
    seenTags filings <+: seenTags (filings ++ others) := by
  rw [seenTags, seenTags, List.map_append, List.eraseDups_append]
  exact List.prefix_append ..

theorem filedUnder_of_unseen {tag : String} {filings : List (String × Operation)}
    (unseen : tag ∉ seenTags filings) : filedUnder tag filings = [] := by
  rw [filedUnder, List.map_eq_nil_iff, List.filter_eq_nil_iff]
  intro filing member same
  exact unseen ((mem_seenTags tag filings).mpr ⟨filing, member, by simpa using same⟩)

/-- A known tag keeps its place when one more operation is filed; a new one goes to the end. -/
theorem file_map (tag : String) (operation : Operation) (tags : List String)
    (filed : String → List Operation) (distinct : tags.Nodup) :
    file tag operation (tags.map fun other => (other, filed other)) =
      if tag ∈ tags then
        tags.map fun other => (other, filed other ++ if tag = other then [operation] else [])
      else (tags.map fun other => (other, filed other)) ++ [(tag, [operation])] := by
  induction tags with
  | nil => simp [file]
  | cons first rest ih =>
    obtain ⟨fresh, distinct⟩ := List.nodup_cons.mp distinct
    simp only [List.map_cons, file]
    by_cases same : first = tag
    · subst first
      have elsewhere : rest.map (fun other => (other, filed other)) = rest.map fun other =>
          (other, filed other ++ if tag = other then [operation] else []) := by
        apply List.map_congr_left
        intro other member
        simp [(ne_of_mem_of_not_mem member fresh).symm]
      simp [elsewhere]
    · rw [if_neg same, ih distinct]
      by_cases member : tag ∈ rest <;> simp [member, Ne.symm same]

/-- Filing gives one group for every tag that is seen, with all that is filed under it. -/
theorem fileAll_eq (filings : List (String × Operation)) :
    fileAll filings = (seenTags filings).map fun tag => (tag, filedUnder tag filings) := by
  induction filings using List.reverseRecOn with
  | nil => rfl
  | append_singleton filings filing ih =>
    obtain ⟨tag, operation⟩ := filing
    have step : fileAll (filings ++ [(tag, operation)]) = file tag operation (fileAll filings) := by
      simp [fileAll, List.foldl_append]
    rw [step, ih, file_map tag operation _ _ (nodup_seenTags filings), seenTags_concat]
    simp only [filedUnder_concat]
    split
    · rfl
    · -- A new tag stands at the end with this operation alone, and all others stay as they are.
      rename_i new
      have nothing := filedUnder_of_unseen new
      have elsewhere : (seenTags filings).map (fun other => (other, filedUnder other filings)) =
          (seenTags filings).map fun other =>
            (other, filedUnder other filings ++ if tag = other then [operation] else []) := by
        apply List.map_congr_left
        intro other member
        simp [(ne_of_mem_of_not_mem member new).symm]
      simp [elsewhere, nothing]

section

variable [Text.Romanization]

/-- The filings of an operation with these raw tags. -/
def filingsUnder (namespaceName : String) (operation : Operation) (raw : List String) :
    List (String × Operation) :=
  raw.map fun tag => ((TypeName.sanitize namespaceName tag).value, operation)

omit [Text.Romanization] in
private theorem forall₂_exists {α β γ : Type} (related : α → β → Prop) (make : α → β → γ)
    (items : List α) (results : List γ) :
    List.Forall₂ (fun item result => ∃ choice, related item choice ∧ result = make item choice)
      items results ↔
    ∃ choices, List.Forall₂ related items choices ∧ results = List.zipWith make items choices := by
  constructor
  · intro chosen
    induction chosen with
    | nil => exact ⟨[], .nil, rfl⟩
    | cons first _ ih =>
      obtain ⟨choice, fits, rfl⟩ := first
      obtain ⟨choices, all, rfl⟩ := ih
      exact ⟨choice :: choices, .cons fits all, rfl⟩
  · rintro ⟨choices, all, rfl⟩
    induction all with
    | nil => exact .nil
    | cons fits _ ih => exact .cons ⟨_, fits, rfl⟩ ih

theorem filings_ok (builder : ServiceBuilder) (operation : Operation)
    (filings : List (String × Operation)) :
    (builder.filings operation).outcome = .ok filings ↔ ∃ raw, rawTags operation = .ok raw ∧
      filings = filingsUnder builder.settings.namespaceName operation raw := by
  simp only [ServiceBuilder.filings, Attempt.outcome_bind_ok, Attempt.outcome_misfit,
    Attempt.mapError_ok, Attempt.outcome_noted, Attempt.outcome_pure, Noted.value_mapM,
    Except.ok.injEq, filingsUnder]
  constructor
  · rintro ⟨raw, tagged, names, rfl, rfl⟩
    exact ⟨raw, tagged, by simp [Function.comp_def]⟩
  · rintro ⟨raw, tagged, rfl⟩
    exact ⟨raw, tagged, _, rfl, by simp [Function.comp_def]⟩

/-- All filings of operations with their raw tags, in order. -/
def allFilings (namespaceName : String) (operations : List Operation) (raw : List (List String)) :
    List (String × Operation) :=
  (List.zipWith (filingsUnder namespaceName) operations raw).flatten

theorem mem_of_filedUnder {namespaceName tag : String} {operations : List Operation}
    {raw : List (List String)} {operation : Operation}
    (member : operation ∈ filedUnder tag (allFilings namespaceName operations raw)) :
    operation ∈ operations := by
  obtain ⟨⟨_, _⟩, held, rfl⟩ := List.mem_map.mp member
  have filed := (List.mem_filter.mp held).1
  clear held member
  induction operations generalizing raw with
  | nil => simp [allFilings] at filed
  | cons first rest ih =>
    cases raw with
    | nil => simp [allFilings] at filed
    | cons tags raw =>
      rw [allFilings, List.zipWith_cons_cons, List.flatten_cons, List.mem_append] at filed
      rcases filed with filed | filed
      · obtain ⟨_, _, same⟩ := List.mem_map.mp filed
        obtain ⟨_, rfl⟩ := Prod.mk.inj same
        exact List.mem_cons_self
      · exact List.mem_cons_of_mem _ (ih filed)

/-- Raw tags are read off each operation alone, so the filings of known operations come first. -/
theorem allFilings_append {operations others : List Operation} {raw raw' : List (List String)}
    (namespaceName : String)
    (tagged : List.Forall₂ (fun operation tags => rawTags operation = .ok tags) operations raw)
    (tagged' : List.Forall₂ (fun operation tags => rawTags operation = .ok tags)
      (operations ++ others) raw') :
    allFilings namespaceName operations raw <+:
      allFilings namespaceName (operations ++ others) raw' := by
  induction tagged generalizing raw' with
  | nil => exact List.nil_prefix
  | cons first _ ih =>
    cases tagged' with
    | cons first' rest' =>
      obtain rfl := Except.ok.inj (first.symm.trans first')
      exact List.prefix_append_right_inj _ |>.mpr (ih rest')

theorem collect_ok (builder : ServiceBuilder) (filed : List (String × List Operation)) :
    builder.collect.outcome = .ok filed ↔ ∃ operations raw,
      Document.operations builder.document = .ok operations ∧
      List.Forall₂ (fun operation tags => rawTags operation = .ok tags) operations raw ∧
      filed = fileAll (allFilings builder.settings.namespaceName operations raw) := by
  simp only [collect, Attempt.outcome_bind_ok, Attempt.outcome_misfit, Attempt.mapError_ok,
    Attempt.outcome_pure, Attempt.outcome_mapM_ok, filings_ok, forall₂_exists, Except.ok.injEq,
    allFilings]
  constructor
  · rintro ⟨operations, listed, _, ⟨raw, tagged, rfl⟩, rfl⟩
    exact ⟨operations, raw, listed, tagged, rfl⟩
  · rintro ⟨operations, raw, listed, tagged, rfl⟩
    exact ⟨operations, listed, _, ⟨raw, tagged, rfl⟩, rfl⟩

omit [Text.Romanization] in
/-- An operation is filed under one tag at least. -/
theorem rawTags_ne_nil {operation : Operation} {tags : List String}
    (tagged : rawTags operation = .ok tags) : tags ≠ [] := by
  unfold rawTags at tagged
  dsimp only at tagged
  split at tagged
  · obtain rfl := Except.ok.inj tagged
    simp
  cases own : operation.tags with
  | error reason => simp [own, bind, Except.bind] at tagged
  | ok others =>
    simp only [own, bind, Except.bind] at tagged
    split at tagged
    · rename_i present
      obtain rfl := Except.ok.inj tagged
      exact present
    · split at tagged <;> (obtain rfl := Except.ok.inj tagged; simp)

/-- Every operation of a document is filed. -/
theorem exists_filed {builder : ServiceBuilder} {filed : List (String × List Operation)}
    (collected : builder.collect.outcome = .ok filed) {operation : Operation}
    (among : Document.HasOperation builder.document operation) :
    ∃ filing ∈ filed, operation ∈ filing.2 := by
  obtain ⟨operations, raw, listed, tagged, rfl⟩ := (collect_ok ..).mp collected
  obtain ⟨operations', listed', among⟩ := among
  obtain rfl := Except.ok.inj (listed.symm.trans listed')
  clear listed listed' collected
  have one : ∃ tag, (tag, operation) ∈
      allFilings builder.settings.namespaceName operations raw := by
    induction tagged with
    | nil => simp at among
    | @cons first tags operations raw read _ ih =>
      rw [allFilings, List.zipWith_cons_cons, List.flatten_cons]
      rcases List.mem_cons.mp among with rfl | later
      · -- An operation without tags is filed under the default one.
        obtain ⟨tag, rest, rfl⟩ := List.exists_cons_of_ne_nil (rawTags_ne_nil read)
        exact ⟨_, List.mem_append_left _ (List.mem_cons_self ..)⟩
      · obtain ⟨tag, member⟩ := ih later
        exact ⟨tag, List.mem_append_right _ member⟩
  obtain ⟨tag, member⟩ := one
  refine ⟨(tag, filedUnder tag _), ?_, List.mem_map.mpr ⟨_, List.mem_filter.mpr ⟨member, ?_⟩, rfl⟩⟩
  · rw [fileAll_eq]
    exact List.mem_map_of_mem ((mem_seenTags ..).mpr ⟨_, member, rfl⟩)
  · simp

/-- An operation of a document whose path holds no expression, and which has functions. -/
def HasFunction (document : Node) (operation : Operation) : Prop :=
  Document.HasOperation document operation ∧ ServicePath.hasExpression operation.path = false

/-- What is filed and has functions comes from the document. -/
theorem hasFunction_of_filed {builder : ServiceBuilder} {filed : List (String × List Operation)}
    (collected : builder.collect.outcome = .ok filed) {tag : String} {operations : List Operation}
    (member : (tag, operations) ∈ filed) {operation : Operation}
    (kept : operation ∈ supported operations) : HasFunction builder.document operation := by
  obtain ⟨all, raw, listed, _, rfl⟩ := (collect_ok ..).mp collected
  rw [fileAll_eq] at member
  obtain ⟨_, _, same⟩ := List.mem_map.mp member
  obtain ⟨rfl, rfl⟩ := Prod.mk.inj same
  obtain ⟨filedThere, free⟩ := List.mem_filter.mp kept
  exact ⟨⟨all, listed, mem_of_filedUnder filedThere⟩, by simpa using free⟩

end

theorem supported_append (operations others : List Operation) :
    supported (operations ++ others) = supported operations ++ supported others :=
  List.filter_append ..

end ApiBindings.ServiceBuilder
