import ApiBindings.Proofs.Service.Arguments
import ApiBindings.Proofs.Service.Grouping
import ApiBindings.Proofs.Text.Romanization

/-!
# Operations filed once

An operation is filed under a tag as often as its raw tags lead there. A raw tag that stands twice
or two raw tags of one sanitized form file it twice, and its group then has a function and the same
function with a number. This is the only way to a second filing: the operations of a document are
told apart by path and method.
-/
namespace ApiBindings

/-- What tells the operations of a document apart. -/
def Operation.endpoint (operation : Operation) : String × String :=
  (operation.path, operation.method)

namespace ServiceBuilder

theorem nodup_endpoints {document : Node} {operations : List Operation} (keys : document.KeysOnce)
    (listed : Document.operations document = .ok operations) :
    (operations.map Operation.endpoint).Nodup := by
  obtain ⟨paths, given, ordered⟩ := Document.operations_sublist listed
  have distinct := keys.pathItems
  rw [Document.pathItems_eq given, List.map_map] at distinct
  have apart : (paths.map (·.1)).Nodup :=
    .of_map Scalar.text (by simpa [Function.comp_def] using distinct)
  exact ordered.nodup (apart.product (by decide))

section

variable [Text.Romanization]

/-- The sanitized forms of raw tags. -/
def tagNames (namespaceName : String) (raw : List String) : List String :=
  raw.map fun tag => (TypeName.sanitize namespaceName tag).value

theorem filedUnder_filingsUnder (namespaceName tag : String) (operation : Operation)
    (raw : List String) :
    filedUnder tag (filingsUnder namespaceName operation raw) =
      List.replicate ((tagNames namespaceName raw).count tag) operation := by
  induction raw with
  | nil => rfl
  | cons first rest ih =>
    simp only [filedUnder, filingsUnder, tagNames, List.map_cons, List.filter_cons,
      List.count_cons] at ih ⊢
    by_cases same : (TypeName.sanitize namespaceName first).value = tag
    · simp [same, ih, List.replicate_succ]
    · simp [same, ih]

/-- Where operations are apart, those under a tag are apart if none comes there more than once. -/
theorem nodup_filedUnder_iff {namespaceName tag : String} {operations : List Operation}
    {raw : List (List String)} (lengths : operations.length = raw.length)
    (apart : (operations.map Operation.endpoint).Nodup) :
    ((filedUnder tag (allFilings namespaceName operations raw)).map Operation.endpoint).Nodup ↔
      ∀ tags ∈ raw, (tagNames namespaceName tags).count tag ≤ 1 := by
  induction operations generalizing raw with
  | nil =>
    obtain rfl := List.length_eq_zero_iff.mp lengths.symm
    simp [allFilings, filedUnder]
  | cons operation operations ih =>
    obtain ⟨tags, raw, rfl⟩ := List.exists_cons_of_length_eq_add_one lengths.symm
    obtain ⟨new, apart⟩ := List.nodup_cons.mp apart
    -- The filings of the first operation are copies of it, and no later one is a copy.
    have disjoint : (List.replicate ((tagNames namespaceName tags).count tag)
        operation.endpoint).Disjoint ((filedUnder tag
          (allFilings namespaceName operations raw)).map Operation.endpoint) := by
      intro endpoint here later
      obtain ⟨_, rfl⟩ := List.mem_replicate.mp here
      obtain ⟨other, filed, same⟩ := List.mem_map.mp later
      exact new (same ▸ List.mem_map_of_mem (mem_of_filedUnder filed))
    have split : allFilings namespaceName (operation :: operations) (tags :: raw) =
      filingsUnder namespaceName operation tags ++ allFilings namespaceName operations raw := rfl
    rw [split, filedUnder_append, filedUnder_filingsUnder, List.map_append, List.map_replicate,
      List.nodup_append', List.nodup_replicate, ih (Nat.succ.inj lengths) apart,
      List.forall_mem_cons]
    simp only [disjoint, and_true]

/-- No operation is filed twice under one tag. -/
def FiledOnce (filed : List (String × List Operation)) : Prop :=
  ∀ filing ∈ filed, (filing.2.map Operation.endpoint).Nodup

omit [Text.Romanization] in
theorem filedOnce_fileAll (filings : List (String × Operation)) :
    FiledOnce (fileAll filings) ↔
      ∀ tag, ((filedUnder tag filings).map Operation.endpoint).Nodup := by
  rw [fileAll_eq]
  constructor
  · intro once tag
    by_cases seen : tag ∈ seenTags filings
    · exact once _ (List.mem_map_of_mem seen)
    · simp [filedUnder_of_unseen seen]
  · intro each filing member
    obtain ⟨tag, _, rfl⟩ := List.mem_map.mp member
    exact each tag

/-- The functions of a group are built for operations that are all different. -/
def ServesOnce (builder : ServiceBuilder) (group : TagGroup) : Prop :=
  ∃ tag operations entries, (operations.map Operation.endpoint).Nodup ∧
    List.Forall₂ (fun operation entry => HasFunction builder.document operation ∧
      builder.Builds tag operation entry.functionName entry) operations entries ∧
    group.entries.Perm entries

omit [Text.Romanization] in
theorem exists_sublist_of_forall₂ {α β : Type} {related : α → β → Prop} {items : List α}
    {results kept : List β} (all : List.Forall₂ related items results)
    (among : kept.Sublist results) :
    ∃ chosen, chosen.Sublist items ∧ List.Forall₂ related chosen kept := by
  induction among generalizing items with
  | slnil => exact ⟨[], List.nil_sublist _, .nil⟩
  | cons result _ ih =>
    cases all with
    | cons _ all =>
      obtain ⟨chosen, inside, fit⟩ := ih all
      exact ⟨chosen, inside.cons _, fit⟩
  | cons_cons result _ ih =>
    cases all with
    | cons first all =>
      obtain ⟨chosen, inside, fit⟩ := ih all
      exact ⟨_ :: chosen, inside.cons_cons _, .cons first fit⟩

variable {builder : ServiceBuilder}

/-- A group keeps some of the functions of the operations under its tag. -/
theorem FiledOnce.servesOnce {filed : List (String × List Operation)} {groups : List TagGroup}
    {mappings : List GatewayMapping} (once : FiledOnce filed)
    (collected : builder.collect.outcome = .ok filed)
    (returned : builder.groups.value = (.ok groups, mappings)) {group : TagGroup}
    (among : group ∈ groups) : builder.ServesOnce group := by
  obtain ⟨filed', built, collected', all, rfl, _⟩ := groups_ok returned
  obtain rfl := Except.ok.inj (collected.symm.trans collected')
  obtain ⟨⟨⟨tag, operations⟩, entries⟩, paired, made⟩ := List.mem_filterMap.mp among
  have member := (List.of_mem_zip paired).1
  have builds := (List.forall₂_zip all paired).forall₂
  -- The group has the wanted entries in another order, so they are those of some operations.
  obtain ⟨kept, inside, fit⟩ := exists_sublist_of_forall₂ builds List.filter_sublist
  refine ⟨tag, kept, _, ?_, ?_, (group?_some made).1 ▸ sortByPath_perm _⟩
  · exact ((inside.trans List.filter_sublist).map _).nodup (once _ member)
  · refine List.forall₂_iff_zip.mpr ⟨fit.length_eq, fun {operation entry} pair => ?_⟩
    have supplied := inside.subset (List.of_mem_zip pair).1
    exact ⟨hasFunction_of_filed collected member supplied, List.forall₂_zip fit pair⟩

/-- Each operation is filed at most once under each tag exactly if no operation has two raw tags of
one sanitized form. Then no group has two functions for one operation. -/
theorem filedOnce_iff {document : Node} {sharing : Sharing} {settings : Settings}
    {filed : List (String × List Operation)} (keys : document.KeysOnce)
    (created : create document sharing settings = .ok builder)
    (collected : builder.collect.outcome = .ok filed) :
    (FiledOnce filed ↔ ∀ operation raw, Document.HasOperation document operation →
        rawTags operation = .ok raw → (tagNames settings.namespaceName raw).Nodup) ∧
      (FiledOnce filed → ∀ groups mappings, builder.groups.value = (.ok groups, mappings) →
        ∀ group ∈ groups, builder.ServesOnce group) := by
  refine ⟨?_, fun once groups mappings returned group among =>
    once.servesOnce collected returned among⟩
  obtain rfl := document_of_create created
  obtain rfl := settings_of_create created
  obtain ⟨operations, raw, listed, tagged, rfl⟩ := (collect_ok builder filed).mp collected
  -- Endpoints are apart since keys are, so only a tag that an operation has twice files it twice.
  rw [filedOnce_fileAll]
  simp only [nodup_filedUnder_iff tagged.length_eq (nodup_endpoints keys listed)]
  constructor
  · rintro once operation tags ⟨operations', listed', among⟩ read
    obtain rfl := Except.ok.inj (listed.symm.trans listed')
    obtain ⟨tags', member, read'⟩ := exists_of_forall₂ tagged among
    obtain rfl := Except.ok.inj (read.symm.trans read')
    exact List.nodup_iff_count_le_one.mpr fun tag => once tag tags member
  · intro distinct tag tags member
    obtain ⟨operation, among, read⟩ := exists_of_forall₂ tagged.flip member
    exact List.nodup_iff_count_le_one.mp (distinct operation tags ⟨_, listed, among⟩ read) tag

end

variable {builder : ServiceBuilder}

/-- A document with one operation under the tags. -/
def underTags (tags : List String) : Node :=
  .object [(.text "paths", .object [(.text "/ping", .object [(.text "get", .object
    [(.text "operationId", .text "ping"), (.text "tags", .list (tags.map .text))])])])]

/-- Its operation. -/
def taggedOperation (tags : List String) : Operation :=
  let fields : Members := [(.text "operationId", .text "ping"),
    (.text "tags", .list (tags.map .text))]
  ⟨"/ping", "get", fields, [(.text "get", .object fields)]⟩

/-- The builder for it. -/
def forTags (tags : List String) : ServiceBuilder :=
  ⟨underTags tags, [], Settings.ofSource "openapi.json", Namer.create "API" ["/ping"] .none 20⟩

theorem keysOnce_underTags (tags : List String) : (underTags tags).KeysOnce := by
  have single {key : Scalar} {value : Node} (inside : value.KeysOnce) :
      (Node.object [(key, value)]).KeysOnce := .object _ (by simp) (by simpa using inside)
  have fields : (Node.object [(.text "operationId", .text "ping"),
      (.text "tags", .list (tags.map .text))]).KeysOnce := by
    refine .object _ (by simp) ?_
    simp [Node.keysOnce_list, Node.KeysOnce.scalar]
  exact single (single (single fields))

/-- Two tags with forms of their own. -/
theorem filedOnce_of_two :
    ∃ filed groups mappings,
      (underTags ["default", "class"]).KeysOnce ∧
      create (underTags ["default", "class"]) [] (Settings.ofSource "openapi.json") =
        .ok (forTags ["default", "class"]) ∧
      (forTags ["default", "class"]).collect.outcome = .ok filed ∧ FiledOnce filed ∧
      (forTags ["default", "class"]).groups.value = (.ok groups, mappings) ∧ groups ≠ [] ∧
      ∀ group ∈ groups, (forTags ["default", "class"]).ServesOnce group := by
  let builder := forTags ["default", "class"]
  have keys : builder.document.KeysOnce := keysOnce_underTags ["default", "class"]
  obtain ⟨groups, mappings, returned, present⟩ := exists_groups builder (by decide +kernel)
  obtain ⟨filed, _, collected, _⟩ := groups_ok returned
  have created : create (underTags ["default", "class"]) [] (Settings.ofSource "openapi.json") =
    .ok builder := rfl
  obtain ⟨apart, served⟩ := filedOnce_iff keys created collected
  have once : FiledOnce filed := by
    refine apart.mpr fun operation raw among read => ?_
    have only : Document.operations (underTags ["default", "class"]) =
      .ok [taggedOperation ["default", "class"]] := rfl
    obtain rfl := among.eq_only only
    obtain rfl : raw = ["default", "class"] := (Except.ok.inj read).symm
    decide +kernel
  exact ⟨filed, groups, mappings, keys, created, collected, once, returned, present,
    served once groups mappings returned⟩

/-- A tag that stands twice gives two functions for one operation. -/
theorem filedTwice_of_repeated :
    ∃ filed groups mappings,
      create (underTags ["default", "default"]) [] (Settings.ofSource "openapi.json") =
        .ok (forTags ["default", "default"]) ∧
      (forTags ["default", "default"]).collect.outcome = .ok filed ∧ ¬ FiledOnce filed ∧
      (forTags ["default", "default"]).groups.value = (.ok groups, mappings) ∧
      ∃ group ∈ groups, (group.entries.map Entry.functionName).Perm ["ping", "ping_2"] := by
  let builder := forTags ["default", "default"]
  let only := taggedOperation ["default", "default"]
  have collected : builder.collect.outcome = .ok [("__openAPI__default", [only, only])] := rfl
  obtain ⟨groups, mappings, returned, _⟩ := exists_groups builder (by decide +kernel)
  obtain ⟨filed, collected', named⟩ := functionNames_of_run rfl returned
  obtain rfl := Except.ok.inj (collected.symm.trans collected')
  have claimed : builder.claimedNames (supported [only, only]) = ["ping", "ping_2"] := by
    decide +kernel
  refine ⟨_, groups, mappings, rfl, collected, ?_, returned, ?_⟩
  · intro once
    have twice := once _ List.mem_cons_self
    simp at twice
  · obtain ⟨group, among, names⟩ := exists_of_forall₂ named
      (List.mem_map_of_mem (List.mem_filter.mpr ⟨List.mem_cons_self, by decide +kernel⟩))
    exact ⟨group, among, claimed ▸ names⟩

end ServiceBuilder

end ApiBindings
