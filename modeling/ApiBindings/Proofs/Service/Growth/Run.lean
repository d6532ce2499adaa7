import ApiBindings.Proofs.Service.Growth.Uploads
import ApiBindings.Proofs.Service.Grouping
import ApiBindings.Proofs.Text.Romanization

/-!
# Services of a document that gets more paths

More paths come behind all others, so the operations known before are filed first, claim their
names first and are read as before. A group then has its old entries, in their order, and entries
of new operations anywhere between them.
-/
namespace ApiBindings

open Document Reference

variable {document : Node} {more : Members} {sharing sharing' : Sharing}

/-- Names that are claimed first are the same whatever is claimed after them. -/
theorem Registry.claimAll_append (registry : Registry) (names others : List String) :
    registry.claimAll names <+: registry.claimAll (names ++ others) := by
  induction names generalizing registry with
  | nil => exact List.nil_prefix
  | cons name rest ih => exact List.cons_prefix_cons.mpr ⟨rfl, ih _⟩

namespace ServiceBuilder

variable {builder builder' : ServiceBuilder}

section

variable [Text.Romanization]

/-- The builder for the document with more paths, where these change no name. -/
def appendPaths (more : Members) (sharing : Sharing) (builder : ServiceBuilder) : ServiceBuilder :=
  { builder with document := Document.appendPaths more builder.document, sharing := sharing }

omit [Text.Romanization] in
theorem eq_appendPaths_of_create {settings : Settings}
    (created : create document sharing settings = .ok builder)
    (created' : create (Document.appendPaths more document) sharing' settings = .ok builder')
    (sameBase : builder'.namer.base = builder.namer.base) :
    builder.document = document ∧ builder.sharing = sharing ∧
      builder' = builder.appendPaths more sharing' := by
  obtain ⟨paths, _, rfl⟩ := create_ok.mp created
  obtain ⟨paths', _, rfl⟩ := create_ok.mp created'
  refine ⟨rfl, rfl, ?_⟩
  simp only [Namer.create] at sameBase
  simp only [appendPaths, Namer.create, sameBase]

/-- An operation at a place that stays when the document gets more paths. -/
structure HeldBy (document : Node) (operation : Operation) : Prop where
  stays : Stays document (located operation)
  pathItem : Node.referencesOfMembers operation.pathItem ⊆ document.references

omit [Text.Romanization] in
theorem heldBy_of_mem {operations : List Operation}
    (listed : Document.operations document = .ok operations) {operation : Operation}
    (member : operation ∈ operations) : HasPaths document ∧ HeldBy document operation := by
  obtain ⟨own, pathItem⟩ := references_of_operations listed member
  obtain ⟨paths, given, rfl⟩ := operations_ok.mp listed
  obtain ⟨⟨path, item⟩, held, member⟩ := List.mem_flatMap.mp member
  obtain ⟨rfl, rfl, _⟩ := Operation.mem_ofPath.mp member
  have listed := hasPaths_of_mem given (List.ne_nil_of_mem held)
  have entry : (.text operation.path, .object operation.pathItem) ∈ pathItems document := by
    rw [pathItems_eq given]
    exact List.mem_map_of_mem held
  have named : ((pathItems document).get? operation.path).isSome := by
    rw [Members.get?, Option.isSome_map, List.find?_isSome]
    exact ⟨_, entry, by simp⟩
  exact ⟨listed, ⟨own, rfl, _, _, rfl, fun _ => ⟨_, _, rfl, named⟩⟩,
    List.Subset.trans (Node.referencesOfMembers_subset _) pathItem⟩

/-- The parts of a known operation are read as before. -/
theorem parts_keptBy (grows : MayGrow builder.document)
    (alike : builder.sharing.StaysAlike builder.document sharing') {operation : Operation}
    (held : HeldBy builder.document operation)
    (stands : (located operation).StandsIn builder.document) :
    (builder.parts operation).KeptBy ((builder.appendPaths more sharing').parts operation) := by
  have fields : Node.referencesOfMembers operation.fields ⊆ builder.document.references :=
    List.Subset.trans (Node.referencesOfMembers_subset _) held.stays.written
  have written (key : String) : (operation.field key).references ⊆ builder.document.references :=
    List.Subset.trans (Node.references_members_field _ key) fields
  have grows' : MayGrow builder.context.document := grows
  -- Each part is read off the operation, which is where it was.
  apply Attempt.KeptBy.bind (Parameter.ofOperation_keptBy grows' fields held.pathItem)
  intro parameters collected
  apply Attempt.KeptBy.bind
  · exact Parameter.groups_keptBy grows' (fun parameter member =>
      Parameter.references_of_ofOperation fields held.pathItem collected member) operation.path
  intro groups _
  apply Attempt.KeptBy.bind (RequestBody.ofNode?_keptBy grows' (written "requestBody"))
  intro body _
  have placed : Placed builder.document (located operation) := fun _ => stands
  apply Attempt.KeptBy.bind (Upload.ofBody?_keptBy grows alike (held.stays.field "requestBody")
    (placed.field "requestBody"))
  intro uploads _
  apply Attempt.KeptBy.bind (Response.ofNode_keptBy grows' _ (written "responses"))
  exact fun _ _ => .refl _

theorem Builds.unique {tag functionName : String} {operation : Operation} {one other : Entry}
    (first : builder.Builds tag operation functionName one)
    (second : builder.Builds tag operation functionName other) : one = other := by
  obtain ⟨parts, read, finished⟩ := first
  obtain ⟨parts', read', finished'⟩ := second
  obtain rfl := Except.ok.inj (read.symm.trans read')
  exact Except.ok.inj (finished.symm.trans finished')

theorem Builds.appendPaths {tag functionName : String} {operation : Operation} {entry : Entry}
    (kept : (builder.parts operation).KeptBy ((builder.appendPaths more sharing').parts operation))
    (builds : builder.Builds tag operation functionName entry) :
    (builder.appendPaths more sharing').Builds tag operation functionName entry := by
  obtain ⟨parts, read, finished⟩ := builds
  exact ⟨parts, kept parts read, finished⟩

theorem claimedNames_append (builder : ServiceBuilder) (operations others : List Operation) :
    builder.claimedNames operations <+: builder.claimedNames (operations ++ others) := by
  rw [claimedNames, claimedNames, List.map_append]
  exact Registry.claimAll_append ..

/-- Operations that are filed first get the entries they had without the others. -/
theorem BuildsAll.isPrefix {tag : String} {operations others : List Operation}
    {entries entries' : List Entry}
    (kept : ∀ operation ∈ operations,
      (builder.parts operation).KeptBy ((builder.appendPaths more sharing').parts operation))
    (all : builder.BuildsAll tag operations entries)
    (all' : (builder.appendPaths more sharing').BuildsAll tag (operations ++ others) entries') :
    entries <+: entries' := by
  rw [List.prefix_iff_getElem?]
  intro position inside
  have inside' : position < operations.length := by
    rwa [all.length_eq] at inside
  have given : operations[position]? = some operations[position] := List.getElem?_eq_getElem inside'
  have given' : (operations ++ others)[position]? = some operations[position] := by
    rw [List.getElem?_append_left inside', given]
  obtain ⟨named, builds⟩ := all.builds given (List.getElem?_eq_getElem inside)
  have reaches : position < entries'.length := by
    rw [all'.length_eq, List.length_append]
    omega
  have made := List.getElem?_eq_getElem reaches
  obtain ⟨named', builds'⟩ := all'.builds given' made
  -- The name is claimed before any of the other operations is asked for one.
  obtain ⟨later, claimed⟩ := claimedNames_append builder operations others
  have same : entries'[position].functionName = entries[position].functionName := by
    have known : position < (builder.claimedNames operations).length := by
      rwa [length_claimedNames]
    have earlier : (builder.claimedNames (operations ++ others))[position]? =
        some entries[position].functionName := by
      rw [← claimed, List.getElem?_append_left known, named]
    exact Option.some.inj (named'.symm.trans earlier)
  rw [same] at builds'
  rw [made, (builds.appendPaths (kept _ (List.getElem_mem inside'))).unique builds']

/-- The filings of a document come first when it gets more paths. -/
theorem collect_appendPaths {filed filed' : List (String × List Operation)}
    (collected : builder.collect.outcome = .ok filed)
    (collected' : (builder.appendPaths more sharing').collect.outcome = .ok filed') :
    ∃ operations filings others, Document.operations builder.document = .ok operations ∧
      (∀ tag, ∀ operation ∈ filedUnder tag filings, operation ∈ operations) ∧
      filed = fileAll filings ∧ filed' = fileAll (filings ++ others) := by
  obtain ⟨operations, raw, listed, tagged, rfl⟩ := (collect_ok ..).mp collected
  obtain ⟨operations', raw', listed', tagged', rfl⟩ := (collect_ok ..).mp collected'
  obtain ⟨rest, rfl⟩ := operations_appendPaths listed listed'
  obtain ⟨others, same⟩ := allFilings_append builder.settings.namespaceName tagged tagged'
  exact ⟨operations, _, others, listed, fun _ _ member => mem_of_filedUnder member, rfl,
    congrArg fileAll same.symm⟩

/-- A group that a run makes for a tag, of the operations filed under it. -/
def IsGroupOf (builder : ServiceBuilder) (tag : String) (group : TagGroup) : Prop :=
  ∃ filed operations entries, builder.collect.outcome = .ok filed ∧ (tag, operations) ∈ filed ∧
    builder.BuildsAll tag (supported operations) entries ∧
    builder.group? tag entries = some group

/-- A group for the same tag that has the same entries in the same order, others among them. -/
structure GrowsTo (one other : String × TagGroup) : Prop where
  tag : other.1 = one.1
  className : other.2.className = one.2.className
  instanceName : other.2.instanceName = one.2.instanceName
  entries : one.2.entries.Sublist other.2.entries

/-- The groups of filed operations with their tags. -/
def taggedGroups (builder : ServiceBuilder) (filed : List (String × List Operation))
    (built : List (List Entry)) : List (String × TagGroup) :=
  (filed.zip built).filterMap fun group =>
    (builder.group? group.1.1 group.2).map fun made => (group.1.1, made)

omit [Text.Romanization] in
theorem taggedGroups_cons (filing : String × List Operation) (entries : List Entry)
    (filed : List (String × List Operation)) (built : List (List Entry)) :
    builder.taggedGroups (filing :: filed) (entries :: built) =
      ((builder.group? filing.1 entries).map fun made => (filing.1, made)).toList ++
        builder.taggedGroups filed built := by
  unfold taggedGroups
  rw [List.zip_cons_cons, List.filterMap_cons]
  cases builder.group? filing.1 entries <;> rfl

omit [Text.Romanization] in
theorem tags_taggedGroups (filed : List (String × List Operation)) (built : List (List Entry)) :
    ((builder.taggedGroups filed built).map (·.1)).Sublist (filed.map (·.1)) := by
  induction filed generalizing built with
  | nil => exact List.Sublist.refl _
  | cons filing filed ih =>
    cases built with
    | nil => exact List.nil_sublist _
    | cons entries built =>
      rw [taggedGroups_cons]
      cases builder.group? filing.1 entries with
      | none => exact (ih built).cons _
      | some group => exact (ih built).cons_cons _

/-- The groups of a run are those of different tags. -/
theorem exists_taggedGroups {groups : List TagGroup} {mappings : List GatewayMapping}
    (returned : builder.groups.value = (.ok groups, mappings)) :
    ∃ filed built, builder.collect.outcome = .ok filed ∧
      List.Forall₂ (fun (group : String × List Operation) entries =>
        builder.BuildsAll group.1 (supported group.2) entries) filed built ∧
      (builder.taggedGroups filed built).map (·.2) = groups ∧
      ((builder.taggedGroups filed built).map (·.1)).Nodup ∧
      ∀ tagged ∈ builder.taggedGroups filed built, builder.IsGroupOf tagged.1 tagged.2 := by
  obtain ⟨filed, built, collected, all, rfl, _⟩ := groups_ok returned
  refine ⟨filed, built, collected, all, ?_, ?_, ?_⟩
  · simp [taggedGroups, List.map_filterMap, Function.comp_def]
  · refine (tags_taggedGroups filed built).nodup ?_
    obtain ⟨operations, raw, _, _, rfl⟩ := (collect_ok ..).mp collected
    rw [fileAll_eq]
    simpa [Function.comp_def] using nodup_seenTags _
  · intro tagged member
    obtain ⟨⟨⟨tag, operations⟩, entries⟩, paired, made⟩ := List.mem_filterMap.mp member
    obtain ⟨group, grouped, rfl⟩ := Option.map_eq_some_iff.mp made
    have builds := List.forall₂_zip all paired
    exact ⟨filed, operations, entries, collected, (List.of_mem_zip paired).1, builds, grouped⟩

omit [Text.Romanization] in
/-- A group with more entries keeps those it had, in their order. -/
theorem growsTo_of_sublist {tag : String} {entries entries' : List Entry} {group : TagGroup}
    (among : entries.Sublist entries') (made : builder.group? tag entries = some group) :
    ∃ group', builder.group? tag entries' = some group' ∧ GrowsTo (tag, group) (tag, group') := by
  have wanted := among.filter fun entry =>
    ServicePath.isWanted builder.settings.generateApis entry.path
  unfold group? at made ⊢
  dsimp only at made ⊢
  split at made
  · simp at made
  · rename_i present
    obtain rfl := Option.some.inj made
    rw [if_neg]
    · exact ⟨_, rfl, rfl, rfl, rfl, Text.sublist_sortBy Entry.path wanted⟩
    · exact fun nothing => present (by
        rw [List.isEmpty_iff] at nothing ⊢
        rw [nothing] at wanted
        exact List.sublist_nil.mp wanted)

/-- Group by group, a run over more filings has the groups of the run over some of them. -/
theorem sublistForall₂_taggedGroups {filed new : List (String × List Operation)}
    {built built' : List (List Entry)} (further : String → List Operation)
    (kept : ∀ filing ∈ filed, ∀ operation ∈ filing.2,
      (builder.parts operation).KeptBy ((builder.appendPaths more sharing').parts operation))
    (all : List.Forall₂ (fun (group : String × List Operation) entries =>
      builder.BuildsAll group.1 (supported group.2) entries) filed built)
    (all' : List.Forall₂ (fun (group : String × List Operation) entries =>
      (builder.appendPaths more sharing').BuildsAll group.1 (supported group.2) entries)
      (filed.map (fun filing => (filing.1, filing.2 ++ further filing.1)) ++ new) built') :
    List.SublistForall₂ GrowsTo (builder.taggedGroups filed built)
      ((builder.appendPaths more sharing').taggedGroups
        (filed.map (fun filing => (filing.1, filing.2 ++ further filing.1)) ++ new) built') := by
  induction all generalizing built' with
  | nil => exact .nil
  | @cons filing entries filed built builds _ ih =>
    cases all' with
    | @cons _ entries' _ built' builds' rest' =>
      -- The tag is filed in both runs, at the same position, with more operations in the second.
      have rest := ih (fun other member => kept other (List.mem_cons_of_mem _ member)) rest'
      rw [supported_append] at builds'
      have early := builds.isPrefix (fun operation member =>
        kept filing (by simp) operation (List.mem_filter.mp member).1) builds'
      rw [List.map_cons, List.cons_append, taggedGroups_cons, taggedGroups_cons]
      -- A group that was left out may come back, one that was made stays.
      cases made : builder.group? filing.1 entries with
      | none =>
        cases (builder.appendPaths more sharing').group? filing.1 entries' with
        | none => exact rest
        | some group' => exact rest.cons_right
      | some group =>
        obtain ⟨group', made', grows⟩ := growsTo_of_sublist early.sublist made
        have made' :
            (builder.appendPaths more sharing').group? filing.1 entries' = some group' := made'
        rw [made']
        exact .cons grows rest

/-- Paths that are added at the end of a document change nothing that was generated before, where
they leave the shared segments as they are and no pointer leads to the document or to all its paths:
every group has, in the larger document, a group for its tag with the same names, and there all its
entries as they were and in their order. No path of the document comes twice, and what was one
object stays one. -/
theorem groups_appendPaths (document : Node) (sharing sharing' : Sharing) (more : Members)
    (settings : Settings) (builder builder' : ServiceBuilder) (groups groups' : List TagGroup)
    (mappings mappings' : List GatewayMapping)
    (distinct : ((pathItems document).map (·.1)).Nodup)
    (alike : sharing.StaysAlike document sharing') (apart : NeverToAllPaths document)
    (created : create document sharing settings = .ok builder)
    (created' : create (Document.appendPaths more document) sharing' settings = .ok builder')
    (sameBase : builder'.namer.base = builder.namer.base)
    (returned : builder.groups.value = (.ok groups, mappings))
    (returned' : builder'.groups.value = (.ok groups', mappings')) :
    ∃ tagged tagged' : List (String × TagGroup),
      tagged.map (·.2) = groups ∧ tagged'.map (·.2) = groups' ∧
      (tagged.map (·.1)).Nodup ∧ (tagged'.map (·.1)).Nodup ∧
      (∀ group ∈ tagged, builder.IsGroupOf group.1 group.2) ∧
      (∀ group ∈ tagged', builder'.IsGroupOf group.1 group.2) ∧
      List.SublistForall₂ GrowsTo tagged tagged' := by
  obtain ⟨rfl, rfl, rfl⟩ := eq_appendPaths_of_create created created' sameBase
  obtain ⟨filed, built, collected, all, made, once, each⟩ := exists_taggedGroups returned
  obtain ⟨filed', built', collected', all', made', once', each'⟩ := exists_taggedGroups returned'
  refine ⟨_, _, made, made', once, once', each, each', ?_⟩
  obtain ⟨operations, filings, others, listed, known, rfl, rfl⟩ :=
    collect_appendPaths collected collected'
  -- Old tags are seen first, and their old operations are filed first under each.
  obtain ⟨new, tags⟩ := seenTags_append filings others
  have grown : fileAll (filings ++ others) =
      (fileAll filings).map (fun filing => (filing.1, filing.2 ++ filedUnder filing.1 others)) ++
        new.map fun tag => (tag, filedUnder tag (filings ++ others)) := by
    simp [fileAll_eq, ← tags, filedUnder_append]
  rw [grown] at all' ⊢
  refine sublistForall₂_taggedGroups (filedUnder · others)
    (fun filing member operation inside => ?_) all all'
  rw [fileAll_eq] at member
  obtain ⟨tag, _, rfl⟩ := List.mem_map.mp member
  have among : HasOperation builder.document operation :=
    ⟨operations, listed, known tag operation inside⟩
  obtain ⟨held, place⟩ := heldBy_of_mem listed (known tag operation inside)
  exact parts_keptBy ⟨held, apart⟩ alike place (Followed.standsIn_of_hasOperation distinct among)

end

/-- Two operations with one id, the second with a parameter by reference. -/
def listedTwice : Node :=
  let listing (parameters : List Node) : Node := .object [(.text "get", .object
    [(.text "operationId", .text "list"), (.text "tags", .list [.text "default"]),
      (.text "parameters", .list parameters)])]
  .object [
    (.text "components", .object [(.text "parameters", .object [(.text "Limit", .object
      [(.text "name", .text "limit"), (.text "in", .text "query"),
        (.text "schema", .object [(.text "type", .text "integer")])])])]),
    (.text "paths", .object [(.text "/a", listing []),
      (.text "/c", listing [.object [(.text "$ref", .text "#/components/parameters/Limit")]])])]

/-- A third operation with the same id, on a path between the others. -/
def onceMore : Members :=
  [(.text "/b", .object [(.text "get", .object
    [(.text "operationId", .text "list"), (.text "tags", .list [.text "default"])])])]

theorem neverToAllPaths_listedTwice : NeverToAllPaths listedTwice := by
  have written : listedTwice.references = ["#/components/parameters/Limit"] := by decide +kernel
  have place : (Pointer.walk listedTwice "#/components/parameters/Limit").toOption.map
      Located.steps = some [.key "components", .key "parameters", .key "Limit"] := by
    decide +kernel
  intro pointer inside target walked
  rw [written, List.mem_singleton] at inside
  subst inside
  rw [walked] at place
  have steps := Option.some.inj place
  simp [steps]

theorem groups_appendPaths_listedTwice :
    ∃ builder builder' groups groups',
      create listedTwice [] (Settings.ofSource "openapi.json") = .ok builder ∧
      create (Document.appendPaths onceMore listedTwice) [] (Settings.ofSource "openapi.json") =
        .ok builder' ∧
      builder'.namer.base = builder.namer.base ∧ groups ≠ [] ∧
      builder.groups.value.1 = .ok groups ∧ builder'.groups.value.1 = .ok groups' ∧
      ∃ tagged tagged' : List (String × TagGroup),
        tagged.map (·.2) = groups ∧ tagged'.map (·.2) = groups' ∧
        List.SublistForall₂ GrowsTo tagged tagged' := by
  let settings := Settings.ofSource "openapi.json"
  let builder : ServiceBuilder := ⟨listedTwice, [], settings,
    Namer.create "API" ["/a", "/c"] .none 20⟩
  let builder' : ServiceBuilder := ⟨Document.appendPaths onceMore listedTwice, [], settings,
    Namer.create "API" ["/a", "/c", "/b"] .none 20⟩
  have sameBase : builder'.namer.base = builder.namer.base := by decide +kernel
  obtain ⟨groups, mappings, returned, present⟩ := exists_groups builder (by decide +kernel)
  obtain ⟨groups', mappings', returned', _⟩ := exists_groups builder' (by decide +kernel)
  have distinct : ((pathItems listedTwice).map (·.1)).Nodup := by decide +kernel
  have alike : Sharing.StaysAlike listedTwice [] [] := fun _ _ _ _ => .rfl
  obtain ⟨tagged, tagged', made, made', _, _, _, _, grown⟩ :=
    groups_appendPaths listedTwice [] [] onceMore settings builder builder' groups groups'
      mappings mappings' distinct alike neverToAllPaths_listedTwice rfl rfl sameBase returned
      returned'
  exact ⟨builder, builder', groups, groups', rfl, rfl, sameBase, present,
    by rw [returned], by rw [returned'], tagged, tagged', made, made', grown⟩

end ServiceBuilder

end ApiBindings
