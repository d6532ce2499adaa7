import ApiBindings.Proofs.Service.FunctionNames
import ApiBindings.Proofs.Text.Romanization
import Mathlib.Data.List.ProdSigma

/-!
# Groups of tags

When all operations are wanted, a group has one entry for every operation filed under its tag,
and a tag is without a group only if none of its operations has a function. Operations are told
apart by path and method, which come in the order of the document.
-/
namespace ApiBindings

namespace Document

/-- Operations come path by path, and on one path in the order of the methods. -/
theorem operations_sublist {document : Node} {operations : List Operation}
    (listed : Document.operations document = .ok operations) :
    ∃ paths, Document.paths document = .ok paths ∧
      (operations.map fun operation => (operation.path, operation.method)).Sublist
        (paths.map (·.1) ×ˢ Operation.methods) := by
  unfold Document.operations at listed
  cases given : Document.paths document with
  | error reason => simp [given, bind, Except.bind] at listed
  | ok paths =>
    refine ⟨paths, rfl, ?_⟩
    simp only [given, bind, Except.bind, pure, Except.pure, Except.ok.injEq] at listed
    subst listed
    clear given
    -- Path by path, the operations found are some of the pairs with this path, in method order.
    induction paths with
    | nil => exact .slnil
    | cons first rest ih =>
      obtain ⟨path, item⟩ := first
      simp only [List.flatMap_cons, List.map_append, List.map_cons, List.product_cons]
      refine List.Sublist.append ?_ (by simpa using ih)
      cases item with
      | object members =>
        rw [Operation.ofPath, List.map_filterMap]
        induction Operation.methods with
        | nil => exact .slnil
        | cons method methods ih =>
          cases held : (Members.field members method).members? with
          | none => simpa [held] using ih.cons _
          | some fields => simpa [held] using ih
      | _ => exact List.nil_sublist _

end Document

namespace ServiceBuilder

variable {builder : ServiceBuilder}

section

variable [Text.Romanization]

/-- The group of a tag has an entry for each of these operations and no other, by path. -/
structure Gathers (builder : ServiceBuilder) (tag : String) (operations : List Operation)
    (group : TagGroup) : Prop where
  className : group.className = builder.namer.className tag (Spelling.className tag)
  instanceName : group.instanceName = Spelling.lowerFirst (Spelling.className tag)
  present : group.entries ≠ []
  gathered : ∃ entries, builder.BuildsAll tag operations entries ∧
    List.Forall₂ (fun operation entry => entry.Carries operation) operations entries ∧
    StablySorted Entry.path entries group.entries

theorem BuildsAll.carries {tag : String} {operations : List Operation} {entries : List Entry}
    (all : builder.BuildsAll tag operations entries) :
    List.Forall₂ (fun operation entry => entry.Carries operation) operations entries := by
  apply List.forall₂_iff_get.mpr
  refine ⟨all.length_eq.symm, fun position inside inside' => ?_⟩
  obtain ⟨_, parts, _, finished⟩ :=
    all.builds (List.getElem?_eq_getElem inside) (List.getElem?_eq_getElem inside')
  exact carries_of_finish finished

/-- Where nothing is filtered, a tag has no group exactly when it has no operations. -/
theorem BuildsAll.group? {tag : String} {operations : List Operation} {entries : List Entry}
    (all : builder.BuildsAll tag operations entries)
    (unfiltered : builder.settings.generateApis = []) :
    (operations = [] ∧ builder.group? tag entries = none) ∨
      ∃ group, operations ≠ [] ∧ builder.group? tag entries = some group ∧
        builder.Gathers tag operations group := by
  -- Where no paths are listed all of them are wanted.
  have wanted : (entries.filter fun entry =>
      ServicePath.isWanted builder.settings.generateApis entry.path) = entries := by
    simp [unfiltered, ServicePath.isWanted]
  have same := all.length_eq
  unfold ServiceBuilder.group?
  simp only [wanted]
  cases entries with
  | nil =>
    left
    exact ⟨List.eq_nil_of_length_eq_zero same.symm, rfl⟩
  | cons entry entries =>
    right
    refine ⟨_, ?_, rfl, rfl, rfl, ?_, entry :: entries, all, all.carries,
      stablySorted_sortBy _ _⟩
    · rintro rfl
      simp at same
    · intro nothing
      have sorted := sortByPath_perm (entry :: entries)
      rw [show sortByPath (entry :: entries) = [] from nothing] at sorted
      simp at sorted

/-- The groups of a run are those of the tags that have operations, in order. -/
theorem forall₂_gathers {filed : List (String × List Operation)} {built : List (List Entry)}
    (all : List.Forall₂ (fun (group : String × List Operation) entries =>
      builder.BuildsAll group.1 (supported group.2) entries) filed built)
    (unfiltered : builder.settings.generateApis = []) :
    List.Forall₂ (fun (filing : String × List Operation) group =>
        builder.Gathers filing.1 (supported filing.2) group)
      (filed.filter fun filing => !(supported filing.2).isEmpty)
      ((filed.zip built).filterMap fun group => builder.group? group.1.1 group.2) := by
  induction all with
  | nil => exact .nil
  | @cons filing entries filed built builds _ ih =>
    rcases builds.group? unfiltered with ⟨nothing, missing⟩ | ⟨group, some, made, gathers⟩
    · simpa [nothing, missing] using ih
    · rw [List.filter_cons_of_pos (by simpa using some), List.zip_cons_cons]
      simp only [List.filterMap_cons, made]
      exact .cons gathers ih

/-- A group that gathers operations has the names they claim. -/
theorem Gathers.functionNames {tag : String} {operations : List Operation} {group : TagGroup}
    (gathers : builder.Gathers tag operations group) :
    (group.entries.map Entry.functionName).Perm (builder.claimedNames operations) := by
  obtain ⟨entries, all, _, sorted⟩ := gathers.gathered
  rw [← all.functionNames]
  exact sorted.perm.map _

/-- The names in the groups of a run, up to the order of the paths, are those that the filed
operations claim. -/
theorem functionNames_of_run {groups : List TagGroup} {mappings : List GatewayMapping}
    (unfiltered : builder.settings.generateApis = [])
    (returned : builder.groups.value = (.ok groups, mappings)) :
    ∃ filed, builder.collect.outcome = .ok filed ∧
      List.Forall₂ (fun names group => (group.entries.map Entry.functionName).Perm names)
        ((filed.filter fun filing => !(supported filing.2).isEmpty).map fun filing =>
          builder.claimedNames (supported filing.2)) groups := by
  obtain ⟨filed, built, collected, all, rfl, _⟩ := groups_ok returned
  refine ⟨filed, collected, List.forall₂_map_left_iff.mpr ?_⟩
  exact (forall₂_gathers all unfiltered).imp fun _ _ gathers => gathers.functionNames

/-- Without a filter of operations, a successful run returns a group for every tag that has
operations without an expression in their path, in the order in which the tags are first seen.
Its entries are those of all these operations, once for each raw tag that led to the tag, sorted
by path and otherwise in the order of the document. -/
theorem groups_of_tags (builder : ServiceBuilder) (groups : List TagGroup)
    (mappings : List GatewayMapping) (unfiltered : builder.settings.generateApis = [])
    (returned : builder.groups.value = (.ok groups, mappings)) :
    ∃ paths operations raw, Document.paths builder.document = .ok paths ∧
      Document.operations builder.document = .ok operations ∧
      (operations.map fun operation => (operation.path, operation.method)).Sublist
        (paths.map (·.1) ×ˢ Operation.methods) ∧
      List.Forall₂ (fun operation tags => rawTags operation = .ok tags) operations raw ∧
      let filings := allFilings builder.settings.namespaceName operations raw
      List.Forall₂ (fun tag group => builder.Gathers tag (supported (filedUnder tag filings)) group)
        ((seenTags filings).filter fun tag => !(supported (filedUnder tag filings)).isEmpty)
        groups := by
  obtain ⟨filed, built, collected, all, made, _⟩ := groups_ok returned
  obtain ⟨operations, raw, listed, tagged, rfl⟩ := (collect_ok builder filed).mp collected
  obtain ⟨paths, given, ordered⟩ := Document.operations_sublist listed
  refine ⟨paths, operations, raw, given, listed, ordered, tagged, ?_⟩
  have gathers := forall₂_gathers all unfiltered
  rw [← made, fileAll_eq, List.filter_map, List.forall₂_map_left_iff] at gathers
  exact gathers

end

theorem groups_of_two :
    ∃ builder groups mappings operations raw,
      create (underOneTag ["list", "list"]) [] (Settings.ofSource "openapi.json") = .ok builder ∧
      builder.settings.generateApis = [] ∧ builder.groups.value = (.ok groups, mappings) ∧
      groups ≠ [] ∧ operations.length = 2 ∧
      List.Forall₂ (fun operation tags => rawTags operation = .ok tags) operations raw ∧
      let filings := allFilings "API" operations raw
      List.Forall₂ (fun tag group => builder.Gathers tag (supported (filedUnder tag filings)) group)
        ((seenTags filings).filter fun tag => !(supported (filedUnder tag filings)).isEmpty)
        groups := by
  let builder : ServiceBuilder := ⟨underOneTag ["list", "list"], [],
    Settings.ofSource "openapi.json", Namer.create "API" ["/0", "/1"] .none 20⟩
  obtain ⟨groups, mappings, returned, present⟩ := exists_groups builder (by decide +kernel)
  obtain ⟨_, operations, raw, _, listed, _, tagged, gathers⟩ :=
    groups_of_tags builder groups mappings rfl returned
  have counted : (Document.operations builder.document).map List.length = .ok 2 := by
    decide +kernel
  rw [listed] at counted
  exact ⟨builder, groups, mappings, operations, raw, rfl, rfl, returned, present,
    Except.ok.inj counted, tagged, gathers⟩

end ServiceBuilder

end ApiBindings
