import ApiBindings.Proofs.Service.Run
import ApiBindings.Proofs.Service.Entry
import ApiBindings.Proofs.Sorting
import ApiBindings.Proofs.Text.Romanization

/-!
# Function names within a group

Base names are claimed without separators, and only a number behind an underscore is added, so
the names of one group never meet. Numbers are given in the order of the filings, before
anything is left out or sorted.
-/
namespace ApiBindings.ServiceBuilder

variable {builder : ServiceBuilder}

section

variable [Text.Romanization]

theorem functionName_of_builds {tag functionName : String} {operation : Operation} {entry : Entry}
    (builds : builder.Builds tag operation functionName entry) :
    entry.functionName = functionName := by
  obtain ⟨parts, _, finished⟩ := builds
  exact functionName_of_finish finished

theorem length_claimedNames (builder : ServiceBuilder) (operations : List Operation) :
    (builder.claimedNames operations).length = operations.length := by
  simp [claimedNames, Registry.length_claimAll]

theorem BuildsAll.length_eq {tag : String} {operations : List Operation} {entries : List Entry}
    (all : builder.BuildsAll tag operations entries) : entries.length = operations.length := by
  have same := List.Forall₂.length_eq all
  rw [List.length_zip, length_claimedNames] at same
  omega

/-- The entry at a position is built for the operation there, under the name it claimed. -/
theorem BuildsAll.builds {tag : String} {operations : List Operation} {entries : List Entry}
    (all : builder.BuildsAll tag operations entries) {position : Nat} {operation : Operation}
    {entry : Entry} (given : operations[position]? = some operation)
    (made : entries[position]? = some entry) :
    (builder.claimedNames operations)[position]? = some entry.functionName ∧
      builder.Builds tag operation entry.functionName entry := by
  obtain ⟨inside, rfl⟩ := List.getElem?_eq_some_iff.mp given
  have named : position < (builder.claimedNames operations).length := by
    rwa [length_claimedNames]
  have paired : ((operations.zip (builder.claimedNames operations)).zip entries)[position]? =
      some ((operations[position], (builder.claimedNames operations)[position]), entry) := by
    simp [List.getElem?_zip_eq_some, made, named, inside]
  have builds := (List.forall₂_iff_zip.mp all).2 (List.mem_of_getElem? paired)
  have name := functionName_of_builds builds
  rw [← name] at builds
  exact ⟨by rw [List.getElem?_eq_getElem named, name], builds⟩

/-- Operation by operation, the entries are those built for them under their own names. -/
theorem BuildsAll.forall₂ {tag : String} {operations : List Operation} {entries : List Entry}
    (all : builder.BuildsAll tag operations entries) :
    List.Forall₂ (fun operation entry => builder.Builds tag operation entry.functionName entry)
      operations entries :=
  List.forall₂_iff_get.mpr ⟨all.length_eq.symm, fun _ given made =>
    (all.builds (List.getElem?_eq_getElem given) (List.getElem?_eq_getElem made)).2⟩

theorem BuildsAll.functionNames {tag : String} {operations : List Operation} {entries : List Entry}
    (all : builder.BuildsAll tag operations entries) :
    entries.map Entry.functionName = builder.claimedNames operations := by
  apply List.ext_getElem?
  intro position
  cases made : entries[position]? with
  | none =>
    have outside := List.getElem?_eq_none_iff.mp made
    rw [all.length_eq, ← length_claimedNames builder] at outside
    simp [made, outside]
  | some entry =>
    have inside := (List.getElem?_eq_some_iff.mp made).1
    rw [all.length_eq] at inside
    have builds := all.builds (List.getElem?_eq_getElem inside) made
    simp [made, builds.1]

omit [Text.Romanization] in
theorem sortByPath_perm (entries : List Entry) : (sortByPath entries).Perm entries :=
  Text.sortBy_perm Entry.path entries

omit [Text.Romanization] in
theorem group?_some {tag : String} {entries : List Entry} {group : TagGroup}
    (made : builder.group? tag entries = some group) :
    group.entries = sortByPath (entries.filter fun entry =>
      ServicePath.isWanted builder.settings.generateApis entry.path) ∧ group.entries ≠ [] := by
  unfold group? at made
  dsimp only at made
  split at made
  · simp at made
  · rename_i present
    obtain rfl := Option.some.inj made
    refine ⟨rfl, fun nothing => present ?_⟩
    have fewer := (sortByPath_perm _).length_eq.symm.trans (congrArg List.length nothing)
    exact List.isEmpty_iff.mpr (List.eq_nil_of_length_eq_zero fewer)

theorem nodup_claimedNames (operations : List Operation) :
    ((builder.claimedNames operations).filter (· ≠ "")).Nodup := by
  apply Registry.nodup_claimAll
  intro name member
  obtain ⟨operation, _, rfl⟩ := List.mem_map.mp member
  exact Spelling.underscore_notMem_file _

/-- A group keeps some of the entries that were built, so it keeps their names distinct. -/
theorem nodup_functionNames {tag : String} {operations : List Operation} {entries : List Entry}
    {group : TagGroup} (all : builder.BuildsAll tag operations entries)
    (made : builder.group? tag entries = some group) :
    ((group.entries.map Entry.functionName).filter (· ≠ "")).Nodup := by
  rw [(group?_some made).1]
  -- Sorting permutes the names and filtering leaves some out; neither can make two meet.
  have kept := ((sortByPath_perm (entries.filter fun entry =>
    ServicePath.isWanted builder.settings.generateApis entry.path)).map
      Entry.functionName).filter (· ≠ "")
  have among := ((List.filter_sublist (p := fun entry : Entry =>
    ServicePath.isWanted builder.settings.generateApis entry.path)
      (l := entries)).map Entry.functionName).filter (· ≠ "")
  rw [all.functionNames] at among
  exact kept.nodup_iff.mpr (among.nodup (nodup_claimedNames operations))

/-- The `k`-th operation of a group with a base name gets this name, with its number behind an
underscore if it is not the first. -/
theorem BuildsAll.functionName_eq {tag : String} {operations : List Operation}
    {entries : List Entry} (all : builder.BuildsAll tag operations entries) {position : Nat}
    {operation : Operation} {entry : Entry} (given : operations[position]? = some operation)
    (made : entries[position]? = some entry) (named : builder.baseName operation ≠ "")
    {k : Nat} (counted : ((operations.take (position + 1)).map builder.baseName).count
      (builder.baseName operation) = k) :
    entry.functionName = if k = 1 then builder.baseName operation
      else builder.baseName operation ++ "_" ++ toString k := by
  have claimed := (all.builds given made).1
  rw [claimedNames, Registry.claimAll_getElem?, List.getElem?_map, given] at claimed
  simp only [Option.map_some, named, if_false, Option.some.injEq, ← List.map_take,
    counted] at claimed
  -- The operation itself is counted, so the number starts at one.
  have here : operation ∈ operations.take (position + 1) := by
    apply List.mem_of_getElem? (i := position)
    rw [List.getElem?_take_of_lt (by omega)]
    exact given
  have positive : 1 ≤ k := by
    rw [← counted, List.one_le_count_iff]
    exact List.mem_map_of_mem here
  rw [← claimed]
  simp only [Registry.count, Registry.empty, List.lookup_nil, Option.getD_none, Nat.zero_add,
    Registry.numbered]
  by_cases first : k = 1
  · simp [first]
  · rw [if_neg (by omega), if_neg first]

/-- In every group of a successful run the function names that are not empty are distinct, and
the `k`-th operation filed there under one base name has this name, followed by an underscore
and `k` from the second on. Operations are counted as they were filed, also those whose entries
the group leaves out. -/
theorem functionNames_distinct_and_numbered (builder : ServiceBuilder) (groups : List TagGroup)
    (mappings : List GatewayMapping)
    (returned : builder.groups.value = (.ok groups, mappings)) :
    ∃ filed, builder.collect.outcome = .ok filed ∧ ∀ group ∈ groups,
      ((group.entries.map Entry.functionName).filter (· ≠ "")).Nodup ∧
      ∃ tag operations entries, (tag, operations) ∈ filed ∧
        builder.group? tag entries = some group ∧
        entries.length = (supported operations).length ∧
        ∀ position operation entry, (supported operations)[position]? = some operation →
          entries[position]? = some entry →
          builder.Builds tag operation entry.functionName entry ∧
          ∀ k, (((supported operations).take (position + 1)).map builder.baseName).count
              (builder.baseName operation) = k →
            builder.baseName operation ≠ "" →
            entry.functionName = if k = 1 then builder.baseName operation
              else builder.baseName operation ++ "_" ++ toString k := by
  obtain ⟨filed, built, collected, all, rfl, _⟩ := groups_ok returned
  refine ⟨filed, collected, fun group member => ?_⟩
  obtain ⟨⟨⟨tag, operations⟩, entries⟩, paired, made⟩ := List.mem_filterMap.mp member
  have builds := List.forall₂_zip all paired
  refine ⟨nodup_functionNames builds made, tag, operations, entries, (List.of_mem_zip paired).1,
    made, builds.length_eq, ?_⟩
  intro position operation entry given placed
  refine ⟨(builds.builds given placed).2, fun k counted named => ?_⟩
  exact builds.functionName_eq given placed named counted

end

/-- Operations under one tag with these ids, on paths of their own. -/
def underOneTag (operationIds : List String) : Node :=
  .object [(.text "paths", .object (operationIds.mapIdx fun position operationId =>
    (.text ("/" ++ toString position), .object [(.text "get", .object
      [(.text "operationId", .text operationId), (.text "tags", .list [.text "default"])])])))]

theorem functionNames_of_two :
    ∃ builder groups mappings,
      create (underOneTag ["list", "list"]) [] (Settings.ofSource "openapi.json") = .ok builder ∧
      builder.groups.value = (.ok groups, mappings) ∧ groups ≠ [] ∧
      ∀ group ∈ groups, ((group.entries.map Entry.functionName).filter (· ≠ "")).Nodup := by
  let builder : ServiceBuilder := ⟨underOneTag ["list", "list"], [],
    Settings.ofSource "openapi.json", Namer.create "API" ["/0", "/1"] .none 20⟩
  obtain ⟨groups, mappings, returned, present⟩ := exists_groups builder (by decide +kernel)
  obtain ⟨filed, _, named⟩ := functionNames_distinct_and_numbered builder groups mappings returned
  exact ⟨builder, groups, mappings, rfl, returned, present,
    fun group member => (named group member).1⟩

end ApiBindings.ServiceBuilder
