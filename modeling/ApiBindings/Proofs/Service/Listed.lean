import ApiBindings.Proofs.Service.FunctionNames
import ApiBindings.Proofs.Service.Neutral
import ApiBindings.Proofs.Text.Romanization

/-!
# Operations that are listed

An operation is wanted if the path of its entry ends like one that is listed, where placeholders
count as equal. Its own path as the document writes it is such an end, so an operation that is
listed is kept. For this its placeholders have to stand in braces, the prefix and the names of its
parameters must not break them.
-/
namespace ApiBindings

open ServicePath

/-- No path parameter of an entry has a closing brace in its name. -/
def Entry.NamesClosed (entry : Entry) : Prop :=
  ∀ change ∈ entry.aliases, '\x7d' ∉ change.1.toList

namespace ServiceBuilder

variable {builder : ServiceBuilder}

section

variable [Text.Romanization]

/-- The path of an entry ends with the path of its operation, as paths are compared. -/
theorem Builds.suffix_path {tag functionName : String} {operation : Operation} {entry : Entry}
    (builds : builder.Builds tag operation functionName entry)
    (unopened : hasExpression operation.path = false) (keeps : KeepsPath operation)
    (colon : ':' ∉ neutralize operation.path)
    (quoted : ClosedPrefix builder.settings.apiPrefix)
    (closed : entry.NamesClosed) : neutralize operation.path <:+ neutralize entry.path := by
  obtain ⟨_, groups, context, _, path, aliases, _, whole⟩ := builds.formatted keeps
  rw [Entry.NamesClosed, aliases] at closed
  rw [renameAll_template unopened closed] at path
  have plain : ∀ change ∈ aliasesFrom 0 (ParameterGroups.group groups .path),
      Plain change.2.toList := by
    intro change member
    obtain ⟨place, same⟩ := exists_aliasAt member
    exact same ▸ plain_aliasAt place
  -- Only the names of expressions change on the way to the path behind the prefix.
  have own : neutralizeFrom 0 context.path.toList = neutralize operation.path := by
    rw [path, String.toList_ofList]
    exact neutralizeFrom_renameEach plain (unopened_of_hasExpression unopened) colon
  rw [whole, neutralize, neutralize, prefixed, String.toList_ofList, ← neutralize, ← own]
  exact suffix_withPrefix (quoted context) _

omit [Text.Romanization] in
theorem isWanted_of_suffix {wanted : List String} {path ending : String} (listed : ending ∈ wanted)
    (ends : neutralize ending <:+ neutralize path) : isWanted wanted path = true := by
  rw [isWanted, Bool.or_eq_true, List.any_eq_true]
  exact .inr ⟨ending, listed, List.isSuffixOf_iff_suffix.mpr ends⟩

omit [Text.Romanization] in
/-- What is wanted of the entries of a tag makes a group. -/
theorem exists_group_of_wanted {tag : String} {entries : List Entry} {entry : Entry}
    (member : entry ∈ entries) (wanted : isWanted builder.settings.generateApis entry.path = true) :
    ∃ group, builder.group? tag entries = some group ∧ entry ∈ group.entries := by
  have kept : entry ∈ entries.filter fun entry =>
      isWanted builder.settings.generateApis entry.path := List.mem_filter.mpr ⟨member, wanted⟩
  unfold group?
  dsimp only
  rw [if_neg (by simpa using List.ne_nil_of_mem kept)]
  exact ⟨_, rfl, (sortByPath_perm _).mem_iff.mpr kept⟩

/-- The functions of an operation that are built for a filing are in the group of its tag, if the
names of their path parameters break no brace. -/
def KeepsFiled (builder : ServiceBuilder) (groups : List TagGroup) (operation : Operation)
    (filing : String × List Operation) : Prop :=
  ∃ entries, builder.BuildsAll filing.1 (supported filing.2) entries ∧
    List.Forall₂ (fun other entry => other = operation → entry.NamesClosed →
        ∃ group ∈ groups, builder.group? filing.1 entries = some group ∧ entry ∈ group.entries)
      (supported filing.2) entries

/-- An operation whose path is listed as it is written is filed, and its functions are kept wherever
it is filed. The placeholders of the path have to stand in braces, a quoted prefix has to close the
braces it opens, and no path parameter may have a closing brace in its name. -/
theorem kept_of_listed (builder : ServiceBuilder) (groups : List TagGroup)
    (mappings : List GatewayMapping) (returned : builder.groups.value = (.ok groups, mappings))
    (operation : Operation) (function : HasFunction builder.document operation)
    (keeps : KeepsPath operation) (listed : operation.path ∈ builder.settings.generateApis)
    (colon : ':' ∉ neutralize operation.path)
    (quoted : ClosedPrefix builder.settings.apiPrefix) :
    ∃ filed, builder.collect.outcome = .ok filed ∧
      (∃ filing ∈ filed, operation ∈ supported filing.2) ∧
      ∀ filing ∈ filed, builder.KeepsFiled groups operation filing := by
  obtain ⟨filed, built, collected, all, rfl, _⟩ := groups_ok returned
  refine ⟨filed, collected, ?_, fun filing member => ?_⟩
  · obtain ⟨filing, member, among⟩ := exists_filed collected function.1
    exact ⟨filing, member, List.mem_filter.mpr ⟨among, by simpa using function.2⟩⟩
  · obtain ⟨position, inside, rfl⟩ := List.mem_iff_getElem.mp member
    -- Filings and entries are built in one order, so a filing has its entries at its own position.
    have inside' : position < built.length := all.length_eq ▸ inside
    have paired : (filed[position], built[position]) ∈ filed.zip built := by
      rw [← List.getElem_zip (h := by simp [inside, inside'])]
      exact List.getElem_mem _
    have builds := List.forall₂_zip all paired
    refine ⟨built[position], builds, List.forall₂_iff_zip.mpr ⟨builds.length_eq.symm, ?_⟩⟩
    rintro _ entry pair rfl closed
    have ends := (List.forall₂_zip builds.forall₂ pair).suffix_path function.2 keeps colon quoted
      closed
    obtain ⟨group, made, kept⟩ :
        ∃ group, builder.group? filed[position].1 built[position] = some group ∧
          entry ∈ group.entries :=
      exists_group_of_wanted (List.of_mem_zip pair).2 (isWanted_of_suffix listed ends)
    exact ⟨group, List.mem_filterMap.mpr ⟨_, paired, made⟩, made, kept⟩

end

/-- Settings with a prefix that generate one path. -/
def listing (apiPrefix path : String) : Settings :=
  { Settings.ofSource "openapi.json" with
    apiPrefix := some (.fixed apiPrefix), generateApis := [path] }

/-- The builder for one operation with these settings. -/
def forListed (apiPrefix path operationId : String) : ServiceBuilder :=
  ⟨withOperation path "get" operationId, [], listing apiPrefix path,
    Namer.create "API" [path] .none 20⟩

/-- Neither the braces of the path nor the prefix hide it. -/
theorem kept_of_listed_user :
    let path := "/users/\x7bid\x7d"
    let operation := onlyOperation path "get" "getUser"
    let builder := forListed "'/api'" path "getUser"
    ∃ groups mappings filed,
      create (withOperation path "get" "getUser") [] (listing "'/api'" path) = .ok builder ∧
      HasFunction builder.document operation ∧ KeepsPath operation ∧
      operation.path ∈ builder.settings.generateApis ∧ ':' ∉ neutralize operation.path ∧
      ClosedPrefix builder.settings.apiPrefix ∧
      builder.groups.value = (.ok groups, mappings) ∧ groups ≠ [] ∧
      builder.collect.outcome = .ok filed ∧
      (∃ filing ∈ filed, operation ∈ supported filing.2) ∧
      ∀ filing ∈ filed, builder.KeepsFiled groups operation filing := by
  intro path operation builder
  have function : HasFunction builder.document operation :=
    ⟨⟨[operation], rfl, List.mem_cons_self⟩, by decide +kernel⟩
  have keeps := keepsPath_onlyOperation path "get" "getUser"
  have listed : operation.path ∈ builder.settings.generateApis := List.mem_cons_self
  have colon : ':' ∉ neutralize operation.path := by decide +kernel
  have quoted : ClosedPrefix builder.settings.apiPrefix := by
    intro context quote rest spelled _
    have trimmed : Text.trimBlanks "'/api'".toList = ['\'', '/', 'a', 'p', 'i', '\''] := by
      decide +kernel
    obtain ⟨_, rfl⟩ := List.cons.inj (trimmed.symm.trans spelled)
    exact closing_of_notMem (by decide)
  obtain ⟨groups, mappings, returned, present⟩ := exists_groups builder (by decide +kernel)
  obtain ⟨filed, collected, among, kept⟩ :=
    kept_of_listed builder groups mappings returned operation function keeps listed colon quoted
  exact ⟨groups, mappings, filed, rfl, function, keeps, listed, colon, quoted, returned, present,
    collected, among, kept⟩

/-- A placeholder behind a colon is listed as it is written and compared as a placeholder. -/
theorem lost_of_listed_colon :
    let path := "/users/:id"
    let operation := onlyOperation path "get" "getUser"
    ∃ builder mappings,
      create (withOperation path "get" "getUser") []
        { Settings.ofSource "openapi.json" with generateApis := [path] } = .ok builder ∧
      HasFunction builder.document operation ∧ KeepsPath operation ∧
      operation.path ∈ builder.settings.generateApis ∧
      builder.settings.apiPrefix = none ∧ builder.groups.value = (.ok [], mappings) := by
  intro path operation
  let builder : ServiceBuilder := ⟨withOperation path "get" "getUser", [],
    { Settings.ofSource "openapi.json" with generateApis := [path] },
    Namer.create "API" [path] .none 20⟩
  have function : HasFunction builder.document operation :=
    ⟨⟨[operation], rfl, List.mem_cons_self⟩, by decide +kernel⟩
  have nothing : (builder.groups.value.1.toOption.any List.isEmpty) = true := by decide +kernel
  cases returned : builder.groups.value with
  | mk outcome mappings =>
    rw [returned] at nothing
    cases outcome with
    | error failure => simp [Except.toOption] at nothing
    | ok groups =>
      obtain rfl : groups = [] := by simpa [Except.toOption] using nothing
      exact ⟨builder, mappings, rfl, function, keepsPath_onlyOperation path "get" "getUser",
        List.mem_cons_self, rfl, returned⟩

end ServiceBuilder

end ApiBindings
