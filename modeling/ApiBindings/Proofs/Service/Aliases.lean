import ApiBindings.Proofs.Declaration.Parameters
import ApiBindings.Proofs.Service.Template
import ApiBindings.Proofs.Text.Letter
import ApiBindings.Proofs.Text.Romanization

/-!
# Aliases in the path of an entry

The path parameters of an entry are renamed to their aliases one after the other, each at the first
expression of its name. So an expression keeps its name if it stands more often in the path than
parameters bear it, and a parameter whose name is an alias may take what an earlier one left there.
-/
namespace ApiBindings

open ServicePath

/-- The path parameters of an entry by name, each with its alias. -/
def Entry.aliases (entry : Entry) : List (String × String) :=
  (entry.parameters.group .path).filterMap fun parameter => parameter.alias?.map (parameter.name, ·)

namespace ServicePath

/-- The names of parameters with the aliases they get from a position on. -/
def aliasesFrom (position : Nat) (parameters : List Parameter) : List (String × String) :=
  (parameters.zipIdx position).map fun (parameter, place) => (parameter.name, aliasAt place)

theorem plain_aliasAt (position : Nat) : Plain (aliasAt position).toList := by
  have word : ∀ c ∈ (aliasAt position).toList, c ≠ '$' ∧ c ≠ '\x7d' := by
    intro c member
    rw [aliasAt, String.toList_append, List.mem_append] at member
    rcases member with letter | digit
    · simpa using List.all_eq_true.mp
        (by decide : ("param".toList.all fun c => c ≠ '$' && c ≠ '\x7d') = true) c letter
    · have digit := (Text.isDigit_iff c).mp (Text.isDigit_of_mem_toString digit)
      constructor
      · rintro rfl
        simp at digit
      · rintro rfl
        simp at digit
  exact ⟨fun member => (word _ member).2 rfl,
    fun opened => (word _ (opened.subset (by simp))).1 rfl⟩

/-- Renaming path parameters replaces pieces of the path. -/
theorem renameAll_spell {parameters : List Parameter}
    (closed : ∀ parameter ∈ parameters, '\x7d' ∉ parameter.name.toList) {pieces : List Piece}
    (legible : Legible pieces) (position : Nat) :
    renameAll (String.ofList (spell pieces)) position parameters =
      String.ofList (spell (renameEach (aliasesFrom position parameters) pieces)) := by
  induction parameters generalizing pieces position with
  | nil => rfl
  | cons parameter rest ih =>
    have first : rename (String.ofList (spell pieces)) parameter.name (aliasAt position) =
        String.ofList
          (spell (pieces.replace (.slot parameter.name) (.slot (aliasAt position)))) := by
      rw [rename, String.toList_ofList,
        replaceFirst_spell legible (closed parameter List.mem_cons_self)]
    rw [renameAll, first, ih (fun other later => closed other (List.mem_cons_of_mem _ later))
      (legible_replace legible _ (plain_aliasAt position))]
    rfl

theorem exists_aliasAt {position : Nat} {parameters : List Parameter} {change : String × String}
    (member : change ∈ aliasesFrom position parameters) :
    ∃ place, change.2 = aliasAt place := by
  obtain ⟨⟨parameter, place⟩, _, rfl⟩ := List.mem_map.mp member
  exact ⟨place, rfl⟩

theorem map_fst_aliasesFrom (position : Nat) (parameters : List Parameter) :
    (aliasesFrom position parameters).map (·.1) = parameters.map Parameter.name := by
  have names : parameters.map Parameter.name =
      ((parameters.zipIdx position).map Prod.fst).map Parameter.name := by
    rw [List.zipIdx_map_fst]
  rw [aliasesFrom, names, List.map_map, List.map_map]
  rfl

theorem filterMap_withAliases (parameters : List Parameter) :
    ((withAliases parameters).filterMap fun parameter =>
      parameter.alias?.map (parameter.name, ·)) = aliasesFrom 0 parameters := by
  unfold withAliases aliasesFrom
  rw [List.filterMap_map, ← List.filterMap_eq_map]
  rfl

theorem aliasesFrom_withAliases (parameters : List Parameter) :
    aliasesFrom 0 (withAliases parameters) = aliasesFrom 0 parameters := by
  apply List.ext_getElem
  · simp [aliasesFrom, withAliases]
  · intro position inside inside'
    simp [aliasesFrom, withAliases]

end ServicePath

namespace ParameterGroups

theorem group_modify (groups : ParameterGroups) (location other : ParameterLocation)
    {change : List Parameter → List Parameter} (nil : change [] = []) :
    (groups.modify location change).group other =
      if other = location then change (groups.group other) else groups.group other := by
  induction groups with
  | nil => simp [modify, group, nil]
  | cons first rest ih =>
    obtain ⟨place, parameters⟩ := first
    by_cases here : other = place
    · subst here
      simp [modify, group]
    · simpa [modify, group, List.lookup_cons, beq_false_of_ne here] using ih

theorem group_set (groups : ParameterGroups) (location : ParameterLocation)
    (parameters : List Parameter) :
    (groups.set location parameters).group location = parameters := by
  induction groups with
  | nil => simp [set, group]
  | cons first rest ih =>
    obtain ⟨place, old⟩ := first
    rw [set]
    split
    · rename_i same
      simp [group, same]
    · rename_i differ
      simpa [group, List.lookup_cons, beq_false_of_ne (Ne.symm differ)] using ih

end ParameterGroups

namespace ServiceBuilder

variable {builder : ServiceBuilder}

theorem group_finishParameters (groups : ParameterGroups) :
    (finishParameters groups).group .path = withAliases (groups.group .path) := by
  rw [finishParameters, ParameterGroups.group_modify _ _ _ rfl, if_neg (by decide),
    ParameterGroups.group_modify _ _ _ rfl, if_pos rfl]

/-- No gateway gives the operation another path. -/
def KeepsPath (operation : Operation) : Prop :=
  ∀ gateway, gateway? operation = some gateway →
    (Members.field gateway "antTechApiName").isPresent = false

theorem formattedPath_of_keepsPath {operation : Operation} (keeps : KeepsPath operation) :
    formattedPath operation = .ok (template operation.path) := by
  unfold formattedPath
  cases given : gateway? operation with
  | none => rfl
  | some gateway => simp [gatewayPath, keeps gateway given]

theorem prefixed_of_none {apiPrefix : Option ApiPrefix} (none : hasPrefix apiPrefix = false)
    (context : PrefixContext) : prefixed apiPrefix context = context.path := by
  have nothing : prefixText apiPrefix context = [] := by
    cases apiPrefix with
    | none => rfl
    | some apiPrefix =>
      cases apiPrefix with
      | fixed text =>
        obtain rfl : text = "" := by simpa [hasPrefix] using none
        rfl
      | computed rule => simp [hasPrefix] at none
  rw [prefixed, nothing, withPrefix, String.ofList_toList]

variable [Text.Romanization]

/-- Every path parameter of an entry has the alias of its position. -/
theorem Builds.aliases_eq {tag functionName : String} {operation : Operation} {entry : Entry}
    (builds : builder.Builds tag operation functionName entry) :
    entry.aliases = aliasesFrom 0 (entry.parameters.group .path) := by
  obtain ⟨_, _, groups, _, _, same⟩ := builds.parameters
  rw [Entry.aliases, same, group_finishParameters, filterMap_withAliases, aliasesFrom_withAliases]

/-- The path of an entry is the template of its operation with its path parameters renamed, behind
the prefix. -/
theorem Builds.formatted {tag functionName : String} {operation : Operation} {entry : Entry}
    (builds : builder.Builds tag operation functionName entry) (keeps : KeepsPath operation) :
    ∃ nodes groups context,
      (Parameter.groups builder.context nodes operation.path).outcome = .ok groups ∧
      context.path = renameAll (template operation.path) 0 (ParameterGroups.group groups .path) ∧
      entry.aliases = aliasesFrom 0 (ParameterGroups.group groups .path) ∧
      entry.pathInComment = inComment context.path ∧
      entry.path = prefixed builder.settings.apiPrefix context := by
  obtain ⟨parts, read, finished⟩ := builds
  obtain ⟨formatted, _, written, _, same⟩ := finish_unmarked finished
  obtain rfl := Except.ok.inj ((formattedPath_of_keepsPath keeps).symm.trans written)
  simp only [ServiceBuilder.parts, Attempt.outcome_bind_ok, Attempt.outcome_pure,
    Except.ok.injEq] at read
  obtain ⟨nodes, _, groups, grouped, _, _, _, _, _, _, _, _, rfl⟩ := read
  refine ⟨nodes, groups, ⟨_, operation.method, tag, functionName⟩, grouped, rfl, ?_, ?_, ?_⟩
  · rw [Entry.aliases, same, unmarked, group_finishParameters, filterMap_withAliases]
  · rw [same]
    rfl
  · rw [same]
    rfl

omit [Text.Romanization] in
/-- Renaming the path parameters of a path without expressions renames pieces of its template. -/
theorem renameAll_template {path : String} (unopened : hasExpression path = false)
    {parameters : List Parameter}
    (closed : ∀ change ∈ aliasesFrom 0 parameters, '\x7d' ∉ change.1.toList) :
    renameAll (template path) 0 parameters =
      String.ofList (spell (renameEach (aliasesFrom 0 parameters) (piecesFrom 0 path.toList))) := by
  rw [template_eq]
  refine renameAll_spell (fun parameter member => ?_) (legible_of_hasExpression unopened) 0
  have named : parameter.name ∈ (aliasesFrom 0 parameters).map (·.1) := by
    rw [map_fst_aliasesFrom]
    exact List.mem_map_of_mem member
  obtain ⟨change, among, same⟩ := List.mem_map.mp named
  exact same ▸ closed change among

/-- The path of an entry is spelled of the pieces of its template, with the path parameters renamed
in turn. -/
theorem Builds.spelled {tag functionName : String} {operation : Operation} {entry : Entry}
    (builds : builder.Builds tag operation functionName entry)
    (unopened : hasExpression operation.path = false) (keeps : KeepsPath operation)
    (closed : ∀ change ∈ entry.aliases, '\x7d' ∉ change.1.toList) :
    ∃ nodes groups path,
      (Parameter.groups builder.context nodes operation.path).outcome = .ok groups ∧
      path = String.ofList
        (spell (renameEach entry.aliases (piecesFrom 0 operation.path.toList))) ∧
      entry.aliases = aliasesFrom 0 (ParameterGroups.group groups .path) ∧
      entry.pathInComment = inComment path ∧
      (hasPrefix builder.settings.apiPrefix = false → entry.path = path) := by
  obtain ⟨nodes, groups, context, grouped, path, aliases, comment, whole⟩ := builds.formatted keeps
  refine ⟨nodes, groups, context.path, grouped, ?_, aliases, comment, fun none =>
    whole.trans (prefixed_of_none none context)⟩
  rw [aliases] at closed ⊢
  exact path.trans (renameAll_template unopened closed)

end ServiceBuilder

namespace Parameter

theorem subset_addPlaceholders (group : List Parameter) (names : List String) :
    group ⊆ addPlaceholders group names := by
  induction names generalizing group with
  | nil => exact List.Subset.refl _
  | cons name rest ih =>
    rw [addPlaceholders]
    split
    · exact ih group
    · exact List.Subset.trans (List.subset_append_left ..) (ih _)

/-- In the end a parameter is named after every placeholder. -/
theorem exists_addPlaceholders {names : List String} {name : String} (member : name ∈ names)
    (group : List Parameter) :
    ∃ parameter ∈ addPlaceholders group names, parameter.name = name := by
  induction names generalizing group with
  | nil => simp at member
  | cons first rest ih =>
    rw [addPlaceholders]
    rcases List.mem_cons.mp member with rfl | later
    · split
      · rename_i known
        obtain ⟨parameter, among, named⟩ := List.any_eq_true.mp known
        exact ⟨parameter, subset_addPlaceholders _ _ among, by simpa using named⟩
      · exact ⟨ofPlaceholder name, subset_addPlaceholders _ _ (by simp), rfl⟩
    · split
      · exact ih later group
      · exact ih later _

variable [Text.Romanization]

/-- The parameters in the path are those read off the document, and those of its placeholders. -/
theorem group_of_groups {context : SchemaContext} {nodes : List Node} {path : String}
    {groups : ParameterGroups}
    (grouped : (Parameter.groups context nodes path).outcome = .ok groups) :
    ∃ group, ParameterGroups.group groups .path =
      addPlaceholders group (placeholders path.toList) := by
  obtain ⟨group, _, rfl⟩ := groups_ok grouped
  refine ⟨group .path, ?_⟩
  split
  · rename_i none
    have nothing := List.isEmpty_iff.mp none
    have fewer := subset_addPlaceholders (group .path) (placeholders path.toList)
    rw [nothing] at fewer ⊢
    rw [group_filled, List.subset_nil.mp fewer]
  · rw [ParameterGroups.group_set]

end Parameter

namespace ServiceBuilder

section

variable [Text.Romanization]

/-- A run over one operation can be tried for its entry without looking into the rest. -/
theorem exists_builds_only (builder : ServiceBuilder) (operation : Operation)
    (only : Document.operations builder.document = .ok [operation]) (meets : Entry → Bool)
    (met : (builder.groups.value.1.toOption.any fun groups => groups.any fun group =>
      group.entries.any meets) = true) :
    ∃ tag entry, builder.Builds tag operation entry.functionName entry ∧ meets entry = true := by
  obtain ⟨groups, mappings, returned, group, among, entry, member, met⟩ :=
    exists_entry builder meets met
  obtain ⟨tag, other, ⟨has, _⟩, builds⟩ := exists_builds returned among member
  obtain rfl := has.eq_only only
  exact ⟨tag, entry, builds, met⟩

omit [Text.Romanization] in
theorem keepsPath_onlyOperation (path method operationId : String) :
    KeepsPath (onlyOperation path method operationId) := by
  intro gateway given
  have none : gateway? (onlyOperation path method operationId) = none := rfl
  simp [none] at given

/-- Every expression in the path of an entry is an alias exactly when the template writes no other
name more often than path parameters bear it. -/
theorem expressions_are_aliases_iff (builder : ServiceBuilder) (tag functionName : String)
    (operation : Operation) (entry : Entry)
    (builds : builder.Builds tag operation functionName entry)
    (unopened : hasExpression operation.path = false) (keeps : KeepsPath operation)
    (unprefixed : hasPrefix builder.settings.apiPrefix = false)
    (closed : ∀ change ∈ entry.aliases, '\x7d' ∉ change.1.toList) :
    (∀ name ∈ expressions entry.path.toList, name ∈ entry.aliases.map (·.2)) ↔
      ∀ name ∈ expressions (template operation.path).toList, name ∉ entry.aliases.map (·.2) →
        (expressions (template operation.path).toList).count name ≤
          (entry.aliases.map (·.1)).count name := by
  obtain ⟨_, groups, path, _, spelled, aliases, _, own⟩ := builds.spelled unopened keeps closed
  have legible := legible_of_hasExpression unopened
  have plain : ∀ change ∈ entry.aliases, Plain change.2.toList := by
    rw [aliases]
    intro change member
    obtain ⟨place, same⟩ := exists_aliasAt member
    exact same ▸ plain_aliasAt place
  have initial : expressions (template operation.path).toList =
      slots (piecesFrom 0 operation.path.toList) := by
    rw [template_eq, String.toList_ofList, expressions_spell legible]
  have final : expressions entry.path.toList =
      slots (renameEach entry.aliases (piecesFrom 0 operation.path.toList)) := by
    rw [own unprefixed, spelled, String.toList_ofList,
      expressions_spell (legible_renameEach plain legible)]
  rw [final, initial]
  -- A name that is no alias is only ever taken away, once for each parameter that bears it.
  constructor
  · intro all name _ other
    have counted := count_renameEach other (piecesFrom 0 operation.path.toList)
    rw [List.count_eq_zero_of_not_mem fun member => other (all name member)] at counted
    omega
  · intro fewer name member
    by_contra other
    have counted := count_renameEach other (piecesFrom 0 operation.path.toList)
    have some := List.count_pos_iff.mpr member
    have initially : name ∈ slots (piecesFrom 0 operation.path.toList) :=
      List.count_pos_iff.mp (by omega)
    have bound := fewer name initially other
    omega

end

theorem expressions_of_single :
    let path := "/users/\x7bid\x7d"
    let operation := onlyOperation path "get" "getItem"
    ∃ (builder : ServiceBuilder) (tag : String) (entry : Entry),
      create (withOperation path "get" "getItem") [] (Settings.ofSource "openapi.json") =
        .ok builder ∧
      builder.Builds tag operation entry.functionName entry ∧
      entry.aliases = [("id", "param0")] ∧
      ∀ name ∈ expressions entry.path.toList, name ∈ entry.aliases.map (·.2) := by
  intro path operation
  let builder := forOperation path "get" "getItem"
  obtain ⟨tag, entry, builds, aliases⟩ := exists_builds_only builder operation rfl
    (fun entry => entry.aliases == [("id", "param0")]) (by decide +kernel)
  have aliases : entry.aliases = [("id", "param0")] := by simpa using aliases
  have once : expressions (template path).toList = ["id"] := by decide +kernel
  refine ⟨builder, tag, entry, rfl, builds, aliases, ?_⟩
  refine (expressions_are_aliases_iff builder tag _ _ entry builds (by decide +kernel)
    (keepsPath_onlyOperation path _ _) rfl ?_).mpr ?_
  · rw [aliases]
    decide +kernel
  · have same : operation.path = path := rfl
    rw [same, once, aliases]
    decide +kernel

/-- The second of two placeholders of one name keeps it, as a variable that nothing binds. -/
theorem expressions_of_repeated :
    let path := "/users/\x7bid\x7d/copies/\x7bid\x7d"
    let operation := onlyOperation path "get" "getItem"
    ∃ (builder : ServiceBuilder) (tag : String) (entry : Entry),
      create (withOperation path "get" "getItem") [] (Settings.ofSource "openapi.json") =
        .ok builder ∧
      builder.Builds tag operation entry.functionName entry ∧
      hasExpression path = false ∧ KeepsPath operation ∧
      hasPrefix builder.settings.apiPrefix = false ∧
      entry.path = "/users/$\x7bparam0\x7d/copies/$\x7bid\x7d" ∧
      entry.aliases = [("id", "param0")] ∧
      "id" ∈ expressions entry.path.toList := by
  intro path operation
  let builder := forOperation path "get" "getItem"
  obtain ⟨tag, entry, builds, met⟩ := exists_builds_only builder operation rfl
    (fun entry => entry.path == "/users/$\x7bparam0\x7d/copies/$\x7bid\x7d" &&
      entry.aliases == [("id", "param0")]) (by decide +kernel)
  simp only [Bool.and_eq_true, beq_iff_eq] at met
  refine ⟨builder, tag, entry, rfl, builds, by decide +kernel, keepsPath_onlyOperation path _ _,
    rfl, met.1, met.2, ?_⟩
  rw [met.1]
  decide +kernel

section

variable [Text.Romanization]

/-- Where no path parameter is named like the alias of an earlier one, every placeholder in the path
of the comment is replaced by the alias of the parameter of its name, all of them at once. -/
theorem pathInComment_of_apart (builder : ServiceBuilder) (tag functionName : String)
    (operation : Operation) (entry : Entry) (pieces : List Piece)
    (builds : builder.Builds tag operation functionName entry) (keeps : KeepsPath operation)
    (written : operation.path.toList = pieces.flatMap Piece.written)
    (simple : ∀ piece ∈ pieces, piece.Simple) (distinct : (slots pieces).Nodup)
    (closed : ∀ change ∈ entry.aliases, '\x7d' ∉ change.1.toList)
    (apart : entry.aliases.Pairwise fun earlier later => earlier.2 ≠ later.1) :
    entry.aliases = aliasesFrom 0 (entry.parameters.group .path) ∧
      (∀ name ∈ slots pieces, name ∈ entry.aliases.map (·.1)) ∧
      entry.pathInComment = inComment (String.ofList
        (spell (pieces.map (Piece.mapName (renamedBy entry.aliases))))) := by
  have unopened := hasExpression_of_written simple written
  obtain ⟨_, groups, _, grouped, rfl, aliases, comment, _⟩ := builds.spelled unopened keeps closed
  refine ⟨builds.aliases_eq, ?_, ?_⟩
  · intro name member
    rw [← placeholders_written simple, ← written] at member
    obtain ⟨group, same⟩ := Parameter.group_of_groups grouped
    rw [aliases, map_fst_aliasesFrom, same]
    obtain ⟨parameter, among, named⟩ := Parameter.exists_addPlaceholders member group
    exact List.mem_map.mpr ⟨parameter, among, named⟩
  · rw [comment, written, piecesFrom_written simple, renameEach_eq_map apart]
    exact fun change _ => List.nodup_iff_count_le_one.mp distinct change.1

end

/-- The pieces of a text without placeholders. -/
def plainPieces (text : String) : List Piece := text.toList.map .char

theorem pathInComment_of_two :
    let path := "/users/\x7bid\x7d/items/\x7bitem\x7d"
    let operation := onlyOperation path "get" "getItem"
    ∃ (builder : ServiceBuilder) (tag : String) (entry : Entry),
      create (withOperation path "get" "getItem") [] (Settings.ofSource "openapi.json") =
        .ok builder ∧
      builder.Builds tag operation entry.functionName entry ∧
      entry.pathInComment = "/users/$\x7bparam0\x7d/items/$\x7bparam1\x7d" := by
  intro path operation
  let pieces := plainPieces "/users/" ++ .slot "id" :: plainPieces "/items/" ++ [.slot "item"]
  let builder := forOperation path "get" "getItem"
  obtain ⟨tag, entry, builds, aliases⟩ := exists_builds_only builder operation rfl
    (fun entry => entry.aliases == [("id", "param0"), ("item", "param1")]) (by decide +kernel)
  have aliases : entry.aliases = [("id", "param0"), ("item", "param1")] := by simpa using aliases
  have written : path.toList = pieces.flatMap Piece.written := by decide +kernel
  have renamed := pathInComment_of_apart builder tag _ _ entry pieces builds
    (keepsPath_onlyOperation path _ _) written (by decide +kernel) (by decide +kernel)
    (by rw [aliases]; decide +kernel) (by rw [aliases]; decide +kernel)
  refine ⟨builder, tag, entry, rfl, builds, ?_⟩
  rw [renamed.2.2, aliases]
  decide +kernel

/-- A parameter whose name is the alias of the one before it takes the place of that one, and leaves
its own placeholder as it is. -/
theorem pathInComment_of_alias :
    let path := "/users/\x7bid\x7d/items/\x7bparam0\x7d"
    let operation := onlyOperation path "get" "getItem"
    let pieces := plainPieces "/users/" ++ .slot "id" :: plainPieces "/items/" ++ [.slot "param0"]
    ∃ (builder : ServiceBuilder) (tag : String) (entry : Entry),
      create (withOperation path "get" "getItem") [] (Settings.ofSource "openapi.json") =
        .ok builder ∧
      builder.Builds tag operation entry.functionName entry ∧
      KeepsPath operation ∧ path.toList = pieces.flatMap Piece.written ∧
      (∀ piece ∈ pieces, piece.Simple) ∧ (slots pieces).Nodup ∧
      entry.aliases = [("id", "param0"), ("param0", "param1")] ∧
      entry.pathInComment = "/users/$\x7bparam1\x7d/items/$\x7bparam0\x7d" ∧
      inComment (String.ofList (spell (pieces.map (Piece.mapName (renamedBy entry.aliases))))) =
        "/users/$\x7bparam0\x7d/items/$\x7bparam1\x7d" := by
  intro path operation pieces
  let builder := forOperation path "get" "getItem"
  obtain ⟨tag, entry, builds, met⟩ := exists_builds_only builder operation rfl
    (fun entry => entry.pathInComment == "/users/$\x7bparam1\x7d/items/$\x7bparam0\x7d" &&
      entry.aliases == [("id", "param0"), ("param0", "param1")]) (by decide +kernel)
  simp only [Bool.and_eq_true, beq_iff_eq] at met
  refine ⟨builder, tag, entry, rfl, builds, keepsPath_onlyOperation path _ _, by decide +kernel,
    by decide +kernel, by decide +kernel, met.2, met.1, ?_⟩
  rw [met.2]
  decide +kernel

end ServiceBuilder

end ApiBindings
