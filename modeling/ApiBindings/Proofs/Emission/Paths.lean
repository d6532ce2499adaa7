import ApiBindings.Proofs.Generation
import ApiBindings.Proofs.Service.Grouping
import ApiBindings.Proofs.Text.Romanization

/-!
# Paths of the planned files

A function file is named by the function without its separators, which also joins a number to
the name it was set apart from, and it shares its directory with the index of the group. So the
files of a run are apart only where the names say so; then each index leads to the function it
names.
-/
namespace ApiBindings.PlannedFile

open ServiceBuilder (underOneTag supported)

/-- The names of the files of a group without their ending. -/
def stems (group : TagGroup) : List String :=
  group.entries.map (fun entry => (functionItem entry).file) ++ ["index"]

/-- The files of a group below the project directory, without their ending. -/
def locations (group : TagGroup) : List String := (stems group).map (directory group ++ ·)

/-- No file of the groups takes the place of another: not the file of a function that of
another one or that of the index, and no file of a group that of another group. -/
structure FilesApart (groups : List TagGroup) : Prop where
  functions : ∀ group ∈ groups, (group.entries.map fun entry => (functionItem entry).file).Nodup
  index : ∀ group ∈ groups, ∀ entry ∈ group.entries, (functionItem entry).file ≠ "index"
  between : groups.Pairwise fun one other => (locations one).Disjoint (locations other)

theorem path_ofEntry (settings : Settings) (group : TagGroup) (entry : Entry) :
    (ofEntry settings group entry).path =
      directory group ++ (functionItem entry).file ++ ".ts" := by
  simp only [ofEntry, functionItem, TagGroup.language, Spelling.file_append, String.append_assoc]
  rfl

theorem paths_ofGroup (settings : Settings) (group : TagGroup) :
    (ofGroup settings group).map path = (locations group).map (· ++ ".ts") := by
  simp only [ofGroup, locations, stems, List.map_append, List.map_map, List.map_cons, List.map_nil,
    indexOf, String.append_assoc]
  congr 1
  apply List.map_congr_left
  intro entry _
  simp only [Function.comp_apply, path_ofEntry, String.append_assoc]

theorem slash_mem_locations {group : TagGroup} {location : String}
    (member : location ∈ locations group) : '/' ∈ location.toList := by
  obtain ⟨stem, _, rfl⟩ := List.mem_map.mp member
  simp [directory]

theorem nodup_stems_iff (group : TagGroup) :
    (stems group).Nodup ↔ (group.entries.map fun entry => (functionItem entry).file).Nodup ∧
      ∀ entry ∈ group.entries, (functionItem entry).file ≠ "index" := by
  simp [stems, List.nodup_append]

theorem append_left_injective (one : String) : Function.Injective (one ++ ·) := by
  intro other last same
  exact (String.append_right_inj one).mp same

theorem append_right_injective (last : String) : Function.Injective (· ++ last) := by
  intro one other same
  exact (String.append_left_inj last).mp same

theorem nodup_locations_iff (group : TagGroup) : (locations group).Nodup ↔ (stems group).Nodup :=
  List.nodup_map_iff (append_left_injective _)

theorem filesApart_iff (groups : List TagGroup) :
    FilesApart groups ↔ (groups.flatMap locations).Nodup := by
  simp only [List.nodup_flatMap, nodup_locations_iff, nodup_stems_iff]
  constructor
  · rintro ⟨functions, index, between⟩
    exact ⟨fun group member => ⟨functions group member, index group member⟩, between⟩
  · rintro ⟨inside, between⟩
    exact ⟨fun group member => (inside group member).1, fun group member => (inside group member).2,
      between⟩

/-- No path is planned twice exactly when the files of the groups are apart: the files beside
the directories of groups are not in anyone's way. -/
theorem nodup_paths_iff (settings : Settings) (declarations : List Declaration)
    (groups : List TagGroup) :
    ((plan settings declarations groups).map path).Nodup ↔ FilesApart groups := by
  have below : (groups.flatMap (ofGroup settings)).map path =
      (groups.flatMap locations).map (· ++ ".ts") := by
    simp only [List.map_flatMap, paths_ofGroup]
  -- Every path below a group holds a slash, so the two files beside the groups are never met.
  have inside : ∀ name ∈ (groups.flatMap locations).map (· ++ ".ts"), '/' ∈ name.toList := by
    intro name member
    obtain ⟨location, located, rfl⟩ := List.mem_map.mp member
    obtain ⟨group, _, located⟩ := List.mem_flatMap.mp located
    rw [String.toList_append, List.mem_append]
    exact .inl (slash_mem_locations located)
  have typings : "typings.d.ts" ∉ (groups.flatMap locations).map (· ++ ".ts") := fun member =>
    absurd (inside _ member) (by decide)
  have index : "index.ts" ∉ (groups.flatMap locations).map (· ++ ".ts") := fun member =>
    absurd (inside _ member) (by decide)
  have apart : FilesApart groups ↔ ((groups.flatMap locations).map (· ++ ".ts")).Nodup := by
    rw [filesApart_iff, List.nodup_map_iff (append_right_injective ".ts")]
  rw [plan, List.cons_append, List.map_cons, List.map_append, below, apart]
  simp only [ofDeclarations, indexOfClasses, List.map_cons, List.map_nil, List.nodup_cons,
    List.mem_append, List.mem_singleton, typings, false_or, List.nodup_append]
  constructor
  · rintro ⟨_, apart, _⟩
    exact apart
  · intro apart
    refine ⟨by decide, apart, by simp, ?_⟩
    rintro name member other rfl same
    exact index (same ▸ member)

/-- The class of a group can be read off a location in it, unless its name holds a slash. -/
theorem takeWhile_location {group : TagGroup} (plain : '/' ∉ group.className.toList)
    {location : String} (member : location ∈ locations group) :
    location.toList.takeWhile (· ≠ '/') = group.className.toList := by
  obtain ⟨stem, _, rfl⟩ := List.mem_map.mp member
  have slash : (directory group ++ stem).toList = group.className.toList ++ '/' :: stem.toList := by
    simp [directory]
  rw [slash, Text.takeWhile_append_of_notMem plain]
  simp

theorem disjoint_locations_iff {one other : TagGroup} (plain : '/' ∉ one.className.toList)
    (plain' : '/' ∉ other.className.toList) :
    (locations one).Disjoint (locations other) ↔ one.className ≠ other.className := by
  constructor
  · intro apart same
    -- Two groups of one class name meet at least in their indexes.
    have here : directory one ++ "index" ∈ locations one := by simp [locations, stems]
    have there : directory one ++ "index" ∈ locations other := by
      simp [locations, stems, directory, same]
    exact apart here there
  · intro differ location here there
    apply differ
    rw [← String.toList_inj, ← takeWhile_location plain here, ← takeWhile_location plain' there]

theorem filesApart_iff_of_plain {groups : List TagGroup}
    (plain : ∀ group ∈ groups, '/' ∉ group.className.toList) :
    FilesApart groups ↔
      (∀ group ∈ groups, (stems group).Nodup) ∧ (groups.map TagGroup.className).Nodup := by
  simp only [filesApart_iff, List.nodup_flatMap, nodup_locations_iff]
  refine and_congr_right fun _ => ?_
  rw [List.Nodup, List.pairwise_map]
  exact List.Pairwise.iff_of_mem fun here there =>
    disjoint_locations_iff (plain _ here) (plain _ there)

theorem mem_plan {settings : Settings} {declarations : List Declaration} {groups : List TagGroup}
    {group : TagGroup} {file : PlannedFile} (member : group ∈ groups)
    (planned : file ∈ ofGroup settings group) : file ∈ plan settings declarations groups := by
  rw [plan, List.cons_append]
  exact List.mem_cons_of_mem _
    (List.mem_append_left _ (List.mem_flatMap.mpr ⟨group, member, planned⟩))

theorem stems_perm {group : TagGroup} {names : List String}
    (named : (group.entries.map Entry.functionName).Perm names) :
    (stems group).Perm (names.map Spelling.file ++ ["index"]) := by
  have spelled := (named.map Spelling.file).append_right ["index"]
  rwa [List.map_map] at spelled

theorem filesApart_singleton (group : TagGroup) : FilesApart [group] ↔ (stems group).Nodup := by
  simp [filesApart_iff, nodup_locations_iff]

section

variable [Text.Romanization]

/-- The names that the operations of a document claim, group by group. -/
def claimedIn (document : LoadedDocument) (settings : Settings) :
    Option (List (List String)) := do
  let builder ← (ServiceBuilder.create document.root document.sharing settings).toOption
  let filed ← builder.collect.outcome.toOption
  return (filed.filter fun filing => !(supported filing.2).isEmpty).map fun filing =>
    builder.claimedNames (supported filing.2)

variable [TemplateEngine]

/-- A document with one group can be tried without sorting its functions. -/
theorem exists_preview_single (tree : FileTree) (document : LoadedDocument) (settings : Settings)
    (names : List String) (plain : settings.templatesFolder = none)
    (unfiltered : settings.generateApis = [])
    (resolves : (ServiceModel.ofDocument document.root document.sharing
      settings).outcome.toOption.isSome = true)
    (claims : claimedIn document settings = some [names]) :
    ∃ model kept, (ServiceModel.ofDocument document.root document.sharing settings).outcome =
        .ok model ∧
      (Generation.preview tree settings document).outcome =
        .ok ((model.plan settings).map path, kept) ∧
      (FilesApart model.groups ↔ (names.map Spelling.file ++ ["index"]).Nodup) := by
  cases resolved : (ServiceModel.ofDocument document.root document.sharing settings).outcome with
  | error failure => simp [resolved, Except.toOption] at resolves
  | ok model =>
    obtain ⟨kept, shown⟩ := Generation.exists_preview tree document plain resolved
    refine ⟨model, kept, rfl, shown, ?_⟩
    obtain ⟨builder, created, returned⟩ := ServiceModel.ofDocument_ok resolved
    have given : builder.settings = settings := ServiceBuilder.settings_of_create created
    obtain ⟨filed, collected, named⟩ :=
      ServiceBuilder.functionNames_of_run (given ▸ unfiltered) returned
    have filings : ((filed.filter fun filing => !(supported filing.2).isEmpty).map fun filing =>
        builder.claimedNames (supported filing.2)) = [names] := by
      simpa [claimedIn, created, collected, Except.toOption] using claims
    rw [filings] at named
    cases groups : model.groups with
    | nil => simp [groups] at named
    | cons group rest =>
      simp only [groups, List.forall₂_cons, List.forall₂_nil_left_iff] at named
      obtain ⟨named, rfl⟩ := named
      rw [filesApart_singleton]
      exact (stems_perm named).nodup_iff

/-- A run into memory writes no path twice exactly when the files of its groups are apart. Then
what the index of a group takes from a file is the function the file was written for. As long
as no class name holds a slash, files can meet only within a group or because two groups have
one class name. -/
theorem paths_distinct_iff_filesApart (tree : FileTree) (settings : Settings)
    (document : LoadedDocument) (paths : List String) (kept : KeptFiles)
    (returned : (Generation.preview tree settings document).outcome = .ok (paths, kept)) :
    ∃ model, (ServiceModel.ofDocument document.root document.sharing settings).outcome =
        .ok model ∧
      (paths.Nodup ↔ FilesApart model.groups) ∧
      (FilesApart model.groups → ∀ group ∈ model.groups,
        (∀ entry ∈ group.entries, ∃ text,
          (ofEntry settings group entry).finalText tree settings.templatesFolder = .ok text ∧
          kept.get? (directory group ++ (functionItem entry).file ++ ".ts") = some text) ∧
        ∃ text, (indexOf group).finalText tree settings.templatesFolder = .ok text ∧
          kept.get? (directory group ++ "index.ts") = some text) ∧
      ((∀ group ∈ model.groups, '/' ∉ group.className.toList) →
        (FilesApart model.groups ↔ (∀ group ∈ model.groups, (stems group).Nodup) ∧
          (model.groups.map TagGroup.className).Nodup)) := by
  obtain ⟨model, resolved, written, rfl⟩ := Generation.preview_ok.mp returned
  have distinctIff := nodup_paths_iff settings model.declarations model.groups
  refine ⟨model, resolved, distinctIff, fun apart group member => ?_, filesApart_iff_of_plain⟩
  -- No later file is written over one whose path is not planned twice.
  have distinct := distinctIff.mpr apart
  constructor
  · intro entry listed
    have planned : ofEntry settings group entry ∈ model.plan settings :=
      mem_plan member (List.mem_append_left _ (List.mem_map_of_mem listed))
    rw [← path_ofEntry]
    exact KeptFiles.get?_of_nodup written distinct planned
  · have planned : indexOf group ∈ model.plan settings :=
      mem_plan member (List.mem_append_right _ (List.mem_singleton_self _))
    exact KeptFiles.get?_of_nodup written distinct planned

end

attribute [local instance] TemplateEngine.verbatim

theorem paths_distinct_of_two :
    ∃ paths kept,
      (Generation.preview (.ofWorking []) (Settings.ofSource "openapi.json")
        ⟨underOneTag ["getUser", "getUser"], []⟩).outcome = .ok (paths, kept) ∧ paths.Nodup := by
  obtain ⟨model, kept, resolved, shown, apart⟩ := exists_preview_single (.ofWorking [])
    ⟨underOneTag ["getUser", "getUser"], []⟩ (Settings.ofSource "openapi.json")
    ["getUser", "getUser_2"] rfl rfl (by decide +kernel) (by decide +kernel)
  obtain ⟨same, resolved', distinct, _⟩ := paths_distinct_iff_filesApart _ _ _ _ _ shown
  obtain rfl := Except.ok.inj (resolved.symm.trans resolved')
  exact ⟨_, kept, shown, distinct.mpr (apart.mpr (by decide +kernel))⟩

/-- The second function is named `getUser_2`, and its file is named as that of the third. -/
theorem paths_meet_of_three :
    ∃ paths kept,
      (Generation.preview (.ofWorking []) (Settings.ofSource "openapi.json")
        ⟨underOneTag ["getUser", "getUser", "getUser2"], []⟩).outcome = .ok (paths, kept) ∧
      ¬ paths.Nodup := by
  obtain ⟨model, kept, _, shown, apart⟩ := exists_preview_single (.ofWorking [])
    ⟨underOneTag ["getUser", "getUser", "getUser2"], []⟩ (Settings.ofSource "openapi.json")
    ["getUser", "getUser_2", "getUser2"] rfl rfl (by decide +kernel) (by decide +kernel)
  refine ⟨_, kept, shown, fun distinct => ?_⟩
  have meet := apart.mp ((nodup_paths_iff _ _ _).mp distinct)
  exact absurd meet (by decide +kernel)

end ApiBindings.PlannedFile
