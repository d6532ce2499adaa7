import ApiBindings.Service.Group
import ApiBindings.Proofs.Outcome
import ApiBindings.Proofs.Sorting

/-!
# Runs for some of the paths

Whether an operation is wanted is asked of its finished entry, when its name is claimed and its
alias is recorded. So a run for some of the paths makes every step of the run for all of them,
fails where that run fails, and differs only in what the groups keep.
-/
namespace ApiBindings

/-- The group with those of its entries that are wanted, unless there are none. -/
def TagGroup.keep? (wanted : List String) (group : TagGroup) : Option TagGroup :=
  let entries := group.entries.filter fun entry => ServicePath.isWanted wanted entry.path
  if entries.isEmpty then none else some { group with entries := entries }

namespace ServiceBuilder

/-- What a run returns: the groups or the failure that ended it, and the recorded aliases. -/
abbrev RunResult := Except Failure (List TagGroup) × List GatewayMapping

/-- What is left of a run when only some of the paths are wanted. -/
def keepWanted (wanted : List String) : RunResult → RunResult
  | (outcome, mappings) =>
    (outcome.map fun groups => groups.filterMap (TagGroup.keep? wanted), mappings)

/-- The builder that generates the wanted paths, all if none are listed. -/
def wanting (builder : ServiceBuilder) (wanted : List String) : ServiceBuilder :=
  { builder with settings := { builder.settings with generateApis := wanted } }

variable (builder : ServiceBuilder) (wanted : List String)

theorem create_wanting (document : Node) (sharing : Sharing) (settings : Settings) :
    create document sharing { settings with generateApis := wanted } =
      (create document sharing settings).map fun builder => builder.wanting wanted := by
  have chosen : ({ settings with generateApis := wanted } : Settings).namer document =
    settings.namer document := rfl
  unfold create
  rw [chosen]
  cases settings.namer document <;> rfl

variable [Text.Romanization]

/-- Entries are built without asking what is wanted. -/
theorem entriesOf_wanting (tag : String) (operations : List Operation) (progress : Progress) :
    (builder.wanting wanted).entriesOf tag operations progress =
      builder.entriesOf tag operations progress := by
  induction operations generalizing progress with
  | nil => rfl
  | cons operation rest ih =>
    have first : (builder.wanting wanted).entry tag operation progress =
      builder.entry tag operation progress := rfl
    simp only [entriesOf, first, ih]

omit [Text.Romanization] in
theorem isEmpty_sortByPath (entries : List Entry) :
    (sortByPath entries).isEmpty = entries.isEmpty :=
  (Text.sortBy_perm Entry.path entries).isEmpty_eq

omit [Text.Romanization] in
theorem group?_wanting_nil (tag : String) (entries : List Entry) :
    (builder.wanting []).group? tag entries =
      if entries.isEmpty then none
      else some ⟨builder.namer.className tag (Spelling.className tag),
        Spelling.lowerFirst (Spelling.className tag), sortByPath entries⟩ := by
  have all : (entries.filter fun entry => ServicePath.isWanted [] entry.path) = entries := by
    simp [ServicePath.isWanted]
  simp only [group?, wanting, all]

omit [Text.Romanization] in
/-- A group keeps the same entries whether they are left out before sorting or after it. -/
theorem group?_wanting (tag : String) (entries : List Entry) :
    (builder.wanting wanted).group? tag entries =
      ((builder.wanting []).group? tag entries).bind (TagGroup.keep? wanted) := by
  have kept : (sortByPath entries).filter (fun entry => ServicePath.isWanted wanted entry.path) =
      sortByPath (entries.filter fun entry => ServicePath.isWanted wanted entry.path) :=
    Text.filter_sortBy ..
  rw [group?_wanting_nil]
  cases nothing : entries.isEmpty with
  | true => simp [List.isEmpty_iff.mp nothing, group?]
  | false => simp [TagGroup.keep?, kept, isEmpty_sortByPath, group?, wanting]

/-- Group by group, a run for some paths keeps what is wanted of the run for all. -/
theorem groupsOf_wanting (filed : List (String × List Operation))
    (mappings : List GatewayMapping) :
    (builder.wanting wanted).groupsOf filed mappings =
      keepWanted wanted <$> (builder.wanting []).groupsOf filed mappings := by
  -- Whatever is wanted, the entries of a group and the aliases behind it are the same, so both runs
  -- reach the next group alike.
  induction filed generalizing mappings with
  | nil => rfl
  | cons first rest ih =>
    obtain ⟨tag, operations⟩ := first
    simp only [groupsOf, entriesOf_wanting, map_bind]
    congr 1
    funext built
    obtain ⟨outcome, progress⟩ := built
    cases outcome with
    | error failure => rfl
    | ok entries =>
      simp only [ih, group?_wanting builder wanted, map_bind, bind_map_left]
      congr 1
      funext returned
      obtain ⟨outcome, mappings⟩ := returned
      cases outcome with
      | error failure => rfl
      | ok groups =>
        cases (builder.wanting []).group? tag entries with
        | none => rfl
        | some group =>
          cases made : group.keep? wanted <;> simp [keepWanted, made, Except.map]

/-- Two runs over one document that differ in the wanted paths alone, where one of them wants all,
are both started or fail alike, and make the same remarks. The run for some paths fails where the
other fails and records the same aliases; of the groups of the other it keeps, in order and
unchanged, the entries with a wanted path, and it leaves out a group that keeps none. -/
theorem groups_of_wanted (document : Node) (sharing : Sharing) (settings : Settings)
    (wanted : List String) :
    (create document sharing { settings with generateApis := wanted }).map groups =
      (create document sharing { settings with generateApis := [] }).map fun builder =>
        keepWanted wanted <$> builder.groups := by
  rw [create_wanting wanted, create_wanting []]
  cases create document sharing settings with
  | error reason => rfl
  | ok builder =>
    have collected : (builder.wanting wanted).collect = (builder.wanting []).collect := rfl
    simp only [Except.map, groups, collected, map_bind]
    congr 2
    funext filed
    cases filed with
    | error failure => rfl
    | ok filed => exact groupsOf_wanting builder wanted filed []

end ServiceBuilder

end ApiBindings
