import ApiBindings.Proofs.Document.Members
import ApiBindings.Service.Entry

/-!
# Where parameters come from

The parameters of an entry are read off the parameter objects of its operation, location by
location. Only the placeholders of the path that none of these is named after are added.
-/
namespace ApiBindings.Parameter

variable {context : SchemaContext}

/-- The parameters that are not declared are among the given ones. -/
theorem subset_of_notDeclared {declared : List (Scalar × Scalar)} {parameters found : List Node}
    (made : (notDeclared context declared parameters).outcome = .ok found) :
    found ⊆ parameters := by
  induction parameters generalizing found with
  | nil =>
    obtain rfl := Except.ok.inj made
    exact List.Subset.refl _
  | cons parameter rest ih =>
    rw [notDeclared, Attempt.outcome_bind_ok] at made
    obtain ⟨resolved, _, made⟩ := made
    have kept {found : List Node} (made : (do
        return parameter :: (← notDeclared context declared rest) : Attempt (List Node)).outcome =
          .ok found) : found ⊆ parameter :: rest := by
      simp only [Attempt.outcome_bind_ok, Attempt.outcome_pure, Except.ok.injEq] at made
      obtain ⟨others, made, rfl⟩ := made
      exact List.cons_subset_cons _ (ih made)
    cases resolved with
    | object members =>
      rw [Attempt.outcome_bind_ok] at made
      obtain ⟨name, _, made⟩ := made
      split at made
      · exact List.Subset.trans (ih made) (List.subset_cons_self ..)
      · exact kept made
    | _ => exact kept made

/-- The parameters of an operation are its own and some of those of its path. -/
theorem ofOperation_ok {operation : Operation} {nodes : List Node}
    (collected : (ofOperation context operation).outcome = .ok nodes) :
    ∃ own shared, (operation.field "parameters").elementsOrNone = .ok own ∧
      (Members.field operation.pathItem "parameters").elementsOrNone = .ok shared ∧
      nodes ⊆ own ++ shared := by
  simp only [ofOperation, Attempt.outcome_bind_ok, Attempt.outcome_misfit, Attempt.mapError_ok,
    Attempt.outcome_pure, Except.ok.injEq] at collected
  obtain ⟨own, taken, declared, _, shared, taken', others, left, rfl⟩ := collected
  refine ⟨own, shared, taken, taken', fun node member => ?_⟩
  rcases List.mem_append.mp member with member | member
  · exact List.mem_append_left _ member
  · exact List.mem_append_right _ (subset_of_notDeclared left member)

/-- What a parameter is sent as. -/
def Alike (one other : Parameter) : Prop :=
  one.name = other.name ∧ one.type = other.type ∧ one.required = other.required

theorem mem_addPlaceholders {group : List Parameter} {names : List String} {parameter : Parameter}
    (member : parameter ∈ addPlaceholders group names) :
    parameter ∈ group ∨ ∃ name ∈ names, parameter = ofPlaceholder name ∧
      ∀ other ∈ group, other.name ≠ name := by
  -- A placeholder that was added counts as one of the group for those behind it.
  induction names generalizing group with
  | nil => exact .inl member
  | cons name rest ih =>
    rw [addPlaceholders] at member
    split at member
    · rcases ih member with known | ⟨other, among, same, absent⟩
      · exact .inl known
      · exact .inr ⟨other, List.mem_cons_of_mem _ among, same, absent⟩
    · rename_i absent
      have absent : ∀ other ∈ group, other.name ≠ name := by simpa using absent
      rcases ih member with known | ⟨other, among, same, absent'⟩
      · rcases List.mem_append.mp known with known | added
        · exact .inl known
        · exact .inr ⟨name, by simp, List.mem_singleton.mp added, absent⟩
      · exact .inr ⟨other, List.mem_cons_of_mem _ among, same, fun parameter known =>
          absent' parameter (List.mem_append_left _ known)⟩

theorem mem_set {location : ParameterLocation} {group : List Parameter} {groups : ParameterGroups}
    {filled : ParameterLocation × List Parameter}
    (member : filled ∈ groups.set location group) :
    filled ∈ groups ∨ filled = (location, group) := by
  induction groups with
  | nil => exact .inr (List.mem_singleton.mp member)
  | cons first rest ih =>
    obtain ⟨other, old⟩ := first
    rw [ParameterGroups.set] at member
    split at member
    · rename_i same
      rcases List.mem_cons.mp member with rfl | later
      · exact .inr (same ▸ rfl)
      · exact .inl (List.mem_cons_of_mem _ later)
    · rcases List.mem_cons.mp member with rfl | later
      · exact .inl List.mem_cons_self
      · exact (ih later).imp_left (List.mem_cons_of_mem _)

section

variable [Text.Romanization]

/-- What is said of a parameter that is read off an object. -/
theorem ofMembers_ok {location : ParameterLocation} {members : Members} {parameter : Parameter}
    (read : (ofMembers context location members).outcome = .ok parameter) :
    parameter.name = (Members.field members "name").display ∧
      parameter.required = (Members.field members "required" == .bool true) ∧
      (context.typeText (.object (schemaOf members))).outcome = .ok parameter.type := by
  simp only [ofMembers, Attempt.outcome_bind_ok, Attempt.outcome_pure, Except.ok.injEq] at read
  obtain ⟨_, _, type, described, rfl⟩ := read
  exact ⟨rfl, rfl, described⟩

/-- The objects that nodes lead to. -/
def LeadsTo (context : SchemaContext) (nodes : List Node) (members : Members) : Prop :=
  ∃ node ∈ nodes, (context.resolve node).outcome = .ok (.object members)

/-- The parameters of a location are those read off the objects that are sent there. -/
structure Reads (context : SchemaContext) (nodes : List Node) (location : ParameterLocation)
    (group : List Parameter) : Prop where
  each : ∀ members, LeadsTo context nodes members →
    Members.field members "in" = .text location.word →
    ∃ parameter ∈ group, (ofMembers context location members).outcome = .ok parameter
  only : ∀ parameter ∈ group, ∃ members, LeadsTo context nodes members ∧
    Members.field members "in" = .text location.word ∧
    (ofMembers context location members).outcome = .ok parameter

theorem reads_of_atLocation {nodes resolved : List Node} {location : ParameterLocation}
    {group : List Parameter}
    (followed : List.Forall₂ (fun node reached => (context.resolve node).outcome = .ok reached)
      nodes resolved)
    (read : (atLocation context (resolved.filterMap Node.members?) location).outcome = .ok group) :
    Reads context nodes location group := by
  have all := (Attempt.outcome_mapM_ok ..).mp read
  constructor
  · rintro members ⟨node, among, leads⟩ sent
    obtain ⟨reached, found, same⟩ := exists_of_forall₂ followed among
    obtain rfl := Except.ok.inj (leads.symm.trans same)
    refine exists_of_forall₂ all (List.mem_filter.mpr ⟨?_, by simp [sent]⟩)
    exact List.mem_filterMap.mpr ⟨_, found, rfl⟩
  · intro parameter member
    obtain ⟨members, kept, made⟩ := exists_of_forall₂ all.flip member
    obtain ⟨found, sent⟩ := List.mem_filter.mp kept
    obtain ⟨reached, among, held⟩ := List.mem_filterMap.mp found
    obtain rfl := Node.members?_eq_some.mp held
    obtain ⟨node, among, leads⟩ := exists_of_forall₂ followed.flip among
    exact ⟨members, ⟨node, among, leads⟩, by simpa using sent, made⟩

/-- The group of each location. -/
def byLocation (query path cookie : List Parameter) : ParameterLocation → List Parameter
  | .query => query
  | .path => path
  | .cookie => cookie

/-- The groups of the locations that have parameters. -/
def filled (group : ParameterLocation → List Parameter) : ParameterGroups :=
  (ParameterLocation.all.map fun location => (location, group location)).filter fun filling =>
    !filling.2.isEmpty

omit [Text.Romanization] in
theorem group_filled (group : ParameterLocation → List Parameter) :
    (filled group).group .path = group .path := by
  unfold filled ParameterLocation.all ParameterGroups.group
  cases query : group .query <;> cases path : group .path <;> cases cookie : group .cookie <;>
    simp [List.filter, query, path, cookie] <;> rfl

/-- Parameters are read location by location, in order; then those of placeholders are put in the
path. -/
theorem groups_read {nodes : List Node} {path : String} {groups : ParameterGroups}
    (grouped : (Parameter.groups context nodes path).outcome = .ok groups) :
    ∃ (resolved : List Node) (group : ParameterLocation → List Parameter),
      List.Forall₂ (fun node reached => (context.resolve node).outcome = .ok reached) nodes
        resolved ∧
      (∀ location, (atLocation context (resolved.filterMap Node.members?) location).outcome =
        .ok (group location)) ∧
      let inPath := addPlaceholders (group .path) (placeholders path.toList)
      groups = if inPath.isEmpty then filled group else (filled group).set .path inPath := by
  simp only [Parameter.groups, Attempt.outcome_bind_ok, Attempt.outcome_mapM_ok,
    Attempt.outcome_pure, Except.ok.injEq] at grouped
  obtain ⟨resolved, followed, found, all, rfl⟩ := grouped
  -- There are three locations, so what was found for all of them is three groups.
  unfold ParameterLocation.all at all
  obtain _ | ⟨query, _ | ⟨path, _ | ⟨cookie, ⟨⟩⟩⟩⟩ := all
  obtain ⟨inQuery, query, rfl⟩ := query
  obtain ⟨inPath, path, rfl⟩ := path
  obtain ⟨inCookie, cookie, rfl⟩ := cookie
  refine ⟨resolved, byLocation inQuery inPath inCookie, followed, ?_, ?_⟩
  · intro location
    cases location with
    | query => exact query
    | path => exact path
    | cookie => exact cookie
  · have listed : filled (byLocation inQuery inPath inCookie) =
      [(.query, inQuery), (.path, inPath), (.cookie, inCookie)].filter fun filling =>
        !filling.2.isEmpty := rfl
    have same := group_filled (byLocation inQuery inPath inCookie)
    rw [listed] at same ⊢
    rw [same]

theorem groups_ok {nodes : List Node} {path : String} {groups : ParameterGroups}
    (grouped : (Parameter.groups context nodes path).outcome = .ok groups) :
    ∃ group : ParameterLocation → List Parameter,
      (∀ location, Reads context nodes location (group location)) ∧
      let inPath := addPlaceholders (group .path) (placeholders path.toList)
      groups = if inPath.isEmpty then filled group else (filled group).set .path inPath := by
  obtain ⟨resolved, group, followed, read, made⟩ := groups_read grouped
  exact ⟨group, fun location => reads_of_atLocation followed (read location), made⟩

/-- No location is listed without parameters. -/
theorem ne_nil_of_groups {nodes : List Node} {path : String} {groups : ParameterGroups}
    (grouped : (Parameter.groups context nodes path).outcome = .ok groups)
    {location : ParameterLocation} {group : List Parameter} (held : (location, group) ∈ groups) :
    group ≠ [] := by
  obtain ⟨group', _, rfl⟩ := groups_ok grouped
  have ofFilled (known : (location, group) ∈ filled group') : group ≠ [] := by
    simpa using (List.mem_filter.mp known).2
  split at held
  · exact ofFilled held
  · rename_i some
    rcases mem_set held with known | same
    · exact ofFilled known
    · obtain ⟨rfl, rfl⟩ := Prod.mk.inj same
      simpa using some

/-- Where the parameters of an operation come from: each is read off a resolved parameter object,
or stands for a placeholder that none of those in the path is named after. -/
theorem mem_groups {nodes : List Node} {path : String} {groups : ParameterGroups}
    (grouped : (Parameter.groups context nodes path).outcome = .ok groups)
    {location : ParameterLocation} {group : List Parameter} (held : (location, group) ∈ groups)
    {parameter : Parameter} (member : parameter ∈ group) :
    (∃ members, LeadsTo context nodes members ∧
      Members.field members "in" = .text location.word ∧
      (ofMembers context location members).outcome = .ok parameter) ∨
    ∃ name ∈ placeholders path.toList, parameter = ofPlaceholder name ∧
      ∀ members, LeadsTo context nodes members →
        Members.field members "in" = .text ParameterLocation.path.word →
        (Members.field members "name").display ≠ name := by
  obtain ⟨group', reads, rfl⟩ := groups_ok grouped
  have ofFilled (known : (location, group) ∈ filled group') :
      ∃ members, LeadsTo context nodes members ∧
        Members.field members "in" = .text location.word ∧
        (ofMembers context location members).outcome = .ok parameter := by
    obtain ⟨_, _, same⟩ := List.mem_map.mp (List.mem_filter.mp known).1
    obtain ⟨rfl, rfl⟩ := Prod.mk.inj same
    exact (reads _).only parameter member
  -- A placeholder is added only where no parameter that was read has its name.
  split at held
  · exact .inl (ofFilled held)
  · rcases mem_set held with known | same
    · exact .inl (ofFilled known)
    · obtain ⟨rfl, rfl⟩ := Prod.mk.inj same
      rcases mem_addPlaceholders member with known | ⟨name, among, same, absent⟩
      · exact .inl ((reads .path).only parameter known)
      · refine .inr ⟨name, among, same, fun members leads sent named => ?_⟩
        obtain ⟨other, known, read⟩ := (reads .path).each members leads sent
        exact absent other known ((ofMembers_ok read).1.trans named)

end

theorem alike_withAliases (group : List Parameter) :
    List.Forall₂ Alike group (ServicePath.withAliases group) := by
  refine List.forall₂_iff_get.mpr ⟨by simp [ServicePath.withAliases], fun position _ _ => ?_⟩
  simp [ServicePath.withAliases, Alike]

/-- Aliases and marks aside, an entry has the parameters that are read. -/
theorem alike_of_finishParameters {groups : ParameterGroups} {location : ParameterLocation}
    {group : List Parameter}
    (held : (location, group) ∈ ServiceBuilder.finishParameters groups) :
    ∃ group', (location, group') ∈ groups ∧ List.Forall₂ Alike group' group := by
  obtain ⟨⟨_, aliased⟩, inside, same⟩ := List.mem_map.mp held
  obtain ⟨⟨place, read⟩, known, same'⟩ := List.mem_map.mp inside
  obtain ⟨rfl, rfl⟩ := Prod.mk.inj same
  obtain ⟨rfl, rfl⟩ := Prod.mk.inj same'
  refine ⟨read, known, ?_⟩
  have unchanged (group : List Parameter) : List.Forall₂ Alike group group :=
    List.forall₂_same.mpr fun _ _ => ⟨rfl, rfl, rfl⟩
  -- Only the parameters in the path get aliases, and only those in the query get marks.
  cases place with
  | path => simpa using alike_withAliases read
  | cookie => simpa using unchanged read
  | query =>
    simp only [reduceCtorEq, if_false, if_true]
    exact List.forall₂_map_right_iff.mpr (unchanged read)

end ApiBindings.Parameter
