import ApiBindings.Proofs.Service.Parameters
import ApiBindings.Proofs.Service.Template
import ApiBindings.Proofs.Text.Romanization

/-!
# Groups of parameters

The parameters of an operation are its own ones and those of its path that it does not declare. Each
location gets the ones that are sent there, in this order, and the path gets one more for each
placeholder that none of them is named after. Nothing is lost, doubled or moved on the way, and no
location is listed without parameters.
-/
namespace ApiBindings

/-- Whether two nodes stand for one key. -/
def Node.sameKey : Node → Node → Bool
  | .scalar one, .scalar other => one.same other
  | _, _ => false

namespace Parameter

variable {context : SchemaContext}

/-- Nodes and what they lead to, in order. -/
abbrev AllLead (context : SchemaContext) : List Node → List Node → Prop :=
  List.Forall₂ fun node reached => (context.resolve node).outcome = .ok reached

/-- Whether two parameters have one name and one location. -/
def sameParameter (one other : Members) : Bool :=
  (one.field "name").sameKey (other.field "name") && (one.field "in").sameKey (other.field "in")

/-- The parameters that an operation has: its own, and those of its path that it does not declare
itself. -/
def applying (own shared : List Members) : List Members :=
  own ++ shared.filter fun parameter => !own.any (sameParameter parameter)

/-- The parameters that are sent at a location. -/
def sentAt (location : ParameterLocation) (parameters : List Members) : List Members :=
  parameters.filter fun parameter => parameter.field "in" == .text location.word

/-! ## Placeholders -/

/-- The name of the placeholder that a text begins with. -/
def placeholderAt? : List Char → Option String
  | '\x7b' :: rest => (placeholderName? rest).map String.ofList
  | _ => none

/-- The placeholders of a path are those that begin at its characters, from left to right. -/
theorem placeholders_eq (text : List Char) :
    placeholders text = text.tails.filterMap placeholderAt? := by
  induction text with
  | nil => rfl
  | cons c rest ih =>
    rw [List.tails_cons, placeholders, ih]
    -- A placeholder is looked for behind every brace, also behind one inside of another.
    by_cases brace : c = '\x7b'
    · subst brace
      have begins : placeholderAt? ('\x7b' :: rest) =
          (placeholderName? rest).map String.ofList := rfl
      cases named : placeholderName? rest with
      | none =>
        rw [named] at begins
        simp [List.filterMap_cons_none begins]
      | some name =>
        rw [named] at begins
        simp [List.filterMap_cons_some begins]
    · have begins : placeholderAt? (c :: rest) = none := by
        unfold placeholderAt?
        split
        · rename_i same
          exact absurd (List.cons.inj same).1 brace
        · rfl
      rw [if_neg brace, List.filterMap_cons_none begins]

/-- Whether none of the parameters has this name. -/
def isUnnamed (parameters : List Parameter) (name : String) : Bool :=
  parameters.all fun parameter => parameter.name != name

/-- The placeholders of a path that none of the parameters is named after, each once, in the order
in which they first occur. -/
def unnamed (parameters : List Parameter) (path : String) : List String :=
  ((path.toList.tails.filterMap placeholderAt?).filter (isUnnamed parameters)).eraseDups

/-- The parameters declared for a location, with those of the placeholders of the path. -/
def completed (path : String) (location : ParameterLocation) (declared : List Parameter) :
    List Parameter :=
  if location = .path then declared ++ (unnamed declared path).map ofPlaceholder else declared

theorem addPlaceholders_eq (group : List Parameter) (names : List String) :
    addPlaceholders group names =
      group ++ ((names.filter (isUnnamed group)).eraseDups.map ofPlaceholder) := by
  induction names generalizing group with
  | nil => simp [addPlaceholders]
  | cons name rest ih =>
    rw [addPlaceholders]
    by_cases named : group.any fun parameter => parameter.name == name
    · have passed : ¬ isUnnamed group name = true := by simpa [isUnnamed] using named
      rw [if_pos named, ih, List.filter_cons_of_neg passed]
    · have kept : isUnnamed group name = true := by simpa [isUnnamed] using named
      -- What is added here counts as one of the group for the names behind it.
      have longer : isUnnamed (group ++ [ofPlaceholder name]) =
          fun other => !other == name && isUnnamed group other := by
        funext other
        have same : (name != other) = !other == name := by rw [bne, BEq.comm]
        simp [isUnnamed, ofPlaceholder, same, Bool.and_comm]
      rw [if_neg named, ih, List.filter_cons_of_pos kept, List.eraseDups_cons, List.filter_filter,
        longer, List.map_cons, List.append_assoc, List.singleton_append]

theorem completed_of_ne {location : ParameterLocation} (elsewhere : location ≠ .path)
    (path : String) (declared : List Parameter) : completed path location declared = declared :=
  if_neg elsewhere

theorem completed_inPath (path : String) (group : List Parameter) :
    completed path .path group = addPlaceholders group (placeholders path.toList) := by
  rw [addPlaceholders_eq, placeholders_eq, completed, if_pos rfl, unnamed]

/-! ## Parameters of an operation -/

theorem identity_ok {parameter : Members} {name place : Scalar}
    (identified : identity parameter = .ok (name, place)) :
    parameter.field "name" = .scalar name ∧ parameter.field "in" = .scalar place := by
  have key {node : Node} {value : Scalar} (taken : node.asKey = .ok value) :
      node = .scalar value := by
    cases node with
    | scalar other => exact congrArg Node.scalar (Except.ok.inj taken)
    | _ => cases taken
  unfold identity at identified
  cases named : (parameter.field "name").asKey with
  | error reason => simp [named, bind, Except.bind] at identified
  | ok first =>
    cases placed : (parameter.field "in").asKey with
    | error reason => simp [named, placed, bind, Except.bind] at identified
    | ok second =>
      simp only [named, placed, bind, Except.bind, pure, Except.pure, Except.ok.injEq,
        Prod.mk.injEq] at identified
      obtain ⟨rfl, rfl⟩ := identified
      exact ⟨key named, key placed⟩

theorem sameIdentity_eq {one other : Members} {first second : Scalar × Scalar}
    (identified : identity one = .ok first) (identified' : identity other = .ok second) :
    sameIdentity first second = sameParameter one other := by
  obtain ⟨name, place⟩ := identity_ok identified
  obtain ⟨name', place'⟩ := identity_ok identified'
  rw [sameParameter, name, place, name', place']
  rfl

/-- The identities are those of the objects that the parameters lead to. -/
theorem identities_ok {nodes : List Node} {identified : List (Scalar × Scalar)}
    (listed : (identities context nodes).outcome = .ok identified) :
    ∃ resolved, AllLead context nodes resolved ∧
      List.Forall₂ (fun parameter named => identity parameter = .ok named)
        (resolved.filterMap Node.members?) identified := by
  induction nodes generalizing identified with
  | nil =>
    obtain rfl := Except.ok.inj listed
    exact ⟨[], .nil, .nil⟩
  | cons node rest ih =>
    rw [identities, Attempt.outcome_bind_ok] at listed
    obtain ⟨reached, leads, listed⟩ := listed
    cases reached with
    | object members =>
      simp only [Attempt.outcome_bind_ok, Attempt.outcome_misfit, Attempt.mapError_ok,
        Attempt.outcome_pure, Except.ok.injEq] at listed
      obtain ⟨named, identified, others, listed, rfl⟩ := listed
      obtain ⟨resolved, lead, same⟩ := ih listed
      exact ⟨.object members :: resolved, .cons leads lead, .cons identified same⟩
    | _ =>
      obtain ⟨resolved, lead, same⟩ := ih listed
      exact ⟨_ :: resolved, .cons leads lead, same⟩

theorem any_identity_eq {own : List Members} {declared : List (Scalar × Scalar)}
    (identified : List.Forall₂ (fun parameter named => identity parameter = .ok named) own declared)
    {parameter : Members} {named : Scalar × Scalar} (identified' : identity parameter = .ok named) :
    declared.any (sameIdentity named) = own.any (sameParameter parameter) := by
  induction identified with
  | nil => rfl
  | cons first _ ih => rw [List.any_cons, List.any_cons, ih, sameIdentity_eq identified' first]

theorem filterMap_members?_cons (members : Members) (nodes : List Node) :
    (Node.object members :: nodes).filterMap Node.members? =
      members :: nodes.filterMap Node.members? := rfl

/-- What is left of the parameters of a path is what the operation does not declare, in order. -/
theorem notDeclared_ok {own : List Members} {declared : List (Scalar × Scalar)}
    (identified : List.Forall₂ (fun parameter named => identity parameter = .ok named) own declared)
    {nodes found : List Node} (made : (notDeclared context declared nodes).outcome = .ok found) :
    ∃ resolved kept, AllLead context nodes resolved ∧ AllLead context found kept ∧
      kept.filterMap Node.members? = (resolved.filterMap Node.members?).filter fun parameter =>
        !own.any (sameParameter parameter) := by
  induction nodes generalizing found with
  | nil =>
    obtain rfl := Except.ok.inj made
    exact ⟨[], [], .nil, .nil, rfl⟩
  | cons node rest ih =>
    rw [notDeclared, Attempt.outcome_bind_ok] at made
    obtain ⟨reached, leads, made⟩ := made
    cases reached with
    | object members =>
      simp only [Attempt.outcome_bind_ok, Attempt.outcome_misfit, Attempt.mapError_ok] at made
      obtain ⟨named, identified', made⟩ := made
      have same := any_identity_eq identified identified'
      split at made
      · rename_i known
        obtain ⟨resolved, kept, lead, lead', equal⟩ := ih made
        refine ⟨.object members :: resolved, kept, .cons leads lead, lead', ?_⟩
        rw [equal, filterMap_members?_cons, List.filter_cons_of_neg (by simp [← same, known])]
      · rename_i new
        simp only [Attempt.outcome_bind_ok, Attempt.outcome_pure, Except.ok.injEq] at made
        obtain ⟨others, made, rfl⟩ := made
        obtain ⟨resolved, kept, lead, lead', equal⟩ := ih made
        refine ⟨.object members :: resolved, .object members :: kept, .cons leads lead,
          .cons leads lead', ?_⟩
        rw [filterMap_members?_cons, equal, filterMap_members?_cons,
          List.filter_cons_of_pos (by simp [← same, new])]
    -- What is no object has no identity and is kept, but no group reads it.
    | _ =>
      simp only [Attempt.outcome_bind_ok, Attempt.outcome_pure, Except.ok.injEq] at made
      obtain ⟨others, made, rfl⟩ := made
      obtain ⟨resolved, kept, lead, lead', equal⟩ := ih made
      exact ⟨_ :: resolved, _ :: kept, .cons leads lead, .cons leads lead', equal⟩

/-- The parameters of an operation are its own and those of its path that it does not declare, each
as it is written in the document. -/
theorem ofOperation_read {operation : Operation} {nodes : List Node}
    (collected : (ofOperation context operation).outcome = .ok nodes) :
    ∃ own shared ownReached sharedReached reached,
      (operation.field "parameters").elementsOrNone = .ok own ∧
      (Members.field operation.pathItem "parameters").elementsOrNone = .ok shared ∧
      AllLead context own ownReached ∧ AllLead context shared sharedReached ∧
      AllLead context nodes reached ∧
      reached.filterMap Node.members? = applying (ownReached.filterMap Node.members?)
        (sharedReached.filterMap Node.members?) := by
  simp only [ofOperation, Attempt.outcome_bind_ok, Attempt.outcome_misfit, Attempt.mapError_ok,
    Attempt.outcome_pure, Except.ok.injEq] at collected
  obtain ⟨own, taken, declared, listed, shared, taken', others, left, rfl⟩ := collected
  obtain ⟨ownReached, lead, identified⟩ := identities_ok listed
  obtain ⟨sharedReached, kept, lead', lead'', same⟩ := notDeclared_ok identified left
  refine ⟨own, shared, ownReached, sharedReached, ownReached ++ kept, taken, taken', lead, lead',
    List.rel_append lead lead'', ?_⟩
  rw [List.filterMap_append, same, applying]

/-! ## Locations -/

theorem lookup_filled (group : ParameterLocation → List Parameter) (location : ParameterLocation) :
    (filled group).lookup location =
      if (group location).isEmpty then none else some (group location) := by
  unfold filled ParameterLocation.all
  cases query : group .query <;> cases path : group .path <;> cases cookie : group .cookie <;>
    cases location <;> simp [List.filter, query, path, cookie] <;> rfl

theorem lookup_set (groups : ParameterGroups) (location other : ParameterLocation)
    (group : List Parameter) :
    (groups.set location group).lookup other =
      if other = location then some group else groups.lookup other := by
  induction groups with
  | nil =>
    by_cases same : other = location
    · simp [ParameterGroups.set, same]
    · simp [ParameterGroups.set, List.lookup_cons, beq_false_of_ne same, same]
  | cons first rest ih =>
    obtain ⟨place, old⟩ := first
    rw [ParameterGroups.set]
    split
    · rename_i here
      subst here
      by_cases same : other = place
      · simp [same]
      · simp [List.lookup_cons, beq_false_of_ne same, same]
    · rename_i elsewhere
      rw [List.lookup_cons, ih, List.lookup_cons]
      by_cases same : other = place
      · subst same
        simp [elsewhere]
      · simp [beq_false_of_ne same]

theorem nodup_set {groups : ParameterGroups} (distinct : (groups.map (·.1)).Nodup)
    (location : ParameterLocation) (group : List Parameter) :
    ((groups.set location group).map (·.1)).Nodup := by
  induction groups with
  | nil => simp [ParameterGroups.set]
  | cons first rest ih =>
    obtain ⟨place, old⟩ := first
    obtain ⟨fresh, distinct'⟩ := List.nodup_cons.mp distinct
    rw [ParameterGroups.set]
    split
    · exact distinct
    · rename_i elsewhere
      refine List.nodup_cons.mpr ⟨fun again => ?_, ih distinct'⟩
      obtain ⟨filling, member, same⟩ := List.mem_map.mp again
      rcases mem_set member with known | rfl
      · exact fresh (List.mem_map.mpr ⟨filling, known, same⟩)
      · exact elsewhere same.symm

theorem nodup_filled (group : ParameterLocation → List Parameter) :
    ((filled group).map (·.1)).Nodup := by
  have all : ((ParameterLocation.all.map fun location => (location, group location)).map
      (·.1)).Nodup := by
    rw [List.map_map]
    exact (by decide : ParameterLocation.all.Nodup)
  exact all.sublist (List.filter_sublist.map _)

section

variable [Text.Romanization]

/-- The parameters of an operation by location. Each location has the parameters that are sent there
in the order in which they apply; those of the path are followed by one for each placeholder that
none of them is named after. A location is listed, once, exactly if it has parameters. -/
theorem groups_of_operation {operation : Operation} {nodes : List Node} {path : String}
    {groups : ParameterGroups} (collected : (ofOperation context operation).outcome = .ok nodes)
    (grouped : (Parameter.groups context nodes path).outcome = .ok groups) :
    ∃ own shared ownReached sharedReached,
      (operation.field "parameters").elementsOrNone = .ok own ∧
      (Members.field operation.pathItem "parameters").elementsOrNone = .ok shared ∧
      AllLead context own ownReached ∧ AllLead context shared sharedReached ∧
      (groups.map (·.1)).Nodup ∧
      ∀ location, ∃ declared,
        List.Forall₂ (fun members parameter =>
          (ofMembers context location members).outcome = .ok parameter)
          (sentAt location (applying (ownReached.filterMap Node.members?)
            (sharedReached.filterMap Node.members?))) declared ∧
        groups.lookup location =
          if (completed path location declared).isEmpty then none
          else some (completed path location declared) := by
  obtain ⟨own, shared, ownReached, sharedReached, reached, taken, taken', lead, lead', lead'',
    applies⟩ := ofOperation_read collected
  obtain ⟨resolved, group, followed, read, made⟩ := groups_read grouped
  -- The nodes are resolved once to be told apart and once to be grouped, with the same result.
  have functional : Relator.RightUnique fun (node reached : Node) =>
      (context.resolve node).outcome = .ok reached :=
    fun _ _ _ one other => Except.ok.inj (one.symm.trans other)
  obtain rfl := functional.forall₂ followed lead''
  rw [← completed_inPath] at made
  refine ⟨own, shared, ownReached, sharedReached, taken, taken', lead, lead', ?_,
    fun location => ⟨group location, ?_, ?_⟩⟩
  · rw [made]
    split
    · exact nodup_filled group
    · exact nodup_set (nodup_filled group) _ _
  · rw [sentAt, ← applies]
    exact (Attempt.outcome_mapM_ok ..).mp (read location)
  · rw [made]
    by_cases inPath : location = .path
    · subst inPath
      split
      · rename_i none
        have nothing : group .path = [] := by
          simp only [completed, if_pos, List.isEmpty_iff, List.append_eq_nil_iff] at none
          exact none.1
        rw [lookup_filled, nothing]
        rfl
      · exact lookup_set _ _ _ _
    · rw [completed_of_ne inPath]
      split
      · exact lookup_filled group location
      · rw [lookup_set, if_neg inPath]
        exact lookup_filled group location

end

/-- A parameter object of this name that is sent at this location. -/
def parameterObject (name location type : String) : Node :=
  .object [(.text "name", .text name), (.text "in", .text location),
    (.text "schema", .object [(.text "type", .text type)])]

/-- An operation that declares one of the three parameters of its path again. -/
def pagedOperation : Operation where
  path := "/users/\x7bid\x7d/\x7bpart\x7d/\x7bid\x7d"
  method := "get"
  fields := [(.text "parameters", .list [parameterObject "page" "query" "integer"])]
  pathItem := [(.text "parameters", .list [parameterObject "page" "query" "string",
    parameterObject "id" "path" "string", parameterObject "trace" "header" "string"])]

/-- The names and types of parameters by location. -/
def namesAndTypes (groups : ParameterGroups) :
    List (ParameterLocation × List (String × String)) :=
  groups.map fun filling =>
    (filling.1, filling.2.map fun parameter => (parameter.name, parameter.type))

theorem groups_of_pagedOperation :
    ∃ nodes groups, (ofOperation ⟨.object [], "API"⟩ pagedOperation).outcome = .ok nodes ∧
      (Parameter.groups ⟨.object [], "API"⟩ nodes pagedOperation.path).outcome = .ok groups ∧
      namesAndTypes groups =
        [(.query, [("page", "number")]), (.path, [("id", "string"), ("part", "string")])] ∧
      (groups.map (·.1)).Nodup ∧
      ∀ location, ∃ declared, groups.lookup location =
        if (completed pagedOperation.path location declared).isEmpty then none
        else some (completed pagedOperation.path location declared) := by
  have collected : (ofOperation ⟨.object [], "API"⟩ pagedOperation).outcome =
      .ok [parameterObject "page" "query" "integer", parameterObject "id" "path" "string",
        parameterObject "trace" "header" "string"] := by decide +kernel
  have named : (Parameter.groups ⟨.object [], "API"⟩ [parameterObject "page" "query" "integer",
      parameterObject "id" "path" "string", parameterObject "trace" "header" "string"]
      pagedOperation.path).outcome.toOption.map namesAndTypes =
        some [(.query, [("page", "number")]), (.path, [("id", "string"), ("part", "string")])] := by
    decide +kernel
  cases grouped : (Parameter.groups ⟨.object [], "API"⟩ [parameterObject "page" "query" "integer",
      parameterObject "id" "path" "string", parameterObject "trace" "header" "string"]
      pagedOperation.path).outcome with
  | error failure => simp [grouped, Except.toOption] at named
  | ok groups =>
    obtain ⟨_, _, _, _, _, _, _, _, distinct, each⟩ := groups_of_operation collected grouped
    rw [grouped] at named
    refine ⟨_, groups, collected, grouped, Option.some.inj named, distinct, fun location => ?_⟩
    obtain ⟨declared, _, found⟩ := each location
    exact ⟨declared, found⟩

end Parameter

end ApiBindings
