import ApiBindings.Operation
import ApiBindings.Reference.Resolution
import ApiBindings.Proofs.Outcome

/-!
# Parts of a document

A member that is put in a place or behind the others changes no look-up of another key. Whatever
is read off a node, as a member, as an item or as an operation, holds no pointer that the node does
not hold. The objects of a document have each key once, as those of a data file do.
-/
namespace ApiBindings

theorem Scalar.same_self (value : Scalar) : value.same value = true := by
  cases value <;> simp [Scalar.same]

theorem Scalar.eq_text_of_same {key : Scalar} {name : String}
    (same : (Scalar.text name).same key = true) : key = .text name := by
  cases key <;> simp_all [Scalar.same]

namespace Members

theorem get?_cons (name : Scalar) (value : Node) (rest : Members) (key : String) :
    get? ((name, value) :: rest) key = if name = .text key then some value else get? rest key := by
  by_cases same : name = .text key <;> simp [get?, same]

theorem get?_insert (members : Members) (key other : String) (value : Node) :
    (members.insert (.text key) value).get? other =
      if other = key then some value else members.get? other := by
  induction members with
  | nil =>
    rw [insert, get?_cons]
    by_cases same : other = key
    · simp [same]
    · simp [get?, same, Ne.symm same]
  | cons first rest ih =>
    obtain ⟨name, node⟩ := first
    rw [insert, get?_cons]
    by_cases same : name = .text key
    · subst same
      by_cases wanted : other = key
      · simp [Scalar.same, get?_cons, wanted]
      · simp [Scalar.same, get?_cons, wanted, Ne.symm wanted]
    · have differs : name.same (.text key) = false := by
        cases name <;> simp_all [Scalar.same]
      by_cases wanted : other = key
      · subst wanted
        simp [differs, get?_cons, same, ih]
      · simp [differs, get?_cons, ih, wanted]

theorem get?_insert_of_ne {members : Members} {key : Scalar} {name : String}
    (other : key ≠ .text name) (value : Node) :
    (members.insert key value).get? name = members.get? name := by
  induction members with
  | nil => rw [insert, get?_cons, if_neg other]
  | cons first rest ih =>
    rw [insert]
    split
    · -- The member that takes the value has another key too.
      rename_i same
      have differs : first.1 ≠ .text name := fun named =>
        other (Scalar.eq_text_of_same (named ▸ same))
      rw [get?_cons, get?_cons, if_neg differs, if_neg differs]
    · rw [get?_cons, get?_cons, ih]

theorem mem_insert {members : Members} {key : Scalar} {value : Node} {member : Scalar × Node}
    (among : member ∈ members.insert key value) : member.2 = value ∨ member ∈ members := by
  induction members with
  | nil =>
    obtain rfl := List.mem_singleton.mp among
    exact .inl rfl
  | cons first rest ih =>
    rw [insert] at among
    split at among
    · rcases List.mem_cons.mp among with rfl | later
      · exact .inl rfl
      · exact .inr (List.mem_cons_of_mem _ later)
    · rcases List.mem_cons.mp among with rfl | later
      · exact .inr List.mem_cons_self
      · exact (ih later).imp id (List.mem_cons_of_mem _)

theorem mem_keys_insert {members : Members} {key other : Scalar} {value : Node}
    (among : other ∈ (members.insert key value).map (·.1)) :
    other = key ∨ other ∈ members.map (·.1) := by
  induction members with
  | nil => simpa [insert] using among
  | cons first rest ih =>
    rw [insert] at among
    split at among
    · exact .inr among
    · rw [List.map_cons, List.mem_cons] at among ⊢
      exact among.elim (.inr ∘ .inl) fun later => (ih later).imp_right .inr

/-- A member takes the place of one with the same key, or its key was not there. -/
theorem nodup_insert {members : Members} (distinct : (members.map (·.1)).Nodup) (key : Scalar)
    (value : Node) : ((members.insert key value).map (·.1)).Nodup := by
  induction members with
  | nil => simp [insert]
  | cons first rest ih =>
    rw [List.map_cons, List.nodup_cons] at distinct
    rw [insert]
    split
    · exact List.nodup_cons.mpr distinct
    · rename_i differs
      refine List.nodup_cons.mpr ⟨fun among => ?_, ih distinct.2⟩
      rcases mem_keys_insert among with same | later
      · exact differs (same ▸ Scalar.same_self _)
      · exact distinct.1 later

theorem get?_append (members more : Members) (key : String) :
    get? (members ++ more) key = (members.get? key).or (more.get? key) := by
  induction members with
  | nil => rfl
  | cons first rest ih =>
    obtain ⟨name, node⟩ := first
    rw [List.cons_append, get?_cons, get?_cons, ih]
    split <;> rfl

theorem field_insert (members : Members) (key other : String) (value : Node) :
    (members.insert (.text key) value).field other =
      if other = key then value else members.field other := by
  rw [field, get?_insert]
  split <;> rfl

/-- A member that is looked up is one of the members. -/
theorem mem_of_get? {members : Members} {key : String} {value : Node}
    (found : members.get? key = some value) : (.text key, value) ∈ members := by
  induction members with
  | nil => simp [get?] at found
  | cons first rest ih =>
    obtain ⟨name, node⟩ := first
    rw [get?_cons] at found
    split at found
    · rename_i same
      obtain rfl := Option.some.inj found
      simp [same]
    · exact List.mem_cons_of_mem _ (ih found)

/-- Of members with distinct keys, each is the one that is looked up. -/
theorem get?_of_mem {members : Members} (distinct : (members.map (·.1)).Nodup) {key : String}
    {value : Node} (member : (.text key, value) ∈ members) : members.get? key = some value := by
  induction members with
  | nil => simp at member
  | cons first rest ih =>
    obtain ⟨name, node⟩ := first
    obtain ⟨fresh, distinct⟩ := List.nodup_cons.mp distinct
    rw [get?_cons]
    rcases List.mem_cons.mp member with same | later
    · obtain ⟨rfl, rfl⟩ := Prod.mk.inj same
      simp
    · have other : name ≠ .text key := by
        rintro rfl
        exact fresh (List.mem_map.mpr ⟨_, later, rfl⟩)
      rw [if_neg other, ih distinct later]

end Members

namespace Node

theorem members?_eq_some {node : Node} {members : Members} :
    node.members? = some members ↔ node = .object members := by
  cases node <;> simp [members?]

theorem exists_of_isObject {node : Node} (isObject : node.isObject) :
    ∃ members, node = .object members := by
  obtain ⟨members, held⟩ := Option.isSome_iff_exists.mp isObject
  exact ⟨members, members?_eq_some.mp held⟩

theorem references_subset_of_mem {members : Members} {key : Scalar} {value : Node}
    (member : (key, value) ∈ members) : value.references ⊆ referencesOfMembers members := by
  induction members with
  | nil => simp at member
  | cons first rest ih =>
    obtain ⟨name, node⟩ := first
    intro pointer written
    rw [referencesOfMembers, List.mem_append]
    rcases List.mem_cons.mp member with same | later
    · obtain ⟨rfl, rfl⟩ := Prod.mk.inj same
      exact .inl written
    · exact .inr (ih later written)

theorem referencesOfMembers_subset (members : Members) :
    referencesOfMembers members ⊆ (Node.object members).references :=
  List.subset_append_right _ _

theorem references_members_field (members : Members) (key : String) :
    (members.field key).references ⊆ referencesOfMembers members := by
  cases found : members.get? key with
  | none => simp [Members.field, found, references]
  | some value =>
    simpa [Members.field, found] using references_subset_of_mem (Members.mem_of_get? found)

theorem references_field (node : Node) (key : String) :
    (node.field key).references ⊆ node.references := by
  cases node with
  | object members =>
    have same : (Node.object members).field key = Members.field members key := rfl
    rw [same]
    exact List.Subset.trans (references_members_field members key)
      (referencesOfMembers_subset members)
  | _ => simp [field, get?, members?, references]

theorem references_valueOf (members : Members) (key : Scalar) :
    (members.valueOf key).references ⊆ referencesOfMembers members := by
  unfold Members.valueOf
  cases found : members.find? fun member => member.1.same key with
  | none => simp [references]
  | some member => simpa using references_subset_of_mem (List.mem_of_find?_eq_some found)

theorem references_of_item {items : List Node} {item : Node} (member : item ∈ items) :
    item.references ⊆ (Node.list items).references := by
  obtain ⟨position, found⟩ := List.getElem?_of_mem member
  exact references_subset_of_item items position item found

/-- The values that a node holds one after the other are parts of it or hold no pointer. -/
theorem references_of_elements {node item : Node} {items : List Node}
    (taken : node.elements = .ok items) (member : item ∈ items) :
    item.references ⊆ node.references := by
  unfold elements at taken
  split at taken
  · obtain rfl := Except.ok.inj taken
    exact references_of_item member
  · obtain rfl := Except.ok.inj taken
    obtain ⟨_, _, rfl⟩ := List.mem_map.mp member
    simp [references]
  · obtain rfl := Except.ok.inj taken
    obtain ⟨_, _, rfl⟩ := List.mem_map.mp member
    simp [references]
  · simp at taken

theorem references_of_elementsOrNone {node item : Node} {items : List Node}
    (taken : node.elementsOrNone = .ok items) (member : item ∈ items) :
    item.references ⊆ node.references := by
  unfold elementsOrNone at taken
  split at taken
  · exact references_of_elements taken member
  · obtain rfl := Except.ok.inj taken
    simp at member

theorem references_of_listed {members : Members} {key : String} {item : Node} {items : List Node}
    (taken : (Members.field members key).elementsOrNone = .ok items) (member : item ∈ items) :
    item.references ⊆ referencesOfMembers members :=
  List.Subset.trans (references_of_elementsOrNone taken member)
    (references_members_field members key)

theorem references_of_ask {node next : Node} {key : String} (asked : node.ask key = .ok next) :
    next.references ⊆ node.references := by
  cases node with
  | object members =>
    obtain rfl := Except.ok.inj asked
    exact references_field (.object members) key
  | _ => cases asked

/-- Members that are collected from a list of pairs hold what the pairs hold. -/
theorem references_of_collectPairs {items : List Node} {members collected : Members} {index : Nat}
    {pointers : List String} (taken : collectPairs index members items = .ok collected)
    (inItems : ∀ item ∈ items, item.references ⊆ pointers)
    (before : ∀ member ∈ members, member.2.references ⊆ pointers) :
    ∀ member ∈ collected, member.2.references ⊆ pointers := by
  induction items generalizing index members with
  | nil =>
    obtain rfl := Except.ok.inj taken
    exact before
  | cons item rest ih =>
    simp only [collectPairs, bind, Except.bind] at taken
    cases parts : item.elements with
    | error reason => simp [parts] at taken
    | ok values =>
      rw [parts] at taken
      dsimp only at taken
      split at taken
      · rename_i key value
        cases named : key.asKey with
        | error reason => simp [named] at taken
        | ok name =>
          rw [named] at taken
          refine ih taken (fun other later => inItems other (List.mem_cons_of_mem _ later)) ?_
          intro member among
          rcases Members.mem_insert among with rfl | earlier
          · exact List.Subset.trans (references_of_elements parts (by simp))
              (inItems item List.mem_cons_self)
          · exact before member earlier
      · cases taken

theorem references_of_pairs {node : Node} {members : Members} (taken : node.pairs = .ok members)
    {member : Scalar × Node} (among : member ∈ members) :
    member.2.references ⊆ node.references := by
  have listed {items : List Node} (parts : node.elements = .ok items)
      (taken : collectPairs 0 [] items = .ok members) : member.2.references ⊆ node.references :=
    references_of_collectPairs taken (fun item inside => references_of_elements parts inside)
      (by simp) member among
  cases node with
  | object own =>
    obtain rfl := Except.ok.inj taken
    exact List.Subset.trans (references_subset_of_mem among) (referencesOfMembers_subset own)
  | list items => exact listed rfl taken
  | scalar value =>
    cases parts : (Node.scalar value).elements with
    | error reason => simp [pairs, parts, bind, Except.bind] at taken
    | ok items =>
      refine listed parts ?_
      simpa [pairs, parts, bind, Except.bind] using taken

end Node

namespace Document

/-- Only a text key names a path. -/
theorem pathOfMember_ok (member : Scalar × Node) (path : String × Node) :
    (match member.1 with
      | .text name => .ok (name, member.2)
      | other => .error (.noMember other.kind "split") : Except Misfit (String × Node)) =
      .ok path ↔ member = (.text path.1, path.2) := by
  obtain ⟨key, item⟩ := member
  cases key <;> simp [Prod.ext_iff]

/-- The paths of a document are the members below its `paths`, which have text keys. -/
theorem paths_ok {document : Node} {paths : List (String × Node)} :
    Document.paths document = .ok paths ↔ ∃ members, document = .object members ∧
      (Members.field members "paths").membersOrNone "keys" =
        .ok (paths.map fun path => (.text path.1, path.2)) := by
  cases document with
  | object members =>
    simp only [Document.paths, Node.ask, bind, Except.bind, Node.object.injEq, exists_eq_left']
    cases (Members.field members "paths").membersOrNone "keys" with
    | error reason => simp
    | ok items =>
      -- The members are read one by one, so both sides are a relation between two lists.
      simp only [Except.ok.injEq, exceptMapM_ok]
      rw [← List.forall₂_eq_eq_eq, List.forall₂_map_right_iff]
      constructor
      · exact fun all => all.imp fun member path => (pathOfMember_ok member path).mp
      · exact fun all => all.imp fun member path => (pathOfMember_ok member path).mpr
  | _ => simp [Document.paths, Node.ask, bind, Except.bind]

/-- An operation of a document. -/
def HasOperation (document : Node) (operation : Operation) : Prop :=
  ∃ operations, Document.operations document = .ok operations ∧ operation ∈ operations

theorem HasOperation.eq_only {document : Node} {operation only : Operation}
    (among : HasOperation document operation)
    (listed : Document.operations document = .ok [only]) : operation = only := by
  obtain ⟨operations, listed', member⟩ := among
  obtain rfl := Except.ok.inj (listed.symm.trans listed')
  exact List.mem_singleton.mp member

/-- An operation is a method of the item of a path. -/
theorem operations_ok {document : Node} {operations : List Operation} :
    Document.operations document = .ok operations ↔ ∃ paths, Document.paths document = .ok paths ∧
      operations = paths.flatMap fun path => Operation.ofPath path.1 path.2 := by
  unfold Document.operations
  cases Document.paths document with
  | error reason => simp [bind, Except.bind]
  | ok paths => simp [bind, Except.bind, pure, Except.pure, eq_comm]

/-- The members below the `paths` of a document; none if there is no such object. -/
def pathItems (document : Node) : Members := (document.field "paths").members?.getD []

/-- Whether the paths of a document are an object, as they are if it has any. -/
def HasPaths (document : Node) : Prop := document.get? "paths" = some (.object (pathItems document))

/-- The items of a document are the members of its paths, in order. -/
theorem pathItems_eq {document : Node} {paths : List (String × Node)}
    (given : Document.paths document = .ok paths) :
    pathItems document = paths.map fun path => (.text path.1, path.2) := by
  obtain ⟨members, rfl, listed⟩ := paths_ok.mp given
  have same : (Node.object members).field "paths" = Members.field members "paths" := rfl
  rw [pathItems, same]
  unfold Node.membersOrNone at listed
  -- An object holds its members; any other node is read as no paths at all, or not read.
  cases held : Members.field members "paths" with
  | object items =>
    rw [held] at listed
    have same : items = paths.map fun path => (.text path.1, path.2) := by
      cases items <;> simpa [Node.isPresent] using listed
    exact same
  | _ =>
    rw [held] at listed
    split at listed
    · simp at listed
    · simpa [Node.members?] using listed

theorem hasPaths_of_mem {document : Node} {paths : List (String × Node)}
    (given : Document.paths document = .ok paths) (some : paths ≠ []) : HasPaths document := by
  have items := pathItems_eq given
  unfold pathItems Node.field at items
  unfold HasPaths pathItems Node.field
  cases held : document.get? "paths" with
  | none => simp [held, Node.members?, some] at items
  | some node =>
    cases node with
    | object members => simp [Node.members?]
    | _ => simp [held, Node.members?, some] at items

/-- The component schemas are read off the components, if there are any. -/
theorem schemas_ok {document : Node} {schemas : Members} :
    Document.schemas document = .ok schemas ↔ ∃ components,
      document.ask "components" = .ok components ∧ ∃ held,
      (if components.isPresent then components.ask "schemas" else .ok .null) = .ok held ∧
      (if held.isPresent then held.pairs else .ok []) = .ok schemas := by
  unfold Document.schemas
  cases document.ask "components" with
  | error reason => simp [bind, Except.bind]
  | ok components =>
    cases some : components.isPresent with
    | false => simp [some, bind, Except.bind, pure, Except.pure]
    | true =>
      cases asked : components.ask "schemas" with
      | error reason => simp [some, asked, bind, Except.bind]
      | ok held => simp [some, asked, bind, Except.bind, pure, Except.pure]

theorem references_of_schemas {document : Node} {schemas : Members}
    (listed : Document.schemas document = .ok schemas) {schema : Scalar × Node}
    (among : schema ∈ schemas) : schema.2.references ⊆ document.references := by
  obtain ⟨components, asked, held, asked', taken⟩ := schemas_ok.mp listed
  have outer := Node.references_of_ask asked
  split at taken
  · have inner := Node.references_of_pairs taken among
    split at asked'
    · have between := Node.references_of_ask asked'
      exact List.Subset.trans inner (List.Subset.trans between outer)
    · obtain rfl := Except.ok.inj asked'
      exact List.Subset.trans inner (List.nil_subset _)
  · obtain rfl := Except.ok.inj taken
    cases among

end Document

theorem Operation.mem_ofPath {path : String} {item : Node} {operation : Operation} :
    operation ∈ Operation.ofPath path item ↔ item = .object operation.pathItem ∧
      operation.path = path ∧ operation.method ∈ Operation.methods ∧
      Members.field operation.pathItem operation.method = .object operation.fields := by
  obtain ⟨ownPath, method, own, pathItem⟩ := operation
  cases item with
  | object members =>
    simp only [ofPath, List.mem_filterMap, Option.map_eq_some_iff, Node.members?_eq_some,
      Operation.mk.injEq, Node.object.injEq]
    constructor
    · rintro ⟨_, listed, _, held, rfl, rfl, rfl, rfl⟩
      exact ⟨rfl, rfl, listed, held⟩
    · rintro ⟨rfl, rfl, listed, held⟩
      exact ⟨method, listed, own, held, rfl, rfl, rfl, rfl⟩
  | _ => simp [ofPath]

/-- What stands in an operation or in its path item stands in the document. -/
theorem Document.references_of_operations {document : Node} {operations : List Operation}
    (listed : Document.operations document = .ok operations) {operation : Operation}
    (member : operation ∈ operations) :
    (Node.object operation.fields).references ⊆ document.references ∧
      (Node.object operation.pathItem).references ⊆ document.references := by
  obtain ⟨paths, given, rfl⟩ := operations_ok.mp listed
  obtain ⟨⟨path, item⟩, held, member⟩ := List.mem_flatMap.mp member
  obtain ⟨rfl, rfl, _, found⟩ := Operation.mem_ofPath.mp member
  have listed := hasPaths_of_mem given (List.ne_nil_of_mem held)
  have entry : (.text operation.path, .object operation.pathItem) ∈ pathItems document := by
    rw [pathItems_eq given]
    exact List.mem_map_of_mem held
  have pathItem : (Node.object operation.pathItem).references ⊆ document.references := by
    have below : (Node.object (pathItems document)).references ⊆ document.references := by
      have paths : document.field "paths" = .object (pathItems document) := by
        rw [Node.field, listed]
        rfl
      rw [← paths]
      exact Node.references_field document "paths"
    exact List.Subset.trans (Node.references_subset_of_mem entry)
      (List.Subset.trans (Node.referencesOfMembers_subset _) below)
  refine ⟨?_, pathItem⟩
  rw [← found]
  exact List.Subset.trans (Node.references_field (.object operation.pathItem) operation.method)
    pathItem

/-- A parameter of an operation or of its path. -/
def Document.IsParameter (operation : Operation) (parameter : Node) : Prop :=
  ∃ parameters, parameter ∈ parameters ∧
    ((operation.field "parameters").elementsOrNone = .ok parameters ∨
      (Members.field operation.pathItem "parameters").elementsOrNone = .ok parameters)

theorem Document.isParameter_of_taken {operation : Operation} {own shared : List Node}
    (taken : (operation.field "parameters").elementsOrNone = .ok own)
    (taken' : (Members.field operation.pathItem "parameters").elementsOrNone = .ok shared)
    {parameter : Node} (among : parameter ∈ own ++ shared) : IsParameter operation parameter := by
  rcases List.mem_append.mp among with inOwn | inShared
  · exact ⟨own, inOwn, .inl taken⟩
  · exact ⟨shared, inShared, .inr taken'⟩

theorem Document.references_of_isParameter {document : Node} {operation : Operation}
    (among : HasOperation document operation) {parameter : Node}
    (declared : IsParameter operation parameter) :
    parameter.references ⊆ document.references := by
  obtain ⟨operations, listed, member⟩ := among
  obtain ⟨fields, pathItem⟩ := references_of_operations listed member
  obtain ⟨parameters, member, own | shared⟩ := declared
  · exact List.Subset.trans (Node.references_of_listed own member)
      (List.Subset.trans (Node.referencesOfMembers_subset _) fields)
  · exact List.Subset.trans (Node.references_of_listed shared member)
      (List.Subset.trans (Node.referencesOfMembers_subset _) pathItem)

/-- A node whose objects have each key once. -/
inductive Node.KeysOnce : Node → Prop
  | scalar (value : Scalar) : KeysOnce (.scalar value)
  | list (items : List Node) (inside : ∀ item ∈ items, KeysOnce item) : KeysOnce (.list items)
  | object (members : List (Scalar × Node)) (distinct : (members.map (·.1)).Nodup)
      (inside : ∀ member ∈ members, KeysOnce member.2) : KeysOnce (.object members)

theorem Node.keysOnce_list {items : List Node} :
    (Node.list items).KeysOnce ↔ ∀ item ∈ items, item.KeysOnce := by
  refine ⟨fun keys => ?_, .list items⟩
  cases keys with
  | list _ inside => exact inside

theorem Node.keysOnce_object {members : Members} :
    (Node.object members).KeysOnce ↔
      (members.map (·.1)).Nodup ∧ ∀ member ∈ members, member.2.KeysOnce := by
  refine ⟨fun keys => ?_, fun ⟨distinct, inside⟩ => .object members distinct inside⟩
  cases keys with
  | object _ distinct inside => exact ⟨distinct, inside⟩

theorem Node.KeysOnce.insert {members : Members} (keys : (Node.object members).KeysOnce)
    (key : Scalar) {value : Node} (inside : value.KeysOnce) :
    (Node.object (members.insert key value)).KeysOnce := by
  rw [Node.keysOnce_object] at keys ⊢
  refine ⟨Members.nodup_insert keys.1 key value, fun member among => ?_⟩
  rcases Members.mem_insert among with same | old
  · rwa [same]
  · exact keys.2 member old

theorem Node.KeysOnce.pathItems {document : Node} (keys : document.KeysOnce) :
    ((Document.pathItems document).map (·.1)).Nodup := by
  unfold Document.pathItems
  cases held : (document.field "paths").members? with
  | none => exact List.nodup_nil
  | some items =>
    obtain isObject := Node.members?_eq_some.mp held
    cases keys with
    | scalar value => cases isObject
    | list listed inside => cases isObject
    | object members distinct inside =>
      have field : Members.field members "paths" = .object items := isObject
      unfold Members.field at field
      cases found : Members.get? members "paths" with
      | none => simp [found] at field
      | some node =>
        obtain rfl : node = .object items := by simpa [found] using field
        cases inside _ (Members.mem_of_get? found) with
        | object _ distinct _ => exact distinct

end ApiBindings
