import ApiBindings.Proofs.Document.Members
import Mathlib.Data.List.Perm.Basic

/-!
# Documents with members in another order

The members of one object of a document may come in another order. Looking up a key does not see
that, so only what stands on the way to this object changes at all, and it changes to an object
again. The component schemas and the paths are read off such an object: they come in another order
and stay the same otherwise.
-/
namespace ApiBindings

/-- Work on the items of a list in another order has the same results in another order. -/
theorem exists_forall₂_of_perm {α β : Type} {related : α → β → Prop} {items items' : List α}
    {results : List β} (moved : items.Perm items') (all : List.Forall₂ related items results) :
    ∃ results', List.Forall₂ related items' results' ∧ results.Perm results' := by
  obtain ⟨results', all', moved'⟩ := List.perm_comp_forall₂ moved.symm all
  exact ⟨results', all', moved'.symm⟩

theorem Members.get?_of_perm {members members' : Members} (moved : members.Perm members')
    (distinct : (members.map (·.1)).Nodup) (key : String) :
    members.get? key = members'.get? key := by
  have distinct' : (members'.map (·.1)).Nodup := (moved.map _).nodup_iff.mp distinct
  ext value
  constructor
  · exact fun found => get?_of_mem distinct' (moved.subset (mem_of_get? found))
  · exact fun found => get?_of_mem distinct (moved.symm.subset (mem_of_get? found))

namespace Node

/-- Two nodes that differ at most in the order of the members of the object at one place. -/
inductive ReordersAt : List String → Node → Node → Prop
  | same (place : List String) (node : Node) : ReordersAt place node node
  | here {members members' : Members} (moved : members.Perm members')
      (distinct : (members.map (·.1)).Nodup) : ReordersAt [] (.object members) (.object members')
  | within {key : String} {place : List String} {before after : Members} {node node' : Node}
      (first : before.get? key = none) (inside : ReordersAt place node node') :
      ReordersAt (key :: place) (.object (before ++ (.text key, node) :: after))
        (.object (before ++ (.text key, node') :: after))

namespace ReordersAt

variable {place : List String} {node node' : Node}

theorem symm (reorders : ReordersAt place node node') : ReordersAt place node' node := by
  induction reorders with
  | same place node => exact .same place node
  | here moved distinct => exact .here moved.symm ((moved.map _).nodup_iff.mp distinct)
  | within first _ ih => exact .within first ih

theorem eq_or_isObject (reorders : ReordersAt place node node') :
    node = node' ∨ node.isObject ∧ node'.isObject := by
  cases reorders with
  | same => exact .inl rfl
  | here => exact .inr ⟨rfl, rfl⟩
  | within => exact .inr ⟨rfl, rfl⟩

theorem text?_eq (reorders : ReordersAt place node node') : node.text? = node'.text? := by
  cases reorders <;> rfl

theorem isPresent_eq (reorders : ReordersAt place node node') :
    node.isPresent = node'.isPresent := by
  cases reorders with
  | same => rfl
  | here moved => simp [isPresent, moved.isEmpty_eq]
  | @within _ _ before => cases before <;> rfl

/-- What is looked up is the same, or it is on the way to the place. -/
theorem get?_cases (reorders : ReordersAt place node node') (key : String) :
    node.get? key = node'.get? key ∨ ∃ rest next next', place = key :: rest ∧
      node.get? key = some next ∧ node'.get? key = some next' ∧ ReordersAt rest next next' := by
  cases reorders with
  | same => exact .inl rfl
  | here moved distinct => exact .inl (Members.get?_of_perm moved distinct key)
  | @within name rest before after next next' first inside =>
    -- Members beside the one on the way are looked up in both objects alike.
    by_cases wanted : name = key
    · subst wanted
      refine .inr ⟨rest, next, next', rfl, ?_, ?_, inside⟩
      · simp [get?, members?, Members.get?_append, first, Members.get?_cons]
      · simp [get?, members?, Members.get?_append, first, Members.get?_cons]
    · refine .inl ?_
      simp [get?, members?, Members.get?_append, Members.get?_cons, wanted]

theorem get?_eq (reorders : ReordersAt place node node') {key : String}
    (elsewhere : place.head? ≠ some key) : node.get? key = node'.get? key := by
  rcases reorders.get?_cases key with same | ⟨rest, _, _, rfl, _⟩
  · exact same
  · exact absurd rfl elsewhere

theorem ask_eq (reorders : ReordersAt place node node') {key : String}
    (elsewhere : place.head? ≠ some key) : node.ask key = node'.ask key := by
  have same := reorders.get?_eq elsewhere
  rcases reorders.eq_or_isObject with rfl | ⟨isObject, isObject'⟩
  · rfl
  · obtain ⟨members, rfl⟩ := exists_of_isObject isObject
    obtain ⟨members', rfl⟩ := exists_of_isObject isObject'
    exact congrArg (fun found => Except.ok (found.getD null)) same

theorem ask_ok {key : String} (reorders : ReordersAt (key :: place) node node') {next : Node}
    (asked : node.ask key = .ok next) :
    ∃ next', node'.ask key = .ok next' ∧ ReordersAt place next next' := by
  rcases reorders.eq_or_isObject with rfl | ⟨isObject, isObject'⟩
  · exact ⟨next, asked, .same place next⟩
  obtain ⟨members, rfl⟩ := exists_of_isObject isObject
  obtain ⟨members', rfl⟩ := exists_of_isObject isObject'
  obtain rfl := Except.ok.inj asked
  refine ⟨_, rfl, ?_⟩
  rcases reorders.get?_cases key with same | ⟨rest, held, held', onWay, found, found', inside⟩
  · have same : Members.get? members key = Members.get? members' key := same
    rw [Members.field, Members.field, same]
    exact .same _ _
  · have found : Members.get? members key = some held := found
    have found' : Members.get? members' key = some held' := found'
    obtain ⟨_, rfl⟩ := List.cons.inj onWay
    rw [Members.field, Members.field, found, found']
    exact inside

theorem localReference?_eq (reorders : ReordersAt place node node') :
    node.localReference? = node'.localReference? := by
  have same : (node.get? "$ref").bind text? = (node'.get? "$ref").bind text? := by
    rcases reorders.get?_cases "$ref" with same | ⟨_, _, _, _, found, found', inside⟩
    · rw [same]
    · rw [found, found']
      exact inside.text?_eq
  rw [localReference?, localReference?, same]

theorem mem_referencesOfMembers {members : Members} {pointer : String} :
    pointer ∈ referencesOfMembers members ↔ ∃ member ∈ members, pointer ∈ member.2.references := by
  induction members with
  | nil => simp [referencesOfMembers]
  | cons first rest ih => simp [referencesOfMembers, ih]

/-- Both nodes hold the same pointers. -/
theorem references_subset (reorders : ReordersAt place node node') :
    node.references ⊆ node'.references := by
  induction reorders with
  | same => exact List.Subset.refl _
  | here moved distinct =>
    have same := localReference?_eq (here moved distinct)
    intro pointer written
    rw [references, same, List.mem_append, mem_referencesOfMembers] at written
    rw [references, List.mem_append, mem_referencesOfMembers]
    refine written.imp id ?_
    rintro ⟨member, held, inside⟩
    exact ⟨member, moved.subset held, inside⟩
  | @within key place before after node node' first inside ih =>
    have same := localReference?_eq (@within key place before after node node' first inside)
    intro pointer written
    rw [references, same, List.mem_append, mem_referencesOfMembers] at written
    rw [references, List.mem_append, mem_referencesOfMembers]
    refine written.imp id ?_
    rintro ⟨member, held, inside⟩
    -- Of all members one has changed, and for this one the induction hypothesis holds.
    rcases List.mem_append.mp held with earlier | later
    · exact ⟨member, List.mem_append_left _ earlier, inside⟩
    · rcases List.mem_cons.mp later with rfl | later
      · exact ⟨_, List.mem_append_right _ List.mem_cons_self, ih inside⟩
      · exact ⟨member, List.mem_append_right _ (List.mem_cons_of_mem _ later), inside⟩

theorem pairs_ok (reorders : ReordersAt [] node node') {members : Members}
    (taken : node.pairs = .ok members) :
    ∃ members', node'.pairs = .ok members' ∧ members.Perm members' := by
  cases reorders with
  | same => exact ⟨members, taken, .refl members⟩
  | here moved =>
    obtain rfl := Except.ok.inj taken
    exact ⟨_, rfl, moved⟩

theorem membersOrNone_ok (reorders : ReordersAt [] node node') {wanted : String}
    {members : Members} (taken : node.membersOrNone wanted = .ok members) :
    ∃ members', node'.membersOrNone wanted = .ok members' ∧ members.Perm members' := by
  have present := reorders.isPresent_eq
  cases reorders with
  | same => exact ⟨members, taken, .refl members⟩
  | here moved =>
    rw [membersOrNone] at taken ⊢
    rw [← present]
    cases some : (object _).isPresent with
    | true =>
      rw [some, if_pos rfl] at taken
      obtain rfl := Except.ok.inj taken
      exact ⟨_, rfl, moved⟩
    | false =>
      rw [some, if_neg Bool.false_ne_true] at taken
      exact ⟨members, taken, .refl members⟩

end ReordersAt

end Node

namespace Document

open Node

variable {document document' : Node}

/-- The components of a document do not depend on the order of anything else. -/
theorem schemas_eq {place : List String} (reorders : ReordersAt place document document')
    (elsewhere : place.head? ≠ some "components") :
    Document.schemas document = Document.schemas document' := by
  rw [Document.schemas, Document.schemas, reorders.ask_eq elsewhere]

theorem paths_eq {place : List String} (reorders : ReordersAt place document document')
    (elsewhere : place.head? ≠ some "paths") :
    Document.paths document = Document.paths document' := by
  rw [Document.paths, Document.paths, reorders.ask_eq elsewhere]

theorem exists_schemas (reorders : ReordersAt ["components", "schemas"] document document')
    {schemas : Members} (listed : Document.schemas document = .ok schemas) :
    ∃ schemas', Document.schemas document' = .ok schemas' ∧ schemas.Perm schemas' := by
  -- The place is two steps down. Each of them is only taken where there is something at all, which
  -- the order does not change.
  obtain ⟨components, asked, held, asked', taken⟩ := schemas_ok.mp listed
  obtain ⟨components', given, inside⟩ := reorders.ask_ok asked
  obtain ⟨held', given', inside'⟩ : ∃ held',
      (if components'.isPresent then components'.ask "schemas" else .ok .null) = .ok held' ∧
        ReordersAt [] held held' := by
    rw [← inside.isPresent_eq]
    split at asked'
    · rename_i some
      rw [if_pos some]
      exact inside.ask_ok asked'
    · rename_i none
      rw [if_neg none]
      exact ⟨held, asked', .same [] held⟩
  obtain ⟨schemas', taken', moved⟩ : ∃ schemas',
      (if held'.isPresent then held'.pairs else .ok []) = .ok schemas' ∧
        schemas.Perm schemas' := by
    rw [← inside'.isPresent_eq]
    split at taken
    · rename_i some
      rw [if_pos some]
      exact inside'.pairs_ok taken
    · rename_i none
      rw [if_neg none]
      exact ⟨schemas, taken, .refl schemas⟩
  exact ⟨schemas', schemas_ok.mpr ⟨components', given, held', given', taken'⟩, moved⟩

theorem exists_paths (reorders : ReordersAt ["paths"] document document')
    {paths : List (String × Node)} (given : Document.paths document = .ok paths) :
    ∃ paths', Document.paths document' = .ok paths' ∧ paths.Perm paths' := by
  unfold Document.paths at given ⊢
  cases asked : document.ask "paths" with
  | error reason => simp [asked, bind, Except.bind] at given
  | ok held =>
    obtain ⟨held', asked', inside⟩ := reorders.ask_ok asked
    cases taken : held.membersOrNone "keys" with
    | error reason => simp [asked, taken, bind, Except.bind] at given
    | ok members =>
      obtain ⟨members', taken', moved⟩ := inside.membersOrNone_ok taken
      simp only [asked, asked', taken, taken', bind, Except.bind] at given ⊢
      rw [exceptMapM_ok] at given
      obtain ⟨paths', all, moved'⟩ := exists_forall₂_of_perm moved given
      exact ⟨paths', (exceptMapM_ok ..).mpr all, moved'⟩

end Document

end ApiBindings
