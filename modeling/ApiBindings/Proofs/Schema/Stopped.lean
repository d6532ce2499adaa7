import ApiBindings.Proofs.Document.Members
import ApiBindings.Proofs.FailureKinds
import ApiBindings.Proofs.Schema.Describable
import ApiBindings.Proofs.Text.Romanization
import Mathlib.Logic.Relation

/-!
# What stops the description of a JSON value

All values of JSON have a form as literals. So a JSON value that is taken for a schema, however
malformed, is described as some type, unless one of three shapes is met in it or in a schema by
which it is described: alternatives or components that are given and cannot be gone through, and a
list of required keys in which something is no scalar.
-/
namespace ApiBindings

/-- A value of JSON: its keys are texts, and nothing in it is a moment. -/
inductive Node.IsJson : Node → Prop
  | scalar (value : Scalar) (plain : ∀ moment, value ≠ .moment moment) : IsJson (.scalar value)
  | list (items : List Node) (inside : ∀ item ∈ items, IsJson item) : IsJson (.list items)
  | object (members : List (Scalar × Node))
      (named : ∀ member ∈ members, ∃ name, member.1 = .text name)
      (inside : ∀ member ∈ members, IsJson member.2) : IsJson (.object members)

namespace Node.IsJson

theorem null : IsJson .null := .scalar .null (by simp)

theorem text (value : String) : IsJson (.text value) := .scalar (.text value) (by simp)

theorem field {members : Members} (json : IsJson (.object members)) (key : String) :
    IsJson (Members.field members key) := by
  cases json with
  | object _ _ inside =>
    unfold Members.field
    cases found : members.get? key with
    | none => exact null
    | some value => exact inside _ (Members.mem_of_get? found)

/-- What a JSON value holds one after the other are JSON values. -/
theorem elements {node : Node} (json : IsJson node) {items : List Node}
    (taken : node.elements = .ok items) {item : Node} (member : item ∈ items) : IsJson item := by
  unfold Node.elements at taken
  split at taken
  · obtain rfl := Except.ok.inj taken
    cases json with
    | list _ inside => exact inside item member
  · obtain rfl := Except.ok.inj taken
    obtain ⟨⟨key, value⟩, among, rfl⟩ := List.mem_map.mp member
    cases json with
    | object _ named _ =>
      obtain ⟨name, same⟩ := named _ among
      dsimp only at same ⊢
      exact same ▸ text name
  · obtain rfl := Except.ok.inj taken
    obtain ⟨c, _, rfl⟩ := List.mem_map.mp member
    exact text _
  · cases taken

end Node.IsJson

namespace Json

open Node (IsJson)

theorem exists_writeItems {style : Style} {items : List Node}
    (each : ∀ item ∈ items, ∃ text, write style item = .ok text) :
    ∃ texts, writeItems style items = .ok texts := by
  induction items with
  | nil => exact ⟨[], by rw [writeItems]; rfl⟩
  | cons item rest ih =>
    obtain ⟨⟨text, written⟩, later⟩ := List.forall_mem_cons.mp each
    obtain ⟨texts, written'⟩ := ih later
    exact ⟨text :: texts, by rw [writeItems, written, written']; rfl⟩

/-- The members are written one by one, each under its key. -/
theorem exists_writeMembers {style : Style} {members : List (Scalar × Node)}
    (each : ∀ member ∈ members, ∃ text, write style member.2 = .ok text) :
    ∃ written, writeMembers style members = .ok written ∧
      written.map (·.1) = members.map (·.1) := by
  induction members with
  | nil => exact ⟨[], by rw [writeMembers]; rfl, rfl⟩
  | cons member rest ih =>
    obtain ⟨key, value⟩ := member
    obtain ⟨⟨text, written⟩, later⟩ := List.forall_mem_cons.mp each
    obtain ⟨others, written', same⟩ := ih later
    refine ⟨(key, text) :: others, ?_, by simp [same]⟩
    rw [writeMembers, written, written']
    rfl

theorem exists_memberTexts {written : List (Scalar × List Char)}
    (named : ∀ member ∈ written, ∃ name, member.1 = .text name) :
    ∃ texts, written.mapM memberText = .ok texts := by
  induction written with
  | nil => exact ⟨[], rfl⟩
  | cons member rest ih =>
    obtain ⟨key, text⟩ := member
    obtain ⟨⟨name, rfl⟩, later⟩ := List.forall_mem_cons.mp named
    obtain ⟨texts, all⟩ := ih later
    refine ⟨(string name.toList ++ [':', ' '] ++ text) :: texts, ?_⟩
    rw [List.mapM_cons, all]
    rfl

/-- Every value of JSON can be written as a literal. -/
theorem exists_write {node : Node} (json : IsJson node) :
    ∃ text, write literalStyle node = .ok text := by
  induction json with
  | scalar value plain =>
    cases value with
    | moment moment => exact absurd rfl (plain moment)
    | _ => exact ⟨_, by rw [write]; rfl⟩
  | list items inside ih =>
    obtain ⟨texts, written⟩ := exists_writeItems ih
    exact ⟨_, by rw [write, written]; rfl⟩
  | object members named inside ih =>
    obtain ⟨written, all, same⟩ := exists_writeMembers ih
    have keys : ∀ member ∈ written, ∃ name, member.1 = .text name := by
      intro member among
      have key : member.1 ∈ members.map (·.1) := same ▸ List.mem_map_of_mem among
      obtain ⟨member', among', equal⟩ := List.mem_map.mp key
      exact equal ▸ named member' among'
    obtain ⟨texts, done⟩ := exists_memberTexts keys
    refine ⟨'\x7b' :: Text.join [',', ' '] texts ++ ['\x7d'], ?_⟩
    rw [write, all]
    simp only [bind, Except.bind, literalStyle, Bool.false_eq_true, if_false, pure, Except.pure,
      done]

end Json

namespace Schema

open Node (IsJson)

/-- A node that cannot be gone through. -/
def NoCollection (node : Node) : Prop := ∃ value, node = .scalar value ∧ ∀ text, value ≠ .text text

/-- Properties of which something is required that cannot be a key. -/
def RequiresNoKey (members : Members) : Prop :=
  (∃ first rest, Members.field members "properties" = .object (first :: rest)) ∧
    ∃ keys, Members.field members "required" = .list keys ∧
      ∃ key ∈ keys, ∀ value, key ≠ .scalar value

/-- A schema that stops its own description. -/
def Stops (schema : Node) : Prop :=
  match schema with
  | .object members =>
    match kindOfMembers members with
    | .oneOf => NoCollection (Members.field members "oneOf")
    | .allOf => NoCollection (Members.field members "allOf")
    | .object => RequiresNoKey members
    | _ => False
  | _ => False

/-- A schema by which another one is described, or that schema itself. -/
def Reached : Node → Node → Prop := Relation.ReflTransGen fun schema part => part ∈ parts schema

theorem isOk_keysOf (items : List Node) :
    (Node.keysOf items).isOk = true ↔ ∀ item ∈ items, ∃ value, item = .scalar value := by
  induction items with
  | nil => simp [Node.keysOf, pure, Except.pure, Except.isOk, Except.toBool]
  | cons item rest ih =>
    rw [Node.keysOf] at ih ⊢
    rw [List.mapM_cons, List.forall_mem_cons, ← ih]
    cases item with
    | scalar value =>
      cases rest.mapM Node.asKey <;>
        simp [Node.asKey, bind, Except.bind, pure, Except.pure, Except.isOk, Except.toBool]
    | _ => simp [Node.asKey, bind, Except.bind, Except.isOk, Except.toBool]

theorem isOk_elements (node : Node) : node.elements.isOk = true ↔ ¬ NoCollection node := by
  unfold NoCollection
  cases node with
  | scalar value => cases value <;> simp [Node.elements, Except.isOk, Except.toBool]
  | _ => simp [Node.elements, Except.isOk, Except.toBool]

theorem isOk_requiredKeys (members : Members) :
    (requiredKeys members).isOk = true ↔ ¬ ∃ keys, Members.field members "required" = .list keys ∧
      ∃ key ∈ keys, ∀ value, key ≠ .scalar value := by
  unfold requiredKeys
  split
  · rename_i keys held
    rw [isOk_keysOf, held]
    simp
  · rename_i other
    refine iff_of_true rfl ?_
    rintro ⟨keys, held, _⟩
    exact other keys held

/-- A JSON value is well formed if it does not stop. -/
theorem wellFormed_iff {schema : Node} (json : IsJson schema) :
    wellFormed schema = true ↔ ¬ Stops schema := by
  have literalOk (value : Node) (json : IsJson value) : (literal value).isOk = true := by
    unfold literal
    split
    · rfl
    · obtain ⟨text, written⟩ := Json.exists_write json
      rw [written]
      rfl
  cases schema with
  | scalar value =>
    have formed : wellFormed (.scalar value) = true := by
      cases value with
      | null => rfl
      | _ => exact literalOk _ json
    exact iff_of_true formed not_false
  | list items => exact iff_of_true (literalOk _ json) not_false
  | object members =>
    -- Three kinds have a condition of their own, all others are well formed.
    unfold wellFormed Stops
    dsimp only
    cases kindOfMembers members with
    | oneOf | allOf => exact isOk_elements _
    | object =>
      dsimp only
      split
      · rename_i first rest held
        rw [isOk_requiredKeys, not_iff_not, RequiresNoKey]
        exact (and_iff_right ⟨first, rest, held⟩).symm
      · rename_i other
        refine iff_of_true rfl ?_
        rintro ⟨⟨first, rest, held⟩, _⟩
        exact other first rest held
    | _ => exact iff_of_true rfl not_false

theorem isJson_arrayItems {members : Members} (json : IsJson (.object members)) :
    IsJson (arrayItems members) := by
  unfold arrayItems
  split
  · rename_i nested held
    have inner := json.field "schema"
    rw [held] at inner
    exact inner.field "items"
  · exact json.field "items"

theorem isJson_itemSchema {item : Node} (json : IsJson item) : IsJson (itemSchema item) := by
  unfold itemSchema
  cases found : item.get? "schema" with
  | none => exact json
  | some value =>
    cases item with
    | object members =>
      have same : Members.field members "schema" = value := by
        have held : Members.get? members "schema" = some value := found
        simp only [Members.field, held, Option.getD_some]
      exact same ▸ json.field "schema"
    | _ => cases found

/-- The parts of a JSON value are JSON values. -/
theorem isJson_of_parts {schema part : Node} (json : IsJson schema) (member : part ∈ parts schema) :
    IsJson part := by
  cases schema with
  | object members =>
    have elements {key : String} (member : part ∈
        (Members.field members key).elements.toOption.getD []) : IsJson part := by
      cases taken : (Members.field members key).elements with
      | error reason => simp [taken, Except.toOption] at member
      | ok items =>
        rw [taken] at member
        exact (json.field key).elements taken member
    -- One case for each kind, of which most have no parts.
    unfold parts at member
    dsimp only at member
    cases kind : kindOfMembers members with
    | array =>
      rw [kind] at member
      dsimp only at member
      have items := isJson_arrayItems json
      split at member
      · rename_i listed held
        obtain ⟨item, among, rfl⟩ := List.mem_map.mp member
        rw [held] at items
        cases items with
        | list _ inside => exact isJson_itemSchema (inside item among)
      · obtain rfl := List.mem_singleton.mp member
        exact items
    | enumeration =>
      rw [kind] at member
      dsimp only at member
      split at member
      · rename_i values held
        exact (json.field "enum").elements (by rw [held]; rfl) member
      · cases member
    | oneOf | allOf =>
      rw [kind] at member
      exact elements member
    | object =>
      rw [kind] at member
      dsimp only at member
      split at member
      · rename_i properties held
        obtain ⟨property, among, rfl⟩ := List.mem_map.mp member
        have inner := json.field "properties"
        rw [held] at inner
        cases inner with
        | object _ _ inside => exact inside property among
      · cases member
    | _ =>
      rw [kind] at member
      cases member
  | _ => cases member

/-- A schema is describable if all schemas by which it is described are well formed. -/
theorem describable_iff {schema : Node} :
    Describable schema ↔ ∀ reached, Reached schema reached → wellFormed reached = true := by
  constructor
  · intro describable
    induction describable with
    | intro formed inside ih =>
      intro reached reaches
      rcases Relation.ReflTransGen.cases_head reaches with rfl | ⟨part, member, later⟩
      · exact formed
      · exact ih part member reached later
  · induction schema using parts_induction with
    | step schema ih =>
      intro formed
      refine .intro (formed schema .refl) fun part member => ih part member ?_
      exact fun reached later => formed reached (.head member later)

theorem isJson_of_reached {schema reached : Node} (json : IsJson schema)
    (reaches : Reached schema reached) : IsJson reached := by
  induction reaches with
  | refl => exact json
  | tail _ member ih => exact isJson_of_parts ih member

section

variable [Text.Romanization]

/-- A JSON value is described as a type, whatever its shape, unless it stops or something does by
which it is described. A description that is stopped fails for a value that does not fit. -/
theorem describe_json_iff (namespaceName : String) (schema : Node) (json : IsJson schema) :
    ((describe namespaceName schema).Succeeds ↔
        ∀ reached, Reached schema reached → ¬ Stops reached) ∧
      ∀ failure, (describe namespaceName schema).outcome = .error failure →
        ∃ reason, failure = .misfit reason := by
  constructor
  · rw [describe_succeeds, describable_iff]
    exact forall₂_congr fun reached reaches => wellFormed_iff (isJson_of_reached json reaches)
  · have describing : Attempt.OfDescribing (Attempt.FailsAs fun failure =>
        ∃ reason, failure = .misfit reason) :=
    Attempt.ofDescribing_failsAs fun reason => ⟨reason, rfl⟩
    exact describing.describe namespaceName schema

end

/-- Alternatives that are no schemas at all. -/
def oddAlternatives : Node := .object [(.text "oneOf", .list [.int 5, .list []])]

theorem describe_json_of_oddAlternatives :
    IsJson oddAlternatives ∧ (describe "API" oddAlternatives).Succeeds := by
  have json : IsJson oddAlternatives := by
    refine .object _ (by simp) fun member among => ?_
    obtain rfl := List.mem_singleton.mp among
    refine .list _ fun item listed => ?_
    rcases List.mem_pair.mp listed with rfl | rfl
    · exact .scalar _ (by simp)
    · exact .list [] (by simp)
  refine ⟨json, (describe_json_iff "API" oddAlternatives json).1.mpr fun reached reaches => ?_⟩
  rcases Relation.ReflTransGen.cases_head reaches with rfl | ⟨part, member, later⟩
  · rintro ⟨value, held, _⟩
    cases held
  · have listed : part ∈ [Node.int 5, .list []] := member
    -- Neither alternative is an object, so neither has parts.
    rcases List.mem_pair.mp listed with rfl | rfl
    all_goals
      rcases Relation.ReflTransGen.cases_head later with rfl | ⟨_, none, _⟩
      · exact not_false
      · cases none

/-- Alternatives that are a number stop the description. -/
theorem describe_stopped_of_numberAsAlternatives :
    IsJson (.object [(.text "oneOf", .int 5)]) ∧
      (describe "API" (.object [(.text "oneOf", .int 5)])).outcome =
        .error (.misfit (.notIterable .int)) := by
  refine ⟨.object _ (by simp) fun member among => ?_, ?_⟩
  · obtain rfl := List.mem_singleton.mp among
    exact .scalar _ (by simp)
  · unfold describe
    rfl

end Schema

end ApiBindings
