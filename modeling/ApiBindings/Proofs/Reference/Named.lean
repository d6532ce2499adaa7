import ApiBindings.Proofs.Reference.Growth
import ApiBindings.Proofs.Reference.Written

/-!
# Components that are looked up by name

Instead of following a reference, some readers look the last part of its pointer up among the
component schemas, as it is written. A walk makes one step from each part of a pointer, so the place
it leads to tells its parts. The component found is thus the node a chain of pointers ends at
exactly if the last of them leads right below the component schemas, to the key that the first one
is written with.
-/
namespace ApiBindings

namespace Pointer

/-- A part that leads on to a key is this key. -/
def MadeFrom (made : Step) (part : List Char) : Prop :=
  ∀ name, made = .key name → part = name.toList

theorem madeFrom_of_step {current next : Located} {part : List Char}
    (stepped : step current part = .ok (some next)) :
    ∃ made, next.steps = current.steps ++ [made] ∧ MadeFrom made part := by
  obtain ⟨made, node, rfl, held⟩ := step_ok stepped
  refine ⟨made, rfl, ?_⟩
  rintro name rfl
  -- Below a key stands a member, and the step to a member is the part.
  obtain ⟨value, found, _⟩ := Option.bind_eq_some_iff.mp held
  obtain ⟨members, isMembers, _⟩ := Option.bind_eq_some_iff.mp found
  have isObject : current.node.isObject := Option.isSome_iff_exists.mpr ⟨members, isMembers⟩
  rw [step_object current part isObject, Except.ok.injEq, Option.map_eq_some_iff] at stepped
  obtain ⟨_, _, same⟩ := stepped
  obtain rfl : String.ofList part = name := by simpa using congrArg Located.steps same
  exact String.toList_ofList.symm

/-- The steps of a walk are made from the parts of its pointer, one from each. -/
theorem madeFrom_of_walkFrom {pointer : String} {current target : Located}
    {parts : List (List Char)} (walked : walkFrom pointer current parts = .ok target) :
    ∃ further, target.steps = current.steps ++ further ∧ List.Forall₂ MadeFrom further parts := by
  induction parts generalizing current with
  | nil =>
    obtain rfl := Except.ok.inj walked
    exact ⟨[], by simp, .nil⟩
  | cons part rest ih =>
    rw [walkFrom] at walked
    split at walked
    · rename_i next stepped
      obtain ⟨made, here, fromPart⟩ := madeFrom_of_step stepped
      obtain ⟨further, there, others⟩ := ih walked
      exact ⟨made :: further, by simp [there, here], .cons fromPart others⟩
    · simp at walked
    · simp at walked

/-- Where the component schema of a name stands. -/
def componentPlace (name : String) : List Step := [.key "components", .key "schemas", .key name]

def componentAt (name : String) (component : Node) : Located :=
  ⟨true, componentPlace name, component⟩

/-- The parts of a pointer to the component schema of a name. -/
def componentParts (name : String) : List (List Char) :=
  ["components".toList, "schemas".toList, name.toList]

variable {document : Node} {pointer name : String}

theorem parts_of_componentPlace {reached : Located} (walked : walk document pointer = .ok reached)
    (place : reached.steps = componentPlace name) : parts pointer = componentParts name := by
  obtain ⟨further, steps, made⟩ := madeFrom_of_walkFrom (walk_ok_iff.mp walked).2
  obtain rfl : componentPlace name = further := by simpa [Located.root, place] using steps
  -- There are three steps, each of them to a key, and so three parts.
  obtain ⟨_, _, components, made, rest⟩ := List.forall₂_cons_left_iff.mp made
  obtain ⟨_, _, schemas, made, rest'⟩ := List.forall₂_cons_left_iff.mp made
  obtain ⟨_, _, last, made, rest''⟩ := List.forall₂_cons_left_iff.mp made
  obtain rfl := List.forall₂_nil_left_iff.mp made
  rw [rest, rest', rest'', components _ rfl, schemas _ rfl, last _ rfl, componentParts]

/-- A pointer of these parts leads to the component schema of the name, if there is one. -/
theorem walk_componentParts_iff {schemas : Members}
    (listed : (document.field "components").field "schemas" = .object schemas)
    (divided : parts pointer = componentParts name) (reached : Located) :
    walk document pointer = .ok reached ↔ ∃ component, schemas.get? name = some component ∧
      component ≠ .null ∧ reached = componentAt name component := by
  obtain ⟨components, held, inComponents⟩ := Node.get?_of_field listed
  obtain ⟨members, rfl, inDocument⟩ := Node.get?_of_field held
  -- The first two steps are made anyway, and the third one is the look-up of the name.
  rw [walk_ok_iff, divided, componentParts]
  cases found : schemas.get? name with
  | none => simp [walkFrom, step, Located.root, inDocument, inComponents, found]
  | some component =>
    simp only [walkFrom, step, Located.root, String.ofList_toList, inDocument, Option.map_some,
      inComponents, found, Except.ok.injEq, Option.some.injEq, exists_eq_left']
    constructor
    · rintro ⟨present, rfl⟩
      exact ⟨present, rfl⟩
    · rintro ⟨present, rfl⟩
      exact ⟨present, rfl⟩

end Pointer

namespace Reference

open Pointer Located

/-- The last part of a pointer, as it is written. -/
def writtenName (pointer : String) : String := String.ofList (Text.lastPiece '/' pointer.toList)

/-- The component schema that is looked up for a schema. -/
def consulted (document schema : Node) : Except Misfit (Option Located) :=
  match (name? schema).filter (· ≠ "") with
  | none => .ok none
  | some name => (Document.schema? document name).map (Option.map (componentAt name))

/-- The last pointer of a chain names the component schema that the first one is written for. -/
structure NamesTarget (document : Node) (first last : String) : Prop where
  listed : ((document.field "components").field "schemas").isObject = true
  named : writtenName first ≠ ""
  divided : Pointer.parts last = componentParts (writtenName first)

variable {document schema : Node} {first last : String} {reached : Located}

/-- The pointer of a local reference is a text that is not empty. -/
theorem text_of_localReference? (refers : schema.localReference? = some first) :
    schema.get? "$ref" = some (.text first) ∧ first ≠ "" := by
  obtain ⟨held, starts⟩ := Option.filter_eq_some_iff.mp refers
  obtain ⟨node, found, isText⟩ := Option.bind_eq_some_iff.mp held
  have some : first ≠ "" := by
    rintro rfl
    simp at starts
  cases node with
  | scalar value =>
    cases value with
    | text value =>
      obtain rfl := Option.some.inj isText
      exact ⟨found, some⟩
    | _ => simp [Node.text?] at isText
  | _ => simp [Node.text?] at isText

theorem name?_of_localReference? (refers : schema.localReference? = some first) :
    name? schema = some (writtenName first) := by
  rw [name?, (text_of_localReference? refers).1]
  rfl

theorem consulted_ok {found : Option Located} (looked : consulted document schema = .ok found) :
    ((name? schema).filter (· ≠ "") = none ∧ found = none) ∨
      ∃ name component, (name? schema).filter (· ≠ "") = some name ∧
        Document.schema? document name = .ok component ∧
        found = component.map (componentAt name) := by
  unfold consulted at looked
  cases named : (name? schema).filter (· ≠ "") with
  | none =>
    rw [named] at looked
    exact .inl ⟨rfl, (Except.ok.inj looked).symm⟩
  | some name =>
    rw [named] at looked
    dsimp only at looked
    cases listed : Document.schema? document name with
    | error reason => simp [listed, Except.map] at looked
    | ok component =>
      rw [listed] at looked
      exact .inr ⟨name, component, rfl, listed, (Except.ok.inj looked).symm⟩

theorem consulted_of_named (refers : schema.localReference? = some first)
    (named : writtenName first ≠ "") : consulted document schema =
      (Document.schema? document (writtenName first)).map
        (Option.map (componentAt (writtenName first))) := by
  rw [consulted, name?_of_localReference? refers, Option.filter_some, if_pos (by simpa using named)]

theorem consulted_ok_iff (refers : schema.localReference? = some first) :
    consulted document schema = .ok (some reached) ↔ writtenName first ≠ "" ∧
      ∃ component, Document.schema? document (writtenName first) = .ok (some component) ∧
        reached = componentAt (writtenName first) component := by
  by_cases named : writtenName first = ""
  · simp [consulted, name?_of_localReference? refers, named, Option.filter_some]
  · rw [consulted_of_named refers named]
    cases Document.schema? document (writtenName first) with
    | error reason => simp [Except.map]
    | ok found => cases found <;> simp [Except.map, named, eq_comm]

theorem schema?_of_get? {schemas : Members} {name : String} {component : Node}
    (listed : (document.field "components").field "schemas" = .object schemas)
    (found : schemas.get? name = some component) :
    Document.schema? document name = .ok (some component) := by
  have some : schemas ≠ [] := by
    rintro rfl
    simp [Members.get?] at found
  rw [Document.schema?, Document.schemas_of_field listed some]
  simp [found, bind, Except.bind, pure, Except.pure]

/-- The component looked up for a schema is the node behind its last pointer exactly if this
pointer names it as the first one is written. -/
theorem consulted_iff_namesTarget (refers : schema.localReference? = some first)
    (walked : Pointer.walk document last = .ok reached) :
    consulted document schema = .ok (some reached) ↔ NamesTarget document first last := by
  rw [consulted_ok_iff refers]
  constructor
  · rintro ⟨named, component, _, rfl⟩
    have stands := (standsIn_of_walk walked).found
    -- A key leads on below objects only, so the component schemas are one.
    obtain ⟨components, inDocument, below⟩ := Option.bind_eq_some_iff.mp stands
    obtain ⟨schemas, inComponents, below⟩ := Option.bind_eq_some_iff.mp below
    obtain ⟨_, inSchemas, _⟩ := Option.bind_eq_some_iff.mp below
    obtain ⟨members, isMembers, _⟩ := Option.bind_eq_some_iff.mp inSchemas
    have listed : (document.field "components").field "schemas" = schemas := by
      simp [Node.field, inDocument, inComponents]
    exact ⟨by simp [listed, Node.isObject, isMembers], named, parts_of_componentPlace walked rfl⟩
  · rintro ⟨isObject, named, divided⟩
    obtain ⟨schemas, listed⟩ := Node.exists_of_isObject isObject
    obtain ⟨component, found, _, rfl⟩ := (walk_componentParts_iff listed divided reached).mp walked
    exact ⟨named, component, schema?_of_get? listed found, rfl⟩

/-- The last pointer of a chain leads to the node the chain ends at. -/
theorem Follows.walk_last {start : Located} {pointers : List String}
    (follows : Follows document start pointers reached) :
    (pointers = [] ∧ reached = start) ∨ ∃ before last, pointers = before ++ [last] ∧
      Pointer.walk document last = .ok reached := by
  induction follows with
  | here =>
    left
    exact ⟨rfl, rfl⟩
  | @next located target reached pointer rest refers walked onwards ih =>
    right
    rcases ih with ⟨rfl, rfl⟩ | ⟨before, last, rfl, walked'⟩
    · exact ⟨[], pointer, rfl, walked⟩
    · exact ⟨pointer :: before, last, rfl, walked'⟩

theorem length_escape (key : List Char) :
    (escape key).length = key.length + key.countP fun c => c == '~' || c == '/' := by
  induction key with
  | nil => rfl
  | cons c rest ih =>
    rw [escape_cons, List.length_append, ih, List.countP_cons, List.length_cons]
    by_cases tilde : c = '~'
    · simp [escaped, tilde]
      omega
    · by_cases slash : c = '/'
      · simp [escaped, slash]
        omega
      · simp [escaped, tilde, slash]
        omega

/-- The pointer of a component schema names it exactly if nothing in the key is escaped. -/
theorem namesTarget_ofComponent_iff {document : Node} {key : String} (named : key ≠ "")
    (listed : ((document.field "components").field "schemas").isObject = true) :
    NamesTarget document (ofComponent key) (ofComponent key) ↔
      '~' ∉ key.toList ∧ '/' ∉ key.toList := by
  have written : writtenName (ofComponent key) = String.ofList (escape key.toList) := by
    rw [writtenName, lastPiece_ofComponent]
  constructor
  · rintro ⟨_, _, divided⟩
    rw [parts_ofComponent named, componentParts, written, String.toList_ofList] at divided
    have same : key.toList = escape key.toList := by simpa using divided
    -- Each escape makes the key longer.
    have none : key.toList.countP (fun c => c == '~' || c == '/') = 0 := by
      have lengths := length_escape key.toList
      rw [← same] at lengths
      omega
    rw [List.countP_eq_zero] at none
    exact ⟨fun tilde => none _ tilde rfl, fun slash => none _ slash rfl⟩
  · rintro ⟨tilde, slash⟩
    rw [escape_of_notMem tilde slash, String.ofList_toList] at written
    exact ⟨listed, by rwa [written], by rw [written, parts_ofComponent named, componentParts]⟩

end Reference

end ApiBindings
