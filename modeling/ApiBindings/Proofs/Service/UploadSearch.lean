import ApiBindings.Proofs.Reference.Places
import ApiBindings.Service.Body

/-!
# The search for uploads

A search visits the schema of a form and, through references, the components of every schema it
visits, each object once. An object that an alias stands for again is the same object at another
place: it has the same components, and they lead to the same objects. So a search that comes to its
end has followed every reference on its way, also from the places it did not go through. It meets
the objects depth first: what a component leads to comes before the next component.
-/
namespace ApiBindings

open Located Reference

namespace Upload

variable {document outside : Node} {sharing : Sharing}

theorem mem_placesOfMembers {steps place : List Step} {members : List (Scalar × Node)}
    {key : String} {value : Node} (member : (.text key, value) ∈ members)
    (inside : place ∈ objectPlaces (steps ++ [.key key]) value) :
    place ∈ placesOfMembers steps members := by
  induction members with
  | nil => simp at member
  | cons first rest ih =>
    obtain ⟨name, node⟩ := first
    rcases List.mem_cons.mp member with same | later
    · obtain ⟨rfl, rfl⟩ := Prod.mk.inj same
      rw [placesOfMembers]
      exact List.mem_append_left _ inside
    · cases name with
      | text name =>
        rw [placesOfMembers]
        exact List.mem_append_right _ (ih later)
      | _ => exact ih later

theorem mem_placesOfItems {steps place : List Step} {items : List Node} {first position : Nat}
    {item : Node} (held : items[position]? = some item)
    (inside : place ∈ objectPlaces (steps ++ [.index (first + position)]) item) :
    place ∈ placesOfItems steps first items := by
  induction items generalizing first position with
  | nil => simp at held
  | cons node rest ih =>
    rw [placesOfItems, List.mem_append]
    cases position with
    | zero =>
      obtain rfl : node = item := by simpa using held
      exact .inl inside
    | succ position =>
      have later : rest[position]? = some item := by simpa using held
      refine .inr (ih later ?_)
      rwa [Nat.add_assoc, Nat.add_comm 1]

/-- The places of all objects are listed. -/
theorem mem_objectPlaces (front : List Step) {steps : List Step} {node : Node} {members : Members}
    (found : node.at? steps = some (.object members)) :
    front ++ steps ∈ objectPlaces front node := by
  induction steps generalizing front node with
  | nil =>
    obtain rfl := Option.some.inj found
    simp [objectPlaces]
  | cons step rest ih =>
    rw [show front ++ step :: rest = (front ++ [step]) ++ rest by simp]
    -- An object is listed in front of all that is inside of it.
    cases step with
    | key name =>
      obtain ⟨next, held, below⟩ := Option.bind_eq_some_iff.mp found
      cases node with
      | object own =>
        rw [objectPlaces]
        exact List.mem_cons_of_mem _ (mem_placesOfMembers (Members.mem_of_get? held) (ih _ below))
      | _ => simp [Node.get?, Node.members?] at held
    | index position =>
      cases node with
      | list items =>
        obtain ⟨next, held, below⟩ := Option.bind_eq_some_iff.mp found
        rw [objectPlaces]
        refine mem_placesOfItems held ?_
        rw [Nat.zero_add]
        exact ih _ below
      | _ => simp [Node.at?] at found

theorem components_ok {schema : Located} {inside : List Located}
    (taken : components schema = .ok inside) : inside = (schema.field "allOf").items := by
  unfold components at taken
  cases listed : (schema.field "allOf").node.elementsOrNone with
  | error reason => simp [listed, bind, Except.bind] at taken
  | ok items =>
    simp only [listed, bind, Except.bind, pure, Except.pure, Except.ok.injEq] at taken
    exact taken.symm

/-- Only objects have components. -/
theorem isObject_of_components {schema component : Located} {inside : List Located}
    (taken : components schema = .ok inside) (member : component ∈ inside) :
    schema.node.isObject := by
  rw [components_ok taken] at member
  cases held : schema.node with
  | object members => rfl
  | _ =>
    simp [Located.items, Located.field, Node.field, Node.get?, Node.members?, held] at member

/-- A component stands below the schema it is a component of. -/
theorem exists_steps_of_components {schema component : Located} {inside : List Located}
    (taken : components schema = .ok inside) (member : component ∈ inside) :
    ∃ further, component = ⟨schema.inDocument, schema.steps ++ further, component.node⟩ ∧
      schema.node.at? further = some component.node := by
  rw [components_ok taken] at member
  obtain ⟨step, same, held⟩ := exists_step_of_items member
  refine ⟨[.key "allOf", step], by simpa [Located.field] using same, ?_⟩
  cases all : schema.node.get? "allOf" with
  | none => simp [Located.items, Located.field, Node.field, all] at member
  | some node =>
    rw [Located.field, Node.field, all] at held
    rw [← List.singleton_append, Node.at?_append]
    simpa [Node.at?, all] using held

/-- A node at its own place in the document, or in a node outside of it. -/
def Stands (document outside : Node) (located : Located) : Prop :=
  located.spot.node? document outside = some located.node

theorem stands_of_standsIn {schema : Located} (stands : StandsIn document schema) :
    Stands document outside schema := by
  rw [Stands, Spot.node?, Located.spot, stands.inDocument]
  exact stands.found

theorem Stands.component {schema component : Located} {inside : List Located}
    (stands : Stands document outside schema) (taken : components schema = .ok inside)
    (member : component ∈ inside) : Stands document outside component := by
  obtain ⟨further, same, held⟩ := exists_steps_of_components taken member
  have here : (if schema.inDocument then document else outside).at? schema.steps =
    some schema.node := stands
  rw [same, Stands, Spot.node?, Located.spot, Node.at?_append]
  dsimp only
  rw [here]
  exact held

/-- Two nodes with one identity are one object. -/
theorem Stands.alike (sound : sharing.Sound document outside) {schema other : Located}
    (first : Stands document outside schema) (second : Stands document outside other)
    (same : sharing.identity schema = sharing.identity other) : Alike sharing schema other where
  node := by
    have node : (sharing.identity schema).node? document outside =
      (sharing.identity other).node? document outside := by rw [same]
    rw [Sharing.identity, Sharing.identity, sound.node?_firstSpot, sound.node?_firstSpot] at node
    exact Option.some.inj (first.symm.trans (node.trans second))
  identity := same

theorem stands_of_resolve {schema reached : Located}
    (stands : schema.node.isObject → Stands document outside schema)
    (resolved : (resolve document schema).outcome = .ok reached) :
    reached.node.isObject → Stands document outside reached := by
  rcases eq_or_standsIn_of_resolve resolved with rfl | inDocument
  · exact stands
  · exact fun _ => stands_of_standsIn inDocument

/-- The components of one object are the same wherever it stands. -/
theorem components_alike {one other component : Located} (alike : Alike sharing one other)
    {inside : List Located} (taken : components one = .ok inside) (member : component ∈ inside) :
    ∃ inside', components other = .ok inside' ∧
      ∃ component' ∈ inside', Alike sharing component component' := by
  rw [components_ok taken] at member
  obtain ⟨component', member', same⟩ := (alike.field "allOf").items member
  have elements : (one.field "allOf").node = (other.field "allOf").node :=
    (alike.field "allOf").node
  refine ⟨_, ?_, component', member', same⟩
  simp only [components, ← elements] at taken ⊢
  cases listed : (one.field "allOf").node.elementsOrNone with
  | error reason => simp [listed, bind, Except.bind] at taken
  | ok items => rfl

/-- The schemas a form is made of: its own, and the components of what one of them leads to. -/
inductive FormSchema (document : Node) (start : Located) : Located → Prop
  | here : FormSchema document start start
  | component {schema reached component : Located} {inside : List Located}
      (schemaOfForm : FormSchema document start schema)
      (resolved : (resolve document schema).outcome = .ok reached)
      (taken : components reached = .ok inside) (member : component ∈ inside) :
      FormSchema document start component

/-- An object that a schema of a form is or leads to. -/
def FormObject (document : Node) (start reached : Located) : Prop :=
  ∃ schema, FormSchema document start schema ∧
    (resolve document schema).outcome = .ok reached ∧ reached.node.isObject

/-- The uploads that an object lists itself. -/
def ownUploads (schema : Located) : List Upload :=
  match schema.node with
  | .object members => (own members).toOption.getD []
  | _ => []

theorem FormSchema.trans {start component schema : Located}
    (inside : FormSchema document start component)
    (further : FormSchema document component schema) : FormSchema document start schema := by
  induction further with
  | here => exact inside
  | component _ resolved taken member ih => exact .component ih resolved taken member

/-- The objects that these schemas lead to and the components of the objects do, in the order of
first visit: what an object leads to comes before the next schema. Objects seen before are passed,
wherever they stand, and so are nodes that are no objects. -/
inductive Visits (document : Node) (sharing : Sharing) :
    List Spot → List Located → List Located → Prop
  | done {seen : List Spot} : Visits document sharing seen [] []
  | passed {seen : List Spot} {rest found : List Located} {first reached : Located}
      (resolved : (resolve document first).outcome = .ok reached)
      (known : reached.node.isObject → sharing.identity reached ∈ seen)
      (later : Visits document sharing seen rest found) :
      Visits document sharing seen (first :: rest) found
  | visited {seen : List Spot} {rest inside behind : List Located} {first reached : Located}
      (resolved : (resolve document first).outcome = .ok reached)
      (isObject : reached.node.isObject) (fresh : sharing.identity reached ∉ seen)
      (below : Visits document sharing (seen ++ [sharing.identity reached])
        (reached.field "allOf").items inside)
      (later : Visits document sharing (seen ++ (reached :: inside).map sharing.identity)
        rest behind) :
      Visits document sharing seen (first :: rest) (reached :: inside ++ behind)

/-- The order of first visit is one order. -/
theorem Visits.unique {seen : List Spot} {schemas found other : List Located}
    (visits : Visits document sharing seen schemas found)
    (again : Visits document sharing seen schemas other) : found = other := by
  induction visits generalizing other with
  | done =>
    cases again
    rfl
  | passed resolved known _ ih =>
    cases again with
    | passed _ _ later => exact ih later
    | visited resolved' isObject fresh _ _ =>
      obtain rfl := Except.ok.inj (resolved.symm.trans resolved')
      exact absurd (known isObject) fresh
  | visited resolved isObject fresh _ _ ihBelow ihLater =>
    cases again with
    | passed resolved' known _ =>
      obtain rfl := Except.ok.inj (resolved.symm.trans resolved')
      exact absurd (known isObject) fresh
    | visited resolved' _ _ below later =>
      obtain rfl := Except.ok.inj (resolved.symm.trans resolved')
      obtain rfl := ihBelow below
      rw [ihLater later]

/-- What leads on from some schemas and then from others is visited in two parts. -/
theorem Visits.of_append {seen : List Spot} {schemas others found : List Located}
    (visits : Visits document sharing seen (schemas ++ others) found) :
    ∃ front back, found = front ++ back ∧ Visits document sharing seen schemas front ∧
      Visits document sharing (seen ++ front.map sharing.identity) others back := by
  generalize all : schemas ++ others = waiting at visits
  induction visits generalizing schemas with
  | done =>
    obtain ⟨rfl, rfl⟩ := List.append_eq_nil_iff.mp all
    exact ⟨[], [], rfl, .done, .done⟩
  | @passed seen rest found first reached resolved known later ih =>
    -- A schema that is passed over leaves what was seen as it is.
    cases schemas with
    | nil =>
      obtain rfl : others = first :: rest := all
      exact ⟨[], found, rfl, .done, by simpa using .passed resolved known later⟩
    | cons schema schemas =>
      obtain ⟨rfl, rest⟩ := List.cons.inj all
      obtain ⟨front, back, rfl, visits, further⟩ := ih rest
      exact ⟨front, back, rfl, .passed resolved known visits, further⟩
  | @visited seen rest inside behind first reached resolved isObject fresh below later _ ih =>
    cases schemas with
    | nil =>
      obtain rfl : others = first :: rest := all
      exact ⟨[], _, rfl, .done, by simpa using .visited resolved isObject fresh below later⟩
    | cons schema schemas =>
      obtain ⟨rfl, rest⟩ := List.cons.inj all
      obtain ⟨front, back, rfl, visits, further⟩ := ih rest
      refine ⟨reached :: inside ++ front, back, by simp,
        .visited resolved isObject fresh below visits, ?_⟩
      simpa using further

/-- No object is visited twice, and none that was seen before. -/
theorem Visits.nodup {seen : List Spot} {schemas found : List Located}
    (visits : Visits document sharing seen schemas found) :
    (found.map sharing.identity).Nodup ∧ ∀ schema ∈ found, sharing.identity schema ∉ seen := by
  induction visits with
  | done => simp
  | passed _ _ _ ih => exact ih
  | @visited seen _ inside behind _ reached _ _ fresh _ _ ihBelow ihLater =>
    obtain ⟨insideOnce, insideFresh⟩ := ihBelow
    obtain ⟨behindOnce, behindFresh⟩ := ihLater
    simp only [List.mem_append, List.mem_singleton, not_or] at insideFresh
    simp only [List.map_cons, List.mem_append, List.mem_cons, not_or] at behindFresh
    -- What is inside is visited with the object seen, and what is behind with all of that seen.
    refine ⟨?_, fun schema member => ?_⟩
    · rw [List.cons_append, List.map_cons, List.map_append, List.nodup_cons, List.nodup_append']
      refine ⟨?_, insideOnce, behindOnce, ?_⟩
      · simp only [List.mem_append, List.mem_map, not_or, not_exists, not_and]
        exact ⟨fun schema below => (insideFresh schema below).2,
          fun schema later => (behindFresh schema later).2.1⟩
      · intro object before after
        obtain ⟨schema, member, rfl⟩ := List.mem_map.mp after
        exact (behindFresh schema member).2.2 before
    · rcases List.mem_append.mp member with before | after
      · rcases List.mem_cons.mp before with rfl | below
        · exact fresh
        · exact (insideFresh schema below).1
      · exact (behindFresh schema after).1

/-- A schema that leads to one of these objects, or to a node that is no object. -/
def Leads (document : Node) (sharing : Sharing) (objects : List Spot) (schema : Located) : Prop :=
  ∃ reached, (resolve document schema).outcome = .ok reached ∧
    (reached.node.isObject → sharing.identity reached ∈ objects)

theorem Leads.alike {objects : List Spot} {one other : Located}
    (leads : Leads document sharing objects one) (alike : Alike sharing one other) :
    Leads document sharing objects other := by
  obtain ⟨reached, resolved, among⟩ := leads
  obtain ⟨reached', resolved', same⟩ := alike.resolve resolved
  refine ⟨reached', resolved', fun isObject => ?_⟩
  rw [← same.identity]
  exact among (by rwa [same.node])

/-- Every object is either visited or among those that are left to visit. -/
def Splits (document outside : Node) (sharing : Sharing) (visited unvisited : List Spot) : Prop :=
  ∀ schema, Stands document outside schema → schema.node.isObject →
    (sharing.identity schema ∈ unvisited ↔ sharing.identity schema ∉ visited)

theorem Splits.visit {visited unvisited : List Spot}
    (splits : Splits document outside sharing visited unvisited) (object : Spot) :
    Splits document outside sharing (visited ++ [object]) (without object unvisited) := by
  intro schema stands isObject
  rw [mem_without, splits schema stands isObject]
  simp

/-- What a search finds that begins with these objects visited: in order, the objects whose uploads
it collects. -/
structure Finds (document : Node) (sharing : Sharing) (visited : List Spot)
    (waiting : List Located) (uploads : List Upload) (found : List Located) : Prop where
  leads : ∀ schema ∈ waiting,
    Leads document sharing (visited ++ found.map sharing.identity) schema
  closed : ∀ schema ∈ found, ∀ inside, components schema = .ok inside → ∀ component ∈ inside,
    Leads document sharing (visited ++ found.map sharing.identity) component
  reached : ∀ schema ∈ found, ∃ start ∈ waiting, FormObject document start schema
  uploads : uploads = found.flatMap ownUploads
  order : Visits document sharing visited waiting found

/-- A search that visits an object goes on with its components. -/
theorem Finds.visit {visited : List Spot} {rest inside : List Located} {first schema : Located}
    {members : Members} {below own' : List Upload} {found : List Located}
    (resolved : (resolve document first).outcome = .ok schema)
    (held : schema.node = .object members) (fresh : sharing.identity schema ∉ visited)
    (listed : own members = .ok own') (taken : components schema = .ok inside)
    (finds : Finds document sharing (visited ++ [sharing.identity schema]) (inside ++ rest)
      below found) :
    Finds document sharing visited (first :: rest) (own' ++ below) (schema :: found) := by
  have isObject : schema.node.isObject := by rw [held]; rfl
  have here : FormObject document first schema := ⟨first, .here, resolved, isObject⟩
  obtain ⟨leads, closed, reached, uploads, order⟩ := finds
  rw [List.append_assoc, List.singleton_append, ← List.map_cons] at leads closed
  refine ⟨List.forall_mem_cons.mpr ⟨?_, ?_⟩, List.forall_mem_cons.mpr ⟨?_, closed⟩,
    List.forall_mem_cons.mpr ⟨⟨first, by simp, here⟩, ?_⟩, ?_, ?_⟩
  · exact ⟨schema, resolved, fun _ => by simp⟩
  · exact fun next member => leads next (List.mem_append_right _ member)
  · intro inside' taken' component member
    obtain rfl := Except.ok.inj (taken.symm.trans taken')
    exact leads component (List.mem_append_left _ member)
  · intro other member
    obtain ⟨start, waits, node, schemaOfForm, leads⟩ := reached other member
    rcases List.mem_append.mp waits with component | waits
    · -- A component of this object belongs to the form that the object belongs to.
      have below : FormSchema document first start := .component .here resolved taken component
      exact ⟨first, by simp, node, below.trans schemaOfForm, leads⟩
    · exact ⟨start, by simp [waits], node, schemaOfForm, leads⟩
  · rw [List.flatMap_cons, uploads, ownUploads, held]
    dsimp only
    rw [listed]
    rfl
  · -- The components and what waits behind them are visited one after the other.
    obtain ⟨front, back, rfl, components, behind⟩ := order.of_append
    rw [components_ok taken] at components
    exact .visited resolved isObject fresh components (by simpa using behind)

/-- A search that comes to its end has found where every waiting schema leads, and where every
component of an object it found does. -/
theorem exists_finds {visited unvisited : List Spot} {waiting : List Located}
    {uploads : List Upload}
    (placed : ∀ schema ∈ waiting, schema.node.isObject → Stands document outside schema)
    (splits : Splits document outside sharing visited unvisited)
    (collected : (collect document sharing unvisited waiting).outcome = .ok uploads) :
    ∃ found, Finds document sharing visited waiting uploads found := by
  -- The induction follows the search: each step visits a schema or passes one that waits. What is
  -- carried is `splits`, by which an object that is gone from the unvisited ones was visited.
  induction unvisited, waiting using collect.induct sharing
    generalizing visited uploads with
  | case1 unvisited =>
    rw [collect] at collected
    obtain rfl := Except.ok.inj collected
    exact ⟨[], by simp, by simp, by simp, rfl, .done⟩
  | case2 unvisited first rest inside later =>
    obtain ⟨placedFirst, others⟩ := List.forall_mem_cons.mp placed
    rw [collect, Attempt.outcome_bind_ok] at collected
    obtain ⟨schema, resolved, collected⟩ := collected
    have here := stands_of_resolve placedFirst resolved
    -- Unless the schema is visited now, the search goes on with the others.
    have passed (seen : schema.node.isObject → sharing.identity schema ∈ visited)
        (collected : (collect document sharing unvisited rest).outcome = .ok uploads) :
        ∃ found, Finds document sharing visited (first :: rest) uploads found := by
      obtain ⟨found, finds⟩ := later others splits collected
      refine ⟨found, { finds with
        leads := List.forall_mem_cons.mpr ⟨?_, finds.leads⟩
        reached := ?_
        order := .passed resolved seen finds.order }⟩
      · exact ⟨schema, resolved, fun isObject => List.mem_append_left _ (seen isObject)⟩
      · intro other member
        obtain ⟨start, waits, reached⟩ := finds.reached other member
        exact ⟨start, List.mem_cons_of_mem _ waits, reached⟩
    cases held : schema.node with
    | object members =>
      have isObject : schema.node.isObject := by rw [held]; rfl
      have stands := here isObject
      simp only [held] at collected
      split at collected
      · rename_i fresh
        simp only [Attempt.outcome_bind_ok, Attempt.outcome_misfit, Attempt.mapError_ok,
          Attempt.outcome_pure, Except.ok.injEq] at collected
        obtain ⟨own', listed, components, taken, below, collected, rfl⟩ := collected
        have ready : ∀ next ∈ components ++ rest,
            next.node.isObject → Stands document outside next := by
          intro next member
          rcases List.mem_append.mp member with member | member
          · exact fun _ => stands.component taken member
          · exact others next member
        obtain ⟨found, finds⟩ := inside schema fresh components ready (splits.visit _) collected
        exact ⟨schema :: found, .visit resolved held ((splits schema stands isObject).mp fresh)
          listed taken finds⟩
      · rename_i gone
        refine passed (fun _ => ?_) collected
        exact not_not.mp fun unseen => gone ((splits schema stands isObject).mpr unseen)
    | _ =>
      simp only [held] at collected
      refine passed (fun isObject => ?_) collected
      simp [held, Node.isObject, Node.members?] at isObject

/-- Where a search begins: at a node of the document, at one that is no object, or at a node
outside of the document, which is all that is searched outside of it. -/
inductive Begins (document : Node) : Node → Located → Prop
  | inside {start : Located} (placed : Placed document start) : Begins document .null start
  | outside (node : Node) : Begins document node (.outside node)

theorem Begins.stands {start : Located} (begins : Begins document outside start) :
    start.node.isObject → Stands document outside start := by
  cases begins with
  | inside placed => exact fun isObject => stands_of_standsIn (placed isObject)
  | outside => exact fun _ => rfl

/-- A search knows all objects it may meet. -/
theorem Begins.splits {start : Located} (begins : Begins document outside start) :
    Splits document outside sharing [] (objects document sharing start) := by
  intro schema stands isObject
  refine iff_of_true ?_ List.not_mem_nil
  obtain ⟨members, held⟩ := Node.exists_of_isObject isObject
  rw [Stands, held, Spot.node?] at stands
  have place := mem_objectPlaces [] stands
  refine List.mem_map_of_mem (List.mem_append.mpr ?_)
  cases inDocument : schema.inDocument with
  | true =>
    rw [Located.spot, inDocument] at place ⊢
    exact .inl (List.mem_map_of_mem place)
  | false =>
    rw [Located.spot, inDocument] at place ⊢
    cases begins with
    | inside => simp [objectPlaces] at place
    | outside node => exact .inr (List.mem_map_of_mem place)

/-- All objects that schemas of a form are or lead to stand at their own places. -/
theorem Begins.stands_of_form {start schema : Located} (begins : Begins document outside start)
    (schemaOfForm : FormSchema document start schema) :
    schema.node.isObject → Stands document outside schema := by
  induction schemaOfForm with
  | here => exact begins.stands
  | component _ resolved taken member ih =>
    have stands := stands_of_resolve ih resolved (isObject_of_components taken member)
    exact fun _ => stands.component taken member

theorem Begins.stands_of_object {start reached : Located} (begins : Begins document outside start)
    (object : FormObject document start reached) : Stands document outside reached := by
  obtain ⟨schema, schemaOfForm, resolved, isObject⟩ := object
  exact stands_of_resolve (begins.stands_of_form schemaOfForm) resolved isObject

/-- A search that begins with nothing visited. -/
theorem exists_finds_of_ofSchema {start : Located} {uploads : List Upload}
    (begins : Begins document outside start)
    (collected : (ofSchema document sharing start).outcome = .ok uploads) :
    ∃ found, Finds document sharing [] [start] uploads found :=
  exists_finds (by simpa using begins.stands) begins.splits collected

/-- Where every schema of the form leads is found by the search. -/
theorem Finds.leads_of_form {start schema : Located} {uploads : List Upload}
    {found : List Located} (finds : Finds document sharing [] [start] uploads found)
    (begins : Begins document outside start) (sound : sharing.Sound document outside)
    (schemaOfForm : FormSchema document start schema) :
    Leads document sharing (found.map sharing.identity) schema := by
  induction schemaOfForm with
  | here => simpa using finds.leads start (by simp)
  | @component _ reached _ _ schemaOfForm resolved taken member ih =>
    obtain ⟨_, resolved', inside⟩ := ih
    obtain rfl := Except.ok.inj (resolved.symm.trans resolved')
    have isObject := isObject_of_components taken member
    -- The search has met this object, though maybe at another place.
    obtain ⟨met, among, same⟩ := List.mem_map.mp (inside isObject)
    obtain ⟨_, waits, object⟩ := finds.reached met among
    obtain rfl := List.mem_singleton.mp waits
    have alike := Stands.alike sound
      (begins.stands_of_object ⟨_, schemaOfForm, resolved, isObject⟩)
      (begins.stands_of_object object) same.symm
    obtain ⟨inside', taken', component', member', alike'⟩ := components_alike alike taken member
    have leads := finds.closed met among inside' taken' component' member'
    rw [List.nil_append] at leads
    exact leads.alike ⟨alike'.node.symm, alike'.identity.symm⟩

/-- Uploads are known only if every schema of the form leads somewhere. -/
theorem resolves_of_ofSchema {start schema : Located} {uploads : List Upload}
    (placed : Placed document start) (sound : sharing.Sound document .null)
    (collected : (ofSchema document sharing start).outcome = .ok uploads)
    (schemaOfForm : FormSchema document start schema) :
    ∃ reached, (resolve document schema).outcome = .ok reached := by
  have begins : Begins document .null start := .inside placed
  obtain ⟨found, finds⟩ := exists_finds_of_ofSchema begins collected
  obtain ⟨reached, resolved, _⟩ := finds.leads_of_form begins sound schemaOfForm
  exact ⟨reached, resolved⟩

/-- The uploads of a form are those that its objects list themselves, in the order in which the
objects are visited. -/
theorem exists_order_of_ofSchema {start : Located} {uploads : List Upload}
    (begins : Begins document outside start) (sound : sharing.Sound document outside)
    (collected : (ofSchema document sharing start).outcome = .ok uploads) :
    ∃ found : List Located, Visits document sharing [] [start] found ∧
      (∀ reached ∈ found, FormObject document start reached) ∧
      (∀ reached, FormObject document start reached → ∃ met ∈ found, Alike sharing met reached) ∧
      uploads = found.flatMap ownUploads := by
  obtain ⟨found, finds⟩ := exists_finds_of_ofSchema begins collected
  have objects : ∀ reached ∈ found, FormObject document start reached := by
    intro reached member
    obtain ⟨_, waits, object⟩ := finds.reached reached member
    obtain rfl := List.mem_singleton.mp waits
    exact object
  refine ⟨found, finds.order, objects, fun reached object => ?_, finds.uploads⟩
  obtain ⟨schema, schemaOfForm, resolved, isObject⟩ := id object
  obtain ⟨_, resolved', inside⟩ := finds.leads_of_form begins sound schemaOfForm
  obtain rfl := Except.ok.inj (resolved.symm.trans resolved')
  obtain ⟨met, member, same⟩ := List.mem_map.mp (inside isObject)
  exact ⟨met, member, Stands.alike sound (begins.stands_of_object (objects met member))
    (begins.stands_of_object object) same⟩

end Upload

end ApiBindings
