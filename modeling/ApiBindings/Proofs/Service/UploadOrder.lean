import ApiBindings.Proofs.Reference.Escape
import ApiBindings.Proofs.Service.UploadSearch

/-!
# The order of the uploads of a form

A search for uploads needs three things of the schemas it meets: that their references lead
somewhere, that their compositions are lists, and that the formats of their properties are scalars.
It then comes to its end, however the schemas refer to one another, and lists the uploads of each
object once, in the order in which a walk through references and components meets the objects.
-/
namespace ApiBindings.Upload

open Located Reference

variable {document outside : Node} {sharing : Sharing} {start : Located}

/-- Whether a format is one of a file. -/
def saysFile (format : Node) : Bool := format.text?.any RequestBody.fileFormats.contains

/-- Whether a property carries a file or a list of files. -/
def carriesFile (property : Members) : Bool :=
  saysFile (Members.field property "format") ||
    RequestBody.isMultiple property && saysFile ((Members.field property "items").field "format")

/-- The uploads among properties, in their order. -/
def filesAmong (properties : Members) : List Upload :=
  properties.filterMap fun (name, property) =>
    (property.members?.filter carriesFile).map fun members =>
      ⟨name.display, RequestBody.isMultiple members⟩

def propertiesOf (schema : Located) : Members :=
  (schema.node.field "properties").members?.getD []

/-- Properties whose formats are scalars, and those of what they list. -/
def PlainFormats (properties : Members) : Prop :=
  ∀ name property, (name, Node.object property) ∈ properties →
    (∃ word, Members.field property "format" = .scalar word) ∧
      ∃ word, (Members.field property "items").field "format" = .scalar word

/-- What a search needs of the schemas of a form. -/
structure Searchable (document : Node) (start : Located) : Prop where
  resolves : ∀ schema, FormSchema document start schema →
    ∃ reached, (resolve document schema).outcome = .ok reached
  lists : ∀ reached, FormObject document start reached →
    (reached.node.field "allOf").isPresent → ∃ items, reached.node.field "allOf" = .list items
  formats : ∀ reached, FormObject document start reached → PlainFormats (propertiesOf reached)

theorem isFileFormat_scalar (word : Scalar) :
    RequestBody.isFileFormat (.scalar word) = .ok (saysFile (.scalar word)) := by
  cases word <;> rfl

theorem isFile_ok {property : Members}
    (format : ∃ word, Members.field property "format" = .scalar word)
    (itemFormat : ∃ word, (Members.field property "items").field "format" = .scalar word) :
    RequestBody.isFile property = .ok (carriesFile property) := by
  obtain ⟨word, format⟩ := format
  obtain ⟨itemWord, itemFormat⟩ := itemFormat
  rw [RequestBody.isFile, carriesFile, format, itemFormat, isFileFormat_scalar]
  cases own : saysFile (.scalar word) with
  | true => rfl
  | false =>
    cases multiple : RequestBody.isMultiple property with
    | false => rfl
    | true =>
      cases items : Members.field property "items" with
      | object members =>
        have same : Members.field members "format" = .scalar itemWord := by
          rw [← itemFormat, items]
          rfl
        simp [bind, Except.bind, same, isFileFormat_scalar]
      -- Items that are no object have no format.
      | _ =>
        rw [items] at itemFormat
        obtain rfl : Scalar.null = itemWord := by
          simpa [Node.field, Node.get?, Node.members?] using itemFormat
        rfl

theorem ofProperties_ok {properties : Members} (formats : PlainFormats properties) :
    ofProperties properties = .ok (filesAmong properties) := by
  induction properties with
  | nil => rfl
  | cons first rest ih =>
    obtain ⟨name, property⟩ := first
    have later := ih fun name property member =>
      formats name property (List.mem_cons_of_mem _ member)
    cases property with
    | object property =>
      obtain ⟨format, itemFormat⟩ := formats name property (by simp)
      rw [ofProperties, isFile_ok format itemFormat, later]
      cases carries : carriesFile property <;>
        simp [bind, Except.bind, pure, Except.pure, filesAmong, Node.members?, carries]
    | _ => exact later

theorem own_ok {schema : Located} {members : Members} (held : schema.node = .object members)
    (formats : PlainFormats (propertiesOf schema)) :
    own members = .ok (filesAmong (propertiesOf schema)) := by
  have same : schema.node.field "properties" = Members.field members "properties" := by
    rw [held]
    rfl
  rw [propertiesOf, same] at formats ⊢
  rw [own]
  cases properties : Members.field members "properties" with
  | object properties' =>
    rw [properties] at formats
    exact ofProperties_ok formats
  | _ => rfl

/-- The components of an object can be taken if its composition is a list. -/
theorem components_of_list {schema : Located}
    (lists : (schema.node.field "allOf").isPresent →
      ∃ items, schema.node.field "allOf" = .list items) :
    components schema = .ok (schema.field "allOf").items := by
  have same : (schema.field "allOf").node = schema.node.field "allOf" := rfl
  rw [components, same, Node.elementsOrNone]
  split
  · rename_i isPresent
    obtain ⟨items, held⟩ := lists isPresent
    rw [held]
    rfl
  · rfl

/-- A search through such schemas comes to its end. -/
theorem collect_succeeds (searchable : Searchable document start) {unvisited : List Spot}
    {waiting : List Located} (form : ∀ schema ∈ waiting, FormSchema document start schema) :
    ∃ uploads, (collect document sharing unvisited waiting).outcome = .ok uploads := by
  -- The induction is on the objects left to visit, which no circle of references adds to. What is
  -- carried is that only schemas of the form wait, so every step of the search succeeds.
  induction unvisited, waiting using collect.induct sharing with
  | case1 unvisited => exact ⟨[], by rw [collect]; rfl⟩
  | case2 unvisited first rest inside later =>
    obtain ⟨schemaOfForm, others⟩ := List.forall_mem_cons.mp form
    obtain ⟨reached, resolved⟩ := searchable.resolves first schemaOfForm
    rw [collect, Attempt.outcome_bind, resolved]
    dsimp only [Except.bind]
    cases held : reached.node with
    | object members =>
      dsimp only
      split
      · rename_i fresh
        have object : FormObject document start reached :=
          ⟨first, schemaOfForm, resolved, by rw [held]; rfl⟩
        have listed := own_ok held (searchable.formats reached object)
        have taken := components_of_list (searchable.lists reached object)
        have below : ∀ schema ∈ (reached.field "allOf").items ++ rest,
            FormSchema document start schema := by
          intro schema member
          rcases List.mem_append.mp member with member | member
          · exact .component schemaOfForm resolved taken member
          · exact others schema member
        obtain ⟨uploads, collected⟩ := inside reached fresh _ below
        refine ⟨filesAmong (propertiesOf reached) ++ uploads, ?_⟩
        simp only [Attempt.outcome_bind_ok, Attempt.outcome_misfit, Attempt.mapError_ok,
          Attempt.outcome_pure, Except.ok.injEq]
        exact ⟨_, listed, _, taken, uploads, collected, rfl⟩
      · exact later others
    | _ => exact later others

/-- A search for uploads comes to its end, also where schemas refer to one another in a circle. The
objects that the form is made of have one depth-first order of first visit, with each object in it
once, wherever it stands, and the uploads are those that the objects list themselves, in this
order. -/
theorem ofSchema_eq_visits (begins : Begins document outside start)
    (sound : sharing.Sound document outside) (searchable : Searchable document start) :
    ∃ order : List Located, Visits document sharing [] [start] order ∧
      (∀ other, Visits document sharing [] [start] other → other = order) ∧
      (∀ reached ∈ order, FormObject document start reached) ∧
      (∀ reached, FormObject document start reached →
        ∃ met ∈ order, Alike sharing met reached) ∧
      (order.map sharing.identity).Nodup ∧
      (ofSchema document sharing start).outcome =
        .ok (order.flatMap fun reached => filesAmong (propertiesOf reached)) := by
  have succeeds : ∃ uploads, (ofSchema document sharing start).outcome = .ok uploads :=
    collect_succeeds searchable (by simp [FormSchema.here])
  obtain ⟨uploads, collected⟩ := succeeds
  obtain ⟨order, visits, objects, all, rfl⟩ := exists_order_of_ofSchema begins sound collected
  refine ⟨order, visits, fun other again => again.unique visits, objects, all, visits.nodup.1, ?_⟩
  refine collected.trans (congrArg _ (List.flatMap_congr fun reached member => ?_))
  have object := objects reached member
  obtain ⟨_, _, _, isObject⟩ := id object
  obtain ⟨members, held⟩ := Node.exists_of_isObject isObject
  rw [ownUploads, held]
  dsimp only
  rw [own_ok held (searchable.formats reached object)]
  rfl

def referenceTo (name : String) : Node :=
  .object [(.text "$ref", .text (Pointer.ofComponent name))]

theorem localReference?_referenceTo (name : String) :
    (referenceTo name).localReference? = some (Pointer.ofComponent name) := by
  have marked : (Pointer.ofComponent name).toList.head? = some '#' := by
    rw [Pointer.toList_ofComponent]
    rfl
  simp [referenceTo, Node.localReference?, Node.get?, Node.members?, Members.get?, Node.text?,
    marked]

/-- A reference to a component leads to the component, unless that is a reference itself. -/
theorem resolve_referenceTo {schemas : Members}
    (listed : (document.field "components").field "schemas" = .object schemas) {name : String}
    {node : Node} (found : schemas.get? name = some node) (some : name ≠ "")
    (present : node ≠ .null) (free : node.localReference? = none) {schema : Located}
    (refers : schema.node = referenceTo name) :
    (resolve document schema).outcome =
      .ok ⟨true, [.key "components", .key "schemas", .key name], node⟩ := by
  have walked := Pointer.walk_ofComponent listed found some present
  rw [outcome_resolve]
  refine target_of_ends (List.nodup_singleton _) (.next ?_ walked (.here _)) (.concrete free)
  rw [refers, localReference?_referenceTo]

/-- The part of a form, which is composed of the form in turn. -/
def partSchema : Node := .object
  [(.text "allOf", .list [referenceTo "Form"]),
   (.text "properties", .object [(.text "pages", .object [(.text "type", .text "array"),
     (.text "items", .object [(.text "format", .text "base64")])])])]

/-- The schema of a form that is composed of its part, the same part again and itself. -/
def wholeSchema : Node := .object
  [(.text "properties", .object [(.text "avatar", .object [(.text "format", .text "binary")])]),
   (.text "allOf", .list [partSchema, partSchema, referenceTo "Form"])]

def circular : Node := .object [(.text "components",
  .object [(.text "schemas", .object [(.text "Form", wholeSchema)])])]

def wholeForm : Located := ⟨true, [.key "components", .key "schemas", .key "Form"], wholeSchema⟩

/-- The part where it stands first, and where it stands again. -/
def formPart (position : Nat) : Located :=
  ⟨true, wholeForm.steps ++ [.key "allOf", .index position], partSchema⟩

def partTwice : Sharing := [((formPart 1).spot, (formPart 0).spot)]

theorem resolve_whole {schema : Located} (refers : schema.node = referenceTo "Form") :
    (resolve circular schema).outcome = .ok wholeForm := by
  have held : Members.get? [(.text "Form", wholeSchema)] "Form" = some wholeSchema := rfl
  exact resolve_referenceTo rfl held (by decide) (by simp [wholeSchema]) rfl refers

/-- Every schema of the form leads to the form or to its part. -/
theorem resolve_circular {schema : Located} (inside : FormSchema circular wholeForm schema) :
    ∃ reached ∈ [wholeForm, formPart 0, formPart 1],
      (resolve circular schema).outcome = .ok reached := by
  induction inside with
  | here => exact ⟨wholeForm, by simp, rfl⟩
  | component _ resolved taken member ih =>
    obtain ⟨reached, among, leads⟩ := ih
    obtain rfl := Except.ok.inj (resolved.symm.trans leads)
    obtain rfl := components_ok taken
    simp only [List.mem_cons, List.not_mem_nil, or_false] at among
    rcases among with rfl | rfl | rfl
    · simp only [Located.items, Located.field, wholeForm, wholeSchema] at member
      change _ ∈ [formPart 0, formPart 1, ⟨true, _, referenceTo "Form"⟩] at member
      simp only [List.mem_cons, List.not_mem_nil, or_false] at member
      rcases member with rfl | rfl | rfl
      · exact ⟨formPart 0, by simp, rfl⟩
      · exact ⟨formPart 1, by simp, rfl⟩
      · exact ⟨wholeForm, by simp, resolve_whole rfl⟩
    · obtain rfl := List.mem_singleton.mp member
      exact ⟨wholeForm, by simp, resolve_whole rfl⟩
    · obtain rfl := List.mem_singleton.mp member
      exact ⟨wholeForm, by simp, resolve_whole rfl⟩

theorem searchable_circular : Searchable circular wholeForm := by
  have objects {reached : Located} (object : FormObject circular wholeForm reached) :
      reached.node = wholeSchema ∨ reached.node = partSchema := by
    obtain ⟨schema, inside, resolved, _⟩ := object
    obtain ⟨_, among, leads⟩ := resolve_circular inside
    obtain rfl := Except.ok.inj (resolved.symm.trans leads)
    simp only [List.mem_cons, List.not_mem_nil, or_false] at among
    rcases among with rfl | rfl | rfl <;> simp [wholeForm, formPart]
  refine ⟨fun schema inside => ?_, fun reached object _ => ?_, fun reached object => ?_⟩
  · obtain ⟨reached, _, leads⟩ := resolve_circular inside
    exact ⟨reached, leads⟩
  · rcases objects object with held | held
    · exact ⟨_, by rw [held]; rfl⟩
    · exact ⟨_, by rw [held]; rfl⟩
  · intro name property member
    rcases objects object with held | held
    all_goals
      rw [propertiesOf, held] at member
      obtain ⟨_, same⟩ := Prod.mk.inj (List.mem_singleton.mp member)
      obtain rfl := Node.object.inj same
      exact ⟨⟨_, rfl⟩, ⟨_, rfl⟩⟩

/-- Neither the circle nor the part that stands twice has an upload listed twice. -/
theorem ofSchema_circular :
    Begins circular .null wholeForm ∧ partTwice.Sound circular .null ∧
    Searchable circular wholeForm ∧
    (ofSchema circular partTwice wholeForm).outcome =
      .ok [⟨"avatar", false⟩, ⟨"pages", true⟩] := by
  have begins : Begins circular .null wholeForm := .inside fun _ => ⟨rfl, rfl⟩
  have sound : partTwice.Sound circular .null := by
    intro again member
    obtain rfl := List.mem_singleton.mp member
    rfl
  obtain ⟨order, visits, only, _, _, _, listed⟩ :=
    ofSchema_eq_visits begins sound searchable_circular
  have first : partTwice.identity (formPart 1) = partTwice.identity (formPart 0) := by decide
  have other : partTwice.identity (formPart 0) ≠ partTwice.identity wholeForm := by decide
  -- The part is visited once, and each reference to the form is passed.
  let referring : Located := ⟨true, wholeForm.steps ++ [.key "allOf", .index 2], referenceTo "Form"⟩
  have inside : Visits circular partTwice
      ([partTwice.identity wholeForm] ++ [partTwice.identity (formPart 0)])
      ((formPart 0).field "allOf").items [] :=
    .passed (resolve_whole rfl) (fun _ => by simp) .done
  have behind : Visits circular partTwice
      ([partTwice.identity wholeForm] ++ [formPart 0].map partTwice.identity)
      [formPart 1, referring] [] :=
    .passed rfl (fun _ => by simp [first])
      (.passed (resolve_whole rfl) (fun _ => by simp) .done)
  have below : Visits circular partTwice [partTwice.identity wholeForm]
      (wholeForm.field "allOf").items [formPart 0] :=
    .visited rfl rfl (by simpa using other) inside behind
  have walk : Visits circular partTwice [] [wholeForm] [wholeForm, formPart 0] :=
    .visited rfl rfl List.not_mem_nil below .done
  obtain rfl := only _ walk
  exact ⟨begins, sound, searchable_circular, listed⟩

end ApiBindings.Upload
