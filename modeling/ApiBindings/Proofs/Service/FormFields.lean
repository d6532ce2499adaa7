import ApiBindings.Proofs.Reference.Followed
import ApiBindings.Proofs.Service.UploadOrder
import ApiBindings.Proofs.Text.Romanization

/-!
# Fields of a form

A form with parts is read twice. Its body lists the properties that carry no files, and the search
for uploads lists those that do. Both ask the same question of each property that is an object, so
where the schema of the form stands in the form itself and is no composition, each of these
properties is sent once. Properties go by what their keys are written as. A key that is no text may
be written like one that is, and only then can the body and the uploads share a name.
-/
namespace ApiBindings

open Located Reference

theorem Reference.resolveNode_of_resolve {document : Node} {located reached : Located}
    (resolved : (resolve document located).outcome = .ok reached) :
    (resolveNode document located.node).outcome = .ok reached.node := by
  rw [outcome_resolve, target] at resolved
  rw [resolveNode, Attempt.outcome_bind_ok]
  simp only [outcome_resolve, target, Located.outside, Attempt.outcome_pure, Except.ok.injEq]
  -- A node that is no reference stays where it is, and a pointer does not ask where it stands.
  split at resolved
  · obtain rfl := Except.ok.inj resolved
    exact ⟨_, rfl, rfl⟩
  · exact ⟨reached, resolved, rfl⟩

/-- The properties that are described by an object, in their order. -/
def formFields (properties : Members) : List (Scalar × Members) :=
  properties.filterMap fun (key, property) => property.members?.map (key, ·)

/-- The names of some fields. -/
def fieldNames (fields : List (Scalar × Members)) : List String := fields.map (·.1.display)

theorem formFields_object (key : Scalar) (property rest : Members) :
    formFields ((key, .object property) :: rest) = (key, property) :: formFields rest := rfl

namespace RequestBody

variable {context : SchemaContext}

theorem isFileFormat_ok {format : Node} {file : Bool} (tested : isFileFormat format = .ok file) :
    file = Upload.saysFile format := by
  cases format with
  | scalar word => exact (Except.ok.inj ((Upload.isFileFormat_scalar word).symm.trans tested)).symm
  | _ => cases tested

/-- Where it can be told whether a property carries files, it is what its formats say. -/
theorem isFile_eq_carriesFile {property : Members} {file : Bool}
    (tested : isFile property = .ok file) : file = Upload.carriesFile property := by
  unfold isFile at tested
  unfold Upload.carriesFile
  cases own : isFileFormat (Members.field property "format") with
  | error reason => simp [own, bind, Except.bind] at tested
  | ok itself =>
    rw [← isFileFormat_ok own]
    cases itself with
    | true => simpa [own, bind, Except.bind, pure, Except.pure, eq_comm] using tested
    | false =>
      -- Only a list of values is asked for what it lists.
      cases multiple : isMultiple property with
      | false => simpa [own, multiple, bind, Except.bind, pure, Except.pure, eq_comm] using tested
      | true =>
        simp only [own, multiple, bind, Except.bind, if_true, Bool.false_eq_true,
          if_false] at tested
        split at tested
        · rename_i items held
          rw [held]
          exact isFileFormat_ok tested
        · rename_i other
          obtain rfl := Except.ok.inj tested
          have nothing : (Members.field property "items").field "format" = .null := by
            cases held : Members.field property "items" with
            | object items => exact absurd held (other items)
            | _ => rfl
          rw [nothing]
          rfl

variable [Text.Romanization]

/-- The body lists the fields that carry no files. -/
theorem plainProperties_names {required : List Scalar} {properties : Members}
    {found : List BodyProperty}
    (read : (plainProperties context required properties).outcome = .ok found) :
    found.map (·.name) =
      fieldNames ((formFields properties).filter fun field => !Upload.carriesFile field.2) := by
  induction properties generalizing found with
  | nil =>
    obtain rfl := Except.ok.inj read
    rfl
  | cons first rest ih =>
    obtain ⟨key, property⟩ := first
    cases property with
    | object property =>
      rw [plainProperties] at read
      simp only [Attempt.outcome_bind_ok, Attempt.outcome_misfit, Attempt.mapError_ok] at read
      obtain ⟨file, tested, read⟩ := read
      -- A property with a file is passed over, any other is described under its name.
      obtain rfl := isFile_eq_carriesFile tested
      rw [formFields_object]
      split at read
      · rename_i carries
        rw [List.filter_cons_of_neg (by simpa using carries)]
        exact ih read
      · rename_i carries
        simp only [Attempt.outcome_bind_ok, Attempt.outcome_pure, Except.ok.injEq] at read
        obtain ⟨type, _, others, read, rfl⟩ := read
        rw [List.filter_cons_of_pos (by simpa using carries), List.map_cons, ih read]
        rfl
    | _ => exact ih read

end RequestBody

namespace Upload

/-- The uploads of a schema are those of the fields that carry files. -/
theorem ofProperties_titles {properties : Members} {uploads : List Upload}
    (listed : ofProperties properties = .ok uploads) :
    uploads.map (·.title) =
      fieldNames ((formFields properties).filter fun field => carriesFile field.2) := by
  induction properties generalizing uploads with
  | nil =>
    obtain rfl := Except.ok.inj listed
    rfl
  | cons first rest ih =>
    obtain ⟨key, property⟩ := first
    cases property with
    | object property =>
      rw [ofProperties] at listed
      rw [formFields_object]
      cases tested : RequestBody.isFile property with
      | error reason => simp [tested, bind, Except.bind] at listed
      | ok file =>
        -- The test is the one of the plain properties, with the other answer.
        obtain rfl := RequestBody.isFile_eq_carriesFile tested
        simp only [tested, bind, Except.bind] at listed
        split at listed
        · rename_i carries
          cases others : ofProperties rest with
          | error reason => simp [others] at listed
          | ok found =>
            simp only [others, pure, Except.pure, Except.ok.injEq] at listed
            rw [← listed, List.filter_cons_of_pos (by exact carries), List.map_cons, ih others]
            rfl
        · rename_i carries
          rw [List.filter_cons_of_neg (by exact carries)]
          exact ih listed
    | _ => exact ih listed

/-- A search meets the schema that it begins with. -/
theorem identity_mem_objects {document : Node} (sharing : Sharing) {start : Located}
    {members : Members} (placed : start.inDocument = true → StandsIn document start)
    (held : start.node = .object members) :
    sharing.identity start ∈ objects document sharing start := by
  refine List.mem_map_of_mem (List.mem_append.mpr ?_)
  rw [Located.spot]
  cases inDocument : start.inDocument with
  | true =>
    have found := (placed inDocument).found
    rw [held] at found
    exact .inl (List.mem_map_of_mem (mem_objectPlaces [] found))
  | false =>
    rw [held]
    exact .inr (List.mem_map_of_mem List.mem_cons_self)

/-- A search from a schema that is no reference and no composition ends with it. -/
theorem ofSchema_single {document : Node} (sharing : Sharing) {start : Located}
    {members : Members}
    (placed : start.inDocument = true → StandsIn document start)
    (held : start.node = .object members) (free : (members.field "$ref").isPresent = false)
    (simple : (members.field "allOf").isPresent = false) :
    (ofSchema document sharing start).outcome = (own members).mapError .misfit := by
  have resolved : (resolve document start).outcome = .ok start := by
    rw [outcome_resolve, target, held, Followed.free_of_absent free]
  have alone : components start = .ok [] := by
    have absent : (start.node.field "allOf").isPresent = false := by
      rw [held]
      exact simple
    rw [components_of_list fun present => absurd present (by simp [absent])]
    -- What counts as absent holds no components, also if it is a list.
    have same : (start.field "allOf").node = start.node.field "allOf" := rfl
    unfold Located.items
    rw [same]
    split
    · rename_i items isList
      rw [isList] at absent
      have none : items = [] := by simpa [Node.isPresent] using absent
      rw [none]
      rfl
    · rfl
  rw [ofSchema, collect, Attempt.outcome_bind, resolved]
  simp only [Except.bind, held, identity_mem_objects sharing placed held, ↓reduceDIte, alone]
  rw [Attempt.outcome_bind, Attempt.outcome_misfit]
  cases own members with
  | error reason => rfl
  | ok listed => simp [Except.mapError, Except.bind, Attempt.outcome_bind, collect]

end Upload

theorem partition_perm (fields : List (Scalar × Members)) (test : Scalar × Members → Bool) :
    (fieldNames (fields.filter fun field => !test field) ++ fieldNames (fields.filter test)).Perm
      (fieldNames fields) := by
  rw [fieldNames, fieldNames, fieldNames, ← List.map_append]
  exact ((List.perm_append_comm).trans (List.filter_append_perm test fields)).map _

theorem Scalar.exists_of_kind_text {scalar : Scalar} (kind : scalar.kind = .text) :
    ∃ name, scalar = .text name := by
  cases scalar with
  | text name => exact ⟨name, rfl⟩
  | moment value => cases value <;> cases kind
  | _ => cases kind

/-- Of two keys that are written alike at most one is a text. -/
theorem Scalar.kind_ne_of_display {one other : Scalar} (alike : one.display = other.display)
    (differ : one ≠ other) : one.kind ≠ .text ∨ other.kind ≠ .text := by
  by_contra both
  obtain ⟨first, second⟩ := not_or.mp both
  obtain ⟨name, rfl⟩ := exists_of_kind_text (not_not.mp first)
  obtain ⟨name', rfl⟩ := exists_of_kind_text (not_not.mp second)
  exact differ (by simpa [display, displayWith] using alike)

theorem nodup_formFields {properties : Members} (once : (properties.map (·.1)).Nodup) :
    ((formFields properties).map (·.1)).Nodup := by
  refine List.Nodup.sublist ?_ once
  induction properties with
  | nil => exact .slnil
  | cons first rest ih =>
    have later := ih (List.nodup_cons.mp once).2
    obtain ⟨key, property⟩ := first
    cases property with
    | object property => exact later.cons_cons key
    | _ => exact later.cons key

/-- A key that is there once is on one side of a partition. -/
theorem keys_ne_of_partition {fields : List (Scalar × Members)} {test : Scalar × Members → Bool}
    (once : (fields.map (·.1)).Nodup) {one other : Scalar × Members}
    (left : one ∈ fields.filter fun field => !test field) (right : other ∈ fields.filter test) :
    one.1 ≠ other.1 := by
  intro same
  obtain ⟨member, failed⟩ := List.mem_filter.mp left
  obtain ⟨member', passed⟩ := List.mem_filter.mp right
  obtain rfl := List.inj_on_of_nodup_map once member member' same
  simp [passed] at failed

/-- A body that is first of all a form with parts, where the schema of the form is written out: an
object with properties, each under a key of its own, neither a reference nor a composition. -/
structure InlineForm (body : Node) (schema properties : Members) : Prop where
  first : ∃ media others,
    body.field "content" = .object ((.text "multipart/form-data", media) :: others) ∧
      media.field "schema" = .object schema
  object : schema.field "type" = .text "object"
  listed : schema.field "properties" = .object properties
  once : (properties.map (·.1)).Nodup
  free : (schema.field "$ref").isPresent = false
  simple : (schema.field "allOf").isPresent = false

namespace InlineForm

variable {schema properties : Members}

section

variable [Text.Romanization]

/-- The body of such a form reads its properties. -/
theorem read {context : SchemaContext} {node body : Node} (form : InlineForm body schema properties)
    (resolved : (resolveNode context.document node).outcome = .ok body)
    {described : Option RequestBody}
    (read : (RequestBody.ofNode? context node).outcome = .ok described) :
    ∃ request required, described = some request ∧
      (RequestBody.plainProperties context required properties).outcome =
        .ok request.properties := by
  obtain ⟨media, others, first, inline⟩ := form.first
  have opened : RequestBody.content? body =
      some ((.text "multipart/form-data", media) :: others) := by
    rw [RequestBody.content?, first]
  -- A schema that has a type is there.
  have own : RequestBody.mediaSchema media = .object schema := by
    have some : schema ≠ [] := by
      rintro rfl
      have object := form.object
      simp [Members.field, Members.get?] at object
    simp [RequestBody.mediaSchema, inline, Node.isPresent, some]
  unfold RequestBody.ofNode? at read
  rw [Attempt.outcome_bind, SchemaContext.resolve, resolved] at read
  simp only [Except.bind, opened, own, RequestBody.propertiesOf, form.listed, form.object,
    beq_self_eq_true, if_true, Attempt.outcome_bind_ok, Attempt.outcome_misfit, Attempt.mapError_ok,
    Attempt.outcome_pure, Except.ok.injEq] at read
  obtain ⟨found, ⟨required, _, made⟩, type, _, rfl⟩ := read
  exact ⟨_, required, rfl, made⟩

end

/-- The uploads of such a form are among its properties. -/
theorem collected {document : Node} {sharing : Sharing} {body reached : Located}
    (form : InlineForm reached.node schema properties)
    (placed : body.inDocument = true → StandsIn document body)
    (resolved : (resolve document body).outcome = .ok reached) {uploads : Option (List Upload)}
    (collected : (Upload.ofBody? document sharing body).outcome = .ok uploads) :
    ∃ found, Upload.ofProperties properties = .ok found ∧
      uploads = if found.isEmpty then none else some found := by
  obtain ⟨media, others, first, inline⟩ := form.first
  let start := ((reached.field "content").field "multipart/form-data").field "schema"
  have held : start.node = .object schema := by
    show ((reached.node.field "content").field "multipart/form-data").field "schema" = _
    rw [first, ← inline]
    rfl
  have startPlaced : start.inDocument = true → StandsIn document start := by
    intro inDocument
    have stands : StandsIn document reached := by
      rcases eq_or_standsIn_of_resolve resolved with rfl | stands
      · exact placed inDocument
      · exact stands
    have below : Placed document start :=
      ((Placed.field (fun _ => stands) "content").field "multipart/form-data").field "schema"
    exact below (by rw [held]; rfl)
  have kept : (reached.node.field "content").get? "multipart/form-data" = some media := by
    rw [first]
    rfl
  unfold Upload.ofBody? at collected
  rw [Attempt.outcome_bind, resolved] at collected
  simp only [Except.bind, kept, Attempt.outcome_bind_ok, Attempt.outcome_pure,
    Except.ok.injEq] at collected
  obtain ⟨found, searched, rfl⟩ := collected
  rw [Upload.ofSchema_single sharing startPlaced held form.free form.simple, Attempt.mapError_ok,
    Upload.own, form.listed] at searched
  exact ⟨found, searched, rfl⟩

end InlineForm

section

variable [Text.Romanization]

/-- A form that is written out has each property that is an object either in its body or among its
uploads, both in their order, and no key is in both. A name is in both only where one of the two
keys that are written so is no text. -/
theorem formFields_split {context : SchemaContext} {sharing : Sharing} {body reached : Located}
    {schema properties : Members} {described : Option RequestBody} {uploads : Option (List Upload)}
    (placed : body.inDocument = true → StandsIn context.document body)
    (resolved : (resolve context.document body).outcome = .ok reached)
    (form : InlineForm reached.node schema properties)
    (read : (RequestBody.ofNode? context body.node).outcome = .ok described)
    (collected : (Upload.ofBody? context.document sharing body).outcome = .ok uploads) :
    let fields := formFields properties
    let plain := fields.filter fun field => !Upload.carriesFile field.2
    let files := fields.filter fun field => Upload.carriesFile field.2
    ∃ request, described = some request ∧
      request.properties.map (·.name) = fieldNames plain ∧
      (uploads.getD []).map (·.title) = fieldNames files ∧
      (fieldNames plain ++ fieldNames files).Perm (fieldNames fields) ∧
      (∀ field ∈ plain, ∀ file ∈ files, field.1 ≠ file.1 ∧
        (field.1.display = file.1.display → field.1.kind ≠ .text ∨ file.1.kind ≠ .text)) ∧
      (uploads = none ↔ files = []) := by
  intro fields plain files
  obtain ⟨request, required, rfl, made⟩ := form.read (resolveNode_of_resolve resolved) read
  obtain ⟨found, listing, rfl⟩ := form.collected placed resolved collected
  -- Both readings go through the same members, and each keeps what the other passes over.
  have names : request.properties.map (·.name) = fieldNames plain :=
    RequestBody.plainProperties_names made
  have titles : found.map (·.title) = fieldNames files := Upload.ofProperties_titles listing
  have given : (if found.isEmpty then none else some found).getD [] = found := by
    cases found <;> rfl
  refine ⟨request, rfl, names, by rw [given, titles], partition_perm _ _,
    fun field inPlain file inFiles => ?_, ?_⟩
  · have apart := keys_ne_of_partition (nodup_formFields form.once) inPlain inFiles
    exact ⟨apart, fun alike => Scalar.kind_ne_of_display alike apart⟩
  · have empty : found = [] ↔ files = [] := by
      rw [← List.map_eq_nil_iff (f := (·.title)), titles, fieldNames, List.map_eq_nil_iff]
    rw [← empty]
    cases found <;> simp

end

/-- The schema of a form that is written out. -/
def writtenOut (properties : Members) : Members :=
  [(.text "type", .text "object"), (.text "properties", .object properties)]

/-- The body of a request that sends such a form. -/
def sendingForm (properties : Members) : Node :=
  .object [(.text "content", .object [(.text "multipart/form-data",
    .object [(.text "schema", .object (writtenOut properties))])])]

theorem inlineForm_sendingForm {properties : Members} (once : (properties.map (·.1)).Nodup) :
    InlineForm (sendingForm properties) (writtenOut properties) properties :=
  ⟨⟨_, _, rfl, rfl⟩, rfl, rfl, once, rfl, rfl⟩

theorem ofBody?_sendingForm {properties : Members} {found : List Upload}
    (listed : Upload.ofProperties properties = .ok found) :
    (Upload.ofBody? (.object []) [] (.outside (sendingForm properties))).outcome =
      .ok (if found.isEmpty then none else some found) := by
  let schema := (((Located.outside (sendingForm properties)).field "content").field
    "multipart/form-data").field "schema"
  have held : schema.node = .object (writtenOut properties) := rfl
  have searched : (Upload.ofSchema (.object []) [] schema).outcome =
      (Upload.own (writtenOut properties)).mapError .misfit :=
    Upload.ofSchema_single [] (fun inDocument => absurd inDocument Bool.false_ne_true) held
      rfl rfl
  have own : Upload.own (writtenOut properties) = .ok found := listed
  rw [own] at searched
  exact (Attempt.outcome_bind_ok ..).mpr
    ⟨_, rfl, (Attempt.outcome_bind_ok ..).mpr ⟨found, searched, rfl⟩⟩

/-- A photo with a name and some pages. -/
def photoProperties : Members :=
  [(.text "photo", .object [(.text "type", .text "string"), (.text "format", .text "binary")]),
    (.text "name", .object [(.text "type", .text "string")]), (.text "count", .int 2),
    (.text "pages", .object [(.text "type", .text "array"),
      (.text "items", .object [(.text "format", .text "base64")])])]

theorem formFields_split_of_photo :
    let context : SchemaContext := ⟨.object [], "API"⟩
    let body := Located.outside (sendingForm photoProperties)
    InlineForm body.node (writtenOut photoProperties) photoProperties ∧
    ∃ request uploads, (RequestBody.ofNode? context body.node).outcome = .ok (some request) ∧
      (Upload.ofBody? context.document [] body).outcome = .ok (some uploads) ∧
      request.properties.map (·.name) = ["name"] ∧
      uploads.map (·.title) = ["photo", "pages"] := by
  intro context body
  have resolved : (resolve context.document body).outcome = .ok body := rfl
  have form : InlineForm body.node (writtenOut photoProperties) photoProperties :=
    inlineForm_sendingForm (by decide)
  obtain ⟨described, read⟩ := Attempt.exists_outcome (RequestBody.ofNode? context body.node)
    (by decide +kernel)
  have listed : Upload.ofProperties photoProperties =
      .ok [⟨"photo", false⟩, ⟨"pages", true⟩] := by decide +kernel
  have collected : (Upload.ofBody? context.document [] body).outcome =
      .ok (some [⟨"photo", false⟩, ⟨"pages", true⟩]) := ofBody?_sendingForm listed
  have plain : fieldNames ((formFields photoProperties).filter
    fun field => !Upload.carriesFile field.2) = ["name"] := by decide +kernel
  have files : fieldNames ((formFields photoProperties).filter
    fun field => Upload.carriesFile field.2) = ["photo", "pages"] := by decide +kernel
  obtain ⟨request, rfl, names, titles, _, _, _⟩ :=
    formFields_split (fun inDocument => absurd inDocument Bool.false_ne_true) resolved form read
      collected
  rw [plain] at names
  rw [files] at titles
  exact ⟨form, request, _, read, collected, names, titles⟩

/-- A number and a text that are written alike; the second property carries a file. -/
def writtenAlike : Members :=
  [(.int 1, .object [(.text "type", .text "string")]),
    (.text "1", .object [(.text "type", .text "string"), (.text "format", .text "binary")])]

/-- A name can be in the body and among the uploads. -/
theorem formFields_share_name :
    let context : SchemaContext := ⟨.object [], "API"⟩
    let body := Located.outside (sendingForm writtenAlike)
    InlineForm body.node (writtenOut writtenAlike) writtenAlike ∧
    ∃ request uploads, (RequestBody.ofNode? context body.node).outcome = .ok (some request) ∧
      (Upload.ofBody? context.document [] body).outcome = .ok (some uploads) ∧
      "1" ∈ request.properties.map (·.name) ∧ "1" ∈ uploads.map (·.title) := by
  intro context body
  have listed : Upload.ofProperties writtenAlike = .ok [⟨"1", false⟩] := by decide +kernel
  have collected : (Upload.ofBody? context.document [] body).outcome =
      .ok (some [⟨"1", false⟩]) := ofBody?_sendingForm listed
  have named : (RequestBody.ofNode? context body.node).outcome.toOption.map (fun described =>
      described.map fun request => request.properties.map (·.name)) = some (some ["1"]) := by
    decide +kernel
  cases read : (RequestBody.ofNode? context body.node).outcome with
  | error failure => simp [read, Except.toOption] at named
  | ok described =>
    cases described with
    | none => simp [read, Except.toOption] at named
    | some request =>
      have names : request.properties.map (·.name) = ["1"] := by
        simpa [read, Except.toOption] using named
      exact ⟨inlineForm_sendingForm (by decide), request, _, rfl, collected, by simp [names],
        by simp⟩

end ApiBindings
