import ApiBindings.Proofs.Declaration.Parameters
import ApiBindings.Proofs.Reference.Followed
import ApiBindings.Proofs.Service.Built
import ApiBindings.Proofs.Service.Grouping
import ApiBindings.Emission.Template
import ApiBindings.Proofs.Text.Romanization
import Mathlib.Data.List.Pairwise

/-!
# Arguments of a function

A function takes its parameters, its body, its uploads and its options as arguments. An upload is
named by the key of the property that carries it, just as the key is written in the document. So the
arguments are apart and legal exactly if the keys are: within each object of the form, between any
two of them, and from the names the template has for the other arguments.
-/
namespace ApiBindings

open Reference ServiceBuilder

/-- The letters beyond ASCII that an identifier may start with, and those it may go on with. -/
structure Alphabet where
  starts : Char → Bool
  continues : Char → Bool

namespace Alphabet

def isStart (alphabet : Alphabet) (c : Char) : Bool :=
  if Text.isAscii c then c.isAlpha || c == '_' || c == '$' else alphabet.starts c

def isPart (alphabet : Alphabet) (c : Char) : Bool :=
  if Text.isAscii c then Text.isAsciiWord c || c == '$' else alphabet.continues c

def isIdentifier (alphabet : Alphabet) (name : String) : Bool :=
  match name.toList with
  | [] => false
  | c :: rest => alphabet.isStart c && rest.all alphabet.isPart

/-- Words that are reserved in modules only. -/
def moduleWords : List String :=
  ["await", "implements", "interface", "let", "package", "private", "protected", "public", "static",
   "yield"]

/-- Whether an argument can have this name. -/
def isArgument (alphabet : Alphabet) (name : String) : Bool :=
  alphabet.isIdentifier name && !TypeName.isReserved name && !moduleWords.contains name

end Alphabet

namespace Template

/-- The arguments of a function, each with what is written behind its name. -/
def argumentLines (namespaceName : String) (view : FunctionView) : List (String × String) :=
  (if view.hasParameters then [("params", ": " ++ parametersType namespaceName view)] else [])
    ++ (match view.body with
      | some (type, _) => [("body", ": " ++ type)]
      | none => [])
    ++ view.uploads.map (fun (title, multiple) => (title, "?: File" ++ only multiple "[]"))
    ++ [("options", "?: \x7b [key: string]: any \x7d")]

theorem arguments_eq (namespaceName : String) (view : FunctionView) :
    arguments namespaceName view = String.join ((argumentLines namespaceName view).map
      fun (name, type) => "  " ++ name ++ type ++ ",\n") := by
  unfold arguments argumentLines
  rw [← String.toList_inj]
  cases view.hasParameters <;> cases view.body <;>
    simp [only, String.toList_join, List.flatMap_map, Function.comp_def]

/-- The names of the arguments other than uploads. -/
def fixedArguments (view : FunctionView) : List String :=
  (if view.hasParameters then ["params"] else []) ++ (if view.body.isSome then ["body"] else [])
    ++ ["options"]

theorem argumentNames_perm (namespaceName : String) (entry : Entry) :
    let view := FunctionView.ofEntry entry
    ((argumentLines namespaceName view).map (·.1)).Perm
      ((entry.uploads.getD []).map (·.title) ++ fixedArguments view) := by
  intro view
  have names : (argumentLines namespaceName view).map (·.1) =
      ((if view.hasParameters then ["params"] else []) ++
        (if view.body.isSome then ["body"] else [])) ++
        ((entry.uploads.getD []).map (·.title) ++ ["options"]) := by
    have titles : view.uploads.map (·.1) = (entry.uploads.getD []).map (·.title) := by
      simp [view, FunctionView.ofEntry, Function.comp_def]
    rw [← titles]
    unfold argumentLines
    cases view.hasParameters <;> cases view.body <;> simp [Function.comp_def]
  rw [names, fixedArguments]
  exact List.perm_append_comm_assoc ..

theorem nodup_fixedArguments (view : FunctionView) : (fixedArguments view).Nodup := by
  unfold fixedArguments
  cases view.hasParameters <;> cases view.body <;> simp

theorem fixedArguments_subset (view : FunctionView) :
    fixedArguments view ⊆ ["params", "body", "options"] := by
  unfold fixedArguments
  cases view.hasParameters <;> cases view.body <;> simp

theorem isArgument_fixed (alphabet : Alphabet) {view : FunctionView} {name : String}
    (member : name ∈ fixedArguments view) : alphabet.isArgument name = true := by
  -- The names are written in ASCII, so what is beyond does not matter.
  have either := fixedArguments_subset view member
  simp only [List.mem_cons, List.not_mem_nil, or_false] at either
  rcases either with rfl | rfl | rfl <;> rfl

end Template

namespace ServiceBuilder

variable {builder : ServiceBuilder}

/-- The names of the uploads that an object of a form lists. -/
def uploadNames (schema : Located) : List String :=
  (Upload.ownUploads schema).map (·.title)

section

variable [Text.Romanization]

/-- The uploads of an entry are those of the form that its operation sends, if it sends one. -/
theorem Builds.uploads {tag functionName : String} {operation : Operation} {entry : Entry}
    (builds : builder.Builds tag operation functionName entry) :
    (∀ start, IsForm builder.document operation start →
        (Upload.ofSchema builder.document builder.sharing start).outcome =
          .ok (entry.uploads.getD [])) ∧
      ((∀ start, ¬ IsForm builder.document operation start) → entry.uploads = none) := by
  obtain ⟨parts, read, finished⟩ := builds
  obtain ⟨_, _, _, _, same⟩ := finish_unmarked finished
  have uploads : entry.uploads = parts.uploads := by rw [same]; rfl
  simp only [ServiceBuilder.parts, Attempt.outcome_bind_ok, Attempt.outcome_pure,
    Except.ok.injEq] at read
  obtain ⟨_, _, _, _, _, _, listed, form, _, _, _, _, rfl⟩ := read
  rw [uploads]
  obtain ⟨body, resolved, collected⟩ := (Attempt.outcome_bind_ok ..).mp form
  cases held : (body.node.field "content").get? "multipart/form-data" with
  | none =>
    rw [held] at collected
    obtain rfl := Except.ok.inj collected
    refine ⟨fun start isForm => ?_, fun _ => rfl⟩
    obtain ⟨body', resolved', present, _⟩ := isForm
    obtain rfl := Except.ok.inj (resolved.symm.trans resolved')
    rw [held] at present
    cases present
  | some media =>
    rw [held] at collected
    obtain ⟨found, made, collected⟩ := (Attempt.outcome_bind_ok ..).mp collected
    obtain rfl := Except.ok.inj collected
    refine ⟨fun start isForm => ?_, fun none => ?_⟩
    · obtain ⟨body', resolved', _, rfl⟩ := isForm
      obtain rfl := Except.ok.inj (resolved.symm.trans resolved')
      rw [made]
      -- An entry without uploads is kept as one that has none to list.
      cases found <;> rfl
    · exact absurd ⟨body, resolved, by rw [held]; rfl, rfl⟩ (none _)

/-- The uploads of a form can be arguments beside others: their names are apart within each object
of the form and between any two, legal, and none of the others. Two places of one object are not
told apart. -/
structure FitsArguments (alphabet : Alphabet) (document : Node) (sharing : Sharing)
    (start : Located) (others : List String) : Prop where
  within : ∀ reached, Upload.FormObject document start reached → (uploadNames reached).Nodup
  between : ∀ reached other, Upload.FormObject document start reached →
    Upload.FormObject document start other → sharing.identity reached ≠ sharing.identity other →
      (uploadNames reached).Disjoint (uploadNames other)
  legal : ∀ reached, Upload.FormObject document start reached → ∀ name ∈ uploadNames reached,
    alphabet.isArgument name = true ∧ name ∉ others

omit [Text.Romanization] in
theorem uploadNames_alike {sharing : Sharing} {one other : Located}
    (alike : Located.Alike sharing one other) : uploadNames one = uploadNames other := by
  rw [uploadNames, uploadNames, Upload.ownUploads, Upload.ownUploads, alike.node]

omit [Text.Romanization] in
/-- Where items are told apart by a mark, the parts of all of them are apart if those of any two
with different marks are. -/
theorem nodup_flatMap_iff {α β γ : Type} {items : List α} {mark : α → γ}
    (distinct : (items.map mark).Nodup) (parts : α → List β) :
    (items.flatMap parts).Nodup ↔ (∀ item ∈ items, (parts item).Nodup) ∧
      ∀ item ∈ items, ∀ other ∈ items, mark item ≠ mark other →
        (parts item).Disjoint (parts other) := by
  rw [List.nodup_flatMap]
  refine and_congr_right fun _ => ⟨fun apart => ?_, fun apart => ?_⟩
  · intro item member other member' differ
    have symmetric : Std.Symm (Function.onFun List.Disjoint parts) :=
      ⟨fun _ _ disjoint => disjoint.symm⟩
    exact apart.forall member member' fun same => differ (congrArg mark same)
  · refine (List.Nodup.of_map mark distinct).pairwise_of_forall_ne fun item member other member'
      differ => apart item member other member' fun same => differ ?_
    exact List.inj_on_of_nodup_map distinct member member' same

omit [Text.Romanization] in
/-- The arguments of a function are apart and legal if its uploads fit in. -/
theorem legal_iff_fitsArguments {alphabet : Alphabet} {document : Node} {sharing : Sharing}
    {start : Located} {found : List Located} (distinct : (found.map sharing.identity).Nodup)
    (objects : ∀ reached ∈ found, Upload.FormObject document start reached)
    (all : ∀ reached, Upload.FormObject document start reached →
      ∃ met ∈ found, Located.Alike sharing met reached)
    {others : List String} (apart : others.Nodup)
    (legal : ∀ name ∈ others, alphabet.isArgument name = true) {names : List String}
    (listed : names.Perm (found.flatMap uploadNames ++ others)) :
    (names.Nodup ∧ ∀ name ∈ names, alphabet.isArgument name = true) ↔
      FitsArguments alphabet document sharing start others := by
  -- The other arguments are legal by themselves, so only those for uploads matter.
  have each : (∀ name ∈ names, alphabet.isArgument name = true) ↔
      ∀ reached ∈ found, ∀ name ∈ uploadNames reached, alphabet.isArgument name = true := by
    constructor
    · intro each reached member name among
      exact each name (listed.mem_iff.mpr
        (List.mem_append_left _ (List.mem_flatMap.mpr ⟨reached, member, among⟩)))
    · intro each name among
      rcases List.mem_append.mp (listed.mem_iff.mp among) with upload | other
      · obtain ⟨reached, member, among⟩ := List.mem_flatMap.mp upload
        exact each reached member name among
      · exact legal name other
  rw [listed.nodup_iff, List.nodup_append', nodup_flatMap_iff distinct, each]
  constructor
  · rintro ⟨⟨⟨within, between⟩, _, free⟩, each⟩
    -- An object lists the same names where it was met.
    refine ⟨fun reached object => ?_, fun reached other object object' differ => ?_,
      fun reached object name among => ?_⟩
    · obtain ⟨met, member, alike⟩ := all reached object
      rw [← uploadNames_alike alike]
      exact within met member
    · obtain ⟨met, member, alike⟩ := all reached object
      obtain ⟨met', member', alike'⟩ := all other object'
      rw [← uploadNames_alike alike, ← uploadNames_alike alike']
      exact between met member met' member' (by rwa [alike.identity, alike'.identity])
    · obtain ⟨met, member, alike⟩ := all reached object
      rw [← uploadNames_alike alike] at among
      exact ⟨each met member name among,
        free (List.mem_flatMap.mpr ⟨met, member, among⟩)⟩
  · intro fits
    refine ⟨⟨⟨fun reached member => fits.within reached (objects reached member),
      fun reached member other member' => fits.between reached other (objects reached member)
        (objects other member')⟩, apart, fun name among other => ?_⟩,
      fun reached member name among =>
        (fits.legal reached (objects reached member) name among).1⟩
    obtain ⟨reached, member, among⟩ := List.mem_flatMap.mp among
    exact (fits.legal reached (objects reached member) name among).2 other

/-- Every service file lists the arguments of its function one by one. Their names are apart and
legal exactly if the operation sends no form, or one whose uploads fit in with the other arguments;
whichever letters beyond ASCII are taken for legal. -/
theorem argumentNames_legal_iff (alphabet : Alphabet) (document : Node) (sharing : Sharing)
    (settings : Settings) (builder : ServiceBuilder) (groups : List TagGroup)
    (mappings : List GatewayMapping) (keys : document.KeysOnce)
    (sound : sharing.Sound document .null)
    (created : ServiceBuilder.create document sharing settings = .ok builder)
    (returned : builder.groups.value = (.ok groups, mappings)) (group : TagGroup)
    (among : group ∈ groups) (entry : Entry) (member : entry ∈ group.entries) :
    let view := FunctionView.ofEntry entry
    let lines := Template.argumentLines settings.namespaceName view
    Template.arguments settings.namespaceName view =
        String.join (lines.map fun (name, type) => "  " ++ name ++ type ++ ",\n") ∧
      ∃ tag operation, HasFunction document operation ∧
        builder.Builds tag operation entry.functionName entry ∧
        (((lines.map (·.1)).Nodup ∧ ∀ name ∈ lines.map (·.1), alphabet.isArgument name = true) ↔
          ∀ start, IsForm document operation start →
            FitsArguments alphabet document sharing start (Template.fixedArguments view)) := by
  intro view lines
  refine ⟨Template.arguments_eq _ view, ?_⟩
  obtain ⟨tag, operation, function, builds⟩ := exists_builds returned among member
  obtain ⟨ofForm, ofNone⟩ := builds.uploads
  obtain rfl := document_of_create created
  obtain rfl := sharing_of_create created
  refine ⟨tag, operation, function, builds, ?_⟩
  have listed : (lines.map (·.1)).Perm
      ((entry.uploads.getD []).map (·.title) ++ Template.fixedArguments view) :=
    Template.argumentNames_perm settings.namespaceName entry
  have apart := Template.nodup_fixedArguments view
  have legal : ∀ name ∈ Template.fixedArguments view, alphabet.isArgument name = true :=
    fun name => Template.isArgument_fixed alphabet
  by_cases sends : ∃ start, IsForm builder.document operation start
  · obtain ⟨start, form⟩ := sends
    have placed := Followed.placed_of_isForm form
      (Followed.standsIn_of_hasOperation keys.pathItems function.1)
    obtain ⟨found, visits, objects, all, collected⟩ :=
      Upload.exists_order_of_ofSchema (.inside placed) sound (ofForm start form)
    rw [collected, List.map_flatMap] at listed
    rw [legal_iff_fitsArguments visits.nodup.1 objects all apart legal listed]
    refine ⟨fun fits other form' => ?_, fun each => each start form⟩
    -- An operation sends one form at most.
    obtain ⟨body, resolved, _, rfl⟩ := form
    obtain ⟨body', resolved', _, rfl⟩ := form'
    obtain rfl := Except.ok.inj (resolved.symm.trans resolved')
    exact fits
  · refine iff_of_true ?_ fun start form => absurd ⟨start, form⟩ sends
    rw [ofNone fun start form => sends ⟨start, form⟩] at listed
    exact ⟨listed.nodup_iff.mpr apart, fun name among => legal name (listed.mem_iff.mp among)⟩

/-- A run over one operation returns its entry, if one can be built. -/
theorem exists_groups_only {tag : String} {operation : Operation}
    (collected : builder.collect.outcome = .ok [(tag, [operation])])
    (function : ServicePath.hasExpression operation.path = false)
    (unfiltered : builder.settings.generateApis = [])
    (built : ∀ functionName, ∃ entry, builder.Builds tag operation functionName entry) :
    ∃ groups mappings, builder.groups.value = (.ok groups, mappings) ∧
      ∃ group ∈ groups, ∃ entry ∈ group.entries,
        builder.Builds tag operation entry.functionName entry := by
  have supports : supported [operation] = [operation] := by simp [supported, function]
  obtain ⟨groups, mappings, returned⟩ := exists_groups_iff.mpr ⟨_, collected,
    List.forall_mem_singleton.mpr fun claim member => by
      rw [supports] at member
      obtain rfl : claim.1 = operation := by simpa using (List.of_mem_zip member).1
      exact built claim.2⟩
  refine ⟨groups, mappings, returned, ?_⟩
  obtain ⟨filed, lists, collected', all, rfl, _⟩ := groups_ok returned
  obtain rfl := Except.ok.inj (collected.symm.trans collected')
  have gathers := forall₂_gathers all unfiltered
  rw [List.filter_cons_of_pos (by simp [supports])] at gathers
  obtain ⟨group, among, gathers⟩ := exists_of_forall₂ gathers List.mem_cons_self
  obtain ⟨entries, builds, _, sorted⟩ := gathers.gathered
  rw [supports] at builds
  obtain ⟨entry, member, builds⟩ := exists_of_forall₂ builds.forall₂ List.mem_cons_self
  exact ⟨group, among, entry, sorted.perm.mem_iff.mpr member, builds⟩

/-- The schema of a file. -/
def fileSchema : Node :=
  .object [(.text "type", .text "string"), (.text "format", .text "binary")]

/-- The operation of a document that sends a form with files of these titles. -/
def sending (titles : List String) : Operation :=
  let schema : Node := .object [(.text "properties", .object
    (titles.map fun title => (.text title, fileSchema)))]
  let fields : Members :=
    [(.text "operationId", .text "send"), (.text "tags", .list [.text "default"]),
      (.text "requestBody", .object [(.text "content", .object
        [(.text "multipart/form-data", .object [(.text "schema", schema)])])])]
  ⟨"/files", "post", fields, [(.text "post", .object fields)]⟩

def withFiles (titles : List String) : Node :=
  .object [(.text "paths", .object [(.text "/files", .object (sending titles).pathItem)])]

/-- The schema of the form, at its place. -/
def formOf (titles : List String) : Located :=
  let content := ((located (sending titles)).field "requestBody").field "content"
  (content.field "multipart/form-data").field "schema"

omit [Text.Romanization] in
theorem isForm_iff (titles : List String) (start : Located) :
    IsForm (withFiles titles) (sending titles) start ↔ start = formOf titles := by
  have resolved : (Reference.resolve (withFiles titles)
      ((located (sending titles)).field "requestBody")).outcome =
        .ok ((located (sending titles)).field "requestBody") := rfl
  constructor
  · rintro ⟨body, resolved', _, rfl⟩
    obtain rfl := Except.ok.inj (resolved.symm.trans resolved')
    rfl
  · rintro rfl
    exact ⟨_, resolved, rfl, rfl⟩

omit [Text.Romanization] in
theorem own_formOf (titles : List String) :
    Upload.own [(.text "properties", .object (titles.map fun title => (.text title, fileSchema)))] =
      .ok (titles.map fun title => ⟨title, false⟩) := by
  show Upload.ofProperties (titles.map fun title => (.text title, fileSchema)) = _
  induction titles with
  | nil => rfl
  | cons title rest ih =>
    have isFile : RequestBody.isFile [(.text "type", .text "string"),
      (.text "format", .text "binary")] = .ok true := rfl
    have single : RequestBody.isMultiple [(.text "type", .text "string"),
      (.text "format", .text "binary")] = false := by decide +kernel
    rw [List.map_cons, fileSchema, Upload.ofProperties, isFile, single]
    simp only [fileSchema] at ih
    simp [bind, Except.bind, pure, Except.pure, ih, Scalar.display, Scalar.displayWith]

omit [Text.Romanization] in
theorem ofSchema_formOf (titles : List String) :
    (Upload.ofSchema (withFiles titles) [] (formOf titles)).outcome =
      .ok (titles.map fun title => ⟨title, false⟩) := by
  have listed : Sharing.identity [] (formOf titles) ∈
      Upload.objects (withFiles titles) [] (formOf titles) :=
    List.mem_map_of_mem (List.mem_append_left _
      (List.mem_map.mpr ⟨_, Upload.mem_objectPlaces [] rfl, rfl⟩))
  rw [Upload.ofSchema, Upload.collect, Attempt.outcome_bind_ok]
  refine ⟨formOf titles, rfl, ?_⟩
  have isObject : (formOf titles).node = .object [(.text "properties", .object
    (titles.map fun title => (.text title, fileSchema)))] := rfl
  have alone : Upload.components (formOf titles) = .ok [] := rfl
  simp only [isObject, listed, ↓reduceDIte]
  simp only [Attempt.outcome_bind_ok, Attempt.outcome_misfit, Attempt.mapError_ok]
  refine ⟨_, own_formOf titles, [], alone, [], ?_, ?_⟩
  · simp [Upload.collect]
  · simp

omit [Text.Romanization] in
/-- The form is the only object of its own. -/
theorem formObject_formOf {titles : List String} {reached : Located}
    (object : Upload.FormObject (withFiles titles) (formOf titles) reached) :
    reached = formOf titles := by
  have resolved : (Reference.resolve (withFiles titles) (formOf titles)).outcome =
    .ok (formOf titles) := rfl
  have alone : Upload.components (formOf titles) = .ok [] := rfl
  have only {schema : Located}
      (inside : Upload.FormSchema (withFiles titles) (formOf titles) schema) :
      schema = formOf titles := by
    induction inside with
    | here => rfl
    | component inside resolved' taken member ih =>
      subst ih
      obtain rfl := Except.ok.inj (resolved.symm.trans resolved')
      obtain rfl := Except.ok.inj (alone.symm.trans taken)
      cases member
  obtain ⟨schema, inside, resolved', _⟩ := object
  obtain rfl := only inside
  exact Except.ok.inj (resolved'.symm.trans resolved)

/-- The builder for this document. -/
def forFiles (titles : List String) : ServiceBuilder :=
  ⟨withFiles titles, [], Settings.ofSource "openapi.json", Namer.create "API" ["/files"] .none 20⟩

theorem exists_entry_of_files (titles : List String)
    (body : ((RequestBody.ofNode? (forFiles titles).context
      ((sending titles).field "requestBody")).outcome.toOption.isSome) = true) :
    ∃ groups mappings, (forFiles titles).groups.value = (.ok groups, mappings) ∧
      ∃ group ∈ groups, ∃ entry ∈ group.entries,
        (entry.uploads.getD []).map (·.title) = titles := by
  let builder := forFiles titles
  let operation := sending titles
  -- The search for uploads does not evaluate, so the run is put together from its steps.
  have form := (isForm_iff titles _).mpr rfl
  have unopened : ServicePath.hasExpression "/files" = false := by decide +kernel
  have collected : builder.collect.outcome = .ok [("__openAPI__default", [operation])] := by
    have reserved : TypeName.isReserved "default" = true := by decide
    have sanitized : (TypeName.sanitize "API" "default").value = "__openAPI__default" := by
      rw [TypeName.sanitize, if_pos reserved]
      rfl
    refine (collect_ok builder _).mpr ⟨[operation], [["default"]], rfl, .cons rfl .nil, ?_⟩
    show _ = fileAll [((TypeName.sanitize "API" "default").value, operation)]
    rw [sanitized]
    rfl
  have read : ∃ parts, (builder.parts operation).outcome = .ok parts := by
    obtain ⟨body, described⟩ := Attempt.exists_outcome _ body
    have collected : ∃ uploads, (Upload.ofBody? builder.document builder.sharing
        ((located operation).field "requestBody")).outcome = .ok uploads :=
      ⟨_, (Attempt.outcome_bind_ok ..).mpr
        ⟨_, rfl, (Attempt.outcome_bind_ok ..).mpr ⟨_, ofSchema_formOf titles, rfl⟩⟩⟩
    obtain ⟨uploads, collected⟩ := collected
    simp only [ServiceBuilder.parts, Attempt.outcome_bind_ok]
    refine ⟨_, _, rfl, _, rfl, body, described, uploads, collected, _, rfl, _, rfl, rfl⟩
  have built (functionName : String) :
      ∃ entry, builder.Builds "__openAPI__default" operation functionName entry := by
    obtain ⟨parts, read⟩ := read
    exact ⟨_, parts, read, finish_ok.mpr ⟨_, _, rfl, rfl, rfl⟩⟩
  obtain ⟨groups, mappings, returned, group, among, entry, member, builds⟩ :=
    exists_groups_only collected unopened rfl built
  refine ⟨groups, mappings, returned, group, among, entry, member, ?_⟩
  have listed := builds.uploads.1 _ form
  rw [← Except.ok.inj ((ofSchema_formOf titles).symm.trans listed), List.map_map]
  exact List.map_id _

end

theorem keysOnce_withFiles {titles : List String} (distinct : titles.Nodup) :
    (withFiles titles).KeysOnce := by
  have single {key : Scalar} {value : Node} (inside : value.KeysOnce) :
      (Node.object [(key, value)]).KeysOnce := .object _ (by simp) (by simpa using inside)
  have file : fileSchema.KeysOnce := .object _ (by decide) (by simp [Node.KeysOnce.scalar])
  have files : (Node.object (titles.map fun title => (.text title, fileSchema))).KeysOnce := by
    refine .object _ ?_ (by simpa using fun _ _ => file)
    rw [List.map_map]
    exact distinct.map fun _ _ same => Scalar.text.inj same
  refine single (single (single (.object _ (by simp) ?_)))
  simp only [List.forall_mem_cons, List.not_mem_nil, false_implies, implies_true, and_true]
  refine ⟨.scalar _, .list _ (by simp [Node.KeysOnce.scalar]), ?_⟩
  exact single (single (single (single files)))

theorem argumentNames_legal_of_file :
    let document := withFiles ["file"]
    let settings := Settings.ofSource "openapi.json"
    ∃ builder groups mappings, document.KeysOnce ∧ create document [] settings = .ok builder ∧
      builder.groups.value = (.ok groups, mappings) ∧
      ∃ group ∈ groups, ∃ entry ∈ group.entries,
        let names := (Template.argumentLines settings.namespaceName
          (FunctionView.ofEntry entry)).map (·.1)
        "file" ∈ names ∧ ∀ alphabet : Alphabet,
          names.Nodup ∧ ∀ name ∈ names, alphabet.isArgument name = true := by
  let document := withFiles ["file"]
  let settings := Settings.ofSource "openapi.json"
  have keys : document.KeysOnce := keysOnce_withFiles (by decide)
  obtain ⟨groups, mappings, returned, group, among, entry, member, titles⟩ :=
    exists_entry_of_files ["file"] (by decide +kernel)
  refine ⟨forFiles ["file"], groups, mappings, keys, rfl, returned, group, among, entry, member,
    ?_, fun alphabet => ?_⟩
  · refine (Template.argumentNames_perm settings.namespaceName entry).mem_iff.mpr ?_
    rw [titles]
    exact List.mem_append_left _ List.mem_cons_self
  obtain ⟨_, tag, operation, ⟨has, _⟩, _, legal⟩ := argumentNames_legal_iff alphabet document
    [] settings (forFiles ["file"]) groups mappings keys Sharing.sound_nil rfl returned group among
    entry member
  obtain rfl := has.eq_only rfl
  refine legal.mpr fun start form => ?_
  obtain rfl := (isForm_iff ["file"] start).mp form
  have own : uploadNames (formOf ["file"]) = ["file"] := by decide +kernel
  refine ⟨fun reached object => ?_, fun reached other object object' differ => ?_,
    fun reached object name among => ?_⟩
  · rw [formObject_formOf object, own]
    exact List.nodup_singleton _
  · rw [formObject_formOf object, formObject_formOf object'] at differ
    exact absurd rfl differ
  · rw [formObject_formOf object, own] at among
    obtain rfl := List.mem_singleton.mp among
    exact ⟨rfl, fun other => absurd (Template.fixedArguments_subset _ other) (by decide)⟩

/-- A key with a dash is no name, and an upload can be named like the options. -/
theorem argumentNames_illegal_of_dash :
    let document := withFiles ["my-file", "options"]
    let settings := Settings.ofSource "openapi.json"
    ∃ builder groups mappings, document.KeysOnce ∧ create document [] settings = .ok builder ∧
      builder.groups.value = (.ok groups, mappings) ∧
      ∃ group ∈ groups, ∃ entry ∈ group.entries,
        let names := (Template.argumentLines settings.namespaceName
          (FunctionView.ofEntry entry)).map (·.1)
        ¬ names.Nodup ∧ "my-file" ∈ names ∧
          ∀ alphabet : Alphabet, alphabet.isArgument "my-file" = false := by
  let document := withFiles ["my-file", "options"]
  let settings := Settings.ofSource "openapi.json"
  have keys : document.KeysOnce := keysOnce_withFiles (by decide)
  obtain ⟨groups, mappings, returned, group, among, entry, member, titles⟩ :=
    exists_entry_of_files ["my-file", "options"] (by decide +kernel)
  have listed := Template.argumentNames_perm settings.namespaceName entry
  rw [titles] at listed
  refine ⟨forFiles ["my-file", "options"], groups, mappings, keys, rfl, returned, group, among,
    entry, member, fun apart => ?_, listed.mem_iff.mpr (List.mem_append_left _ List.mem_cons_self),
    fun alphabet => rfl⟩
  have disjoint := (List.nodup_append'.mp (listed.nodup_iff.mp apart)).2.2
  have upload : "options" ∈ ["my-file", "options"] := by decide
  exact disjoint upload (by simp [Template.fixedArguments])

end ServiceBuilder

end ApiBindings
