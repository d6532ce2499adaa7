import ApiBindings.Proofs.Declaration.Parameters
import ApiBindings.Proofs.Declaration.Properties
import ApiBindings.Proofs.Emission.Indent
import ApiBindings.Proofs.Service.LegalNames

/-!
# Comments of the templates

The templates write texts of the document into comments as they are, but for the path of an
operation, in which all asterisks are escaped. So a comment ends early exactly if a summary, a
description or a title that is shown in it holds a closing mark. Neither joining such texts nor
indenting them makes one.
-/
namespace ApiBindings

open Comment (Inert Piece Closed spell)

namespace Template

/-- A comment that shows a text. -/
def docComment (text : String) : Piece := .comment ("* " ++ text ++ " ").toList

/-- What stands in the comment above a function. -/
def commentText (view : FunctionView) : String :=
  view.comment ++ " " ++ view.method ++ " " ++ view.pathInComment

/-- The code of a function behind its comments. -/
def functionCode (namespaceName : String) (view : FunctionView) : String :=
  "export async function " ++ view.functionName ++ "(\n"
    ++ arguments namespaceName view ++ ") \x7b\n"
    ++ pathParameters view ++ formData view ++ request view ++ "\x7d\n"

def functionPieces (namespaceName : String) (view : FunctionView) : List Piece :=
  [.code ['\n'], docComment (commentText view), .code ['\n']]
    ++ (if view.deprecated then [docComment "@deprecated", .code ['\n']] else [])
    ++ [.code (functionCode namespaceName view).toList]

/-- The pieces of a file of functions. -/
def servicePieces (namespaceName requestImport : String) (views : List FunctionView) : List Piece :=
  .code (header ++ requestImport ++ "\n").toList :: views.flatMap (functionPieces namespaceName)

def propertyPieces (nullable : Bool) (property : PropertyView) : List Piece :=
  (match property.comment with
    | some comment => [.code [' ', ' '], docComment comment, .code ['\n']]
    | none => [])
    ++ [.code (propertyLine nullable { property with comment := none }).toList]

def declarationPieces (nullable : Bool) (before : String) : DeclarationView → List Piece
  | .interface name parents properties =>
    .code (before ++ "interface " ++ name
        ++ only (!parents.isEmpty) (" extends " ++ ", ".intercalate parents) ++ " \x7b\n").toList
      :: properties.flatMap (propertyPieces nullable) ++ [.code ['\x7d', '\n']]
  | other => [.code (declaration nullable before other).toList]

/-- The pieces of the file of all declarations. -/
def interfacePieces (namespaceName : String) (nullable : Bool)
    (declarations : List DeclarationView) : List Piece :=
  .code header.toList ::
    if namespaceName = "" then
      declarations.flatMap fun view =>
        .code ['\n'] :: declarationPieces nullable "declare " view ++ [.code ['\n']]
    else
      .code ("\ndeclare namespace " ++ namespaceName ++ " \x7b\n").toList
        :: (declarations.flatMap fun view =>
          .code [' ', ' '] :: reflowPieces false (declarationPieces nullable "" view)
            ++ [.code ['\n']])
        ++ [.code ['\x7d', '\n']]

@[simp] theorem spell_docComment (text : String) (rest : List Piece) :
    spell (docComment text :: rest) = ("/** " ++ text ++ " */").toList ++ spell rest := by
  simp [docComment]

theorem inert_docComment (text : String) :
    Inert ("* " ++ text ++ " ").toList ↔ Inert text.toList := by
  have blank : ' ' ∉ Comment.closing := by decide
  have shown : ("* " ++ text ++ " ").toList = ['*'] ++ ' ' :: (text.toList ++ ' ' :: []) := by
    simp
  rw [shown, Comment.inert_append_cons blank, Comment.inert_append_cons blank]
  exact ⟨fun inert => inert.2.1, fun inert => ⟨by decide, inert, Comment.inert_nil⟩⟩

theorem comment_eq_docComment {body : List Char} {text : String} :
    Piece.comment body = docComment text ↔ body = ("* " ++ text ++ " ").toList := by
  simp [docComment]

theorem toList_join_map {α : Type} (items : List α) (print : α → String) :
    (String.join (items.map print)).toList = items.flatMap fun item => (print item).toList := by
  rw [String.toList_join, List.flatMap_map]

theorem spell_functionPieces (namespaceName : String) (view : FunctionView) :
    spell (functionPieces namespaceName view) = (function namespaceName view).toList := by
  unfold functionPieces function functionComment functionCode
  cases view.deprecated <;> simp [commentText, only]

theorem spell_servicePieces (namespaceName requestImport : String) (views : List FunctionView) :
    spell (servicePieces namespaceName requestImport views) =
      (serviceController namespaceName requestImport views).toList := by
  simp only [servicePieces, serviceController, Comment.spell_code, Comment.spell_flatMap,
    String.toList_append, toList_join_map, spell_functionPieces]

theorem spell_propertyPieces (nullable : Bool) (property : PropertyView) :
    spell (propertyPieces nullable property) = (propertyLine nullable property).toList := by
  unfold propertyPieces propertyLine
  cases property.comment <;> simp

theorem spell_declarationPieces (nullable : Bool) (before : String) (view : DeclarationView) :
    spell (declarationPieces nullable before view) =
      (declaration nullable before view).toList := by
  cases view with
  | interface name parents properties =>
    simp only [declarationPieces, declaration, List.cons_append, Comment.spell_code,
      Comment.spell_append, Comment.spell_flatMap, spell_propertyPieces, String.toList_append,
      toList_join_map]
    simp
  | enumeration name type => simp [declarationPieces]
  | typeAlias name type => simp [declarationPieces]

theorem complete_append (text : String) {last : String} (some : last.toList ≠ [])
    (complete : Complete last.toList) : Complete (text ++ last).toList := by
  rw [Complete, String.toList_append, List.getLast?_append_of_ne_nil _ some]
  exact complete

theorem complete_declaration (nullable : Bool) (before : String) (view : DeclarationView) :
    Complete (declaration nullable before view).toList := by
  cases view with
  | interface name parents properties => exact complete_append _ (by decide) (by decide)
  | enumeration name type => exact complete_append _ (by decide) (by decide)
  | typeAlias name type => exact complete_append _ (by decide) (by decide)

theorem tidy_docComment (text : String) : Tidy (docComment text) := by
  rw [docComment, Tidy, String.toList_append]
  exact List.getLast?_append_of_ne_nil _ (by decide)

theorem tidy_declarationPieces (nullable : Bool) (before : String) (view : DeclarationView) :
    ∀ piece ∈ declarationPieces nullable before view, Tidy piece := by
  have property (property : PropertyView) :
      ∀ piece ∈ propertyPieces nullable property, Tidy piece := by
    have line (property : PropertyView) : Complete (propertyLine nullable property).toList :=
      complete_append _ (by decide) (by decide)
    intro piece member
    rcases List.mem_append.mp member with shown | code
    · split at shown
      · simp only [List.mem_cons, List.not_mem_nil, or_false] at shown
        rcases shown with rfl | rfl | rfl
        · exact show Complete _ by decide
        · exact tidy_docComment _
        · exact show Complete _ by decide
      · cases shown
    · obtain rfl := List.mem_singleton.mp code
      exact line _
  intro piece member
  -- Code ends where a line ends, so the filter that indents it does not look past its end.
  cases view with
  | interface name parents properties =>
    rcases List.mem_append.mp member with inner | last
    · rcases List.mem_cons.mp inner with rfl | inner
      · exact complete_append _ (by decide) (by decide)
      · obtain ⟨shown, _, among⟩ := List.mem_flatMap.mp inner
        exact property shown piece among
    · obtain rfl := List.mem_singleton.mp last
      exact show Complete _ by decide
  | enumeration name type =>
    obtain rfl := List.mem_singleton.mp member
    exact complete_declaration nullable before _
  | typeAlias name type =>
    obtain rfl := List.mem_singleton.mp member
    exact complete_declaration nullable before _

theorem spell_interfacePieces (namespaceName : String) (nullable : Bool)
    (declarations : List DeclarationView) :
    spell (interfacePieces namespaceName nullable declarations) =
      (interface namespaceName nullable declarations).toList := by
  unfold interfacePieces interface
  rw [Comment.spell_code]
  split
  · simp only [Comment.spell_flatMap, List.cons_append, Comment.spell_code, Comment.spell_append,
      spell_declarationPieces, String.toList_append, toList_join_map]
    rfl
  · -- In a namespace each declaration is indented together with its comments.
    have indented (view : DeclarationView) :
        spell (.code [' ', ' '] :: reflowPieces false (declarationPieces nullable "" view)
          ++ [.code ['\n']]) = (indent (declaration nullable "" view) ++ "\n").toList := by
      rw [List.cons_append, Comment.spell_code, Comment.spell_append,
        spell_reflowPieces false (tidy_declarationPieces nullable "" view),
        spell_declarationPieces, String.toList_append,
        indent_eq (complete_declaration nullable "" view)]
      rfl
    rw [Comment.spell_append, Comment.spell_code, Comment.spell_flatMap]
    simp only [indented, String.toList_append, toList_join_map, List.append_assoc]
    rfl

/-- The texts that a declaration shows in comments. -/
def comments : DeclarationView → List String
  | .interface _ _ properties => properties.filterMap fun property => property.comment
  | _ => []

theorem comment_mem_declarationPieces {nullable : Bool} {before : String} {view : DeclarationView}
    {body : List Char} :
    .comment body ∈ declarationPieces nullable before view ↔
      ∃ text ∈ comments view, body = ("* " ++ text ++ " ").toList := by
  have property (property : PropertyView) :
      .comment body ∈ propertyPieces nullable property ↔
        ∃ text, property.comment = some text ∧ body = ("* " ++ text ++ " ").toList := by
    unfold propertyPieces
    cases property.comment <;> simp [docComment]
  cases view with
  | interface name parents properties =>
    simp only [declarationPieces, comments, List.mem_append, List.mem_cons, List.mem_flatMap,
      property, List.mem_filterMap, List.not_mem_nil, or_false, reduceCtorEq, false_or]
    constructor
    · rintro ⟨shown, among, text, held, same⟩
      exact ⟨text, ⟨shown, among, held⟩, same⟩
    · rintro ⟨text, ⟨shown, among, held⟩, same⟩
      exact ⟨shown, among, text, held, same⟩
  | enumeration name type => simp [declarationPieces, comments]
  | typeAlias name type => simp [declarationPieces, comments]

/-- The comments of the declarations are closed if none of the texts in them ends one. -/
theorem closed_interfacePieces_iff (namespaceName : String) (nullable : Bool)
    (declarations : List DeclarationView) :
    Closed (interfacePieces namespaceName nullable declarations) ↔
      ∀ view ∈ declarations, ∀ text ∈ comments view, Inert text.toList := by
  have shown (before : String) (view : DeclarationView) :
      (∀ body, .comment body ∈ declarationPieces nullable before view → Inert body) ↔
        ∀ text ∈ comments view, Inert text.toList := by
    constructor
    · intro inert text among
      refine (inert_docComment text).mp (inert _ ?_)
      exact comment_mem_declarationPieces.mpr ⟨text, among, rfl⟩
    · intro inert body member
      obtain ⟨text, among, rfl⟩ := comment_mem_declarationPieces.mp member
      exact (inert_docComment text).mpr (inert text among)
  -- In a namespace the pieces are indented, which leaves the marks of a comment as they are.
  rw [Comment.closed_iff, interfacePieces]
  split
  · simp only [List.mem_cons, List.mem_flatMap, List.mem_append, List.cons_append,
      List.not_mem_nil, or_false, reduceCtorEq, false_or, ← shown "declare "]
    constructor
    · intro inert view among body member
      exact inert body ⟨view, among, member⟩
    · rintro inert body ⟨view, among, member⟩
      exact inert view among body member
  · simp only [List.mem_cons, List.mem_flatMap, List.mem_append, List.cons_append,
      List.not_mem_nil, or_false, reduceCtorEq, false_or, comment_mem_reflowPieces, ← shown ""]
    constructor
    · intro inert view among body member
      exact (inert_reflow false body).mp (inert _ ⟨view, among, body, member, rfl⟩)
    · rintro inert _ ⟨view, among, body, member, rfl⟩
      exact (inert_reflow false body).mpr (inert view among body member)

theorem closed_servicePieces_iff (namespaceName requestImport : String) (view : FunctionView) :
    Closed (servicePieces namespaceName requestImport [view]) ↔
      Inert (commentText view).toList := by
  have listed {body : List Char} :
      .comment body ∈ servicePieces namespaceName requestImport [view] ↔
        .comment body = docComment (commentText view) ∨
          view.deprecated = true ∧ .comment body = docComment "@deprecated" := by
    simp [servicePieces, functionPieces]
  rw [Comment.closed_iff, ← inert_docComment]
  constructor
  · intro inert
    exact inert _ (listed.mpr (.inl rfl))
  · intro inert body member
    rcases listed.mp member with same | ⟨_, same⟩
    · obtain rfl := comment_eq_docComment.mp same
      exact inert
    · obtain rfl := comment_eq_docComment.mp same
      decide

end Template

namespace ServiceBuilder

/-- The texts of an operation that stand in the comment of its function: summary and description,
or the name of the function where neither is there or the summary repeats it. -/
def shownTexts (operation : Operation) (functionName : String) : List String :=
  if operation.summary == .text functionName then
    [if operation.description.isPresent then operation.description.display else functionName]
  else
    let texts := ([operation.summary, operation.description].filter Node.isPresent).map Node.display
    if " ".intercalate texts = "" then [functionName] else texts

variable {builder : ServiceBuilder}

theorem inert_inComment (path : String) : Inert (ServicePath.inComment path).toList := by
  apply Comment.inert_of_notMem
  rw [ServicePath.inComment, String.toList_ofList, Text.replaceAll_singleton]
  intro member
  obtain ⟨c, _, among⟩ := List.mem_flatMap.mp member
  split at among
  · exact absurd among (by decide)
  · rename_i other
    exact other (List.mem_singleton.mp among).symm

theorem inert_upper {method : String} (known : method ∈ Operation.methods) :
    Inert (Spelling.upper method).toList := by
  have all : ∀ method ∈ Operation.methods, Inert (Spelling.upper method).toList := by
    decide +kernel
  exact all method known

theorem inert_comment (operation : Operation) (functionName : String) :
    Inert ((FunctionView.shown? (comment operation functionName)).getD functionName).toList ↔
      ∀ text ∈ shownTexts operation functionName, Inert text.toList := by
  unfold comment shownTexts FunctionView.shown?
  split
  · cases operation.description.isPresent <;> simp
  · dsimp only
    generalize ([operation.summary, operation.description].filter Node.isPresent).map
      Node.display = texts
    -- Where the texts come to nothing, the name of the function is shown.
    by_cases blank : " ".intercalate texts = ""
    · simp [blank, Node.isPresent, Scalar.isPresent]
    · rw [if_neg blank, ← Comment.inert_intercalate]
      simp [blank, Node.isPresent, Scalar.isPresent, Node.display, Scalar.display,
        Scalar.displayWith]

variable [Text.Romanization]

/-- The comment of a function is closed if none of the texts of its operation ends it. -/
theorem Builds.inert_commentText_iff {tag functionName : String} {operation : Operation}
    {entry : Entry} (builds : builder.Builds tag operation functionName entry)
    (known : operation.method ∈ Operation.methods) :
    Inert (Template.commentText (FunctionView.ofEntry entry)).toList ↔
      ∀ text ∈ shownTexts operation functionName, Inert text.toList := by
  obtain ⟨parts, _, finished⟩ := builds
  obtain ⟨formatted, tags, _, _, same⟩ := finish_unmarked finished
  have blank : ' ' ∉ Comment.closing := by decide
  have spelled (one other another : String) : (one ++ " " ++ other ++ " " ++ another).toList =
      one.toList ++ ' ' :: (other.toList ++ ' ' :: another.toList) := by simp
  -- Blanks keep the texts, the method and the path apart, and the last two never hold a mark.
  rw [Template.commentText, spelled, Comment.inert_append_cons blank,
    Comment.inert_append_cons blank, ← inert_comment]
  rw [same]
  exact ⟨fun inert => inert.1, fun inert => ⟨inert, inert_upper known, inert_inComment _⟩⟩

end ServiceBuilder

namespace DeclarationBuilder

variable {builder : DeclarationBuilder}

/-- The texts of a property that its comment shows. -/
def memberTexts (schema : Members) : List String :=
  ([Members.field schema "title", Members.field schema "description"].filter Node.isPresent).map
    Node.display

/-- The text of a parameter that the comment of its property shows. -/
def parameterTexts (parameter : Members) : List String :=
  ([Members.field parameter "description"].filter Node.isPresent).map Node.display

/-- The comment of a property, if it has one, does not end early. -/
def ShowsInert (property : PropertyDeclaration) : Prop :=
  ∀ text, FunctionView.shown? property.description = some text → Inert text.toList

theorem showsInert_ofMember {source : Scalar × Members} {property : PropertyDeclaration}
    (same : OfMember source property) :
    ShowsInert property ↔ ∀ text ∈ memberTexts source.2, Inert text.toList := by
  rw [ShowsInert, same.2, ← Comment.inert_intercalate]
  have joined : describeProperty source.2 = " ".intercalate (memberTexts source.2) := rfl
  rw [joined, FunctionView.shown?]
  by_cases blank : " ".intercalate (memberTexts source.2) = ""
  · simp [blank, Node.isPresent, Scalar.isPresent, Comment.inert_nil]
  · simp [blank, Node.isPresent, Scalar.isPresent, Node.display, Scalar.display,
      Scalar.displayWith]

theorem showsInert_ofParameter {parameter : Members} {property : PropertyDeclaration}
    (same : OfParameter parameter property) :
    ShowsInert property ↔ ∀ text ∈ parameterTexts parameter, Inert text.toList := by
  have absent : (Node.text "").isPresent = false := rfl
  rw [ShowsInert, same.2, parameterText, parameterTexts, FunctionView.shown?]
  by_cases present : (Members.field parameter "description").isPresent = true
  · simp [present]
  · simp [present, absent]

theorem forall_iff_of_forall₂ {α β : Type} {related : α → β → Prop} {left : α → Prop}
    {right : β → Prop} {items : List α} {results : List β}
    (all : List.Forall₂ related items results)
    (same : ∀ item result, related item result → (right result ↔ left item)) :
    (∀ result ∈ results, right result) ↔ ∀ item ∈ items, left item := by
  induction all with
  | nil => simp
  | cons first _ ih =>
    rw [List.forall_mem_cons, List.forall_mem_cons, ih]
    exact and_congr_left fun _ => same _ _ first

/-- The comments of an object show the descriptions of its properties. -/
theorem comments_ofDeclaration {declaration : Declaration}
    (fits : declaration.body.kind = .object ∨ declaration.body.properties = []) :
    (∀ text ∈ Template.comments (DeclarationView.ofDeclaration declaration), Inert text.toList) ↔
      ∀ property ∈ declaration.body.properties, ShowsInert property := by
  have listed : Template.comments (DeclarationView.ofDeclaration declaration) =
      declaration.body.properties.filterMap fun property =>
        FunctionView.shown? property.description := by
    unfold DeclarationView.ofDeclaration
    dsimp only
    -- Only objects are printed with their properties, but nothing else has any.
    cases kind : declaration.body.kind with
    | object => simp [Template.comments, DeclarationView.ofProperty, Function.comp_def]
    | enumeration | typeAlias =>
      rw [fits.resolve_left (by simp [kind])]
      rfl
  rw [listed]
  simp only [List.mem_filterMap, ShowsInert]
  constructor
  · intro inert property among text shown
    exact inert text ⟨property, among, shown⟩
  · rintro inert text ⟨property, among, shown⟩
    exact inert property among text shown

variable [Text.Romanization]

/-- The comments of the declarations are closed if no title and no description ends one. -/
theorem inert_comments_iff {declarations : List Declaration}
    (declared : builder.declarations.outcome = .ok declarations) :
    ∃ schemas operations, Document.schemas builder.document = .ok schemas ∧
      Document.operations builder.document = .ok operations ∧
      ((∀ declaration ∈ declarations,
          ∀ text ∈ Template.comments (DeclarationView.ofDeclaration declaration),
            Inert text.toList) ↔
        (∀ schema ∈ schemas, ∀ member ∈ declaredProperties schema.2, ∀ text ∈ memberTexts member.2,
            Inert text.toList) ∧
          ∀ operation ∈ operations, ∀ parameter ∈ namedParameters builder.document operation,
            ∀ text ∈ parameterTexts parameter, Inert text.toList) := by
  apply forall_declarations_iff declared
  · intro schema declaration made
    obtain ⟨all, fits⟩ := body_ok (ofComponent_ok made)
    rw [comments_ofDeclaration fits]
    exact forall_iff_of_forall₂ all fun _ _ same => showsInert_ofMember same
  · intro operation result read
    have all := ofParameters?_properties read
    rw [← forall_iff_of_forall₂ all fun _ _ same => showsInert_ofParameter same]
    cases result with
    | none => simp
    | some declaration =>
      have fits : declaration.body.kind = .object := kind_of_ofParameters? read
      simp [comments_ofDeclaration (.inl fits)]

end DeclarationBuilder

namespace Settings

/-- The file of an entry, piece by piece. -/
def entryPieces (settings : Settings) (entry : Entry) : List Piece :=
  Template.servicePieces settings.namespaceName settings.requestImportStatement
    [FunctionView.ofEntry entry]

/-- The file of the declarations, piece by piece. -/
def declarationPieces (settings : Settings) (declarations : List Declaration) : List Piece :=
  Template.interfacePieces settings.namespaceName settings.nullable
    (declarations.map DeclarationView.ofDeclaration)

end Settings

namespace ServiceModel

open DeclarationBuilder (declaredProperties namedParameters memberTexts parameterTexts)

section

variable [Text.Romanization]

/-- The files of a run consist of code and of the comments of the templates. In the file of an entry
the comments end at their own marks exactly if no text of the operation that is shown there ends
one. In the file of the declarations this is so exactly if no title or description of a property and
no description of a parameter ends one. -/
theorem comments_closed_iff (document : Node) (sharing : Sharing) (settings : Settings)
    (model : ServiceModel) (resolved : (ofDocument document sharing settings).outcome = .ok model) :
    (∀ group ∈ model.groups, ∀ entry ∈ group.entries, ∃ operation,
      Document.HasOperation document operation ∧ entry.Carries operation ∧
      (PlannedFile.ofEntry settings group entry).text.toList = spell (settings.entryPieces entry) ∧
      (Closed (settings.entryPieces entry) ↔
        ∀ text ∈ ServiceBuilder.shownTexts operation entry.functionName, Inert text.toList)) ∧
    ∃ schemas operations, Document.schemas document = .ok schemas ∧
      Document.operations document = .ok operations ∧
      (PlannedFile.ofDeclarations settings model.declarations).text.toList =
        spell (settings.declarationPieces model.declarations) ∧
      (Closed (settings.declarationPieces model.declarations) ↔
        (∀ schema ∈ schemas, ∀ member ∈ declaredProperties schema.2, ∀ text ∈ memberTexts member.2,
            Inert text.toList) ∧
          ∀ operation ∈ operations, ∀ parameter ∈ namedParameters document operation,
            ∀ text ∈ parameterTexts parameter, Inert text.toList) := by
  constructor
  · intro group among entry member
    obtain ⟨builder, created, returned⟩ := ofDocument_ok resolved
    obtain ⟨tag, operation, ⟨known, _⟩, builds⟩ :=
      ServiceBuilder.exists_builds returned among member
    rw [ServiceBuilder.document_of_create created] at known
    -- The comment of an entry is made of the texts that the entry took from its operation.
    have carries : entry.Carries operation := by
      obtain ⟨parts, _, finished⟩ := builds
      exact ServiceBuilder.carries_of_finish finished
    refine ⟨operation, known, carries, (Template.spell_servicePieces _ _ _).symm, ?_⟩
    rw [Settings.entryPieces, Template.closed_servicePieces_iff,
      builds.inert_commentText_iff known.method]
  · obtain ⟨builder, created, declared⟩ := declarations_of_ofDocument resolved
    obtain ⟨services, _, rfl⟩ := (DeclarationBuilder.create_ok sharing).mp created
    obtain ⟨schemas, operations, listed, given, shown⟩ :=
      DeclarationBuilder.inert_comments_iff declared
    refine ⟨schemas, operations, listed, given, (Template.spell_interfacePieces _ _ _).symm, ?_⟩
    rw [Settings.declarationPieces, Template.closed_interfacePieces_iff, List.forall_mem_map]
    exact shown

end

/-- A document with one operation, which has a summary and a parameter with a description. -/
def withSummary (summary description : String) : Node :=
  .object [(.text "paths", .object [(.text "/users", .object [(.text "get", .object
    [(.text "operationId", .text "getUser"), (.text "tags", .list [.text "default"]),
      (.text "summary", .text summary), (.text "parameters", .list [.object
        [(.text "name", .text "page"), (.text "in", .text "query"),
          (.text "description", .text description),
          (.text "schema", .object [(.text "type", .text "number")])]])])])])]

theorem comments_closed_of_plainTexts :
    ∃ model, (ofDocument (withSummary "Gets users" "Which page") [] (Settings.ofSource
        "openapi.json")).outcome = .ok model ∧
      (∀ group ∈ model.groups, ∀ entry ∈ group.entries,
        Closed ((Settings.ofSource "openapi.json").entryPieces entry)) ∧
      Closed ((Settings.ofSource "openapi.json").declarationPieces model.declarations) := by
  let document := withSummary "Gets users" "Which page"
  let settings := Settings.ofSource "openapi.json"
  obtain ⟨model, resolved⟩ := Attempt.exists_outcome (ofDocument document [] settings)
    (by decide +kernel)
  obtain ⟨entries, schemas, operations, listed, given, _, declared⟩ :=
    comments_closed_iff document [] settings model resolved
  refine ⟨model, resolved, fun group among entry member => ?_, declared.mpr ⟨?_, ?_⟩⟩
  · obtain ⟨operation, ⟨all, given', known⟩, _, _, closed⟩ := entries group among entry member
    refine closed.mpr fun text shown => ?_
    have summaries : (Document.operations document).toOption.all (fun operations =>
        operations.all fun operation => operation.summary == .text "Gets users" &&
          operation.description == .null) = true := by decide +kernel
    rw [given'] at summaries
    simp only [Except.toOption, Option.all_some, List.all_eq_true, Bool.and_eq_true,
      beq_iff_eq] at summaries
    obtain ⟨summary, description⟩ := summaries operation known
    -- Whatever the function is called, the summary is the only text that is shown.
    have told : text = "Gets users" := by
      simp only [ServiceBuilder.shownTexts, summary, description] at shown
      split at shown
      · rename_i same
        have named : "Gets users" = entry.functionName := by simpa using same
        simpa [Node.isPresent, Scalar.isPresent, ← named] using shown
      · have single : (([Node.text "Gets users", .null].filter Node.isPresent).map Node.display) =
            ["Gets users"] := by decide +kernel
        simpa [single] using shown
    subst told
    decide
  · have all : (Document.schemas document).toOption.all (fun schemas => schemas.isEmpty) = true :=
      by decide +kernel
    rw [listed] at all
    obtain rfl : schemas = [] := by simpa [Except.toOption] using all
    exact List.forall_mem_nil _
  · have all : (Document.operations document).toOption.all (fun operations =>
        operations.all fun operation => (namedParameters document operation).all fun parameter =>
          (parameterTexts parameter).all fun text => decide (Inert text.toList)) = true := by
      decide +kernel
    rw [given] at all
    simpa [Except.toOption] using all

/-- A closing mark in a summary or in a description ends the comment there. -/
theorem comments_not_closed_of_marks :
    ∃ model, (ofDocument (withSummary "ends */ here" "or */ there") [] (Settings.ofSource
        "openapi.json")).outcome = .ok model ∧
      (∃ group ∈ model.groups, ∃ entry ∈ group.entries,
        ¬ Closed ((Settings.ofSource "openapi.json").entryPieces entry)) ∧
      ¬ Closed ((Settings.ofSource "openapi.json").declarationPieces model.declarations) := by
  let document := withSummary "ends */ here" "or */ there"
  let settings := Settings.ofSource "openapi.json"
  obtain ⟨model, resolved⟩ := Attempt.exists_outcome (ofDocument document [] settings)
    (by decide +kernel)
  -- What is shown in the comments is evaluated, not the files.
  have written : (ofDocument document [] settings).outcome.toOption.any (fun model =>
      (model.groups.any fun group => group.entries.any fun entry =>
        !decide (Inert (Template.commentText (FunctionView.ofEntry entry)).toList)) &&
      model.declarations.any fun declaration =>
        (Template.comments (DeclarationView.ofDeclaration declaration)).any fun text =>
          !decide (Inert text.toList)) = true := by decide +kernel
  rw [resolved] at written
  simp only [Except.toOption, Option.any_some, Bool.and_eq_true, List.any_eq_true,
    Bool.not_eq_true', decide_eq_false_iff_not] at written
  obtain ⟨⟨group, among, entry, member, ended⟩, declaration, declared, text, shown, ended'⟩ :=
    written
  refine ⟨model, resolved, ⟨group, among, entry, member, ?_⟩, ?_⟩
  · rw [Settings.entryPieces, Template.closed_servicePieces_iff]
    exact ended
  · rw [Settings.declarationPieces, Template.closed_interfacePieces_iff, List.forall_mem_map]
    exact fun inert => ended' (inert declaration declared text shown)

end ServiceModel

end ApiBindings
