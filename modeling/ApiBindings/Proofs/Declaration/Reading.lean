import ApiBindings.Declaration.Builder
import ApiBindings.Proofs.Outcome

/-!
# What holds of all reading

Types and declarations are read off a document in small steps: a value is asked for what it may not
be, a name is sanitized, a reference is followed. A property of attempts that these steps have and
that sequencing keeps therefore holds of every type, of every declaration and of all of them
together; only the remarks on repeated names are made outside of these steps. References are
followed in two places, and a type is described without following any.
-/
namespace ApiBindings

/-- Work that remarks on nothing but names. -/
def Noted.OnNames {α : Type} (noted : Noted α) : Prop :=
  ∀ remark ∈ noted.remarks, ∃ raw, remark = .name raw

namespace Noted.OnNames

variable {α β : Type}

theorem pure (value : α) : (Pure.pure value : Noted α).OnNames := by
  intro remark made
  cases made

theorem bind {noted : Noted α} {next : α → Noted β} (first : noted.OnNames)
    (then_ : ∀ value, (next value).OnNames) : (noted >>= next).OnNames := by
  intro remark made
  rcases List.mem_append.mp made with earlier | later
  · exact first remark earlier
  · exact then_ _ remark later

theorem mapM {work : α → Noted β} (each : ∀ item, (work item).OnNames) (items : List α) :
    (items.mapM work).OnNames := by
  induction items with
  | nil => exact .pure _
  | cons item rest ih =>
    rw [List.mapM_cons]
    exact .bind (each item) fun _ => .bind ih fun _ => .pure _

end Noted.OnNames

variable [Text.Romanization]

theorem TypeName.sanitize_onNames (namespaceName raw : String) :
    (sanitize namespaceName raw).OnNames := by
  unfold sanitize
  dsimp only
  split
  · exact .pure _
  split
  · -- Here the one remark is made, on the raw name.
    apply Noted.OnNames.bind
    · intro remark made
      exact ⟨raw, List.mem_singleton.mp made⟩
    · exact fun _ => .pure _
  · exact .pure _

namespace Namer

variable (namer : Namer)

theorem segmentName_onNames (segment : List Char) : (namer.segmentName segment).OnNames := by
  have upper (name : List Char) : (do
      return Spelling.upperFirst (← TypeName.sanitize namer.namespaceName (String.ofList name)) :
        Noted String).OnNames :=
    .bind (TypeName.sanitize_onNames _ _) fun _ => .pure _
  unfold segmentName
  dsimp only
  split
  · exact .bind (upper _) fun _ => .pure _
  · exact upper _

theorem functionName_onNames (operation : Operation) :
    (namer.functionName operation).OnNames := by
  have plain : (namer.plainName operation).OnNames := by
    unfold plainName
    dsimp only
    split
    · exact .pure _
    · exact .bind (.bind (.mapM namer.segmentName_onNames _) fun _ => .pure _) fun _ => .pure _
  unfold functionName
  split
  · exact .bind (.pure _) fun _ => .pure _
  · exact .bind plain fun _ => .pure _

theorem typeName_onNames (operation : Operation) : (namer.typeName operation).OnNames := by
  unfold typeName
  dsimp only
  cases override (namer.hooks.typeOf operation) with
  | some name => exact .bind (.pure _) fun _ => TypeName.sanitize_onNames _ _
  | none =>
    exact .bind (namer.functionName_onNames operation) fun _ => TypeName.sanitize_onNames _ _

end Namer

/-- A property of attempts that single looks at a node have and that sequencing keeps. -/
structure Attempt.OfDescribing (holds : ∀ {α : Type}, Attempt α → Prop) : Prop where
  pure : ∀ {α : Type} (value : α), holds (Pure.pure value)
  bind : ∀ {α β : Type} {attempt : Attempt α} {next : α → Attempt β}, holds attempt →
    (∀ value, holds (next value)) → holds (attempt >>= next)
  misfit : ∀ {α : Type} (result : Except Misfit α), holds (liftM result)
  names : ∀ {α : Type} {noted : Noted α}, noted.OnNames → holds (liftM noted)

/-- The same for looks at a document, where references are followed. -/
structure Attempt.OfReading (holds : ∀ {α : Type}, Attempt α → Prop) : Prop
    extends Attempt.OfDescribing holds where
  reference : ∀ document located, holds (Reference.resolve document located)

namespace Attempt.OfDescribing

variable {holds : ∀ {α : Type}, Attempt α → Prop} (reading : OfDescribing holds)
include reading

omit [Text.Romanization] in
theorem mapM {α β : Type} {work : α → Attempt β} (each : ∀ item, holds (work item))
    (items : List α) : holds (items.mapM work) := by
  induction items with
  | nil => exact reading.pure _
  | cons item rest ih =>
    rw [List.mapM_cons]
    exact reading.bind (each item) fun _ => reading.bind ih fun _ => reading.pure _

omit [Text.Romanization] in
theorem describeLiteral (node : Node) : holds (Schema.describeLiteral node) := by
  unfold Schema.describeLiteral
  split
  · exact reading.pure _
  · exact reading.bind (reading.misfit _) fun _ => reading.pure _

end Attempt.OfDescribing

omit [Text.Romanization] in
/-- Describing fails on values that do not fit, and on nothing else. -/
theorem Attempt.ofDescribing_failsAs {kind : Failure → Prop}
    (misfit : ∀ reason, kind (.misfit reason)) : Attempt.OfDescribing (Attempt.FailsAs kind) where
  pure value := .pure value
  bind first then_ := .bind first then_
  misfit result := .misfit misfit result
  names {_ noted} _ := .noted noted

namespace Schema

omit [Text.Romanization] in
theorem sizeOf_lt_of_field {members : List (Scalar × Node)} {key : String} {node : Node}
    (held : Members.field members key = node) (present : node ≠ .null) :
    sizeOf node < sizeOf (Node.object members) := by
  have smaller := Node.sizeOf_field_lt members key (held ▸ present)
  rw [held] at smaller
  simp only [Node.object.sizeOf_spec]
  omega

omit [Text.Romanization] in
theorem sizeOf_lt_of_arrayItems {members : List (Scalar × Node)} {node : Node}
    (held : arrayItems members = node) (present : node ≠ .null) :
    sizeOf node < sizeOf (Node.object members) := by
  have smaller := sizeOf_arrayItems_lt members (held ▸ present)
  rw [held] at smaller
  simp only [Node.object.sizeOf_spec]
  omega

end Schema

namespace Attempt.OfDescribing

open Schema

variable {holds : ∀ {α : Type}, Attempt α → Prop}

mutual

theorem describe (reading : OfDescribing holds) (namespaceName : String) (schema : Node) :
    holds (Schema.describe namespaceName schema) := by
  cases schema with
  | object members =>
    -- One case for each kind. What is described inside of a schema is smaller than the schema.
    unfold Schema.describe
    cases kind : kindOfMembers members with
    | reference =>
      exact reading.bind (reading.names (TypeName.sanitize_onNames _ _)) fun _ => reading.pure _
    | number | date | string | boolean | missing | literal | unknown => exact reading.pure _
    | array =>
      dsimp only
      split
      · rename_i held
        have smaller := sizeOf_lt_of_arrayItems held (by simp)
        exact reading.bind (describeItems reading _ _) fun _ => reading.pure _
      · rename_i held
        have smaller := sizeOf_lt_of_arrayItems held (by simp)
        exact reading.bind (describe reading _ _) fun _ => reading.pure _
      · exact reading.bind (reading.describeLiteral _) fun _ => reading.pure _
    | enumeration =>
      dsimp only
      split
      · rename_i held
        have smaller := sizeOf_lt_of_field held (by simp)
        exact reading.bind (describeValues reading _ _) fun _ => reading.pure _
      · exact reading.pure _
    | oneOf | allOf =>
      dsimp only
      split
      · rename_i held
        have smaller := sizeOf_lt_of_field held (by simp)
        exact reading.bind (describeAll reading _ _) fun _ => reading.pure _
      · exact reading.bind (reading.misfit _) fun _ =>
          reading.bind (reading.mapM reading.describeLiteral _) fun _ => reading.pure _
    | object =>
      dsimp only
      split
      · rename_i held
        have smaller := sizeOf_lt_of_field held (by simp)
        exact reading.bind (reading.misfit _) fun required =>
          reading.bind (describeProperties reading _ required _) fun _ => reading.pure _
      · exact reading.pure _
  | _ =>
    unfold Schema.describe
    exact reading.describeLiteral _
termination_by sizeOf schema
decreasing_by
  all_goals simp only [Node.list.sizeOf_spec, Node.object.sizeOf_spec] at *
  all_goals omega

theorem describeAll (reading : OfDescribing holds) (namespaceName : String) (schemas : List Node) :
    holds (Schema.describeAll namespaceName schemas) := by
  cases schemas with
  | nil =>
    rw [Schema.describeAll]
    exact reading.pure _
  | cons schema rest =>
    rw [Schema.describeAll]
    exact reading.bind (describe reading _ schema) fun _ =>
      reading.bind (describeAll reading _ rest) fun _ => reading.pure _
termination_by sizeOf schemas

theorem describeItems (reading : OfDescribing holds) (namespaceName : String) (items : List Node) :
    holds (Schema.describeItems namespaceName items) := by
  cases items with
  | nil =>
    rw [Schema.describeItems]
    exact reading.pure _
  | cons item rest =>
    rw [Schema.describeItems]
    have smaller := sizeOf_itemSchema_le item
    exact reading.bind (describe reading _ _) fun _ =>
      reading.bind (describeItems reading _ rest) fun _ => reading.pure _
termination_by sizeOf items

theorem describeValues (reading : OfDescribing holds) (namespaceName : String)
    (values : List Node) : holds (Schema.describeValues namespaceName values) := by
  cases values with
  | nil =>
    rw [Schema.describeValues]
    exact reading.pure _
  | cons value rest =>
    unfold Schema.describeValues
    split
    · exact reading.bind (reading.pure _) fun _ =>
        reading.bind (describeValues reading _ rest) fun _ => reading.pure _
    · exact reading.bind (describe reading _ _) fun _ =>
        reading.bind (describeValues reading _ rest) fun _ => reading.pure _
termination_by sizeOf values

theorem describeProperties (reading : OfDescribing holds) (namespaceName : String)
    (required : List Scalar) (properties : List (Scalar × Node)) :
    holds (Schema.describeProperties namespaceName required properties) := by
  cases properties with
  | nil =>
    rw [Schema.describeProperties]
    exact reading.pure _
  | cons first rest =>
    obtain ⟨key, property⟩ := first
    rw [Schema.describeProperties]
    exact reading.bind (describe reading _ property) fun _ =>
      reading.bind (describeProperties reading _ required rest) fun _ => reading.pure _
termination_by sizeOf properties

end

variable (reading : OfDescribing holds)
include reading

theorem typeText (namespaceName : String) (schema : Node) :
    holds (Schema.typeText namespaceName schema) :=
  reading.bind (reading.describe namespaceName schema) fun _ => reading.pure _

theorem literalUnion (namespaceName : String) (values : List Node) :
    holds (EnumText.literalUnion namespaceName values) := by
  have literal (value : Node) : holds (EnumText.valueLiteral namespaceName value) := by
    unfold EnumText.valueLiteral
    split
    · exact reading.pure _
    · exact reading.typeText _ _
  exact reading.bind (reading.mapM literal _) fun _ =>
    reading.bind (reading.mapM (fun _ => reading.misfit _) _) fun _ => reading.pure _

variable (builder : DeclarationBuilder)

theorem properties (schema : Members) : holds (builder.properties schema) := by
  unfold DeclarationBuilder.properties
  split
  · apply reading.bind (reading.misfit _)
    intro required
    apply reading.mapM
    rintro ⟨key, node⟩
    exact reading.bind (reading.typeText _ _) fun _ => reading.pure _
  · exact reading.pure _

theorem composition (schema : Members) : holds (builder.composition schema) := by
  have component (node : Node) : holds (builder.component node) := by
    unfold DeclarationBuilder.component
    split
    · split
      · exact reading.bind (reading.names (TypeName.sanitize_onNames _ _)) fun _ => reading.pure _
      · exact reading.bind (reading.properties builder _) fun _ => reading.pure _
    · exact reading.pure _
  exact reading.bind (reading.misfit _) fun _ =>
    reading.bind (reading.mapM component _) fun _ => reading.pure _

/-- A declaration is made without following a reference, unless its schema is one. -/
theorem bodyOfMembers {schema : Members}
    (resolved : holds (Reference.resolveNode builder.document (.object schema))) :
    holds (builder.bodyOfMembers schema) := by
  have text : holds (do return .typeAlias (← builder.typeText (.object schema)) :
      Attempt DeclarationBody) :=
    reading.bind (reading.typeText _ _) fun _ => reading.pure _
  have array : (builder.array schema).OnNames := by
    unfold DeclarationBuilder.array
    split
    · split
      · exact .bind (TypeName.sanitize_onNames _ _) fun _ => .pure _
      · exact .pure _
    · exact .pure _
  -- The cases stand in the order in which the shape of a declaration is decided.
  unfold DeclarationBuilder.bodyOfMembers
  split
  · exact reading.bind resolved fun _ => text
  split
  · unfold DeclarationBuilder.enumeration
    split
    · split
      · exact reading.pure _
      · exact reading.bind (reading.literalUnion _ _) fun _ => reading.pure _
    · exact reading.pure _
  split
  · exact reading.composition builder schema
  split
  · exact reading.bind (reading.properties builder schema) fun _ => reading.pure _
  split
  · exact reading.bind (reading.names array) fun _ => reading.pure _
  split
  · exact reading.pure _
  · exact text

theorem ofComponent (key : Scalar) {schema : Node}
    (resolved : holds (Reference.resolveNode builder.document schema)) :
    holds (builder.ofComponent key schema) := by
  apply reading.bind
  · cases schema with
    | object members => exact reading.bodyOfMembers builder resolved
    | _ => exact reading.bind (reading.typeText _ _) fun _ => reading.pure _
  · exact fun _ => reading.bind (reading.misfit _) fun _ =>
      reading.bind (reading.names (TypeName.sanitize_onNames _ _)) fun _ => reading.pure _

theorem parameterProperty? {parameter : Node}
    (resolved : holds (Reference.resolveNode builder.document parameter)) :
    holds (builder.parameterProperty? parameter) := by
  apply reading.bind resolved
  intro reached
  split
  · split
    · exact reading.pure _
    · exact reading.bind (reading.typeText _ _) fun _ => reading.pure _
  · exact reading.pure _

/-- The declaration of an operation, once its parameters are read. -/
theorem ofProperties (operation : Operation) (properties : List PropertyDeclaration) :
    holds (if properties.isEmpty then return none
      else return some ⟨← builder.namer.typeName operation, .object properties []⟩ :
        Attempt (Option Declaration)) := by
  split
  · exact reading.pure _
  · exact reading.bind (reading.names (builder.namer.typeName_onNames operation)) fun _ =>
      reading.pure _

end Attempt.OfDescribing

namespace Attempt.OfReading

variable {holds : ∀ {α : Type}, Attempt α → Prop} (reading : OfReading holds)
include reading

omit [Text.Romanization] in
theorem resolveNode (document node : Node) : holds (Reference.resolveNode document node) :=
  reading.bind (reading.reference document _) fun _ => reading.pure _

variable (builder : DeclarationBuilder)

theorem componentDeclarations : holds builder.componentDeclarations :=
  reading.bind (reading.misfit _) fun _ =>
    reading.mapM (fun _ => reading.ofComponent builder _ (reading.resolveNode _ _)) _

theorem parameterDeclarations : holds builder.parameterDeclarations := by
  have ofOperation (operation : Operation) : holds (builder.ofParameters? operation) :=
    reading.bind (reading.misfit _) fun own => reading.bind (reading.misfit _) fun shared =>
      reading.bind (reading.mapM (fun _ =>
        reading.parameterProperty? builder (reading.resolveNode _ _)) _) fun properties =>
      reading.ofProperties builder operation _
  exact reading.bind (reading.misfit _) fun _ =>
    reading.bind (reading.mapM ofOperation _) fun _ => reading.pure _

end Attempt.OfReading

end ApiBindings
