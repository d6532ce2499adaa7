import ApiBindings.Proofs.Name.Identifier
import ApiBindings.Proofs.Schema.Literals

/-!
# Types without a text

Most types stand in brackets, are words, or hold a name, which is never empty. Unions of schemas
and of values are joined from their members alone, so they have no text where the members have
none. A union of schemas has a member at least. So at the bottom of a missing text there is always
one of two things: an enumeration without values, or an empty text in the place of a schema.
-/
namespace ApiBindings

namespace Binary64

theorem writeDigits_ne_nil (format : Format) (digits : List Char) (exponent : Int) :
    writeDigits format digits exponent ≠ [] := by
  unfold writeDigits
  split
  · split <;> simp
  · simp [writeExponent]

theorem write_ne_nil {format : Format} (infinity : format.infinity ≠ []) (nan : format.nan ≠ [])
    (value : Binary64) : value.write format ≠ [] := by
  unfold write
  cases value.reading with
  | nan => exact nan
  | infinite negative => exact List.append_ne_nil_of_right_ne_nil _ infinity
  | finite negative mantissa exponent =>
    show (if mantissa = 0 then _ else _) ≠ []
    by_cases zero : mantissa = 0
    · rw [if_pos zero]
      exact List.append_ne_nil_of_right_ne_nil _ (List.cons_ne_nil _ _)
    · rw [if_neg zero]
      -- Which digits these are does not matter, and they must not be computed here.
      generalize shortestDigits mantissa exponent = shortest
      obtain ⟨digits, place⟩ := shortest
      exact List.append_ne_nil_of_right_ne_nil _ (writeDigits_ne_nil _ _ _)

end Binary64

namespace Json

theorem scalar_ne_nil {value : Scalar} {text : List Char}
    (written : scalar literalStyle value = .ok text) : text ≠ [] := by
  cases value with
  | null =>
    cases written
    decide
  | bool value => cases value <;> cases written <;> decide
  | int value =>
    cases written
    cases value with
    | ofNat number => simp [plainScalar, toString, Int.repr, Nat.repr, Nat.toDigits_ne_nil]
    | negSucc number => simp [plainScalar, toString, Int.repr]
  | float value =>
    obtain rfl := Except.ok.inj written
    exact value.write_ne_nil (by decide) (by decide)
  | text value =>
    obtain rfl := Except.ok.inj written
    exact List.cons_ne_nil _ _
  | moment value => cases written

/-- Whatever is written as a literal has a text. -/
theorem write_ne_nil {node : Node} {text : List Char}
    (written : write literalStyle node = .ok text) : text ≠ [] := by
  cases node with
  | scalar value =>
    rw [write] at written
    exact scalar_ne_nil written
  | list items =>
    rw [write, exceptBind_ok] at written
    obtain ⟨texts, _, written⟩ := written
    obtain rfl := Except.ok.inj written
    exact List.cons_ne_nil _ _
  | object members =>
    rw [write, exceptBind_ok] at written
    obtain ⟨members, _, written⟩ := written
    simp only [literalStyle, Bool.false_eq_true, if_false, pure_bind, exceptBind_ok] at written
    obtain ⟨texts, _, written⟩ := written
    obtain rfl := Except.ok.inj written
    exact List.cons_ne_nil _ _

end Json

/-- Joined texts are empty if there are none, or a single one which is empty. -/
theorem texts_of_intercalate_eq_empty {separator : String} (some : separator ≠ "")
    {texts : List String} (nothing : separator.intercalate texts = "") :
    texts = [] ∨ texts = [""] := by
  cases texts with
  | nil => exact .inl rfl
  | cons first rest =>
    right
    cases rest with
    | nil =>
      rw [String.intercalate_singleton] at nothing
      rw [nothing]
    | cons second others =>
      rw [String.intercalate_cons_cons, String.append_eq_empty_iff,
        String.append_eq_empty_iff] at nothing
      exact absurd nothing.1.2 some

theorem TypeDescriptor.sizeOf_lt_of_mem_parts {whole part : TypeDescriptor}
    (member : part ∈ whole.parts) : sizeOf part < sizeOf whole := by
  cases whole with
  | mk shape text parts name =>
    have inner := List.sizeOf_lt_of_mem member
    simp only [TypeDescriptor.parts, TypeDescriptor.mk.sizeOf_spec] at inner ⊢
    omega

namespace Schema

/-- A schema whose type has no text and no parts. -/
inductive Blank : Node → Prop
  | noValues {members : Members} (sort : kindOfMembers members = .enumeration)
      (held : Members.field members "enum" = .list []) : Blank (.object members)
  | noText : Blank (.text "")

variable (namespaceName : String)

section

variable [Text.Romanization]

theorem text_of_blank {schema : Node} (blank : Blank schema) {type : TypeDescriptor}
    (described : (describe namespaceName schema).outcome = .ok type) : type.text = "" := by
  cases blank with
  | noValues sort held =>
    obtain ⟨types, made, rfl⟩ := describe_enumeration namespaceName sort held described
    rw [List.mapM_nil] at made
    obtain rfl := Except.ok.inj made
    rfl
  | noText =>
    rw [describe_of_scalar] at described
    obtain rfl := Except.ok.inj described
    rfl

omit [Text.Romanization] in
/-- Of the nodes that are no objects only the empty text is described without one. -/
theorem blank_of_describeLiteral {node : Node} {type : TypeDescriptor}
    (described : (describeLiteral node).outcome = .ok type) (nothing : type.text = "") :
    Blank node := by
  unfold describeLiteral at described
  split at described
  · obtain rfl := Except.ok.inj described
    exact absurd nothing (by decide)
  · simp only [Attempt.outcome_bind_ok, Attempt.outcome_misfit, Attempt.mapError_ok,
      Attempt.outcome_pure, Except.ok.injEq] at described
    obtain ⟨text, written, rfl⟩ := described
    unfold literal at written
    split at written
    · obtain rfl := Except.ok.inj written
      obtain rfl : _ = "" := nothing
      exact .noText
    · obtain ⟨letters, made, same⟩ := (exceptBind_ok _ _ _).mp written
      obtain rfl := Except.ok.inj same
      exact absurd (String.ofList_eq_empty_iff.mp nothing) (Json.write_ne_nil made)

omit [Text.Romanization] in
theorem qualify_ne_empty {name : String} (some : name ≠ "") : qualify namespaceName name ≠ "" := by
  intro nothing
  have kept : name ∈ [namespaceName, name].filter (· ≠ "") := by simp [some]
  rcases texts_of_intercalate_eq_empty (by decide) nothing with none | single
  · rw [none] at kept
    cases kept
  · rw [single] at kept
    exact some (List.mem_singleton.mp kept)

omit [Text.Romanization] in
theorem simpleType?_text {sort : SchemaKind} {type : TypeDescriptor}
    (told : simpleType? sort = some type) : type.text ≠ "" := by
  unfold simpleType? at told
  split at told <;> cases told <;> decide

omit [Text.Romanization] in
theorem kindByType?_ne_oneOf (type format : Option String) :
    kindByType? type format ≠ some .oneOf := by
  unfold kindByType?
  dsimp only
  repeat' split
  all_goals simp

omit [Text.Romanization] in
theorem isPresent_of_oneOf {members : Members} (sort : kindOfMembers members = .oneOf) :
    (Members.field members "oneOf").isPresent = true := by
  unfold kindOfMembers at sort
  dsimp only at sort
  split at sort
  · cases sort
  · split at sort
    · rename_i kind byType
      exact absurd (sort ▸ byType) (kindByType?_ne_oneOf _ _)
    · split at sort
      · assumption
      · split at sort
        · cases sort
        · split at sort <;> cases sort

omit [Text.Romanization] in
/-- What is present and can be gone through holds something. -/
theorem elements_ne_nil {node : Node} (present : node.isPresent = true) {items : List Node}
    (taken : node.elements = .ok items) : items ≠ [] := by
  unfold Node.elements at taken
  split at taken <;> cases taken
  · rintro rfl
    cases present
  · rename_i members
    cases members with
    | nil => cases present
    | cons first rest => exact List.cons_ne_nil _ _
  · simpa [Node.letters, Node.isPresent, Scalar.isPresent] using present

omit [Text.Romanization] in
/-- Types that are joined to an empty text are none, or one of them has no text. -/
theorem none_or_textless {separator : String} (some : separator ≠ "")
    {types : List TypeDescriptor} (nothing : separator.intercalate (types.map (·.text)) = "") :
    types = [] ∨ ∃ inner ∈ types, inner.text = "" := by
  rcases texts_of_intercalate_eq_empty some nothing with none | single
  · exact .inl (List.map_eq_nil_iff.mp none)
  · obtain ⟨inner, rfl, empty⟩ := List.map_eq_singleton_iff.mp single
    exact .inr ⟨inner, List.mem_singleton_self inner, empty⟩

/-- A type without a text is that of a blank schema, or one of its parts has no text either. -/
theorem Made.blank_or_part (read : Text.Romanization.ReadsSome) {schema : Node}
    {types : List TypeDescriptor} {type : TypeDescriptor}
    (each : DescribedAs namespaceName schema (parts schema) types)
    (made : Made namespaceName schema types type) (nothing : type.text = "") :
    Blank schema ∨ ∃ inner ∈ type.parts, inner.text = "" := by
  -- Only two kinds of schemas have types that are nothing but their parts.
  cases made with
  | literal other described => exact .inl (blank_of_describeLiteral described nothing)
  | simple told => exact absurd nothing (simpleType?_text told)
  | reference sort named =>
    have some := named ▸ TypeName.sanitize_ne_empty read namespaceName _
    exact absurd nothing (qualify_ne_empty namespaceName some)
  | @enumeration members sort values held types =>
    rcases none_or_textless (by decide) nothing with none | textless
    · left
      have noTypes : types = [] := by
        cases types with
        | nil => rfl
        | cons first rest => cases none
      -- Every value has a type, so there are no values either.
      rw [noTypes, DescribedAs, List.forall₂_nil_right_iff] at each
      simp only [parts, sort, held] at each
      exact .noValues sort (each ▸ held)
    · exact .inr textless
  | @oneOf members sort alternatives taken types =>
    rcases none_or_textless (by decide) nothing with none | textless
    · rw [none, DescribedAs, List.forall₂_nil_right_iff] at each
      simp only [parts, sort, taken] at each
      exact absurd each (elements_ne_nil (isPresent_of_oneOf sort) taken)
    · exact .inr textless
  | array sort item =>
    unfold arrayOf at nothing
    split at nothing <;> simp [TypeDescriptor.text] at nothing
  | tuple | allOf | object | noEnumeration | noProperties =>
    simp [TypeDescriptor.text, tupleOf, intersectionOf, objectOf, TypeDescriptor.record,
      TypeDescriptor.string, TypeDescriptor.leaf] at nothing

/-- Below every type without a text there is a blank schema. -/
theorem exists_blank_of_textless (read : Text.Romanization.ReadsSome) {schema : Node}
    {type inner : TypeDescriptor}
    (described : (describe namespaceName schema).outcome = .ok type)
    (occurs : type.Occurs inner) (nothing : inner.text = "") :
    ∃ part, Shown namespaceName schema part ∧ Blank part := by
  -- From a type without a text one goes down to its part without a text, as long as there is one.
  induction size : sizeOf inner using Nat.strongRecOn generalizing inner with
  | ind size ih =>
    rcases shown_of_occurs namespaceName described occurs with ⟨value, rfl⟩ | ⟨part, shown, same⟩
    · simp [TypeDescriptor.leaf, TypeDescriptor.text, quotedLiteral] at nothing
    · obtain ⟨types, each, made⟩ := made_of_describe namespaceName same
      rcases made.blank_or_part namespaceName read each nothing with
        blank | ⟨deeper, member, nothing'⟩
      · exact ⟨part, shown, blank⟩
      · have smaller := TypeDescriptor.sizeOf_lt_of_mem_parts member
        exact ih (sizeOf deeper) (size ▸ smaller) (occurs.tail member) nothing' rfl

/-- What is shown by a schema with a single part that shows nothing itself. -/
theorem shown_single {whole only part : Node} (kept : keptParts namespaceName whole = [only])
    (last : ∀ deeper, ¬ Shows namespaceName only deeper)
    (shown : Shown namespaceName whole part) : part = whole ∨ part = only := by
  rcases Relation.ReflTransGen.cases_head shown with rfl | ⟨first, ⟨member, _⟩, later⟩
  · exact .inl rfl
  · rw [kept, List.mem_singleton] at member
    subst member
    rcases Relation.ReflTransGen.cases_head later with rfl | ⟨deeper, shows, _⟩
    · exact .inr rfl
    · exact absurd shows (last deeper)

/-- Where names are read as something, every type in the type of a schema has a text, that of the
schema itself and those of all parts at any depth, exactly if nothing blank is shown in it: no
enumeration without values, and no empty text in the place of a schema. -/
theorem texts_present_iff (read : Text.Romanization.ReadsSome) (schema : Node)
    (type : TypeDescriptor) (described : (describe namespaceName schema).outcome = .ok type) :
    (∀ inner, type.Occurs inner → inner.text ≠ "") ↔
      ∀ part, Shown namespaceName schema part → ¬ Blank part := by
  constructor
  · intro present part shown blank
    obtain ⟨inner, occurs, same⟩ := occurs_of_shown namespaceName described shown
    exact present inner occurs (text_of_blank namespaceName blank same)
  · intro free inner occurs nothing
    obtain ⟨part, shown, blank⟩ :=
      exists_blank_of_textless namespaceName read described occurs nothing
    exact free part shown blank

end

/-- The schema of a property that is one of some values. -/
def choiceOf (values : List Node) : Node := .object [(.text "enum", .list values)]

/-- Among values an empty text is in quotes. -/
theorem texts_present_of_emptyValue :
    ∃ type, (describe "API" (constantOf "kind" "")).outcome = .ok type ∧
      ∀ inner, type.Occurs inner → inner.text ≠ "" := by
  obtain ⟨type, described⟩ := Attempt.exists_outcome (describe "API" (constantOf "kind" ""))
    (by decide +kernel)
  have kept : keptParts "API" (constantOf "kind" "") = [choiceOf [.text ""]] := by decide +kernel
  have values : keptParts "API" (choiceOf [.text ""]) = [.text ""] := by decide +kernel
  have last (deeper : Node) : ¬ Shows "API" (choiceOf [.text ""]) deeper := by
    rintro ⟨member, noText⟩
    rw [values, List.mem_singleton] at member
    subst member
    exact absurd (noText rfl) (by decide)
  have present :=
    texts_present_iff "API" Text.Romanization.readsSome_examples _ type described
  refine ⟨type, described, present.mpr fun part shown => ?_⟩
  rcases shown_single "API" kept last shown with rfl | rfl
  · rintro ⟨sort, _⟩
    exact absurd sort (by decide +kernel)
  · rintro ⟨_, held⟩
    exact absurd held (by decide +kernel)

/-- An object with a property that is one of no values. -/
def statusWithoutValues : Node :=
  .object [(.text "type", .text "object"),
    (.text "properties", .object [(.text "status", choiceOf [])])]

/-- All schemas in it are objects, and the property has no type. -/
theorem textless_of_noValues :
    (∀ part, Shown "API" statusWithoutValues part → part.isObject = true) ∧
      ∃ type, (describe "API" statusWithoutValues).outcome = .ok type ∧
        type.text = "\x7b 'status'?: ; \x7d" ∧ ∃ inner, type.Occurs inner ∧ inner.text = "" := by
  have kept : keptParts "API" statusWithoutValues = [choiceOf []] := by decide +kernel
  have last (deeper : Node) : ¬ Shows "API" (choiceOf []) deeper := by
    rintro ⟨member, _⟩
    have nothing : keptParts "API" (choiceOf []) = [] := by decide +kernel
    rw [nothing] at member
    cases member
  constructor
  · intro part shown
    rcases shown_single "API" kept last shown with rfl | rfl <;> rfl
  · have told : (describe "API" statusWithoutValues).outcome.toOption.map (·.text) =
        some "\x7b 'status'?: ; \x7d" := by decide +kernel
    obtain ⟨type, described⟩ := Attempt.exists_outcome (describe "API" statusWithoutValues)
      (by decide +kernel)
    rw [described] at told
    have shows : Shows "API" statusWithoutValues (choiceOf []) :=
      ⟨kept ▸ List.mem_singleton_self _, fun _ => rfl⟩
    obtain ⟨inner, occurs, same⟩ := occurs_of_shown "API" described (.single shows)
    exact ⟨type, described, Option.some.inj told, inner, occurs,
      text_of_blank "API" (.noValues rfl rfl) same⟩

end Schema

end ApiBindings
