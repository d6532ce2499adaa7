import ApiBindings.Proofs.Schema.Shapes
import ApiBindings.Proofs.Schema.Stopped
import ApiBindings.Proofs.Text.Romanization
import ApiBindings.Proofs.Text.StringLiteral

/-!
# String literals inside of types

A described type holds the texts of everything it is described by, and two kinds of schemas put
literals into theirs: the texts of an enumeration stand in double quotes, and the keys of an object
in single ones. In the former the quotes are escaped, in the latter nothing is. So a literal reads
back unless its text holds a backslash, a line end, or, as a key, a single quote.
-/
namespace ApiBindings.Schema

open StringLiteral (ReadsBack escapeQuotes isPlain)

/-- A literal as it is written between its quotes, and what it is written for. -/
structure Literal where
  quote : Char
  written : List Char
  value : List Char

def Literal.text (literal : Literal) : List Char :=
  literal.quote :: (literal.written ++ [literal.quote])

/-- The literals a schema itself puts into its type. -/
inductive Emits : Node → Literal → Prop
  | value {members : Members} (kind : kindOfMembers members = .enumeration) {values : List Node}
      (held : Members.field members "enum" = .list values) {value : String}
      (among : .text value ∈ values) :
      Emits (.object members) ⟨'"', escapeQuotes '"' value.toList, value.toList⟩
  | key {members : Members} (kind : kindOfMembers members = .object) {properties : Members}
      (held : Members.field members "properties" = .object properties) {key : String}
      {property : Node} (among : (.text key, property) ∈ properties) :
      Emits (.object members) ⟨'\'', key.toList, key.toList⟩

section infixes

theorem infix_intercalate (separator : String) {text : String} {texts : List String}
    (among : text ∈ texts) :
    text.toList <:+: (separator.intercalate texts).toList := by
  induction texts with
  | nil => cases among
  | cons first rest ih =>
    cases rest with
    | nil =>
      obtain rfl := List.mem_singleton.mp among
      rw [String.intercalate_singleton]
    | cons second others =>
      rw [String.intercalate_cons_cons, String.toList_append, String.toList_append]
      rcases List.mem_cons.mp among with rfl | later
      · rw [List.append_assoc]
        exact (List.prefix_append _ _).isInfix
      · exact (ih later).trans (List.suffix_append _ _).isInfix

theorem infix_join {text : String} {texts : List String} (among : text ∈ texts) :
    text.toList <:+: (String.join texts).toList := by
  rw [String.toList_join, List.flatMap_def]
  exact List.infix_of_mem_flatten (List.mem_map_of_mem among)

/-- Each text is kept, by its descriptor or an earlier one. -/
theorem exists_mem_distinct {types : List TypeDescriptor} {type : TypeDescriptor}
    (member : type ∈ types) : ∃ kept ∈ distinct types, kept.text = type.text := by
  induction types with
  | nil => cases member
  | cons first rest ih =>
    rw [distinct]
    by_cases same : type.text = first.text
    · exact ⟨first, List.mem_cons_self, same.symm⟩
    · rcases List.mem_cons.mp member with rfl | later
      · exact absurd rfl same
      · obtain ⟨kept, among, equal⟩ := ih later
        refine ⟨kept, List.mem_cons_of_mem _ (List.mem_filter.mpr ⟨among, ?_⟩), equal⟩
        simpa [equal] using same

theorem infix_literalUnionOf {types : List TypeDescriptor} {type : TypeDescriptor}
    (member : type ∈ types) : type.text.toList <:+: (literalUnionOf types).text.toList := by
  -- A text that comes again is printed where it came first.
  obtain ⟨kept, among, same⟩ := exists_mem_distinct member
  rw [← same]
  exact infix_intercalate _ (List.mem_map_of_mem among)

theorem infix_tupleOf {types : List TypeDescriptor} {type : TypeDescriptor}
    (member : type ∈ types) : type.text.toList <:+: (tupleOf types).text.toList := by
  have inside := infix_intercalate "," (List.mem_map_of_mem (f := (·.text)) member)
  exact inside.trans ⟨['['], [']'], by simp [tupleOf, TypeDescriptor.text]⟩

theorem infix_intersectionOf {types : List TypeDescriptor} {type : TypeDescriptor}
    (member : type ∈ types) : type.text.toList <:+: (intersectionOf types).text.toList := by
  have inside := infix_intercalate " & " (List.mem_map_of_mem (f := (·.text)) member)
  exact inside.trans ⟨['('], [')'], by simp [intersectionOf, TypeDescriptor.text]⟩

theorem infix_arrayOf (item : TypeDescriptor) :
    item.text.toList <:+: (arrayOf item).text.toList := by
  unfold arrayOf
  split
  · exact ⟨['('], [')', '[', ']'], by simp [TypeDescriptor.text]⟩
  · exact ⟨[], ['[', ']'], by simp [TypeDescriptor.text]⟩

theorem infix_objectOf {properties : List (Scalar × Bool × TypeDescriptor)} {key : Scalar}
    {required : Bool} {type : TypeDescriptor} (member : (key, required, type) ∈ properties) :
    (propertyText key required type).toList <:+: (objectOf properties).text.toList := by
  have inside := infix_join (List.mem_map_of_mem (f := fun property =>
    propertyText property.1 property.2.1 property.2.2) member)
  exact inside.trans ⟨['\x7b', ' '], ['\x7d'], by simp [objectOf, TypeDescriptor.text]⟩

theorem infix_propertyText (key : Scalar) (required : Bool) (type : TypeDescriptor) :
    type.text.toList <:+: (propertyText key required type).toList :=
  ⟨("'" ++ key.display ++ "'" ++ (if required then "" else "?") ++ ": ").toList, [';', ' '],
    by simp [propertyText]⟩

end infixes

variable (namespaceName : String)

section

variable [Text.Romanization]

/-- The types of the parts of a schema stand in the type of the schema. -/
theorem Made.text_inside {schema : Node} {types : List TypeDescriptor} {type inner : TypeDescriptor}
    (made : Made namespaceName schema types type) (member : inner ∈ types) :
    inner.text.toList <:+: type.text.toList := by
  cases made with
  | tuple => exact infix_tupleOf member
  | array _ item =>
    obtain rfl := List.mem_singleton.mp member
    exact infix_arrayOf inner
  | enumeration => exact infix_literalUnionOf member
  | oneOf => exact infix_intercalate _ (List.mem_map_of_mem member)
  | allOf => exact infix_intersectionOf member
  | object _ properties =>
    obtain ⟨⟨key, required, type⟩, listed, rfl⟩ := List.mem_map.mp member
    exact (infix_propertyText key required type).trans (infix_objectOf listed)
  | _ => cases member

theorem describe_enumeration {members : Members} (kind : kindOfMembers members = .enumeration)
    {values : List Node} (held : Members.field members "enum" = .list values)
    {type : TypeDescriptor}
    (described : (describe namespaceName (.object members)).outcome = .ok type) :
    ∃ types, (values.mapM (describeValue namespaceName)).outcome = .ok types ∧
      type = literalUnionOf types := by
  unfold describe at described
  simp only [kind] at described
  split at described
  · rename_i others same
    obtain rfl : others = values := by simpa [held] using same.symm
    simp only [Attempt.outcome_bind_ok, Attempt.outcome_pure, Except.ok.injEq,
      describeValues_eq] at described
    obtain ⟨types, made, rfl⟩ := described
    exact ⟨types, made, rfl⟩
  · rename_i other
    exact absurd held (other values)

/-- Each property of a described object has a type, and the property stands in the text. -/
theorem describe_object {members : Members} (kind : kindOfMembers members = .object)
    {properties : Members} (held : Members.field members "properties" = .object properties)
    {type : TypeDescriptor}
    (described : (describe namespaceName (.object members)).outcome = .ok type)
    {key : Scalar} {property : Node} (among : (key, property) ∈ properties) :
    ∃ required inner, (describe namespaceName property).outcome = .ok inner ∧
      (propertyText key required inner).toList <:+: type.text.toList := by
  unfold describe at described
  simp only [kind] at described
  split at described
  · rename_i first rest same
    obtain rfl : first :: rest = properties := by simpa [held] using same.symm
    simp only [Attempt.outcome_bind_ok, Attempt.outcome_pure, Except.ok.injEq,
      describeProperties_eq] at described
    obtain ⟨required, _, types, made, rfl⟩ := described
    obtain ⟨result, listed, same⟩ := Attempt.exists_of_mapM made among
    simp only [Attempt.outcome_bind_ok, Attempt.outcome_pure, Except.ok.injEq] at same
    obtain ⟨inner, inside, rfl⟩ := same
    exact ⟨_, inner, inside, infix_objectOf listed⟩
  · rename_i other
    obtain ⟨first, rest, rfl⟩ := List.exists_cons_of_ne_nil (List.ne_nil_of_mem among)
    exact absurd held (other first rest)

/-- An object that a described schema is described by is described itself, and its text stands in
that of the schema. -/
theorem describe_of_parts {schema part : Node} {type : TypeDescriptor}
    (described : (describe namespaceName schema).outcome = .ok type)
    (member : part ∈ parts schema) (isObject : part.isObject = true) :
    ∃ inner, (describe namespaceName part).outcome = .ok inner ∧
      inner.text.toList <:+: type.text.toList := by
  obtain ⟨types, each, made⟩ := made_of_describe namespaceName described
  obtain ⟨inner, among, same⟩ := exists_of_forall₂ each member
  rcases describePart_ok namespaceName same with ⟨value, _, rfl, _⟩ | ⟨_, same⟩
  · cases isObject
  · exact ⟨inner, same, made.text_inside namespaceName among⟩

omit [Text.Romanization] in
theorem isObject_of_parts {schema part : Node} (member : part ∈ parts schema) :
    schema.isObject = true := by
  cases schema with
  | object members => rfl
  | _ => cases member

/-- Every object by which a described schema is described, at any depth, has its text in it. -/
theorem describe_of_reached {schema part : Node} {type : TypeDescriptor}
    (described : (describe namespaceName schema).outcome = .ok type)
    (reaches : Reached schema part) (isObject : part.isObject = true) :
    ∃ inner, (describe namespaceName part).outcome = .ok inner ∧
      inner.text.toList <:+: type.text.toList := by
  induction reaches with
  | refl => exact ⟨type, described, List.infix_rfl⟩
  | tail _ member ih =>
    -- What has parts is an object itself.
    obtain ⟨outer, described', inside⟩ := ih (isObject_of_parts member)
    obtain ⟨inner, same, within⟩ := describe_of_parts namespaceName described' member isObject
    exact ⟨inner, same, within.trans inside⟩

/-- The literals of a described schema stand in its text as they are written. -/
theorem infix_of_emits {schema : Node} {type : TypeDescriptor}
    (described : (describe namespaceName schema).outcome = .ok type) {literal : Literal}
    (emits : Emits schema literal) : literal.text <:+: type.text.toList := by
  cases emits with
  | @value members kind values held value among =>
    obtain ⟨types, made, rfl⟩ := describe_enumeration namespaceName kind held described
    obtain ⟨inner, listed, same⟩ := Attempt.exists_of_mapM made among
    obtain rfl := Except.ok.inj same
    have inside := infix_literalUnionOf listed
    rwa [show (TypeDescriptor.leaf .literal (quotedLiteral value)).text.toList =
      (Literal.mk '"' (escapeQuotes '"' value.toList) value.toList).text by
        simp [TypeDescriptor.leaf, TypeDescriptor.text, quotedLiteral, Literal.text, escapeQuotes]]
      at inside
  | @key members kind properties held key property among =>
    obtain ⟨required, inner, _, inside⟩ :=
      describe_object namespaceName kind held described among
    have first : (Literal.mk '\'' key.toList key.toList).text <:+:
        (propertyText (.text key) required inner).toList :=
      ⟨[], ((if required then "" else "?") ++ ": " ++ inner.text ++ "; ").toList,
        by simp [propertyText, Literal.text, Scalar.display, Scalar.displayWith]⟩
    exact first.trans inside

omit [Text.Romanization] in
/-- A literal reads back exactly if its text is plain and, in single quotes, has none of these. -/
theorem Emits.readsBack_iff {schema : Node} {literal : Literal} (emits : Emits schema literal)
    (behind : List Char) :
    ReadsBack literal.quote literal.written literal.value behind ↔
      ∀ c ∈ literal.value, isPlain c = true ∧ (literal.quote = '\'' → c ≠ '\'') := by
  cases emits with
  | value kind held among =>
    rw [StringLiteral.readsBack_escapeQuotes_iff (.inl rfl)]
    simp
  | key kind held among =>
    rw [StringLiteral.readsBack_iff (.inr rfl)]
    simp

/-- In the type of a schema, each text of an enumeration and each key of an object, at any depth,
stands in its quotes. Read from the first quote it ends at the second one and gives the text again
exactly if the text has no backslash, no line end and, as a key, no single quote. -/
theorem literal_readsBack_iff (schema : Node) (type : TypeDescriptor)
    (described : (describe namespaceName schema).outcome = .ok type) (part : Node)
    (reaches : Reached schema part) (literal : Literal) (emits : Emits part literal) :
    ∃ before behind, type.text.toList =
        before ++ literal.quote :: (literal.written ++ literal.quote :: behind) ∧
      (ReadsBack literal.quote literal.written literal.value behind ↔
        ∀ c ∈ literal.value, isPlain c = true ∧ (literal.quote = '\'' → c ≠ '\'')) := by
  have isObject : part.isObject = true := by cases emits <;> rfl
  obtain ⟨inner, described', inside⟩ :=
    describe_of_reached namespaceName described reaches isObject
  obtain ⟨before, behind, whole⟩ := (infix_of_emits namespaceName described' emits).trans inside
  refine ⟨before, behind, ?_, emits.readsBack_iff behind⟩
  simp [← whole, Literal.text]

end

/-- An object of one property, which is one text. -/
def constantOf (key value : String) : Node :=
  .object [(.text "type", .text "object"), (.text "properties", .object
    [(.text key, .object [(.text "enum", .list [.text value])])])]

theorem emits_key_of_constantOf (key value : String) :
    Emits (constantOf key value) ⟨'\'', key.toList, key.toList⟩ :=
  .key rfl rfl List.mem_cons_self

/-- The schema of the property. -/
theorem exists_reached_of_constantOf (key value : String) :
    ∃ part, Reached (constantOf key value) part ∧
      Emits part ⟨'"', escapeQuotes '"' value.toList, value.toList⟩ := by
  have inside : .object [(.text "enum", .list [.text value])] ∈ parts (constantOf key value) :=
    List.mem_cons_self
  exact ⟨_, .single inside, .value rfl rfl List.mem_cons_self⟩

theorem literal_readsBack_of_quotes :
    ∃ type, (describe "API" (constantOf "kind" "a\"b")).outcome = .ok type ∧
      ∃ before behind, type.text.toList = before ++ '"' :: ("a\\\"b".toList ++ '"' :: behind) ∧
        ReadsBack '"' "a\\\"b".toList "a\"b".toList behind := by
  obtain ⟨type, described⟩ := Attempt.exists_outcome (describe "API" (constantOf "kind" "a\"b"))
    (by decide +kernel)
  obtain ⟨part, reaches, emits⟩ := exists_reached_of_constantOf "kind" "a\"b"
  obtain ⟨before, behind, stands, reads⟩ :=
    literal_readsBack_iff "API" _ type described part reaches _ emits
  have plain : "a\"b".toList.all isPlain = true := by decide
  refine ⟨type, described, before, behind, stands, reads.mpr fun c among => ?_⟩
  exact ⟨List.all_eq_true.mp plain c among, fun single => absurd single (by decide)⟩

/-- A quote in a key ends the key, and a backslash at the end of a text lets the text run on. -/
theorem literal_not_readsBack_of_backslash :
    (∃ type, (describe "API" (constantOf "it's" "a\\")).outcome = .ok type ∧
      type.text = "\x7b 'it's'?: \"a\\\"; \x7d") ∧
    (∃ part literal, Reached (constantOf "it's" "a\\") part ∧ Emits part literal ∧
      literal.quote = '\'' ∧
      ∀ behind, ¬ ReadsBack literal.quote literal.written literal.value behind) ∧
    ∃ part literal, Reached (constantOf "it's" "a\\") part ∧ Emits part literal ∧
      literal.quote = '"' ∧
      ∀ behind, ¬ ReadsBack literal.quote literal.written literal.value behind := by
  refine ⟨?_, ?_, ?_⟩
  · obtain ⟨type, described⟩ := Attempt.exists_outcome (describe "API" (constantOf "it's" "a\\"))
      (by decide +kernel)
    have told : (describe "API" (constantOf "it's" "a\\")).outcome.toOption.map (·.text) =
        some "\x7b 'it's'?: \"a\\\"; \x7d" := by decide +kernel
    rw [described] at told
    exact ⟨type, described, Option.some.inj told⟩
  · have emits := emits_key_of_constantOf "it's" "a\\"
    refine ⟨_, _, .refl, emits, rfl, fun behind reads => ?_⟩
    exact ((emits.readsBack_iff behind).mp reads '\'' (by decide)).2 rfl rfl
  · obtain ⟨part, reaches, emits⟩ := exists_reached_of_constantOf "it's" "a\\"
    refine ⟨part, _, reaches, emits, rfl, fun behind reads => ?_⟩
    exact absurd ((emits.readsBack_iff behind).mp reads '\\' (by decide)).1 (by decide)

end ApiBindings.Schema
