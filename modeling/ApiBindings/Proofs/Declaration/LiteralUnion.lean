import ApiBindings.Proofs.Declaration.Listing
import ApiBindings.Proofs.Declaration.Run
import ApiBindings.Proofs.Schema.Literals
import ApiBindings.Proofs.Text.Pieces
import ApiBindings.Proofs.Text.Romanization

/-!
# Unions of enum values

An enum is a union of literals twice: where its schema is described, and where it is declared. Both
list the values in the same form, so the declared union begins with the described one. What it has
beyond that comes from labels and tails, which only texts with a parenthesis or an equals sign have.
-/
namespace ApiBindings

open EnumText

theorem Schema.kindOfMembers_enum {schema : Members} (values : schema.field "enum" ≠ .null)
    (free : (schema.field "$ref").isPresent = false) :
    kindOfMembers schema = .enumeration := by
  have type : (effectiveType schema).text? = some "enum" := by
    rw [effectiveType, if_pos (decide_eq_true values)]
    rfl
  -- No other type has this word, so the format does not matter.
  have byType : kindByType? (some "enum") (format? schema) = some .enumeration := by
    simp [kindByType?, numberTypes, dateTypes, stringTypes]
  simp only [kindOfMembers, free, type, byType, Bool.false_eq_true, if_false]

/-- Joined texts do not show whether the first of them was joined before. -/
theorem intercalate_append (separator : String) {texts : List String} (some : texts ≠ [])
    (more : List String) :
    separator.intercalate (texts ++ more) =
      separator.intercalate (separator.intercalate texts :: more) := by
  induction texts with
  | nil => exact absurd rfl some
  | cons first rest ih =>
    cases rest with
    | nil => rw [String.intercalate_singleton, List.singleton_append]
    | cons second others =>
      rw [List.cons_append, List.cons_append, String.intercalate_cons_cons, ← List.cons_append,
        ih (List.cons_ne_nil _ _), String.intercalate_cons_cons]
      cases more with
      | nil => simp only [String.intercalate_singleton]
      | cons next later => simp only [String.intercalate_cons_cons, String.append_assoc]

namespace EnumText

variable {namespaceName : String}

theorem map_text_distinct (types : List TypeDescriptor) :
    (Schema.distinct types).map (·.text) = distinct (types.map (·.text)) := by
  induction types with
  | nil => rfl
  | cons first rest ih =>
    rw [Schema.distinct, List.map_cons, List.map_cons, distinct, ← ih, List.filter_map]
    rfl

section

variable [Text.Romanization]

/-- A value is declared as the literal it is described as. -/
theorem valueLiteral_of_describeValue {value : Node} {type : TypeDescriptor}
    (described : (Schema.describeValue namespaceName value).outcome = .ok type) :
    (valueLiteral namespaceName value).outcome = .ok type.text := by
  unfold valueLiteral
  split
  · obtain rfl := Except.ok.inj described
    rfl
  · rename_i other
    have described : (Schema.describe namespaceName value).outcome = .ok type := by
      unfold Schema.describeValue at described
      split at described
      · rename_i text
        exact absurd rfl (other text)
      · exact described
    unfold Schema.typeText
    rw [Attempt.outcome_bind_ok]
    exact ⟨type, described, rfl⟩

/-- What the values are described as is what they are declared as. -/
theorem valueLiterals_of_describeValues {values : List Node} {types : List TypeDescriptor}
    (described : (values.mapM (Schema.describeValue namespaceName)).outcome = .ok types) :
    (values.mapM (valueLiteral namespaceName)).outcome = .ok (types.map (·.text)) := by
  rw [Attempt.outcome_mapM_ok] at described ⊢
  rw [List.forall₂_map_right_iff]
  exact described.imp fun _ _ => valueLiteral_of_describeValue

omit [Text.Romanization] in
theorem label?_eq_none {value : List Char} (absent : '(' ∉ value) : label? value = none := by
  unfold label?
  dsimp only
  split
  · rename_i rest behind
    have member : '(' ∈ value.drop (value.takeWhile fun c => c != '(' && c != '\n').length := by
      rw [behind]
      exact List.mem_cons_self
    exact absurd (List.mem_of_mem_drop member) absent
  · rfl

omit [Text.Romanization] in
theorem tail?_eq_none {value : List Char} (absent : '=' ∉ value) : tail? value = none := by
  rw [tail?, Text.cut_of_notMem absent]

omit [Text.Romanization] in
/-- A text without a parenthesis and an equals sign stands for itself alone. -/
theorem nothing_further {values : List Node} {tails : List (List String)}
    (plain : ∀ value ∈ texts values, '(' ∉ value.toList ∧ '=' ∉ value.toList)
    (read : List.Forall₂ (fun value tail => tailLiterals value = .ok tail) (texts values) tails) :
    (texts values).flatMap labelLiterals ++ tails.flatten = [] := by
  rw [List.append_eq_nil_iff]
  constructor
  · refine List.flatMap_eq_nil_iff.mpr fun value member => ?_
    rw [labelLiterals, label?_eq_none (plain value member).1]
  · refine List.flatten_eq_nil_iff.mpr fun tail member => ?_
    obtain ⟨value, among, tailOf⟩ := exists_of_forall₂ read.flip member
    rw [tailLiterals, tail?_eq_none (plain value among).2] at tailOf
    exact (Except.ok.inj tailOf).symm

/-- The literals of the values come first, then those of their labels and tails that are new. -/
theorem literalUnion_ok {values : List Node} {union : String}
    (declared : (literalUnion namespaceName values).outcome = .ok union) :
    ∃ rendered tails, (values.mapM (valueLiteral namespaceName)).outcome = .ok rendered ∧
      List.Forall₂ (fun value tail => tailLiterals value = .ok tail) (texts values) tails ∧
      union = " | ".intercalate (distinct rendered ++
        (distinct ((texts values).flatMap labelLiterals ++ tails.flatten)).filter
          fun literal => decide (literal ∉ rendered)) := by
  simp only [literalUnion, Attempt.outcome_bind_ok, Attempt.outcome_mapM_ok, Attempt.outcome_misfit,
    Attempt.mapError_ok, Attempt.outcome_pure, Except.ok.injEq] at declared
  obtain ⟨rendered, made, tails, read, rfl⟩ := declared
  refine ⟨rendered, tails, (Attempt.outcome_mapM_ok _ _ _).mpr made, read, ?_⟩
  rw [List.append_assoc, distinct_append]

/-- A schema with values is described as the listing of their literals. -/
theorem typeText_of_values {schema : Members} {values : List Node}
    (listed : schema.field "enum" = .list values) (free : schema.get? "$ref" = none)
    {text : String}
    (described : (Schema.typeText namespaceName (.object schema)).outcome = .ok text) :
    ∃ rendered, (values.mapM (valueLiteral namespaceName)).outcome = .ok rendered ∧
      text = " | ".intercalate (distinct rendered) := by
  have kind : Schema.kindOfMembers schema = .enumeration := by
    apply Schema.kindOfMembers_enum
    · simp [listed]
    · rw [Members.field, free]
      rfl
  simp only [Schema.typeText, Attempt.outcome_bind_ok, Attempt.outcome_pure,
    Except.ok.injEq] at described
  obtain ⟨type, described, rfl⟩ := described
  obtain ⟨types, typed, rfl⟩ := Schema.describe_enumeration _ kind listed described
  refine ⟨_, valueLiterals_of_describeValues typed, ?_⟩
  rw [← map_text_distinct]
  rfl

/-- The declared union of an enum goes on from the described one, with literals that are new, and
only where a text has a parenthesis or an equals sign. -/
theorem literalUnion_extends_typeText {builder : DeclarationBuilder} {schema : Members}
    {values : List Node} {body : DeclarationBody} {text : String}
    (style : builder.settings.enumStyle = .literals)
    (listed : schema.field "enum" = .list values) (some : values ≠ [])
    (free : schema.get? "$ref" = none)
    (declared : (builder.enumeration schema).outcome = .ok body)
    (described : (Schema.typeText builder.settings.namespaceName (.object schema)).outcome =
      .ok text) :
    ∃ rendered listing further union,
      (values.mapM (valueLiteral builder.settings.namespaceName)).outcome = .ok rendered ∧
      FirstSeen rendered listing ∧ text = " | ".intercalate listing ∧
      (literalUnion builder.settings.namespaceName values).outcome = .ok union ∧
      body = .typeAlias union ∧ union = " | ".intercalate (text :: further) ∧
      further.Nodup ∧ listing.Disjoint further ∧
      (further ≠ [] → ∃ value ∈ texts values, '(' ∈ value.toList ∨ '=' ∈ value.toList) := by
  simp only [DeclarationBuilder.enumeration, listed, style, Attempt.outcome_bind_ok,
    Attempt.outcome_pure, Except.ok.injEq] at declared
  obtain ⟨union, made, rfl⟩ := declared
  obtain ⟨rendered, tails, given, read, rfl⟩ := literalUnion_ok made
  obtain ⟨again, given', rfl⟩ := typeText_of_values listed free described
  obtain rfl := Except.ok.inj (given.symm.trans given')
  have listing := firstSeen_distinct rendered
  -- There is a first literal, so what follows is joined to something.
  have filled : distinct rendered ≠ [] := by
    obtain ⟨value, member⟩ := List.exists_mem_of_ne_nil values some
    obtain ⟨literal, among, _⟩ := Attempt.exists_of_mapM given member
    exact List.ne_nil_of_mem ((listing.mem_iff literal).mpr among)
  refine ⟨rendered, distinct rendered, _, _, given, listing, rfl, made, rfl,
    intercalate_append _ filled _, (firstSeen_distinct _).nodup.filter _, ?_, ?_⟩
  · intro literal known new
    have absent : literal ∉ rendered := by simpa using (List.mem_filter.mp new).2
    exact absent ((listing.mem_iff literal).mp known)
  · intro more
    by_contra plain
    push Not at plain
    exact more (by rw [nothing_further plain read]; rfl)

end

/-- The states of something that is active or closed, one of them twice. -/
def stateValues : List Node :=
  [.text "Active(enabled)=1", .text "Closed(done)=x", .int 1, .text "Active",
    .text "Closed(done)=x"]

def stateSchema : Members := [(.text "type", .text "string"), (.text "enum", .list stateValues)]

def stateBuilder : DeclarationBuilder := .ofSettings (Settings.ofSource "openapi.json")

/-- The labels add three literals and the tails one; `1` and `"Active"` are there already. -/
theorem literalUnion_extends_of_labels :
    let text := "\"Active(enabled)=1\" | \"Closed(done)=x\" | 1 | \"Active\""
    let union := text ++ " | \"active\" | \"Closed\" | \"closed\" | x"
    stateBuilder.settings.enumStyle = .literals ∧ stateSchema.field "enum" = .list stateValues ∧
    stateValues ≠ [] ∧ stateSchema.get? "$ref" = none ∧
    (stateBuilder.enumeration stateSchema).outcome = .ok (.typeAlias union) ∧
    (Schema.typeText "API" (.object stateSchema)).outcome = .ok text ∧
    ∃ rendered listing further, FirstSeen rendered listing ∧ text = " | ".intercalate listing ∧
      union = " | ".intercalate (text :: further) ∧ further.Nodup ∧ listing.Disjoint further := by
  intro text union
  have style : stateBuilder.settings.enumStyle = .literals := rfl
  have declared : (stateBuilder.enumeration stateSchema).outcome = .ok (.typeAlias union) := by
    decide +kernel
  have described : (Schema.typeText "API" (.object stateSchema)).outcome = .ok text := by
    decide +kernel
  obtain ⟨rendered, listing, further, union', _, seen, listed, made, _, goesOn, once, apart, _⟩ :=
    literalUnion_extends_typeText style rfl (List.cons_ne_nil _ _) rfl declared described
  have same : (literalUnion "API" stateValues).outcome = .ok union := by decide +kernel
  obtain rfl : union = union' := Except.ok.inj (same.symm.trans made)
  exact ⟨style, rfl, List.cons_ne_nil _ _, rfl, declared, described, rendered, listing, further,
    seen, listed, goesOn, once, apart⟩

end EnumText

end ApiBindings
