import ApiBindings.Proofs.Schema.Shapes
import ApiBindings.Proofs.Text.Pieces
import ApiBindings.Proofs.Text.Romanization

/-!
# Unions inside of other types

An array binds tighter than an intersection, and an intersection tighter than a union. So a union
keeps together as an item or a member only in parentheses. An array puts every item in parentheses
in whose text there is a bar at all. An intersection puts itself in parentheses and not its
members, which is enough for a single member, but takes unions apart among several.
-/
namespace ApiBindings.Schema

/-- Where a scan of a text stands: how many brackets are open, and inside of which quotes. -/
structure Scan where
  depth : Nat
  quote : Option Char
  escaped : Bool
  deriving DecidableEq

namespace Scan

def start : Scan := ⟨0, none, false⟩

/-- One character further. In quotes only the end of the quotes counts, unless it is escaped. -/
def step (scan : Scan) (c : Char) : Scan :=
  match scan.quote with
  | some quote =>
    if scan.escaped then { scan with escaped := false }
    else if c = '\\' then { scan with escaped := true }
    else if c = quote then { scan with quote := none }
    else scan
  | none =>
    if c = '"' ∨ c = '\'' then { scan with quote := some c }
    else if c ∈ ['(', '[', '\x7b'] then { scan with depth := scan.depth + 1 }
    else if c ∈ [')', ']', '\x7d'] then { scan with depth := scan.depth - 1 }
    else scan

def isTop (scan : Scan) : Bool := scan.depth == 0 && scan.quote.isNone

/-- Whether a bar between blanks stands outside of all brackets and quotes. -/
def finds (scan : Scan) : List Char → Bool
  | [] => false
  | c :: rest =>
    (scan.isTop && [' ', '|', ' '].isPrefixOf (c :: rest)) || (scan.step c).finds rest

end Scan

/-- Whether a text is a union as it stands. -/
def isOpenUnion (text : String) : Bool := Scan.start.finds text.toList

/-- A text with a bar outside of brackets and quotes has a bar. -/
theorem isUnionText_of_isOpenUnion {text : String} (openUnion : isOpenUnion text = true) :
    isUnionText text = true := by
  have found (scan : Scan) (text : List Char) (finds : scan.finds text = true) :
      Text.occursIn [' ', '|', ' '] text = true := by
    induction text generalizing scan with
    | nil => cases finds
    | cons c rest ih =>
      rw [Scan.finds, Bool.or_eq_true, Bool.and_eq_true] at finds
      rw [Text.occursIn, Bool.or_eq_true]
      rcases finds with ⟨_, here⟩ | later
      · exact .inl here
      · exact .inr (ih _ later)
  exact found _ _ openUnion

/-- What may stand for a type in a type that binds tighter than a union. -/
def Operand (type : TypeDescriptor) (text : String) : Prop :=
  text = "(" ++ type.text ++ ")" ∨ text = type.text ∧ isOpenUnion type.text = false

/-- The parts of an array or an intersection keep together in its text. -/
def KeepsParts (type : TypeDescriptor) : Prop :=
  ∃ operands, List.Forall₂ Operand type.parts operands ∧
    match type.shape with
    | .array => type.text = String.join operands ++ "[]"
    | .intersection => type.text = " & ".intercalate operands ∨
      type.text = "(" ++ " & ".intercalate operands ++ ")"
    | _ => True

/-- An array keeps its item together. -/
theorem keepsParts_arrayOf (item : TypeDescriptor) : KeepsParts (arrayOf item) := by
  unfold arrayOf
  by_cases union : isUnion item = true
  · rw [if_pos union]
    refine ⟨["(" ++ item.text ++ ")"], .cons (.inl rfl) .nil, ?_⟩
    simp [TypeDescriptor.shape, TypeDescriptor.text, String.append_assoc]
  · rw [if_neg union]
    have closed : isOpenUnion item.text = false := by
      rw [← Bool.not_eq_true]
      exact mt isUnionText_of_isOpenUnion union
    refine ⟨[item.text], .cons (.inr ⟨rfl, closed⟩) .nil, ?_⟩
    simp [TypeDescriptor.shape, TypeDescriptor.text]

/-- Parentheses around a list of operands are not those of its first one. -/
theorem cons_append_ne (text one other : List Char) :
    text ++ ' ' :: one ≠ '(' :: (text ++ ' ' :: other) := by
  intro same
  induction text with
  | nil => simp at same
  | cons c rest ih =>
    rw [List.cons_append, List.cons_append, List.cons.injEq] at same
    obtain ⟨rfl, same⟩ := same
    exact ih same

theorem length_intercalate_le {members : List TypeDescriptor} {operands : List String}
    (standFor : List.Forall₂ Operand members operands) :
    (" & ".intercalate (members.map (·.text))).length ≤ (" & ".intercalate operands).length ∧
      ((" & ".intercalate (members.map (·.text))).length = (" & ".intercalate operands).length →
        ∀ member ∈ members, isOpenUnion member.text = false) := by
  -- Parentheses make a text longer, so where nothing is longer there are none.
  have single {member : TypeDescriptor} {operand : String} (first : Operand member operand) :
      member.text.length ≤ operand.length ∧
        (member.text.length = operand.length → isOpenUnion member.text = false) := by
    rcases first with rfl | ⟨rfl, closed⟩
    · simp only [String.length_append]
      have one : "(".length = 1 := rfl
      constructor
      · omega
      · intro same
        omega
    · exact ⟨le_rfl, fun _ => closed⟩
  induction standFor with
  | nil => simp
  | @cons member operand members operands first others ih =>
    obtain ⟨shorter, closed⟩ := single first
    cases others with
    | nil =>
      simp only [List.map_cons, List.map_nil, String.intercalate_singleton]
      exact ⟨shorter, fun same => List.forall_mem_singleton.mpr (closed same)⟩
    | cons second others =>
      obtain ⟨shorter', closed'⟩ := ih
      simp only [List.map_cons, String.intercalate_cons_cons, String.length_append] at *
      constructor
      · omega
      · intro same
        exact List.forall_mem_cons.mpr ⟨closed (by omega), closed' (by omega)⟩

/-- Without parentheses around the whole, the operands do not make up an intersection of several
members. -/
theorem intersection_ne {first second : TypeDescriptor} {members : List TypeDescriptor}
    {operand : String} (standsFor : Operand first operand) (operands : String) :
    "(" ++ " & ".intercalate ((first :: second :: members).map (·.text)) ++ ")" ≠
      operand ++ " & " ++ operands := by
  intro same
  simp only [List.map_cons, String.intercalate_cons_cons] at same
  have letters := congrArg String.toList same
  simp only [String.toList_append, List.append_assoc] at letters
  rcases standsFor with rfl | ⟨rfl, _⟩
  · -- Behind the first member there is a blank, and behind the first operand a parenthesis.
    simp only [String.toList_append, List.append_assoc, List.append_cancel_left_eq] at letters
    exact absurd (List.head_eq_of_cons_eq letters) (by decide)
  · exact cons_append_ne _ _ _ letters.symm

/-- Of several members an intersection keeps all together exactly if none of them is a union as it
stands. -/
theorem keepsParts_intersectionOf_iff (members : List TypeDescriptor) :
    KeepsParts (intersectionOf members) ↔
      members.length < 2 ∨ ∀ member ∈ members, isOpenUnion member.text = false := by
  constructor
  · rintro ⟨operands, standFor, written⟩
    -- The outermost brackets are in the text of every intersection, so the operands are inside of
    -- them: without brackets the text has one operand, with them the lengths have to agree.
    rcases written with bare | enclosed
    · left
      cases standFor with
      | nil => simp
      | cons first others =>
        cases others with
        | nil => simp
        | cons second others =>
          rw [String.intercalate_cons_cons] at bare
          exact absurd bare (intersection_ne first _)
    · right
      apply (length_intercalate_le standFor).2
      have inner := (String.append_right_inj _).mp ((String.append_left_inj _).mp enclosed)
      exact congrArg String.length inner
  · intro closed
    rcases closed with few | closed
    · cases members with
      | nil => exact ⟨[], .nil, .inr rfl⟩
      | cons member rest =>
        have alone : rest = [] := by
          rw [List.length_cons] at few
          exact List.length_eq_zero_iff.mp (by omega)
        subst alone
        exact ⟨["(" ++ member.text ++ ")"], .cons (.inl rfl) .nil, .inl rfl⟩
    · refine ⟨members.map (·.text), ?_, .inr rfl⟩
      rw [List.forall₂_map_right_iff]
      exact List.forall₂_same.mpr fun member among => .inr ⟨rfl, closed member among⟩

section

variable [Text.Romanization]

/-- In every described type, at any depth, arrays keep their items together. An intersection keeps
its members together exactly if it has fewer than two, or none that is a union as it stands. -/
theorem keepsParts_of_occurs (namespaceName : String) (schema : Node) (type : TypeDescriptor)
    (described : (describe namespaceName schema).outcome = .ok type) (parent : TypeDescriptor)
    (occurs : type.Occurs parent) :
    (parent.shape = .array → KeepsParts parent) ∧
      (parent.shape = .intersection → (KeepsParts parent ↔
        parent.parts.length < 2 ∨ ∀ member ∈ parent.parts, isOpenUnion member.text = false)) := by
  have composed := composed_of_occurs namespaceName described occurs
  constructor
  · intro shape
    obtain ⟨item, rfl⟩ := composed.array shape
    exact keepsParts_arrayOf item
  · intro shape
    obtain ⟨members, rfl⟩ := composed.intersection shape
    exact keepsParts_intersectionOf_iff members

/-- A schema with two alternatives. -/
def stringOrNumber : Node :=
  .object [(.text "oneOf", .list [.object [(.text "type", .text "string")],
    .object [(.text "type", .text "number")]])]

/-- A list of what the two alternatives describe. -/
def listOfEither : Node :=
  .object [(.text "type", .text "array"), (.text "items", stringOrNumber)]

/-- The two alternatives, each together with a third type. -/
def eitherAndBoolean : Node :=
  .object [(.text "allOf", .list [stringOrNumber,
    .object [(.text "type", .text "boolean")]])]

/-- What a schema is described as can be tried for its shape and its texts. -/
theorem exists_described {schema : Node} {shape : TypeShape} {text : String} {texts : List String}
    (told : ((describe "API" schema).outcome.toOption.map fun type =>
      (type.shape, type.text, type.parts.map (·.text))) = some (shape, text, texts)) :
    ∃ type, (describe "API" schema).outcome = .ok type ∧ type.shape = shape ∧ type.text = text ∧
      type.parts.map (·.text) = texts := by
  cases described : (describe "API" schema).outcome with
  | error failure => simp [described, Except.toOption] at told
  | ok type =>
    simp only [described, Except.toOption, Option.map_some, Option.some.injEq,
      Prod.mk.injEq] at told
    exact ⟨type, rfl, told⟩

end

theorem keepsParts_of_listOfEither :
    ∃ type, (describe "API" listOfEither).outcome = .ok type ∧ type.text = "(string | number)[]" ∧
      KeepsParts type := by
  have told : ((describe "API" listOfEither).outcome.toOption.map fun type =>
      (type.shape, type.text, type.parts.map (·.text))) =
        some (.array, "(string | number)[]", ["string | number"]) := by decide +kernel
  obtain ⟨type, described, shape, text, _⟩ := exists_described told
  exact ⟨type, described, text, (keepsParts_of_occurs _ _ type described type .refl).1 shape⟩

/-- A union among the members of an intersection is taken apart. -/
theorem not_keepsParts_of_eitherAndBoolean :
    ∃ type, (describe "API" eitherAndBoolean).outcome = .ok type ∧ type.shape = .intersection ∧
      type.text = "(string | number & boolean)" ∧
      (∃ member ∈ type.parts, isOpenUnion member.text = true) ∧ ¬ KeepsParts type := by
  have told : ((describe "API" eitherAndBoolean).outcome.toOption.map fun type =>
      (type.shape, type.text, type.parts.map (·.text))) =
        some (.intersection, "(string | number & boolean)", ["string | number", "boolean"]) := by
    decide +kernel
  obtain ⟨type, described, shape, text, texts⟩ := exists_described told
  obtain ⟨members, same⟩ := (composed_of_occurs _ described .refl).intersection shape
  have two : type.parts.length = 2 := by
    rw [← List.length_map (f := fun member => member.text), texts]
    rfl
  have either : "string | number" ∈ type.parts.map (·.text) := by
    rw [texts]
    exact List.mem_cons_self
  obtain ⟨member, among, spelled⟩ := List.mem_map.mp either
  have openUnion : isOpenUnion member.text = true := by
    rw [spelled]
    decide +kernel
  refine ⟨type, described, shape, text, ⟨member, among, openUnion⟩, ?_⟩
  clear described text texts told
  subst same
  intro keeps
  rcases (keepsParts_intersectionOf_iff members).mp keeps with few | closed
  · rw [show members.length = 2 from two] at few
    exact absurd few (by decide)
  · exact absurd openUnion (by rw [closed member among]; decide)

end ApiBindings.Schema
