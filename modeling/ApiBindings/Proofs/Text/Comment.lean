import ApiBindings.Proofs.Text.Pieces

/-!
# Comments in a text

A comment ends at the first closing mark behind its opening. So a comment that is written into a
text ends where it is meant to exactly if there is no closing mark in it. This does not depend on
what stands around the comment, nor on how the comment is put together, as long as its parts are
kept apart by characters that belong to no mark.
-/
namespace ApiBindings.Comment

def closing : List Char := ['*', '/']

/-- Reads on behind an opening mark: the comment, and the text behind its end. -/
def read? : List Char → Option (List Char × List Char)
  | [] => none
  | c :: rest =>
    if closing <+: c :: rest then some ([], rest.drop 1)
    else (read? rest).map fun (body, behind) => (c :: body, behind)

/-- A text that does not end the comment it stands in. -/
def Inert (text : List Char) : Prop := ¬ closing <:+: text

instance (text : List Char) : Decidable (Inert text) :=
  decidable_of_iff (Text.occursIn closing text = false) (by
    rw [Inert, ← Text.occursIn_iff, Bool.not_eq_true])

/-- A piece of a text: code, or a comment between its marks. -/
inductive Piece
  | code (text : List Char)
  | comment (body : List Char)
  deriving DecidableEq

def Piece.spell : Piece → List Char
  | code text => text
  | comment body => '/' :: '*' :: (body ++ closing)

def spell (pieces : List Piece) : List Char := pieces.flatMap Piece.spell

/-- Each comment is read to its own closing mark. -/
def Closed (pieces : List Piece) : Prop :=
  ∀ before body behind, pieces = before ++ .comment body :: behind →
    read? (body ++ closing ++ spell behind) = some (body, spell behind)

@[simp] theorem spell_nil : spell [] = [] := rfl

@[simp] theorem spell_code (text : List Char) (rest : List Piece) :
    spell (.code text :: rest) = text ++ spell rest := rfl

@[simp] theorem spell_comment (body : List Char) (rest : List Piece) :
    spell (.comment body :: rest) = '/' :: '*' :: (body ++ '*' :: '/' :: spell rest) := by
  simp [spell, Piece.spell, closing]

@[simp] theorem spell_append (one other : List Piece) :
    spell (one ++ other) = spell one ++ spell other :=
  List.flatMap_append

theorem spell_flatMap {α : Type} (items : List α) (pieces : α → List Piece) :
    spell (items.flatMap pieces) = items.flatMap fun item => spell (pieces item) :=
  List.flatMap_assoc

theorem inert_nil : Inert [] := by decide

theorem inert_cons_iff {c : Char} {text : List Char} :
    Inert (c :: text) ↔ ¬ closing <+: c :: text ∧ Inert text := by
  rw [Inert, List.infix_cons_iff, not_or, Inert]

theorem inert_cons_of_ne {c : Char} (other : c ≠ '*') {text : List Char} :
    Inert (c :: text) ↔ Inert text := by
  rw [inert_cons_iff]
  refine and_iff_right fun marked => ?_
  exact other (List.cons_prefix_cons.mp marked).1.symm

/-- A character that belongs to no mark keeps the texts on both of its sides apart. -/
theorem inert_append_cons {c : Char} (other : c ∉ closing) {before behind : List Char} :
    Inert (before ++ c :: behind) ↔ Inert before ∧ Inert behind := by
  induction before with
  | nil =>
    rw [List.nil_append, inert_cons_of_ne (by rintro rfl; simp [closing] at other)]
    exact (and_iff_right inert_nil).symm
  | cons d rest ih =>
    have same : closing <+: d :: (rest ++ c :: behind) ↔ closing <+: d :: rest :=
      ⟨Text.prefix_of_notMem other (d :: rest) behind, fun marked =>
        marked.trans (List.prefix_append (d :: rest) _)⟩
    rw [List.cons_append, inert_cons_iff, ih, inert_cons_iff, same, and_assoc]

theorem inert_of_notMem {text : List Char} (absent : '*' ∉ text) : Inert text := by
  rintro ⟨before, behind, rfl⟩
  simp [closing] at absent

/-- Texts that are joined by blanks end a comment only if one of them does. -/
theorem inert_intercalate {texts : List String} :
    Inert (" ".intercalate texts).toList ↔ ∀ text ∈ texts, Inert text.toList := by
  induction texts with
  | nil => simp [inert_nil]
  | cons text rest ih =>
    cases rest with
    | nil => simp
    | cons second others =>
      have blank : ' ' ∉ closing := by decide
      have apart : (" ".intercalate (text :: second :: others)).toList =
          text.toList ++ ' ' :: (" ".intercalate (second :: others)).toList := by
        simp [String.intercalate_cons_cons]
      rw [apart, inert_append_cons blank, ih]
      simp only [List.forall_mem_cons]

/-- A comment is read to its own closing mark if there is none before. -/
theorem read?_append_iff (body behind : List Char) :
    read? (body ++ closing ++ behind) = some (body, behind) ↔ Inert body := by
  induction body with
  | nil => simp [read?, closing, inert_nil]
  | cons c rest ih =>
    -- The closing mark starts with no character that another one ends with.
    have same : closing <+: c :: (rest ++ closing ++ behind) ↔ closing <+: c :: rest := by
      cases rest <;> simp [closing]
    rw [List.cons_append, List.cons_append, read?, inert_cons_iff, ← ih]
    by_cases marked : closing <+: c :: rest
    · rw [if_pos (same.mpr marked)]
      simp [marked]
    · rw [if_neg (mt same.mp marked)]
      simp [marked]

/-- Comments are closed if nothing in them ends them. -/
theorem closed_iff (pieces : List Piece) :
    Closed pieces ↔ ∀ body, .comment body ∈ pieces → Inert body := by
  constructor
  · intro closed body member
    obtain ⟨before, behind, rfl⟩ := List.append_of_mem member
    exact (read?_append_iff body _).mp (closed before body behind rfl)
  · rintro inert before body behind rfl
    exact (read?_append_iff body _).mpr (inert body (by simp))

end ApiBindings.Comment
