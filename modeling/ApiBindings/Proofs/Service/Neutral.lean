import ApiBindings.Proofs.Service.Aliases

/-!
# Paths without the names of placeholders

Paths are compared with all their placeholders made equal. A template whose placeholders are written
in braces keeps its comparable form when the placeholders become expressions and when these are
renamed. A text in front leaves that form as an end, unless it opens a brace that it does not close.
-/
namespace ApiBindings.ServicePath

theorem neutralizeFrom_covered (covered : Nat) (text : List Char) :
    neutralizeFrom covered text = neutralizeFrom 0 (text.drop covered) := by
  induction covered generalizing text with
  | zero => rfl
  | succ covered ih =>
    cases text with
    | nil => rw [neutralizeFrom, List.drop_nil, neutralizeFrom]
    | cons c rest => rw [neutralizeFrom, ih, List.drop_succ_cons]

theorem neutralizeFrom_cons {c : Char} (other : c ≠ '\x7b') {rest : List Char}
    (apart : c = '$' → rest.head? ≠ some '\x7b') :
    neutralizeFrom 0 (c :: rest) = c :: neutralizeFrom 0 rest := by
  rw [neutralizeFrom, if_neg other]
  rintro later rfl rfl
  simp at apart

theorem neutralizeFrom_brace (rest : List Char) :
    neutralizeFrom 0 ('\x7b' :: rest) = match braced? rest with
      | some name => neutral ++ neutralizeFrom (name.length + 1) rest
      | none => '\x7b' :: neutralizeFrom 0 rest := by
  cases found : braced? rest <;> simp [neutralizeFrom, found]

/-- A dollar goes with the brace behind it, or stays. -/
theorem neutralizeFrom_dollar (rest : List Char) :
    neutralizeFrom 0 ('$' :: '\x7b' :: rest) = match braced? rest with
      | some _ => neutralizeFrom 0 ('\x7b' :: rest)
      | none => '$' :: neutralizeFrom 0 ('\x7b' :: rest) := by
  rw [neutralizeFrom, neutralizeFrom_brace]
  cases braced? rest <;> rfl

theorem neutralizeFrom_of_unclosed {text : List Char} (unclosed : '\x7d' ∉ text) :
    neutralizeFrom 0 text = text := by
  induction text with
  | nil => rfl
  | cons c rest ih =>
    have later : '\x7d' ∉ rest := fun member => unclosed (List.mem_cons_of_mem c member)
    by_cases brace : c = '\x7b'
    · subst brace
      rw [neutralizeFrom_brace, braced?_eq_none.mpr later, ih later]
    · by_cases opened : c = '$' ∧ rest.head? = some '\x7b'
      · obtain ⟨rfl, opened⟩ := opened
        obtain ⟨rest, rfl⟩ := List.head?_eq_some_iff.mp opened
        rw [neutralizeFrom_dollar, braced?_eq_none.mpr fun member =>
          later (List.mem_cons_of_mem _ member)]
        dsimp only
        rw [ih later]
      · rw [neutralizeFrom_cons brace fun same opened' => opened ⟨same, opened'⟩, ih later]

/-- A text in which every opening brace has a closing one behind it. -/
def Closing (text : List Char) : Prop :=
  ∀ before after, text = before ++ '\x7b' :: after → '\x7d' ∈ after

theorem closing_of_notMem {text : List Char} (absent : '\x7b' ∉ text) : Closing text := by
  rintro before after rfl
  simp at absent

theorem Closing.tail {c : Char} {rest : List Char} (closing : Closing (c :: rest)) :
    Closing rest := by
  rintro before after rfl
  exact closing (c :: before) after rfl

theorem closing_concat (text : List Char) : Closing (text ++ ['\x7d']) := by
  intro before after spelled
  rcases List.suffix_concat_iff.mp ⟨before, spelled.symm⟩ with nothing | ⟨inner, divided, _⟩
  · cases nothing
  · cases inner with
    | nil => simp at divided
    | cons c inner =>
      obtain ⟨_, rfl⟩ := List.cons.inj divided
      simp

theorem suffix_neutralizeFrom_cons {c : Char} (other : c ≠ '\x7b') (rest : List Char) :
    neutralizeFrom 0 rest <:+ neutralizeFrom 0 (c :: rest) := by
  by_cases opened : c = '$' ∧ rest.head? = some '\x7b'
  · obtain ⟨rfl, opened⟩ := opened
    obtain ⟨rest, rfl⟩ := List.head?_eq_some_iff.mp opened
    rw [neutralizeFrom_dollar]
    split
    · exact List.suffix_rfl
    · exact List.suffix_cons _ _
  · rw [neutralizeFrom_cons other fun same opened' => opened ⟨same, opened'⟩]
    exact List.suffix_cons _ _

/-- What stands behind a text that closes its braces is made comparable by itself. -/
theorem suffix_neutralizeFrom {before : List Char} (closing : Closing before) {covered : Nat}
    (inside : covered ≤ before.length) (after : List Char) :
    neutralizeFrom 0 after <:+ neutralizeFrom covered (before ++ after) := by
  -- A placeholder that opens in the text in front ends there, so no cover reaches over its end.
  induction before generalizing covered with
  | nil =>
    obtain rfl : covered = 0 := by simpa using inside
    exact List.suffix_rfl
  | cons c before ih =>
    cases covered with
    | succ covered => exact ih closing.tail (Nat.le_of_succ_le_succ inside)
    | zero =>
      by_cases brace : c = '\x7b'
      · subst brace
        obtain ⟨name, rest, rfl, closed⟩ := List.eq_append_cons_of_mem (closing [] before rfl)
        rw [List.cons_append, neutralizeFrom_brace,
          braced?_eq_some.mpr ⟨closed, rest ++ after, by simp⟩]
        exact (ih closing.tail (by simp)).trans (List.suffix_append _ _)
      · exact (ih closing.tail (Nat.zero_le _)).trans (suffix_neutralizeFrom_cons brace _)

/-- A prefix that is quoted closes the braces it opens. -/
def ClosedPrefix (apiPrefix : Option ApiPrefix) : Prop :=
  ∀ context quote rest, prefixText apiPrefix context = quote :: rest → isQuote quote = true →
    Closing rest.dropLast

theorem suffix_withPrefix {apiPrefix : List Char} (closed : ∀ quote rest,
      apiPrefix = quote :: rest → isQuote quote = true → Closing rest.dropLast) (path : List Char) :
    neutralizeFrom 0 path <:+ neutralizeFrom 0 (withPrefix apiPrefix path) := by
  unfold withPrefix
  split
  · exact List.suffix_rfl
  · rename_i quote rest
    split
    · rename_i quoted
      dsimp only
      split
      · exact List.suffix_rfl
      · exact suffix_neutralizeFrom (closed quote rest rfl quoted) (Nat.zero_le _) path
    · exact suffix_neutralizeFrom (closing_concat ('$' :: '\x7b' :: quote :: rest))
        (Nat.zero_le _) path

/-- The pieces of a template with all expressions made equal. -/
def leveled (pieces : List Piece) : List Char :=
  pieces.flatMap fun piece => match piece with
    | .char c => [c]
    | .slot _ => neutral

@[simp] theorem leveled_nil : leveled [] = [] := rfl

@[simp] theorem leveled_char (c : Char) (rest : List Piece) :
    leveled (.char c :: rest) = c :: leveled rest := rfl

@[simp] theorem leveled_slot (name : String) (rest : List Piece) :
    leveled (.slot name :: rest) = neutral ++ leveled rest := rfl

@[simp] theorem leveled_replace (pieces : List Piece) (name new : String) :
    leveled (pieces.replace (.slot name) (.slot new)) = leveled pieces := by
  induction pieces with
  | nil => rfl
  | cons piece rest ih =>
    by_cases same : .slot name = piece
    · subst same
      simp
    · rw [replace_cons_of_ne same]
      cases piece <;> simp [ih]

@[simp] theorem leveled_renameEach (changes : List (String × String)) (pieces : List Piece) :
    leveled (renameEach changes pieces) = leveled pieces := by
  induction changes generalizing pieces with
  | nil => rfl
  | cons change rest ih => rw [renameEach, ih, leveled_replace]

/-- Without expressions there is nothing to be made equal. -/
theorem spell_of_slots {pieces : List Piece} (none : slots pieces = []) :
    spell pieces = leveled pieces := by
  induction pieces with
  | nil => rfl
  | cons piece rest ih =>
    cases piece with
    | char c => rw [spell_char, leveled_char, ih none]
    | slot name => simp at none

/-- Pieces whose characters open no placeholder. -/
def Level : List Piece → Prop
  | [] => True
  | .char c :: rest => (c = '\x7b' → slots rest = [] ∧ '\x7d' ∉ leveled rest) ∧ Level rest
  | .slot _ :: rest => Level rest

theorem neutralizeFrom_spell {pieces : List Piece} (legible : Legible pieces)
    (level : Level pieces) : neutralizeFrom 0 (spell pieces) = leveled pieces := by
  induction pieces with
  | nil => rfl
  | cons piece rest ih =>
    cases piece with
    | char c =>
      obtain ⟨apart, legible⟩ := legible
      obtain ⟨unclosed, level⟩ := level
      rw [spell_char, leveled_char, ← ih legible level]
      by_cases brace : c = '\x7b'
      · -- What stands behind such a brace is spelled without a closing one.
        subst brace
        obtain ⟨none, absent⟩ := unclosed rfl
        rw [neutralizeFrom_brace, braced?_eq_none.mpr (spell_of_slots none ▸ absent)]
      · exact neutralizeFrom_cons brace fun same opened => apart same (head?_spell opened)
    | slot name =>
      obtain ⟨plain, legible⟩ := legible
      have found : braced? (name.toList ++ '\x7d' :: spell rest) = some name.toList :=
        braced?_eq_some.mpr ⟨plain.closed, _, rfl⟩
      rw [spell_slot, leveled_slot, neutralizeFrom_dollar, neutralizeFrom_brace, found]
      dsimp only
      rw [neutralizeFrom_covered, ← List.drop_drop, List.drop_left, List.drop_succ_cons,
        List.drop_zero, ih legible level]

theorem level_replace {pieces : List Piece} (level : Level pieces) (name new : String) :
    Level (pieces.replace (.slot name) (.slot new)) := by
  induction pieces with
  | nil => trivial
  | cons piece rest ih =>
    cases piece with
    | char c =>
      rw [replace_cons_of_ne (by simp)]
      refine ⟨fun brace => ?_, ih level.2⟩
      obtain ⟨none, absent⟩ := level.1 brace
      exact ⟨by simp [slots_replace, none], by simpa using absent⟩
    | slot other =>
      by_cases same : name = other
      · subst same
        rw [List.replace_cons_self]
        exact level
      · rw [replace_cons_of_ne (by simpa using same)]
        exact ih level

theorem level_renameEach {changes : List (String × String)} {pieces : List Piece}
    (level : Level pieces) : Level (renameEach changes pieces) := by
  induction changes generalizing pieces with
  | nil => exact level
  | cons change rest ih => exact ih (level_replace level _ _)

theorem piecesFrom_of_plain {text : List Char} (colon : ':' ∉ text) (unclosed : '\x7d' ∉ text) :
    piecesFrom 0 text = text.map .char := by
  induction text with
  | nil => rfl
  | cons c rest ih =>
    rw [List.mem_cons, not_or] at colon unclosed
    have none : braced? rest = none := braced?_eq_none.mpr unclosed.2
    rw [piecesFrom, if_neg (Ne.symm colon.1), none, ih colon.2 unclosed.2]
    simp

@[simp] theorem leveled_chars (text : List Char) : leveled (text.map .char) = text := by
  induction text with
  | nil => rfl
  | cons c rest ih => rw [List.map_cons, leveled_char, ih]

@[simp] theorem slots_chars (text : List Char) : slots (text.map .char) = [] := by
  simp [slots, List.filterMap_map, Function.comp_def, Piece.name?]

theorem level_chars {text : List Char} (unclosed : '\x7d' ∉ text) : Level (text.map .char) := by
  induction text with
  | nil => trivial
  | cons c rest ih =>
    rw [List.mem_cons, not_or] at unclosed
    exact ⟨fun _ => by simpa using unclosed.2, ih unclosed.2⟩

/-- A path without colons outside of braces is compared by the pieces of its template. -/
theorem neutralizeFrom_eq_leveled {covered : Nat} {path : List Char} (unopened : Unopened path)
    (colon : ':' ∉ neutralizeFrom covered path) :
    neutralizeFrom covered path = leveled (piecesFrom covered path) ∧
      Level (piecesFrom covered path) := by
  fun_induction piecesFrom covered path with
  | case1 => exact ⟨by rw [neutralizeFrom]; rfl, trivial⟩
  | case2 covered c rest ih => exact ih unopened.tail colon
  | case3 rest name ih =>
    rw [neutralizeFrom_cons (by decide) (by simp)] at colon
    simp at colon
  | case4 rest name found _ ih =>
    rw [neutralizeFrom_brace, found] at colon ⊢
    obtain ⟨same, level⟩ := ih unopened.tail fun member => colon (List.mem_append_right _ member)
    exact ⟨congrArg (neutral ++ ·) same, level⟩
  | case5 rest none _ ih =>
    -- Nothing behind this brace closes it, so nothing behind it is a placeholder.
    have unclosed := braced?_eq_none.mp none
    rw [neutralizeFrom_brace, none] at colon ⊢
    dsimp only at colon ⊢
    rw [neutralizeFrom_of_unclosed unclosed, List.mem_cons, not_or] at colon
    rw [neutralizeFrom_of_unclosed unclosed, piecesFrom_of_plain colon.2 unclosed]
    exact ⟨by simp, fun _ => by simpa using unclosed, level_chars unclosed⟩
  | case6 c rest _ brace ih =>
    have apart : c = '$' → rest.head? ≠ some '\x7b' := by
      rintro rfl opened
      obtain ⟨later, rfl⟩ := List.head?_eq_some_iff.mp opened
      exact unopened ⟨[], later, rfl⟩
    rw [neutralizeFrom_cons brace apart] at colon ⊢
    obtain ⟨same, level⟩ := ih unopened.tail fun member => colon (List.mem_cons_of_mem _ member)
    exact ⟨by rw [leveled_char, same], fun opened => absurd opened brace, level⟩

/-- The comparable form of a path stays when its placeholders become expressions with new names. -/
theorem neutralizeFrom_renameEach {changes : List (String × String)}
    (plain : ∀ change ∈ changes, Plain change.2.toList) {path : List Char}
    (unopened : Unopened path) (colon : ':' ∉ neutralizeFrom 0 path) :
    neutralizeFrom 0 (spell (renameEach changes (piecesFrom 0 path))) = neutralizeFrom 0 path := by
  obtain ⟨same, level⟩ := neutralizeFrom_eq_leveled unopened colon
  rw [neutralizeFrom_spell (legible_renameEach plain (legible_piecesFrom unopened))
    (level_renameEach level), leveled_renameEach, same]

end ApiBindings.ServicePath
