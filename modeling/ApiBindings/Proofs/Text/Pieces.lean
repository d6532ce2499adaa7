import ApiBindings.Text.Pieces
import Mathlib.Data.List.Infix

/-!
# Pieces and replacements

A separator divides a text wherever it stands, and an occurrence never reaches over a character
that it does not hold. So a text that is built of known pieces is cut into these pieces again, and
a replacement works on both sides of such a character apart.
-/
namespace ApiBindings.Text

theorem cut_of_notMem {separator : Char} {text : List Char} (absent : separator ∉ text) :
    cut separator text = [text] := by
  induction text with
  | nil => rfl
  | cons c rest ih =>
    rw [List.mem_cons, not_or] at absent
    rw [cut, if_neg (Ne.symm absent.1), ih absent.2]

theorem cut_append {separator : Char} {piece : List Char} (absent : separator ∉ piece)
    (rest : List Char) :
    cut separator (piece ++ separator :: rest) = piece :: cut separator rest := by
  induction piece with
  | nil => simp [cut]
  | cons c piece ih =>
    rw [List.mem_cons, not_or] at absent
    rw [List.cons_append, cut, if_neg (Ne.symm absent.1), ih absent.2]

theorem sublist_of_mem_cut {separator : Char} {text piece : List Char}
    (member : piece ∈ cut separator text) : piece.Sublist text := by
  induction text generalizing piece with
  | nil =>
    obtain rfl := List.mem_singleton.mp member
    exact .slnil
  | cons c rest ih =>
    rw [cut] at member
    split at member
    · rcases List.mem_cons.mp member with rfl | later
      · exact List.nil_sublist _
      · exact (ih later).cons c
    · split at member
      · rename_i nothing
        exact absurd nothing (cut_ne_nil separator rest)
      · rename_i first others pieces
        rcases List.mem_cons.mp member with rfl | later
        · exact (ih (pieces ▸ List.mem_cons_self)).cons_cons c
        · exact (ih (pieces ▸ List.mem_cons_of_mem _ later)).cons c

theorem lastPiece_sublist (separator : Char) (text : List Char) :
    (lastPiece separator text).Sublist text :=
  sublist_of_mem_cut (List.getLast_mem _)

theorem lastPiece_of_notMem {separator : Char} {text : List Char} (absent : separator ∉ text) :
    lastPiece separator text = text := by
  simp only [lastPiece, cut_of_notMem absent, List.getLast_singleton]

theorem firstPiece_append {separator : Char} {piece : List Char} (absent : separator ∉ piece)
    (rest : List Char) :
    firstPiece separator (piece ++ rest) = piece ++ firstPiece separator rest := by
  apply List.takeWhile_append_of_pos
  intro c member
  simpa using ne_of_mem_of_not_mem member absent

theorem firstPiece_of_notMem {separator : Char} {text : List Char} (absent : separator ∉ text) :
    firstPiece separator text = text := by
  simpa [firstPiece] using firstPiece_append absent []

/-- The first piece is followed by a separator, if it is not the whole text. -/
theorem firstPiece_spec (separator : Char) (text : List Char) :
    separator ∉ firstPiece separator text ∧ (firstPiece separator text = text ∨
      ∃ rest, text = firstPiece separator text ++ separator :: rest) := by
  induction text with
  | nil => simp [firstPiece]
  | cons c rest ih =>
    by_cases same : c = separator
    · simp [firstPiece, same]
    · simpa [firstPiece, same, Ne.symm same] using ih

/-- Replacing a single character goes character by character. -/
theorem replaceAll_singleton (c : Char) (new text : List Char) :
    replaceAll [c] new text = text.flatMap fun d => if d = c then new else [d] := by
  unfold replaceAll
  induction text with
  | nil => rfl
  | cons d rest ih =>
    by_cases same : d = c
    · simp [replaceFrom, same, ih]
    · simp [replaceFrom, same, ih, Ne.symm same]

theorem prefix_of_notMem {old : List Char} {c : Char} (absent : c ∉ old) (before after : List Char)
    (prefixed : old <+: before ++ c :: after) : old <+: before := by
  have whole : before ++ [c] <+: before ++ c :: after := by simp
  rcases List.prefix_or_prefix_of_prefix prefixed whole with shorter | longer
  · rcases List.prefix_concat_iff.mp shorter with rfl | inside
    · simp at absent
    · exact inside
  · exact absurd (longer.subset (by simp)) absent

/-- A replacement works on both sides of a character that no occurrence holds. -/
theorem replaceFrom_append {old : List Char} {c : Char} (absent : c ∉ old) (some : old ≠ [])
    (new : List Char) {covered : Nat} {before : List Char} (inside : covered ≤ before.length)
    (after : List Char) :
    replaceFrom old new covered (before ++ c :: after) =
      replaceFrom old new covered before ++ c :: replaceFrom old new 0 after := by
  -- An occurrence ends before the character, so what is still covered never reaches it.
  induction before generalizing covered with
  | nil =>
    obtain rfl : covered = 0 := by simpa using inside
    have notHere : ¬ old <+: c :: after := fun prefixed =>
      some (List.prefix_nil.mp (prefix_of_notMem absent [] after prefixed))
    simp [replaceFrom, notHere]
  | cons d before ih =>
    cases covered with
    | succ covered => exact ih (Nat.le_of_succ_le_succ inside)
    | zero =>
      have same : old <+: d :: (before ++ c :: after) ↔ old <+: d :: before :=
        ⟨prefix_of_notMem absent (d :: before) after, fun prefixed =>
          prefixed.trans (List.prefix_append (d :: before) _)⟩
      by_cases here : old <+: d :: before
      · have short : old.length - 1 ≤ before.length := by
          have := here.length_le
          simp only [List.length_cons] at this
          omega
        simp [replaceFrom, same, here, ih short]
      · simp [replaceFrom, same, here, ih]

theorem occursIn_iff (part text : List Char) : occursIn part text = true ↔ part <:+: text := by
  induction text with
  | nil => simp [occursIn]
  | cons c rest ih => simp [occursIn, ih, List.infix_cons_iff]

theorem mem_replaceFrom {old new text : List Char} {covered : Nat} {c : Char}
    (member : c ∈ replaceFrom old new covered text) : c ∈ new ∨ c ∈ text := by
  fun_induction replaceFrom old new covered text with
  | case1 => simp at member
  | case2 covered d rest ih => exact (ih member).imp_right (List.mem_cons_of_mem d)
  | case3 d rest _ ih =>
    rcases List.mem_append.mp member with first | later
    · exact .inl first
    · exact (ih later).imp_right (List.mem_cons_of_mem d)
  | case4 d rest _ ih =>
    rcases List.mem_cons.mp member with rfl | later
    · exact .inr List.mem_cons_self
    · exact (ih later).imp_right (List.mem_cons_of_mem d)

/-- What counts neither in the old nor in the new text counts the same before and after a
replacement. -/
theorem measure_replaceFrom {measure : List Char → Nat}
    (additive : ∀ one other, measure (one ++ other) = measure one + measure other)
    {old new : List Char} (some : old ≠ []) (none : measure old = 0) (none' : measure new = 0)
    (covered : Nat) (text : List Char) :
    measure (replaceFrom old new covered text) + measure (text.take covered) = measure text := by
  have nil : measure [] = 0 := by
    have twice := additive [] []
    rw [List.append_nil] at twice
    omega
  have cons (c : Char) (rest : List Char) : measure (c :: rest) = measure [c] + measure rest :=
    additive [c] rest
  -- The covered characters belong to the text that is replaced, so they do not count.
  fun_induction replaceFrom old new covered text with
  | case1 => simp [nil]
  | case2 covered c rest ih =>
    rw [List.take_succ_cons, cons c, cons c rest]
    omega
  | case3 c rest here ih =>
    obtain ⟨d, more, rfl⟩ := List.exists_cons_of_ne_nil some
    obtain ⟨rfl, prefixed⟩ : d = c ∧ more <+: rest := by simpa using here
    rw [List.length_cons, Nat.add_sub_cancel, ← List.prefix_iff_eq_take.mp prefixed] at ih
    rw [cons] at none
    rw [additive, cons d rest, List.length_cons, Nat.add_sub_cancel, List.take_zero, nil]
    omega
  | case4 c rest _ ih =>
    rw [List.take_zero, nil] at ih ⊢
    rw [cons c, cons c rest]
    omega

theorem replaceFirst_self (old new rest : List Char) (some : old ≠ []) :
    replaceFirst old new (old ++ rest) = new ++ rest := by
  obtain ⟨c, more, rfl⟩ := List.exists_cons_of_ne_nil some
  rw [List.cons_append, replaceFirst, ← List.cons_append, if_pos (by simp), List.drop_left]

theorem replaceFirst_of_absent {old text : List Char} (absent : ¬ old <:+: text)
    (new : List Char) : replaceFirst old new text = text := by
  induction text with
  | nil => rfl
  | cons c rest ih =>
    rw [List.infix_cons_iff, not_or] at absent
    rw [replaceFirst, if_neg (by simpa using absent.1), ih absent.2]

theorem eraseAll_of_absent {part text : List Char} (absent : occursIn part text = false) :
    eraseAll part text = text := by
  rw [eraseAll, dif_neg (by simp [absent])]

theorem countP_eraseAll {inClass : Char → Bool} {part : List Char} (none : part.countP inClass = 0)
    (text : List Char) : (eraseAll part text).countP inClass = text.countP inClass := by
  fun_induction eraseAll part text with
  | case1 text occurs ih =>
    rw [ih]
    exact measure_replaceFrom (fun _ _ => List.countP_append) occurs.1 none List.countP_nil 0 text
  | case2 => rfl

theorem mem_eraseAll {part text : List Char} {c : Char} (member : c ∈ eraseAll part text) :
    c ∈ text := by
  fun_induction eraseAll part text with
  | case1 text _ ih => simpa using mem_replaceFrom (ih member)
  | case2 => exact member

end ApiBindings.Text
