import ApiBindings.Proofs.Text.Pieces
import Mathlib.Logic.Function.Iterate

/-!
# Erasing

A part is taken out of a text round by round until it no longer occurs. A round leaves what is left
in its order and takes out a whole occurrence at least, so there are no more rounds than occurrences
would fit into the text.
-/
namespace ApiBindings.Text

theorem replaceAll_of_absent {old text : List Char} (absent : ¬ old <:+: text) (new : List Char) :
    replaceAll old new text = text := by
  unfold replaceAll
  induction text with
  | nil => rfl
  | cons c rest ih =>
    rw [List.infix_cons_iff, not_or] at absent
    have notHere : ¬ old.isPrefixOf (c :: rest) = true := by simpa using absent.1
    rw [replaceFrom, if_neg notHere, ih absent.2]

theorem replaceFrom_nil_sublist (old : List Char) (covered : Nat) (text : List Char) :
    (replaceFrom old [] covered text).Sublist text := by
  fun_induction replaceFrom old [] covered text with
  | case1 => exact .slnil
  | case2 covered c rest ih => exact ih.cons c
  | case3 c rest _ ih => exact ih.cons c
  | case4 c rest _ ih => exact ih.cons_cons c

/-- What is left of a text keeps its order. -/
theorem eraseAll_sublist (part text : List Char) : (eraseAll part text).Sublist text := by
  fun_induction eraseAll part text with
  | case1 text _ ih => exact ih.trans (replaceFrom_nil_sublist part 0 text)
  | case2 => exact .refl _

theorem length_replaceFrom_add_le (old : List Char) {covered : Nat} {text : List Char}
    (inside : covered ≤ text.length) :
    (replaceFrom old [] covered text).length + covered ≤ text.length := by
  induction text generalizing covered with
  | nil => simpa [replaceFrom] using inside
  | cons c rest ih =>
    cases covered with
    | succ covered =>
      have shorter := ih (Nat.le_of_succ_le_succ inside)
      rw [replaceFrom, List.length_cons]
      omega
    | zero =>
      rw [replaceFrom]
      split
      · rename_i here
        -- The occurrence that begins here ends inside of the text.
        have fits := (List.isPrefixOf_iff_prefix.mp here).length_le
        rw [List.length_cons] at fits
        have fits' : old.length - 1 ≤ rest.length := by omega
        have shorter := ih fits'
        rw [List.nil_append, List.length_cons]
        omega
      · have shorter := ih (Nat.zero_le rest.length)
        rw [List.length_cons, List.length_cons]
        omega

/-- A round takes out one occurrence at least. -/
theorem length_replaceAll_add_le {old text : List Char} (some : old ≠ []) (occurs : old <:+: text) :
    (replaceAll old [] text).length + old.length ≤ text.length := by
  unfold replaceAll
  induction text with
  | nil => exact absurd (List.eq_nil_of_infix_nil occurs) some
  | cons c rest ih =>
    rw [replaceFrom]
    split
    · rename_i here
      have present := List.length_pos_of_ne_nil some
      have fits := (List.isPrefixOf_iff_prefix.mp here).length_le
      rw [List.length_cons] at fits
      have fits' : old.length - 1 ≤ rest.length := by omega
      have shorter := length_replaceFrom_add_le old fits'
      rw [List.nil_append, List.length_cons]
      omega
    · rename_i notHere
      rcases List.infix_cons_iff.mp occurs with here | later
      · exact absurd (List.isPrefixOf_iff_prefix.mpr here) notHere
      · have shorter := ih later
        rw [List.length_cons, List.length_cons]
        omega

/-- Erasing a part ends after some rounds, before each of which it occurs, and leaves none of it.
The rounds together take out as many characters at least as so many occurrences have. -/
theorem exists_rounds {part : List Char} (some : part ≠ []) (text : List Char) :
    ∃ rounds, eraseAll part text = (replaceAll part [])^[rounds] text ∧
      (∀ k < rounds, part <:+: (replaceAll part [])^[k] text) ∧
      ¬ part <:+: eraseAll part text ∧
      (eraseAll part text).length + rounds * part.length ≤ text.length := by
  fun_induction eraseAll part text with
  | case1 text occurs ih =>
    obtain ⟨rounds, reached, each, absent, shorter⟩ := ih
    have here := (occursIn_iff part text).mp occurs.2
    refine ⟨rounds + 1, reached, ?_, absent, ?_⟩
    · intro k before
      cases k with
      | zero => exact here
      | succ k => exact each k (Nat.lt_of_succ_lt_succ before)
    · have first := length_replaceAll_add_le some here
      rw [Nat.succ_mul]
      omega
  | case2 text ends =>
    refine ⟨0, rfl, fun k before => absurd before (Nat.not_lt_zero k), ?_, by simp⟩
    intro occurs
    exact ends ⟨some, (occursIn_iff part text).mpr occurs⟩

/-- What is left once a part is erased has nothing more to be erased. -/
theorem eraseAll_eraseAll (part text : List Char) :
    eraseAll part (eraseAll part text) = eraseAll part text := by
  by_cases empty : part = []
  · subst empty
    rw [eraseAll, dif_neg fun occurs => occurs.1 rfl]
  · obtain ⟨_, _, _, absent, _⟩ := exists_rounds empty text
    rw [← occursIn_iff, Bool.not_eq_true] at absent
    exact eraseAll_of_absent absent

end ApiBindings.Text
