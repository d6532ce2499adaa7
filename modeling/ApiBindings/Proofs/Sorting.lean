import ApiBindings.Text.CodePoint
import Mathlib.Data.List.Basic

/-!
# Stable sorting

The order of texts is the lexicographic one over code points, so it is total. A list sorted by a
text of its items holds the same items with these texts in order, and items of one text stand in
it as they stood before.
-/
namespace ApiBindings

namespace Text

/-- No two characters have one code point: the codes of halves are those of no characters. -/
theorem codePoint_inj {c d : Char} (same : codePoint c = codePoint d) : c = d := by
  have bounds (c : Char) : c.toNat < 0xd800 ∨ 0xdfff < c.toNat ∧ c.toNat < 0x110000 := c.valid
  have first := bounds c
  have second := bounds d
  unfold codePoint surrogateOffset at same
  refine Char.toNat_inj.mp ?_
  split at same <;> split at same <;> omega

theorem precedes_cons (c d : Char) (one other : List Char) :
    precedes (c :: one) (d :: other) = true ↔
      codePoint c < codePoint d ∨ c = d ∧ precedes one other = true := by
  simp [precedes]

theorem precedes_iff_lex (one other : List Char) :
    precedes one other = true ↔ List.Lex (fun c d => codePoint c < codePoint d) one other := by
  induction one generalizing other with
  | nil =>
    cases other with
    | nil => exact ⟨fun before => by simp [precedes] at before, fun before => by cases before⟩
    | cons d other => exact ⟨fun _ => .nil, fun _ => rfl⟩
  | cons c one ih =>
    cases other with
    | nil => exact ⟨fun before => by simp [precedes] at before, fun before => by cases before⟩
    | cons d other =>
      rw [precedes_cons, ih]
      constructor
      · rintro (less | ⟨rfl, before⟩)
        · exact .rel less
        · exact .cons before
      · intro before
        cases before with
        | rel less => exact .inl less
        | cons before => exact .inr ⟨rfl, before⟩

theorem precedes_asymm (one other : List Char) (before : precedes one other = true) :
    precedes other one = false := by
  induction one generalizing other with
  | nil => cases other <;> rfl
  | cons c one ih =>
    cases other with
    | nil => simp [precedes] at before
    | cons d other =>
      rw [← Bool.not_eq_true, precedes_cons]
      rcases (precedes_cons ..).mp before with less | ⟨rfl, rest⟩
      · rintro (more | ⟨rfl, _⟩) <;> omega
      · simp [ih other rest]

/-- A text that does not come before a second one, which does not come before a third, does not
come before the third. -/
theorem not_precedes_trans {one other last : List Char} (first : precedes other one = false)
    (second : precedes last other = false) : precedes last one = false := by
  induction one generalizing other last with
  | nil => cases last <;> rfl
  | cons c one ih =>
    cases other with
    | nil => simp [precedes] at first
    | cons d other =>
      cases last with
      | nil => simp [precedes] at second
      | cons e last =>
        rw [← Bool.not_eq_true, precedes_cons] at *
        obtain ⟨first, firstRest⟩ := not_or.mp first
        obtain ⟨second, secondRest⟩ := not_or.mp second
        rintro (less | ⟨rfl, before⟩)
        · omega
        · -- Equal ends leave no room in the middle, so the rests decide.
          have same : d = e := codePoint_inj (by omega)
          subst d
          have rest := ih (by simpa using firstRest) (by simpa using secondRest)
          simp [rest] at before

theorem eq_of_not_precedes {one other : List Char} (first : precedes other one = false)
    (second : precedes one other = false) : one = other := by
  induction one generalizing other with
  | nil =>
    cases other with
    | nil => rfl
    | cons d other => simp [precedes] at second
  | cons c one ih =>
    cases other with
    | nil => simp [precedes] at first
    | cons d other =>
      rw [← Bool.not_eq_true, precedes_cons] at first second
      obtain ⟨first, firstRest⟩ := not_or.mp first
      obtain ⟨second, secondRest⟩ := not_or.mp second
      have same : c = d := codePoint_inj (by omega)
      subst same
      rw [ih (by simpa using firstRest) (by simpa using secondRest)]

variable {α : Type}

@[simp] theorem sortBy_nil (key : α → String) : sortBy key [] = [] := List.mergeSort_nil

theorem sortBy_perm (key : α → String) (items : List α) : (sortBy key items).Perm items :=
  List.mergeSort_perm _ _

/-- Items are compared by their texts; an item may stand before those whose texts do not come
before its own. -/
def mayPrecede (key : α → String) (one other : α) : Bool :=
  !precedes (key other).toList (key one).toList

theorem mayPrecede_trans (key : α → String) (one other last : α)
    (first : mayPrecede key one other = true) (second : mayPrecede key other last = true) :
    mayPrecede key one last = true := by
  simp only [mayPrecede, Bool.not_eq_true'] at *
  exact not_precedes_trans first second

theorem mayPrecede_total (key : α → String) (one other : α) :
    (mayPrecede key one other || mayPrecede key other one) = true := by
  unfold mayPrecede
  cases before : precedes (key other).toList (key one).toList with
  | false => rfl
  | true => simp [precedes_asymm _ _ before]

theorem eq_of_mayPrecede {key : α → String} {one other : α}
    (first : mayPrecede key one other = true) (second : mayPrecede key other one = true) :
    key one = key other := by
  simp only [mayPrecede, Bool.not_eq_true'] at first second
  exact String.toList_inj.mp (eq_of_not_precedes first second)

theorem pairwise_sortBy (key : α → String) (items : List α) :
    (sortBy key items).Pairwise fun one other => mayPrecede key one other = true :=
  List.pairwise_mergeSort (mayPrecede_trans key) (mayPrecede_total key) items

/-- An item put in front of a list goes before those of its own text and behind those of smaller
ones, and the others stay as they are. -/
theorem sortBy_cons (key : α → String) (item : α) (rest : List α) :
    sortBy key (item :: rest) =
      (sortBy key rest).filter (fun other => !mayPrecede key item other) ++
        item :: (sortBy key rest).filter (mayPrecede key item) ∧
    sortBy key rest =
      (sortBy key rest).filter (fun other => !mayPrecede key item other) ++
        (sortBy key rest).filter (mayPrecede key item) := by
  obtain ⟨smaller, others, added, given, before⟩ :=
    List.mergeSort_cons (mayPrecede_trans key) (mayPrecede_total key) item rest
  have sorted : sortBy key (item :: rest) = smaller ++ item :: others := added
  have around : sortBy key rest = smaller ++ others := given
  -- What stands behind the item in a sorted list may follow it.
  have after : ∀ other ∈ others, mayPrecede key item other = true := by
    have ordered := pairwise_sortBy key (item :: rest)
    rw [sorted] at ordered
    exact fun other => List.rel_of_pairwise_cons (List.pairwise_append.mp ordered).2.1
  have front : (smaller ++ others).filter (fun other => !mayPrecede key item other) = smaller := by
    rw [List.filter_append, List.filter_eq_self.mpr before,
      List.filter_eq_nil_iff.mpr (by simpa using after), List.append_nil]
  have back : (smaller ++ others).filter (mayPrecede key item) = others := by
    rw [List.filter_append, List.filter_eq_nil_iff.mpr (by simpa using before),
      List.filter_eq_self.mpr after, List.nil_append]
  rw [around, front, back]
  exact ⟨sorted, rfl⟩

/-- Leaving items out before sorting or after it is the same. -/
theorem filter_sortBy (key : α → String) (keep : α → Bool) (items : List α) :
    (sortBy key items).filter keep = sortBy key (items.filter keep) := by
  induction items with
  | nil => simp
  | cons item rest ih =>
    obtain ⟨added, given⟩ := sortBy_cons key item rest
    rw [added]
    cases kept : keep item with
    | true =>
      rw [List.filter_cons_of_pos kept, (sortBy_cons key item (rest.filter keep)).1, ← ih]
      simp only [List.filter_append, List.filter_cons_of_pos kept, List.filter_filter,
        Bool.and_comm]
    | false =>
      have dropped : ¬ keep item = true := by simp [kept]
      rw [List.filter_cons_of_neg dropped, ← ih, List.filter_append,
        List.filter_cons_of_neg dropped, ← List.filter_append, ← given]

/-- Items that are added anywhere leave the order of the others as it is. -/
theorem sublist_sortBy (key : α → String) {items more : List α} (among : items.Sublist more) :
    (sortBy key items).Sublist (sortBy key more) := by
  induction among with
  | slnil => exact List.Sublist.refl _
  | @cons items more item _ ih =>
    obtain ⟨added, given⟩ := sortBy_cons key item more
    rw [added]
    rw [given] at ih
    exact ih.trans (List.Sublist.append_left (List.sublist_cons_self ..) _)
  | @cons_cons items more item _ ih =>
    rw [(sortBy_cons key item items).1, (sortBy_cons key item more).1]
    exact (ih.filter _).append ((ih.filter _).cons_cons item)

end Text

variable {α : Type}

/-- The items in the order of their texts, those of one text as they stood. -/
structure StablySorted (key : α → String) (items sorted : List α) : Prop where
  perm : sorted.Perm items
  ordered : sorted.Pairwise fun one other =>
    ¬ List.Lex (fun c d => Text.codePoint c < Text.codePoint d) (key other).toList (key one).toList
  stable : ∀ value, sorted.filter (fun item => key item = value) =
    items.filter fun item => key item = value

theorem stablySorted_sortBy (key : α → String) (items : List α) :
    StablySorted key items (Text.sortBy key items) := by
  have perm := Text.sortBy_perm key items
  refine ⟨perm, ?_, fun value => ?_⟩
  · exact (Text.pairwise_sortBy key items).imp fun {one other} ordered => by
      simpa [Text.mayPrecede, ← Text.precedes_iff_lex] using ordered
  · -- Items of one text are in order already, so sorting keeps them as they stand.
    rw [Text.filter_sortBy]
    apply List.mergeSort_of_pairwise
    apply List.pairwise_of_forall_mem_list
    intro one member other member'
    simp only [List.mem_filter, decide_eq_true_eq] at member member'
    cases before : Text.precedes (key other).toList (key one).toList with
    | false => rfl
    | true =>
      have after := Text.precedes_asymm _ _ before
      rw [member.2, member'.2] at before after
      simp [before] at after

end ApiBindings
