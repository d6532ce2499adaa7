import ApiBindings.Declaration.EnumText
import Mathlib.Data.List.Basic
import Mathlib.Data.List.Pairwise

/-!
# Listings

A listing has the items of a list once each, in the order in which they are first met. There is one
such listing of every list. What is listed behind a list that is there already adds the items that
the list does not have.
-/
namespace ApiBindings

/-- The items of a list, each once, by their first places. -/
structure FirstSeen {α : Type} [DecidableEq α] (items listing : List α) : Prop where
  mem_iff : ∀ item, item ∈ listing ↔ item ∈ items
  ordered : listing.Pairwise fun one other => items.idxOf one < items.idxOf other

namespace FirstSeen

variable {α : Type} [DecidableEq α] {items listing other : List α}

theorem nodup (seen : FirstSeen items listing) : listing.Nodup :=
  seen.ordered.imp fun before same => by
    rw [same] at before
    exact Nat.lt_irrefl _ before

theorem unique (seen : FirstSeen items listing) (again : FirstSeen items other) :
    listing = other := by
  have same : listing.Perm other :=
    (List.perm_ext_iff_of_nodup seen.nodup again.nodup).mpr fun item =>
      (seen.mem_iff item).trans (again.mem_iff item).symm
  exact same.eq_of_pairwise (fun one other _ _ before after => absurd before (Nat.lt_asymm after))
    seen.ordered again.ordered

end FirstSeen

namespace EnumText

theorem mem_distinct {text : String} {texts : List String} :
    text ∈ distinct texts ↔ text ∈ texts := by
  induction texts with
  | nil => rfl
  | cons first rest ih =>
    rw [distinct, List.mem_cons, List.mem_cons, List.mem_filter, ih]
    by_cases same : text = first <;> simp [same]

theorem firstSeen_distinct (texts : List String) : FirstSeen texts (distinct texts) := by
  refine ⟨fun text => mem_distinct, ?_⟩
  induction texts with
  | nil => exact .nil
  | cons first rest ih =>
    -- The first text has the first place, and all others move on by one.
    have later {text : String}
        (member : text ∈ (distinct rest).filter fun text => decide (text ≠ first)) :
        (first :: rest).idxOf text = rest.idxOf text + 1 :=
      List.idxOf_cons_ne rest (Ne.symm (by simpa using (List.mem_filter.mp member).2))
    refine List.pairwise_cons.mpr ⟨fun text member => ?_, ?_⟩
    · rw [later member, List.idxOf_cons_self]
      exact Nat.succ_pos _
    · refine (ih.sublist List.filter_sublist).imp_of_mem fun {one other} first second before => ?_
      rw [later first, later second]
      exact Nat.succ_lt_succ before

theorem distinct_append (texts more : List String) :
    distinct (texts ++ more) =
      distinct texts ++ (distinct more).filter fun text => decide (text ∉ texts) := by
  induction texts with
  | nil => exact (List.filter_eq_self.mpr fun _ _ => by simp).symm
  | cons first rest ih =>
    -- Being apart from the first text and from the rest is being apart from all of them.
    rw [List.cons_append, distinct, distinct, ih, List.filter_append, List.filter_filter,
      List.cons_append]
    simp [not_or]

theorem distinct_of_nodup {texts : List String} (once : texts.Nodup) : distinct texts = texts := by
  induction texts with
  | nil => rfl
  | cons first rest ih =>
    obtain ⟨absent, once⟩ := List.nodup_cons.mp once
    rw [distinct, ih once, List.filter_eq_self.mpr]
    intro text member
    simp only [decide_eq_true_eq]
    rintro rfl
    exact absent member

end EnumText

end ApiBindings
