import ApiBindings.Name.Namer
import Mathlib.Data.List.Perm.Basic

/-!
# Shared segments and the order of paths

Which segments all paths share is a question about the set of paths: a column agrees on a segment
when nothing else stands in it.
-/
namespace ApiBindings.SharedSegments

theorem agreed?_eq_some {column : List (List Char)} {segment : List Char} :
    agreed? column = some segment ↔ column ≠ [] ∧ ∀ other ∈ column, other = segment := by
  cases column with
  | nil => simp [agreed?]
  | cons first rest =>
    by_cases all : rest.all (· == first) = true
    · -- The first segment is the only one that can be agreed on.
      simp only [agreed?, all, if_true, Option.some.injEq]
      simp only [List.all_eq_true, beq_iff_eq] at all
      constructor
      · rintro rfl
        simpa using all
      · exact fun agrees => agrees.2 first List.mem_cons_self
    · simp only [agreed?, all]
      simp only [List.all_eq_true, beq_iff_eq] at all
      constructor
      · exact fun none => by simp at none
      · rintro ⟨_, agrees⟩
        refine absurd (fun other member => ?_) all
        rw [agrees other (List.mem_cons_of_mem _ member), agrees first List.mem_cons_self]

theorem agreed?_of_perm {column column' : List (List Char)} (moved : column.Perm column') :
    agreed? column = agreed? column' := by
  ext segment
  rw [agreed?_eq_some, agreed?_eq_some]
  have empty : column = [] ↔ column' = [] := by
    rw [← List.length_eq_zero_iff, ← List.length_eq_zero_iff, moved.length_eq]
  simp only [ne_eq, empty, moved.mem_iff]

theorem sharedFrom_of_perm {paths paths' : List (List (List Char))} (moved : paths.Perm paths')
    (fuel position : Nat) : sharedFrom paths fuel position = sharedFrom paths' fuel position := by
  induction fuel generalizing position with
  | zero => rfl
  | succ fuel ih =>
    have agrees := agreed?_of_perm (moved.filterMap fun path => path[position]?)
    unfold sharedFrom column
    rw [agrees]
    split
    · rw [ih]
    · rfl

theorem width_of_perm {paths paths' : List (List (List Char))} (moved : paths.Perm paths') :
    width paths = width paths' := by
  have lengths := moved.map List.length
  exact lengths.foldl_eq 0

/-- The base of paths does not depend on the order they come in. -/
theorem base_of_perm {paths paths' : List String} (moved : paths.Perm paths') :
    base paths = base paths' := by
  have split := moved.map segments
  rw [base, base, shared, shared, width_of_perm split, sharedFrom_of_perm split]

end ApiBindings.SharedSegments

namespace ApiBindings

theorem Namer.create_of_perm (namespaceName : String) {paths paths' : List String}
    (moved : paths.Perm paths') (hooks : NamingHooks) (maxLength : Nat) :
    Namer.create namespaceName paths hooks maxLength =
      Namer.create namespaceName paths' hooks maxLength := by
  rw [create, create, SharedSegments.base_of_perm moved]

end ApiBindings
