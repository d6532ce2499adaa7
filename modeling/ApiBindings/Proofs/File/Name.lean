import ApiBindings.Proofs.File.Places
import ApiBindings.Proofs.Text.Joined

/-!
# Names of plain parts

A part that is not empty, is not made of one or two dots and holds no slash stands for itself: a
name written with such parts is read as these parts, and it leads straight down, one part after
the other.
-/
namespace ApiBindings

namespace FileName

/-- A part of a name that stands for itself. -/
structure IsPart (part : String) : Prop where
  nonempty : part ≠ ""
  dot : part ≠ "."
  dots : part ≠ ".."
  slash : '/' ∉ part.toList

/-- A relative name written with parts that stand for themselves. -/
def IsWritten (path : String) (parts : List String) : Prop :=
  path = "/".intercalate parts ∧ parts ≠ [] ∧ ∀ part ∈ parts, IsPart part

theorem cut_intercalate {parts : List String} (some : parts ≠ [])
    (apart : ∀ part ∈ parts, '/' ∉ part.toList) :
    Text.cut '/' ("/".intercalate parts).toList = parts.map String.toList := by
  rw [String.toList_intercalate]
  exact Text.cut_join (by simpa using some) (by simpa using apart)

theorem rootOf_of_head {c : Char} (other : c ≠ '/') (rest : List Char) :
    rootOf (c :: rest) = "" := by
  simp [rootOf, other]

namespace IsWritten

variable {path other : String} {parts : List String}

theorem root (written : IsWritten path parts) : rootOf path.toList = "" := by
  obtain ⟨rfl, some, plain⟩ := written
  obtain ⟨first, rest, rfl⟩ := List.exists_cons_of_ne_nil some
  have here := plain first List.mem_cons_self
  -- The first part begins with a character, which is not a slash.
  obtain ⟨c, more, begins⟩ := List.exists_cons_of_ne_nil
    (mt String.toList_eq_nil_iff.mp here.nonempty)
  have different : c ≠ '/' := by
    rintro rfl
    exact here.slash (begins ▸ List.mem_cons_self)
  cases rest with
  | nil =>
    rw [String.intercalate_singleton, begins]
    exact rootOf_of_head different more
  | cons second rest =>
    rw [String.intercalate_cons_cons, String.append_assoc, String.toList_append, begins]
    exact rootOf_of_head different _

theorem read (written : IsWritten path parts) : FileName.read path = ⟨"", parts⟩ := by
  have root := written.root
  obtain ⟨rfl, some, plain⟩ := written
  have kept : (parts.filter fun part => decide (part ≠ "" ∧ part ≠ ".")) = parts := by
    refine List.filter_eq_self.mpr fun part member => ?_
    simp [(plain part member).nonempty, (plain part member).dot]
  rw [FileName.read, root, cut_intercalate some fun part member => (plain part member).slash,
    List.map_map]
  simpa [Function.comp_def] using kept

/-- What is read tells the path. -/
theorem ext {parts' : List String} (written : IsWritten path parts)
    (written' : IsWritten other parts') (same : parts = parts') : path = other := by
  rw [written.1, written'.1, same]

end IsWritten

end FileName

namespace FileTree

/-- Without double dots a walk goes down. -/
theorem reach_of_down {parts : List String} (place : List String) (down : ".." ∉ parts) :
    reach place parts = place ++ parts := by
  induction parts generalizing place with
  | nil => exact (List.append_nil place).symm
  | cons part rest ih =>
    obtain ⟨here, later⟩ := not_or.mp (mt List.mem_cons.mpr down)
    rw [reach, List.foldl_cons, further, if_neg (Ne.symm here), ← reach, ih _ later,
      List.append_assoc]
    rfl

/-- What is passed on a walk down lies above its end. -/
theorem length_of_passed {parts place other : List String} (down : ".." ∉ parts)
    (member : other ∈ passed place parts) : other.length < place.length + parts.length := by
  induction parts generalizing place with
  | nil => cases member
  | cons part rest ih =>
    obtain ⟨here, later⟩ := not_or.mp (mt List.mem_cons.mpr down)
    rcases List.mem_cons.mp member with rfl | member
    · simp
    · rw [further, if_neg (Ne.symm here)] at member
      have := ih later member
      simp only [List.length_append, List.length_cons, List.length_nil] at this ⊢
      omega

theorem reach_append (place parts others : List String) :
    reach place (parts ++ others) = reach (reach place parts) others :=
  List.foldl_append ..

theorem passed_append (place parts others : List String) :
    passed place (parts ++ others) = passed place parts ++ passed (reach place parts) others := by
  induction parts generalizing place with
  | nil => rfl
  | cons part rest ih => exact congrArg (place :: ·) (ih (further place part))

end FileTree

end ApiBindings
