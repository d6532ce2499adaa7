import ApiBindings.Name.Registry
import ApiBindings.Name.Spelling
import Mathlib.Data.List.Basic

/-!
# Numbered names

The number in a claimed name counts the claims of that name so far. A name without an
underscore can be read back from its numbered forms, so names of this kind never meet one
another's numbers, whatever the order in which they are claimed.
-/
namespace ApiBindings

/-- What stands before a character can be read off a text. -/
theorem Text.takeWhile_append_of_notMem {c : Char} {text : List Char} (absent : c ∉ text)
    (rest : List Char) : (text ++ rest).takeWhile (· ≠ c) = text ++ rest.takeWhile (· ≠ c) := by
  apply List.takeWhile_append_of_pos
  intro d member
  simpa using ne_of_mem_of_not_mem member absent

namespace Registry

theorem lookup_increase (name other : String) (counts : List (String × Nat)) :
    (increase name counts).lookup other =
      if other = name then some ((counts.lookup name).getD 0 + 1) else counts.lookup other := by
  induction counts with
  | nil => by_cases same : other = name <;> simp [increase, List.lookup_cons, same, beq_false_of_ne]
  | cons first rest ih =>
    obtain ⟨key, count⟩ := first
    by_cases found : key = name
    · subst key
      by_cases same : other = name <;> simp [increase, List.lookup_cons, same, beq_false_of_ne]
    · by_cases same : other = name
      · subst other
        simp [increase, List.lookup_cons, found, beq_false_of_ne (Ne.symm found), ih]
      · simp [increase, List.lookup_cons, found, ih, same]

theorem count_claim (registry : Registry) (name other : String) :
    (registry.claim name).2.count other =
      registry.count other + if name ≠ "" ∧ other = name then 1 else 0 := by
  unfold claim
  split
  · rename_i blank
    simp [blank]
  · rename_i present
    simp only [count, lookup_increase]
    by_cases same : other = name <;> simp [same, present]

/-- The name that is given to a claim, by the claims of the same name before it. -/
theorem claimAll_getElem? (registry : Registry) (names : List String) (position : Nat) :
    (registry.claimAll names)[position]? = names[position]?.map fun name =>
      if name = "" then ""
      else numbered name (registry.count name + (names.take (position + 1)).count name) := by
  -- What is claimed first is counted by the registry for the rest, so the registry stays free.
  induction names generalizing registry position with
  | nil => simp [claimAll]
  | cons first rest ih =>
    cases position with
    | zero =>
      by_cases blank : first = "" <;> simp [claimAll, claim, blank]
    | succ position =>
      simp only [claimAll, List.getElem?_cons_succ, ih, count_claim, List.take_succ_cons,
        List.count_cons]
      congr 1
      funext name
      by_cases same : name = first
      · subst name
        by_cases blank : first = ""
        · simp [blank]
        · simp only [blank, ne_eq, not_false_eq_true, and_self, if_true, if_false, beq_self_eq_true]
          congr 1
          omega
      · simp [same, Ne.symm same]

theorem length_claimAll (registry : Registry) (names : List String) :
    (registry.claimAll names).length = names.length := by
  induction names generalizing registry with
  | nil => rfl
  | cons first rest ih => simp [claimAll, ih]

theorem toString_injective {one other : Nat} (same : toString one = toString other) :
    one = other := by
  have digits := congrArg (fun text => Nat.ofDigitChars 10 (String.toList text) 0) same
  simpa [Nat.toString_eq_ofList_toDigits, Nat.ofDigitChars_toDigits] using digits

theorem numbered_toList (name : String) (count : Nat) :
    (numbered name count).toList =
      name.toList ++ if count ≤ 1 then [] else '_' :: (toString count).toList := by
  unfold numbered
  split <;> simp

/-- A numbered name without underscores of its own gives away its name and its number. -/
theorem numbered_injective {one other : String} {count count' : Nat}
    (plain : '_' ∉ one.toList) (plain' : '_' ∉ other.toList)
    (positive : 1 ≤ count) (positive' : 1 ≤ count')
    (same : numbered one count = numbered other count') : one = other ∧ count = count' := by
  have texts := congrArg String.toList same
  rw [numbered_toList, numbered_toList] at texts
  -- The first underscore ends the name in both texts, whatever number follows it.
  have heads {name : String} (plain : '_' ∉ name.toList) (count : Nat) :
      (name.toList ++ if count ≤ 1 then [] else '_' :: (toString count).toList).takeWhile
        (· ≠ '_') = name.toList := by
    rw [Text.takeWhile_append_of_notMem plain]
    split <;> simp
  have names := congrArg (List.takeWhile (· ≠ '_')) texts
  rw [heads plain, heads plain'] at names
  obtain rfl : one = other := String.toList_inj.mp names
  refine ⟨rfl, ?_⟩
  have numbers := List.append_cancel_left texts
  split at numbers <;> split at numbers
  · omega
  · simp at numbers
  · simp at numbers
  · simp only [List.cons.injEq, true_and] at numbers
    exact toString_injective (String.toList_inj.mp numbers)

theorem count_take_lt (names : List String) {first second : Nat} (before : first < second)
    (inside : second < names.length) :
    (names.take (first + 1)).count names[second] <
      (names.take (second + 1)).count names[second] := by
  have shorter : (names.take (first + 1)).Sublist (names.take second) :=
    (List.take_prefix_take_left (by omega)).sublist
  have fewer := shorter.count_le names[second]
  rw [List.take_succ_eq_append_getElem inside, List.count_append]
  simp only [List.count_singleton_self]
  omega

theorem one_le_count_take (names : List String) {position : Nat}
    (inside : position < names.length) :
    1 ≤ (names.take (position + 1)).count names[position] := by
  rw [List.take_succ_eq_append_getElem inside, List.count_append]
  simp

theorem claimAll_empty_getElem (names : List String) {position : Nat}
    (inside : position < names.length) (claimed : position < (empty.claimAll names).length) :
    (empty.claimAll names)[position] = if names[position] = "" then ""
      else numbered names[position] ((names.take (position + 1)).count names[position]) := by
  have entry := claimAll_getElem? empty names position
  rw [List.getElem?_eq_getElem claimed, List.getElem?_eq_getElem inside] at entry
  simpa [count, empty] using entry

/-- Names without underscores stay distinct when they are claimed from one registry. -/
theorem nodup_claimAll (names : List String) (plain : ∀ name ∈ names, '_' ∉ name.toList) :
    ((empty.claimAll names).filter (· ≠ "")).Nodup := by
  rw [List.Nodup, List.pairwise_filter, List.pairwise_iff_getElem]
  intro first second inside inside' before present present' same
  rw [length_claimAll] at inside inside'
  rw [claimAll_empty_getElem names inside] at present same
  rw [claimAll_empty_getElem names inside'] at present' same
  split at present
  · simp at present
  split at present'
  · simp at present'
  rename_i blank blank'
  rw [if_neg blank, if_neg blank'] at same
  obtain ⟨name, number⟩ := numbered_injective (plain _ (List.getElem_mem inside))
    (plain _ (List.getElem_mem inside')) (one_le_count_take names inside)
    (one_le_count_take names inside') same
  -- Equal names at two positions have different numbers: the later one counts the earlier one.
  have later := count_take_lt names before inside'
  rw [name] at number
  omega

end Registry

end ApiBindings
