import ApiBindings.Proofs.File.Places

/-!
# Making directories

Directories are made from the outermost missing one on. Whatever comes of it, a tree only gains
directories on the way, and nothing that was there changes. It works out if the way is clear: if
there is a directory or nothing at every place on it.
-/
namespace ApiBindings.FileTree

/-- A tree that has gained directories, at some of these places. -/
structure Gains (places : List (List String)) (tree after : FileTree) : Prop where
  working : after.working = tree.working
  entries : ∀ place, after.entry? place = tree.entry? place ∨
    place ∈ places ∧ tree.entry? place = none ∧ after.entry? place = some .directory

namespace Gains

variable {places others : List (List String)} {tree between after : FileTree}

theorem refl (places : List (List String)) (tree : FileTree) : Gains places tree tree :=
  ⟨rfl, fun _ => .inl rfl⟩

theorem mono (gains : Gains places tree after) (subset : places ⊆ others) :
    Gains others tree after :=
  ⟨gains.working, fun place => (gains.entries place).imp_right fun ⟨among, absent, made⟩ =>
    ⟨subset among, absent, made⟩⟩

theorem trans (first : Gains places tree between) (second : Gains places between after) :
    Gains places tree after := by
  refine ⟨second.working.trans first.working, fun place => ?_⟩
  rcases second.entries place with same | ⟨among, absent, made⟩
  · rw [same]
    exact first.entries place
  · -- What is gained in the second step was absent before the first one as well.
    rcases first.entries place with same' | ⟨_, _, made'⟩
    · exact .inr ⟨among, same' ▸ absent, made⟩
    · rw [absent] at made'
      cases made'

theorem set {place : List String} (member : place ∈ places) (absent : tree.entry? place = none) :
    Gains places tree (tree.set place .directory) := by
  have free : tree.entry? place ≠ some .directory := by simp [absent]
  refine ⟨rfl, fun other => ?_⟩
  rw [entry?_set tree (below_of_free free)]
  by_cases same : other = place
  · subst other
    exact .inr ⟨member, absent, if_pos rfl⟩
  · exact .inl (if_neg same)

variable (gains : Gains places tree after)
include gains

theorem entry?_eq {place : List String} {entry : FileEntry}
    (held : tree.entry? place = some entry) : after.entry? place = some entry := by
  rcases gains.entries place with same | ⟨_, absent, _⟩
  · rw [same, held]
  · rw [absent] at held
    cases held

theorem holds (held : tree.Holds others) : after.Holds others :=
  fun place member => gains.entry?_eq (held place member)

theorem admits (admitted : tree.Admits others) : after.Admits others := by
  intro place member
  rcases gains.entries place with same | ⟨_, _, made⟩
  · rw [same]
    exact admitted place member
  · exact .inr made

theorem placeOf (name : FileName) : after.placeOf name = tree.placeOf name :=
  placeOf_of_working gains.working name

theorem wayTo (name : FileName) : after.wayTo name = tree.wayTo name :=
  wayTo_of_working gains.working name

end Gains

variable {tree : FileTree}

theorem makeDirectory_ok {name : FileName} {after : FileTree} :
    tree.makeDirectory name = .ok after ↔ tree.Holds (tree.wayTo name) ∧ Fits name ∧
      tree.entry? (tree.placeOf name) = none ∧
      tree.set (tree.placeOf name) .directory = after := by
  rw [makeDirectory, bind_locate_ok]
  cases tree.entry? (tree.placeOf name) <;> simp [pure, Except.pure]

/-- Where a directory could stand, none is made only because the one above it is missing or because
there is something already. -/
theorem makeDirectory_error {name : FileName} {reason : SystemError}
    (admits : tree.Admits (tree.wayTo name)) (fits : Fits name)
    (stuck : tree.makeDirectory name = .error reason) :
    reason = .noEntry ∨ tree.Holds (tree.wayTo name) ∧
      tree.entry? (tree.placeOf name) ≠ none := by
  unfold makeDirectory at stuck
  cases located : tree.locate name with
  | error earlier =>
    rw [located] at stuck
    obtain rfl := Except.error.inj stuck
    rw [locate_eq] at located
    exact .inl (walk_noEntry admits fits located)
  | ok place =>
    obtain ⟨holds, _, rfl⟩ := locate_ok.mp located
    refine .inr ⟨holds, fun absent => ?_⟩
    simp [located, bind, Except.bind, absent, pure, Except.pure] at stuck

/-- Makes one directory that only has to be there. -/
def ensure (tree : FileTree) (name : FileName) : FileTree × Option NamedError :=
  match tree.makeDirectory name with
  | .ok made => (made, none)
  | .error reason => tree.orThere name reason

theorem ensure_gains (name : FileName) :
    Gains [tree.placeOf name] tree (tree.ensure name).1 := by
  unfold ensure
  split
  · rename_i made
    obtain ⟨_, _, absent, rfl⟩ := makeDirectory_ok.mp made
    exact .set (List.mem_singleton.mpr rfl) absent
  · exact .refl _ tree

/-- A directory that was made or found, and those above it. -/
theorem ensure_made {name : FileName} (made : (tree.ensure name).2 = none) :
    (tree.ensure name).1.Holds (tree.wayTo name ++ [tree.placeOf name]) := by
  unfold ensure at made ⊢
  cases done : tree.makeDirectory name with
  | ok after =>
    obtain ⟨holds, fits, absent, rfl⟩ := makeDirectory_ok.mp done
    have gains : Gains [tree.placeOf name] tree (tree.set (tree.placeOf name) .directory) :=
      .set (List.mem_singleton.mpr rfl) absent
    refine Holds.append.mpr ⟨gains.holds holds, fun place member => ?_⟩
    obtain rfl := List.mem_singleton.mp member
    have free : tree.entry? (tree.placeOf name) ≠ some .directory := by simp [absent]
    exact (entry?_set tree (below_of_free free) _ _).trans (if_pos rfl)
  | error reason =>
    simp only [done, orThere, ite_eq_left_iff, reduceCtorEq, imp_false, not_not] at made
    obtain ⟨holds, _, found⟩ := isDirectory_iff.mp made
    exact Holds.append.mpr ⟨holds, fun place member => List.mem_singleton.mp member ▸ found⟩

theorem ensure_succeeds {name : FileName} (holds : tree.Holds (tree.wayTo name)) (fits : Fits name)
    (admits : tree.Admits [tree.placeOf name]) : (tree.ensure name).2 = none := by
  rcases admits _ (List.mem_singleton.mpr rfl) with absent | found
  · simp only [ensure, makeDirectory_ok.mpr ⟨holds, fits, absent, rfl⟩]
  · have there : tree.isDirectory name = true := isDirectory_iff.mpr ⟨holds, fits, found⟩
    unfold ensure
    split
    · rfl
    · simp [orThere, there]

/-- Making a directory with those above it: once more, should one above it be missing at first. -/
theorem makeDirectories_cons (tree : FileTree) (root part : String) (above : List String) :
    tree.makeDirectory ⟨root, (part :: above).reverse⟩ = .error .noEntry ∧
      tree.makeDirectories root (part :: above) =
        (if (tree.makeDirectories root above).2 = none then
          (tree.makeDirectories root above).1.ensure ⟨root, (part :: above).reverse⟩
        else tree.makeDirectories root above) ∨
    tree.makeDirectory ⟨root, (part :: above).reverse⟩ ≠ .error .noEntry ∧
      tree.makeDirectories root (part :: above) =
        tree.ensure ⟨root, (part :: above).reverse⟩ := by
  by_cases tried : tree.makeDirectory ⟨root, (part :: above).reverse⟩ = .error .noEntry
  · refine .inl ⟨tried, ?_⟩
    rw [makeDirectories]
    simp only [tried]
    rcases tree.makeDirectories root above with ⟨made, failed⟩
    cases failed <;> rfl
  · refine .inr ⟨tried, ?_⟩
    rw [makeDirectories, ensure]
    split <;> simp_all

/-- The places on the way to a directory lie on the way to one below it. -/
theorem trail_subset (place parts : List String) (part : String) :
    trail place parts ⊆ trail place (parts ++ [part]) := by
  rw [trail.eq_def place (parts ++ [part]), passed_concat]
  exact List.subset_append_left ..

theorem makeDirectories_gains (tree : FileTree) (root : String) (above : List String) :
    Gains (trail (tree.start root) above.reverse) tree (tree.makeDirectories root above).1 := by
  induction above with
  | nil => exact ensure_gains ⟨root, []⟩
  | cons part above ih =>
    rw [List.reverse_cons] at *
    have last {between : FileTree}
        (gains : Gains (trail (tree.start root) (above.reverse ++ [part])) tree between) :
        Gains (trail (tree.start root) (above.reverse ++ [part])) tree
          (between.ensure ⟨root, above.reverse ++ [part]⟩).1 := by
      have place : between.placeOf ⟨root, above.reverse ++ [part]⟩ ∈
          trail (tree.start root) (above.reverse ++ [part]) := by
        rw [gains.placeOf]
        exact List.mem_append_right _ (List.mem_singleton.mpr rfl)
      exact gains.trans ((ensure_gains _).mono (List.cons_subset.mpr ⟨place, List.nil_subset _⟩))
    have first := ih.mono (trail_subset _ _ part)
    rcases makeDirectories_cons tree root part above with ⟨_, made⟩ | ⟨_, made⟩
    · rw [made, List.reverse_cons]
      split
      · exact last first
      · exact first
    · rw [made, List.reverse_cons]
      exact last (.refl _ tree)

/-- Once directories are made, they are there. -/
theorem makeDirectories_made {root : String} {above : List String}
    (made : (tree.makeDirectories root above).2 = none) :
    (tree.makeDirectories root above).1.Holds (trail (tree.start root) above.reverse) := by
  cases above with
  | nil => exact ensure_made made
  | cons part above =>
    have gains := makeDirectories_gains tree root above
    rcases makeDirectories_cons tree root part above with ⟨_, same⟩ | ⟨_, same⟩
    · rw [same] at made ⊢
      split at made
      · rename_i first
        rw [if_pos first, ← start_of_working gains.working]
        exact ensure_made made
      · contradiction
    · rw [same] at made ⊢
      exact ensure_made made

/-- Where the way is clear, directories are made. -/
theorem makeDirectories_succeeds {root : String} {above : List String}
    (admits : tree.Admits (trail (tree.start root) above.reverse))
    (fits : ∀ part ∈ above.reverse, Utf8.nameSize part ≤ partLimit) :
    (tree.makeDirectories root above).2 = none := by
  induction above with
  | nil =>
    have way : tree.Holds (tree.wayTo ⟨root, []⟩) := by
      intro place impossible
      cases impossible
    exact ensure_succeeds way fits admits
  | cons part above ih =>
    obtain ⟨admitsWay, admitsPlace⟩ :
        tree.Admits (tree.wayTo ⟨root, (part :: above).reverse⟩) ∧
          tree.Admits [tree.placeOf ⟨root, (part :: above).reverse⟩] :=
      List.forall_mem_append.mp admits
    have way : tree.wayTo ⟨root, (part :: above).reverse⟩ =
        trail (tree.start root) above.reverse := by
      rw [List.reverse_cons]
      exact passed_concat ..
    rcases makeDirectories_cons tree root part above with ⟨_, same⟩ | ⟨tried, same⟩
    · -- The directory above is made first, and then there is one at every place passed.
      have first : (tree.makeDirectories root above).2 = none := by
        refine ih (way ▸ admitsWay) fun part member => fits part ?_
        rw [List.reverse_cons]
        exact List.mem_append_left _ member
      have gains := makeDirectories_gains tree root above
      rw [same, if_pos first]
      refine ensure_succeeds ?_ fits ?_
      · rw [gains.wayTo, way]
        exact makeDirectories_made first
      · rw [gains.placeOf]
        exact gains.admits admitsPlace
    · rw [same]
      cases attempt : tree.makeDirectory ⟨root, (part :: above).reverse⟩ with
      | ok made => simp only [ensure, attempt]
      | error reason =>
        rcases makeDirectory_error admitsWay fits attempt with rfl | ⟨holds, _⟩
        · exact absurd attempt tried
        · exact ensure_succeeds holds fits admitsPlace

end ApiBindings.FileTree
