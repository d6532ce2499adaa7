import ApiBindings.File.Tree
import Mathlib.Data.List.Basic

/-!
# Places of a directory tree

All that is asked of a tree is the entry at a place, and a change is one of the entry at a single
place. A name leads to the same place in every tree with this working directory; it can be looked
up exactly if there are directories at all places that are passed on the way there.
-/
namespace ApiBindings.FileTree

theorem lookup_cons (other place : List String) (entry : FileEntry)
    (rest : List (List String × FileEntry)) :
    ((place, entry) :: rest).lookup other =
      if other = place then some entry else rest.lookup other := by
  by_cases same : other = place
  · simp [same]
  · simp [List.lookup_cons, same, beq_eq_false_iff_ne.mpr same]

theorem lookup_put (place : List String) (entry : FileEntry) (other : List String)
    (entries : List (List String × FileEntry)) :
    (put place entry entries).lookup other =
      if other = place then some entry else entries.lookup other := by
  induction entries with
  | nil => exact lookup_cons other place entry []
  | cons first rest ih =>
    obtain ⟨taken, old⟩ := first
    rw [put]
    split
    · subst taken
      by_cases same : other = place <;> simp only [lookup_cons, same, if_true, if_false]
    · rename_i free
      by_cases found : other = taken
      · subst other
        simp only [lookup_cons, if_true, if_neg free]
      · simp only [lookup_cons, if_neg found, ih]

theorem lookup_remove (place other : List String) (entries : List (List String × FileEntry)) :
    (entries.filter fun entry => decide (entry.1 ≠ place)).lookup other =
      if other = place then none else entries.lookup other := by
  induction entries with
  | nil => simp
  | cons first rest ih =>
    obtain ⟨taken, old⟩ := first
    by_cases gone : taken = place
    · subst taken
      rw [List.filter_cons_of_neg (by simp), ih]
      by_cases same : other = place <;> simp only [lookup_cons, same, if_true, if_false]
    · rw [List.filter_cons_of_pos (by simpa using gone), lookup_cons, lookup_cons, ih]
      by_cases found : other = taken
      · subst other
        simp only [if_true, if_neg gone]
      · simp only [if_neg found]

/-- Every place but the root has the entry that was set there last. -/
theorem entry?_set (tree : FileTree) {place : List String} (below : place ≠ [])
    (entry : FileEntry) (other : List String) :
    entry? (tree.set place entry) other =
      if other = place then some entry else tree.entry? other := by
  by_cases root : other = []
  · subst other
    rw [if_neg below.symm]
    rfl
  · unfold entry?
    simp only [if_neg root, set]
    exact lookup_put place entry other tree.entries

theorem entry?_removeFile (tree : FileTree) {place : List String} (below : place ≠ [])
    (other : List String) :
    entry? (tree.removeFile place) other = if other = place then none else tree.entry? other := by
  by_cases root : other = []
  · subst other
    rw [if_neg below.symm]
    rfl
  · unfold entry?
    simp only [if_neg root, removeFile]
    exact lookup_remove place other tree.entries

/-- Where there is no directory, there is not the root. -/
theorem below_of_free {tree : FileTree} {place : List String}
    (other : tree.entry? place ≠ some .directory) : place ≠ [] := by
  rintro rfl
  exact other rfl

/-- The place one part further, if there is a directory to start from. -/
def further (place : List String) (part : String) : List String :=
  if part = ".." then place.dropLast else place ++ [part]

/-- The place that parts lead to. -/
def reach (place : List String) (parts : List String) : List String := parts.foldl further place

/-- The places that are passed before the last part. -/
def passed (place : List String) : List String → List (List String)
  | [] => []
  | part :: rest => place :: passed (further place part) rest

/-- The places that are passed, and the one that is reached. -/
def trail (place : List String) (parts : List String) : List (List String) :=
  passed place parts ++ [reach place parts]

/-- The place from which names with a root are looked up. -/
def start (tree : FileTree) (root : String) : List String :=
  if root = "" then tree.working else []

/-- The place a name leads to. -/
def placeOf (tree : FileTree) (name : FileName) : List String :=
  reach (tree.start name.root) name.parts

/-- The places where a name needs directories. -/
def wayTo (tree : FileTree) (name : FileName) : List (List String) :=
  passed (tree.start name.root) name.parts

/-- No part of a name is too long. -/
def Fits (name : FileName) : Prop := ∀ part ∈ name.parts, Utf8.nameSize part ≤ partLimit

instance (name : FileName) : Decidable (Fits name) :=
  inferInstanceAs (Decidable (∀ part ∈ name.parts, _))

/-- There are directories at all of these places. -/
def Holds (tree : FileTree) (places : List (List String)) : Prop :=
  ∀ place ∈ places, tree.entry? place = some .directory

/-- At all of these places there is a directory or nothing. -/
def Admits (tree : FileTree) (places : List (List String)) : Prop :=
  ∀ place ∈ places, tree.entry? place = none ∨ tree.entry? place = some .directory

instance (tree : FileTree) (places : List (List String)) : Decidable (tree.Admits places) :=
  inferInstanceAs (Decidable (∀ place ∈ places, _ ∨ _))

variable {tree : FileTree}

section
variable {after : FileTree} (same : after.working = tree.working)
include same

theorem start_of_working (root : String) : after.start root = tree.start root := by
  simp only [start, same]

theorem placeOf_of_working (name : FileName) : after.placeOf name = tree.placeOf name := by
  simp only [placeOf, start_of_working same]

theorem wayTo_of_working (name : FileName) : after.wayTo name = tree.wayTo name := by
  simp only [wayTo, start_of_working same]

end

theorem passed_concat (place parts : List String) (part : String) :
    passed place (parts ++ [part]) = trail place parts := by
  induction parts generalizing place with
  | nil => rfl
  | cons first rest ih => exact congrArg (place :: ·) (ih (further place first))

theorem Holds.append {places others : List (List String)} :
    tree.Holds (places ++ others) ↔ tree.Holds places ∧ tree.Holds others :=
  List.forall_mem_append

theorem enter_ok {place last : List String} {part : String} :
    tree.enter place part = .ok last ↔ tree.entry? place = some .directory ∧
      Utf8.nameSize part ≤ partLimit ∧ further place part = last := by
  unfold enter
  cases tree.entry? place with
  | none => simp
  | some entry =>
    cases entry with
    | file content => simp
    | directory =>
      by_cases long : Utf8.nameSize part > partLimit
      · simp [long, Nat.not_le_of_gt long]
      · have short := Nat.le_of_not_gt long
        simp only [if_neg long, further, short, true_and]
        split <;> simp

/-- A walk needs a directory at every place it passes, and parts that are not too long. -/
theorem walk_ok {place last : List String} {parts : List String} :
    parts.foldlM tree.enter place = .ok last ↔ tree.Holds (passed place parts) ∧
      (∀ part ∈ parts, Utf8.nameSize part ≤ partLimit) ∧ reach place parts = last := by
  induction parts generalizing place with
  | nil => simp [Holds, passed, reach, pure, Except.pure]
  | cons part rest ih =>
    have first (next : List String) :
        tree.enter place part = .ok next ↔ tree.entry? place = some .directory ∧
          Utf8.nameSize part ≤ partLimit ∧ further place part = next := enter_ok
    rw [List.foldlM_cons]
    cases entered : tree.enter place part with
    | error reason =>
      rw [entered] at first
      -- The walk is stuck at its first place, so something it needs is missing there.
      have stuck : ¬ (tree.entry? place = some .directory ∧ Utf8.nameSize part ≤ partLimit) := by
        intro ⟨held, short⟩
        exact absurd ((first _).mpr ⟨held, short, rfl⟩) (by simp)
      simp only [bind, Except.bind, Holds, passed, List.forall_mem_cons]
      constructor
      · intro impossible
        cases impossible
      · intro ⟨⟨held, _⟩, ⟨short, _⟩, _⟩
        exact absurd ⟨held, short⟩ stuck
    | ok next =>
      obtain ⟨held, short, rfl⟩ := (first next).mp entered
      simp only [bind, Except.bind, ih, Holds, passed, List.forall_mem_cons, held, short, true_and]
      rfl

/-- A walk that may pass all its places ends early only where nothing is. -/
theorem walk_noEntry {place : List String} {parts : List String}
    (admits : tree.Admits (passed place parts))
    (fits : ∀ part ∈ parts, Utf8.nameSize part ≤ partLimit) {reason : SystemError}
    (stuck : parts.foldlM tree.enter place = .error reason) : reason = .noEntry := by
  induction parts generalizing place with
  | nil => simp [pure, Except.pure] at stuck
  | cons part rest ih =>
    obtain ⟨here, admits⟩ := List.forall_mem_cons.mp admits
    obtain ⟨short, fits⟩ := List.forall_mem_cons.mp fits
    rw [List.foldlM_cons] at stuck
    rcases here with absent | held
    · have entered : tree.enter place part = .error .noEntry := by simp [enter, absent]
      rw [entered] at stuck
      exact (Except.error.inj stuck).symm
    · have entered : tree.enter place part = .ok (further place part) :=
        enter_ok.mpr ⟨held, short, rfl⟩
      rw [entered] at stuck
      exact ih admits fits stuck

theorem locate_eq (name : FileName) :
    tree.locate name = name.parts.foldlM tree.enter (tree.start name.root) := by
  by_cases relative : name.root = "" <;>
    simp [locate, FileName.isAbsolute, start, relative]

theorem locate_ok {name : FileName} {place : List String} :
    tree.locate name = .ok place ↔
      tree.Holds (tree.wayTo name) ∧ Fits name ∧ tree.placeOf name = place := by
  rw [locate_eq]
  exact walk_ok

/-- What is done with the place of a name is done only if the name can be looked up. -/
theorem bind_locate_ok {α : Type} {name : FileName} {next : List String → Except SystemError α}
    {result : α} :
    (tree.locate name >>= next) = .ok result ↔
      tree.Holds (tree.wayTo name) ∧ Fits name ∧ next (tree.placeOf name) = .ok result := by
  cases located : tree.locate name with
  | error reason =>
    simp only [bind, Except.bind]
    constructor
    · intro impossible
      cases impossible
    · intro ⟨holds, fits, _⟩
      rw [locate_ok.mpr ⟨holds, fits, rfl⟩] at located
      cases located
  | ok place =>
    obtain ⟨holds, fits, rfl⟩ := locate_ok.mp located
    simp only [bind, Except.bind, holds, fits, true_and]

theorem look_ok {name : FileName} {entry : FileEntry} :
    tree.look name = .ok entry ↔ tree.Holds (tree.wayTo name) ∧ Fits name ∧
      tree.entry? (tree.placeOf name) = some entry := by
  rw [look, bind_locate_ok]
  cases tree.entry? (tree.placeOf name) <;> simp [pure, Except.pure]

theorem isDirectory_iff {name : FileName} :
    tree.isDirectory name = true ↔ tree.Holds (tree.wayTo name) ∧ Fits name ∧
      tree.entry? (tree.placeOf name) = some .directory := by
  rw [← look_ok, isDirectory]
  cases tree.look name with
  | error reason => simp
  | ok entry => cases entry <;> simp

/-- A file that is found is read as it was stored. -/
theorem read_of_stored {name : FileName} {content : List UInt8}
    (holds : tree.Holds (tree.wayTo name)) (fits : Fits name)
    (stored : tree.entry? (tree.placeOf name) = some (.file content)) :
    tree.read name = .ok content := by
  have looked := look_ok.mpr ⟨holds, fits, stored⟩
  simp only [read, looked, bind, Except.bind, pure, Except.pure]

end ApiBindings.FileTree
