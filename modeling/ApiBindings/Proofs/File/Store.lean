import ApiBindings.Proofs.File.Directories

/-!
# Storing a file

A file that is stored stands at the place its name leads to, below directories, whatever file
stood there before. Apart from that the tree has only gained directories on the way. Storing works
out if the way is clear, no directory stands in place of the file, and the file is not to stand
where one of its own directories is.
-/
namespace ApiBindings.FileTree

/-- A tree in which a file was stored. -/
structure Stores (name : FileName) (content : List UInt8) (tree after : FileTree) : Prop where
  working : after.working = tree.working
  fits : Fits name
  holds : after.Holds (tree.wayTo name)
  free : tree.entry? (tree.placeOf name) ≠ some .directory
  stored : after.entry? (tree.placeOf name) = some (.file content)
  others : ∀ place, place ≠ tree.placeOf name → after.entry? place = tree.entry? place ∨
    place ∈ tree.wayTo name ∧ tree.entry? place = none ∧ after.entry? place = some .directory

variable {tree : FileTree}

theorem writeFile_ok {name : FileName} {content : List UInt8} {after : FileTree} :
    tree.writeFile name content = .ok after ↔ tree.Holds (tree.wayTo name) ∧ Fits name ∧
      tree.entry? (tree.placeOf name) ≠ some .directory ∧
      tree.set (tree.placeOf name) (.file content) = after := by
  rw [writeFile, bind_locate_ok]
  cases tree.entry? (tree.placeOf name) with
  | none => simp [pure, Except.pure]
  | some entry => cases entry <;> simp [pure, Except.pure]

/-- The tree without the file of this name. -/
def clear (tree : FileTree) (name : FileName) (present : Bool) : FileTree :=
  if present && !tree.isDirectory name then
    match tree.locate name with
    | .ok place => tree.removeFile place
    | .error _ => tree
  else tree

/-- Only a file is cleared away, never a directory. -/
theorem clear_cases (tree : FileTree) (name : FileName) (present : Bool) :
    tree.clear name present = tree ∨ tree.entry? (tree.placeOf name) ≠ some .directory ∧
      tree.clear name present = tree.removeFile (tree.placeOf name) := by
  unfold clear
  split
  · rename_i file
    cases located : tree.locate name with
    | error reason => exact .inl rfl
    | ok place =>
      obtain ⟨holds, fits, rfl⟩ := locate_ok.mp located
      refine .inr ⟨fun directory => ?_, rfl⟩
      simp [isDirectory_iff.mpr ⟨holds, fits, directory⟩] at file
  · exact .inl rfl

theorem clear_working (tree : FileTree) (name : FileName) (present : Bool) :
    (tree.clear name present).working = tree.working := by
  rcases clear_cases tree name present with same | ⟨_, removed⟩
  · rw [same]
  · rw [removed]
    rfl

theorem clear_other (name : FileName) (present : Bool) {other : List String}
    (different : other ≠ tree.placeOf name) :
    entry? (tree.clear name present) other = tree.entry? other := by
  rcases clear_cases tree name present with same | ⟨file, removed⟩
  · rw [same]
  · rw [removed, entry?_removeFile tree (below_of_free file), if_neg different]

theorem clear_directory (name : FileName) (present : Bool) (other : List String) :
    entry? (tree.clear name present) other = some .directory ↔
      tree.entry? other = some .directory := by
  rcases clear_cases tree name present with same | ⟨file, removed⟩
  · rw [same]
  · rw [removed, entry?_removeFile tree (below_of_free file)]
    split
    · rename_i place
      rw [place]
      exact iff_of_false (by simp) file
    · rfl

/-- Writes a file, or says what is in the way. -/
def overwrite (tree : FileTree) (name : FileName) (content : List UInt8) :
    FileTree × Option NamedError :=
  match tree.writeFile name content with
  | .ok after => (after, none)
  | .error reason => (tree, some (reason, name))

theorem overwrite_ok {name : FileName} {content : List UInt8} {after : FileTree} :
    tree.overwrite name content = (after, none) ↔ tree.writeFile name content = .ok after := by
  unfold overwrite
  cases tree.writeFile name content <;> simp

/-- The steps of storing a file, all of which have to work out. -/
theorem store_ok {name : FileName} {content : List UInt8} {after : FileTree} :
    tree.store name content = (after, none) ↔ ∃ made present,
      tree.makeDirectories name.root name.parts.dropLast.reverse = (made, none) ∧
      made.present name = .ok present ∧
      (made.clear name present).writeFile name content = .ok after := by
  unfold store
  rcases tree.makeDirectories name.root name.parts.dropLast.reverse with ⟨made, failed⟩
  cases failed with
  | some error => simp
  | none =>
    cases looked : made.present name with
    | error reason => simp [looked]
    | ok present =>
      constructor
      · intro stored
        simp only [looked] at stored
        exact ⟨made, present, rfl, looked, overwrite_ok.mp stored⟩
      · rintro ⟨_, _, ⟨⟩, looked', stored⟩
        obtain rfl := Except.ok.inj (looked.symm.trans looked')
        simp only [looked]
        exact overwrite_ok.mpr stored

theorem present_ok {name : FileName} (holds : tree.Holds (tree.wayTo name)) (fits : Fits name) :
    ∃ present, tree.present name = .ok present := by
  have located : tree.locate name = .ok (tree.placeOf name) := locate_ok.mpr ⟨holds, fits, rfl⟩
  cases found : tree.entry? (tree.placeOf name) with
  | none =>
    have missing : tree.look name = .error .noEntry := by
      simp only [look, located, bind, Except.bind, found]
      rfl
    exact ⟨false, by simp only [present, missing]⟩
  | some entry => exact ⟨true, by simp only [present, look_ok.mpr ⟨holds, fits, found⟩]⟩

/-- The way to a file is the one to its directory. -/
theorem wayTo_eq (tree : FileTree) {name : FileName} (parts : name.parts ≠ []) :
    tree.wayTo name = trail (tree.start name.root) name.parts.dropLast := by
  obtain ⟨front, last, split⟩ := List.eq_nil_or_concat name.parts |>.resolve_left parts
  rw [wayTo, split, List.concat_eq_append, List.dropLast_concat]
  exact passed_concat ..

/-- The directories above a file that were made. -/
theorem directories_made {name : FileName} {made : FileTree}
    (directories : tree.makeDirectories name.root name.parts.dropLast.reverse = (made, none)) :
    Gains (trail (tree.start name.root) name.parts.dropLast) tree made ∧
      made.Holds (trail (tree.start name.root) name.parts.dropLast) := by
  have gains := makeDirectories_gains tree name.root name.parts.dropLast.reverse
  have holds := makeDirectories_made (congrArg Prod.snd directories)
  rw [directories, List.reverse_reverse] at gains holds
  exact ⟨gains, holds⟩

/-- A name without parts leads to a directory, which is made if it is missing. -/
theorem parts_of_store {name : FileName} {content : List UInt8} {after : FileTree}
    (stored : tree.store name content = (after, none)) : name.parts ≠ [] := by
  obtain ⟨made, present, directories, _, written⟩ := store_ok.mp stored
  obtain ⟨gains, holds⟩ := directories_made directories
  obtain ⟨_, _, free, _⟩ := writeFile_ok.mp written
  rw [placeOf_of_working (clear_working ..), gains.placeOf, ne_eq, clear_directory, placeOf] at free
  intro empty
  rw [empty] at free holds
  exact free (holds _ (List.mem_singleton.mpr rfl))

theorem stores_of_store {name : FileName} {content : List UInt8} {after : FileTree}
    (stored : tree.store name content = (after, none)) : Stores name content tree after := by
  have way := wayTo_eq tree (parts_of_store stored)
  obtain ⟨made, present, directories, _, written⟩ := store_ok.mp stored
  obtain ⟨gains, holds⟩ := directories_made directories
  rw [← way] at gains holds
  obtain ⟨_, fits, free, rfl⟩ := writeFile_ok.mp written
  -- Neither making directories nor clearing a file changes where names lead.
  have place := (placeOf_of_working (clear_working made name present) name).trans
    (gains.placeOf name)
  rw [place] at free ⊢
  have entries (other : List String) :
      entry? ((made.clear name present).set (tree.placeOf name) (.file content)) other =
        if other = tree.placeOf name then some (.file content) else made.entry? other := by
    rw [entry?_set _ (below_of_free free)]
    split
    · rfl
    · rename_i different
      exact clear_other name present (gains.placeOf name ▸ different)
  rw [ne_eq, clear_directory] at free
  refine ⟨(clear_working ..).trans gains.working, fits, ?_, ?_, ?_, ?_⟩
  · intro other member
    have held := holds other member
    rw [entries, if_neg, held]
    rintro rfl
    exact free held
  · intro directory
    exact free (gains.entry?_eq directory)
  · rw [entries, if_pos rfl]
  · intro other different
    rw [entries, if_neg different]
    rcases gains.entries other with same | ⟨among, absent, held⟩
    · exact .inl same
    · exact .inr ⟨among, absent, held⟩

/-- Storing works out where the way is clear and the file is not in the way itself. -/
theorem store_succeeds {name : FileName} (content : List UInt8) (parts : name.parts ≠ [])
    (admits : tree.Admits (tree.wayTo name)) (fits : Fits name)
    (free : tree.entry? (tree.placeOf name) ≠ some .directory)
    (apart : tree.placeOf name ∉ tree.wayTo name) :
    ∃ after, tree.store name content = (after, none) := by
  have way := wayTo_eq tree parts
  have directories : (tree.makeDirectories name.root name.parts.dropLast.reverse).2 = none := by
    refine makeDirectories_succeeds ?_ fun part member => fits part ?_
    · rwa [List.reverse_reverse, ← way]
    · rw [List.reverse_reverse] at member
      exact List.dropLast_subset _ member
  obtain ⟨made, directories⟩ : ∃ made,
      tree.makeDirectories name.root name.parts.dropLast.reverse = (made, none) :=
    ⟨_, Prod.ext rfl directories⟩
  obtain ⟨gains, holds⟩ := directories_made directories
  rw [← way] at gains holds
  have holdsMade : made.Holds (made.wayTo name) := (gains.wayTo name).symm ▸ holds
  -- The place of the file is none of those where a directory was made.
  have freeMade : made.entry? (tree.placeOf name) ≠ some .directory := by
    rcases gains.entries (tree.placeOf name) with same | ⟨among, _⟩
    · rwa [same]
    · exact absurd among apart
  obtain ⟨present, looked⟩ := present_ok holdsMade fits
  have holdsCleared : (made.clear name present).Holds ((made.clear name present).wayTo name) := by
    intro other member
    rw [wayTo_of_working (clear_working ..)] at member
    exact (clear_directory name present other).mpr (holdsMade other member)
  have freeCleared : entry? (made.clear name present) ((made.clear name present).placeOf name) ≠
      some .directory := by
    rwa [placeOf_of_working (clear_working ..), ne_eq, clear_directory, gains.placeOf]
  obtain ⟨after, written⟩ :
      ∃ after, (made.clear name present).writeFile name content = .ok after :=
    ⟨_, writeFile_ok.mpr ⟨holdsCleared, fits, freeCleared, rfl⟩⟩
  exact ⟨after, store_ok.mpr ⟨made, present, directories, looked, written⟩⟩

end ApiBindings.FileTree
