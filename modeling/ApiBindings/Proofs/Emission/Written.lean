import ApiBindings.Emission.Output
import ApiBindings.Proofs.File.Store

/-!
# Writing a plan

A plan is written one file after the other, each below directories that are made for it. Once a
directory or a file stands at a place, something of its kind stays there, whatever is written
later. So a plan can be written only if no file is to stand where another one needs a directory,
and where the tree has room this is all that can go wrong.
-/
namespace ApiBindings

/-- The name of a planned file below a directory. -/
def PlannedFile.nameBelow (directory : FileName) (file : PlannedFile) : FileName :=
  directory ++ FileName.read file.path

/-- A text that has bytes. -/
def Utf8.IsEncodable (text : String) : Prop := ∀ c ∈ text.toList, Text.isHalf c = false

instance (text : String) : Decidable (Utf8.IsEncodable text) :=
  decidable_of_iff (text.toList.all fun c => !Text.isHalf c) (by simp [Utf8.IsEncodable])

/-- A file name that has bytes. -/
def FileName.IsEncodable (name : FileName) : Prop :=
  ∀ part ∈ name.parts, ∀ c ∈ part.toList, Utf8.isNameable c = true

instance (name : FileName) : Decidable name.IsEncodable :=
  decidable_of_iff (name.parts.all fun part => part.toList.all Utf8.isNameable)
    (by simp [FileName.IsEncodable])

namespace FileTree

section Output

variable {tree after : FileTree} {name : FileName} {text : String}

theorem nameFailure?_eq_none_iff :
    nameFailure? name = none ↔ name.IsEncodable ∧ ∀ part ∈ name.parts, hasNul part = false := by
  unfold nameFailure? FileName.IsEncodable
  simp only [List.all_eq_true, List.any_eq_true]
  split
  · rename_i encodable
    rw [and_iff_right encodable]
    simp
  · rename_i broken
    exact iff_of_false (by simp) fun both => broken both.1

theorem contentOf_of_isEncodable (encodable : Utf8.IsEncodable text) :
    contentOf text = (text.toUTF8.toList, .ok ()) := by
  have none : text.toList.any Text.isHalf = false := by
    rw [List.any_eq_false]
    exact fun c member => by simp [encodable c member]
  simp [contentOf, Utf8.encode, none]

theorem isEncodable_of_contentOf (kept : (contentOf text).2 = .ok ()) :
    Utf8.IsEncodable text := by
  unfold contentOf Utf8.encode at kept
  by_cases halves : text.toList.any Text.isHalf = true
  · simp [halves] at kept
  · exact fun c member => by simpa using (List.any_eq_false.mp (by simpa using halves)) c member

/-- A text is written if it and the name have bytes and it can be stored under the name. -/
theorem writeOutput_ok_iff : tree.writeOutput name text = (after, .ok ()) ↔
    nameFailure? name = none ∧ Utf8.IsEncodable text ∧
      tree.store name text.toUTF8.toList = (after, none) := by
  -- The name of the directory is looked at first, and it is part of that of the file.
  have above (plain : nameFailure? name = none) : nameFailure? name.parent = none := by
    obtain ⟨encodable, noNul⟩ := nameFailure?_eq_none_iff.mp plain
    exact nameFailure?_eq_none_iff.mpr
      ⟨fun part member => encodable part (List.dropLast_subset _ member),
        fun part member => noNul part (List.dropLast_subset _ member)⟩
  constructor
  · intro written
    unfold writeOutput at written
    split at written
    · cases written
    · split at written <;> cases written
    · rename_i plain
      split at written
      · cases written
      · rename_i stored
        obtain ⟨rfl, kept⟩ := Prod.mk.inj written
        have encodable := isEncodable_of_contentOf kept
        rw [contentOf_of_isEncodable encodable] at stored
        exact ⟨plain, encodable, stored⟩
  · rintro ⟨plain, encodable, stored⟩
    simp only [writeOutput, above plain, plain, contentOf_of_isEncodable encodable, stored]

end Output

/-- What is at a place stays of its kind. -/
structure KeepsKinds (tree after : FileTree) : Prop where
  working : after.working = tree.working
  directory : ∀ place, tree.entry? place = some .directory → after.entry? place = some .directory
  file : ∀ place content, tree.entry? place = some (.file content) →
    ∃ content, after.entry? place = some (.file content)

theorem KeepsKinds.refl (tree : FileTree) : KeepsKinds tree tree :=
  ⟨rfl, fun _ held => held, fun _ content held => ⟨content, held⟩⟩

/-- A tree in which files with these names were stored, in this order. -/
structure Written (names : List FileName) (tree after : FileTree) : Prop where
  keeps : KeepsKinds tree after
  holds : ∀ name ∈ names, after.Holds (tree.wayTo name)
  files : ∀ name ∈ names, ∃ content, after.entry? (tree.placeOf name) = some (.file content)
  others : ∀ place, (∀ name ∈ names, place ≠ tree.placeOf name) →
    after.entry? place = tree.entry? place ∨ (∃ name ∈ names, place ∈ tree.wayTo name) ∧
      tree.entry? place = none ∧ after.entry? place = some .directory

/-- The tree can take files with these names as far as it is known before any of them is stored:
no directory stands in place of a file, and no file in place of a directory. -/
structure HasRoom (names : List FileName) (tree : FileTree) : Prop where
  free : ∀ name ∈ names, tree.entry? (tree.placeOf name) ≠ some .directory
  admits : ∀ name ∈ names, tree.Admits (tree.wayTo name)

instance (names : List FileName) (tree : FileTree) : Decidable (HasRoom names tree) :=
  decidable_of_iff ((∀ name ∈ names, tree.entry? (tree.placeOf name) ≠ some .directory) ∧
    ∀ name ∈ names, tree.Admits (tree.wayTo name))
    ⟨fun ⟨free, admits⟩ => ⟨free, admits⟩, fun room => ⟨room.free, room.admits⟩⟩

/-- No file is to stand where one of the files needs a directory. -/
def Apart (names : List FileName) (tree : FileTree) : Prop :=
  ∀ name ∈ names, ∀ other ∈ names, tree.placeOf name ∉ tree.wayTo other

variable {tree between after : FileTree} {name : FileName} {names : List FileName}

namespace Stores

variable {content : List UInt8} (stores : Stores name content tree after)
include stores

theorem keepsKinds : KeepsKinds tree after := by
  refine ⟨stores.working, fun place held => ?_, fun place old held => ?_⟩
  · have different : place ≠ tree.placeOf name := by
      rintro rfl
      exact stores.free held
    rcases stores.others place different with same | ⟨_, absent, _⟩
    · rw [same, held]
    · rw [absent] at held
      cases held
  · by_cases here : place = tree.placeOf name
    · exact ⟨content, here ▸ stores.stored⟩
    · rcases stores.others place here with same | ⟨_, absent, _⟩
      · exact ⟨old, same.trans held⟩
      · rw [absent] at held
        cases held

theorem hasRoom (room : HasRoom (name :: names) tree) (apart : Apart (name :: names) tree) :
    HasRoom names after := by
  have place (other : FileName) := placeOf_of_working stores.working other
  have way (other : FileName) := wayTo_of_working stores.working other
  refine ⟨fun other member => ?_, fun other member passed through => ?_⟩
  · rw [place]
    by_cases same : tree.placeOf other = tree.placeOf name
    · rw [same, stores.stored]
      simp
    · rcases stores.others _ same with same | ⟨needed, _⟩
      · rw [same]
        exact room.free other (List.mem_cons_of_mem _ member)
      · exact absurd needed (apart other (List.mem_cons_of_mem _ member) name List.mem_cons_self)
  · rw [way] at through
    -- What another file needs for a directory is not the place of the file that was stored.
    have different : passed ≠ tree.placeOf name := by
      rintro rfl
      exact apart name List.mem_cons_self other (List.mem_cons_of_mem _ member) through
    rcases stores.others passed different with same | ⟨_, _, made⟩
    · rw [same]
      exact room.admits other (List.mem_cons_of_mem _ member) passed through
    · exact .inr made

end Stores

theorem Apart.tail (same : after.working = tree.working) (apart : Apart (name :: names) tree) :
    Apart names after := by
  intro one member other member'
  rw [placeOf_of_working same, wayTo_of_working same]
  exact apart one (List.mem_cons_of_mem _ member) other (List.mem_cons_of_mem _ member')

namespace Written

theorem nil (tree : FileTree) : Written [] tree tree :=
  ⟨.refl tree, List.forall_mem_nil _, List.forall_mem_nil _, fun _ _ => .inl rfl⟩

/-- One file more, stored before the others. -/
theorem cons {content : List UInt8} (stores : Stores name content tree between)
    (written : Written names between after) : Written (name :: names) tree after := by
  have keeps := stores.keepsKinds
  have place (other : FileName) := placeOf_of_working stores.working other
  have way (other : FileName) := wayTo_of_working stores.working other
  refine ⟨⟨written.keeps.working.trans keeps.working, fun place held => ?_,
    fun place old held => ?_⟩, fun other member => ?_, fun other member => ?_,
    fun other apart => ?_⟩
  · exact written.keeps.directory place (keeps.directory place held)
  · obtain ⟨_, held⟩ := keeps.file place old held
    exact written.keeps.file place _ held
  · rcases List.mem_cons.mp member with rfl | member
    · intro passed through
      exact written.keeps.directory passed (stores.holds passed through)
    · exact way other ▸ written.holds other member
  · rcases List.mem_cons.mp member with rfl | member
    · exact written.keeps.file _ _ stores.stored
    · exact place other ▸ written.files other member
  · obtain ⟨here, later⟩ := List.forall_mem_cons.mp apart
    have elsewhere : ∀ name ∈ names, other ≠ between.placeOf name := by
      intro name member
      rw [place]
      exact later name member
    -- A place that changes becomes a directory in one of the two steps and stays one.
    rcases written.others other elsewhere with same | ⟨⟨later, member, needed⟩, absent, made⟩
    · rw [same]
      rcases stores.others other here with same | ⟨needed, absent, made⟩
      · exact .inl same
      · exact .inr ⟨⟨name, List.mem_cons_self, needed⟩, absent, made⟩
    · rcases stores.others other here with same | ⟨_, _, made'⟩
      · rw [way] at needed
        exact .inr ⟨⟨later, List.mem_cons_of_mem _ member, needed⟩, same ▸ absent, made⟩
      · rw [absent] at made'
        cases made'

/-- There is no file where a directory was needed. -/
theorem apart (written : Written names tree after) : Apart names tree := by
  intro name member other member' needed
  obtain ⟨content, stored⟩ := written.files name member
  rw [written.holds other member' _ needed] at stored
  cases stored

end Written

variable {folder : Option String} {directory : FileName} {plan : List PlannedFile}
  {displayed : List String}

/-- All texts and names of a plan have bytes. -/
def Encodable (directory : FileName) (plan : List PlannedFile) : Prop :=
  ∀ file ∈ plan, Utf8.IsEncodable file.text ∧ (file.nameBelow directory).IsEncodable

instance (directory : FileName) (plan : List PlannedFile) : Decidable (Encodable directory plan) :=
  decidable_of_iff (plan.all fun file =>
      decide (Utf8.IsEncodable file.text ∧ (file.nameBelow directory).IsEncodable))
    (by simp [Encodable])

variable [TemplateEngine]

theorem writePlan_cons_ok {file : PlannedFile} {rest : List PlannedFile} :
    writePlan folder directory (file :: rest) tree = (after, .ok displayed) ↔
      ∃ text between later, file.finalText tree folder = .ok text ∧
        tree.writeOutput (file.nameBelow directory) text = (between, .ok ()) ∧
        writePlan folder directory rest between = (after, .ok later) ∧
        displayed = (file.nameBelow directory).display :: later := by
  rw [writePlan]
  cases file.finalText tree folder with
  | error failure => simp
  | ok text =>
    simp only [Except.ok.injEq, exists_and_left, exists_eq_left', PlannedFile.nameBelow]
    rcases tree.writeOutput (directory ++ FileName.read file.path) text with ⟨between, stored⟩
    cases stored with
    | error failure => simp
    | ok done =>
      rcases continued : writePlan folder directory rest between with ⟨last, result⟩
      cases result with
      | error failure => simp [continued]
      | ok later => simp [continued, eq_comm]

theorem written_of_writePlan
    (returned : writePlan folder directory plan tree = (after, .ok displayed)) :
    Written (plan.map (PlannedFile.nameBelow directory)) tree after ∧
      (∀ file ∈ plan, Fits (file.nameBelow directory)) ∧
      displayed = plan.map fun file => (file.nameBelow directory).display := by
  induction plan generalizing tree displayed with
  | nil =>
    simp only [writePlan, Prod.mk.injEq, Except.ok.injEq] at returned
    obtain ⟨rfl, rfl⟩ := returned
    exact ⟨.nil tree, List.forall_mem_nil _, rfl⟩
  | cons file rest ih =>
    obtain ⟨text, between, later, _, stored, continued, rfl⟩ := writePlan_cons_ok.mp returned
    obtain ⟨written, fits, rfl⟩ := ih continued
    have stores := stores_of_store (writeOutput_ok_iff.mp stored).2.2
    exact ⟨.cons stores written, List.forall_mem_cons.mpr ⟨stores.fits, fits⟩, rfl⟩

/-- A plan is written only if all its texts and names have bytes. -/
theorem encodable_of_writePlan
    (returned : writePlan none directory plan tree = (after, .ok displayed)) :
    Encodable directory plan := by
  induction plan generalizing tree displayed with
  | nil => exact List.forall_mem_nil _
  | cons file rest ih =>
    obtain ⟨text, between, later, taken, stored, continued, _⟩ := writePlan_cons_ok.mp returned
    obtain rfl := Except.ok.inj taken
    obtain ⟨plain, encodable, _⟩ := writeOutput_ok_iff.mp stored
    exact List.forall_mem_cons.mpr
      ⟨⟨encodable, (nameFailure?_eq_none_iff.mp plain).1⟩, ih continued⟩

/-- Where there is room and the files keep out of the way of directories, a plan can be written
whose texts and names have bytes. -/
theorem writePlan_succeeds (room : HasRoom (plan.map (PlannedFile.nameBelow directory)) tree)
    (apart : Apart (plan.map (PlannedFile.nameBelow directory)) tree)
    (fits : ∀ file ∈ plan, Fits (file.nameBelow directory))
    (parts : ∀ file ∈ plan, (file.nameBelow directory).parts ≠ [])
    (plain : ∀ file ∈ plan, ∀ part ∈ (file.nameBelow directory).parts, hasNul part = false)
    (encodable : Encodable directory plan) :
    ∃ after displayed, writePlan none directory plan tree = (after, .ok displayed) := by
  induction plan generalizing tree with
  | nil => exact ⟨tree, [], rfl⟩
  | cons file rest ih =>
    simp only [Encodable, List.forall_mem_cons] at fits parts plain encodable
    obtain ⟨between, stored⟩ := store_succeeds file.text.toUTF8.toList parts.1
      (room.admits _ List.mem_cons_self) fits.1 (room.free _ List.mem_cons_self)
      (apart _ List.mem_cons_self _ List.mem_cons_self)
    have stores := stores_of_store stored
    obtain ⟨after, later, returned⟩ :=
      ih (stores.hasRoom room apart) (apart.tail stores.working) fits.2 parts.2 plain.2 encodable.2
    obtain ⟨text, name⟩ := encodable.1
    have output : tree.writeOutput (file.nameBelow directory) file.text = (between, .ok ()) :=
      writeOutput_ok_iff.mpr ⟨nameFailure?_eq_none_iff.mpr ⟨name, plain.1⟩, text, stored⟩
    exact ⟨after, _, writePlan_cons_ok.mpr
      ⟨file.text, between, later, rfl, output, returned, rfl⟩⟩

end FileTree

end ApiBindings
