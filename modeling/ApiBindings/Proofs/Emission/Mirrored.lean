import ApiBindings.Proofs.Emission.Kept
import ApiBindings.Proofs.Emission.Paths
import ApiBindings.Proofs.Emission.Written
import ApiBindings.Proofs.File.Name

/-!
# What is written is what is kept

A run into a directory tree leaves at every planned path the text that a run into memory keeps
under it, also where several texts are put at one path. The paths of a plan lead straight down
from the directory of the run, so two of them lead to one place only if they are the same, and
none leads to a directory that another one needs. What is left is the way to the directory of the
run: double dots in its name can lead it through the place of a generated file.
-/
namespace ApiBindings

namespace PlannedFile

open FileName (IsPart IsWritten)
open FileTree (hasNul)

/-- A group whose names can be parts of file names, and not those of the files beside the groups. -/
structure Nameable (group : TagGroup) : Prop where
  part : IsPart group.className
  plain : hasNul group.className = false
  typings : group.className ≠ "typings.d.ts"
  index : group.className ≠ "index.ts"
  functions : ∀ entry ∈ group.entries,
    '/' ∉ entry.functionName.toList ∧ hasNul entry.functionName = false

/-- The parts of planned paths: one for the files beside the groups, two for the files of groups. -/
inductive Planned (groups : List TagGroup) : List String → Prop
  | typings : Planned groups ["typings.d.ts"]
  | index : Planned groups ["index.ts"]
  | inside (group : TagGroup) (member : group ∈ groups) (stem : String)
      (listed : stem ∈ stems group) : Planned groups [group.className, stem ++ ".ts"]

theorem planned_of_mem_plan {settings : Settings} {declarations : List Declaration}
    {groups : List TagGroup} {file : PlannedFile}
    (member : file ∈ plan settings declarations groups) :
    ∃ parts, Planned groups parts ∧ file.path = "/".intercalate parts := by
  rw [plan, List.cons_append, List.mem_cons, List.mem_append, List.mem_singleton] at member
  rcases member with rfl | member | rfl
  · exact ⟨_, .typings, String.intercalate_singleton.symm⟩
  · obtain ⟨group, grouped, member⟩ := List.mem_flatMap.mp member
    have located := List.mem_map_of_mem (f := path) member
    rw [paths_ofGroup] at located
    obtain ⟨location, located, spelled⟩ := List.mem_map.mp located
    obtain ⟨stem, listed, rfl⟩ := List.mem_map.mp located
    refine ⟨_, .inside group grouped stem listed, ?_⟩
    rw [String.intercalate_cons_cons, String.intercalate_singleton, ← spelled, directory,
      String.append_assoc]
  · exact ⟨_, .index, String.intercalate_singleton.symm⟩

theorem isPart_of_stem {stem : String} (slash : '/' ∉ stem.toList) : IsPart (stem ++ ".ts") := by
  have longer (short : String) (few : short.length < 3) : stem ++ ".ts" ≠ short := by
    rintro rfl
    have ending : ".ts".length = 3 := rfl
    rw [String.length_append, ending] at few
    omega
  exact ⟨longer _ (by decide), longer _ (by decide), longer _ (by decide), by simp [slash]⟩

/-- What the names of functions do not hold, the names of their files do not hold either. -/
theorem notMem_of_mem_stems {group : TagGroup} {c : Char} (other : c ∉ "index".toList)
    (functions : ∀ entry ∈ group.entries, c ∉ entry.functionName.toList) {stem : String}
    (listed : stem ∈ stems group) : c ∉ stem.toList := by
  rcases List.mem_append.mp listed with listed | listed
  · obtain ⟨entry, member, rfl⟩ := List.mem_map.mp listed
    rw [functionItem, Spelling.toList_file]
    exact fun held => functions entry member (List.mem_of_mem_filter held)
  · rwa [List.mem_singleton.mp listed]

namespace Planned

variable {groups : List TagGroup} {parts : List String}

theorem isPart (nameable : ∀ group ∈ groups, Nameable group) (planned : Planned groups parts) :
    ∀ part ∈ parts, IsPart part ∧ hasNul part = false := by
  have beside (stem : String) (slash : '/' ∉ stem.toList) (nul : hasNul (stem ++ ".ts") = false) :
      ∀ part ∈ [stem ++ ".ts"], IsPart part ∧ hasNul part = false :=
    List.forall_mem_singleton.mpr ⟨isPart_of_stem slash, nul⟩
  cases planned with
  | typings => exact beside "typings.d" (by decide) rfl
  | index => exact beside "index" (by decide) rfl
  | inside group member stem listed =>
    have named := nameable group member
    have slash := notMem_of_mem_stems (by decide) (fun entry listed =>
      (named.functions entry listed).1) listed
    have nul : hasNul (stem ++ ".ts") = false := by
      have := notMem_of_mem_stems (c := '\x00') (by decide) (fun entry listed =>
        by simpa [hasNul] using (named.functions entry listed).2) listed
      simp [hasNul, this]
    exact List.forall_mem_cons.mpr ⟨⟨named.part, named.plain⟩,
      List.forall_mem_singleton.mpr ⟨isPart_of_stem slash, nul⟩⟩

theorem isWritten (nameable : ∀ group ∈ groups, Nameable group) (planned : Planned groups parts) :
    IsWritten ("/".intercalate parts) parts := by
  refine ⟨rfl, ?_, fun part member => (planned.isPart nameable part member).1⟩
  cases planned <;> exact List.cons_ne_nil _ _

end Planned

end PlannedFile

namespace FileTree

open FileName (IsWritten)
open PlannedFile (Nameable Planned)

variable {tree after : FileTree} {directory : FileName} {path : String} {parts : List String}

theorem parts_below (written : IsWritten path parts) :
    directory ++ FileName.read path = ⟨directory.root, directory.parts ++ parts⟩ := by
  rw [written.read]
  rfl

theorem placeOf_below (written : IsWritten path parts) :
    tree.placeOf (directory ++ FileName.read path) = tree.placeOf directory ++ parts := by
  rw [parts_below written, placeOf, reach_append]
  exact reach_of_down _ fun dots => (written.2.2 _ dots).dots rfl

theorem wayTo_below (written : IsWritten path parts) :
    tree.wayTo (directory ++ FileName.read path) =
      tree.wayTo directory ++ passed (tree.placeOf directory) parts := by
  rw [parts_below written, wayTo, passed_append]
  rfl

/-- Different paths lead to different places. -/
theorem path_of_place {other : String} {parts' : List String} (written : IsWritten path parts)
    (written' : IsWritten other parts')
    (same : tree.placeOf (directory ++ FileName.read path) =
      tree.placeOf (directory ++ FileName.read other)) : path = other := by
  rw [placeOf_below written, placeOf_below written'] at same
  exact written.ext written' (List.append_cancel_left same)

/-- What is kept is found in the tree. -/
def Mirrors (directory : FileName) (tree : FileTree) (kept : KeptFiles) : Prop :=
  ∀ path parts text, IsWritten path parts → kept.get? path = some text →
    tree.entry? (tree.placeOf (directory ++ FileName.read path)) =
      some (.file text.toUTF8.toList)

theorem Mirrors.write {kept : KeptFiles} {text : String} (mirrors : Mirrors directory tree kept)
    (written : IsWritten path parts)
    (stores : Stores (directory ++ FileName.read path) text.toUTF8.toList tree after) :
    Mirrors directory after (kept.write path text) := by
  intro other parts' text' written' found
  rw [KeptFiles.get?_write] at found
  rw [placeOf_of_working stores.working]
  split at found
  · rename_i same
    rw [same, stores.stored, Option.some.inj found]
  · rename_i different
    have held := mirrors other parts' text' written' found
    have elsewhere : tree.placeOf (directory ++ FileName.read other) ≠
        tree.placeOf (directory ++ FileName.read path) := fun same =>
      different (path_of_place written' written same)
    -- A file was there, so the place is not one at which a directory was made.
    rcases stores.others _ elsewhere with same | ⟨_, absent, _⟩
    · rw [same, held]
    · rw [absent] at held
      cases held

theorem mirrors_writePlan [TemplateEngine] {plan : List PlannedFile} {displayed : List String}
    {kept : KeptFiles} (anywhere : FileTree)
    (written : ∀ file ∈ plan, ∃ parts, IsWritten file.path parts)
    (mirrors : Mirrors directory tree kept)
    (returned : writePlan none directory plan tree = (after, .ok displayed)) :
    ∃ copies, kept.writeAll anywhere none plan = .ok copies ∧ Mirrors directory after copies := by
  -- What was kept so far varies with the tree, since a path may be written more than once.
  induction plan generalizing tree kept displayed with
  | nil =>
    simp only [writePlan, Prod.mk.injEq] at returned
    obtain ⟨rfl, _⟩ := returned
    exact ⟨kept, rfl, mirrors⟩
  | cons file rest ih =>
    obtain ⟨⟨parts, here⟩, later⟩ := List.forall_mem_cons.mp written
    obtain ⟨text, between, _, taken, output, continued, _⟩ := writePlan_cons_ok.mp returned
    have stores := stores_of_store (writeOutput_ok_iff.mp output).2.2
    obtain ⟨copies, copied, mirrors⟩ := ih later (mirrors.write here stores) continued
    exact ⟨copies, KeptFiles.writeAll_cons_ok.mpr ⟨text, taken, copied⟩, mirrors⟩

/-- What a run into a directory leaves: its files are named in the order in which a run into memory
names them, every planned path leads to the text that is kept in memory under it, and everywhere
else the tree is as it was, but for directories that were missing. -/
structure LeavesKept [TemplateEngine] (directory : FileName) (plan : List PlannedFile)
    (tree after : FileTree) (displayed : List String) : Prop where
  named : displayed = (plan.map PlannedFile.path).map fun path =>
    (directory ++ FileName.read path).display
  kept : ∃ kept, KeptFiles.empty.writeAll tree none plan = .ok kept ∧
    ∀ path ∈ plan.map PlannedFile.path, ∃ text, kept.get? path = some text ∧
      after.read (directory ++ FileName.read path) = .ok text.toUTF8.toList
  others : ∀ place, (∀ file ∈ plan, place ≠ tree.placeOf (file.nameBelow directory)) →
    after.entry? place = tree.entry? place ∨
      (∃ file ∈ plan, place ∈ tree.wayTo (file.nameBelow directory)) ∧
        tree.entry? place = none ∧ after.entry? place = some .directory

/-- The way to a directory does not lead through the place of a file planned below it. -/
def LeadsClear (tree : FileTree) (directory : FileName) (plan : List PlannedFile) : Prop :=
  ∀ file ∈ plan, tree.placeOf (file.nameBelow directory) ∉ tree.wayTo directory

section Plan

variable {settings : Settings} {declarations : List Declaration} {groups : List TagGroup}
  (nameable : ∀ group ∈ groups, Nameable group)
include nameable

/-- Without double dots every generated file stands deeper than the directories above it. -/
theorem leadsClear_of_down (down : ".." ∉ directory.parts) :
    LeadsClear tree directory (PlannedFile.plan settings declarations groups) := by
  intro file member needed
  obtain ⟨parts, planned, spelled⟩ := PlannedFile.planned_of_mem_plan member
  have written := spelled ▸ planned.isWritten nameable
  have deep := length_of_passed down needed
  rw [PlannedFile.nameBelow, placeOf_below written, placeOf, reach_of_down _ down] at deep
  simp only [List.length_append] at deep
  omega

/-- No planned path leads to a directory that another one passes below the start. -/
theorem notMem_passed {parts' : List String} (planned : Planned groups parts)
    (planned' : Planned groups parts') (place : List String) :
    place ++ parts ∉ passed place parts' := by
  have below (other : List String) : place ++ parts = place ++ other ↔ parts = other :=
    List.append_right_inj place
  have first : place ++ parts ≠ place := by
    cases planned <;> simp
  cases planned' with
  | typings => simpa [passed] using first
  | index => simpa [passed] using first
  | inside group member stem listed =>
    have named := nameable group member
    -- Only the two files beside the groups stand where the directory of a group could.
    have second : place ++ parts ≠ place ++ [group.className] := by
      rw [ne_eq, below]
      cases planned with
      | typings => simpa using named.typings.symm
      | index => simpa using named.index.symm
      | inside => simp
    simp [passed, further, named.part.dots, first, second]

/-- Below the directory of a run no file is in the way of another one. -/
theorem apart_iff : Apart ((PlannedFile.plan settings declarations groups).map
      (PlannedFile.nameBelow directory)) tree ↔
    LeadsClear tree directory (PlannedFile.plan settings declarations groups) := by
  rw [Apart, List.forall_mem_map]
  refine forall₂_congr fun file member => ?_
  obtain ⟨parts, planned, spelled⟩ := PlannedFile.planned_of_mem_plan member
  rw [List.forall_mem_map]
  constructor
  · intro apart needed
    -- The way to a file begins with the way to the directory.
    refine apart file member ?_
    rw [PlannedFile.nameBelow, wayTo_below (spelled ▸ planned.isWritten nameable)]
    exact List.mem_append_left _ needed
  · intro clear other member' needed
    obtain ⟨parts', planned', spelled'⟩ := PlannedFile.planned_of_mem_plan member'
    have way : tree.wayTo (directory ++ FileName.read other.path) = _ :=
      wayTo_below (spelled' ▸ planned'.isWritten nameable)
    rw [PlannedFile.nameBelow.eq_def directory other, way, List.mem_append] at needed
    have inside := needed.resolve_left clear
    rw [PlannedFile.nameBelow, placeOf_below (spelled ▸ planned.isWritten nameable)] at inside
    exact notMem_passed nameable planned planned' _ inside

theorem leavesKept_of_writePlan [TemplateEngine] {displayed : List String}
    (returned : writePlan none directory (PlannedFile.plan settings declarations groups) tree =
      (after, .ok displayed)) :
    LeavesKept directory (PlannedFile.plan settings declarations groups) tree after displayed := by
  have isWritten : ∀ file ∈ PlannedFile.plan settings declarations groups,
      ∃ parts, IsWritten file.path parts := by
    intro file member
    obtain ⟨parts, planned, spelled⟩ := PlannedFile.planned_of_mem_plan member
    exact ⟨parts, spelled ▸ planned.isWritten nameable⟩
  have nothing : Mirrors directory tree .empty := by
    intro path parts text _ found
    cases found
  obtain ⟨written, fits, rfl⟩ := written_of_writePlan returned
  obtain ⟨kept, copied, mirrors⟩ := mirrors_writePlan tree isWritten nothing returned
  refine ⟨by rw [List.map_map]; rfl, ⟨kept, copied, ?_⟩, ?_⟩
  · intro path member
    obtain ⟨text, found⟩ := KeptFiles.exists_get?_writeAll copied (.inl member)
    obtain ⟨file, planned, rfl⟩ := List.mem_map.mp member
    obtain ⟨parts, spelled⟩ := isWritten file planned
    have stored := mirrors _ _ _ spelled found
    refine ⟨text, found, read_of_stored ?_ (fits file planned) stored⟩
    rw [wayTo_of_working written.keeps.working]
    exact written.holds _ (List.mem_map_of_mem planned)
  · intro place apart
    rcases written.others place (List.forall_mem_map.mpr apart) with
      same | ⟨⟨_, member, needed⟩, absent, made⟩
    · exact .inl same
    · obtain ⟨file, planned, rfl⟩ := List.mem_map.mp member
      exact .inr ⟨⟨file, planned, needed⟩, absent, made⟩

end Plan

/-- A run into a directory tree, under names that can be parts of file names, and where the tree
has room: no directory stands in place of a file and no file in place of a directory, and no name
is too long or holds a null character. It succeeds exactly if the way to its directory does not
lead through the place of a generated file, which takes double dots, and all texts and names have
bytes. Then it leaves what a run into memory keeps. -/
theorem writePlan_mirrors [TemplateEngine] (tree : FileTree) (settings : Settings)
    (declarations : List Declaration) (groups : List TagGroup) (directory : FileName)
    (nameable : ∀ group ∈ groups, Nameable group)
    (plain : ∀ part ∈ directory.parts, hasNul part = false)
    (fits : ∀ file ∈ PlannedFile.plan settings declarations groups,
      Fits (file.nameBelow directory))
    (room : HasRoom ((PlannedFile.plan settings declarations groups).map
      (PlannedFile.nameBelow directory)) tree) :
    ((∃ after displayed, writePlan none directory (PlannedFile.plan settings declarations groups)
          tree = (after, .ok displayed)) ↔
        LeadsClear tree directory (PlannedFile.plan settings declarations groups) ∧
          Encodable directory (PlannedFile.plan settings declarations groups)) ∧
      (".." ∉ directory.parts →
        LeadsClear tree directory (PlannedFile.plan settings declarations groups)) ∧
      ∀ after displayed, writePlan none directory (PlannedFile.plan settings declarations groups)
          tree = (after, .ok displayed) →
        LeavesKept directory (PlannedFile.plan settings declarations groups) tree after
          displayed := by
  -- The parts of a planned path are names, so nothing of it can be read as another directory.
  have below : ∀ file ∈ PlannedFile.plan settings declarations groups,
      (file.nameBelow directory).parts ≠ [] ∧
      ∀ part ∈ (file.nameBelow directory).parts, hasNul part = false := by
    intro file member
    obtain ⟨parts, planned, spelled⟩ := PlannedFile.planned_of_mem_plan member
    have written := spelled ▸ planned.isWritten nameable
    rw [PlannedFile.nameBelow, parts_below written]
    refine ⟨List.append_ne_nil_of_right_ne_nil _ written.2.1, ?_⟩
    exact List.forall_mem_append.mpr
      ⟨plain, fun part member => (planned.isPart nameable part member).2⟩
  refine ⟨?_, leadsClear_of_down nameable, fun after displayed returned => ?_⟩
  · rw [← apart_iff nameable]
    constructor
    · rintro ⟨after, displayed, returned⟩
      exact ⟨(written_of_writePlan returned).1.apart, encodable_of_writePlan returned⟩
    · rintro ⟨apart, encodable⟩
      exact writePlan_succeeds room apart fits (fun file member => (below file member).1)
        (fun file member => (below file member).2) encodable
  · exact leavesKept_of_writePlan nameable returned

attribute [local instance] TemplateEngine.verbatim

/-- Two groups share the directory `Pets`, so its index is written twice. -/
theorem writePlan_mirrors_of_sharedIndex :
    ∃ after displayed,
      writePlan none (FileName.read "services/api")
          (PlannedFile.plan (Settings.ofSource "openapi.json") []
            [⟨"Pets", "pets", []⟩, ⟨"Pets", "pets", []⟩]) (.ofWorking ["work"]) =
        (after, .ok displayed) ∧
      displayed = ["services/api/typings.d.ts", "services/api/Pets/index.ts",
        "services/api/Pets/index.ts", "services/api/index.ts"] := by
  have mirrors := writePlan_mirrors (.ofWorking ["work"]) (Settings.ofSource "openapi.json") []
    [⟨"Pets", "pets", []⟩, ⟨"Pets", "pets", []⟩] (FileName.read "services/api")
    (by
      intro group member
      simp only [List.mem_cons, List.not_mem_nil, or_false, or_self] at member
      subst member
      exact ⟨⟨by decide, by decide, by decide, by decide⟩, by decide, by decide, by decide,
        List.forall_mem_nil _⟩)
    (by decide +kernel) (by decide +kernel) (by decide +kernel)
  obtain ⟨succeeds, down, leaves⟩ := mirrors
  obtain ⟨after, displayed, returned⟩ :=
    succeeds.mpr ⟨down (by decide +kernel), by decide +kernel⟩
  refine ⟨after, displayed, returned, ?_⟩
  rw [(leaves after displayed returned).named]
  decide +kernel

/-- A declaration whose property is described with half of a surrogate pair. -/
def halfDescribed : Declaration :=
  let description := String.singleton (Text.ofCodePoint 0xd800)
  ⟨"Pet", .object [⟨"name", "string", false, .text description, .object []⟩] []⟩

/-- There is room, but the directory leads through the place of the file for the declarations,
which is made a directory on the way. Or nothing is in the way, but the text has no bytes, and an
empty file is left. -/
theorem writePlan_fails_with_room :
    (∀ part ∈ (FileName.read "typings.d.ts/..").parts, hasNul part = false) ∧
      (∀ file ∈ PlannedFile.plan (Settings.ofSource "openapi.json") [] [],
        Fits (file.nameBelow (FileName.read "typings.d.ts/.."))) ∧
      HasRoom ((PlannedFile.plan (Settings.ofSource "openapi.json") [] []).map
        (PlannedFile.nameBelow (FileName.read "typings.d.ts/.."))) (.ofWorking ["work"]) ∧
      (writePlan none (FileName.read "typings.d.ts/..")
        (PlannedFile.plan (Settings.ofSource "openapi.json") [] []) (.ofWorking ["work"])).2 =
      .error (.output "typings.d.ts/../typings.d.ts"
        (some (.system .isDirectory "typings.d.ts/../typings.d.ts"))) ∧
      let run := writePlan none (FileName.read "api")
        (PlannedFile.plan (Settings.ofSource "openapi.json") [halfDescribed] [])
        (.ofWorking ["work"])
      run.2 = .error (.notEncodable ⟨[0xd800], 86⟩) ∧
        run.1.read (FileName.read "api/typings.d.ts") = .ok [] := by
  refine ⟨?_, ?_, ?_, ?_, ?_, ?_⟩ <;> decide +kernel

end FileTree

end ApiBindings
