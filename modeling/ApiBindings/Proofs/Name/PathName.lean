import ApiBindings.Proofs.Name.FunctionName
import ApiBindings.Proofs.Name.LeadingSegments
import ApiBindings.Proofs.Name.Reading

/-!
# Names of paths

A path is named by what stands behind the base. The base is looked for anywhere in the path, but a
path that has more segments than are shared begins with it, and any other path is shorter than it.
So nothing is ever taken out of the middle of a path.
-/
namespace ApiBindings

namespace SharedSegments

variable {paths : List String} {path : String}

def Rooted (path : String) : Prop := path.toList.head? = some '/'

instance : DecidablePred Rooted := fun path =>
  inferInstanceAs (Decidable (path.toList.head? = some '/'))

/-- The first segment of a path that begins with a slash is empty. -/
theorem Rooted.prefix_segments (rooted : Rooted path) : [[]] <+: segments path := by
  obtain ⟨rest, spelled⟩ := List.head?_eq_some_iff.mp rooted
  rw [segments, spelled, Text.cut, if_pos rfl]
  exact List.prefix_append [[]] _

theorem shared_ne_nil (present : paths ≠ []) (rooted : ∀ path ∈ paths, Rooted path) :
    shared paths ≠ [] := by
  have common : Common paths [[]] := fun path member => (rooted path member).prefix_segments
  have begins := (common.leading present).prefix_shared
  rintro none
  simp [none] at begins

theorem toList_base (paths : List String) :
    (base paths).toList = Text.join ['/'] (shared paths) ++ ['/'] := by
  rw [base, String.toList_ofList]

theorem join_segments (path : String) : Text.join ['/'] (segments path) = path.toList :=
  Text.join_cut '/' path.toList

/-- A path with more segments than are shared is the base with its other segments behind. -/
theorem toList_of_longer (rooted : ∀ path ∈ paths, Rooted path) (member : path ∈ paths)
    (longer : (shared paths).length < (segments path).length) :
    path.toList = (base paths).toList ++
      Text.join ['/'] ((segments path).drop (shared paths).length) := by
  have present := List.ne_nil_of_mem member
  rcases (leading_shared present).along path member with begins | shorter
  · obtain ⟨behind, spelled⟩ := begins
    have some : behind ≠ [] := by
      rintro rfl
      simp [← spelled] at longer
    rw [← join_segments, ← spelled, List.drop_left,
      Text.join_append (shared_ne_nil present rooted) some, toList_base]
    simp
  · have bound := shorter.length_le
    omega

theorem replaceFirst_of_longer (rooted : ∀ path ∈ paths, Rooted path) (member : path ∈ paths)
    (longer : (shared paths).length < (segments path).length) :
    Text.replaceFirst (base paths).toList [] path.toList =
      Text.join ['/'] ((segments path).drop (shared paths).length) := by
  rw [toList_of_longer rooted member longer,
    Text.replaceFirst_self _ _ _ (by simp [toList_base]), List.nil_append]

theorem length_join_le_of_prefix {one other : List (List Char)} (begins : one <+: other) :
    (Text.join ['/'] one).length ≤ (Text.join ['/'] other).length := by
  obtain ⟨behind, rfl⟩ := begins
  by_cases none : one = []
  · simp [none, Text.join]
  · by_cases none' : behind = []
    · simp [none']
    · simp [Text.join_append none none']

/-- The base does not fit into a path with no more segments than are shared. -/
theorem not_infix_of_shorter (member : path ∈ paths)
    (shorter : (segments path).length ≤ (shared paths).length) :
    ¬ (base paths).toList <:+: path.toList := by
  have begins : segments path <+: shared paths := by
    rcases (leading_shared (List.ne_nil_of_mem member)).along path member with whole | begins
    · rw [whole.eq_of_length_le shorter]
    · exact begins
  intro inside
  -- The base has all segments of the path and one more slash.
  have bound := inside.length_le
  have bound' := length_join_le_of_prefix begins
  rw [toList_base, List.length_append, List.length_singleton] at bound
  rw [join_segments] at bound'
  omega

end SharedSegments

namespace Namer

open SharedSegments (Rooted)

section

variable [Text.Romanization]

/-- The text that a segment adds to the name of its path. -/
inductive Adds (namespaceName : String) : List Char → String → Prop
  | parameter {segment name : List Char} (whole : IsParameter name segment) (present : name ≠ [])
      (oneLine : '\n' ∉ name) :
      Adds namespaceName segment
        ("By" ++ Spelling.upperFirst (TypeName.sanitize namespaceName (String.ofList name)).value)
  | other {segment : List Char}
      (other : ∀ name, IsParameter name segment → name = [] ∨ '\n' ∈ name) :
      Adds namespaceName segment
        (Spelling.upperFirst (TypeName.sanitize namespaceName (String.ofList segment)).value)

theorem adds_segmentName (namer : Namer) (segment : List Char) :
    Adds namer.namespaceName segment (namer.segmentName segment).value := by
  rw [value_segmentName, rawName]
  cases named : parameter? segment with
  | some name =>
    obtain ⟨whole, present, oneLine⟩ := parameter?_eq_some.mp named
    exact .parameter whole present oneLine
  | none =>
    rw [Option.isSome_none, if_neg (by simp), String.empty_append]
    refine .other fun name whole => ?_
    by_contra sound
    rw [not_or] at sound
    simp [parameter?_eq_some.mpr ⟨whole, sound.1, sound.2⟩] at named

/-- The segments that name a path: those behind the shared ones, or all if there are none. -/
def naming (paths : List String) (path : String) : List (List Char) :=
  let all := SharedSegments.segments path
  let shared := (SharedSegments.shared paths).length
  (if shared < all.length then all.drop shared else all).filter (· ≠ [])

section Rooted

variable {paths : List String} {path : String}

omit [Text.Romanization] in
/-- The base is taken off at the front of a path, or it is not in the path. -/
theorem replaceFirst_base (rooted : ∀ path ∈ paths, Rooted path) (member : path ∈ paths) :
    let base := (SharedSegments.base paths).toList
    let rest := Text.replaceFirst base [] path.toList
    path.toList = base ++ rest ∨ ¬ base <:+: path.toList ∧ rest = path.toList := by
  intro base rest
  rcases Nat.lt_or_ge (SharedSegments.shared paths).length
    (SharedSegments.segments path).length with longer | shorter
  · left
    rw [show rest = _ from SharedSegments.replaceFirst_of_longer rooted member longer]
    exact SharedSegments.toList_of_longer rooted member longer
  · have absent := SharedSegments.not_infix_of_shorter member shorter
    exact .inr ⟨absent, Text.replaceFirst_of_absent absent []⟩

omit [Text.Romanization] in
theorem segments_eq_naming (rooted : ∀ path ∈ paths, Rooted path) (member : path ∈ paths)
    (namespaceName : String) (hooks : NamingHooks) (maxLength : Nat) :
    (create namespaceName paths hooks maxLength).segments path = naming paths path := by
  rw [segments, naming, create]
  congr 1
  split
  · rename_i longer
    rw [SharedSegments.replaceFirst_of_longer rooted member longer]
    -- The segments were cut out of the path, so none of them is cut again.
    refine Text.cut_join (by simpa using longer) fun segment among => ?_
    exact Text.notMem_of_mem_cut (List.mem_of_mem_drop among)
  · rename_i shorter
    rw [Text.replaceFirst_of_absent
      (SharedSegments.not_infix_of_shorter member (Nat.le_of_not_lt shorter))]
    rfl

end Rooted

/-- A path that begins with a slash is named by its segments behind the shared ones in their order,
or by all of them if it has no more than are shared. The base is taken off at its front or it does
not stand in the path at all. -/
theorem pathName_of_rooted (namespaceName : String) {paths : List String} (hooks : NamingHooks)
    (maxLength : Nat) (rooted : ∀ path ∈ paths, Rooted path) {path : String}
    (member : path ∈ paths) :
    let namer := create namespaceName paths hooks maxLength
    let rest := Text.replaceFirst namer.base.toList [] path.toList
    (∃ names, List.Forall₂ (Adds namespaceName) (naming paths path) names ∧
      (namer.pathName path).value = String.join names) ∧
    (path.toList = namer.base.toList ++ rest ∨
      ¬ namer.base.toList <:+: path.toList ∧ rest = path.toList) := by
  intro namer rest
  refine ⟨⟨(namer.segments path).map fun segment => (namer.segmentName segment).value, ?_, ?_⟩,
    replaceFirst_base rooted member⟩
  · rw [segments_eq_naming rooted member, List.forall₂_map_right_iff, List.forall₂_same]
    exact fun segment _ => namer.adds_segmentName segment
  · exact value_pathName namer path

end

/-- The segments that both paths begin with give nothing to the name. -/
theorem pathName_of_orders :
    let paths := ["/api/v1/users/\x7bid\x7d/orders", "/api/v1/pets"]
    let path := "/api/v1/users/\x7bid\x7d/orders"
    (∀ path ∈ paths, Rooted path) ∧ path ∈ paths ∧ ∃ names,
      List.Forall₂ (Adds "API") ["users".toList, "\x7bid\x7d".toList, "orders".toList] names ∧
      ((create "API" paths .none 20).pathName path).value = String.join names := by
  intro paths path
  have rooted : ∀ path ∈ paths, Rooted path := by decide
  have member : path ∈ paths := by decide
  have kept : naming paths path = ["users".toList, "\x7bid\x7d".toList, "orders".toList] := by
    decide +kernel
  refine ⟨rooted, member, ?_⟩
  rw [← kept]
  exact (pathName_of_rooted "API" .none 20 rooted member).1

/-- A parameter of two lines is taken for any other segment. -/
theorem pathName_of_two_lines :
    let path := "/\x7ba\nb\x7d"
    let name := ['a', '\n', 'b']
    let segment := ['\x7b', 'a', '\n', 'b', '\x7d']
    Rooted path ∧ naming [path] path = [segment] ∧ IsParameter name segment ∧
      ((create "API" [path] .none 20).pathName path).value = "Ab" ∧
      "By" ++ Spelling.upperFirst (TypeName.sanitize "API" (String.ofList name)).value =
        "ByAb" := by
  intro path name segment
  have kept : (create "API" [path] .none 20).segments path = [segment] := by decide +kernel
  have missed : parameter? segment = none := by decide
  refine ⟨by decide, by decide +kernel, .braced, ?_, ?_⟩
  · rw [value_pathName, kept, List.map_singleton, value_segmentName, rawName, missed]
    decide +kernel
  · decide +kernel

end Namer

end ApiBindings
