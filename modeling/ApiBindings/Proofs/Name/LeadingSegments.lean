import ApiBindings.Proofs.Name.SharedSegments
import ApiBindings.Proofs.Text.Joined

/-!
# Leading segments

A path that is too short for a column leaves no trace in it. So the shared segments are the longest
that one path begins with and that no path leaves before it ends. They are those that all paths
begin with, unless some path ends there and the others still agree on what follows.
-/
namespace ApiBindings.SharedSegments

section Columns

variable {paths : List (List (List Char))} {path rest : List (List Char)} {segment : List Char}
  {position : Nat}

theorem mem_column : segment ∈ column paths position ↔
    ∃ path ∈ paths, path[position]? = some segment := by
  simp [column]

theorem cons_prefix_drop_iff : segment :: rest <+: path.drop position ↔
    path[position]? = some segment ∧ rest <+: path.drop (position + 1) := by
  cases here : path[position]? with
  | none =>
    rw [List.drop_eq_nil_of_le (List.getElem?_eq_none_iff.mp here), List.prefix_nil]
    simp
  | some other =>
    obtain ⟨inside, rfl⟩ := List.getElem?_eq_some_iff.mp here
    rw [List.drop_eq_getElem_cons inside, List.cons_prefix_cons, Option.some.injEq, eq_comm]

/-- Two lists of segments are the same as far as both reach. -/
def GoAlong (one other : List (List Char)) : Prop := one <+: other ∨ other <+: one

theorem goAlong_of_none (outside : path[position]? = none) : GoAlong rest (path.drop position) := by
  right
  rw [List.drop_eq_nil_of_le (List.getElem?_eq_none_iff.mp outside)]
  exact List.nil_prefix

theorem goAlong_cons_iff : GoAlong (segment :: rest) (path.drop position) ↔
    ∀ other, path[position]? = some other →
      other = segment ∧ GoAlong rest (path.drop (position + 1)) := by
  cases here : path[position]? with
  | none => simp [goAlong_of_none here]
  | some other =>
    obtain ⟨inside, rfl⟩ := List.getElem?_eq_some_iff.mp here
    rw [List.drop_eq_getElem_cons inside, GoAlong, GoAlong, List.cons_prefix_cons,
      List.cons_prefix_cons, @eq_comm _ segment, ← and_or_left]
    simp

/-- No path leaves the shared segments before it ends. -/
theorem goAlong_sharedFrom (member : path ∈ paths) (fuel position : Nat) :
    GoAlong (sharedFrom paths fuel position) (path.drop position) := by
  induction fuel generalizing position with
  | zero => exact .inl List.nil_prefix
  | succ fuel ih =>
    rw [sharedFrom]
    split
    · rename_i segment agreed
      refine goAlong_cons_iff.mpr fun other here => ⟨?_, ih (position + 1)⟩
      exact (agreed?_eq_some.mp agreed).2 other (mem_column.mpr ⟨path, member, here⟩)
    · exact .inl List.nil_prefix

/-- Some path has all of the shared segments: one that reaches into the last of their columns. -/
theorem exists_prefix_sharedFrom (present : paths ≠ []) (fuel position : Nat) :
    ∃ path ∈ paths, sharedFrom paths fuel position <+: path.drop position := by
  induction fuel generalizing position with
  | zero =>
    obtain ⟨path, member⟩ := List.exists_mem_of_ne_nil paths present
    exact ⟨path, member, List.nil_prefix⟩
  | succ fuel ih =>
    rw [sharedFrom]
    split
    · rename_i segment agreed
      obtain ⟨reached, same⟩ := agreed?_eq_some.mp agreed
      obtain ⟨path, member, begins⟩ := ih (position + 1)
      cases here : path[position]? with
      | some other =>
        obtain rfl := same other (mem_column.mpr ⟨path, member, here⟩)
        exact ⟨path, member, cons_prefix_drop_iff.mpr ⟨here, begins⟩⟩
      | none =>
        -- Nothing is shared behind the end of this path, so any path in the column will do.
        rw [List.drop_eq_nil_of_le (Nat.le_succ_of_le (List.getElem?_eq_none_iff.mp here)),
          List.prefix_nil] at begins
        obtain ⟨other, inColumn⟩ := List.exists_mem_of_ne_nil _ reached
        obtain rfl := same other inColumn
        obtain ⟨path, member, here⟩ := mem_column.mp inColumn
        exact ⟨path, member, cons_prefix_drop_iff.mpr ⟨here, begins ▸ List.nil_prefix⟩⟩
    · obtain ⟨path, member⟩ := List.exists_mem_of_ne_nil paths present
      exact ⟨path, member, List.nil_prefix⟩

/-- What one path has and no path leaves is shared. -/
theorem prefix_sharedFrom {lead : List (List Char)} {fuel : Nat} (fits : lead.length ≤ fuel)
    (begins : ∃ path ∈ paths, lead <+: path.drop position)
    (along : ∀ path ∈ paths, GoAlong lead (path.drop position)) :
    lead <+: sharedFrom paths fuel position := by
  induction lead generalizing position fuel with
  | nil => exact List.nil_prefix
  | cons segment rest ih =>
    cases fuel with
    | zero => simp at fits
    | succ fuel =>
      obtain ⟨path, member, begun⟩ := begins
      obtain ⟨here, behind⟩ := cons_prefix_drop_iff.mp begun
      have agreed : agreed? (column paths position) = some segment := by
        refine agreed?_eq_some.mpr ⟨List.ne_nil_of_mem (mem_column.mpr ⟨path, member, here⟩), ?_⟩
        intro other inColumn
        obtain ⟨path', member', here'⟩ := mem_column.mp inColumn
        exact (goAlong_cons_iff.mp (along path' member') other here').1
      rw [sharedFrom, agreed]
      refine (List.prefix_cons_inj _).mpr
        (ih (Nat.le_of_succ_le_succ fits) ⟨path, member, behind⟩ ?_)
      -- A path that ends here has no more segments to disagree with.
      intro path' member'
      cases here' : path'[position]? with
      | some other => exact (goAlong_cons_iff.mp (along path' member') other here').2
      | none =>
        refine goAlong_of_none (List.getElem?_eq_none_iff.mpr ?_)
        exact Nat.le_succ_of_le (List.getElem?_eq_none_iff.mp here')

theorem length_le_width (member : path ∈ paths) : path.length ≤ width paths := by
  rw [width, List.foldl_max]
  cases longest : (paths.map List.length).max? with
  | none => simp [List.ne_nil_of_mem member] at longest
  | some most =>
    have bound := (List.max?_eq_some_iff.mp longest).2 _ (List.mem_map_of_mem member)
    simpa using bound

end Columns

/-- Segments that one path begins with and that no path leaves before it ends. -/
structure Leading (paths : List String) (lead : List (List Char)) : Prop where
  begins : ∃ path ∈ paths, lead <+: segments path
  along : ∀ path ∈ paths, GoAlong lead (segments path)

/-- Segments that all paths begin with. -/
def Common (paths : List String) (lead : List (List Char)) : Prop :=
  ∀ path ∈ paths, lead <+: segments path

/-- A list of segments that has a property, and of these the longest. -/
def IsLongest (property : List (List Char) → Prop) (lead : List (List Char)) : Prop :=
  property lead ∧ ∀ other, property other → other.length ≤ lead.length

/-- Segments between slashes, with a slash at the end. -/
def closed (segments : List (List Char)) : String :=
  String.ofList (Text.join ['/'] segments ++ ['/'])

variable {paths : List String} {lead : List (List Char)}

theorem leading_shared (present : paths ≠ []) : Leading paths (shared paths) where
  begins := by
    obtain ⟨_, member, begins⟩ := exists_prefix_sharedFrom
      (mt List.map_eq_nil_iff.mp present) (width (paths.map segments)) 0
    obtain ⟨path, among, rfl⟩ := List.mem_map.mp member
    exact ⟨path, among, begins⟩
  along path member := goAlong_sharedFrom (List.mem_map_of_mem member) _ 0

theorem Leading.prefix_shared (leading : Leading paths lead) : lead <+: shared paths := by
  obtain ⟨path, member, begins⟩ := leading.begins
  have fits := Nat.le_trans begins.length_le (length_le_width (List.mem_map_of_mem member))
  refine prefix_sharedFrom fits ⟨_, List.mem_map_of_mem member, begins⟩ ?_
  rintro _ member
  obtain ⟨path, among, rfl⟩ := List.mem_map.mp member
  exact leading.along path among

theorem Common.leading (common : Common paths lead) (present : paths ≠ []) :
    Leading paths lead where
  begins := by
    obtain ⟨path, member⟩ := List.exists_mem_of_ne_nil paths present
    exact ⟨path, member, common path member⟩
  along path member := .inl (common path member)

/-- The shared segments that fit into the shortest path are the longest that all begin with. -/
theorem exists_longest_common (present : paths ≠ []) :
    ∃ common, IsLongest (Common paths) common := by
  have leading := leading_shared present
  obtain ⟨least, short⟩ :
      ∃ least, (paths.map fun path => (segments path).length).min? = some least :=
    Option.ne_none_iff_exists'.mp (by simpa using present)
  obtain ⟨reached, below⟩ := List.min?_eq_some_iff.mp short
  obtain ⟨shortest, member, rfl⟩ := List.mem_map.mp reached
  refine ⟨(shared paths).take (segments shortest).length, fun path among => ?_,
    fun other common => ?_⟩
  · have inside := List.take_prefix (segments shortest).length (shared paths)
    rcases leading.along path among with longer | shorter
    · exact inside.trans longer
    · refine List.prefix_of_prefix_length_le inside shorter ?_
      have bound := below _ (List.mem_map_of_mem among)
      rw [List.length_take]
      omega
  · have bound := (common shortest member).length_le
    have shared := (common.leading present).prefix_shared.length_le
    rw [List.length_take]
    omega

/-- Every path has a first segment, so all begin with it if it is shared. -/
theorem ne_nil_of_shared {common : List (List Char)} (present : paths ≠ [])
    (longest : IsLongest (Common paths) common) (some : shared paths ≠ []) : common ≠ [] := by
  obtain ⟨first, rest, spelled⟩ := List.exists_cons_of_ne_nil some
  have all : Common paths [first] := by
    intro path member
    obtain ⟨own, others, begins⟩ := List.exists_cons_of_ne_nil (Text.cut_ne_nil '/' path.toList)
    have along := (leading_shared present).along path member
    rw [GoAlong, spelled, segments, begins, List.cons_prefix_cons, List.cons_prefix_cons] at along
    rw [segments, begins]
    rcases along with ⟨rfl, _⟩ | ⟨rfl, _⟩ <;> simp
  rintro rfl
  simpa using longest.2 _ all

/-- More segments give a longer text. -/
theorem closed_shared_inj {common : List (List Char)} (present : paths ≠ [])
    (longest : IsLongest (Common paths) common) :
    closed (shared paths) = closed common ↔ shared paths = common := by
  refine ⟨fun same => ?_, congrArg closed⟩
  obtain ⟨behind, spelled⟩ := (longest.1.leading present).prefix_shared
  by_contra differ
  have some : behind ≠ [] := by
    rintro rfl
    exact differ (by simpa using spelled.symm)
  have some' : common ≠ [] := ne_nil_of_shared present longest (by simp [← spelled, some])
  have lengths := congrArg String.length same
  rw [closed, closed, ← spelled, Text.join_append some' some] at lengths
  simp at lengths

/-- Some paths are no more than these segments, while the others agree on the next one. -/
def GoesOn (paths : List String) (common : List (List Char)) : Prop :=
  ∃ next, (∃ path ∈ paths, common ++ [next] <+: segments path) ∧
    ∀ path ∈ paths, segments path = common ∨ common ++ [next] <+: segments path

theorem GoesOn.exists_end {common : List (List Char)} (goesOn : GoesOn paths common)
    (longest : IsLongest (Common paths) common) : ∃ path ∈ paths, segments path = common := by
  obtain ⟨next, _, all⟩ := goesOn
  by_contra none
  have longer : Common paths (common ++ [next]) := fun path member =>
    (all path member).resolve_left fun ends => none ⟨path, member, ends⟩
  have bound := longest.2 _ longer
  rw [List.length_append, List.length_singleton] at bound
  omega

theorem shared_eq_iff {common : List (List Char)} (present : paths ≠ [])
    (all : Common paths common) : shared paths = common ↔ ¬ GoesOn paths common := by
  have leading := leading_shared present
  constructor
  · rintro same ⟨next, begins, goOn⟩
    have longer : Leading paths (common ++ [next]) := ⟨begins, fun path member =>
      (goOn path member).elim (fun ends => .inr (ends ▸ List.prefix_append _ _)) .inl⟩
    have bound := longer.prefix_shared.length_le
    rw [same, List.length_append, List.length_singleton] at bound
    omega
  · intro stops
    obtain ⟨behind, spelled⟩ := (all.leading present).prefix_shared
    cases behind with
    | nil => simpa using spelled.symm
    | cons next more =>
      -- The next of the shared segments is what the longer paths agree on.
      have begun : common ++ [next] <+: shared paths := ⟨more, by simp [← spelled]⟩
      obtain ⟨path, member, begins⟩ := leading.begins
      refine absurd ⟨next, ⟨path, member, begun.trans begins⟩, fun path member => ?_⟩ stops
      rcases leading.along path member with longer | shorter
      · exact .inr (begun.trans longer)
      · rcases List.prefix_or_prefix_of_prefix begun shorter with goesOn | ends
        · exact .inr goesOn
        · rcases List.prefix_concat_iff.mp ends with whole | ends
          · exact .inr (whole ▸ List.prefix_rfl)
          · exact .inl (ends.eq_of_length_le (all path member).length_le)

/-- The base is made of the longest segments that one path begins with and that no path leaves. They
are the longest that all paths begin with, unless some paths are no more than these while the others
agree on the next segment. -/
theorem base_longest_iff (paths : List String) (present : paths ≠ []) :
    ∃ lead common, IsLongest (Leading paths) lead ∧ base paths = closed lead ∧
      IsLongest (Common paths) common ∧
      (base paths = closed common ↔ ¬ GoesOn paths common) := by
  obtain ⟨common, longest⟩ := exists_longest_common present
  have lead : IsLongest (Leading paths) (shared paths) :=
    ⟨leading_shared present, fun other leading => leading.prefix_shared.length_le⟩
  refine ⟨shared paths, common, lead, rfl, longest, ?_⟩
  exact (closed_shared_inj present longest).trans (shared_eq_iff present longest.1)

/-- No path ends where these paths part. -/
theorem base_of_siblings :
    let paths := ["/api/users", "/api/pets"]
    paths ≠ [] ∧ ∃ common, IsLongest (Common paths) common ∧ base paths = closed common := by
  intro paths
  obtain ⟨_, common, _, _, longest, same⟩ := base_longest_iff paths (by decide)
  refine ⟨by decide, common, longest, same.mpr fun goesOn => ?_⟩
  obtain ⟨path, member, rfl⟩ := goesOn.exists_end longest
  have apart : ¬ segments "/api/users" <+: segments "/api/pets" ∧
      ¬ segments "/api/pets" <+: segments "/api/users" := by decide
  rcases List.mem_pair.mp member with rfl | rfl
  · exact apart.1 (longest.1 "/api/pets" (by decide))
  · exact apart.2 (longest.1 "/api/users" (by decide))

/-- The longer path alone decides what is shared behind the end of the shorter one. -/
theorem base_of_nested :
    let paths := ["/users", "/users/orders"]
    let common := ["".toList, "users".toList]
    IsLongest (Common paths) common ∧ closed common = "/users/" ∧
      base paths = "/users/orders/" := by
  intro paths common
  have all : ∀ path ∈ paths, common <+: segments path := by decide
  refine ⟨⟨all, fun other begins => ?_⟩, by decide, by decide⟩
  exact (begins "/users" List.mem_cons_self).length_le

end ApiBindings.SharedSegments
