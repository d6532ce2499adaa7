import ApiBindings.Proofs.Reference.Escape
import ApiBindings.Proofs.Reference.Places
import ApiBindings.Proofs.Reference.Position

/-!
# Written pointers

Whatever stands in a document has a pointer: keys are escaped and positions are written in decimal.
No slash is left in a written step, so the pointer is divided into the steps again, and walking it
leads back to the node it was written for. Only an empty key cannot be written, since empty steps
are passed over.
-/
namespace ApiBindings

namespace Step

/-- The text of a step as a walk reads it. -/
def part : Step → List Char
  | .key name => name.toList
  | .index position => Nat.toDigits 10 position

/-- A step as it is written in a pointer. -/
def written : Step → List Char
  | .key name => Pointer.escape name.toList
  | .index position => Nat.toDigits 10 position

/-- A step that is not passed over. -/
def IsNamed : Step → Prop
  | .key name => name ≠ ""
  | .index _ => True

/-- A step that can be read back. A position is one unless it has too many digits, and no list in
memory is as long as that. -/
def IsReadable : Step → Prop
  | .key _ => True
  | .index position => position < 10 ^ digitLimit

theorem notMem_toDigits {c : Char} (other : c.isDigit = false) (position : Nat) :
    c ∉ Nat.toDigits 10 position := by
  intro member
  have digit := Nat.isDigit_of_mem_toDigits (by decide) (by decide) member
  simp [other] at digit

theorem slash_notMem_written (step : Step) : '/' ∉ step.written := by
  cases step with
  | key name => exact Pointer.slash_notMem_escape _
  | index position => exact notMem_toDigits rfl position

theorem written_ne_nil {step : Step} (named : step.IsNamed) : step.written ≠ [] := by
  cases step with
  | key name =>
    have some : name ≠ "" := named
    exact Pointer.escape_ne_nil (by simpa using some)
  | index position => exact Nat.toDigits_ne_nil

theorem unescape_written (step : Step) : Pointer.unescape step.written = step.part := by
  cases step with
  | key name => exact Pointer.unescape_escape _
  | index position =>
    -- Digits need no escape, so they are what they would be written as.
    have plain := Pointer.escape_of_notMem (notMem_toDigits rfl position)
      (notMem_toDigits (c := '/') rfl position)
    rw [written, part, ← plain, Pointer.unescape_escape, plain]

end Step

namespace Pointer

/-- The pointer that is written for steps from the root of a document. -/
def ofSteps (steps : List Step) : String :=
  String.ofList ('#' :: steps.flatMap fun step => '/' :: step.written)

theorem cut_written (steps : List Step) (first : List Char) (whole : '/' ∉ first) :
    Text.cut '/' (first ++ steps.flatMap fun step => '/' :: step.written) =
      first :: steps.map Step.written := by
  induction steps generalizing first with
  | nil => simp [Text.cut_of_notMem whole]
  | cons step rest ih =>
    rw [List.flatMap_cons, List.cons_append, Text.cut_append whole,
      ih _ step.slash_notMem_written, List.map_cons]

/-- A written pointer is divided into the steps it was written for. -/
theorem parts_ofSteps {steps : List Step} (named : ∀ step ∈ steps, step.IsNamed) :
    parts (ofSteps steps) = steps.map Step.part := by
  have divided : Text.cut '/' ((ofSteps steps).toList.drop 1) = [] :: steps.map Step.written := by
    rw [ofSteps, String.toList_ofList, List.drop_one, List.tail_cons]
    exact cut_written steps [] (by simp)
  have kept : ([] :: steps.map Step.written).filter (· ≠ []) = steps.map Step.written := by
    rw [List.filter_cons_of_neg (by simp), List.filter_eq_self]
    intro part member
    obtain ⟨step, among, rfl⟩ := List.mem_map.mp member
    simpa using step.written_ne_nil (named step among)
  rw [parts, divided, kept, List.map_map]
  exact List.map_congr_left fun step _ => step.unescape_written

/-- A step is made from the node it stands below, if it can be read. -/
theorem step_part {current : Located} {made : Step} {node : Node}
    (held : current.node.at? [made] = some node) :
    (made.IsReadable → step current made.part =
        .ok (some ⟨current.inDocument, current.steps ++ [made], node⟩)) ∧
      (¬ made.IsReadable → ∃ reason, step current made.part = .error reason) := by
  cases made with
  | key name =>
    obtain ⟨value, found, same⟩ := Option.bind_eq_some_iff.mp held
    obtain rfl := Option.some.inj same
    obtain ⟨members, isMembers, found⟩ := Option.bind_eq_some_iff.mp found
    have isObject := Node.members?_eq_some.mp isMembers
    refine ⟨fun _ => ?_, fun unreadable => absurd trivial unreadable⟩
    simp [step, isObject, Step.part, found]
  | index position =>
    cases isList : current.node with
    | list items =>
      rw [isList] at held
      obtain ⟨value, found, same⟩ := Option.bind_eq_some_iff.mp held
      obtain rfl := Option.some.inj same
      -- An index is read back from its digits, if there are not too many of them.
      have read := position?_toDigits position
      refine ⟨fun readable => ?_, fun unreadable => ?_⟩
      · have short : position < 10 ^ digitLimit := readable
        rw [if_pos short] at read
        simp [step, isList, Step.part, read, found, bind, Except.bind, pure, Except.pure]
      · have long : ¬ position < 10 ^ digitLimit := unreadable
        rw [if_neg long] at read
        refine ⟨.tooManyDigits (Nat.toDigits 10 position).length, ?_⟩
        simp only [step, isList, Step.part, read, bind, Except.bind]
    | _ => simp [isList, Node.at?] at held

/-- Walking the steps to a node leads to it exactly if each step can be read. -/
theorem walkFrom_parts_iff (pointer : String) (current : Located) {steps : List Step} {node : Node}
    (found : current.node.at? steps = some node) :
    walkFrom pointer current (steps.map Step.part) =
        .ok ⟨current.inDocument, current.steps ++ steps, node⟩ ↔
      ∀ step ∈ steps, step.IsReadable := by
  induction steps generalizing current with
  | nil =>
    obtain rfl := Option.some.inj found
    simp [walkFrom]
  | cons made rest ih =>
    rw [← List.singleton_append, Node.at?_append] at found
    obtain ⟨next, held, below⟩ := Option.bind_eq_some_iff.mp found
    obtain ⟨goesOn, stops⟩ := step_part held
    rw [List.map_cons, walkFrom, List.forall_mem_cons]
    by_cases readable : made.IsReadable
    · rw [goesOn readable]
      simpa [readable] using ih ⟨current.inDocument, current.steps ++ [made], next⟩ below
    · obtain ⟨reason, stuck⟩ := stops readable
      simp [stuck, readable]

theorem walk_ok_iff {document : Node} {pointer : String} {target : Located} :
    walk document pointer = .ok target ↔
      target.node ≠ .null ∧
        walkFrom pointer (Located.root document) (parts pointer) = .ok target := by
  unfold walk
  split
  · rename_i failed
    simp [failed]
  · rename_i reached walked
    rw [walked]
    split
    · rename_i empty
      simp only [reduceCtorEq, Except.ok.injEq, false_iff, not_and]
      rintro present rfl
      exact present empty
    · rename_i present
      simp only [Except.ok.injEq]
      exact ⟨fun same => ⟨same ▸ present, same⟩, fun ⟨_, same⟩ => same⟩

/-- The pointer written for a node of a document leads to exactly this node, unless it is null. The
one other exception is a position with more digits than are read, for which a list would have to
hold more items than any memory does. -/
theorem walk_ofSteps_iff {document node : Node} {steps : List Step}
    (named : ∀ step ∈ steps, step.IsNamed) (found : document.at? steps = some node) :
    walk document (ofSteps steps) = .ok ⟨true, steps, node⟩ ↔
      node ≠ .null ∧ ∀ step ∈ steps, step.IsReadable := by
  rw [walk_ok_iff, parts_ofSteps named]
  exact and_congr_right fun _ => walkFrom_parts_iff (ofSteps steps) (Located.root document) found

/-- A key with both characters that are escaped, above a list that holds an object. -/
def escapedKeys : Node :=
  .object [(.text "a/b~1", .list [.null, .object [(.text "", .bool true), (.text "~01", .int 5)]])]

theorem walk_ofSteps_escapedKeys :
    ofSteps [.key "a/b~1", .index 1, .key "~01"] = "#/a~1b~01/1/~001" ∧
    (∀ step ∈ [Step.key "a/b~1", .index 1, .key "~01"], step.IsNamed) ∧
    escapedKeys.at? [.key "a/b~1", .index 1, .key "~01"] = some (.int 5) ∧
    walk escapedKeys (ofSteps [.key "a/b~1", .index 1, .key "~01"]) =
      .ok ⟨true, [.key "a/b~1", .index 1, .key "~01"], .int 5⟩ := by
  have named : ∀ step ∈ [Step.key "a/b~1", .index 1, .key "~01"], step.IsNamed := by
    simp [Step.IsNamed]
  have found : escapedKeys.at? [.key "a/b~1", .index 1, .key "~01"] = some (.int 5) := rfl
  have second : 1 < 10 ^ digitLimit := Nat.one_lt_pow (by decide) (by decide)
  have short : ∀ step ∈ [Step.key "a/b~1", .index 1, .key "~01"], step.IsReadable := by
    simp [Step.IsReadable, second]
  exact ⟨by decide +kernel, named, found, (walk_ofSteps_iff named found).mpr ⟨by simp, short⟩⟩

end Pointer

end ApiBindings
