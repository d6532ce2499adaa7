import ApiBindings.Noted
import ApiBindings.Reference.Place
import ApiBindings.Text.Class

/-!
# Pointers into a document

A pointer starts with `#` and names a node by the keys and positions on the way to it, each
after a slash; `~1` stands for a slash and `~0` for a tilde. Empty steps are passed over. A
walk keeps the place it has reached, so that two walks to one node are known to meet. What a
walk reaches is part of the document, which is stated here by the references it holds.
-/
namespace ApiBindings

namespace Pointer

/-- The text between two slashes with its two escapes undone. -/
def unescape (part : List Char) : List Char :=
  Text.replaceAll ['~', '0'] ['~'] (Text.replaceAll ['~', '1'] ['/'] part)

/-- A key as it is written in a pointer. -/
def escape (key : List Char) : List Char :=
  Text.replaceAll ['/'] ['~', '1'] (Text.replaceAll ['~'] ['~', '0'] key)

/-- The steps of a pointer, as text. -/
def parts (pointer : String) : List (List Char) :=
  ((Text.cut '/' (pointer.toList.drop 1)).filter (· ≠ [])).map unescape

/-- The number written by decimal digits of any script. -/
def number? (digits : List Char) : Option Nat :=
  digits.foldlM (fun value c => (Text.decimalValue? c).map (10 * value + ·)) 0

/-- A part as a position: digits only, each of which has to have a decimal value. -/
def position? (part : List Char) : Except Misfit (Option Nat) :=
  if part.isEmpty || !part.all Text.isDigit then .ok none
  else if part.length > digitLimit then .error (.tooManyDigits part.length)
  else match number? part with
    | some position => .ok (some position)
    | none => .error (.notDecimal (String.ofList part))

/-- The node one step below another. -/
def step (current : Located) (part : List Char) : Except Misfit (Option Located) :=
  match current.node with
  | .object members =>
    .ok ((Members.get? members (String.ofList part)).map fun node =>
      ⟨current.inDocument, current.steps ++ [.key (String.ofList part)], node⟩)
  | .list items => do
    match ← position? part with
    | some position =>
      return items[position]?.map fun node =>
        ⟨current.inDocument, current.steps ++ [.index position], node⟩
    | none => return none
  | .scalar _ => .ok none

/-- Follows the parts of a pointer from a node on. -/
def walkFrom (pointer : String) : Located → List (List Char) → Except Failure Located
  | current, [] => .ok current
  | current, part :: rest =>
    match step current part with
    | .ok (some next) => walkFrom pointer next rest
    | .ok none =>
      .error (.unresolved pointer (some ("'" ++ String.ofList part ++ "' not found")))
    | .error reason => .error (.misfit reason)

/-- The node a pointer leads to; null is no node. -/
def walk (document : Node) (pointer : String) : Except Failure Located :=
  match walkFrom pointer (Located.root document) (parts pointer) with
  | .error failure => .error failure
  | .ok target =>
    if target.node = .null then .error (.unresolved pointer (some "points to an empty node"))
    else .ok target

end Pointer

namespace Node

/-- The pointer of a node that refers into the document. -/
def localReference? (node : Node) : Option String :=
  ((node.get? "$ref").bind Node.text?).filter fun pointer => pointer.toList.head? = some '#'

/-- What a node refers to outside of the document. -/
def externalReference? (node : Node) : Option Node :=
  if node.localReference?.isSome then none else (node.get? "$ref").filter Node.isPresent

mutual

/-- All pointers in a node, with repetitions. -/
def references : Node → List String
  | .scalar _ => []
  | .list items => referencesOfItems items
  | .object members =>
    (Node.object members).localReference?.toList ++ referencesOfMembers members

def referencesOfItems : List Node → List String
  | [] => []
  | item :: rest => item.references ++ referencesOfItems rest

def referencesOfMembers : List (Scalar × Node) → List String
  | [] => []
  | (_, value) :: rest => value.references ++ referencesOfMembers rest

end

theorem references_subset_of_member (members : List (Scalar × Node)) (key : String)
    (value : Node) (found : Members.get? members key = some value) :
    value.references ⊆ referencesOfMembers members := by
  induction members with
  | nil => simp [Members.get?] at found
  | cons member rest ih =>
    obtain ⟨name, node⟩ := member
    simp only [Members.get?, List.find?_cons] at found
    intro pointer inside
    simp only [referencesOfMembers, List.mem_append]
    split at found
    · simp only [Option.map_some, Option.some.injEq] at found
      subst found
      exact Or.inl inside
    · exact Or.inr (ih found inside)

theorem references_subset_of_item (items : List Node) (position : Nat) (item : Node)
    (found : items[position]? = some item) :
    item.references ⊆ referencesOfItems items := by
  induction items generalizing position with
  | nil => simp at found
  | cons first rest ih =>
    intro pointer inside
    simp only [referencesOfItems, List.mem_append]
    cases position with
    | zero =>
      simp only [List.getElem?_cons_zero, Option.some.injEq] at found
      subst found
      exact Or.inl inside
    | succ position =>
      simp only [List.getElem?_cons_succ] at found
      exact Or.inr (ih position found inside)

theorem mem_references_of_localReference? (node : Node) (pointer : String)
    (refers : node.localReference? = some pointer) : pointer ∈ node.references := by
  cases node with
  | scalar value => simp [localReference?, get?, members?] at refers
  | list items => simp [localReference?, get?, members?] at refers
  | object members => simp [references, refers]

end Node

namespace Pointer

theorem references_subset_of_step (current next : Located) (part : List Char)
    (stepped : step current part = .ok (some next)) :
    next.node.references ⊆ current.node.references := by
  unfold step at stepped
  split at stepped
  · rename_i members isObject
    simp only [Except.ok.injEq, Option.map_eq_some_iff] at stepped
    obtain ⟨node, found, rfl⟩ := stepped
    rw [isObject]
    simp only [Node.references]
    exact List.subset_append_of_subset_right _
      (Node.references_subset_of_member members _ node found)
  · rename_i items isList
    simp only [bind, Except.bind] at stepped
    split at stepped
    · simp at stepped
    · split at stepped
      · rename_i position _
        simp only [pure, Except.pure, Except.ok.injEq, Option.map_eq_some_iff] at stepped
        obtain ⟨node, found, rfl⟩ := stepped
        rw [isList]
        simp only [Node.references]
        exact Node.references_subset_of_item items position node found
      · simp [pure, Except.pure] at stepped
  · simp at stepped

theorem references_subset_of_walkFrom (pointer : String) (remaining : List (List Char))
    (current target : Located) (walked : walkFrom pointer current remaining = .ok target) :
    target.node.references ⊆ current.node.references := by
  induction remaining generalizing current with
  | nil =>
    simp only [walkFrom, Except.ok.injEq] at walked
    subst walked
    exact fun _ inside => inside
  | cons part rest ih =>
    simp only [walkFrom] at walked
    split at walked
    · rename_i next stepped
      exact fun _ inside =>
        references_subset_of_step current next part stepped (ih next walked inside)
    · simp at walked
    · simp at walked

/-- A walk reaches only references of the document. -/
theorem references_subset_of_walk (document : Node) (pointer : String) (target : Located)
    (walked : walk document pointer = .ok target) :
    target.node.references ⊆ document.references := by
  simp only [walk] at walked
  split at walked
  · simp at walked
  · rename_i reached found
    split at walked
    · simp at walked
    · simp only [Except.ok.injEq] at walked
      subst walked
      exact references_subset_of_walkFrom pointer _ _ _ found

end Pointer

end ApiBindings
