import ApiBindings.Reference.Pointer

/-!
# Following references

A reference is followed to the node it points to, which may be a reference again. A chain never
takes the same pointer twice: the second time is a cycle. Every pointer after the first is one
of the document, so the number of pointers of the document that are not yet in the chain gets
smaller with each step, and following ends.
-/
namespace ApiBindings.Reference

theorem filter_notMem_append_lt (pointers chain : List String) (pointer : String)
    (known : pointer ∈ pointers) (fresh : pointer ∉ chain) :
    (pointers.filter (· ∉ chain ++ [pointer])).length < (pointers.filter (· ∉ chain)).length := by
  have thinned : pointers.filter (· ∉ chain ++ [pointer])
      = (pointers.filter (· ∉ chain)).filter (· ≠ pointer) := by
    rw [List.filter_filter]
    congr 1
    funext other
    by_cases inChain : other ∈ chain <;> by_cases same : other = pointer <;>
      simp [inChain, same]
  rw [thinned]
  have member : pointer ∈ pointers.filter (· ∉ chain) := by simp [known, fresh]
  exact List.length_filter_lt_length_iff_exists.mpr ⟨pointer, member, by simp⟩

/-- Follows a pointer that closes the chain of pointers followed so far. -/
def follow (document : Node) (chain : List String) (pointer : String) : Except Failure Located :=
  match _walked : Pointer.walk document pointer with
  | .error failure => .error failure
  | .ok target =>
    match _refers : target.node.localReference? with
    | none => .ok target
    | some next =>
      if _seen : next ∈ chain then .error (.cyclic next chain)
      else follow document (chain ++ [next]) next
termination_by (document.references.filter (· ∉ chain)).length
decreasing_by
  exact filter_notMem_append_lt document.references chain next
    (Pointer.references_subset_of_walk document pointer target _walked
      (Node.mem_references_of_localReference? target.node next _refers)) _seen

/-- The node that a node stands for: itself, unless it refers into the document. -/
def target (document : Node) (located : Located) : Except Failure Located :=
  match located.node.localReference? with
  | none => .ok located
  | some pointer => follow document [pointer] pointer

/-- As `target`, with a remark when the end of the chain refers out of the document. -/
def resolve (document : Node) (located : Located) : Attempt Located := do
  match target document located with
  | .error failure => throw failure
  | .ok reached =>
    match reached.node.externalReference? with
    | some reference => Noted.remark (.externalReference reference)
    | none => pure ()
    return reached

/-- The node that a node outside of the document stands for. -/
def resolveNode (document node : Node) : Attempt Node :=
  return (← resolve document (Located.outside node)).node

/-- The last part of a reference. -/
def name? (node : Node) : Option String :=
  ((node.get? "$ref").bind Node.text?).map fun reference =>
    String.ofList (Text.lastPiece '/' reference.toList)

end ApiBindings.Reference

namespace ApiBindings.Document

/-- The component schemas of a document. -/
def schemas (document : Node) : Except Misfit Members := do
  let components ← document.ask "components"
  let schemas ← if components.isPresent then components.ask "schemas" else pure .null
  if schemas.isPresent then schemas.pairs else return []

/-- The component schema of a name. -/
def schema? (document : Node) (name : String) : Except Misfit (Option Node) :=
  return (← schemas document).get? name

end ApiBindings.Document
