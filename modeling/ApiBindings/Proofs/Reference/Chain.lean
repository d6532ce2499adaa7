import ApiBindings.Reference.Resolution
import ApiBindings.Proofs.Outcome
import Mathlib.Data.List.Dedup
import Mathlib.Data.List.Perm.Subperm

/-!
# Chains of references

From every node one chain of pointers leads on: the node's own pointer, that of the node it
leads to, and so on. Resolving goes along this chain for as long as no pointer comes twice. It
ends at a node without a local pointer, at a pointer that is in the chain already, or at one
that cannot be walked, and the chain it took decides which. Every pointer behind the first one
is written in the document, so no chain of distinct pointers is longer than the document allows.
-/
namespace ApiBindings.Reference

/-- The pointers that lead from one node to another, in the order in which they are taken. -/
inductive Follows (document : Node) : Located → List String → Located → Prop
  | here (located : Located) : Follows document located [] located
  | next {located target reached : Located} {pointer : String} {rest : List String}
      (refers : located.node.localReference? = some pointer)
      (walked : Pointer.walk document pointer = .ok target)
      (onwards : Follows document target rest reached) :
      Follows document located (pointer :: rest) reached

/-- How resolving ends at the last node of a chain. -/
inductive Ends (document : Node) (pointers : List String) (last : Located) :
    Except Failure Located → Prop
  | concrete (free : last.node.localReference? = none) : Ends document pointers last (.ok last)
  | again {pointer : String} (refers : last.node.localReference? = some pointer)
      (seen : pointer ∈ pointers) :
      Ends document pointers last (.error (.cyclic pointer pointers))
  | broken {pointer : String} {failure : Failure}
      (refers : last.node.localReference? = some pointer) (fresh : pointer ∉ pointers)
      (stuck : Pointer.walk document pointer = .error failure) :
      Ends document pointers last (.error failure)

/-- Two chains from one node go the same way, so the longer one continues the shorter. -/
theorem Follows.compare {document : Node} {start one other : Located} {short long : List String}
    (first : Follows document start short one) (second : Follows document start long other) :
    (∃ more, long = short ++ more ∧ Follows document one more other) ∨
      ∃ more, short = long ++ more ∧ Follows document other more one := by
  -- Both chains read their next pointer off the same node, so they part only where one ends.
  induction first generalizing long with
  | here located => exact Or.inl ⟨long, rfl, second⟩
  | @next located target reached pointer rest refers walked onwards ih =>
    cases second with
    | here => exact Or.inr ⟨_, rfl, .next refers walked onwards⟩
    | @next _ target' _ pointer' rest' refers' walked' onwards' =>
      obtain rfl : pointer = pointer' := Option.some.inj (refers.symm.trans refers')
      obtain rfl : target = target' := Except.ok.inj (walked.symm.trans walked')
      rcases ih onwards' with ⟨more, equal, further⟩ | ⟨more, equal, further⟩
      · exact Or.inl ⟨more, by rw [equal, List.cons_append], further⟩
      · exact Or.inr ⟨more, by rw [equal, List.cons_append], further⟩

/-- No chain of distinct pointers goes on behind a node at which resolving ends. -/
theorem Ends.last_of_follows {document : Node} {last other : Located}
    {pointers more : List String} {result : Except Failure Located}
    (ends : Ends document pointers last result) (onwards : Follows document last more other)
    (distinct : (pointers ++ more).Nodup) : more = [] ∧ last = other := by
  cases onwards with
  | here => exact ⟨rfl, rfl⟩
  | @next _ target _ pointer rest refers walked onwards =>
    -- Every way to end contradicts a step: the pointer is missing, comes twice, or is stuck.
    exfalso
    cases ends with
    | concrete free => simp [free] at refers
    | @again pointer' refers' seen =>
      obtain rfl : pointer = pointer' := Option.some.inj (refers.symm.trans refers')
      exact (List.disjoint_of_nodup_append distinct) seen (by simp)
    | @broken pointer' failure refers' fresh stuck =>
      obtain rfl : pointer = pointer' := Option.some.inj (refers.symm.trans refers')
      simp [walked] at stuck

theorem walk_ne_cyclic (document : Node) (pointer other : String) (chain : List String) :
    Pointer.walk document pointer ≠ .error (.cyclic other chain) := by
  -- A walk fails only with failures that name its own pointer, part by part.
  have fromOn (parts : List (List Char)) (current : Located) :
      Pointer.walkFrom pointer current parts ≠ .error (.cyclic other chain) := by
    induction parts generalizing current with
    | nil => simp [Pointer.walkFrom]
    | cons part rest ih =>
      simp only [Pointer.walkFrom]
      split
      · exact ih _
      · simp
      · simp
  unfold Pointer.walk
  split
  · rename_i failure failed
    exact fun same => fromOn _ _ (failed.trans same)
  · split <;> simp

theorem Ends.unique {document : Node} {last : Located} {pointers : List String}
    {one other : Except Failure Located} (first : Ends document pointers last one)
    (second : Ends document pointers last other) : one = other := by
  cases first <;> cases second <;> simp_all

/-- What comes out of a chain of distinct pointers is decided by where it ends. -/
theorem Ends.determined {document : Node} {start one other : Located} {short long : List String}
    {result result' : Except Failure Located}
    (first : Follows document start short one) (distinct : short.Nodup)
    (ends : Ends document short one result)
    (second : Follows document start long other) (distinct' : long.Nodup)
    (ends' : Ends document long other result') :
    short = long ∧ one = other ∧ result = result' := by
  have meet : short = long ∧ one = other := by
    -- Whichever chain is longer, nothing follows the end of the shorter one.
    rcases first.compare second with ⟨more, rfl, onwards⟩ | ⟨more, rfl, onwards⟩
    · obtain ⟨rfl, rfl⟩ := ends.last_of_follows onwards distinct'
      exact ⟨by simp, rfl⟩
    · obtain ⟨rfl, rfl⟩ := ends'.last_of_follows onwards distinct
      exact ⟨by simp, rfl⟩
  obtain ⟨rfl, rfl⟩ := meet
  exact ⟨rfl, rfl, ends.unique ends'⟩

/-- Following a pointer behind a chain of distinct ones takes a chain to its end. -/
theorem follow_ends (document : Node) (chain : List String) (pointer : String)
    (distinct : chain.Nodup) :
    (∃ failure, Pointer.walk document pointer = .error failure ∧
      follow document chain pointer = .error failure) ∨
    ∃ target rest last, Pointer.walk document pointer = .ok target ∧
      Follows document target rest last ∧ (chain ++ rest).Nodup ∧
      Ends document (chain ++ rest) last (follow document chain pointer) := by
  fun_induction follow document chain pointer with
  | case1 chain pointer failure stuck => exact Or.inl ⟨failure, stuck, rfl⟩
  | case2 chain pointer target walked free =>
    exact Or.inr ⟨target, [], target, walked, .here target, by simpa using distinct,
      by simpa using .concrete free⟩
  | case3 chain pointer target walked next refers seen =>
    refine Or.inr ⟨target, [], target, walked, .here target, by simpa using distinct, ?_⟩
    simpa using Ends.again refers seen
  | case4 chain pointer target walked next refers fresh ih =>
    have longer : (chain ++ [next]).Nodup := by
      simpa [List.nodup_append, distinct] using
        fun other member => ne_of_mem_of_not_mem member fresh
    rcases ih longer with
      ⟨failure, stuck, result⟩ | ⟨target', rest, last, walked', onwards, all, ends⟩
    · -- The next pointer is stuck, so the chain ends at the node that holds it.
      refine Or.inr ⟨target, [], target, walked, .here target, by simpa using distinct, ?_⟩
      rw [result]
      simpa using Ends.broken refers fresh stuck
    · refine Or.inr ⟨target, next :: rest, last, walked, .next refers walked' onwards, ?_, ?_⟩
      · simpa using all
      · simpa using ends

/-- Every resolution takes a chain of distinct pointers to its end. -/
theorem target_ends (document : Node) (located : Located) :
    ∃ pointers last, pointers.Nodup ∧ Follows document located pointers last ∧
      Ends document pointers last (target document located) := by
  unfold target
  split
  · rename_i free
    exact ⟨[], located, List.nodup_nil, .here located, .concrete free⟩
  · rename_i pointer refers
    rcases follow_ends document [pointer] pointer (by simp) with
      ⟨failure, stuck, result⟩ | ⟨target, rest, last, walked, onwards, distinct, ends⟩
    · refine ⟨[], located, List.nodup_nil, .here located, ?_⟩
      rw [result]
      exact .broken refers (by simp) stuck
    · exact ⟨pointer :: rest, last, distinct, .next refers walked onwards, ends⟩

theorem target_of_ends {document : Node} {located last : Located} {pointers : List String}
    {result : Except Failure Located} (distinct : pointers.Nodup)
    (follows : Follows document located pointers last)
    (ends : Ends document pointers last result) : target document located = result := by
  obtain ⟨pointers', last', distinct', follows', ends'⟩ := target_ends document located
  exact (ends'.determined follows' distinct' follows distinct ends).2.2

theorem target_ok_iff (document : Node) (located reached : Located) :
    target document located = .ok reached ↔
      reached.node.localReference? = none ∧
        ∃ pointers, pointers.Nodup ∧ Follows document located pointers reached := by
  constructor
  · intro resolved
    obtain ⟨pointers, last, distinct, follows, ends⟩ := target_ends document located
    rw [resolved] at ends
    cases ends with
    | concrete free => exact ⟨free, pointers, distinct, follows⟩
  · rintro ⟨free, pointers, distinct, follows⟩
    exact target_of_ends distinct follows (.concrete free)

theorem target_cyclic_iff (document : Node) (located : Located) (pointer : String)
    (chain : List String) :
    target document located = .error (.cyclic pointer chain) ↔
      chain.Nodup ∧ pointer ∈ chain ∧
        ∃ last, Follows document located chain last ∧
          last.node.localReference? = some pointer := by
  constructor
  · intro failed
    obtain ⟨pointers, last, distinct, follows, ends⟩ := target_ends document located
    rw [failed] at ends
    cases ends with
    | again refers seen => exact ⟨distinct, seen, last, follows, refers⟩
    | broken refers fresh stuck => exact absurd stuck (walk_ne_cyclic document _ pointer chain)
  · rintro ⟨distinct, seen, last, follows, refers⟩
    exact target_of_ends distinct follows (.again refers seen)

/-- The pointers behind the first one are written at places that the document holds. -/
theorem Follows.tail_subset {document : Node} {located reached : Located} {pointers : List String}
    (follows : Follows document located pointers reached) :
    pointers.tail ⊆ document.references := by
  -- Walking leads to nodes of the document; only the first node may be from elsewhere.
  have written {start last : Located} {chain : List String}
      (follows : Follows document start chain last)
      (inside : start.node.references ⊆ document.references) : chain ⊆ document.references := by
    induction follows with
    | here => simp
    | @next located target reached pointer rest refers walked onwards ih =>
      have here := inside (Node.mem_references_of_localReference? _ pointer refers)
      have behind := ih (Pointer.references_subset_of_walk document pointer target walked)
      exact List.cons_subset.mpr ⟨here, behind⟩
  cases follows with
  | here => simp
  | next refers walked onwards =>
    exact written onwards (Pointer.references_subset_of_walk document _ _ walked)

theorem Follows.length_le {document : Node} {located reached : Located} {pointers : List String}
    (follows : Follows document located pointers reached) (distinct : pointers.Nodup) :
    pointers.length ≤ document.references.dedup.length + 1 := by
  have known : pointers.tail ⊆ document.references.dedup := fun pointer member =>
    List.mem_dedup.mpr (follows.tail_subset member)
  have fewer := (distinct.tail.subperm known).length_le
  rw [List.length_tail] at fewer
  omega

/-- The remark about an external reference leaves the outcome as it is. -/
theorem outcome_resolve (document : Node) (located : Located) :
    (resolve document located).outcome = target document located := by
  unfold resolve
  cases target document located with
  | error failure => rfl
  | ok reached =>
    dsimp only
    cases reached.node.externalReference? <;> rfl

/-- Resolving a node gives what the chain of pointers from it leads to, and that node resolves
to itself. It fails with a cycle exactly when the chain comes back to one of its pointers, and
tells the chain up to there; any other failure is that of a pointer that cannot be walked. The
chain takes at most one pointer more than the document has different ones. -/
theorem resolve_outcomes (document : Node) (located : Located) :
    (∀ reached, (resolve document located).outcome = .ok reached ↔
      reached.node.localReference? = none ∧
        ∃ pointers, pointers.Nodup ∧ Follows document located pointers reached) ∧
    (∀ reached, (resolve document located).outcome = .ok reached →
      (resolve document reached).outcome = .ok reached) ∧
    (∀ pointer chain, (resolve document located).outcome = .error (.cyclic pointer chain) ↔
      chain.Nodup ∧ pointer ∈ chain ∧
        ∃ last, Follows document located chain last ∧
          last.node.localReference? = some pointer) ∧
    (∀ failure, (∀ pointer chain, failure ≠ .cyclic pointer chain) →
      ((resolve document located).outcome = .error failure ↔
        ∃ pointers last pointer, pointers.Nodup ∧ pointer ∉ pointers ∧
          Follows document located pointers last ∧
          last.node.localReference? = some pointer ∧
          Pointer.walk document pointer = .error failure)) ∧
    (∀ pointers reached, Follows document located pointers reached → pointers.Nodup →
      pointers.length ≤ document.references.dedup.length + 1) := by
  simp only [outcome_resolve]
  refine ⟨target_ok_iff document located, ?_, target_cyclic_iff document located, ?_,
    fun pointers reached follows distinct => follows.length_le distinct⟩
  · intro reached resolved
    have free := ((target_ok_iff document located reached).mp resolved).1
    exact target_of_ends List.nodup_nil (.here reached) (.concrete free)
  · -- A chain ends in one way only, so an end that is shown is the end that was met.
    intro failure other
    constructor
    · intro failed
      obtain ⟨pointers, last, distinct, follows, ends⟩ := target_ends document located
      rw [failed] at ends
      cases ends with
      | @again pointer refers seen => exact absurd rfl (other pointer pointers)
      | @broken pointer _ refers fresh stuck =>
        exact ⟨pointers, last, pointer, distinct, fresh, follows, refers, stuck⟩
    · rintro ⟨pointers, last, pointer, distinct, fresh, follows, refers, stuck⟩
      exact target_of_ends distinct follows (.broken refers fresh stuck)

end ApiBindings.Reference
