import ApiBindings.Proofs.Document.Members
import ApiBindings.Proofs.Name.FunctionName
import ApiBindings.Proofs.Service.FunctionNames

/-!
# Legal names in a run

A group claims for each operation the file of its function name, and what it gets is this name with
the number of the claim. So the entries of a run have legal names but for those whose operations
are spoilt, and a claim that is not the first mends nothing but a reserved word.
-/
namespace ApiBindings

theorem Document.HasOperation.method {document : Node} {operation : Operation}
    (among : Document.HasOperation document operation) : operation.method ∈ Operation.methods := by
  obtain ⟨operations, listed, member⟩ := among
  obtain ⟨paths, _, rfl⟩ := Document.operations_ok.mp listed
  obtain ⟨_, _, inside⟩ := List.mem_flatMap.mp member
  exact (Operation.mem_ofPath.mp inside).2.2.1

namespace ServiceBuilder

variable {builder : ServiceBuilder}

section

variable [Text.Romanization]

/-- Every entry has the base name of its operation with a number, which is the first if the base
name is empty. -/
theorem BuildsAll.numbered {tag : String} {operations : List Operation} {entries : List Entry}
    (all : builder.BuildsAll tag operations entries) {entry : Entry} (member : entry ∈ entries) :
    ∃ operation ∈ operations, ∃ k, builder.Builds tag operation entry.functionName entry ∧
      1 ≤ k ∧ (builder.baseName operation = "" → k ≤ 1) ∧
      entry.functionName = Registry.numbered (builder.baseName operation) k := by
  obtain ⟨position, placed⟩ := List.mem_iff_getElem?.mp member
  have inside := (List.getElem?_eq_some_iff.mp placed).1
  rw [all.length_eq] at inside
  have given := List.getElem?_eq_getElem inside
  obtain ⟨claimed, builds⟩ := all.builds given placed
  rw [claimedNames, Registry.claimAll_getElem?, List.getElem?_map, given, Option.map_some,
    Option.map_some, Option.some.injEq] at claimed
  refine ⟨operations[position], List.getElem_mem inside, ?_⟩
  by_cases blank : builder.baseName operations[position] = ""
  · refine ⟨1, builds, Nat.le_refl 1, fun _ => Nat.le_refl 1, ?_⟩
    rw [if_pos blank] at claimed
    rw [← claimed, blank]
    rfl
  · rw [if_neg blank] at claimed
    -- The operation itself is counted, so its number is one at least.
    have here : builder.baseName operations[position] ∈
        (operations.map builder.baseName).take (position + 1) := by
      apply List.mem_of_getElem? (i := position)
      rw [List.getElem?_take_of_lt (Nat.lt_succ_self position), List.getElem?_map, given]
      rfl
    have positive := List.one_le_count_iff.mpr here
    exact ⟨_, builds, by omega, fun nothing => absurd nothing blank, claimed.symm⟩

/-- In a run with the default naming, where names are read as word characters, every entry has the
name of an operation with the number of its claim, and the name is legal exactly if the operation is
not spoilt. -/
theorem functionName_legal_iff (words : Text.Romanization.ReadsWords) (builder : ServiceBuilder)
    (groups : List TagGroup) (mappings : List GatewayMapping)
    (default : ∀ operation, Namer.override (builder.namer.hooks.functionOf operation) = none)
    (returned : builder.groups.value = (.ok groups, mappings)) :
    ∀ group ∈ groups, ∀ entry ∈ group.entries, ∃ tag operation k,
      HasFunction builder.document operation ∧
      builder.Builds tag operation entry.functionName entry ∧
      1 ≤ k ∧ entry.functionName = Registry.numbered (builder.baseName operation) k ∧
      (Spelling.Legal entry.functionName ↔ ¬ Namer.Spoilt builder.namer operation k) := by
  intro group among entry member
  obtain ⟨filed, built, collected, all, rfl, _⟩ := groups_ok returned
  obtain ⟨⟨⟨tag, operations⟩, entries⟩, paired, made⟩ := List.mem_filterMap.mp among
  have builds := List.forall₂_zip all paired
  rw [(group?_some made).1] at member
  have known := (List.mem_filter.mp ((sortByPath_perm _).mem_iff.mp member)).1
  obtain ⟨operation, kept, k, made, positive, blank, named⟩ := BuildsAll.numbered builds known
  have has := hasFunction_of_filed collected (List.of_mem_zip paired).1 kept
  refine ⟨tag, operation, k, has, made, positive, named, ?_⟩
  rw [named]
  exact Namer.legal_iff_not_spoilt words has.1.method (default operation) blank

end

/-- Nothing is wrong with an id that is a legal name without separators. -/
theorem functionName_of_removeUser :
    ∃ builder groups mappings,
      create (withOperation "/users" "delete" "removeUser") [] (Settings.ofSource "openapi.json") =
        .ok builder ∧
      builder.groups.value = (.ok groups, mappings) ∧ groups ≠ [] ∧
      ∀ group ∈ groups, ∀ entry ∈ group.entries, Spelling.Legal entry.functionName := by
  let builder := forOperation "/users" "delete" "removeUser"
  let only := onlyOperation "/users" "delete" "removeUser"
  obtain ⟨groups, mappings, returned, present⟩ := exists_groups builder (by decide +kernel)
  refine ⟨builder, groups, mappings, rfl, returned, present, fun group among entry member => ?_⟩
  obtain ⟨tag, operation, k, ⟨has, _⟩, _, _, _, legal⟩ :=
    functionName_legal_iff Text.Romanization.readsWords_examples builder groups mappings
      (fun _ => rfl) returned group among entry member
  have same : operation = only := has.eq_only rfl
  subst same
  have byId {operationId : String}
      (named : Namer.NamedWhole builder.namer only operationId) :
      operationId = "removeUser" := (Option.some.inj named.given).symm
  refine legal.mpr fun spoilt => ?_
  cases spoilt with
  | unread c unread _ =>
    obtain ⟨ideograph, segment, among, _, inSegment⟩ := unread
    have plain : ((builder.namer.segments "/users").all fun segment =>
        (builder.namer.spelled segment).all fun c => !Text.isIdeograph c) = true := by
      decide +kernel
    simp only [List.all_eq_true] at plain
    simpa [ideograph] using plain segment among c inSegment
  | blank operationId named nothing =>
    obtain rfl := byId named
    revert nothing
    decide +kernel
  | digit operationId named start =>
    obtain rfl := byId named
    revert start
    decide +kernel
  | word operationId named reserved _ =>
    obtain rfl := byId named
    revert reserved
    decide +kernel
  | bare tail _ spelled _ _ =>
    have value : (builder.namer.functionName only).value = "removeUser" := by decide +kernel
    rw [value] at spelled
    simpa using congrArg (fun name => name.toList.head?) spelled

/-- The id of this operation is no reserved word until its first letter is lowered. -/
theorem functionName_of_delete :
    ∃ builder groups mappings,
      create (withOperation "/users" "delete" "Delete") [] (Settings.ofSource "openapi.json") =
        .ok builder ∧
      (∀ operation, Namer.override (builder.namer.hooks.functionOf operation) = none) ∧
      builder.groups.value = (.ok groups, mappings) ∧
      ∃ group ∈ groups, ∃ entry ∈ group.entries,
        entry.functionName = "delete" ∧ ¬ Spelling.Legal entry.functionName := by
  let builder := forOperation "/users" "delete" "Delete"
  obtain ⟨groups, mappings, returned, group, among, entry, member, named⟩ :=
    exists_entry builder (fun entry => entry.functionName == "delete") (by decide +kernel)
  have named : entry.functionName = "delete" := by simpa using named
  refine ⟨builder, groups, mappings, rfl, fun _ => rfl, returned, group, among, entry, member,
    named, fun legal => ?_⟩
  have free := legal.unreserved
  rw [named] at free
  revert free
  decide

end ServiceBuilder

end ApiBindings
