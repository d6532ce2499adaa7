import ApiBindings.Proofs.FailureKinds
import ApiBindings.Proofs.Text.Romanization

/-!
# Entries that were not built

References are followed while the parts of an operation are read. A name is claimed and an alias
recorded only when that is done, and nothing behind it follows a reference. So an entry that fails
for a reference leaves everything as it was, and whoever goes on with the same registry and the same
aliases gets what would have come without it.
-/
namespace ApiBindings.ServiceBuilder

variable (builder : ServiceBuilder)

section

variable [Text.Romanization]

/-- An entry that fails for a reference fails before a name is claimed. -/
theorem entry_unresolved {tag : String} {operation : Operation} {progress after : Progress}
    {failure : Failure}
    (failed : (builder.entry tag operation progress).value = (.error failure, after))
    (unresolved : failure.isResolution = true) :
    (builder.parts operation).outcome = .error failure ∧ after = progress := by
  rw [entry_value] at failed
  split at failed
  · rename_i earlier read
    obtain ⟨same, kept⟩ := Prod.mk.inj failed
    obtain rfl := Except.error.inj same
    exact ⟨read, kept.symm⟩
  · rename_i parts _
    -- The name is claimed here, but what comes after follows no reference.
    have misfits : (builder.finish tag operation parts
        (progress.registry.claim parts.baseName).1).FailsAs fun failure =>
          failure.isResolution = false := builder.finish_failsAs (fun _ => rfl) _ _ _ _
    have resolved : failure.isResolution = false := misfits failure (Prod.mk.inj failed).1
    rw [unresolved] at resolved
    cases resolved

/-- What is done with one registry: a name is claimed, or an entry is built. -/
inductive Turn
  | claim (name : String)
  | build (tag : String) (operation : Operation)

/-- What comes of a turn. -/
inductive Reply
  | name (claimed : String)
  | entry (result : Except Failure Entry)

/-- An entry that was not built because a reference leads nowhere. -/
def Reply.isUnresolved : Reply → Bool
  | .entry (.error failure) => failure.isResolution
  | _ => false

/-- Takes one turn. -/
def turn (progress : Progress) : Turn → Reply × Progress
  | .claim name =>
    let (claimed, registry) := progress.registry.claim name
    (.name claimed, { progress with registry := registry })
  | .build tag operation =>
    let (result, after) := (builder.entry tag operation progress).value
    (.entry result, after)

/-- Takes turns one after the other: each with its reply, and the progress at the end. -/
def turns (progress : Progress) : List Turn → List (Turn × Reply) × Progress
  | [] => ([], progress)
  | first :: rest =>
    let (reply, after) := builder.turn progress first
    let (others, last) := turns after rest
    ((first, reply) :: others, last)

variable {builder}

theorem turns_cons (progress : Progress) (first : Turn) (rest : List Turn) :
    builder.turns progress (first :: rest) =
      ((first, (builder.turn progress first).1) ::
        (builder.turns (builder.turn progress first).2 rest).1,
        (builder.turns (builder.turn progress first).2 rest).2) := rfl

/-- A turn that is not resolved leaves the registry and the aliases as they were. -/
theorem turn_unresolved {progress : Progress} {turn : Turn}
    (unresolved : (builder.turn progress turn).1.isUnresolved = true) :
    (builder.turn progress turn).2 = progress := by
  cases turn with
  | claim name => cases unresolved
  | build tag operation =>
    cases built : (builder.entry tag operation progress).value with
    | mk result after =>
      simp only [ServiceBuilder.turn, built] at unresolved ⊢
      cases result with
      | ok entry => cases unresolved
      | error failure => exact (builder.entry_unresolved built unresolved).2

/-- Without the turns that were not resolved, all others have the same replies and leave the same
progress. -/
theorem turns_resolved (progress : Progress) (history : List Turn) :
    let resolved := (builder.turns progress history).1.filter fun taken => !taken.2.isUnresolved
    builder.turns progress (resolved.map (·.1)) =
      (resolved, (builder.turns progress history).2) := by
  induction history generalizing progress with
  | nil => rfl
  | cons first rest ih =>
    rw [turns_cons]
    by_cases unresolved : (builder.turn progress first).1.isUnresolved = true
    · -- The turn that is left out did not change what the next one starts from.
      simpa [unresolved, turn_unresolved unresolved] using ih progress
    · have later := ih (builder.turn progress first).2
      simp only [Bool.not_eq_true] at unresolved
      simp only [unresolved, Bool.not_false, List.filter_cons_of_pos, List.map_cons] at later ⊢
      rw [turns_cons, later]

variable (builder) in
/-- An entry that fails for a reference that leads nowhere or back to itself leaves the claimed
names and the recorded aliases as they were. Whatever else is claimed and built in a history, with
the same registry, comes out and is left as in the history without all such entries. -/
theorem entry_unresolved_keeps_progress (progress : Progress) (tag : String) (operation : Operation)
    (failure : Failure)
    (failed : (builder.entry tag operation progress).value.1 = .error failure)
    (unresolved : failure.isResolution = true) :
    (builder.entry tag operation progress).value.2 = progress ∧
      (∀ later, builder.turns progress (.build tag operation :: later) =
        ((.build tag operation, .entry (.error failure)) :: (builder.turns progress later).1,
          (builder.turns progress later).2)) ∧
      ∀ history,
        let resolved :=
          (builder.turns progress history).1.filter fun taken => !taken.2.isUnresolved
        builder.turns progress (resolved.map (·.1)) =
          (resolved, (builder.turns progress history).2) := by
  have kept : (builder.entry tag operation progress).value.2 = progress :=
    (builder.entry_unresolved (Prod.ext failed rfl) unresolved).2
  refine ⟨kept, fun later => ?_, turns_resolved progress⟩
  have taken : builder.turn progress (.build tag operation) = (.entry (.error failure), progress) :=
    Prod.ext (congrArg Reply.entry failed) kept
  rw [turns_cons, taken]

end

variable {builder}

/-- An operation with an alias, and with a body that is not in the document. -/
def withMissingBody : Operation :=
  ⟨"/users", "post", [(.text "operationId", .text "addUser"),
    (.text gatewayKey, .object [(.text "apiName", .text "AddUser")]),
    (.text "requestBody", .object [(.text "$ref", .text "#/components/requestBodies/User")])], []⟩

/-- The name that this operation would have claimed is still to be had. -/
theorem entry_unresolved_keeps_missingBody :
    let builder := forOperation "/users" "get" "getUsers"
    let progress : Progress := ⟨⟨[("addUser", 1)]⟩, []⟩
    ∃ failure, (builder.entry "default" withMissingBody progress).value.1 = .error failure ∧
      failure.isResolution = true ∧
      (builder.entry "default" withMissingBody progress).value.2 = progress ∧
      (builder.turns progress [.build "default" withMissingBody, .claim "addUser"]).1.map (·.2) =
        [.entry (.error failure), .name "addUser_2"] := by
  intro builder progress
  have broken : Reply.isUnresolved (.entry (builder.entry "default" withMissingBody
      progress).value.1) = true := by decide +kernel
  have claimed : (progress.registry.claim "addUser").1 = "addUser_2" := by decide +kernel
  cases failed : (builder.entry "default" withMissingBody progress).value.1 with
  | ok entry =>
    rw [failed] at broken
    cases broken
  | error failure =>
    rw [failed] at broken
    obtain ⟨kept, later, _⟩ := entry_unresolved_keeps_progress builder progress "default"
      withMissingBody failure failed broken
    refine ⟨failure, rfl, broken, kept, ?_⟩
    rw [later, turns_cons]
    simp only [List.map_cons]
    rw [← claimed]
    rfl

end ApiBindings.ServiceBuilder
