import ApiBindings.Service.Session
import ApiBindings.Proofs.Service.Run
import ApiBindings.Proofs.Text.Romanization

/-!
# What a session remembers

A request may fail, and one for an entry may leave its alias behind all the same. But nothing that
was recorded is ever read again: an entry only puts its alias behind the list it is given, and a
request for the groups begins a new one. So every answer is that of a builder which was never asked
for anything, and for the groups this holds of the remarks and of the list left at the end as well.
-/
namespace ApiBindings

namespace ServiceBuilder

variable (builder : ServiceBuilder)

/-- Progress with more aliases before its own. -/
def Progress.behind (earlier : List GatewayMapping) (progress : Progress) : Progress :=
  { progress with mappings := earlier ++ progress.mappings }

variable [Text.Romanization]

theorem entry_behind (tag : String) (operation : Operation) (earlier : List GatewayMapping)
    (progress : Progress) :
    builder.entry tag operation (progress.behind earlier) =
      Prod.map id (Progress.behind earlier) <$> builder.entry tag operation progress := by
  simp only [entry, map_bind]
  congr 1
  funext outcome
  cases outcome with
  | error failure => rfl
  | ok parts =>
    -- The name is claimed from the registry alone, so both runs finish the same entry.
    simp [advance, Progress.behind]

end ServiceBuilder

namespace ServiceSession

section

variable [Text.Romanization]

/-- The aliases a session holds after a request, by those it held before: the groups leave the
list of their own run, and an entry adds its alias once its parts are read. -/
def leftBy (builder : ServiceBuilder) (held : List GatewayMapping) :
    Request → List GatewayMapping
  | .groups => builder.groups.value.2
  | .entry _ operation _ =>
    match (builder.parts operation).outcome with
    | .ok _ => held ++ (ServiceBuilder.mapping? operation).toList
    | .error _ => held
  | _ => held

/-- No request changes the builder, and what it leaves in the list is told by the list alone. -/
theorem ask_leaves (session : ServiceSession) (request : Request) :
    (session.ask request).value.2 =
      ⟨session.builder, leftBy session.builder session.mappings request⟩ := by
  cases request with
  | entry tag operation registry =>
    simp only [ask, Noted.value_bind, Noted.value_pure, ServiceBuilder.entry_value, leftBy]
    -- Reading the parts is what decides; an entry that fails behind them has left its alias.
    cases (session.builder.parts operation).outcome with
    | error failure => rfl
    | ok parts => rfl
  | groups => rfl
  | filings => rfl
  | parameters listed path => rfl
  | body node => rfl
  | uploads node => rfl
  | response node => rfl

theorem after_leaves (session : ServiceSession) (history : List Request) :
    session.after history =
      ⟨session.builder, history.foldl (leftBy session.builder) session.mappings⟩ := by
  induction history generalizing session with
  | nil => rfl
  | cons request rest ih =>
    have first := ask_leaves session request
    have later := ih (session.ask request).value.2
    rw [first] at later
    rw [List.foldl_cons, ← later, ← first]
    rfl

theorem ask_answers (session : ServiceSession) (request : Request) :
    (session.ask request).value.1 = ((start session.builder).ask request).value.1 := by
  cases request with
  | entry tag operation registry =>
    -- An entry is the same behind the aliases of this session as behind none.
    have same := session.builder.entry_behind tag operation session.mappings ⟨registry, []⟩
    have begun : ServiceBuilder.Progress.behind session.mappings ⟨registry, []⟩ =
        ⟨registry, session.mappings⟩ :=
      congrArg (ServiceBuilder.Progress.mk registry) (List.append_nil _)
    rw [begun] at same
    simp only [ask, start, Noted.value_bind, Noted.value_pure, same, Noted.value_map]
    rfl
  | groups => rfl
  | filings => rfl
  | parameters listed path => rfl
  | body node => rfl
  | uploads node => rfl
  | response node => rfl

/-- The groups of a session do not depend on what was asked before them: whatever requests were
made, and whether they failed or not, a request for the groups is answered as by a builder that was
never used, with the same remarks, and leaves the same session behind. Any other request has the
same answer too. Until then the session holds exactly the aliases that the requests have left. -/
theorem groups_after_history (builder : ServiceBuilder) (history : List Request) :
    ((start builder).after history).ask .groups = (start builder).ask .groups ∧
      (∀ request, (((start builder).after history).ask request).value.1 =
        ((start builder).ask request).value.1) ∧
      ((start builder).after history).mappings = history.foldl (leftBy builder) [] := by
  have state := after_leaves (start builder) history
  refine ⟨?_, fun request => ?_, ?_⟩
  · -- Of the session, a request for the groups reads the builder only.
    rw [state]
    rfl
  · rw [state, ask_answers]
    rfl
  · rw [state]
    rfl

end

/-- An operation whose path is to be a number: its entry fails once the alias is recorded. -/
def withNumberedPath : Operation :=
  ⟨"/users", "get", [(.text "operationId", .text "getUsers"),
    (.text ServiceBuilder.gatewayKey, .object [(.text "antTechApiName", .int 5)])], []⟩

example : ((start (ServiceBuilder.forOperation "/users" "get" "getUsers")).after
    [.groups, .entry "default" withNumberedPath .empty]).mappings =
      [⟨.int 5, .null, .null, .null⟩] := by
  decide +kernel

end ServiceSession

end ApiBindings
