import ApiBindings.Service.Group

/-!
# Sessions

A builder that lives on is asked for one thing after another: for an entry, for the groups, or for
the parts of an operation. All it keeps from one request to the next are the recorded aliases. An
entry adds its alias as soon as its parts are read, so one that fails later has left it behind; a
request for the groups begins a new list. The registry an entry claims its name from belongs to
whoever asks for the entry.
-/
namespace ApiBindings

/-- A builder in use, with the aliases recorded so far. -/
structure ServiceSession where
  builder : ServiceBuilder
  mappings : List GatewayMapping

namespace ServiceSession

variable [Text.Romanization]

/-- What a builder can be asked for. -/
inductive Request
  | entry (tag : String) (operation : Operation) (registry : Registry)
  | groups
  | filings
  | parameters (listed : Node) (path : String)
  | body (node : Node)
  | uploads (body : Located) (sharing : Sharing)
  | response (node : Node)

/-- What comes of a request: a result or a failure. -/
inductive Answer
  | entry (result : Except Failure Entry) (registry : Registry)
  | groups (result : Except Failure (List TagGroup))
  | filings (result : Except Failure (List (String × List Operation)))
  | parameters (result : Except Failure ParameterGroups)
  | body (result : Except Failure (Option RequestBody))
  | uploads (result : Except Failure (Option (List Upload)))
  | response (result : Except Failure Response)
  deriving Repr

/-- A builder that has not been asked for anything. -/
def start (builder : ServiceBuilder) : ServiceSession := ⟨builder, []⟩

/-- The parameters in a node that lists them, for a path. -/
def parameters (builder : ServiceBuilder) (listed : Node) (path : String) :
    Attempt ParameterGroups := do
  Parameter.groups builder.context (← listed.elementsOrNone) path

/-- Answers one request. -/
def ask (session : ServiceSession) : Request → Noted (Answer × ServiceSession)
  | .entry tag operation registry => do
    let (result, progress) ← session.builder.entry tag operation ⟨registry, session.mappings⟩
    return (.entry result progress.registry, { session with mappings := progress.mappings })
  | .groups => do
    let (result, mappings) ← session.builder.groups
    return (.groups result, { session with mappings := mappings })
  | .filings => do
    return (.filings (← session.builder.collect.run), session)
  | .parameters listed path => do
    return (.parameters (← (parameters session.builder listed path).run), session)
  | .body node => do
    return (.body (← (RequestBody.ofNode? session.builder.context node).run), session)
  | .uploads body sharing => do
    let work := Upload.ofBody? session.builder.document sharing body
    return (.uploads (← work.run), session)
  | .response node => do
    let dataFields := session.builder.settings.dataFields
    return (.response (← (Response.ofNode session.builder.context dataFields node).run), session)

/-- The session after requests that were answered one after the other. -/
def after (session : ServiceSession) (history : List Request) : ServiceSession :=
  history.foldl (fun session request => (session.ask request).value.2) session

end ServiceSession

end ApiBindings
