import ApiBindings.Configuration.Document
import ApiBindings.Configuration.Find

/-!
# Whole configurations

A configuration is an object with one key, the list of documents. If the key is missing, the
list is taken as JSON from the environment.
-/
namespace ApiBindings.Configuration

def documentsKey : String := "documents"

def variableName : String := "SVCGEN_DOCUMENTS"

/-- A key that stands for the documents, whatever its case. -/
def isDocumentsKey (key : Scalar) : Bool :=
  match key with
  | .text name => Text.lower name.toList == documentsKey.toList
  | _ => false

/-- The member with the documents: the key as it is, or else one in another case. -/
def documentsMember? (members : Members) : Option (Scalar × Node) :=
  (members.find? fun member => member.1 == .text documentsKey).or
    (members.find? fun member => isDocumentsKey member.1)

/-- The list in the environment; null counts as missing. -/
def fromEnvironment (environment : Environment) : Checked (Option Node) :=
  match environment.find? variableName with
  | none => .sound none
  | some text =>
    match Json.read text with
    | .ok .null => .sound none
    | .ok node => .sound (some node)
    | .error _ => .fault .unreadable

def documents : Node → Checked (List Settings)
  | .list items => .each settings items
  | _ => .fault .notList

/-- A key that stands for nothing. -/
def unknownKey (key : Scalar) : Issue :=
  match key with
  | .text name => ⟨[.key name], .unknownKey⟩
  | _ => ⟨[], .unknownKey⟩

/-- The documents of a configuration; unknown keys are told last. -/
def ofMembers (environment : Environment) (members : Members) : Checked (List Settings) :=
  match fromEnvironment environment with
  | .faulty issues => .faulty issues
  | .sound fallback =>
    let member := documentsMember? members
    let found := (match (member.map Prod.snd).or fallback with
      | some node => documents node
      | none => .fault .missing).below (.key documentsKey)
    let others := members.filter fun other => some other.1 != member.map Prod.fst
    found.withIssues (others.map fun other => unknownKey other.1)

/-- Checks the data of a configuration; all keys have to be text. -/
def check (environment : Environment) (data : Node) : Except Misfit (Checked (List Settings)) :=
  match data with
  | .object members =>
    if members.all fun member => (Node.scalar member.1).text?.isSome then
      .ok (ofMembers environment members)
    else .error .notFieldName
  | _ => .ok (.fault .notObject)

@[reducible] def validator : Validator := ⟨check⟩

end ApiBindings.Configuration
