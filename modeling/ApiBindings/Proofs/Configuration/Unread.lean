import ApiBindings.Configuration.Check
import ApiBindings.Proofs.Configuration.Expansion

/-!
# Files that are not read

A configuration that is missing, malformed or invalid is told as a failure of the configuration. A
file is not always read that far. Its text cannot be had, a reader stops at a value or a number, the
file of a project is no TOML, its tools are no table, or the data have a key that is no text. What
each step tells otherwise than as a failure of the configuration is exactly this, whatever the
reader of YAML answers, if the validator takes the members of its data by their names.
-/
namespace ApiBindings

/-- A failure that is told as one of the configuration. -/
def Failure.isConfiguration : Failure → Bool
  | .configuration .. => true
  | _ => false

/-- A result is a failure that is told otherwise. -/
def Escapes {α : Type} (result : Except Failure α) (failure : Failure) : Prop :=
  result = .error failure ∧ failure.isConfiguration = false

section Escapes

variable {α β : Type} {failure : Failure}

@[simp] theorem not_escapes_ok (value : α) : ¬ Escapes (.ok value : Except Failure α) failure := by
  simp [Escapes]

theorem escapes_error (other : Failure) :
    Escapes (.error other : Except Failure α) failure ↔
      failure = other ∧ other.isConfiguration = false := by
  constructor
  · rintro ⟨same, told⟩
    obtain rfl := Except.error.inj same
    exact ⟨rfl, told⟩
  · rintro ⟨rfl, told⟩
    exact ⟨rfl, told⟩

/-- A failure of the configuration is told as one. -/
theorem not_escapes_configuration {message : String} {path field : Option String}
    {cause : Option Cause} :
    ¬ Escapes (.error (.configuration message path field cause) : Except Failure α) failure := by
  simp [escapes_error, Failure.isConfiguration]

theorem escapes_bind (result : Except Failure α) (next : α → Except Failure β) :
    Escapes (result >>= next) failure ↔
      Escapes result failure ∨ ∃ value, result = .ok value ∧ Escapes (next value) failure := by
  cases result with
  | error other => simp [escapes_error, bind, Except.bind]
  | ok value => simp [bind, Except.bind]

end Escapes

namespace Configuration

/-- Nothing stands under a name. A part of the name that is too long is not that. -/
def Absent (tree : FileTree) (name : FileName) : Prop :=
  ∃ error, tree.look name = .error error ∧ error ≠ .nameTooLong

/-- Under a name stands a file with this text. -/
def HasText (tree : FileTree) (name : FileName) (text : String) : Prop :=
  ∃ content, tree.look name = .ok (.file content) ∧ FileTree.textOf content = .ok text

/-- Why the text of a file that is not absent cannot be had. -/
inductive NoText (tree : FileTree) (name : FileName) : Failure → Prop
  | tooLong (looked : tree.look name = .error .nameTooLong) :
      NoText tree name (.system .nameTooLong name.display)
  | directory (looked : tree.look name = .ok .directory) :
      NoText tree name (.system .isDirectory name.display)
  | notUtf8 {content : List UInt8} {error : Utf8.DecodeError}
      (looked : tree.look name = .ok (.file content))
      (broken : FileTree.textOf content = .error error) : NoText tree name (.notUtf8 error)

def IsJson (name : FileName) : Prop := Text.lower name.extension.toList = jsonExtension.toList

/-- Why a text that is not called malformed is not read. -/
inductive NoData [YamlReader] (name : FileName) (text : String) : Failure → Prop
  | digits {count : Nat} (json : IsJson name)
      (stopped : Json.read text = .error (.tooManyDigits count)) :
      NoData name text (.misfit (.tooManyDigits count))
  | value {error : FormatError} (yaml : ¬ IsJson name)
      (stopped : YamlReader.read text = .error error)
      (other : error ≠ .yaml) : NoData name text (.format error)

/-- Why the file of a project is not read. -/
inductive NoProject (text : String) : Failure → Prop
  | malformed (stopped : Toml.read text = .error .malformed) : NoProject text (.format .toml)
  | digits {count : Nat} (stopped : Toml.read text = .error (.tooManyDigits count)) :
      NoProject text (.misfit (.tooManyDigits count))

/-- The tools of a project are no table, and cannot be asked for one of them. -/
inductive NoTools : Node → Misfit → Prop
  | list {items : List Node} (named : .text toolName ∈ items) :
      NoTools (.list items) (.noNames .list)
  | text {value : String} (named : toolName.toList <:+: value.toList) :
      NoTools (.text value) (.noNames .text)
  | scalar {value : Scalar} (other : ∀ text, value ≠ .text text) :
      NoTools (.scalar value) (.noNames value.kind)

/-- A key of the data is no text. -/
def HasOddKey (data : Node) : Prop :=
  ∃ members, data = .object members ∧ ∃ key ∈ members.map Prod.fst, ∀ text, key ≠ .text text

/-- The validator takes the members of an object by their names, so a key that is no text breaks it
off. Everything else that is wrong with the data it tells as an issue. -/
def Validator.TakesNames [Validator] : Prop :=
  ∀ environment data reason,
    Validator.validate environment data = .error reason ↔ reason = .notFieldName ∧ HasOddKey data

section Steps

variable {tree : FileTree} {name : FileName} {failure : Failure}

/-- A name is absent, or it cannot be looked up, or something stands under it. -/
theorem isThere_cases (tree : FileTree) (name : FileName) :
    (Absent tree name ∧ isThere tree name = .ok false) ∨
      (tree.look name = .error .nameTooLong ∧
        isThere tree name = .error (.system .nameTooLong name.display)) ∨
      ∃ entry, tree.look name = .ok entry ∧ isThere tree name = .ok true := by
  unfold isThere FileTree.present
  cases looked : tree.look name with
  | ok entry => exact .inr (.inr ⟨entry, rfl, rfl⟩)
  | error error =>
    cases error with
    | nameTooLong => exact .inr (.inl ⟨rfl, rfl⟩)
    | _ => exact .inl ⟨⟨_, looked, by simp⟩, rfl⟩

theorem NoText.not_absent (none : NoText tree name failure) : ¬ Absent tree name := by
  rintro ⟨error, looked, other⟩
  cases none with
  | tooLong looked' => exact other (Except.error.inj (looked.symm.trans looked'))
  | directory looked' | notUtf8 looked' _ => simp [looked] at looked'

theorem HasText.not_absent {text : String} (read : HasText tree name text) :
    ¬ Absent tree name := by
  rintro ⟨error, looked, _⟩
  obtain ⟨content, looked', _⟩ := read
  simp [looked] at looked'

theorem textAt_directory (looked : tree.look name = .ok .directory) :
    textAt tree name = .error (.system .isDirectory name.display) := by
  simp [textAt, FileTree.read, looked, bind, Except.bind, Except.mapError, throw, throwThe,
    MonadExceptOf.throw]

theorem textAt_file {content : List UInt8} (looked : tree.look name = .ok (.file content)) :
    textAt tree name = (FileTree.textOf content).mapError .notUtf8 := by
  simp [textAt, FileTree.read, looked, bind, Except.bind, pure, Except.pure, Except.mapError]

theorem noText_tooLong (looked : tree.look name = .error .nameTooLong) :
    NoText tree name failure ↔ failure = .system .nameTooLong name.display := by
  constructor
  · rintro (_ | looked' | looked')
    · rfl
    · simp [looked] at looked'
    · simp [looked] at looked'
  · rintro rfl
    exact .tooLong looked

theorem noText_directory (looked : tree.look name = .ok .directory) :
    NoText tree name failure ↔ failure = .system .isDirectory name.display := by
  constructor
  · rintro (looked' | _ | looked')
    · simp [looked] at looked'
    · rfl
    · simp [looked] at looked'
  · rintro rfl
    exact .directory looked

theorem noText_file {content : List UInt8} (looked : tree.look name = .ok (.file content)) :
    NoText tree name failure ↔
      ∃ error, FileTree.textOf content = .error error ∧ failure = .notUtf8 error := by
  constructor
  · rintro (looked' | looked' | ⟨looked', broken⟩)
    · simp [looked] at looked'
    · simp [looked] at looked'
    · obtain rfl := FileEntry.file.inj (Except.ok.inj (looked.symm.trans looked'))
      exact ⟨_, broken, rfl⟩
  · rintro ⟨error, broken, rfl⟩
    exact .notUtf8 looked broken

/-- Where something is there, its text is not had or goes on to the next step. -/
theorem escapes_textAt {α : Type} {entry : FileEntry} (looked : tree.look name = .ok entry)
    (next : String → Except Failure α) :
    Escapes (textAt tree name >>= next) failure ↔
      NoText tree name failure ∨ ∃ text, HasText tree name text ∧ Escapes (next text) failure := by
  rw [escapes_bind]
  cases entry with
  | directory =>
    simp [textAt_directory looked, noText_directory looked, escapes_error, HasText, looked,
      Failure.isConfiguration]
  | file content =>
    rw [textAt_file looked, noText_file looked]
    cases decoded : FileTree.textOf content with
    | error error => simp [escapes_error, HasText, looked, decoded, Failure.isConfiguration,
        Except.mapError]
    | ok text => simp [HasText, looked, decoded, Except.mapError]

/-- A file is read if it is there: its text is not had, or goes on to the next step. -/
theorem escapes_read {α : Type} (tree : FileTree) (name : FileName)
    (next : String → Except Failure α) {otherwise : Except Failure α}
    (silent : ¬ Escapes otherwise failure) :
    Escapes (do if ← isThere tree name then next (← textAt tree name) else otherwise) failure ↔
      NoText tree name failure ∨ ∃ text, HasText tree name text ∧ Escapes (next text) failure := by
  rcases isThere_cases tree name with ⟨absent, found⟩ | ⟨looked, found⟩ | ⟨entry, looked, found⟩
  · rw [found]
    refine iff_of_false silent ?_
    rintro (none | ⟨text, read, _⟩)
    · exact none.not_absent absent
    · exact read.not_absent absent
  · rw [found, noText_tooLong looked]
    simp [escapes_bind, escapes_error, HasText, looked, Failure.isConfiguration]
  · rw [found]
    exact escapes_textAt looked next

theorem isText_iff (key : Scalar) :
    (Node.scalar key).text?.isSome = true ↔ ∃ text, key = .text text := by
  cases key <;> simp [Node.text?]

/-- Expanding changes no key. -/
theorem hasOddKey_expand (environment : Environment) (data : Node) :
    HasOddKey (environment.expand data) ↔ HasOddKey data := by
  cases data with
  | scalar value => cases value <;> simp [Environment.expand, HasOddKey]
  | list items => simp [Environment.expand, HasOddKey]
  | object members =>
    have keys := ((environment.expandsMembers_iff members _).mpr rfl).1
    simp only [Environment.expand, HasOddKey, Node.object.injEq, exists_eq_left', ← keys]

theorem takesNames_validator : @Validator.TakesNames validator := by
  intro environment data reason
  change check environment data = .error reason ↔ _
  cases data with
  | scalar value => simp [check, HasOddKey]
  | list items => simp [check, HasOddKey]
  | object members =>
    have odd : HasOddKey (.object members) ↔
        ¬ members.all (fun member => (Node.scalar member.1).text?.isSome) = true := by
      simp [HasOddKey, isText_iff]
    rw [odd, check]
    split
    · rename_i texts
      simp [texts]
    · rename_i texts
      simp [texts, eq_comm]

theorem escapes_settingsIn [Validator] (takes : Validator.TakesNames) (environment : Environment)
    (shown : String) (data : Node) :
    Escapes (settingsIn environment shown data) failure ↔
      failure = .misfit .notFieldName ∧ HasOddKey data := by
  unfold settingsIn
  rw [escapes_bind]
  have told := takes environment (environment.expand data)
  simp only [hasOddKey_expand] at told
  cases checked : Validator.validate environment (environment.expand data) with
  | error reason =>
    obtain ⟨rfl, odd⟩ := (told reason).mp checked
    simp [escapes_error, Except.mapError, Failure.isConfiguration, odd]
  | ok found =>
    have plain : ¬ HasOddKey data := fun odd => by
      simpa [checked] using (told .notFieldName).mpr ⟨rfl, odd⟩
    cases found with
    | sound found => simp [Except.mapError, plain, pure, Except.pure]
    | faulty issues =>
      refine iff_of_false ?_ fun held => plain held.2
      rintro (escapes | ⟨_, same, escapes⟩)
      · exact absurd escapes (not_escapes_ok _)
      · obtain rfl := Except.ok.inj same
        exact not_escapes_configuration escapes

theorem escapes_dataOf [YamlReader] (text : String) :
    Escapes (dataOf name text) failure ↔ NoData name text failure := by
  unfold dataOf
  split
  · rename_i json
    constructor
    · intro escapes
      unfold jsonData at escapes
      split at escapes
      · exact absurd escapes (not_escapes_ok _)
      · exact absurd escapes not_escapes_configuration
      · -- What JSON calls malformed is told; only a number with too many digits stops the reader.
        rename_i count stopped
        obtain ⟨rfl, _⟩ := (escapes_error _).mp escapes
        exact .digits json stopped
    · rintro (⟨_, stopped⟩ | ⟨yaml, _, _⟩)
      · simp [jsonData, stopped, escapes_error, Failure.isConfiguration]
      · exact absurd json yaml
  · rename_i yaml
    constructor
    · intro escapes
      unfold yamlData at escapes
      split at escapes
      · exact absurd escapes (not_escapes_ok _)
      · exact absurd escapes not_escapes_configuration
      · rename_i error other stopped
        obtain ⟨rfl, _⟩ := (escapes_error _).mp escapes
        exact .value yaml stopped other
    · rintro (⟨json, _⟩ | @⟨error, _, stopped, other⟩)
      · exact absurd json yaml
      · cases error with
        | yaml => exact absurd rfl other
        | _ => simp [yamlData, stopped, escapes_error, Failure.isConfiguration]

theorem escapes_tomlData (text : String) :
    Escapes (tomlData text) failure ↔ NoProject text failure := by
  unfold tomlData
  cases read : Toml.read text with
  | ok project =>
    refine iff_of_false (not_escapes_ok _) ?_
    rintro (stopped | stopped) <;> simp [read] at stopped
  | error error =>
    -- Nothing that is wrong with the text of a project is told as a failure of the configuration.
    cases error with
    | malformed =>
      constructor
      · intro escapes
        obtain ⟨rfl, _⟩ := (escapes_error _).mp escapes
        exact .malformed read
      · rintro (_ | stopped)
        · exact ⟨rfl, rfl⟩
        · simp [read] at stopped
    | tooManyDigits count =>
      constructor
      · intro escapes
        obtain ⟨rfl, _⟩ := (escapes_error _).mp escapes
        exact .digits read
      · rintro (stopped | stopped)
        · simp [read] at stopped
        · obtain rfl : count = _ := by simpa [read] using stopped
          exact ⟨rfl, rfl⟩

theorem tomlData_ok {text : String} {project : Node} :
    tomlData text = .ok project ↔ Toml.read text = .ok project := by
  unfold tomlData
  cases Toml.read text with
  | ok => simp
  | error error => cases error <;> simp

theorem toolData?_error (project : Node) (reason : Misfit) :
    toolData? project = .error reason ↔
      ∃ tools, project.get? toolsKey = some tools ∧ NoTools tools reason := by
  unfold toolData?
  cases listed : project.get? toolsKey with
  | none => simp
  | some tools =>
    simp only [Option.some.injEq, exists_eq_left']
    -- The tool is looked for in a list and in a text too, and found there it cannot be taken out.
    constructor
    · intro failed
      split at failed
      · rename_i none
        cases none
      · cases failed
      · rename_i items held
        obtain rfl := Option.some.inj held
        split at failed
        · rename_i named
          obtain rfl := Except.error.inj failed
          exact .list named
        · cases failed
      · rename_i value held
        obtain rfl := Option.some.inj held
        split at failed
        · rename_i named
          obtain rfl := Except.error.inj failed
          exact .text ((Text.occursIn_iff _ _).mp named)
        · cases failed
      · rename_i value other held
        obtain rfl := Option.some.inj held
        obtain rfl := Except.error.inj failed
        exact .scalar fun text same => other text (same ▸ rfl)
    · intro none
      cases none with
      | list named => simp [named]
      | text named => simp [(Text.occursIn_iff _ _).mpr named]
      | @scalar value other =>
        cases value with
        | text text => exact absurd rfl (other text)
        | _ => rfl

theorem toolData?_some (project data : Node) :
    toolData? project = .ok (some data) ↔ ∃ tools, project.get? toolsKey = some (.object tools) ∧
      Members.get? tools toolName = some data := by
  unfold toolData?
  cases listed : project.get? toolsKey with
  | none => simp
  | some tools =>
    cases tools with
    | object tools => simp
    | list items => by_cases named : .text toolName ∈ items <;> simp [named]
    | scalar value =>
      cases value with
      | text value =>
        by_cases named : Text.occursIn toolName.toList value.toList = true <;> simp [named]
      | _ => simp

/-- The tools of a project are told of otherwise if they are no table, or if the data of this tool
have an odd key. -/
theorem escapes_tools [Validator] (takes : Validator.TakesNames) (environment : Environment)
    (shown : String) (project : Node) :
    Escapes (do
        match ← (toolData? project).mapError .misfit with
        | some data => return some (← settingsIn environment shown data)
        | none => return none : Except Failure (Option (List Settings))) failure ↔
      (∃ tools reason, project.get? toolsKey = some tools ∧ NoTools tools reason ∧
        failure = .misfit reason) ∨
      ∃ tools data, project.get? toolsKey = some (.object tools) ∧
        Members.get? tools toolName = some data ∧ HasOddKey data ∧
        failure = .misfit .notFieldName := by
  constructor
  · intro escapes
    cases given : toolData? project with
    | error reason =>
      rw [given] at escapes
      obtain ⟨tools, listed, none⟩ := (toolData?_error project reason).mp given
      exact .inl ⟨tools, reason, listed, none, ((escapes_error _).mp escapes).1⟩
    | ok held =>
      rw [given] at escapes
      cases held with
      | none => exact absurd escapes (not_escapes_ok _)
      | some data =>
        obtain ⟨tools, listed, found⟩ := (toolData?_some project data).mp given
        -- Wrapping the settings up tells nothing, so it is the settings that do.
        have escapes : Escapes (settingsIn environment shown data >>= fun found =>
            return some found) failure := escapes
        rw [escapes_bind, escapes_settingsIn takes] at escapes
        rcases escapes with ⟨told, odd⟩ | ⟨_, _, escapes⟩
        · exact .inr ⟨tools, data, listed, found, odd, told⟩
        · exact absurd escapes (not_escapes_ok _)
  · rintro (⟨tools, reason, listed, none, rfl⟩ | ⟨tools, data, listed, found, odd, rfl⟩)
    · rw [(toolData?_error project reason).mpr ⟨tools, listed, none⟩]
      exact ⟨rfl, rfl⟩
    · rw [(toolData?_some project data).mpr ⟨tools, listed, found⟩]
      exact (escapes_bind (settingsIn environment shown data) _).mpr
        (.inl ((escapes_settingsIn takes environment shown data).mpr ⟨rfl, odd⟩))

end Steps

end Configuration

end ApiBindings
