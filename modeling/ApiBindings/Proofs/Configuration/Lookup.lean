import ApiBindings.Proofs.Configuration.Unread
import ApiBindings.Yaml.Value

/-!
# Failures while a configuration is looked for

A configuration is taken from one file: the one that is asked for, the first default name that is
not absent, or the file of the project. If something else than a failure of the configuration is
told, it is what keeps that file from being read.
-/
namespace ApiBindings.Configuration

/-- A file that a configuration is taken from: one of this tool, or that of a whole project. -/
inductive Source
  | own (name : FileName)
  | project (name : FileName)

def Source.name : Source → FileName
  | .own name | .project name => name

/-- The data for this tool in a file. -/
inductive Holds [YamlReader] (tree : FileTree) : Source → Node → Prop
  | own {name : FileName} {text : String} {data : Node} (read : HasText tree name text)
      (understood : dataOf name text = .ok data) : Holds tree (.own name) data
  | project {name : FileName} {text : String} {project data : Node} {tools : Members}
      (read : HasText tree name text) (understood : Toml.read text = .ok project)
      (listed : project.get? toolsKey = some (.object tools))
      (held : tools.get? toolName = some data) : Holds tree (.project name) data

/-- What is told of a file otherwise than as a failure of the configuration. -/
inductive Unread [YamlReader] (tree : FileTree) : Source → Failure → Prop
  | noText {source : Source} {failure : Failure} (none : NoText tree source.name failure) :
      Unread tree source failure
  | noData {name : FileName} {text : String} {failure : Failure} (read : HasText tree name text)
      (none : NoData name text failure) : Unread tree (.own name) failure
  | noProject {name : FileName} {text : String} {failure : Failure} (read : HasText tree name text)
      (none : NoProject text failure) : Unread tree (.project name) failure
  | noTools {name : FileName} {text : String} {project tools : Node} {reason : Misfit}
      (read : HasText tree name text) (understood : Toml.read text = .ok project)
      (listed : project.get? toolsKey = some tools) (none : NoTools tools reason) :
      Unread tree (.project name) (.misfit reason)
  | oddKey {source : Source} {data : Node} (holds : Holds tree source data)
      (odd : HasOddKey data) : Unread tree source (.misfit .notFieldName)

/-- A name in the working directory. -/
def inWorking (tree : FileTree) (name : String) : FileName := tree.workingName ++ FileName.read name

/-- The first of some names that is not absent from the working directory. -/
inductive First (tree : FileTree) : List String → String → Prop
  | here {name : String} {rest : List String} (there : ¬ Absent tree (inWorking tree name)) :
      First tree (name :: rest) name
  | later {other name : String} {rest : List String} (absent : Absent tree (inWorking tree other))
      (first : First tree rest name) : First tree (other :: rest) name

/-- Where a configuration is taken from: the file that is asked for, or else the first default name,
or else the file of the project. -/
inductive TakenFrom (tree : FileTree) (path : Option String) : Source → Prop
  | given {name : String} (asked : Failure.given path = some name) :
      TakenFrom tree path (.own (FileName.read name))
  | default {name : String} (unasked : Failure.given path = none)
      (first : First tree defaultNames name) : TakenFrom tree path (.own (inWorking tree name))
  | project (unasked : Failure.given path = none)
      (absent : ∀ name ∈ defaultNames, Absent tree (inWorking tree name)) :
      TakenFrom tree path (.project (inWorking tree projectFile))

section Lookup

variable {tree : FileTree} {name : FileName} {failure : Failure}

theorem first_cons_of_absent {candidate other : String} {rest : List String}
    (absent : Absent tree (inWorking tree candidate)) :
    First tree (candidate :: rest) other ↔ First tree rest other := by
  constructor
  · intro first
    cases first with
    | here there => exact absurd absent there
    | later _ first => exact first
  · exact .later absent

theorem first_cons_of_there {candidate other : String} {rest : List String}
    (there : ¬ Absent tree (inWorking tree candidate)) :
    First tree (candidate :: rest) other ↔ other = candidate := by
  constructor
  · intro first
    cases first with
    | here => rfl
    | later absent _ => exact absurd absent there
  · rintro rfl
    exact .here there

variable [YamlReader]

/-- A file that is not read has no text, or a text that keeps it from being read. -/
theorem Unread.noText_or_hasText {source : Source} (unread : Unread tree source failure) :
    NoText tree source.name failure ∨ ∃ text, HasText tree source.name text := by
  cases unread with
  | noText none => exact .inl none
  | noData read _ | noProject read _ | noTools read _ _ _ => exact .inr ⟨_, read⟩
  | oddKey holds _ =>
    cases holds with
    | own read _ | project read _ _ _ => exact .inr ⟨_, read⟩

/-- The default names are tried one after the other. -/
theorem escapes_defaultFile? {α : Type} (names : List String)
    (next : Option FileName → Except Failure α)
    (reads : ∀ name, Escapes (next (some name)) failure ↔ Unread tree (.own name) failure) :
    Escapes (defaultFile? tree names >>= next) failure ↔
      (∃ name, First tree names name ∧ Unread tree (.own (inWorking tree name)) failure) ∨
        (∀ name ∈ names, Absent tree (inWorking tree name)) ∧ Escapes (next none) failure := by
  induction names with
  | nil =>
    change Escapes (next none) failure ↔ _
    constructor
    · exact fun escapes => .inr ⟨by simp, escapes⟩
    · rintro (⟨name, first, _⟩ | ⟨_, escapes⟩)
      · cases first
      · exact escapes
  | cons candidate rest ih =>
    have step : defaultFile? tree (candidate :: rest) = (do
        if ← isThere tree (inWorking tree candidate) then return some (inWorking tree candidate)
        else defaultFile? tree rest) := rfl
    rcases isThere_cases tree (inWorking tree candidate) with
      ⟨absent, found⟩ | ⟨looked, found⟩ | ⟨entry, looked, found⟩
    · rw [step, found]
      simp only [first_cons_of_absent absent, List.forall_mem_cons, absent, true_and]
      exact ih
    · -- A name that is too long is not passed over: the search ends there.
      have there : ¬ Absent tree (inWorking tree candidate) := by
        rintro ⟨error, looked', other⟩
        exact other (Except.error.inj (looked'.symm.trans looked))
      rw [step, found]
      simp only [first_cons_of_there there, List.forall_mem_cons, there, false_and, or_false,
        exists_eq_left]
      constructor
      · rintro ⟨same, _⟩
        obtain rfl := Except.error.inj same
        exact .noText (.tooLong looked)
      · intro unread
        rcases unread.noText_or_hasText with none | ⟨text, content, looked', _⟩
        · obtain rfl := (noText_tooLong looked).mp none
          exact ⟨rfl, rfl⟩
        · cases looked.symm.trans looked'
    · have there : ¬ Absent tree (inWorking tree candidate) := by
        rintro ⟨error, looked', _⟩
        cases looked.symm.trans looked'
      rw [step, found]
      simp only [first_cons_of_there there, List.forall_mem_cons, there, false_and, or_false,
        exists_eq_left]
      exact reads _

section Validated

variable [Validator] (takes : Validator.TakesNames)
include takes

/-- A file of this tool is told of otherwise exactly if it is not read. -/
theorem escapes_settingsAt (environment : Environment) (shown : String) :
    Escapes (settingsAt environment tree shown name) failure ↔ Unread tree (.own name) failure := by
  -- The data are read first and then checked; here both stand behind the question for the file.
  have whole : settingsAt environment tree shown name = (do
      if ← isThere tree name then
        settingsIn environment shown (← dataOf name (← textAt tree name))
      else throw (.configuration "Configuration file not found" name.display none none)) := by
    unfold settingsAt dataAt
    cases isThere tree name with
    | error => rfl
    | ok there =>
      cases there with
      | false => rfl
      | true => cases textAt tree name <;> rfl
  rw [whole, escapes_read tree name fun text => dataOf name text >>= settingsIn environment shown]
  · constructor
    · rintro (none | ⟨text, read, escapes⟩)
      · exact .noText none
      · rw [escapes_bind, escapes_dataOf] at escapes
        rcases escapes with none | ⟨data, understood, escapes⟩
        · exact .noData read none
        · obtain ⟨rfl, odd⟩ := (escapes_settingsIn takes environment shown data).mp escapes
          exact .oddKey (.own read understood) odd
    · intro unread
      cases unread with
      | noText none => exact .inl none
      | @noData _ text _ read none =>
        exact .inr ⟨text, read, (escapes_bind _ _).mpr (.inl ((escapes_dataOf text).mpr none))⟩
      | @oddKey _ data holds odd =>
        cases holds with
        | @own _ text _ read understood =>
          exact .inr ⟨text, read, (escapes_bind _ _).mpr (.inr ⟨data, understood,
            (escapes_settingsIn takes environment shown data).mpr ⟨rfl, odd⟩⟩)⟩
  · exact not_escapes_configuration

/-- The file of a project is told of otherwise exactly if it is not read. -/
theorem escapes_settingsInProject? (environment : Environment) :
    Escapes (settingsInProject? environment tree) failure ↔
      Unread tree (.project (inWorking tree projectFile)) failure := by
  unfold settingsInProject?
  dsimp only
  rw [escapes_read]
  · change NoText tree (inWorking tree projectFile) failure ∨ _ ↔ _
    -- One reason for each step, met in the order of the steps.
    constructor
    · rintro (none | ⟨text, read, escapes⟩)
      · exact .noText none
      · rw [escapes_bind, escapes_tomlData] at escapes
        rcases escapes with none | ⟨project, understood, escapes⟩
        · exact .noProject read none
        · rw [tomlData_ok] at understood
          rcases (escapes_tools takes _ _ _).mp escapes with
            ⟨tools, reason, listed, none, rfl⟩ | ⟨tools, data, listed, held, odd, rfl⟩
          · exact .noTools read understood listed none
          · exact .oddKey (.project read understood listed held) odd
    · intro unread
      cases unread with
      | noText none => exact .inl none
      | @noProject _ text _ read none =>
        exact .inr ⟨text, read, (escapes_bind _ _).mpr (.inl ((escapes_tomlData text).mpr none))⟩
      | @noTools _ text project tools reason read understood listed none =>
        exact .inr ⟨text, read, (escapes_bind _ _).mpr (.inr ⟨project, tomlData_ok.mpr understood,
          (escapes_tools takes _ _ _).mpr (.inl ⟨tools, reason, listed, none, rfl⟩)⟩)⟩
      | @oddKey _ data holds odd =>
        cases holds with
        | @project _ text project _ tools read understood listed held =>
          exact .inr ⟨text, read, (escapes_bind _ _).mpr (.inr ⟨project, tomlData_ok.mpr understood,
            (escapes_tools takes _ _ _).mpr (.inr ⟨tools, data, listed, held, odd, rfl⟩)⟩)⟩
  · exact not_escapes_ok _

theorem escapes_settingsHere (environment : Environment) :
    Escapes (settingsHere environment tree) failure ↔
      (∃ name, First tree defaultNames name ∧ Unread tree (.own (inWorking tree name)) failure) ∨
        (∀ name ∈ defaultNames, Absent tree (inWorking tree name)) ∧
          Unread tree (.project (inWorking tree projectFile)) failure := by
  unfold settingsHere
  rw [escapes_defaultFile? _ _ fun name => escapes_settingsAt takes environment name.display]
  refine or_congr_right (and_congr_right fun _ => ?_)
  rw [escapes_bind, escapes_settingsInProject? takes]
  -- That no configuration was found at all is a failure of the configuration.
  refine or_iff_left ?_
  rintro ⟨found, _, same, told⟩
  cases found with
  | none => exact not_escapes_configuration ⟨same, told⟩
  | some found => cases same

end Validated

end Lookup

/-- A failure is told otherwise than as one of the configuration exactly if it keeps the file from
being read that the configuration is taken from. -/
theorem escapes_find_iff [YamlReader] [Validator] (takes : Validator.TakesNames)
    (environment : Environment) (tree : FileTree) (path : Option String) (failure : Failure) :
    (find environment tree path = .error failure ∧ failure.isConfiguration = false) ↔
      ∃ source, TakenFrom tree path source ∧ Unread tree source failure := by
  change Escapes (find environment tree path) failure ↔ _
  unfold find
  cases asked : Failure.given path with
  | some name =>
    refine (escapes_settingsAt takes environment name).trans
      ⟨fun unread => ⟨_, .given asked, unread⟩, ?_⟩
    rintro ⟨source, taken, unread⟩
    -- Whether a path is given tells which source can be the one.
    cases taken with
    | given asked' =>
      obtain rfl := Option.some.inj (asked.symm.trans asked')
      exact unread
    | default unasked _ | project unasked _ => cases asked.symm.trans unasked
  | none =>
    refine (escapes_settingsHere takes environment).trans ⟨?_, ?_⟩
    · rintro (⟨name, first, unread⟩ | ⟨absent, unread⟩)
      · exact ⟨_, .default asked first, unread⟩
      · exact ⟨_, .project asked absent, unread⟩
    · rintro ⟨source, taken, unread⟩
      cases taken with
      | given asked' => cases asked.symm.trans asked'
      | default _ first => exact .inl ⟨_, first, unread⟩
      | project _ absent => exact .inr ⟨absent, unread⟩

/-- A project whose file breaks off in the name of a table: `[tool`. -/
def brokenProject : FileTree :=
  ⟨[(["work"], .directory),
    (["work", projectFile], .file [0x5b, 0x74, 0x6f, 0x6f, 0x6c])], ["work"]⟩

section

attribute [local instance] Yaml.reader validator

theorem unread_of_brokenProject :
    Validator.TakesNames ∧
      ∃ source, TakenFrom brokenProject none source ∧
        Unread brokenProject source (.format .toml) :=
  ⟨takesNames_validator,
    (escapes_find_iff takesNames_validator [] brokenProject none _).mp ⟨rfl, rfl⟩⟩

/-- The file of a project that is no TOML is told of as such, where a malformed file of this tool
is a failure of the configuration. -/
theorem find_escapes_of_brokenProject :
    find [] brokenProject none = .error (.format .toml) ∧
      Failure.isConfiguration (.format .toml) = false :=
  ⟨rfl, rfl⟩

end

end ApiBindings.Configuration
