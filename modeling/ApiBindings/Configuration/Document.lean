import ApiBindings.Configuration.Value
import ApiBindings.Settings

/-!
# The settings of a document as data

Every setting but the source has a default. Keys that are not known are passed over.
-/
namespace ApiBindings.Configuration

def enumStyle : Node → Checked EnumStyle
  | .text word =>
    if word = EnumStyle.enumeration.word then .sound .enumeration
    else if word = EnumStyle.literals.word then .sound .literals
    else .fault .unknownWord
  | _ => .fault .unknownWord

/-- A fixed prefix. A value that is no text is no rule either, and both are told. -/
def apiPrefix : Node → Checked ApiPrefix
  | .text value => .sound (.fixed value)
  | _ => .faulty [⟨[.key "str"], .notText⟩, ⟨[.key "callable"], .notRule⟩]

/-- Naming rules cannot be given as data. -/
def naming (_node : Node) : Checked NamingHooks := .fault .notNaming

/-- The settings that members stand for, or all that is wrong with them. -/
def settingsOfMembers (members : Members) : Checked Settings :=
  let default := Settings.ofSource ""
  Settings.mk
    <$> required members "source" text
    <*> optional members "output" default.output text
    <*> optional members "project_name" default.projectName text
    <*> optional members "namespace" default.namespaceName text
    <*> optional members "enum_style" default.enumStyle enumStyle
    <*> optional members "data_fields" default.dataFields (orNull texts)
    <*> optional members "api_prefix" default.apiPrefix (orNull apiPrefix)
    <*> optional members "generate_apis" default.generateApis textsOrNone
    <*> optional members "request_import_statement" default.requestImportStatement text
    <*> optional members "nullable" default.nullable truth
    <*> optional members "generate_trace_id" default.generateTraceId truth
    <*> optional members "templates_folder" default.templatesFolder (orNull text)
    <*> optional members "function_name_max_length" default.functionNameMaxLength count
    <*> optional members "naming" default.hooks naming

/-- The settings of one document. -/
def settings : Node → Checked Settings
  | .object members => settingsOfMembers members
  | _ => .fault .notObject

end ApiBindings.Configuration
