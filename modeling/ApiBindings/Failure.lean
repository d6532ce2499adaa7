import ApiBindings.Configuration.Issue
import ApiBindings.Document.Misfit
import ApiBindings.File.Tree
import ApiBindings.Text.Letter

/-!
# What can go wrong

A failure says what was being done and why it could not be: following a reference, loading a
document, building one operation, reading a configuration or writing a file. The wording of
every failure is one function of its parts.
-/
namespace ApiBindings

/-- Why a text is no data of its format. -/
inductive FormatError
  /-- The text is no YAML. -/
  | yaml
  /-- A scalar that is tagged as a truth value names none. -/
  | unknownWord (word : String)
  /-- A scalar that is tagged as a calendar value is not written as one. -/
  | notCalendar
  /-- A number or a calendar value is written like one but stands for none. -/
  | noValue (message : String)
  /-- A scalar that is tagged as a number is empty. -/
  | emptyNumber
  /-- An escape gives the code of a character that is larger than any number of 31 bits. -/
  | hugeCode
  /-- The text is no TOML. -/
  | toml
  deriving DecidableEq, Repr

def FormatError.message : FormatError → String
  | .unknownWord word => String.ofList (Text.quoted word.toList)
  | .noValue message => message
  | .yaml | .notCalendar | .emptyNumber | .hugeCode | .toml => ""

/-- What lies behind a failure. -/
inductive Cause
  /-- Something that is known by its wording. -/
  | told (text : String)
  | misfit (misfit : Misfit)
  | format (error : FormatError)
  | invalid (issues : List Issue)
  | system (error : SystemError) (name : String)
  /-- Something that looks like a web address is none. -/
  | badAddress
  deriving DecidableEq, Repr

/-- Why a run, or a part of one, ended without a result. -/
inductive Failure
  | misfit (misfit : Misfit)
  | format (error : FormatError)
  /-- A value that has to be text, a number or something else of its own kind is not. -/
  | invalid (issues : List Issue)
  /-- A file that has to hold text is not in UTF-8. -/
  | notUtf8 (error : Utf8.DecodeError)
  /-- A text or a file name has no bytes to be written. -/
  | notEncodable (error : Utf8.EncodeError)
  /-- A file name holds a NUL, which no file system takes. -/
  | nulInName
  | system (error : SystemError) (name : String)
  | general (message : String)
  | schema (message : String)
  /-- A local reference leads nowhere. -/
  | unresolved (reference : String) (reason : Option String)
  /-- A chain of references leads back to itself. -/
  | cyclic (reference : String) (chain : List String)
  | load (source : String) (cause : Option Cause)
  | generation (message : String) (context : Option String) (cause : Option Cause)
  /-- A text that replaces a template cannot be rendered. -/
  | rendering (reason : String)
  | endpoint (operation : String) (method path : Option String) (cause : Option Cause)
  | configuration (message : String) (path field : Option String) (cause : Option Cause)
  | output (path : String) (cause : Option Cause)
  deriving DecidableEq, Repr

namespace Cause

def message : Cause → String
  | .told text => text
  | .misfit reason => reason.message
  | .format error => error.message
  | .invalid _ | .badAddress => ""
  | .system error name => error.message name

end Cause

namespace Failure

/-- A text that is there and not empty. -/
def given (text : Option String) : Option String := text.filter (· ≠ "")

def withCause (text : String) (cause : Option Cause) : String :=
  match cause with
  | some cause => text ++ ": " ++ cause.message
  | none => text

def cycleReason (reference : String) (chain : List String) : String :=
  if chain.isEmpty then "reference cycle"
  else "reference cycle (" ++ " -> ".intercalate (chain ++ [reference]) ++ ")"

def resolutionMessage (reference : String) (reason : Option String) : String :=
  let text := "Failed to resolve reference '" ++ reference ++ "'"
  match given reason with
  | some reason => text ++ ": " ++ reason
  | none => text

def generationText (text : String) (context : Option String) : String :=
  match given context with
  | some context => text ++ " (while generating " ++ context ++ ")"
  | none => text

/-- A template, or one that it asks for, does not exist. -/
def noTemplate (template missing : String) : Failure :=
  .generation ("Template " ++ String.ofList (Text.quoted template.toList) ++ " not found") template
    (some (.told missing))

/-- What is told about an operation that could not be built, without the cause. -/
def endpointText (operation : String) (method path : Option String) : String :=
  let text := "Failed to generate service function '" ++ operation ++ "'"
  match given method, given path with
  | some method, some path =>
    text ++ " (" ++ String.ofList (Text.upper method.toList) ++ " " ++ path ++ ")"
  | _, _ => text

def configurationText (text : String) (path field : Option String) : String :=
  let text := match given path with
    | some path => text ++ " in '" ++ path ++ "'"
    | none => text
  match given field with
  | some field => text ++ " (field: " ++ field ++ ")"
  | none => text

def message : Failure → String
  | .misfit reason => reason.message
  | .format error => error.message
  | .invalid _ => ""
  | .notUtf8 error => error.message
  | .notEncodable error => error.message
  | .nulInName => "embedded null byte"
  | .system error name => error.message name
  | .general message | .schema message | .rendering message => message
  | .unresolved reference reason => resolutionMessage reference reason
  | .cyclic reference chain => resolutionMessage reference (some (cycleReason reference chain))
  | .load source cause => withCause ("Failed to load schema from '" ++ source ++ "'") cause
  | .generation text context cause => withCause (generationText text context) cause
  | .endpoint operation method path cause => withCause (endpointText operation method path) cause
  | .configuration text path field _ => configurationText text path field
  | .output path cause => withCause ("Failed to write output to '" ++ path ++ "'") cause

end Failure

end ApiBindings
