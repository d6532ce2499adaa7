import ApiBindings.Settings

/-!
# Arguments of the command line

The first argument names a command. Options may stand anywhere behind it, up to two dashes on
their own; every option takes a value, which follows it or is attached to it. If an option is
given more than once, the last one counts.
-/
namespace ApiBindings

inductive Command
  /-- Generates what a configuration says; none means the one of the working directory. -/
  | generate (configuration : Option String)
  /-- Shows what a document resolves to. -/
  | inspect (source : String) (namespaceName : String)
  deriving DecidableEq, Repr

namespace Command

/-- An option by its two spellings. -/
structure OptionName where
  long : String
  short : Char

/-- Values of options in the order they were given, and the other arguments. -/
structure Arguments where
  options : List String
  others : List String

def isOption (argument : String) : Bool :=
  "-".isPrefixOf argument && argument.length > 1

/-- How the value of an option is given. -/
inductive Spelling
  | attached (value : String)
  | follows
  deriving DecidableEq, Repr

/-- The long spelling, with a value behind an equals sign or without. -/
def longSpelling? (name : OptionName) (argument : List Char) : Option Spelling :=
  let long := name.long.toList
  if argument = long then some .follows
  else if (long ++ ['=']).isPrefixOf argument then
    some (.attached (String.ofList (argument.drop (long.length + 1))))
  else none

/-- The short spelling, with a value behind the letter or without. -/
def shortSpelling? (name : OptionName) : List Char → Option Spelling
  | ['-', c] => if c = name.short then some .follows else none
  | '-' :: c :: value => if c = name.short then some (.attached (String.ofList value)) else none
  | _ => none

def spelling? (name : OptionName) (argument : String) : Option Spelling :=
  (longSpelling? name argument.toList).or (shortSpelling? name argument.toList)

def withOption (value : String) (rest : Arguments) : Arguments :=
  { rest with options := value :: rest.options }

/-- Takes the values of one option out of the arguments; `awaits` says that the option was just
given without its value. -/
def splitFrom (name : OptionName) (awaits : Bool) : List String → Option Arguments
  | [] => if awaits then none else some ⟨[], []⟩
  | argument :: rest =>
    if awaits then (splitFrom name false rest).map (withOption argument)
    else if argument = "--" then some ⟨[], rest⟩
    else if isOption argument then
      match spelling? name argument with
      | some (.attached value) => (splitFrom name false rest).map (withOption value)
      | some .follows => splitFrom name true rest
      | none => none
    else (splitFrom name false rest).map fun found =>
      { found with others := argument :: found.others }

/-- Takes the values of one option out of the arguments of a command. -/
def split (name : OptionName) (arguments : List String) : Option Arguments :=
  splitFrom name false arguments

def configurationOption : OptionName := ⟨"--config", 'c'⟩

def namespaceOption : OptionName := ⟨"--namespace", 'n'⟩

def ofGenerate (arguments : List String) : Option Command :=
  match split configurationOption arguments with
  | some ⟨values, []⟩ => some (.generate values.getLast?)
  | _ => none

def ofInspect (arguments : List String) : Option Command :=
  match split namespaceOption arguments with
  | some ⟨values, [source]⟩ =>
    some (.inspect source (values.getLast?.getD (Settings.ofSource source).namespaceName))
  | _ => none

def ofName (name : String) (arguments : List String) : Option Command :=
  match name with
  | "generate" => ofGenerate arguments
  | "inspect" => ofInspect arguments
  | _ => none

/-- The command that arguments stand for, if they are used as they should be. -/
def read? : List String → Option Command
  | "--" :: name :: arguments => ofName name arguments
  | name :: arguments => ofName name arguments
  | [] => none

end Command

end ApiBindings
