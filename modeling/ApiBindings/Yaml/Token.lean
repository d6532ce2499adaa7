import ApiBindings.Failure

/-!
# YAML tokens

The words of a YAML text. Indentation and simple keys, which are not written with a character
of their own, have tokens as well, so that the structure can be read off the tokens alone. A
text that cannot be cut into tokens gives those before the fault and then the fault itself.
-/
namespace ApiBindings.Yaml

inductive Directive
  | version (major : Nat)
  | handle (handle target : String)
  | other
  deriving Repr, DecidableEq

inductive Token
  | directive (directive : Directive)
  | documentStart
  | documentEnd
  | streamEnd
  | blockSequenceStart
  | blockMappingStart
  | blockEnd
  | flowSequenceStart
  | flowSequenceEnd
  | flowMappingStart
  | flowMappingEnd
  | blockEntry
  | flowEntry
  | key
  | value
  | anchor (name : String)
  | aliasOf (name : String)
  /-- A tag with its handle; a verbatim tag has none. -/
  | tag (handle : Option String) (suffix : String)
  | scalar (text : String) (plain : Bool)
  /-- The text is at fault here. -/
  | broken (error : FormatError)
  deriving Repr, DecidableEq

end ApiBindings.Yaml
