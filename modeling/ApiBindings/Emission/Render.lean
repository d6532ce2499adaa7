import ApiBindings.Emission.Template
import ApiBindings.Failure

/-!
# Rendering a template by name

A template is found by its name, in which empty parts and single dots count for nothing, and
is filled from plain data.
-/
namespace ApiBindings

namespace TemplateName

/-- The template whose file a name leads to. -/
def find? (name : String) : Option TemplateName :=
  let parts := (Text.cut '/' (name ++ ".jinja").toList).filter fun part =>
    decide (part ≠ [] ∧ part ≠ ['.'])
  match parts with
  | [part] => all.find? fun template => template.fileName.toList == part
  | _ => none

end TemplateName

namespace PlainData

/-- A field that has to be given to count, as text. -/
def givenText (node : Node) (key : String) : String :=
  if given node key then printed node key else ""

/-- Fills a template from plain data. -/
def fill (context : Node) : TemplateName → Except Misfit String
  | .interface => do
    return Template.interface (givenText context "namespace") (given context "nullable")
      (← (← each context "list").mapM declarationView)
  | .serviceController => do
    return Template.serviceController (givenText context "namespace")
      (printed context "request_import_statement") (← (← each context "list").mapM functionView)
  | .apiIndex => return Template.apiIndex ((← each context "list").map indexItem)
  | .serviceIndex => return Template.serviceIndex ((← each context "list").map indexItem)

/-- Finds a template and fills it. -/
def render (name : String) (context : Node) : Except Failure String :=
  match TemplateName.find? name with
  | none => .error (.noTemplate name (name ++ ".jinja"))
  | some template => (fill context template).mapError .misfit

end PlainData

end ApiBindings
