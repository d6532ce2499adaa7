import ApiBindings.Emission.Template
import ApiBindings.Failure

/-!
# What templates are filled with

A template is filled from the declarations, the entry or the items it prints. The templates of the
program itself are functions of these. A template that replaces one of them is a text in the
language of a template engine, and how that renders it is not settled here.
-/
namespace ApiBindings

/-- What is handed to a template. -/
inductive TemplateContext
  | interface (namespaceName : String) (nullable : Bool) (declarations : List Declaration)
  | serviceController (namespaceName requestImport className instanceName : String)
      (entry : Entry)
  | apiIndex (items : List IndexItem)
  | serviceIndex (items : List IndexItem)
  deriving Repr

namespace TemplateContext

def template : TemplateContext → TemplateName
  | .interface .. => .interface
  | .serviceController .. => .serviceController
  | .apiIndex _ => .apiIndex
  | .serviceIndex _ => .serviceIndex

/-- The text that the program's own template gives. -/
def text : TemplateContext → String
  | .interface namespaceName nullable declarations =>
    Template.interface namespaceName nullable (declarations.map DeclarationView.ofDeclaration)
  | .serviceController namespaceName requestImport _ _ entry =>
    Template.serviceController namespaceName requestImport [FunctionView.ofEntry entry]
  | .apiIndex items => Template.apiIndex items
  | .serviceIndex items => Template.serviceIndex items

end TemplateContext

/-- Why a template that replaces one cannot be rendered. -/
inductive RenderError
  /-- It asks for a template that does not exist. -/
  | notFound (name : String)
  | broken (reason : String)
  deriving DecidableEq, Repr

namespace RenderError

def failure (template : TemplateName) : RenderError → Failure
  | .notFound name => .noTemplate template.word name
  | .broken reason => .rendering reason

end RenderError

/-- A template engine: the text that a template gives in a context. What the template includes is
looked for in its folder. -/
class TemplateEngine where
  render : FileTree → FileName → String → TemplateContext → Except RenderError String

namespace TemplateEngine

/-- What starts a part of a template that is not printed as it is. -/
def markers : List String := ["\x7b\x7b", "\x7b%", "\x7b#"]

/-- A template engine for texts in which nothing is filled in. -/
@[reducible] def verbatim : TemplateEngine where
  render _ _ text _ :=
    if markers.any fun marker => Text.occursIn marker.toList text.toList then
      .error (.broken "nothing can be filled in")
    else .ok text

end TemplateEngine

end ApiBindings
