import ApiBindings.Source.Url

/-!
# Answers of the web

A request is answered by a response, refused by one that is no success, or fails on the way.
-/
namespace ApiBindings

/-- A response that is a success. -/
structure WebResponse where
  headers : List (String × String)
  body : String
  deriving Repr

/-- What comes back from a request. -/
inductive WebAnswer
  | response (response : WebResponse)
  /-- The response is no success, and this is told about it. -/
  | refused (reason : String)
  /-- No response came, for this reason. -/
  | failed (reason : String)
  deriving Repr

namespace WebResponse

/-- The values of a header, whatever the case of its name. -/
def header? (response : WebResponse) (name : String) : Option String :=
  let values := response.headers.filterMap fun (key, value) =>
    if key.toLower = name then some value else none
  if values.isEmpty then none else some (", ".intercalate values)

/-- Whether the body is YAML: by its media type or by the end of the address. -/
def isYaml (response : WebResponse) (source : String) : Bool :=
  Text.occursIn "yaml".toList ((response.header? "content-type").getD "").toList
    || source.endsWith ".yaml" || source.endsWith ".yml"

end WebResponse

end ApiBindings
