import ApiBindings.Emission.View

/-!
# The four templates

Each template is a function from views to text. Texts of the document are printed as they are.
-/
namespace ApiBindings

/-- The templates a folder may replace. -/
inductive TemplateName
  | interface
  | serviceController
  | apiIndex
  | serviceIndex
  deriving DecidableEq, Repr

namespace TemplateName

def all : List TemplateName := [.interface, .serviceController, .apiIndex, .serviceIndex]

def word : TemplateName → String
  | .interface => "interface"
  | .serviceController => "serviceController"
  | .apiIndex => "apiIndex"
  | .serviceIndex => "serviceIndex"

/-- The name of the file that holds a template. -/
def fileName (name : TemplateName) : String := name.word ++ ".jinja"

end TemplateName

namespace Template

def header : String := "// @ts-ignore\n/* eslint-disable */\n"

/-- An index of functions. -/
def apiIndex (items : List IndexItem) : String :=
  header ++ String.join (items.map fun item =>
    "export \x7b " ++ item.name ++ " \x7d from './" ++ item.file ++ "';\n")

/-- An index of classes. -/
def serviceIndex (items : List IndexItem) : String :=
  header
    ++ String.join (items.map fun item =>
      "import * as " ++ item.name ++ " from './" ++ item.file ++ "';\n")
    ++ "\nexport default \x7b\n"
    ++ String.join (items.map fun item => "  " ++ item.name ++ ",\n")
    ++ "\x7d;\n"

/-- A text that is printed only under a condition. -/
def only (condition : Bool) (text : String) : String := if condition then text else ""

def propertyLine (nullable : Bool) (property : PropertyView) : String :=
  (match property.comment with
    | some comment => "  /** " ++ comment ++ " */\n"
    | none => "")
    ++ "  '" ++ property.name ++ "'" ++ only (!property.required) "?" ++ ": " ++ property.type
    ++ only (nullable && !property.required) " | null" ++ ";\n"

/-- One declaration with a word before it. -/
def declaration (nullable : Bool) (before : String) : DeclarationView → String
  | .interface name parents properties =>
    before ++ "interface " ++ name
      ++ only (!parents.isEmpty) (" extends " ++ ", ".intercalate parents) ++ " \x7b\n"
      ++ String.join (properties.map (propertyLine nullable)) ++ "\x7d\n"
  | .enumeration name type => before ++ "enum " ++ name ++ " " ++ type ++ "\n"
  | .typeAlias name type => before ++ "type " ++ name ++ " = " ++ type ++ ";\n"

/-- Characters that end a line, apart from a carriage return before a line feed. -/
def endsLine (c : Char) : Bool :=
  (10 ≤ c.toNat && c.toNat ≤ 13) || (28 ≤ c.toNat && c.toNat ≤ 30) || c.toNat == 0x85
    || c.toNat == 0x2028 || c.toNat == 0x2029

/-- The lines of a text; an end after the last line does not start another. -/
def linesFrom : List Char → List Char → List (List Char)
  | [], [] => []
  | current, [] => [current.reverse]
  | current, '\r' :: '\n' :: rest => current.reverse :: linesFrom [] rest
  | current, c :: rest =>
    if endsLine c then current.reverse :: linesFrom [] rest else linesFrom (c :: current) rest

/-- Indents all lines that are not empty, and the first one always, by two blanks. -/
def indent (text : String) : String :=
  match linesFrom [] (text.toList ++ ['\n']) with
  | [] => ""
  | first :: rest =>
    String.ofList (Text.join ['\n'] ((' ' :: ' ' :: first) :: rest.map fun line =>
      if line.isEmpty then line else ' ' :: ' ' :: line))

/-- The file of all declarations, inside a namespace if there is one. -/
def interface (namespaceName : String) (nullable : Bool) (declarations : List DeclarationView) :
    String :=
  header ++
    if namespaceName = "" then
      String.join (declarations.map fun view =>
        "\n" ++ declaration nullable "declare " view ++ "\n")
    else
      "\ndeclare namespace " ++ namespaceName ++ " \x7b\n"
        ++ String.join (declarations.map fun view => indent (declaration nullable "" view) ++ "\n")
        ++ "\x7d\n"

/-- The type of the parameters of a function. -/
def parametersType (namespaceName : String) (view : FunctionView) : String :=
  only (namespaceName ≠ "") (namespaceName ++ ".") ++ view.typeName

/-- The arguments of a function, one a line. -/
def arguments (namespaceName : String) (view : FunctionView) : String :=
  only view.hasParameters ("  params: " ++ parametersType namespaceName view ++ ",\n")
    ++ (match view.body with
      | some (type, _) => "  body: " ++ type ++ ",\n"
      | none => "")
    ++ String.join (view.uploads.map fun (title, multiple) =>
      "  " ++ title ++ "?: File" ++ only multiple "[]" ++ ",\n")
    ++ "  options?: \x7b [key: string]: any \x7d,\n"

/-- Takes the path parameters out of the parameters. -/
def pathParameters (view : FunctionView) : String :=
  only (!view.pathParameters.isEmpty)
    ("  const \x7b " ++ String.join (view.pathParameters.map fun (name, bound) =>
      "'" ++ name ++ "': " ++ bound ++ ", ") ++ "...queryParams \x7d = params;\n")

def appendUpload (title : String) (multiple : Bool) : String :=
  "\n  if (" ++ title ++ ") \x7b\n"
    ++ (if multiple then
        "    " ++ title ++ ".forEach((f) => formData.append('" ++ title ++ "', f || ''));\n"
      else "    formData.append('" ++ title ++ "', " ++ title ++ ");\n")
    ++ "  \x7d\n"

def appendBody : String :=
  "\n  Object.keys(body).forEach((ele) => \x7b\n" ++
  "    const item = (body as any)[ele];\n" ++
  "    if (item !== undefined && item !== null) \x7b\n" ++
  "      formData.append(\n" ++
  "        ele,\n" ++
  "        typeof item === 'object' && !(item instanceof File) ? JSON.stringify(item) : item,\n" ++
  "      );\n" ++
  "    \x7d\n" ++
  "  \x7d);\n"

/-- Fills a form with the uploads and the fields of the body. -/
def formData (view : FunctionView) : String :=
  only view.hasFormData
    ("  const formData = new FormData();\n"
      ++ String.join (view.uploads.map fun (title, multiple) => appendUpload title multiple)
      ++ only view.body.isSome appendBody)

/-- The header line for the media type of the body, which a form sets itself. -/
def contentType (view : FunctionView) : String :=
  match view.body with
  | some (_, mediaType) =>
    only (mediaType ≠ "" && !view.hasFormData)
      ("    headers: \x7b\n      'Content-Type': '" ++ mediaType ++ "',\n    \x7d,\n")
  | none => ""

def sentParameters (view : FunctionView) : String :=
  if !view.pathParameters.isEmpty then "    params: \x7b ...queryParams \x7d,\n"
  else only view.hasParameters "    params: \x7b ...params \x7d,\n"

def sentData (view : FunctionView) : String :=
  if view.hasFormData then "    data: formData,\n    requestType: 'form',\n"
  else only view.body.isSome "    data: body,\n"

/-- The call that sends the request. -/
def request (view : FunctionView) : String :=
  "\n  return request<" ++ view.responseType ++ ">(\x60" ++ view.path ++ "\x60, \x7b\n"
    ++ "    method: '" ++ view.method ++ "',\n"
    ++ contentType view ++ sentParameters view ++ sentData view
    ++ (match view.traceId with
      | some traceId => "    traceId: '" ++ traceId ++ "',\n"
      | none => "")
    ++ "    ...(options || \x7b\x7d),\n  \x7d);\n"

/-- The comment above a function. -/
def functionComment (view : FunctionView) : String :=
  "\n/** " ++ view.comment ++ " " ++ view.method ++ " " ++ view.pathInComment ++ " */\n"
    ++ only view.deprecated "/** @deprecated */\n"

def function (namespaceName : String) (view : FunctionView) : String :=
  functionComment view
    ++ "export async function " ++ view.functionName ++ "(\n"
    ++ arguments namespaceName view ++ ") \x7b\n"
    ++ pathParameters view ++ formData view ++ request view ++ "\x7d\n"

/-- The file of some functions. -/
def serviceController (namespaceName requestImport : String) (views : List FunctionView) :
    String :=
  header ++ requestImport ++ "\n" ++ String.join (views.map (function namespaceName))

end Template

end ApiBindings
