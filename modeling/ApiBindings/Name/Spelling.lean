import ApiBindings.Name.TypeName

/-!
# Spelling of functions, files and classes

The rules that turn a name into the name of a function, of a file or of a class directory.
-/
namespace ApiBindings.Spelling

def upperFirst (text : String) : String := String.ofList (Text.upperFirst text.toList)
def lowerFirst (text : String) : String := String.ofList (Text.lowerFirst text.toList)
def upper (text : String) : String := String.ofList (Text.upper text.toList)
def removeAccents (text : String) : String := String.ofList (Text.removeAccents text.toList)

def isFunctionSeparator (c : Char) : Bool := TypeName.isSeparator c || c == '.'

def isFunctionChar (c : Char) : Bool := Text.isAsciiWord c || c == '$'

/-- An operation id in camel case, without what a function name cannot hold. -/
def function (operationId : String) : String :=
  let name := (Text.camel isFunctionSeparator operationId.toList).filter isFunctionChar
  String.ofList (name.dropWhile Char.isDigit)

/-- A name without separators. -/
def file (name : String) : String :=
  String.ofList (name.toList.filter fun c => !TypeName.isSeparator c)

theorem toList_file (name : String) :
    (file name).toList = name.toList.filter fun c => !TypeName.isSeparator c := by
  simp [file]

/-- A file is spelled part by part. -/
theorem file_append (one other : String) : file (one ++ other) = file one ++ file other := by
  apply String.toList_inj.mp
  simp [toList_file]

theorem underscore_notMem_file (name : String) : '_' ∉ (file name).toList := by
  simp [toList_file, TypeName.isSeparator]

/-- Drops each single separator before an ASCII word character and raises that character. -/
def joinSingles : List Char → List Char
  | [] => []
  | [c] => [c]
  | c :: d :: rest =>
    if TypeName.isSeparator c && Text.isAsciiWord d then d.toUpper :: joinSingles rest
    else c :: joinSingles (d :: rest)

/-- A tag as the name of a class: points count as underscores. -/
def className (tag : String) : String :=
  String.ofList (joinSingles (Text.replaceAll ['.'] ['_'] tag.toList))

/-- A function name that is not a reserved word: one that is gets the method behind it. -/
def unreserved (name method : String) : String :=
  if TypeName.isReserved name then name ++ "Using" ++ upper method else name

end ApiBindings.Spelling
