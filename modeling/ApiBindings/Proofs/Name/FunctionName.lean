import ApiBindings.Name.Namer
import ApiBindings.Name.Registry
import ApiBindings.Proofs.Name.TypeName

/-!
# Legal function names

A function is named by its operation id, or by its method and what comes of a path. An id loses what
a name cannot hold before its separators are taken out, so it may be empty afterwards, start with a
digit or be a reserved word; a method in front keeps all of this away, unless nothing follows it.
-/
namespace ApiBindings

namespace Spelling

def startsWithDigit (name : String) : Bool := (name.toList.head?.map Char.isDigit).getD false

/-- A text that can name a function: letters, digits, underscores and dollar signs, of which a digit
is not the first, and no reserved word. -/
structure Legal (name : String) : Prop where
  present : name ≠ ""
  characters : ∀ c ∈ name.toList, isFunctionChar c = true
  start : startsWithDigit name = false
  unreserved : TypeName.isReserved name = false

/-- A number behind a name makes it neither better nor worse, but for a reserved word. -/
theorem legal_numbered_iff {base : String} {k : Nat} (blank : base = "" → k ≤ 1) :
    Legal (Registry.numbered base k) ↔
      base ≠ "" ∧ (∀ c ∈ base.toList, isFunctionChar c = true) ∧ startsWithDigit base = false ∧
        (k ≤ 1 → TypeName.isReserved base = false) := by
  unfold Registry.numbered
  split
  · rename_i first
    exact ⟨fun legal => ⟨legal.present, legal.characters, legal.start, fun _ => legal.unreserved⟩,
      fun ⟨present, characters, start, unreserved⟩ =>
        ⟨present, characters, start, unreserved first⟩⟩
  · -- The number is an underscore and digits, and the base name, which stands in front of it, is
    -- not empty.
    rename_i later
    have present : base ≠ "" := fun none => later (blank none)
    have head : (base ++ "_" ++ toString k).toList.head? = base.toList.head? := by
      obtain ⟨c, rest, spelled⟩ := List.exists_cons_of_ne_nil
        (fun nothing => present (String.toList_eq_nil_iff.mp nothing))
      simp [spelled]
    constructor
    · intro legal
      refine ⟨present, fun c member => legal.characters c (by simp [member]), ?_,
        fun first => absurd first later⟩
      rw [startsWithDigit, ← head]
      exact legal.start
    · rintro ⟨_, characters, start, _⟩
      refine ⟨by simp [present], fun c member => ?_, by rw [startsWithDigit, head]; exact start, ?_⟩
      · simp only [String.toList_append, List.mem_append] at member
        rcases member with (inBase | underscore) | digit
        · exact characters c inBase
        · obtain rfl : c = '_' := by simpa using underscore
          rfl
        · have digit := Text.isDigit_of_mem_toString digit
          simp [isFunctionChar, Text.isAsciiWord, Char.isAlphanum, digit]
      · exact TypeName.isReserved_eq_false (c := '_') (by simp) (by decide)

theorem isAscii_of_isFunctionChar {c : Char} (word : isFunctionChar c = true) :
    Text.isAscii c = true := by
  rw [Text.isAscii_iff]
  simp only [isFunctionChar, Text.isAsciiWord, Bool.or_eq_true, beq_iff_eq,
    Text.isAlphanum_iff] at word
  rcases word with (letter | rfl) | rfl
  · omega
  · decide
  · decide

theorem isFunctionChar_of_isLower {c : Char} (small : c.isLower = true) :
    isFunctionChar c = true := by
  simp [isFunctionChar, Text.isAsciiWord_of_isLower small]

theorem isIdeograph_eq_false_of_isFunctionChar {c : Char} (word : isFunctionChar c = true) :
    Text.isIdeograph c = false := by
  have ascii := (Text.isAscii_iff c).mp (isAscii_of_isFunctionChar word)
  simp [Text.isIdeograph]
  omega

@[simp] theorem isFunctionChar_toLower (c : Char) :
    isFunctionChar c.toLower = isFunctionChar c := by
  simp [isFunctionChar, Text.isAsciiWord, Text.toLower_beq]

@[simp] theorem isSeparator_toLower (c : Char) :
    TypeName.isSeparator c.toLower = TypeName.isSeparator c := by
  simp [TypeName.isSeparator, Text.toLower_beq]

/-- Two texts that differ in the case of their letters only. -/
def SameLetters (one other : String) : Prop :=
  one.toList.map Char.toLower = other.toList.map Char.toLower

namespace SameLetters

variable {one other : String}

theorem eq_empty (same : SameLetters one other) : one = "" ↔ other = "" := by
  rw [← String.toList_eq_nil_iff, ← String.toList_eq_nil_iff, ← List.map_eq_nil_iff, same,
    List.map_eq_nil_iff]

theorem startsWithDigit (same : SameLetters one other) :
    startsWithDigit one = Spelling.startsWithDigit other := by
  have head (name : String) : Spelling.startsWithDigit name =
      ((name.toList.map Char.toLower).head?.map Char.isDigit).getD false := by
    rw [Spelling.startsWithDigit, List.head?_map, Option.map_map]
    congr 1
    cases name.toList.head? <;> simp
  rw [head, head, same]

theorem characters (same : SameLetters one other)
    (word : ∀ c ∈ other.toList, isFunctionChar c = true) :
    ∀ c ∈ one.toList, isFunctionChar c = true := by
  intro c member
  have lowered : c.toLower ∈ other.toList.map Char.toLower := same ▸ List.mem_map_of_mem member
  obtain ⟨d, inOther, alike⟩ := List.mem_map.mp lowered
  rw [← isFunctionChar_toLower, ← alike, isFunctionChar_toLower]
  exact word d inOther

theorem file (same : SameLetters one other) : SameLetters (file one) (Spelling.file other) := by
  have lowered (name : String) : (Spelling.file name).toList.map Char.toLower =
      (name.toList.map Char.toLower).filter fun c => !TypeName.isSeparator c := by
    rw [toList_file, List.filter_map]
    congr 2
    funext c
    simp
  rw [SameLetters, lowered, lowered, same]

end SameLetters

theorem sameLetters_lowerFirst {name : String}
    (word : ∀ c ∈ name.toList, isFunctionChar c = true) : SameLetters (lowerFirst name) name := by
  rw [SameLetters, lowerFirst, String.toList_ofList]
  cases spelled : name.toList with
  | nil => rfl
  | cons c rest =>
    have ascii := isAscii_of_isFunctionChar (word c (by simp [spelled]))
    simp [Text.lowerFirst_cons ascii]

theorem isSeparator_eq_false_of_isLower {c : Char} (small : c.isLower = true) :
    TypeName.isSeparator c = false := by
  rw [← Bool.not_eq_true]
  intro separator
  simp [TypeName.isLower_of_isSeparator separator] at small

/-- Small letters have no separators among them. -/
theorem file_of_small {name : String} (small : ∀ c ∈ name.toList, c.isLower = true) :
    file name = name := by
  apply String.toList_inj.mp
  rw [toList_file, List.filter_eq_self]
  intro c member
  simp [isSeparator_eq_false_of_isLower (small c member)]

/-- A text that starts with a small letter. -/
def StartsSmall (name : String) : Prop := ∃ c rest, name.toList = c :: rest ∧ c.isLower = true

namespace StartsSmall

theorem of_small {name : String} (present : name ≠ "")
    (small : ∀ c ∈ name.toList, c.isLower = true) : StartsSmall name := by
  obtain ⟨c, rest, spelled⟩ := List.exists_cons_of_ne_nil
    (fun nothing => present (String.toList_eq_nil_iff.mp nothing))
  exact ⟨c, rest, spelled, small c (by simp [spelled])⟩

variable {name : String}

theorem append (starts : StartsSmall name) (other : String) : StartsSmall (name ++ other) := by
  obtain ⟨c, rest, spelled, small⟩ := starts
  exact ⟨c, rest ++ other.toList, by simp [spelled], small⟩

theorem file (starts : StartsSmall name) : StartsSmall (file name) := by
  obtain ⟨c, rest, spelled, small⟩ := starts
  exact ⟨c, rest.filter fun c => !TypeName.isSeparator c,
    by simp [toList_file, spelled, isSeparator_eq_false_of_isLower small], small⟩

theorem lowerFirst (starts : StartsSmall name) : lowerFirst name = name := by
  obtain ⟨c, rest, spelled, small⟩ := starts
  rw [Spelling.lowerFirst, spelled, Text.lowerFirst_cons (Text.isAscii_of_isLower small),
    Char.toLower_eq_of_not_isUpper (Char.not_isUpper_of_isLower small), ← spelled,
    String.ofList_toList]

theorem present (starts : StartsSmall name) : name ≠ "" := by
  rintro rfl
  obtain ⟨c, rest, spelled, _⟩ := starts
  simp at spelled

theorem start (starts : StartsSmall name) : startsWithDigit name = false := by
  obtain ⟨c, rest, spelled, small⟩ := starts
  have bounds := (Text.isLower_iff c).mp small
  have notDigit : c.isDigit = false := by
    rw [← Bool.not_eq_true, Text.isDigit_iff]
    omega
  simp [startsWithDigit, spelled, notDigit]

end StartsSmall

theorem isAsciiWord_of_mem_upperFirst {text : List Char}
    (word : ∀ c ∈ text, Text.isAsciiWord c = true) {c : Char} (member : c ∈ Text.upperFirst text) :
    Text.isAsciiWord c = true := by
  cases text with
  | nil => simp [Text.upperFirst] at member
  | cons d rest =>
    have first := word d List.mem_cons_self
    have ascii : Text.isAscii d = true :=
      isAscii_of_isFunctionChar (by simp [isFunctionChar, first])
    rw [Text.upperFirst_cons ascii, List.mem_cons] at member
    rcases member with rfl | later
    · cases upper : d.isAlphanum with
      | true => simp [Text.isAsciiWord, upper]
      | false =>
        obtain rfl : d = '_' := by simpa [Text.isAsciiWord, upper] using first
        rfl
    · exact word c (List.mem_cons_of_mem d later)

/-- A mark starts with a capital letter, which stays. -/
theorem upperFirst_mark (name : String) :
    Text.upperFirst (TypeName.unreadableMark ++ name).toList =
      TypeName.unreadableMark.toList ++ name.toList := by
  have spelled : (TypeName.unreadableMark ++ name).toList =
      'P' :: ("inyin_".toList ++ name.toList) := by
    rw [String.toList_append]
    rfl
  rw [spelled, Text.upperFirst_cons (by decide)]
  rfl

theorem mem_file_of_isIdeograph {name : String} {c : Char} (ideograph : Text.isIdeograph c = true)
    (member : c ∈ name.toList) : c ∈ (file name).toList := by
  rw [toList_file, List.mem_filter]
  refine ⟨member, ?_⟩
  rw [Bool.not_eq_true', ← Bool.not_eq_true]
  intro separator
  simp [TypeName.isIdeograph_of_isSeparator separator] at ideograph

theorem isFunctionChar_of_mem_function {operationId : String} {c : Char}
    (member : c ∈ (function operationId).toList) : isFunctionChar c = true := by
  rw [function, String.toList_ofList] at member
  exact (List.mem_filter.mp ((List.dropWhile_sublist _).subset member)).2

end Spelling

namespace Operation

theorem isLower_of_mem_methods :
    ∀ method ∈ methods, ∀ c ∈ method.toList, c.isLower = true := by
  have all : (methods.all fun method => method.toList.all Char.isLower) = true := by decide
  simpa only [List.all_eq_true] using all

theorem ne_empty_of_mem_methods : ∀ method ∈ methods, method ≠ "" := by
  decide

theorem startsSmall_of_mem_methods {method : String} (usual : method ∈ methods) :
    Spelling.StartsSmall method :=
  .of_small (ne_empty_of_mem_methods method usual) (isLower_of_mem_methods method usual)

theorem isFunctionChar_of_mem_upper_methods :
    ∀ method ∈ methods, ∀ c ∈ (Spelling.upper method).toList, Spelling.isFunctionChar c = true := by
  have all : (methods.all fun method =>
      (Spelling.upper method).toList.all Spelling.isFunctionChar) = true := by
    decide +kernel
  simpa only [List.all_eq_true] using all

/-- Of all methods one alone starts a reserved word, which is all of it. -/
theorem reservedWords_of_methods :
    ∀ method ∈ methods, ∀ word ∈ TypeName.reservedWords,
      method.toList <+: word.toList → method = "delete" ∧ word = "delete" := by
  decide +kernel

end Operation

namespace Namer

open Spelling

/-- The segments of a path behind the shared ones. -/
def segments (namer : Namer) (path : String) : List (List Char) :=
  (Text.cut '/' (Text.replaceFirst namer.base.toList [] path.toList)).filter (· ≠ [])

/-- What a segment is named by: the parameter that it is, or itself. -/
def rawName (segment : List Char) : List Char := (parameter? segment).getD segment

/-- A segment as it is spelled before it is read. -/
def spelled (namer : Namer) (segment : List Char) : List Char :=
  Text.eraseAll namer.namespaceName.toList (TypeName.spelling (rawName segment))

variable [Text.Romanization]

theorem value_segmentName (namer : Namer) (segment : List Char) :
    (namer.segmentName segment).value =
      (if (parameter? segment).isSome then "By" else "") ++ upperFirst
        (TypeName.sanitize namer.namespaceName (String.ofList (rawName segment))).value := by
  unfold segmentName rawName
  cases parameter? segment with
  | none => simp
  | some name => simp

theorem value_pathName (namer : Namer) (path : String) :
    (namer.pathName path).value =
      String.join ((namer.segments path).map fun segment => (namer.segmentName segment).value) := by
  simp [pathName, segments, Noted.value_mapM]

/-- A segment that is nothing but a parameter, in braces or behind a colon. -/
inductive IsParameter (name : List Char) : List Char → Prop
  | braced : IsParameter name ('\x7b' :: (name ++ ['\x7d']))
  | colon : IsParameter name (':' :: name)

omit [Text.Romanization] in
/-- A parameter has a name, and one of more than a line is not seen. -/
theorem parameter?_eq_some {segment name : List Char} :
    parameter? segment = some name ↔ IsParameter name segment ∧ name ≠ [] ∧ '\n' ∉ name := by
  constructor
  · intro named
    unfold parameter? at named
    extract_lets oneLine braced at named
    have sound (kept : List Char) (line : oneLine kept = true) : kept ≠ [] ∧ '\n' ∉ kept := by
      simpa [oneLine] using line
    have inBraces (kept : List Char) (found : braced = some kept) :
        IsParameter kept segment ∧ kept ≠ [] ∧ '\n' ∉ kept := by
      unfold braced at found
      split at found
      · rename_i rest
        split at found
        · rename_i closed
          obtain ⟨last, line⟩ := (Bool.and_eq_true _ _).mp closed
          obtain ⟨inner, rfl⟩ := List.getLast?_eq_some_iff.mp (of_decide_eq_true last)
          obtain rfl := Option.some.inj found
          rw [List.dropLast_concat] at line ⊢
          exact ⟨.braced, sound inner line⟩
        · simp at found
      · simp at found
    -- Only a segment that is not in braces may be one behind a colon.
    clear_value braced
    split at named
    · exact Option.some.inj named ▸ inBraces _ rfl
    · split at named
      · rename_i line
        obtain rfl := Option.some.inj named
        exact ⟨.colon, sound _ line⟩
      · simp at named
    · simp at named
  · rintro ⟨whole, present, oneLine⟩
    cases whole with
    | braced => simp [parameter?, present, oneLine]
    | colon => simp [parameter?, present, oneLine]

/-- An ideograph in a segment of a path that gets a mark, and so is not read. -/
def Unread (namer : Namer) (path : String) (c : Char) : Prop :=
  Text.isIdeograph c = true ∧ ∃ segment ∈ namer.segments path,
    TypeName.needsMark (namer.spelled segment) = true ∧ c ∈ namer.spelled segment

/-- Where names are read as word characters, what else is in the name of a segment was not read. -/
theorem mem_segmentName (words : Text.Romanization.ReadsWords) {namer : Namer} {path : String}
    {segment : List Char} (among : segment ∈ namer.segments path) {c : Char}
    (member : c ∈ (namer.segmentName segment).value.toList) :
    Text.isAsciiWord c = true ∨ namer.Unread path c := by
  rw [value_segmentName, String.toList_append, List.mem_append] at member
  rcases member with marker | inUpper
  · refine .inl (List.all_eq_true.mp ?_ c marker)
    split <;> decide
  · rw [upperFirst, String.toList_ofList] at inUpper
    rcases TypeName.sanitize_cases words namer.namespaceName _ with word | ⟨marked, value⟩
    · refine .inl (isAsciiWord_of_mem_upperFirst word inUpper)
    · rw [value, upperFirst_mark, List.mem_append, String.toList_ofList] at inUpper
      rcases inUpper with mark | inName
      · exact .inl (TypeName.isAsciiWord_of_mem_marks (by simp) mark)
      · -- Behind a mark nothing is read, so what is no word character is an ideograph here.
        obtain ⟨inSpelling, word | ideograph⟩ := TypeName.mem_withoutBlanks_spelling inName
        · exact .inl word
        · rw [String.toList_ofList] at marked inName
          exact .inr ⟨ideograph, segment, among, marked, (List.mem_filter.mp inName).1⟩

theorem mem_pathName (words : Text.Romanization.ReadsWords) {namer : Namer} {path : String}
    {c : Char} (member : c ∈ (namer.pathName path).value.toList) :
    isFunctionChar c = true ∨ namer.Unread path c := by
  rw [value_pathName, String.toList_join, List.mem_flatMap] at member
  obtain ⟨name, named, inText⟩ := member
  obtain ⟨segment, among, rfl⟩ := List.mem_map.mp named
  refine (mem_segmentName words among inText).imp_left fun word => ?_
  simp [isFunctionChar, word]

omit [Text.Romanization] in
theorem isFunctionChar_of_mem_unreserved {operationId method : String}
    (usual : method ∈ Operation.methods) :
    ∀ c ∈ (unreserved (function operationId) method).toList, isFunctionChar c = true := by
  intro c member
  unfold unreserved at member
  split at member
  · rw [String.toList_append, String.toList_append, List.mem_append, List.mem_append] at member
    rcases member with (inName | word) | inMethod
    · exact isFunctionChar_of_mem_function inName
    · exact List.all_eq_true.mp (by decide : "Using".toList.all isFunctionChar = true) c word
    · exact Operation.isFunctionChar_of_mem_upper_methods method usual c inMethod
  · exact isFunctionChar_of_mem_function member

omit [Text.Romanization] in
theorem unreserved_eq_empty {name : String} (method : String) :
    unreserved name method = "" ↔ name = "" := by
  unfold unreserved
  split
  · rename_i reserved
    refine ⟨fun nothing => ?_, fun nothing => ?_⟩
    · simp at nothing
    · rw [nothing] at reserved
      simp [TypeName.isReserved, TypeName.reservedWords] at reserved
  · rfl

theorem value_plainName_of_present {namer : Namer} {operation : Operation} {operationId : String}
    (given : operation.operationId? = some operationId) (present : function operationId ≠ "") :
    (namer.plainName operation).value =
      unreserved (function operationId) operation.method := by
  have kept : unreserved (function operationId) operation.method ≠ "" :=
    fun nothing => present ((unreserved_eq_empty _).mp nothing)
  simp [plainName, given, Option.filter, kept]

/-- A name by default comes from an operation id of which something is left, or from the path. -/
theorem plainName_cases (namer : Namer) (operation : Operation) :
    (∃ operationId, operation.operationId? = some operationId ∧ function operationId ≠ "" ∧
        (namer.plainName operation).value = unreserved (function operationId) operation.method) ∨
      (namer.plainName operation).value =
        operation.method ++ (namer.pathName operation.path).value := by
  cases given : operation.operationId? with
  | none => exact .inr (by simp [plainName, given])
  | some operationId =>
    by_cases present : function operationId = ""
    · refine .inr ?_
      have blank := (unreserved_eq_empty operation.method).mpr present
      simp [plainName, given, Option.filter, blank]
    · exact .inl ⟨operationId, rfl, present, value_plainName_of_present given present⟩

omit [Text.Romanization] in
/-- A shortened name is the method with an end of the name behind it. -/
theorem shorten_cases (namer : Namer) (method name : String) :
    namer.shorten method name = name ∨
      ∃ tail, namer.shorten method name = method ++ tail ∧ tail.toList ⊆ name.toList := by
  unfold shorten
  split
  · exact .inl rfl
  · split
    · split
      · refine .inr ⟨_, rfl, ?_⟩
        rw [String.toList_ofList]
        exact List.drop_subset _ _
      · exact .inl rfl
    · exact .inl rfl

omit [Text.Romanization] in
/-- A name that starts with the method still does when it is shortened. -/
theorem exists_shorten_append (namer : Namer) (method rest : String) :
    ∃ tail, namer.shorten method (method ++ rest) = method ++ tail ∧
      tail.toList ⊆ method.toList ++ rest.toList := by
  rcases namer.shorten_cases method (method ++ rest) with whole | ⟨tail, short, inside⟩
  · exact ⟨rest, whole, List.subset_append_right _ _⟩
  · exact ⟨tail, short, by rwa [String.toList_append] at inside⟩

/-- An operation is named by all that is left of its id. -/
structure NamedWhole (namer : Namer) (operation : Operation) (operationId : String) : Prop where
  given : operation.operationId? = some operationId
  present : function operationId ≠ ""
  free : TypeName.isReserved (function operationId) = false
  whole : namer.shorten operation.method (function operationId) = function operationId

/-- All that can be wrong with the `k`-th function of one name. -/
inductive Spoilt (namer : Namer) (operation : Operation) (k : Nat) : Prop
  /-- The ideographs of a path segment that starts with a digit are not read. -/
  | unread (c : Char) (unread : namer.Unread operation.path c)
      (kept : c ∈ (namer.functionName operation).value.toList)
  /-- An operation id holds nothing but separators. -/
  | blank (operationId : String) (named : NamedWhole namer operation operationId)
      (nothing : file (function operationId) = "")
  /-- A digit stands behind the first separators of an operation id. -/
  | digit (operationId : String) (named : NamedWhole namer operation operationId)
      (start : startsWithDigit (file (function operationId)) = true)
  /-- An operation id is a reserved word but for its first letter or its separators. -/
  | word (operationId : String) (named : NamedWhole namer operation operationId)
      (reserved : TypeName.isReserved (file (lowerFirst (function operationId))) = true)
      (first : k ≤ 1)
  /-- Nothing stands behind the method, which is a reserved word. -/
  | bare (tail : String) (method : operation.method = "delete")
      (spelled : (namer.functionName operation).value = "delete" ++ tail)
      (nothing : file tail = "") (first : k ≤ 1)

variable {namer : Namer} {operation : Operation} {k : Nat}

theorem value_functionName (default : override (namer.hooks.functionOf operation) = none) :
    (namer.functionName operation).value =
      lowerFirst (namer.shorten operation.method (namer.plainName operation).value) := by
  simp [functionName, default]

theorem NamedWhole.value {operationId : String} (named : NamedWhole namer operation operationId)
    (default : override (namer.hooks.functionOf operation) = none) :
    (namer.functionName operation).value = lowerFirst (function operationId) := by
  have plain : unreserved (function operationId) operation.method = function operationId := by
    simp [unreserved, named.free]
  rw [value_functionName default, value_plainName_of_present named.given named.present, plain,
    named.whole]

/-- The file of an operation that is named by its id is the one of the id, but for the case of a
letter. -/
theorem NamedWhole.sameLetters {operationId : String}
    (named : NamedWhole namer operation operationId)
    (default : override (namer.hooks.functionOf operation) = none) :
    SameLetters (file (namer.functionName operation).value) (file (function operationId)) := by
  rw [named.value default]
  exact (sameLetters_lowerFirst fun _ member => isFunctionChar_of_mem_function member).file

theorem not_legal_of_spoilt (default : override (namer.hooks.functionOf operation) = none)
    (blank : file (namer.functionName operation).value = "" → k ≤ 1)
    (spoilt : Spoilt namer operation k) :
    ¬ Legal (Registry.numbered (file (namer.functionName operation).value) k) := by
  rw [legal_numbered_iff blank]
  rintro ⟨present, characters, start, unreserved⟩
  -- What spoils a name breaks one of the four demands on it.
  cases spoilt with
  | unread c unread kept =>
    have ideograph := unread.1
    have notWord := isIdeograph_eq_false_of_isFunctionChar
      (characters c (mem_file_of_isIdeograph ideograph kept))
    simp [ideograph] at notWord
  | blank operationId named nothing =>
    exact present ((named.sameLetters default).eq_empty.mpr nothing)
  | digit operationId named digit =>
    rw [(named.sameLetters default).startsWithDigit, digit] at start
    simp at start
  | word operationId named reserved first =>
    have free := unreserved first
    rw [named.value default, reserved] at free
    simp at free
  | bare tail _ spelled nothing first =>
    have free := unreserved first
    rw [spelled, file_append, nothing] at free
    revert free
    decide

omit [Text.Romanization] in
/-- What a reserved word gets behind it makes it the name of a function. -/
theorem legal_of_reserved {word method : String}
    (characters : ∀ c ∈ (unreserved word method).toList, isFunctionChar c = true)
    (reserved : TypeName.isReserved word = true) (k : Nat) :
    Legal (Registry.numbered (file (lowerFirst (unreserved word method))) k) := by
  have spelled : unreserved word method = word ++ ("Using" ++ upper method) := by
    simp [unreserved, reserved, String.append_assoc]
  have small := TypeName.isLower_of_reservedWords word (List.contains_iff_mem.mp reserved)
  have present : word ≠ "" := by
    rintro rfl
    revert reserved
    decide
  have starts := (StartsSmall.of_small present small).append ("Using" ++ upper method)
  rw [← spelled] at starts
  rw [starts.lowerFirst, legal_numbered_iff fun nothing => absurd nothing starts.file.present]
  refine ⟨starts.file.present, fun c member => ?_, starts.file.start, fun _ => ?_⟩
  · rw [toList_file] at member
    exact characters c (List.mem_filter.mp member).1
  · refine TypeName.isReserved_eq_false (c := 'U') ?_ (by decide)
    rw [toList_file, spelled, List.mem_filter]
    exact ⟨by simp, by decide⟩

/-- The names that neither a whole id nor a reserved word gives start with the method. -/
theorem functionName_cases (words : Text.Romanization.ReadsWords)
    (usual : operation.method ∈ Operation.methods)
    (default : override (namer.hooks.functionOf operation) = none) :
    (∃ operationId, NamedWhole namer operation operationId) ∨
      (∃ operationId, TypeName.isReserved (function operationId) = true ∧
        (namer.functionName operation).value =
          lowerFirst (unreserved (function operationId) operation.method)) ∨
      ∃ tail, (namer.functionName operation).value = operation.method ++ tail ∧
        ∀ c ∈ tail.toList, isFunctionChar c = true ∨ namer.Unread operation.path c := by
  have small := Operation.isLower_of_mem_methods _ usual
  -- A method is of small letters, so there is no first letter to be lowered.
  have starts (tail : String) : lowerFirst (operation.method ++ tail) = operation.method ++ tail :=
    ((Operation.startsSmall_of_mem_methods usual).append tail).lowerFirst
  have value := value_functionName default
  rcases plainName_cases namer operation with ⟨operationId, given, present, plain⟩ | byPath
  · rw [plain] at value
    rcases shorten_cases namer operation.method
      (unreserved (function operationId) operation.method) with whole | ⟨tail, short, inside⟩
    · rw [whole] at value
      cases reserved : TypeName.isReserved (function operationId) with
      | true => exact .inr (.inl ⟨operationId, reserved, value⟩)
      | false =>
        have free : unreserved (function operationId) operation.method = function operationId := by
          simp [unreserved, reserved]
        exact .inl ⟨operationId, given, present, reserved, free ▸ whole⟩
    · rw [short, starts] at value
      exact .inr (.inr ⟨tail, value, fun c member =>
        .inl (isFunctionChar_of_mem_unreserved usual c (inside member))⟩)
  · obtain ⟨tail, short, inside⟩ := namer.exists_shorten_append operation.method
      (namer.pathName operation.path).value
    rw [byPath, short, starts] at value
    refine .inr (.inr ⟨tail, value, fun c member => ?_⟩)
    rcases List.mem_append.mp (inside member) with inMethod | inPath
    · exact .inl (isFunctionChar_of_isLower (small c inMethod))
    · exact mem_pathName words inPath

theorem legal_of_not_spoilt (words : Text.Romanization.ReadsWords)
    (usual : operation.method ∈ Operation.methods)
    (default : override (namer.hooks.functionOf operation) = none)
    (blank : file (namer.functionName operation).value = "" → k ≤ 1)
    (sound : ¬ Spoilt namer operation k) :
    Legal (Registry.numbered (file (namer.functionName operation).value) k) := by
  rcases functionName_cases words usual default with ⟨operationId, named⟩ |
    ⟨operationId, reserved, value⟩ | ⟨tail, value, characters⟩
  · -- An id gives a name of the same letters, so each condition is one on the id.
    have same := named.sameLetters default
    rw [legal_numbered_iff blank]
    refine ⟨fun nothing => sound (.blank operationId named (same.eq_empty.mp nothing)),
      same.characters fun c member => ?_, ?_, fun first => ?_⟩
    · rw [toList_file] at member
      exact isFunctionChar_of_mem_function (List.mem_filter.mp member).1
    · rw [same.startsWithDigit, ← Bool.not_eq_true]
      exact fun digit => sound (.digit operationId named digit)
    · rw [named.value default, ← Bool.not_eq_true]
      exact fun reserved => sound (.word operationId named reserved first)
  · rw [value]
    exact legal_of_reserved (isFunctionChar_of_mem_unreserved usual) reserved k
  · -- The method is a good start, and the only reserved word that it may lead to is itself.
    have starts := Operation.startsSmall_of_mem_methods usual
    have small := Operation.isLower_of_mem_methods _ usual
    have method : file operation.method = operation.method := file_of_small small
    have starts' : StartsSmall (file (namer.functionName operation).value) := by
      rw [value]
      exact (starts.append tail).file
    rw [legal_numbered_iff blank]
    refine ⟨starts'.present, fun c member => ?_, starts'.start, fun first => ?_⟩
    · rw [toList_file, List.mem_filter] at member
      have kept := member.1
      rw [value, String.toList_append, List.mem_append] at kept
      rcases kept with inMethod | inTail
      · exact isFunctionChar_of_isLower (small c inMethod)
      · rcases characters c inTail with word | unread
        · exact word
        · exact absurd (.unread c unread member.1) sound
    · rw [← Bool.not_eq_true]
      intro reserved
      have listed := List.contains_iff_mem.mp reserved
      rw [value, file_append, method] at listed
      obtain ⟨bare, whole⟩ := Operation.reservedWords_of_methods _ usual _ listed (by simp)
      refine sound (.bare tail bare (bare ▸ value) ?_ first)
      rw [bare] at whole
      simpa using whole

/-- The `k`-th function of a name by default has a legal name, unless it is spoilt. -/
theorem legal_iff_not_spoilt (words : Text.Romanization.ReadsWords)
    (usual : operation.method ∈ Operation.methods)
    (default : override (namer.hooks.functionOf operation) = none)
    (blank : file (namer.functionName operation).value = "" → k ≤ 1) :
    Legal (Registry.numbered (file (namer.functionName operation).value) k) ↔
      ¬ Spoilt namer operation k :=
  ⟨fun legal spoilt => not_legal_of_spoilt default blank spoilt legal,
    legal_of_not_spoilt words usual default blank⟩

end Namer

end ApiBindings
