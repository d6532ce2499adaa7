import ApiBindings.Proofs.Name.TypeName

/-!
# Reading a name

A name without ideographs needs no reading, and a name that is marked gets none. So what a type name
owes to the romanization is little: at most it is asked that each ideograph becomes one word
character or more.
-/
namespace ApiBindings

namespace Text

theorem isBlank_of_isIdeograph {c : Char} (ideograph : isIdeograph c = true) :
    isBlank c = false := by
  have apart : (Table.blankRanges.all fun range =>
      range.2 < 0x4e00 || 0x9fa5 < range.1) = true := by decide +kernel
  simp only [List.all_eq_true, Bool.or_eq_true, decide_eq_true_eq] at apart
  simp only [isIdeograph, Bool.and_eq_true, decide_eq_true_eq] at ideograph
  have other : ¬ isAscii c = true := by
    rw [isAscii_iff]
    omega
  rw [isBlank, if_neg other, Table.covers, List.any_eq_false]
  intro range listed
  have outside := apart range listed
  simp
  omega

/-- A text of word characters and ideographs is read: a word character stays, and an ideograph
becomes some word characters. -/
inductive Reads : List Char → List Char → Prop
  | nil : Reads [] []
  | word {c : Char} {rest reading : List Char} (word : isAsciiWord c = true)
      (behind : Reads rest reading) : Reads (c :: rest) (c :: reading)
  | ideograph {c : Char} {rest syllable reading : List Char} (ideograph : isIdeograph c = true)
      (some : syllable ≠ []) (word : ∀ d ∈ syllable, isAsciiWord d = true)
      (behind : Reads rest reading) : Reads (c :: rest) (syllable ++ reading)

variable {text reading : List Char}

theorem Reads.isAsciiWord (reads : Reads text reading) : ∀ c ∈ reading, isAsciiWord c = true := by
  induction reads with
  | nil => simp
  | word word _ ih => exact List.forall_mem_cons.mpr ⟨word, ih⟩
  | ideograph _ _ word _ ih => exact List.forall_mem_append.mpr ⟨word, ih⟩

theorem Reads.ne_nil (reads : Reads text reading) (some : text ≠ []) : reading ≠ [] := by
  cases reads with
  | nil => exact absurd rfl some
  | word => exact List.cons_ne_nil _ _
  | ideograph _ syllable => exact List.append_ne_nil_of_left_ne_nil syllable _

theorem Reads.head? {c : Char} {rest : List Char} (reads : Reads (c :: rest) reading)
    (word : Text.isAsciiWord c = true) : reading.head? = some c := by
  cases reads with
  | word => rfl
  | ideograph ideograph => simp [isIdeograph_of_isAsciiWord word] at ideograph

/-- A text of word characters is read as it is. -/
theorem Reads.of_word (word : ∀ c ∈ text, Text.isAsciiWord c = true) : Reads text text := by
  induction text with
  | nil => exact .nil
  | cons c rest ih =>
    rw [List.forall_mem_cons] at word
    exact .word word.1 (ih word.2)

end Text

namespace TypeName

/-- The spelling of a raw name without the namespace. -/
def erased (namespaceName raw : String) : List Char :=
  Text.eraseAll namespaceName.toList (spelling raw.toList)

/-- The word characters and ideographs that are left of a raw name. -/
def left (namespaceName raw : String) : List Char := withoutBlanks (erased namespaceName raw)

/-- The type name of a raw name that is not reserved is made of what is left of it. -/
theorem value_sanitize_eq [Text.Romanization] (namespaceName raw : String) :
    (sanitize namespaceName raw).value =
      if isReserved raw then reservedMark ++ raw
      else if needsMark (erased namespaceName raw) then
        unreadableMark ++ String.ofList (left namespaceName raw)
      else String.ofList (latin (left namespaceName raw)) :=
  value_sanitize namespaceName raw

theorem mem_left {namespaceName raw : String} {c : Char} (member : c ∈ left namespaceName raw) :
    Text.isAsciiWord c = true ∨ Text.isIdeograph c = true :=
  (mem_withoutBlanks_spelling member).2

theorem trimBlanks_eq_nil {name : List Char} :
    Text.trimBlanks name = [] ↔ ∀ c ∈ name, Text.isBlank c = true := by
  unfold Text.trimBlanks Text.trim
  rw [List.reverse_eq_nil_iff, List.dropWhile_eq_nil_iff]
  constructor
  · intro behind c member
    -- A character stands in front of the first one that is no blank, or behind.
    have parts := List.takeWhile_append_dropWhile (p := Text.isBlank) (l := name)
    rw [← parts, List.mem_append] at member
    rcases member with first | later
    · exact List.mem_takeWhile_imp first
    · exact behind c (List.mem_reverse.mpr later)
  · intro blank c member
    exact blank c ((List.dropWhile_sublist _).subset (List.mem_reverse.mp member))

/-- A name needs a mark if it is blank, a lone underscore, or starts with a digit. -/
theorem needsMark_iff (name : List Char) :
    needsMark name = true ↔ (∀ c ∈ name, Text.isBlank c = true) ∨ name = ['_'] ∨
      ∃ c rest, name = c :: rest ∧ c.isDigit = true := by
  unfold needsMark
  rw [Bool.or_eq_true, Bool.or_eq_true, List.isEmpty_iff, trimBlanks_eq_nil, beq_iff_eq, or_assoc]
  cases name <;> simp

end TypeName

end ApiBindings
