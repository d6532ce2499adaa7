import ApiBindings.Name.TypeName
import ApiBindings.Proofs.Outcome
import ApiBindings.Proofs.Text.Letter
import ApiBindings.Proofs.Text.Pieces
import ApiBindings.Proofs.Text.Romanization

/-!
# What is left of a raw name

A raw name that is no reserved word counts by its last segment alone. The digits of this segment
all stay in the type name, where ideographs are read without any, since camel case drops none.
-/
namespace ApiBindings.TypeName

theorem isLower_of_reservedWords :
    ∀ word ∈ reservedWords, ∀ c ∈ word.toList, c.isLower = true := by
  have all : (reservedWords.all fun word => word.toList.all Char.isLower) = true := by
    decide +kernel
  simpa only [List.all_eq_true] using all

theorem isAsciiWord_of_mem_marks {mark : String} (known : mark ∈ [reservedMark, unreadableMark])
    {c : Char} (member : c ∈ mark.toList) : Text.isAsciiWord c = true := by
  have all : ([reservedMark, unreadableMark].all fun mark =>
      mark.toList.all Text.isAsciiWord) = true := by
    decide +kernel
  simp only [List.all_eq_true] at all
  exact all mark known c member

/-- A reserved word holds nothing but small letters. -/
theorem isReserved_eq_false {name : String} {c : Char} (member : c ∈ name.toList)
    (other : c.isLower = false) : isReserved name = false := by
  cases reserved : isReserved name with
  | false => rfl
  | true =>
    have letter := isLower_of_reservedWords name (List.contains_iff_mem.mp reserved) c member
    simp [other] at letter

/-- The digits of a text without its accents, under which a superscript is a digit. -/
def digits (text : List Char) : Nat := (Text.removeAccents text).countP Char.isDigit

theorem digits_append (one other : List Char) :
    digits (one ++ other) = digits one + digits other := by
  simp [digits, Text.removeAccents]

theorem digits_cons (c : Char) (rest : List Char) : digits (c :: rest) = digits [c] + digits rest :=
  digits_append [c] rest

theorem digits_le_of_sublist {one other : List Char} (sublist : one.Sublist other) :
    digits one ≤ digits other := by
  induction sublist with
  | slnil => exact Nat.le_refl _
  | @cons _ other c _ ih => rw [digits_cons c other]; omega
  | @cons_cons one other c _ ih => rw [digits_cons c one, digits_cons c other]; omega

theorem isKept_of_isDigit {c : Char} (digit : c.isDigit = true) : isKept c = true := by
  simp [isKept, Text.isAsciiWord, Char.isAlphanum, digit]

theorem isSeparator_iff (c : Char) : isSeparator c = true ↔ c = '-' ∨ c = '_' ∨ c = ' ' := by
  simp [isSeparator, or_assoc]

theorem isDigit_of_isSeparator (c : Char) (separator : isSeparator c = true) :
    c.isDigit = false := by
  obtain rfl | rfl | rfl := (isSeparator_iff c).mp separator
  all_goals rfl

theorem isLower_of_isSeparator {c : Char} (separator : isSeparator c = true) :
    c.isLower = false := by
  obtain rfl | rfl | rfl := (isSeparator_iff c).mp separator
  all_goals rfl

theorem isIdeograph_of_isSeparator {c : Char} (separator : isSeparator c = true) :
    Text.isIdeograph c = false := by
  obtain rfl | rfl | rfl := (isSeparator_iff c).mp separator
  all_goals rfl

theorem isBlank_of_isDigit {c : Char} (digit : c.isDigit = true) : Text.isBlank c = false := by
  have bounds := (Text.isDigit_iff c).mp digit
  have ascii : Text.isAscii c = true := by
    rw [Text.isAscii_iff]
    omega
  rw [Text.isBlank, if_pos ascii]
  simp
  omega

theorem countP_isDigit_spelling (raw : List Char) :
    (spelling raw).countP Char.isDigit = digits (lastSegment raw) := by
  unfold spelling digits Text.camel
  rw [List.countP_filter]
  have kept : (fun c => c.isDigit && isKept c) = Char.isDigit := by
    funext c
    cases digit : c.isDigit with
    | false => rfl
    | true => simp [isKept_of_isDigit digit]
  rw [kept, Text.countP_isDigit_camelFrom isDigit_of_isSeparator List.countP_nil]

theorem countP_isDigit_withoutBlanks (name : List Char) :
    (withoutBlanks name).countP Char.isDigit = name.countP Char.isDigit := by
  unfold withoutBlanks
  rw [List.countP_filter]
  congr 1
  funext c
  cases digit : c.isDigit with
  | false => rfl
  | true => simp [isBlank_of_isDigit digit]

theorem digits_replaceAll_brackets (raw : List Char) :
    digits (Text.replaceAll ['[', '['] ['_'] raw) = digits raw :=
  Text.measure_replaceFrom digits_append (by decide) (by decide +kernel) (by decide +kernel) 0 raw

theorem lastSegment_sublist (raw : List Char) :
    (lastSegment raw).Sublist (Text.replaceAll ['[', '['] ['_'] raw) :=
  (List.takeWhile_sublist _).trans (Text.lastPiece_sublist _ _)

theorem digits_lastSegment_le (raw : List Char) : digits (lastSegment raw) ≤ digits raw :=
  (digits_le_of_sublist (lastSegment_sublist raw)).trans_eq (digits_replaceAll_brackets raw)

/-- A raw name without slashes counts up to its first comma. -/
theorem lastSegment_of_notMem {raw : List Char} (slash : '/' ∉ raw) :
    lastSegment raw = Text.firstPiece ',' (Text.replaceAll ['[', '['] ['_'] raw) := by
  have absent : '/' ∉ Text.replaceAll ['[', '['] ['_'] raw := fun member => by
    simpa [slash] using Text.mem_replaceFrom member
  rw [lastSegment, Text.lastPiece_of_notMem absent]

/-- What stands behind a comma does not count. -/
theorem lastSegment_append {before after : List Char} (comma : ',' ∉ before)
    (slash : '/' ∉ before ++ ',' :: after) :
    lastSegment (before ++ ',' :: after) = Text.replaceAll ['[', '['] ['_'] before := by
  have absent : ',' ∉ Text.replaceAll ['[', '['] ['_'] before := fun member => by
    simpa [comma] using Text.mem_replaceFrom member
  have divided : Text.replaceAll ['[', '['] ['_'] (before ++ ',' :: after) =
      Text.replaceAll ['[', '['] ['_'] before ++ ',' :: Text.replaceAll ['[', '['] ['_'] after :=
    Text.replaceFrom_append (by decide) (by decide) _ (Nat.zero_le _) after
  rw [lastSegment_of_notMem slash, divided, Text.firstPiece_append absent]
  simp [Text.firstPiece]

theorem digits_lastSegment {raw : List Char} (slash : '/' ∉ raw) (comma : ',' ∉ raw) :
    digits (lastSegment raw) = digits raw := by
  have absent : ',' ∉ Text.replaceAll ['[', '['] ['_'] raw := fun member => by
    simpa [comma] using Text.mem_replaceFrom member
  rw [lastSegment_of_notMem slash, Text.firstPiece_of_notMem absent, digits_replaceAll_brackets]

theorem mem_withoutBlanks_spelling {namespaceName : String} {raw : List Char} {c : Char}
    (member : c ∈ withoutBlanks (Text.eraseAll namespaceName.toList (spelling raw))) :
    c ∈ spelling raw ∧ (Text.isAsciiWord c = true ∨ Text.isIdeograph c = true) := by
  obtain ⟨inName, notBlank⟩ := List.mem_filter.mp member
  have inSpelling := Text.mem_eraseAll inName
  refine ⟨inSpelling, ?_⟩
  have kept := (List.mem_filter.mp inSpelling).2
  simp only [Bool.not_eq_true'] at notBlank
  simpa [isKept, notBlank] using kept

variable [Text.Romanization]

theorem value_sanitize (namespaceName raw : String) :
    (sanitize namespaceName raw).value =
      if isReserved raw then reservedMark ++ raw
      else if needsMark (Text.eraseAll namespaceName.toList (spelling raw.toList)) then
        unreadableMark ++ String.ofList
          (withoutBlanks (Text.eraseAll namespaceName.toList (spelling raw.toList)))
      else String.ofList (latin
        (withoutBlanks (Text.eraseAll namespaceName.toList (spelling raw.toList)))) := by
  unfold sanitize
  split
  · rfl
  · dsimp only
    split <;> rfl

/-- A spelling that holds neither the namespace nor anything to be read is the type name. -/
theorem value_sanitize_of_plain {namespaceName raw : String} (name : List Char)
    (plain : isReserved raw = false) (spelled : spelling raw.toList = name)
    (absent : Text.occursIn namespaceName.toList name = false) (unmarked : needsMark name = false)
    (readable : (name.all fun c => !Text.isBlank c && !Text.isIdeograph c) = true) :
    (sanitize namespaceName raw).value = String.ofList name := by
  simp only [List.all_eq_true, Bool.and_eq_true, Bool.not_eq_true'] at readable
  have whole : withoutBlanks name = name :=
    List.filter_eq_self.mpr fun c member => by simp [readable c member]
  rw [value_sanitize, plain, spelled, Text.eraseAll_of_absent absent, unmarked, whole,
    latin_of_plain fun c member => (readable c member).2]
  simp

/-- Whether a name is the spelling of a raw one and holds nothing to be erased, marked or read. -/
def isPlainName (namespaceName raw name : String) : Bool :=
  !isReserved raw && (spelling raw.toList == name.toList) &&
    !Text.occursIn namespaceName.toList name.toList && !needsMark name.toList &&
    name.toList.all fun c => !Text.isBlank c && !Text.isIdeograph c

theorem value_sanitize_of_isPlainName {namespaceName raw name : String}
    (plain : isPlainName namespaceName raw name = true) :
    (sanitize namespaceName raw).value = name := by
  simp only [isPlainName, Bool.and_eq_true, Bool.not_eq_true', beq_iff_eq] at plain
  obtain ⟨⟨⟨⟨free, spelled⟩, absent⟩, unmarked⟩, readable⟩ := plain
  rw [value_sanitize_of_plain name.toList free spelled absent unmarked readable,
    String.ofList_toList]

/-- Raw names of one last segment have one type name. -/
theorem value_sanitize_congr {namespaceName one other : String} (plain : isReserved one = false)
    (plain' : isReserved other = false)
    (same : lastSegment one.toList = lastSegment other.toList) :
    (sanitize namespaceName one).value = (sanitize namespaceName other).value := by
  have spelled : spelling one.toList = spelling other.toList := by simp only [spelling, same]
  rw [value_sanitize, value_sanitize, plain, plain', spelled, if_neg Bool.false_ne_true,
    if_neg Bool.false_ne_true]

/-- A namespace without digits takes none out of a type name, where ideographs are read without
any. -/
theorem countP_isDigit_sanitize (keeps : Text.Romanization.KeepsDigits)
    {namespaceName raw : String} (plain : isReserved raw = false)
    (none : namespaceName.toList.countP Char.isDigit = 0) :
    (sanitize namespaceName raw).value.toList.countP Char.isDigit =
      digits (lastSegment raw.toList) := by
  have kept : (withoutBlanks (Text.eraseAll namespaceName.toList
      (spelling raw.toList))).countP Char.isDigit = digits (lastSegment raw.toList) := by
    rw [countP_isDigit_withoutBlanks, Text.countP_eraseAll none, countP_isDigit_spelling]
  rw [value_sanitize, plain, if_neg Bool.false_ne_true]
  split
  · have mark : unreadableMark.toList.countP Char.isDigit = 0 := by decide
    rw [String.toList_append, List.countP_append, mark, String.toList_ofList, kept, Nat.zero_add]
  · rw [String.toList_ofList, ← kept]
    unfold latin
    split
    · exact keeps _ fun c member => (mem_withoutBlanks_spelling member).2
    · rfl

/-- Where names are read as word characters, a raw name gives a name of them, unless it is marked:
then it is not read. -/
theorem sanitize_cases (words : Text.Romanization.ReadsWords) (namespaceName raw : String) :
    (∀ c ∈ (sanitize namespaceName raw).value.toList, Text.isAsciiWord c = true) ∨
      (needsMark (Text.eraseAll namespaceName.toList (spelling raw.toList)) = true ∧
        (sanitize namespaceName raw).value = unreadableMark ++ String.ofList
          (withoutBlanks (Text.eraseAll namespaceName.toList (spelling raw.toList)))) := by
  rw [value_sanitize]
  split
  · -- A reserved word is a name of small letters, and its mark is one of word characters.
    rename_i reserved
    refine .inl fun c member => ?_
    rw [String.toList_append, List.mem_append] at member
    rcases member with mark | letter
    · exact isAsciiWord_of_mem_marks (by simp) mark
    · have small := isLower_of_reservedWords raw (List.contains_iff_mem.mp reserved) c letter
      exact Text.isAsciiWord_of_isLower small
  · split
    · rename_i marked
      exact .inr ⟨marked, rfl⟩
    · refine .inl fun c member => ?_
      rw [String.toList_ofList] at member
      have isName : Text.IsName
          (withoutBlanks (Text.eraseAll namespaceName.toList (spelling raw.toList))) :=
        fun c member => (mem_withoutBlanks_spelling member).2
      unfold latin at member
      split at member
      · exact words _ isName c member
      · -- Without ideographs there are word characters only.
        rename_i plain
        rcases isName c member with word | ideograph
        · exact word
        · exact absurd (List.any_eq_true.mpr ⟨c, member, ideograph⟩) plain

end ApiBindings.TypeName
