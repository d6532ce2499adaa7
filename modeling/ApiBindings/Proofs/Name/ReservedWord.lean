import ApiBindings.Proofs.Name.Reading
import ApiBindings.Proofs.Name.Settled

/-!
# Type names that are reserved words

Reserved words are looked for in the raw name alone, and what is done to it later can make one. A
reserved word comes out if the raw name hides it: with characters around its letters that are not
spelled, with the namespace inside of it, or in ideographs that are read as it. A raw name of word
characters hides one in its namespace only.
-/
namespace ApiBindings.TypeName

/-- Word characters and ideographs, which are all that is spelled of a text. -/
def isSpelled (c : Char) : Bool := Text.isAsciiWord c || Text.isIdeograph c

/-- The text that a raw name is spelled from. -/
def plainSegment (raw : String) : List Char := Text.removeAccents (lastSegment raw.toList)

/-- The ways in which a word can come out of a raw name that is another one. -/
inductive Hides [Text.Romanization] (namespaceName raw word : String) : Prop
  /-- All that stands around its letters is dropped, and none of them is raised. -/
  | dropped (absent : namespaceName = "" ∨ ¬ namespaceName.toList <:+: spelling raw.toList)
      (apart : Text.Apart isSeparator (plainSegment raw))
      (spelled : (plainSegment raw).filter isSpelled = word.toList)
  /-- It is left when the namespace is taken out. -/
  | erased (some : namespaceName ≠ "") (inside : namespaceName.toList <:+: spelling raw.toList)
      (rest : left namespaceName raw = word.toList)
  /-- Ideographs are read as it. -/
  | read {c : Char} (member : c ∈ left namespaceName raw) (ideograph : Text.isIdeograph c = true)
      (unmarked : needsMark (erased namespaceName raw) = false)
      (reading : Text.Romanization.read (left namespaceName raw) = word.toList)

/-- A marked name is no reserved word, since there is an underscore in each mark. -/
theorem isReserved_mark {mark : String} (known : mark ∈ [reservedMark, unreadableMark])
    (name : String) : isReserved (mark ++ name) = false := by
  have inMark : ∀ mark ∈ [reservedMark, unreadableMark], '_' ∈ mark.toList := by
    simp only [List.forall_mem_cons]
    decide
  apply isReserved_eq_false (c := '_')
  · rw [String.toList_append, List.mem_append]
    exact .inl (inMark mark known)
  · rfl

theorem isReserved_ofList_iff (name : List Char) :
    isReserved (String.ofList name) = true ↔ ∃ word ∈ reservedWords, name = word.toList := by
  unfold isReserved
  rw [List.contains_iff_mem]
  constructor
  · intro listed
    exact ⟨String.ofList name, listed, String.toList_ofList.symm⟩
  · rintro ⟨word, listed, rfl⟩
    rwa [String.ofList_toList]

theorem reservedWords_some : ∀ word ∈ reservedWords, word.toList ≠ [] := by
  have all : (reservedWords.all fun word => !word.toList.isEmpty) = true := by decide +kernel
  simpa using all

variable {namespaceName raw word : String}

/-- A name of small letters gets no mark, whatever blanks are around them. -/
theorem needsMark_of_left (listed : word ∈ reservedWords)
    (rest : left namespaceName raw = word.toList) :
    needsMark (erased namespaceName raw) = false := by
  -- All that is not blank is a letter of the word.
  have small {c : Char} (member : c ∈ erased namespaceName raw)
      (visible : Text.isBlank c = false) : c.isLower = true := by
    apply isLower_of_reservedWords word listed
    rw [← rest, left, withoutBlanks, List.mem_filter]
    exact ⟨member, by simp [visible]⟩
  rw [← Bool.not_eq_true, needsMark_iff]
  rintro (blank | lone | ⟨d, more, spelled, digit⟩)
  · apply reservedWords_some word listed
    rw [← rest, left, withoutBlanks, List.filter_eq_nil_iff]
    simpa using blank
  · have low := small (c := '_') (by simp [lone]) rfl
    simp at low
  · have low := (Text.isLower_iff d).mp
      (small (by simp [spelled]) (isBlank_of_isDigit digit))
    have number := (Text.isDigit_iff d).mp digit
    omega

theorem isKept_and_visible (c : Char) : (!Text.isBlank c && isKept c) = isSpelled c := by
  unfold isKept isSpelled
  cases word : Text.isAsciiWord c with
  | true => simp [Text.isBlank_of_isAsciiWord word]
  | false =>
    cases ideograph : Text.isIdeograph c with
    | true => simp [Text.isBlank_of_isIdeograph ideograph]
    | false => simp

theorem withoutBlanks_spelling (raw : String) :
    withoutBlanks (spelling raw.toList) =
      (Text.camel isSeparator (plainSegment raw)).filter isSpelled := by
  unfold withoutBlanks spelling plainSegment
  rw [List.filter_filter]
  simp only [isKept_and_visible]

/-- Without the namespace, small letters are left only of a text in which nothing is raised. -/
theorem left_eq_iff_of_absent
    (absent : namespaceName = "" ∨ ¬ namespaceName.toList <:+: spelling raw.toList)
    (small : ∀ c ∈ word.toList, c.isLower = true) :
    left namespaceName raw = word.toList ↔
      Text.Apart isSeparator (plainSegment raw) ∧
        (plainSegment raw).filter isSpelled = word.toList := by
  have whole : erased namespaceName raw = spelling raw.toList := by
    unfold erased
    rcases absent with rfl | absent
    · rw [Text.eraseAll, dif_neg fun occurs => occurs.1 rfl]
    · rw [← Text.occursIn_iff, Bool.not_eq_true] at absent
      exact Text.eraseAll_of_absent absent
  rw [left, whole, withoutBlanks_spelling]
  constructor
  · intro rest
    -- What camel case raises is no small letter, so nothing was raised.
    have apart : Text.Apart isSeparator (plainSegment raw) := by
      apply Text.apart_of_camel isAlphanum_of_isSeparator
      intro c member letter
      apply small
      rw [← rest, List.mem_filter]
      exact ⟨member, by simp [isSpelled, Text.isAsciiWord, letter]⟩
    rw [Text.camel_of_apart apart] at rest
    exact ⟨apart, rest⟩
  · rintro ⟨apart, rest⟩
    rwa [Text.camel_of_apart apart]

section Reading

variable [Text.Romanization]

theorem exists_hides_of_isReserved
    (reserved : isReserved (sanitize namespaceName raw).value = true) :
    isReserved raw = false ∧ ∃ word ∈ reservedWords, Hides namespaceName raw word := by
  rw [value_sanitize_eq] at reserved
  split at reserved
  · simp [isReserved_mark] at reserved
  · rename_i free
    split at reserved
    · simp [isReserved_mark] at reserved
    · rename_i unmarked
      rw [Bool.not_eq_true] at free unmarked
      obtain ⟨word, listed, spelled⟩ := (isReserved_ofList_iff _).mp reserved
      refine ⟨free, word, listed, ?_⟩
      -- Ideographs were read as the word; without them it stood there, maybe with the namespace.
      by_cases ideographs : (left namespaceName raw).any Text.isIdeograph = true
      · obtain ⟨c, member, ideograph⟩ := List.any_eq_true.mp ideographs
        rw [latin_of_ideograph member ideograph] at spelled
        exact .read member ideograph unmarked spelled
      · rw [latin_of_plain (by simpa using ideographs)] at spelled
        by_cases absent : namespaceName = "" ∨ ¬ namespaceName.toList <:+: spelling raw.toList
        · have small := isLower_of_reservedWords word listed
          obtain ⟨apart, rest⟩ := (left_eq_iff_of_absent absent small).mp spelled
          exact .dropped absent apart rest
        · rw [not_or, not_not] at absent
          exact .erased absent.1 absent.2 spelled

/-- A hidden word comes out without a mark. -/
theorem named_of_hides (listed : word ∈ reservedWords) (hides : Hides namespaceName raw word) :
    needsMark (erased namespaceName raw) = false ∧
      latin (left namespaceName raw) = word.toList := by
  have small := isLower_of_reservedWords word listed
  -- Without a reading, the word itself is left, and it holds no ideograph.
  have unread (rest : left namespaceName raw = word.toList) :
      needsMark (erased namespaceName raw) = false ∧
        latin (left namespaceName raw) = word.toList := by
    refine ⟨needsMark_of_left listed rest, ?_⟩
    rw [rest]
    exact latin_of_plain fun c member =>
      Text.isIdeograph_of_isAsciiWord (Text.isAsciiWord_of_isLower (small c member))
  cases hides with
  | dropped absent apart spelled =>
    exact unread ((left_eq_iff_of_absent absent small).mpr ⟨apart, spelled⟩)
  | erased _ _ rest => exact unread rest
  | read member ideograph unmarked reading =>
    rw [latin_of_ideograph member ideograph]
    exact ⟨unmarked, reading⟩

/-- However ideographs are read, a type name is a reserved word exactly if the raw name is none and
hides one. -/
theorem isReserved_sanitize_iff (namespaceName raw : String) :
    isReserved (sanitize namespaceName raw).value = true ↔
      isReserved raw = false ∧ ∃ word ∈ reservedWords, Hides namespaceName raw word := by
  constructor
  · exact exists_hides_of_isReserved
  · rintro ⟨free, word, listed, hides⟩
    obtain ⟨unmarked, reading⟩ := named_of_hides listed hides
    rw [value_sanitize_eq, free, if_neg Bool.false_ne_true, unmarked, if_neg Bool.false_ne_true,
      reading, isReserved_ofList_iff]
    exact ⟨word, listed, rfl⟩

end Reading

/-- Of a path the last segment is the name, and the path is no reserved word. -/
theorem isReserved_of_path :
    isReserved "users/delete" = false ∧ (sanitize "API" "users/delete").value = "delete" ∧
      isReserved "delete" = true := by
  refine ⟨by decide, ?_, by decide⟩
  exact value_sanitize_of_isPlainName (by decide +kernel)

/-- The look at the raw name is enough for a raw name of word characters in which the namespace does
not occur. -/
theorem isReserved_sanitize_of_word [Text.Romanization]
    (word : ∀ c ∈ raw.toList, Text.isAsciiWord c = true)
    (absent : namespaceName = "" ∨ ¬ namespaceName.toList <:+: spelling raw.toList) :
    isReserved (sanitize namespaceName raw).value = false := by
  have plain : plainSegment raw = raw.toList := by
    rw [plainSegment, lastSegment_of_word word]
    exact Text.removeAccents_of_ascii fun c member => Text.isAscii_of_isAsciiWord (word c member)
  rw [← Bool.not_eq_true]
  intro reserved
  obtain ⟨free, other, listed, hides⟩ := exists_hides_of_isReserved reserved
  cases hides with
  | dropped _ _ spelled =>
    have whole : raw.toList.filter isSpelled = raw.toList :=
      List.filter_eq_self.mpr fun c member => by simp [isSpelled, word c member]
    rw [plain, whole, String.toList_inj] at spelled
    subst spelled
    rw [isReserved, List.contains_iff_mem.mpr listed] at free
    simp at free
  | erased some inside => exact absent.elim some fun outside => outside inside
  | @read c member ideograph =>
    have inSpelling := (mem_withoutBlanks_spelling member).1
    have letter := (isSettled_spelling word).word c inSpelling
    simp [Text.isIdeograph_of_isAsciiWord letter] at ideograph

end ApiBindings.TypeName
