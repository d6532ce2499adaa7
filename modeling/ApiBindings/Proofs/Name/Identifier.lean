import ApiBindings.Proofs.Name.Reading

/-!
# Type names as identifiers

A type name is to be an identifier: some word characters, of which a digit is not the first. Three
things stand in the way. A name that starts with a digit is marked, and then its ideographs are not
read; a digit behind blanks is not seen, since the blanks go after the look at the first character;
and a reading might itself start with a digit.
-/
namespace ApiBindings.TypeName

/-- A text of word characters that is not empty and starts with no digit. -/
structure IsIdentifier (name : String) : Prop where
  present : name ≠ ""
  word : ∀ c ∈ name.toList, Text.isAsciiWord c = true
  start : ∀ c ∈ name.toList.head?, c.isDigit = false

/-- All that can keep a type name from being an identifier. -/
inductive Flawed [Text.Romanization] (namespaceName raw : String) : Prop
  /-- The ideographs of a name that starts with a digit are not read. -/
  | unread {d c : Char} {rest : List Char} (spelled : erased namespaceName raw = d :: rest)
      (digit : d.isDigit = true) (member : c ∈ rest) (ideograph : Text.isIdeograph c = true)
  /-- Behind blanks a digit does not count as the first character. -/
  | behindBlanks {blanks rest : List Char} {d : Char}
      (spelled : erased namespaceName raw = blanks ++ d :: rest) (some : blanks ≠ [])
      (blank : ∀ c ∈ blanks, Text.isBlank c = true) (digit : d.isDigit = true)
  /-- The first ideograph is read with a digit in front. -/
  | reading {c d : Char} {rest reading : List Char} (first : left namespaceName raw = c :: rest)
      (ideograph : Text.isIdeograph c = true)
      (read : Text.Romanization.read (left namespaceName raw) = d :: reading)
      (digit : d.isDigit = true)

theorem isAsciiWord_of_isDigit {c : Char} (digit : c.isDigit = true) :
    Text.isAsciiWord c = true := by
  simp [Text.isAsciiWord, Char.isAlphanum, digit]

theorem isIdeograph_of_isDigit {c : Char} (digit : c.isDigit = true) :
    Text.isIdeograph c = false :=
  Text.isIdeograph_of_isAsciiWord (isAsciiWord_of_isDigit digit)

/-- A text behind a mark is an identifier with it if it holds word characters only. -/
theorem isIdentifier_mark_iff {mark : String} (known : mark ∈ [reservedMark, unreadableMark])
    (name : List Char) :
    IsIdentifier (mark ++ String.ofList name) ↔ ∀ c ∈ name, Text.isAsciiWord c = true := by
  -- A mark starts with no digit, so what stands behind it may start with anything.
  have starts : ∀ mark ∈ [reservedMark, unreadableMark],
      (mark.toList.head?.map Char.isDigit) = some false := by
    simp only [List.forall_mem_cons]
    decide
  obtain ⟨c, first, plain⟩ := Option.map_eq_some_iff.mp (starts mark known)
  obtain ⟨rest, spelled⟩ := List.head?_eq_some_iff.mp first
  constructor
  · intro identifier d member
    exact identifier.word d (by simp [member])
  · intro word
    refine ⟨?_, fun d member => ?_, ?_⟩
    · intro nothing
      have empty := congrArg String.toList nothing
      simp [spelled] at empty
    · rw [String.toList_append, String.toList_ofList, List.mem_append] at member
      exact member.elim (isAsciiWord_of_mem_marks known) (word d)
    · simpa [spelled] using plain

variable {namespaceName raw : String}

/-- What is left of a raw name starts behind the blanks of its spelling. -/
theorem exists_blanks {c : Char} {rest : List Char} (first : left namespaceName raw = c :: rest) :
    ∃ blanks more, erased namespaceName raw = blanks ++ c :: more ∧
      ∀ d ∈ blanks, Text.isBlank d = true := by
  obtain ⟨blanks, more, spelled, blank, _⟩ := List.filter_eq_cons_iff.mp first
  exact ⟨blanks, more, spelled, by simpa using blank⟩

theorem needsMark_of_left_eq_nil (nothing : left namespaceName raw = []) :
    needsMark (erased namespaceName raw) = true := by
  rw [needsMark_iff]
  left
  simpa [left, withoutBlanks] using nothing

/-- A digit behind blanks is not seen. -/
theorem needsMark_behindBlanks {blanks rest : List Char} {d : Char} (some : blanks ≠ [])
    (blank : ∀ c ∈ blanks, Text.isBlank c = true) (digit : d.isDigit = true) :
    needsMark (blanks ++ d :: rest) = false := by
  obtain ⟨b, others, rfl⟩ := List.exists_cons_of_ne_nil some
  have first := blank b List.mem_cons_self
  -- The look at the first character meets a blank, and the digit keeps the name from being blank.
  rw [← Bool.not_eq_true, needsMark_iff]
  rintro (all | lone | ⟨c, more, spelled, digit'⟩)
  · have blank' := all d (by simp)
    simp [isBlank_of_isDigit digit] at blank'
  · simp at lone
  · obtain rfl : b = c := (List.cons.inj spelled).1
    simp [isBlank_of_isDigit digit'] at first

section Reading

variable [Text.Romanization]

/-- No type name is empty, as long as ideographs are read as something. -/
theorem sanitize_ne_empty (some : Text.Romanization.ReadsSome) (namespaceName raw : String) :
    (sanitize namespaceName raw).value ≠ "" := by
  rw [value_sanitize_eq]
  split
  · simp [reservedMark]
  · split
    · simp [unreadableMark]
    · rename_i unmarked
      -- A name of which nothing is left gets a mark.
      have visible : left namespaceName raw ≠ [] := mt needsMark_of_left_eq_nil unmarked
      have given : latin (left namespaceName raw) ≠ [] := by
        unfold latin
        split
        · exact some _ (fun _ => mem_left) visible
        · exact visible
      simpa using given

/-- A marked name is no identifier exactly if an ideograph stands behind its digit. -/
theorem word_iff_not_flawed (marked : needsMark (erased namespaceName raw) = true) :
    (∀ c ∈ left namespaceName raw, Text.isAsciiWord c = true) ↔
      ¬ Flawed namespaceName raw := by
  constructor
  · intro word flawed
    have plain {c : Char} (member : c ∈ left namespaceName raw) : Text.isIdeograph c = false :=
      Text.isIdeograph_of_isAsciiWord (word c member)
    cases flawed with
    | @unread d c rest spelled digit member ideograph =>
      have kept : c ∈ left namespaceName raw := by
        rw [left, withoutBlanks, spelled, List.mem_filter]
        exact ⟨List.mem_cons_of_mem d member, by simp [Text.isBlank_of_isIdeograph ideograph]⟩
      simp [plain kept] at ideograph
    | behindBlanks spelled some blank digit =>
      rw [spelled, needsMark_behindBlanks some blank digit] at marked
      simp at marked
    | @reading c d rest reading first ideograph read digit =>
      simp [plain (c := c) (by simp [first])] at ideograph
  · intro sound c member
    rcases mem_left member with word | ideograph
    · exact word
    · -- An ideograph is neither blank nor an underscore nor a digit, so a digit stands before it.
      exfalso
      have inName : c ∈ erased namespaceName raw := (List.mem_filter.mp member).1
      rcases (needsMark_iff _).mp marked with blank | lone | ⟨d, rest, spelled, digit⟩
      · have blank' := blank c inName
        simp [Text.isBlank_of_isIdeograph ideograph] at blank'
      · rw [lone, List.mem_singleton] at inName
        subst inName
        simp [Text.isIdeograph] at ideograph
      · rw [spelled, List.mem_cons] at inName
        rcases inName with rfl | later
        · simp [isIdeograph_of_isDigit digit] at ideograph
        · exact sound (.unread spelled digit later ideograph)

/-- A name that is read starts with a digit exactly if one stands behind its blanks or comes out
of the reading. -/
theorem start_iff_not_flawed (unmarked : needsMark (erased namespaceName raw) = false)
    (reads : Text.Reads (left namespaceName raw) (latin (left namespaceName raw))) :
    (∀ c ∈ (latin (left namespaceName raw)).head?, c.isDigit = false) ↔
      ¬ Flawed namespaceName raw := by
  -- A digit that stands first would have been marked.
  have notFirst {d : Char} {rest : List Char} (spelled : erased namespaceName raw = d :: rest) :
      d.isDigit = false := by
    rw [← Bool.not_eq_true]
    intro digit
    have marked := (needsMark_iff _).mpr (.inr (.inr ⟨d, rest, spelled, digit⟩))
    simp [marked] at unmarked
  constructor
  · intro start flawed
    cases flawed with
    | unread spelled digit =>
      simp [notFirst spelled] at digit
    | @behindBlanks blanks rest d spelled _ blank digit =>
      have first : left namespaceName raw = d :: withoutBlanks rest := by
        rw [left, withoutBlanks, spelled, List.filter_append, List.filter_cons_of_pos]
        · simpa [withoutBlanks] using blank
        · simp [isBlank_of_isDigit digit]
      rw [first] at reads start
      have plain := start d (reads.head? (isAsciiWord_of_isDigit digit))
      simp [digit] at plain
    | @reading c d rest reading first ideograph spelled digit =>
      rw [latin_of_ideograph (c := c) (by simp [first]) ideograph, spelled] at start
      have plain := start d rfl
      simp [digit] at plain
  · intro sound c head
    rw [← Bool.not_eq_true]
    intro digit
    cases first : left namespaceName raw with
    | nil => simp [needsMark_of_left_eq_nil first] at unmarked
    | cons d rest =>
      have member : d ∈ left namespaceName raw := by simp [first]
      rcases mem_left member with word | ideograph
      · -- A word character is read as itself, so it is the digit and blanks hide it.
        obtain ⟨blanks, more, spelled, blank⟩ := exists_blanks first
        rw [first] at reads head
        obtain rfl : d = c := Option.some.inj ((reads.head? word).symm.trans head)
        by_cases none : blanks = []
        · rw [none, List.nil_append] at spelled
          simp [notFirst spelled] at digit
        · exact sound (.behindBlanks spelled none blank digit)
      · -- An ideograph is read, so the digit comes out of the reading.
        rw [latin_of_ideograph member ideograph] at head
        obtain ⟨reading, spelled⟩ := List.head?_eq_some_iff.mp head
        exact sound (.reading first ideograph spelled digit)

/-- Where the ideographs of a name are read as word characters, its type name is an identifier
exactly if it is a marked reserved word or nothing is wrong with the raw name. -/
theorem isIdentifier_sanitize_iff (namespaceName raw : String)
    (reads : Text.Reads (left namespaceName raw) (latin (left namespaceName raw))) :
    IsIdentifier (sanitize namespaceName raw).value ↔
      isReserved raw = true ∨ ¬ Flawed namespaceName raw := by
  rw [value_sanitize_eq]
  split
  · rename_i reserved
    have small := isLower_of_reservedWords raw (List.contains_iff_mem.mp reserved)
    have known : reservedMark ∈ [reservedMark, unreadableMark] := List.mem_cons_self
    rw [← raw.ofList_toList, isIdentifier_mark_iff known, raw.ofList_toList]
    simp only [reserved, true_or, iff_true]
    exact fun c member => Text.isAsciiWord_of_isLower (small c member)
  · rename_i free
    -- A marked name starts as an identifier does, so only its characters can be wrong; an unmarked
    -- one is read as word characters, so only its start can be.
    rw [or_iff_right free]
    split
    · rename_i marked
      rw [isIdentifier_mark_iff (by simp), word_iff_not_flawed marked]
    · rename_i unmarked
      rw [Bool.not_eq_true] at unmarked
      rw [← start_iff_not_flawed unmarked reads]
      constructor
      · intro identifier
        simpa using identifier.start
      · intro start
        have some : left namespaceName raw ≠ [] := by
          intro nothing
          simp [needsMark_of_left_eq_nil nothing] at unmarked
        exact ⟨by simpa using reads.ne_nil some, by simpa using reads.isAsciiWord,
          by simpa using start⟩

end Reading

/-- A name of letters is read as it is. -/
theorem isIdentifier_sanitize_userName :
    Text.Reads (left "API" "user-name") (latin (left "API" "user-name")) ∧
    ¬ Flawed "API" "user-name" ∧
    IsIdentifier (sanitize "API" "user-name").value := by
  have spelled : erased "API" "user-name" = "userName".toList := by decide +kernel
  have whole : left "API" "user-name" = "userName".toList := by
    rw [left, spelled]
    decide +kernel
  have word : ∀ c ∈ "userName".toList, Text.isAsciiWord c = true := by
    have all : "userName".toList.all Text.isAsciiWord = true := by decide
    simpa only [List.all_eq_true] using all
  have same : latin (left "API" "user-name") = "userName".toList := by
    rw [whole]
    exact latin_of_plain fun c member => Text.isIdeograph_of_isAsciiWord (word c member)
  have reads : Text.Reads (left "API" "user-name") (latin (left "API" "user-name")) := by
    rw [same, whole]
    exact .of_word word
  have sound : ¬ Flawed "API" "user-name" := by
    have unmarked : needsMark (erased "API" "user-name") = false := by
      rw [spelled]
      decide +kernel
    have first : "userName".toList.head? = some 'u' := rfl
    rw [← start_iff_not_flawed unmarked reads, same, first]
    simp
  exact ⟨reads, sound, (isIdentifier_sanitize_iff "API" "user-name" reads).mpr (.inr sound)⟩

/-- The digit is not seen behind the tab, and the tab goes. -/
theorem not_isIdentifier_of_tab :
    (sanitize "API" "\t2fa").value = "2fa" ∧ ¬ IsIdentifier "2fa" := by
  constructor
  · decide +kernel
  · intro identifier
    have plain := identifier.start '2' rfl
    simp at plain

end ApiBindings.TypeName
