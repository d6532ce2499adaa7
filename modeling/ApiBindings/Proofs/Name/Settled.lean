import ApiBindings.Proofs.Name.TypeName
import ApiBindings.Proofs.Text.Camel
import ApiBindings.Proofs.Text.Erasing

/-!
# Names that stay

A raw name of word characters is in camel case from the first separator on, and what stays of its
underscores stands at the end. Taking a namespace out keeps this shape, so a name that comes out of
it without a remark has nothing left to be changed: its type name in the namespace is itself.
-/
namespace ApiBindings.TypeName

theorem isAlphanum_of_isSeparator (c : Char) (separator : isSeparator c = true) :
    c.isAlphanum = false := by
  obtain rfl | rfl | rfl := (isSeparator_iff c).mp separator
  all_goals rfl

theorem isSeparator_or_isAlphanum {c : Char} (word : Text.isAsciiWord c = true) :
    isSeparator c = true ∨ c.isAlphanum = true := by
  rcases (Text.isAsciiWord_iff c).mp word with letter | rfl
  · exact .inr letter
  · exact .inl rfl

theorem isKept_of_isAsciiWord {c : Char} (word : Text.isAsciiWord c = true) :
    isKept c = true := by
  simp [isKept, word]

/-- Names of word characters, of which the underscores stand at the end. -/
structure IsSettled (name : List Char) : Prop where
  word : ∀ c ∈ name, Text.isAsciiWord c = true
  ends : Text.EndsSeparated isSeparator name

theorem IsSettled.of_sublist {name part : List Char} (settled : IsSettled name)
    (sublist : part.Sublist name) : IsSettled part where
  word c member := settled.word c (sublist.subset member)
  ends := settled.ends.of_sublist sublist

variable {raw : List Char}

/-- A name of word characters is one segment. -/
theorem lastSegment_of_word (word : ∀ c ∈ raw, Text.isAsciiWord c = true) :
    lastSegment raw = raw := by
  have absent {c : Char} (other : Text.isAsciiWord c = false) : c ∉ raw := by
    intro member
    simp [word c member] at other
  have brackets : ¬ ['[', '['] <:+: raw := fun inside =>
    absent (c := '[') rfl (inside.subset List.mem_cons_self)
  -- None of the characters that divide a raw name is a word character.
  rw [lastSegment, Text.replaceAll_of_absent brackets, Text.lastPiece_of_notMem (absent rfl),
    Text.firstPiece_of_notMem (absent rfl)]

theorem isAsciiWord_of_mem_camel (word : ∀ c ∈ raw, Text.isAsciiWord c = true) {c : Char}
    (member : c ∈ Text.camel isSeparator raw) : Text.isAsciiWord c = true := by
  rcases Text.mem_camelFrom member with waiting | ⟨d, among, rfl | ⟨letter, rfl⟩⟩
  · simp at waiting
  · exact word _ among
  · simp [Text.isAsciiWord, letter]

/-- A name of word characters is spelled in camel case, and loses nothing else. -/
theorem spelling_of_word (word : ∀ c ∈ raw, Text.isAsciiWord c = true) :
    spelling raw = Text.camel isSeparator raw := by
  have plain : Text.removeAccents raw = raw :=
    Text.removeAccents_of_ascii fun c member => Text.isAscii_of_isAsciiWord (word c member)
  rw [spelling, lastSegment_of_word word, plain, List.filter_eq_self]
  intro c member
  exact isKept_of_isAsciiWord (isAsciiWord_of_mem_camel word member)

theorem isSettled_spelling (word : ∀ c ∈ raw, Text.isAsciiWord c = true) :
    IsSettled (spelling raw) := by
  rw [spelling_of_word word]
  constructor
  · intro c member
    exact isAsciiWord_of_mem_camel word member
  · exact Text.endsSeparated_camel isAlphanum_of_isSeparator
      fun c member => isSeparator_or_isAlphanum (word c member)

/-- A settled name is spelled as it is. -/
theorem IsSettled.spelling_eq (settled : IsSettled raw) : spelling raw = raw := by
  rw [spelling_of_word settled.word]
  exact Text.camel_of_apart (settled.ends.apart isAlphanum_of_isSeparator)

theorem IsSettled.withoutBlanks_eq (settled : IsSettled raw) : withoutBlanks raw = raw := by
  rw [withoutBlanks, List.filter_eq_self]
  intro c member
  simp [Text.isBlank_of_isAsciiWord (settled.word c member)]

section Reading

variable [Text.Romanization]

theorem IsSettled.latin_eq (settled : IsSettled raw) : latin raw = raw :=
  latin_of_plain fun c member => Text.isIdeograph_of_isAsciiWord (settled.word c member)

/-- A settled name loses its namespace, and gets a mark if what is left needs one. -/
theorem sanitize_of_isSettled {namespaceName raw : String} {name : List Char}
    (free : isReserved raw = false) (settled : IsSettled (spelling raw.toList))
    (erased : Text.eraseAll namespaceName.toList (spelling raw.toList) = name) :
    sanitize namespaceName raw =
      if needsMark name then do
        Noted.remark (.name raw)
        return unreadableMark ++ String.ofList name
      else pure (String.ofList name) := by
  have kept : IsSettled name := erased ▸ settled.of_sublist (Text.eraseAll_sublist _ _)
  unfold sanitize
  rw [free, if_neg Bool.false_ne_true, erased]
  dsimp only
  rw [kept.withoutBlanks_eq, kept.latin_eq]

/-- A raw name of word characters whose type name needs no mark has one that stays: it does not
hold the namespace, and its own type name is itself. Taking the namespace out ends after finitely
many rounds for every name, since each round in which it occurs takes out as much as it has. -/
theorem sanitize_settles :
    (∀ namespaceName raw : String, (∀ c ∈ raw.toList, Text.isAsciiWord c = true) →
      isReserved raw = false → (sanitize namespaceName raw).remarks = [] →
      isReserved (sanitize namespaceName raw).value = false →
      (namespaceName ≠ "" →
        ¬ namespaceName.toList <:+: (sanitize namespaceName raw).value.toList) ∧
      sanitize namespaceName (sanitize namespaceName raw).value =
        pure (sanitize namespaceName raw).value) ∧
    (∀ (namespaceName : String) (name : List Char), namespaceName ≠ "" →
      ∃ rounds, Text.eraseAll namespaceName.toList name =
          (Text.replaceAll namespaceName.toList [])^[rounds] name ∧
        (∀ k < rounds,
          namespaceName.toList <:+: (Text.replaceAll namespaceName.toList [])^[k] name) ∧
        ¬ namespaceName.toList <:+: Text.eraseAll namespaceName.toList name ∧
        (Text.eraseAll namespaceName.toList name).length +
          rounds * namespaceName.toList.length ≤ name.length) := by
  have ends (namespaceName : String) (name : List Char) (some : namespaceName ≠ "") :=
    have some : namespaceName.toList ≠ [] := by simpa using some
    Text.exists_rounds some name
  refine ⟨fun namespaceName raw word free quiet free' => ?_, ends⟩
  have settled := isSettled_spelling word
  generalize erased : Text.eraseAll namespaceName.toList (spelling raw.toList) = name
  have kept : IsSettled name := erased ▸ settled.of_sublist (Text.eraseAll_sublist _ _)
  have spelled := sanitize_of_isSettled free settled erased
  have unmarked : needsMark name = false := by
    -- A name that is marked leaves a remark.
    rw [← Bool.not_eq_true]
    intro marked
    rw [spelled, if_pos marked] at quiet
    simp [Noted.remark] at quiet
  rw [unmarked, if_neg Bool.false_ne_true] at spelled
  rw [spelled, Noted.value_pure] at free' ⊢
  constructor
  · intro some
    obtain ⟨_, _, _, absent, _⟩ := ends namespaceName (spelling raw.toList) some
    rwa [String.toList_ofList, ← erased]
  · -- The name is spelled as it is and holds the namespace no more, so nothing is changed again.
    have again : Text.eraseAll namespaceName.toList name = name := by
      rw [← erased, Text.eraseAll_eraseAll]
    have settled' : IsSettled (spelling (String.ofList name).toList) := by
      simpa [kept.spelling_eq] using kept
    have erased' : Text.eraseAll namespaceName.toList (spelling (String.ofList name).toList) =
        name := by
      simpa [kept.spelling_eq] using again
    rw [sanitize_of_isSettled free' settled' erased', unmarked, if_neg Bool.false_ne_true]

end Reading

/-- One round joins the text around the namespace into another occurrence of it. -/
theorem sanitize_settles_userName :
    (∀ c ∈ "user_AAPIPI_name_".toList, Text.isAsciiWord c = true) ∧
    isReserved "user_AAPIPI_name_" = false ∧
    sanitize "API" "user_AAPIPI_name_" = pure "userName_" ∧
    isReserved "userName_" = false ∧
    ¬ "API".toList <:+: "userName_".toList ∧
    sanitize "API" "userName_" = pure "userName_" ∧
    ∃ rounds, "userName_".toList =
        (Text.replaceAll "API".toList [])^[rounds] "userAAPIPIName_".toList ∧
      rounds * 3 ≤ 6 := by
  have word : ∀ c ∈ "user_AAPIPI_name_".toList, Text.isAsciiWord c = true := by
    have all : "user_AAPIPI_name_".toList.all Text.isAsciiWord = true := by decide
    simpa only [List.all_eq_true] using all
  have free : isReserved "user_AAPIPI_name_" = false := by decide
  have free' : isReserved "userName_" = false := by decide
  have spelled : spelling "user_AAPIPI_name_".toList = "userAAPIPIName_".toList := by
    decide +kernel
  have erased : Text.eraseAll "API".toList "userAAPIPIName_".toList = "userName_".toList := by
    decide +kernel
  have unmarked : needsMark "userName_".toList = false := by decide
  have named : sanitize "API" "user_AAPIPI_name_" = pure "userName_" := by
    rw [sanitize_of_isSettled free (isSettled_spelling word) (spelled ▸ erased), unmarked,
      if_neg Bool.false_ne_true, String.ofList_toList]
  have value : (sanitize "API" "user_AAPIPI_name_").value = "userName_" := by rw [named]; rfl
  obtain ⟨absent, stays⟩ := sanitize_settles.1 "API" "user_AAPIPI_name_" word free
    (by rw [named]; rfl) (by rw [value]; exact free')
  rw [value] at absent stays
  obtain ⟨rounds, reached, _, _, fewer⟩ :=
    sanitize_settles.2 "API" "userAAPIPIName_".toList (by decide)
  rw [erased] at reached fewer
  refine ⟨word, free, named, free', absent (by decide), stays, rounds, reached, ?_⟩
  have lengths : "userName_".toList.length = 9 ∧ "API".toList.length = 3 ∧
      "userAAPIPIName_".toList.length = 15 := by decide
  rw [lengths.1, lengths.2.1, lengths.2.2] at fewer
  omega

end ApiBindings.TypeName
