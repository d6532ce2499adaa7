import ApiBindings.Text.Romanization
import ApiBindings.Proofs.Text.Letter
import Mathlib.Data.List.Infix

/-!
# Laws of romanizations

Names hold word characters and ideographs only. What may be asked of a romanization is that it reads
them as word characters, that it neither loses nor adds a digit, and that it reads something
wherever there is something. None of this is assumed of all romanizations: each result that needs a
law names it. A romanization by a table keeps a law if the words of the table do.
-/
namespace ApiBindings.Text

/-- A text of word characters and ideographs. -/
def IsName (text : List Char) : Prop :=
  ∀ c ∈ text, isAsciiWord c = true ∨ isIdeograph c = true

namespace Romanization

section Laws

variable [Romanization]

/-- Names are read as word characters. -/
def ReadsWords : Prop := ∀ name, IsName name → ∀ c ∈ read name, isAsciiWord c = true

/-- A name is read with as many digits as it has. -/
def KeepsDigits : Prop :=
  ∀ name, IsName name → (read name).countP Char.isDigit = name.countP Char.isDigit

/-- A name that is not empty is not read as nothing. -/
def ReadsSome : Prop := ∀ name, IsName name → name ≠ [] → read name ≠ []

end Laws

end Romanization

variable {words : List (List Char × List Char)}

/-- What is read by a table is in the readings of its words, or a character that is no ideograph, or
the underscore for one without a word. -/
theorem mem_readFrom {covered : Nat} {text : List Char} {c : Char}
    (member : c ∈ readFrom words covered text) :
    (∃ word ∈ words, c ∈ word.2) ∨ c = '_' ∨ (c ∈ text ∧ isIdeograph c = false) := by
  fun_induction readFrom words covered text with
  | case1 => simp at member
  | case2 covered d rest ih =>
    exact (ih member).imp_right (.imp_right (.imp_left (List.mem_cons_of_mem d)))
  | case3 d rest chinese latin found ih =>
    rcases List.mem_append.mp member with read | later
    · exact .inl ⟨_, List.mem_of_find?_eq_some found, read⟩
    · exact (ih later).imp_right (.imp_right (.imp_left (List.mem_cons_of_mem d)))
  | case4 d rest absent ih =>
    rcases List.mem_cons.mp member with rfl | later
    · cases ideograph : isIdeograph d with
      | true => simp
      | false => simp [ideograph]
    · exact (ih later).imp_right (.imp_right (.imp_left (List.mem_cons_of_mem d)))

theorem isDigit_eq_false_of_isIdeograph {c : Char} (ideograph : isIdeograph c = true) :
    c.isDigit = false := by
  rw [← Bool.not_eq_true, isDigit_iff]
  simp only [isIdeograph, Bool.and_eq_true, decide_eq_true_eq] at ideograph
  omega

/-- A table without digits keeps those of a text. -/
theorem countP_readFrom (some : ∀ word ∈ words, word.1 ≠ [])
    (none : ∀ word ∈ words, ∀ c ∈ word.1 ++ word.2, ¬ c.isDigit = true) (covered : Nat)
    (text : List Char) :
    (readFrom words covered text).countP Char.isDigit + (text.take covered).countP Char.isDigit =
      text.countP Char.isDigit := by
  -- The covered characters belong to a word, so none of them counts.
  fun_induction readFrom words covered text with
  | case1 => simp
  | case2 covered c rest ih => simp [List.countP_cons, ← ih, Nat.add_assoc]
  | case3 c rest chinese latin found ih =>
    have listed := List.mem_of_find?_eq_some found
    have counted := List.countP_eq_zero.mpr (none _ listed)
    obtain ⟨d, more, rfl⟩ := List.exists_cons_of_ne_nil (some _ listed)
    obtain ⟨rfl, prefixed⟩ : d = c ∧ more <+: rest := by simpa using List.find?_some found
    rw [List.length_cons, Nat.add_sub_cancel, ← List.prefix_iff_eq_take.mp prefixed] at ih
    simp only [List.cons_append, List.countP_cons, List.countP_append, List.length_cons,
      Nat.add_sub_cancel, List.take_zero, List.countP_nil] at counted ⊢
    omega
  | case4 c rest absent ih =>
    cases ideograph : isIdeograph c with
    | true => simpa [List.countP_cons, isDigit_eq_false_of_isIdeograph ideograph] using ih
    | false => simpa [List.countP_cons] using ih

theorem readFrom_ne_nil (some : ∀ word ∈ words, word.2 ≠ []) {text : List Char}
    (present : text ≠ []) : readFrom words 0 text ≠ [] := by
  obtain ⟨c, rest, rfl⟩ := List.exists_cons_of_ne_nil present
  unfold readFrom
  split
  · rename_i chinese latin found
    exact List.append_ne_nil_of_left_ne_nil (some _ (List.mem_of_find?_eq_some found)) _
  · exact List.cons_ne_nil _ _

namespace Romanization

/-- A word for users, as the romanization of the examples has it. -/
instance examples : Romanization := ofTable "用户=yonghu"

theorem wordsOf_examples :
    wordsOf "用户=yonghu" = [(['用', '户'], ['y', 'o', 'n', 'g', 'h', 'u'])] := by
  decide +kernel

theorem readsWords_examples : ReadsWords := by
  intro name isName c member
  change c ∈ readFrom (wordsOf "用户=yonghu") 0 name at member
  rw [wordsOf_examples] at member
  rcases mem_readFrom member with ⟨word, listed, latin⟩ | rfl | ⟨inName, noIdeograph⟩
  · obtain rfl := List.mem_singleton.mp listed
    have letters : ['y', 'o', 'n', 'g', 'h', 'u'].all isAsciiWord = true := by decide
    exact List.all_eq_true.mp letters c latin
  · rfl
  · simpa [noIdeograph] using isName c inName

theorem keepsDigits_examples : KeepsDigits := by
  intro name _
  change (readFrom (wordsOf "用户=yonghu") 0 name).countP Char.isDigit = _
  rw [wordsOf_examples]
  have none : ∀ c ∈ ['用', '户'] ++ ['y', 'o', 'n', 'g', 'h', 'u'], ¬ c.isDigit = true := by
    have all : (['用', '户'] ++ ['y', 'o', 'n', 'g', 'h', 'u']).all (fun c => !c.isDigit) = true := by
      decide +kernel
    simpa only [List.all_eq_true, Bool.not_eq_true', ← Bool.not_eq_true] using all
  simpa using countP_readFrom (by simp) (List.forall_mem_singleton.mpr none) 0 name

theorem readsSome_examples : ReadsSome := by
  intro name _ present
  change readFrom (wordsOf "用户=yonghu") 0 name ≠ []
  rw [wordsOf_examples]
  exact readFrom_ne_nil (by simp) present

end Romanization

end ApiBindings.Text
