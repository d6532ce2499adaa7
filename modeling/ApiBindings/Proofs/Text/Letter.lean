import ApiBindings.Text.Letter
import Mathlib

/-!
# ASCII letters

Changing the case of an ASCII letter gives a letter again and leaves every other character as it
is, so what is a word character or a digit stays one. Camel case raises some letters and drops
separators, and nothing else is lost on the way.
-/
namespace ApiBindings.Text

theorem isDigit_iff (c : Char) : c.isDigit = true ↔ 48 ≤ c.toNat ∧ c.toNat ≤ 57 := by
  simp [Char.isDigit, UInt32.le_iff_toNat_le]

theorem isLower_iff (c : Char) : c.isLower = true ↔ 97 ≤ c.toNat ∧ c.toNat ≤ 122 := by
  simp [Char.isLower, UInt32.le_iff_toNat_le]

theorem isUpper_iff (c : Char) : c.isUpper = true ↔ 65 ≤ c.toNat ∧ c.toNat ≤ 90 := by
  simp [Char.isUpper, UInt32.le_iff_toNat_le]

theorem isAlphanum_iff (c : Char) : c.isAlphanum = true ↔
    (65 ≤ c.toNat ∧ c.toNat ≤ 90) ∨ (97 ≤ c.toNat ∧ c.toNat ≤ 122) ∨
      (48 ≤ c.toNat ∧ c.toNat ≤ 57) := by
  simp only [Char.isAlphanum, Char.isAlpha, Bool.or_eq_true, isUpper_iff, isLower_iff, isDigit_iff,
    or_assoc]

theorem isAscii_iff (c : Char) : isAscii c = true ↔ c.toNat < 128 := by
  simp [isAscii]

theorem isAscii_of_isLower {c : Char} (small : c.isLower = true) : isAscii c = true := by
  have bounds := (isLower_iff c).mp small
  rw [isAscii_iff]
  omega

theorem isAsciiWord_of_isLower {c : Char} (small : c.isLower = true) : isAsciiWord c = true := by
  simp [isAsciiWord, Char.isAlphanum, Char.isAlpha, small]

theorem isAsciiWord_iff (c : Char) : isAsciiWord c = true ↔ c.isAlphanum = true ∨ c = '_' := by
  simp [isAsciiWord]

theorem isAscii_of_isAsciiWord {c : Char} (word : isAsciiWord c = true) : isAscii c = true := by
  rw [isAscii_iff]
  rcases (isAsciiWord_iff c).mp word with letter | rfl
  · have bounds := (isAlphanum_iff c).mp letter
    omega
  · decide

theorem isBlank_of_isAsciiWord {c : Char} (word : isAsciiWord c = true) : isBlank c = false := by
  rw [isBlank, if_pos (isAscii_of_isAsciiWord word)]
  rcases (isAsciiWord_iff c).mp word with letter | rfl
  · have bounds := (isAlphanum_iff c).mp letter
    simp
    omega
  · decide

theorem isIdeograph_of_isAsciiWord {c : Char} (word : isAsciiWord c = true) :
    isIdeograph c = false := by
  have bound := (isAscii_iff c).mp (isAscii_of_isAsciiWord word)
  simp [isIdeograph]
  omega

theorem toNat_toUpper (c : Char) :
    c.toUpper.toNat = if 97 ≤ c.toNat ∧ c.toNat ≤ 122 then c.toNat - 32 else c.toNat := by
  unfold Char.toUpper
  split
  · rename_i low
    have low : 97 ≤ c.toNat ∧ c.toNat ≤ 122 := by simpa [UInt32.le_iff_toNat_le] using low
    rw [if_pos low, ← Char.toNat_val]
    simp only [UInt32.toNat_add, Char.toNat_val]
    simp
    omega
  · rename_i other
    rw [if_neg]
    simpa [UInt32.le_iff_toNat_le] using other

theorem toNat_toLower (c : Char) :
    c.toLower.toNat = if 65 ≤ c.toNat ∧ c.toNat ≤ 90 then c.toNat + 32 else c.toNat := by
  unfold Char.toLower
  split
  · rename_i high
    have high : 65 ≤ c.toNat ∧ c.toNat ≤ 90 := by simpa [UInt32.le_iff_toNat_le] using high
    rw [if_pos high, ← Char.toNat_val]
    simp only [UInt32.toNat_add, Char.toNat_val]
    simp
    omega
  · rename_i other
    rw [if_neg]
    simpa [UInt32.le_iff_toNat_le] using other

@[simp] theorem isDigit_toUpper (c : Char) : c.toUpper.isDigit = c.isDigit := by
  rw [Bool.eq_iff_iff, isDigit_iff, isDigit_iff, toNat_toUpper]
  split <;> omega

@[simp] theorem isDigit_toLower (c : Char) : c.toLower.isDigit = c.isDigit := by
  rw [Bool.eq_iff_iff, isDigit_iff, isDigit_iff, toNat_toLower]
  split <;> omega

@[simp] theorem isAlphanum_toUpper (c : Char) : c.toUpper.isAlphanum = c.isAlphanum := by
  simp [Char.isAlphanum]

@[simp] theorem isAlphanum_toLower (c : Char) : c.toLower.isAlphanum = c.isAlphanum := by
  simp [Char.isAlphanum]

/-- Nothing but a letter becomes another character. -/
theorem toLower_eq_iff {c d : Char} (other : d.isAlphanum = false) : c.toLower = d ↔ c = d := by
  by_cases upper : c.isUpper = true
  · have word : c.isAlphanum = true := by simp [Char.isAlphanum, Char.isAlpha, upper]
    constructor
    · rintro rfl
      simp [word] at other
    · rintro rfl
      simp [word] at other
  · rw [Char.toLower_eq_of_not_isUpper upper]

theorem toLower_beq {d : Char} (other : d.isAlphanum = false) (c : Char) :
    (c.toLower == d) = (c == d) := by
  rw [Bool.eq_iff_iff, beq_iff_eq, beq_iff_eq, toLower_eq_iff other]

theorem lowerFirst_cons {c : Char} (ascii : isAscii c = true) (rest : List Char) :
    lowerFirst (c :: rest) = c.toLower :: rest := by
  have sigma : c ≠ 'Σ' := by
    rintro rfl
    simp [isAscii] at ascii
  simp [lowerFirst, lower, lowerAfter, lowerOf, ascii, sigma]

theorem upperFirst_cons {c : Char} (ascii : isAscii c = true) (rest : List Char) :
    upperFirst (c :: rest) = c.toUpper :: rest := by
  simp [upperFirst, upper, upperOf, ascii]

theorem removeAccents_of_ascii {text : List Char} (ascii : ∀ c ∈ text, isAscii c = true) :
    removeAccents text = text := by
  unfold removeAccents
  induction text with
  | nil => rfl
  | cons c rest ih =>
    rw [List.forall_mem_cons] at ascii
    rw [List.flatMap_cons, ih ascii.2, withoutAccent, if_pos ascii.1, List.singleton_append]

theorem isDigit_of_mem_toString {n : Nat} {c : Char} (member : c ∈ (toString n).toList) :
    c.isDigit = true := by
  rw [Nat.toString_eq_ofList_toDigits, String.toList_ofList] at member
  exact Nat.isDigit_of_mem_toDigits (by decide) (by decide) member

theorem mem_camelFrom {isSeparator : Char → Bool} {pending text : List Char} {c : Char}
    (member : c ∈ camelFrom isSeparator pending text) :
    c ∈ pending ∨ ∃ d ∈ text, c = d ∨ (d.isAlphanum = true ∧ c = d.toUpper) := by
  fun_induction camelFrom isSeparator pending text with
  | case1 => exact .inl member
  | case2 => grind
  | case3 => grind
  | case4 => grind

/-- Camel case drops nothing but separators. -/
theorem countP_isDigit_camelFrom {isSeparator : Char → Bool}
    (plain : ∀ c, isSeparator c = true → c.isDigit = false) {pending : List Char}
    (waiting : pending.countP Char.isDigit = 0) (text : List Char) :
    (camelFrom isSeparator pending text).countP Char.isDigit = text.countP Char.isDigit := by
  fun_induction camelFrom isSeparator pending text with
  | case1 => simpa using waiting
  | case2 pending c rest separator ih =>
    have none := plain c separator
    rw [ih (by simp [waiting, none]), List.countP_cons_of_neg (by simp [none])]
  | case3 pending c rest _ _ ih => simp [List.countP_cons, ih List.countP_nil]
  | case4 pending c rest _ _ ih => simp [List.countP_cons, waiting, ih List.countP_nil]

end ApiBindings.Text
