import ApiBindings.Proofs.FailureKinds
import ApiBindings.Proofs.Text.Letter

/-!
# Positions in pointers

Where a pointer stands on a list, its next part is read as a position. Any digits are tried, but not
all of them make a number: a part may be too long, or hold a digit without a decimal value, such as
a superscript. Such a part is the only thing for which following a reference fails without telling
that the reference leads nowhere.
-/
namespace ApiBindings

theorem Text.decimalValue?_of_isDigit {c : Char} (digit : c.isDigit = true) :
    decimalValue? c = some (c.toNat - '0'.toNat) := by
  have bounds := (isDigit_iff c).mp digit
  have plain : isAscii c = true := (isAscii_iff c).mpr (by omega)
  simp [decimalValue?, plain, digit]

namespace Pointer

/-- Digits that stand for no position. -/
def NoPosition (part : List Char) : Prop :=
  part ≠ [] ∧ part.all Text.isDigit = true ∧
    (digitLimit < part.length ∨ ∃ c ∈ part, Text.decimalValue? c = none)

/-- What is told of digits that stand for no position. -/
def misreading (part : List Char) : Misfit :=
  if digitLimit < part.length then .tooManyDigits part.length else .notDecimal (String.ofList part)

theorem number?_eq_none_iff (digits : List Char) :
    number? digits = none ↔ ∃ c ∈ digits, Text.decimalValue? c = none := by
  unfold number?
  generalize 0 = value
  induction digits generalizing value with
  | nil => simp
  | cons c rest ih =>
    rw [List.foldlM_cons]
    cases held : Text.decimalValue? c with
    | none => simp [held]
    | some digit => simpa [held] using ih (10 * value + digit)

theorem position?_error_iff {part : List Char} {reason : Misfit} :
    position? part = .error reason ↔ NoPosition part ∧ reason = misreading part := by
  unfold position? NoPosition misreading
  by_cases noDigits : part.isEmpty || !part.all Text.isDigit
  · have other : ¬ (part ≠ [] ∧ part.all Text.isDigit = true) := by
      rintro ⟨present, digits⟩
      simp [present, digits] at noDigits
    rw [if_pos noDigits]
    simp only [reduceCtorEq, false_iff]
    exact fun ⟨⟨present, digits, _⟩, _⟩ => other ⟨present, digits⟩
  · obtain ⟨present, digits⟩ : part ≠ [] ∧ part.all Text.isDigit = true := by simpa using noDigits
    rw [if_neg noDigits, eq_comm (a := reason)]
    by_cases long : digitLimit < part.length
    · simp [present, digits, long]
    · rw [if_neg long, if_neg long]
      -- Not every digit has a decimal value: a superscript has none.
      cases read : number? part with
      | none =>
        have odd := (number?_eq_none_iff part).mp read
        simp [present, digits, odd]
      | some position =>
        have plain : ¬ ∃ c ∈ part, Text.decimalValue? c = none := by
          rw [← number?_eq_none_iff, read]
          simp
        simp [plain, long]

theorem number?_of_isDigit {digits : List Char} (ascii : ∀ c ∈ digits, c.isDigit = true) :
    number? digits = some (Nat.ofDigitChars 10 digits 0) := by
  unfold number?
  generalize 0 = value
  induction digits generalizing value with
  | nil => rfl
  | cons c rest ih =>
    obtain ⟨first, later⟩ := List.forall_mem_cons.mp ascii
    rw [List.foldlM_cons, Text.decimalValue?_of_isDigit first, Nat.ofDigitChars_cons]
    exact ih later _

/-- A number in decimal is read as this number, unless it has too many digits. -/
theorem position?_toDigits (position : Nat) :
    position? (Nat.toDigits 10 position) =
      if position < 10 ^ digitLimit then .ok (some position)
      else .error (.tooManyDigits (Nat.toDigits 10 position).length) := by
  have ascii : ∀ c ∈ Nat.toDigits 10 position, c.isDigit = true :=
    fun c member => Nat.isDigit_of_mem_toDigits (by decide) (by decide) member
  have digits : (Nat.toDigits 10 position).all Text.isDigit = true := by
    refine List.all_eq_true.mpr fun c member => ?_
    simp [Text.isDigit, Text.isDecimal, Text.decimalValue?_of_isDigit (ascii c member)]
  have present : (Nat.toDigits 10 position).isEmpty = false := by simp
  have fits : (Nat.toDigits 10 position).length ≤ digitLimit ↔ position < 10 ^ digitLimit :=
    Nat.length_toDigits_le_iff (by decide) (by decide)
  rw [position?, present, digits, number?_of_isDigit ascii, Nat.ofDigitChars_ten_toDigits]
  by_cases short : position < 10 ^ digitLimit
  · rw [if_pos short]
    simp [Nat.not_lt.mpr (fits.mpr short)]
  · rw [if_neg short]
    simp [Nat.not_le.mp (mt fits.mp short)]

/-- A pointer that comes to a list and goes on with these digits, which stand for no position. -/
def Misreads (document : Node) (pointer : String) (part : List Char) : Prop :=
  ∃ before after reached items, parts pointer = before ++ part :: after ∧
    walkFrom pointer (Located.root document) before = .ok reached ∧ reached.node = .list items ∧
    NoPosition part

/-- A step fails only on a list, where its part stands for no position. -/
theorem step_error_iff {current : Located} {part : List Char} {reason : Misfit} :
    step current part = .error reason ↔
      (∃ items, current.node = .list items) ∧ NoPosition part ∧ reason = misreading part := by
  unfold step
  cases current.node with
  | scalar value => simp
  | object members => simp
  | list items =>
    rw [← position?_error_iff]
    cases position? part with
    | error other => simp [bind, Except.bind]
    | ok position => cases position <;> simp [bind, Except.bind, pure, Except.pure]

theorem walkFrom_misfit_iff {pointer : String} {current : Located} {remaining : List (List Char)}
    {reason : Misfit} :
    walkFrom pointer current remaining = .error (.misfit reason) ↔
      ∃ before part after reached items, remaining = before ++ part :: after ∧
        walkFrom pointer current before = .ok reached ∧ reached.node = .list items ∧
        NoPosition part ∧ reason = misreading part := by
  induction remaining generalizing current with
  | nil => simp [walkFrom]
  | cons part rest ih =>
    -- The walk stops at this part, or the part is walked and stands in front of what was walked.
    constructor
    · intro failed
      rw [walkFrom] at failed
      split at failed
      · rename_i next stepped
        obtain ⟨before, other, after, reached, items, rfl, walked, held, known⟩ := ih.mp failed
        refine ⟨part :: before, other, after, reached, items, rfl, ?_, held, known⟩
        rw [walkFrom, stepped]
        exact walked
      · simp at failed
      · rename_i stuck
        obtain rfl := Failure.misfit.inj (Except.error.inj failed)
        obtain ⟨⟨items, held⟩, known⟩ := step_error_iff.mp stuck
        exact ⟨[], part, rest, current, items, rfl, rfl, held, known⟩
    · rintro ⟨before, other, after, reached, items, split, walked, held, known⟩
      rw [walkFrom]
      cases before with
      | nil =>
        obtain ⟨rfl, rfl⟩ := List.cons.inj split
        obtain rfl := Except.ok.inj walked
        rw [step_error_iff.mpr ⟨⟨items, held⟩, known⟩]
      | cons first before =>
        obtain ⟨rfl, rfl⟩ := List.cons.inj split
        rw [walkFrom] at walked
        split at walked
        · exact ih.mpr ⟨before, other, after, reached, items, rfl, walked, held, known⟩
        · simp at walked
        · simp at walked

/-- A walk meets a value of another kind than it asks for exactly where digits are misread. -/
theorem walk_misfit_iff {document : Node} {pointer : String} {reason : Misfit} :
    walk document pointer = .error (.misfit reason) ↔
      ∃ part, Misreads document pointer part ∧ reason = misreading part := by
  have same : walk document pointer = .error (.misfit reason) ↔
      walkFrom pointer (Located.root document) (parts pointer) = .error (.misfit reason) := by
    unfold walk
    split
    · simp_all
    · rename_i walked
      split <;> simp [walked]
  rw [same, walkFrom_misfit_iff]
  constructor
  · rintro ⟨before, part, after, reached, items, split, walked, held, digits, told⟩
    exact ⟨part, ⟨before, after, reached, items, split, walked, held, digits⟩, told⟩
  · rintro ⟨part, ⟨before, after, reached, items, split, walked, held, digits⟩, told⟩
    exact ⟨before, part, after, reached, items, split, walked, held, digits, told⟩

end Pointer

namespace Reference

open Pointer

/-- A chain of references that comes to a pointer in which these digits are misread. -/
def MeetsMisreading (document : Node) (located : Located) (part : List Char) : Prop :=
  ∃ pointers last pointer, pointers.Nodup ∧ pointer ∉ pointers ∧
    Follows document located pointers last ∧ last.node.localReference? = some pointer ∧
    Misreads document pointer part

theorem target_misfit_iff {document : Node} {located : Located} {reason : Misfit} :
    target document located = .error (.misfit reason) ↔
      ∃ part, MeetsMisreading document located part ∧ reason = misreading part := by
  constructor
  · intro failed
    obtain ⟨pointers, last, distinct, follows, ends⟩ := target_ends document located
    rw [failed] at ends
    cases ends with
    | @broken pointer _ refers fresh stuck =>
      obtain ⟨part, misread, told⟩ := walk_misfit_iff.mp stuck
      exact ⟨part, ⟨pointers, last, pointer, distinct, fresh, follows, refers, misread⟩, told⟩
  · rintro ⟨part, ⟨pointers, last, pointer, distinct, fresh, follows, refers, misread⟩, told⟩
    exact target_of_ends distinct follows
      (.broken refers fresh (walk_misfit_iff.mpr ⟨part, misread, told⟩))

/-- Following a reference fails for nothing but a pointer that leads nowhere or back to itself,
unless the chain comes to a pointer in which digits are misread. Then it fails for these digits. -/
theorem failures_resolution_iff (document : Node) (located : Located) :
    ((∀ failure, (resolve document located).outcome = .error failure →
        failure.isResolution = true) ↔
      ∀ part, ¬ MeetsMisreading document located part) ∧
    ∀ part, MeetsMisreading document located part →
      (resolve document located).outcome = .error (.misfit (misreading part)) := by
  rw [outcome_resolve]
  have misread (part : List Char) (meets : MeetsMisreading document located part) :
      target document located = .error (.misfit (misreading part)) :=
    target_misfit_iff.mpr ⟨part, meets, rfl⟩
  refine ⟨⟨fun known part meets => ?_, fun never failure failed => ?_⟩, misread⟩
  · have wrong := known _ (misread part meets)
    cases wrong
  · rcases target_fails failed with known | ⟨reason, rfl⟩
    · exact known
    · obtain ⟨part, meets, _⟩ := target_misfit_iff.mp failed
      exact absurd meets (never part)

/-- A document with one list, and a reference to what stands at a superscript in it. -/
def oneServer : Node := .object [(.text "servers", .list [.object []])]

def toSuperscript : Located := Located.outside (.object [(.text "$ref", .text "#/servers/²")])

/-- A superscript is a digit without a decimal value, so it is no position of a list. -/
theorem misfit_of_superscript :
    (resolve oneServer toSuperscript).outcome = .error (.misfit (.notDecimal "²")) ∧
    Failure.isResolution (.misfit (.notDecimal "²")) = false := by
  have divided : parts "#/servers/²" = ["servers".toList, ['²']] := by decide +kernel
  have digit : Text.Table.covers Text.Table.otherDigitRanges '²' = true := by
    unfold Text.Table.otherDigitRanges Text.Table.otherDigit Text.Table.ranges Text.items
    rw [String.toList_ofList]
    decide +kernel
  have valueless : Text.decimalValue? '²' = none := by
    unfold Text.decimalValue? Text.Table.decimalZeros Text.Table.decimalZero Text.items
    rw [String.toList_ofList]
    decide +kernel
  have odd : NoPosition ['²'] :=
    ⟨by simp, by simp [Text.isDigit, digit, Text.isAscii], .inr ⟨'²', by simp, valueless⟩⟩
  have misread : Misreads oneServer "#/servers/²" ['²'] :=
    ⟨["servers".toList], [], _, [.object []], divided, rfl, rfl, odd⟩
  have walked : walk oneServer "#/servers/²" = .error (.misfit (.notDecimal "²")) :=
    walk_misfit_iff.mpr ⟨['²'], misread, by simp [misreading, digitLimit]⟩
  refine ⟨?_, rfl⟩
  rw [outcome_resolve]
  exact target_of_ends List.nodup_nil (.here _) (.broken rfl (by simp) walked)

end Reference

end ApiBindings
