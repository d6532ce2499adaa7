import ApiBindings.Text.Class
import ApiBindings.Text.CodePoint
import ApiBindings.Proofs.Text.Pieces

/-!
# Reading string literals

The generated language reads a string literal from its opening quote up to the next quote of the
kind. A backslash takes the characters behind it along as an escape, and a line end breaks the
literal off. The value is a list of code units.

A text in quotes reads back exactly when nothing in it has a meaning of its own. Every escape but
that of the quote stands for fewer code units than it is written with, and nothing stands for more.
So an escape that slips in makes the value too short, whatever else the text holds, or it lets the
literal run past its end.
-/
namespace ApiBindings.StringLiteral

/-- The code units of a code point: two from 65536 on, else one. -/
def unitsOf (point : Nat) : List Nat :=
  if point < 0x10000 then [point]
  else [0xD800 + (point - 0x10000) / 0x400, 0xDC00 + (point - 0x10000) % 0x400]

/-- The code units of a text. -/
def units (text : List Char) : List Nat := text.flatMap fun c => unitsOf (Text.codePoint c)

def isHexDigit (c : Char) : Bool :=
  c.isDigit || ('a' ≤ c && c ≤ 'f') || ('A' ≤ c && c ≤ 'F')

def hexValue (digits : List Char) : Nat := Text.Table.hexValue (digits.map Char.toLower)

/-- Line ends that a literal cannot hold as they are. -/
def breaksOff (c : Char) : Bool := c == '\n' || c == '\r'

/-- Line ends that a backslash takes away; the last two may stand in a literal as they are. -/
def isLineEnd (c : Char) : Bool := breaksOff c || c == '\u2028' || c == '\u2029'

/-- Letters that stand for a control character behind a backslash. -/
def controls : List (Char × Nat) := [('b', 8), ('t', 9), ('n', 10), ('v', 11), ('f', 12), ('r', 13)]

/-- An escape by a code unit in so many hexadecimal digits. -/
def numbered? (size : Nat) (text : List Char) : Option (List Nat × Nat) :=
  let digits := text.take size
  if digits.length = size ∧ digits.all isHexDigit then some ([hexValue digits], size + 1) else none

/-- An escape by a code point in braces. -/
def braced? (text : List Char) : Option (List Nat × Nat) :=
  let digits := text.takeWhile isHexDigit
  if digits ≠ [] ∧ (text.drop digits.length).head? = some '\x7d' ∧ hexValue digits < 0x110000 then
    some (unitsOf (hexValue digits), digits.length + 3)
  else none

/-- What an escape stands for, and how many characters behind the backslash belong to it. -/
def escape? : List Char → Option (List Nat × Nat)
  | [] => none
  | '\r' :: '\n' :: _ => some ([], 2)
  | 'u' :: '\x7b' :: rest => braced? rest
  | c :: rest =>
    if c = 'x' then numbered? 2 rest
    else if c = 'u' then numbered? 4 rest
    else if isLineEnd c then some ([], 1)
    else if c.isDigit then
      if c = '0' ∧ rest.head?.all (!·.isDigit) then some ([0], 1) else none
    else some (((controls.lookup c).map fun unit => [unit]).getD (unitsOf (Text.codePoint c)), 1)

/-- Reads on behind an opening quote: the value, and the text behind the closing quote. The first
`covered` characters belong to an escape. -/
def readFrom (quote : Char) : Nat → List Char → Option (List Nat × List Char)
  | _, [] => none
  | covered + 1, _ :: rest => readFrom quote covered rest
  | 0, c :: rest =>
    if c = quote then some ([], rest)
    else if c = '\\' then
      (escape? rest).bind fun (value, length) =>
        (readFrom quote length rest).map fun (later, behind) => (value ++ later, behind)
    else if breaksOff c then none
    else (readFrom quote 0 rest).map fun (later, behind) =>
      (unitsOf (Text.codePoint c) ++ later, behind)

/-- What is written between two quotes stands for a text, whatever comes behind the second. -/
def ReadsBack (quote : Char) (written text behind : List Char) : Prop :=
  readFrom quote 0 (written ++ quote :: behind) = some (units text, behind)

/-- A character that stands for itself inside of quotes. -/
def isPlain (c : Char) : Bool := c != '\\' && !breaksOff c

def IsQuote (c : Char) : Prop := c = '"' ∨ c = '\''

/-- The code units of a text without its quotes. -/
def weight (quote : Char) (text : List Char) : Nat := (units (text.filter (· ≠ quote))).length

@[simp] theorem units_nil : units [] = [] := rfl

@[simp] theorem units_cons (c : Char) (text : List Char) :
    units (c :: text) = unitsOf (Text.codePoint c) ++ units text := rfl

@[simp] theorem units_append (one other : List Char) :
    units (one ++ other) = units one ++ units other := List.flatMap_append

theorem length_unitsOf_pos (point : Nat) : 0 < (unitsOf point).length := by
  unfold unitsOf
  split <;> simp

theorem length_unitsOf_le (point : Nat) : (unitsOf point).length ≤ 2 := by
  unfold unitsOf
  split <;> simp

section weight

variable {quote : Char}

@[simp] theorem weight_nil : weight quote [] = 0 := rfl

@[simp] theorem weight_append (one other : List Char) :
    weight quote (one ++ other) = weight quote one + weight quote other := by
  simp [weight]

theorem weight_quote (text : List Char) : weight quote (quote :: text) = weight quote text := by
  simp [weight]

theorem weight_cons {c : Char} (other : c ≠ quote) (text : List Char) :
    weight quote (c :: text) = (unitsOf (Text.codePoint c)).length + weight quote text := by
  simp [weight, other]

theorem weight_le (text : List Char) : weight quote text ≤ (units text).length := by
  induction text with
  | nil => simp
  | cons c rest ih =>
    rw [units_cons, List.length_append]
    by_cases same : c = quote
    · rw [same, weight_quote]
      omega
    · rw [weight_cons same]
      omega

theorem weight_take_drop (count : Nat) (text : List Char) :
    weight quote (text.take count) + weight quote (text.drop count) = weight quote text := by
  rw [← weight_append, List.take_append_drop]

end weight

section reading

variable {quote : Char}

theorem length_of_numbered? {size length : Nat} {text : List Char} {value : List Nat}
    (taken : numbered? size text = some (value, length)) : value.length = 1 ∧ 0 < length := by
  unfold numbered? at taken
  dsimp only at taken
  split at taken
  · obtain ⟨rfl, rfl⟩ := Prod.mk.inj (Option.some.inj taken)
    simp
  · cases taken

theorem length_of_braced? {length : Nat} {text : List Char} {value : List Nat}
    (taken : braced? text = some (value, length)) : value.length ≤ 2 ∧ 2 ≤ length := by
  unfold braced? at taken
  dsimp only at taken
  split at taken
  · obtain ⟨rfl, rfl⟩ := Prod.mk.inj (Option.some.inj taken)
    exact ⟨length_unitsOf_le _, by omega⟩
  · cases taken

/-- Behind a backslash a quote stands for itself. -/
theorem escape?_quote (isQuote : IsQuote quote) (rest : List Char) :
    escape? (quote :: rest) = some (unitsOf (Text.codePoint quote), 1) := by
  rcases isQuote with rfl | rfl <;> rfl

/-- An escape that does not start with a quote stands for no more code units than it has. -/
theorem length_le_of_escape? (isQuote : IsQuote quote) {text : List Char} {value : List Nat}
    {length : Nat} (other : text.head? ≠ some quote)
    (taken : escape? text = some (value, length)) :
    value.length ≤ weight quote (text.take length) := by
  -- The first character of an escape has a code unit at least.
  have first {c : Char} {rest : List Char} (other : (c :: rest).head? ≠ some quote) {length : Nat}
      (present : 0 < length) :
      (unitsOf (Text.codePoint c)).length ≤ weight quote ((c :: rest).take length) := by
    obtain ⟨more, rfl⟩ := Nat.exists_eq_add_of_lt present
    rw [Nat.zero_add, List.take_succ_cons, weight_cons (by simpa using other)]
    omega
  have single {c : Char} {rest : List Char} (other : (c :: rest).head? ≠ some quote) {length : Nat}
      (present : 0 < length) : 1 ≤ weight quote ((c :: rest).take length) :=
    Nat.le_trans (length_unitsOf_pos (Text.codePoint c)) (first other present)
  revert taken
  fun_cases escape? text with
  | case1 =>
    intro taken
    cases taken
  | case2 rest =>
    intro taken
    obtain ⟨rfl, rfl⟩ := Prod.mk.inj (Option.some.inj taken)
    exact Nat.zero_le _
  | case3 rest =>
    -- The letter and the brace make up for a code point of two code units.
    intro taken
    obtain ⟨short, long⟩ := length_of_braced? taken
    obtain ⟨more, rfl⟩ := Nat.exists_eq_add_of_le long
    have letter : 'u' ≠ quote := by simpa using other
    have brace : '\x7b' ≠ quote := by rcases isQuote with rfl | rfl <;> decide
    rw [Nat.add_comm, List.take_succ_cons, List.take_succ_cons, weight_cons letter,
      weight_cons brace]
    have one := length_unitsOf_pos (Text.codePoint 'u')
    have two := length_unitsOf_pos (Text.codePoint '\x7b')
    omega
  | case4 rest | case5 rest =>
    intro taken
    obtain ⟨same, present⟩ := length_of_numbered? taken
    rw [same]
    exact single other present
  | case6 c rest =>
    intro taken
    obtain ⟨rfl, rfl⟩ := Prod.mk.inj (Option.some.inj taken)
    exact Nat.zero_le _
  | case7 c rest =>
    intro taken
    obtain ⟨rfl, rfl⟩ := Prod.mk.inj (Option.some.inj taken)
    exact single other Nat.zero_lt_one
  | case8 c rest =>
    intro taken
    cases taken
  | case9 c rest =>
    intro taken
    obtain ⟨rfl, rfl⟩ := Prod.mk.inj (Option.some.inj taken)
    cases controls.lookup c with
    | none => exact first other Nat.zero_lt_one
    | some unit => exact single other Nat.zero_lt_one

theorem readFrom_covered (covered : Nat) (text : List Char) :
    readFrom quote covered text = readFrom quote 0 (text.drop covered) := by
  induction covered generalizing text with
  | zero => rfl
  | succ covered ih =>
    cases text with
    | nil => rfl
    | cons c rest => exact ih rest

theorem readFrom_quote (rest : List Char) : readFrom quote 0 (quote :: rest) = some ([], rest) := by
  rw [readFrom, if_pos rfl]

theorem isQuote_ne_backslash (isQuote : IsQuote quote) : '\\' ≠ quote := by
  rcases isQuote with rfl | rfl <;> decide

theorem readFrom_escape (isQuote : IsQuote quote) {rest behind : List Char} {value : List Nat} :
    readFrom quote 0 ('\\' :: rest) = some (value, behind) ↔
      ∃ escaped length later, escape? rest = some (escaped, length) ∧
        readFrom quote 0 (rest.drop length) = some (later, behind) ∧ escaped ++ later = value := by
  simp only [readFrom, if_neg (isQuote_ne_backslash isQuote), if_true, Option.bind_eq_some_iff,
    Option.map_eq_some_iff, Prod.exists, Prod.mk.injEq]
  constructor
  · rintro ⟨escaped, length, taken, later, _, read, same, rfl⟩
    rw [readFrom_covered] at read
    exact ⟨escaped, length, later, taken, read, same⟩
  · rintro ⟨escaped, length, later, taken, read, same⟩
    rw [← readFrom_covered] at read
    exact ⟨escaped, length, taken, later, behind, read, same, rfl⟩

theorem readFrom_plain {c : Char} (other : c ≠ quote) (plain : isPlain c = true)
    {rest behind : List Char} {value : List Nat} :
    readFrom quote 0 (c :: rest) = some (value, behind) ↔
      ∃ later, readFrom quote 0 rest = some (later, behind) ∧
        unitsOf (Text.codePoint c) ++ later = value := by
  obtain ⟨noEscape, noBreak⟩ : c ≠ '\\' ∧ breaksOff c = false := by simpa [isPlain] using plain
  simp [readFrom, other, noEscape, noBreak]

theorem readFrom_break (isQuote : IsQuote quote) {c : Char} (breaks : breaksOff c = true)
    (rest : List Char) : readFrom quote 0 (c :: rest) = none := by
  have lineEnd : c = '\n' ∨ c = '\r' := by simpa [breaksOff] using breaks
  have apart : c ≠ quote ∧ c ≠ '\\' := by
    rcases lineEnd with rfl | rfl <;> rcases isQuote with rfl | rfl <;> decide
  simp [readFrom, apart, breaks]

/-- A literal takes up text, and its value with the text behind it is no heavier than the whole. -/
theorem readFrom_bounds (isQuote : IsQuote quote) {text : List Char} {value : List Nat}
    {behind : List Char} (read : readFrom quote 0 text = some (value, behind)) :
    behind.length < text.length ∧ value.length + weight quote behind ≤ weight quote text := by
  induction size : text.length using Nat.strongRecOn generalizing text value with
  | ind bound ih =>
    cases text with
    | nil => cases read
    | cons c rest =>
      rw [List.length_cons] at size
      by_cases same : c = quote
      · rw [same, readFrom_quote] at read
        obtain ⟨rfl, rfl⟩ := Prod.mk.inj (Option.some.inj read)
        rw [same, weight_quote]
        exact ⟨by omega, by simp⟩
      by_cases backslash : c = '\\'
      · subst backslash
        obtain ⟨escaped, length, later, taken, inner, rfl⟩ := (readFrom_escape isQuote).mp read
        have dropped : (rest.drop length).length ≤ rest.length := by simp
        obtain ⟨ends, light⟩ := ih _ (by omega) inner rfl
        have whole := @weight_take_drop quote length rest
        have one : (unitsOf (Text.codePoint '\\')).length = 1 := by decide
        -- The backslash makes up for an escaped quote, which has no weight.
        have escape : escaped.length ≤ 1 + weight quote (rest.take length) := by
          by_cases quoted : rest.head? = some quote
          · obtain ⟨more, rfl⟩ := List.head?_eq_some_iff.mp quoted
            rw [escape?_quote isQuote] at taken
            obtain ⟨rfl, _⟩ := Prod.mk.inj (Option.some.inj taken)
            have single : (unitsOf (Text.codePoint quote)).length = 1 := by
              rcases isQuote with rfl | rfl <;> decide
            omega
          · have := length_le_of_escape? isQuote quoted taken
            omega
        rw [weight_cons same, List.length_append]
        omega
      by_cases breaks : breaksOff c = true
      · rw [readFrom_break isQuote breaks] at read
        cases read
      · have plain : isPlain c = true := by simp [isPlain, backslash, breaks]
        obtain ⟨later, inner, rfl⟩ := (readFrom_plain same plain).mp read
        obtain ⟨ends, light⟩ := ih _ (by omega) inner rfl
        rw [weight_cons same, List.length_append]
        omega

/-- A backslash escapes a quote, or it is missing in the value. -/
theorem readFrom_backslash (isQuote : IsQuote quote) {text : List Char} {value : List Nat}
    {behind : List Char} (read : readFrom quote 0 ('\\' :: text) = some (value, behind)) :
    value.length + weight quote behind ≤ weight quote text ∨
      ∃ rest later, text = quote :: rest ∧ value = unitsOf (Text.codePoint quote) ++ later ∧
        readFrom quote 0 rest = some (later, behind) := by
  obtain ⟨escaped, length, later, taken, inner, rfl⟩ := (readFrom_escape isQuote).mp read
  by_cases quoted : text.head? = some quote
  · obtain ⟨rest, rfl⟩ := List.head?_eq_some_iff.mp quoted
    rw [escape?_quote isQuote] at taken
    obtain ⟨rfl, rfl⟩ := Prod.mk.inj (Option.some.inj taken)
    exact .inr ⟨rest, later, rfl, rfl, inner⟩
  · have short := length_le_of_escape? isQuote quoted taken
    obtain ⟨_, light⟩ := readFrom_bounds isQuote inner
    have whole := @weight_take_drop quote length text
    rw [List.length_append]
    left
    omega

/-- A text of plain characters other than the quote reads back as it is, and no other text does. -/
theorem readsBack_iff (isQuote : IsQuote quote) (text behind : List Char) :
    ReadsBack quote text text behind ↔ ∀ c ∈ text, isPlain c = true ∧ c ≠ quote := by
  unfold ReadsBack
  induction text with
  | nil => simp [readFrom_quote]
  | cons c rest ih =>
    rw [List.cons_append, List.forall_mem_cons, ← ih, units_cons]
    by_cases same : c = quote
    · -- The literal ends at this character, and its value is empty.
      refine iff_of_false (fun read => ?_) (by simp [same])
      rw [same, readFrom_quote] at read
      have none := congrArg List.length (Prod.mk.inj (Option.some.inj read)).1
      rw [List.length_append, List.length_nil] at none
      have := length_unitsOf_pos (Text.codePoint quote)
      omega
    by_cases plain : isPlain c = true
    · rw [readFrom_plain same plain]
      simp [plain, same]
    · refine iff_of_false (fun read => ?_) (by simp [plain])
      rcases (by simpa [isPlain, imp_iff_not_or] using plain : c = '\\' ∨ breaksOff c = true)
        with rfl | breaks
      · -- Neither what the backslash belongs to nor what comes later makes up for it.
        have light := @weight_le quote rest
        have one := length_unitsOf_pos (Text.codePoint '\\')
        rcases readFrom_backslash isQuote read with short | ⟨more, later, split, value, inner⟩
        · simp only [List.length_append, weight_append, weight_quote] at short
          omega
        · cases rest with
          | nil =>
            -- The escaped quote is the closing one, and the literal runs on behind it.
            obtain rfl : behind = more := by simpa using split
            exact absurd (readFrom_bounds isQuote inner).1 (Nat.lt_irrefl _)
          | cons d rest =>
            obtain ⟨rfl, rfl⟩ : d = quote ∧ rest ++ quote :: behind = more := by simpa using split
            have short := (readFrom_bounds isQuote inner).2
            have light := @weight_le d rest
            have same := congrArg List.length value
            simp only [List.length_append, weight_append, weight_quote, units_cons] at short same
            omega
      · rw [readFrom_break isQuote (by simpa using breaks)] at read
        cases read

/-- A text in which the quotes are escaped, and nothing else is. -/
def escapeQuotes (quote : Char) (text : List Char) : List Char :=
  Text.replaceAll [quote] ['\\', quote] text

theorem escapeQuotes_cons (quote c : Char) (text : List Char) :
    escapeQuotes quote (c :: text) =
      (if c = quote then ['\\', quote] else [c]) ++ escapeQuotes quote text := by
  simp only [escapeQuotes, Text.replaceAll_singleton, List.flatMap_cons]

theorem weight_escapeQuotes (isQuote : IsQuote quote) (text : List Char) :
    weight quote (escapeQuotes quote text) = (units text).length := by
  induction text with
  | nil => rfl
  | cons c rest ih =>
    rw [escapeQuotes_cons, weight_append, ih, units_cons, List.length_append]
    by_cases same : c = quote
    · have one : (unitsOf (Text.codePoint '\\')).length = 1 := by decide
      have single : (unitsOf (Text.codePoint quote)).length = 1 := by
        rcases isQuote with rfl | rfl <;> decide
      rw [if_pos same, weight_cons (isQuote_ne_backslash isQuote), weight_quote, weight_nil, same]
      omega
    · rw [if_neg same, weight_cons same, weight_nil]
      omega

theorem head?_escapeQuotes (isQuote : IsQuote quote) (text : List Char) :
    (escapeQuotes quote text).head? ≠ some quote := by
  cases text with
  | nil => simp [escapeQuotes, Text.replaceAll, Text.replaceFrom]
  | cons c rest =>
    rw [escapeQuotes_cons]
    by_cases same : c = quote
    · simp [same, isQuote_ne_backslash isQuote]
    · simp [same]

/-- With its quotes escaped a text reads back if all its characters are plain, and else it does
not. -/
theorem readsBack_escapeQuotes_iff (isQuote : IsQuote quote) (text behind : List Char) :
    ReadsBack quote (escapeQuotes quote text) text behind ↔ ∀ c ∈ text, isPlain c = true := by
  unfold ReadsBack
  induction text with
  | nil => simp [escapeQuotes, Text.replaceAll, Text.replaceFrom, readFrom_quote]
  | cons c rest ih =>
    rw [List.forall_mem_cons, ← ih, units_cons, escapeQuotes_cons]
    by_cases same : c = quote
    · subst same
      have quotePlain : isPlain c = true := by rcases isQuote with rfl | rfl <;> decide
      rw [if_pos rfl, List.append_assoc, List.cons_append, readFrom_escape isQuote]
      simp [escape?_quote isQuote, quotePlain]
    rw [if_neg same, List.append_assoc, List.singleton_append]
    by_cases plain : isPlain c = true
    · rw [readFrom_plain same plain]
      simp [plain]
    · refine iff_of_false (fun read => ?_) (by simp [plain])
      rcases (by simpa [isPlain, imp_iff_not_or] using plain : c = '\\' ∨ breaksOff c = true)
        with rfl | breaks
      · -- What the backslash takes along does not start with a quote, unless the text is over.
        have weight := weight_escapeQuotes isQuote rest
        have one := length_unitsOf_pos (Text.codePoint '\\')
        rcases readFrom_backslash isQuote read with short | ⟨more, later, split, value, inner⟩
        · simp only [List.length_append, weight_append, weight_quote] at short
          omega
        · cases written : escapeQuotes quote rest with
          | nil =>
            rw [written] at split
            obtain rfl : behind = more := by simpa using split
            exact absurd (readFrom_bounds isQuote inner).1 (Nat.lt_irrefl _)
          | cons d others =>
            have starts : d = quote := by
              rw [written, List.cons_append] at split
              exact (List.cons.inj split).1
            exact absurd (by rw [written, starts]; rfl) (head?_escapeQuotes isQuote rest)
      · rw [readFrom_break isQuote (by simpa using breaks)] at read
        cases read

end reading

section equals

variable {quote : Char}

/-- No escape of more than one character takes up an equals sign. -/
theorem equals_notMem_of_escape? {text : List Char} {value : List Nat} {length : Nat}
    (taken : escape? text = some (value, length)) (long : 1 < length) :
    '=' ∉ text.take length := by
  have hex {digits : List Char} (all : digits.all isHexDigit = true) : '=' ∉ digits :=
    fun member => absurd (List.all_eq_true.mp all _ member) (by decide)
  have numbered {size : Nat} {c : Char} {rest : List Char} (other : c ≠ '=')
      (taken : numbered? size rest = some (value, length)) : '=' ∉ (c :: rest).take length := by
    unfold numbered? at taken
    dsimp only at taken
    split at taken
    · rename_i digits
      obtain ⟨rfl, rfl⟩ := Prod.mk.inj (Option.some.inj taken)
      rw [List.take_succ_cons]
      simpa [other.symm] using hex digits.2
    · cases taken
  revert taken
  fun_cases escape? text with
  | case1 | case8 =>
    intro taken
    cases taken
  | case2 rest =>
    intro taken
    obtain ⟨rfl, rfl⟩ := Prod.mk.inj (Option.some.inj taken)
    simp
  | case3 rest =>
    intro taken
    unfold braced? at taken
    dsimp only at taken
    split at taken
    · rename_i closed
      obtain ⟨rfl, rfl⟩ := Prod.mk.inj (Option.some.inj taken)
      obtain ⟨more, split⟩ := List.head?_eq_some_iff.mp closed.2.1
      -- Between the braces there are digits only.
      have whole := List.prefix_iff_eq_append.mp (List.takeWhile_prefix isHexDigit (l := rest))
      have all := hex (List.all_takeWhile (p := isHexDigit) (l := rest))
      generalize rest.takeWhile isHexDigit = digits at split whole all
      rw [← whole, split, List.take_succ_cons, List.take_succ_cons, List.take_append,
        List.take_of_length_le (Nat.le_succ _)]
      simpa using all
    · cases taken
  | case4 rest => exact numbered (by decide)
  | case5 rest => exact numbered (by decide)
  | case6 c rest | case7 c rest | case9 c rest =>
    intro taken
    obtain ⟨rfl, rfl⟩ := Prod.mk.inj (Option.some.inj taken)
    exact absurd long (Nat.lt_irrefl _)

/-- A literal that starts before an equals sign ends before it, or it goes on behind it. -/
theorem readFrom_equals (isQuote : IsQuote quote) {text rest behind : List Char} {value : List Nat}
    (read : readFrom quote 0 (text ++ '=' :: rest) = some (value, behind)) :
    '=' :: rest <:+ behind ∨ ∃ later, readFrom quote 0 rest = some (later, behind) := by
  induction size : text.length using Nat.strongRecOn generalizing text value with
  | ind bound ih =>
    cases text with
    | nil =>
      have other : '=' ≠ quote := by rcases isQuote with rfl | rfl <;> decide
      obtain ⟨later, read, _⟩ := (readFrom_plain other (by decide)).mp read
      exact .inr ⟨later, read⟩
    | cons c text =>
      rw [List.length_cons] at size
      rw [List.cons_append] at read
      by_cases same : c = quote
      · rw [same, readFrom_quote] at read
        obtain ⟨rfl, rfl⟩ := Prod.mk.inj (Option.some.inj read)
        exact .inl (List.suffix_append _ _)
      by_cases backslash : c = '\\'
      · subst backslash
        obtain ⟨escaped, length, later, taken, inner, rfl⟩ := (readFrom_escape isQuote).mp read
        by_cases within : length ≤ text.length
        · rw [List.drop_append_of_le_length within] at inner
          exact ih _ (by simp; omega) inner rfl
        · -- The escape takes up the equals sign, and nothing else fits in.
          obtain ⟨more, rfl⟩ := Nat.exists_eq_add_of_lt (Nat.lt_of_not_le within)
          have short : text.length + more + 1 ≤ 1 := by
            by_contra long
            refine equals_notMem_of_escape? taken (by omega) ?_
            rw [Nat.add_assoc, List.take_append]
            simp
          obtain ⟨rfl, rfl⟩ : text = [] ∧ more = 0 :=
            ⟨List.length_eq_zero_iff.mp (by omega), by omega⟩
          exact .inr ⟨later, inner⟩
      by_cases breaks : breaksOff c = true
      · rw [readFrom_break isQuote breaks] at read
        cases read
      · have plain : isPlain c = true := by simp [isPlain, backslash, breaks]
        obtain ⟨later, inner, rfl⟩ := (readFrom_plain same plain).mp read
        exact ih _ (by omega) inner rfl

end equals

end ApiBindings.StringLiteral
