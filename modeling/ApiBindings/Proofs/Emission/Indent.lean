import ApiBindings.Emission.Template
import ApiBindings.Proofs.Text.Comment

/-!
# Indented texts

Indentation cuts a text into lines and joins them again, so whatever ends a line becomes a line
feed. Seen from the characters it puts two blanks before each first one of a line and leaves all
others as they are. So it can be followed piece by piece, and it neither makes nor breaks a mark of
a comment.
-/
namespace ApiBindings.Template

open Comment (Inert Piece closing spell)

/-- Indents a text of which the first line is started already, or not. -/
def reflow : Bool → List Char → List Char
  | _, [] => []
  | _, '\r' :: '\n' :: rest => '\n' :: reflow true rest
  | start, c :: rest =>
    if endsLine c then '\n' :: reflow true rest
    else (if start then [' ', ' '] else []) ++ c :: reflow false rest

/-- Whether a line starts behind a text. -/
def startsLine (start : Bool) (text : List Char) : Bool :=
  (text.getLast?.map endsLine).getD start

/-- A text that makes no line end together with one behind it. -/
def Complete (text : List Char) : Prop := text.getLast? ≠ some '\r'

instance (text : List Char) : Decidable (Complete text) :=
  inferInstanceAs (Decidable (text.getLast? ≠ some '\r'))

def indentLine (line : List Char) : List Char := if line.isEmpty then line else ' ' :: ' ' :: line

theorem reflow_end {c : Char} (ends : endsLine c = true) {rest : List Char}
    (apart : c = '\r' → rest.head? ≠ some '\n') (start : Bool) :
    reflow start (c :: rest) = '\n' :: reflow true rest := by
  rw [reflow, if_pos ends]
  rintro rest' rfl rfl
  exact apart rfl rfl

theorem reflow_cons {c : Char} (inside : endsLine c = false) (start : Bool) (rest : List Char) :
    reflow start (c :: rest) = (if start then [' ', ' '] else []) ++ c :: reflow false rest := by
  rw [reflow, if_neg (by simp [inside])]
  rintro rest' rfl rfl
  cases inside

theorem linesFrom_end {c : Char} (ends : endsLine c = true) {rest : List Char}
    (apart : c = '\r' → rest.head? ≠ some '\n') (current : List Char) :
    linesFrom current (c :: rest) = current.reverse :: linesFrom [] rest := by
  rw [linesFrom, if_pos ends]
  rintro rest' rfl rfl
  exact apart rfl rfl

theorem linesFrom_cons {c : Char} (inside : endsLine c = false) (current rest : List Char) :
    linesFrom current (c :: rest) = linesFrom (c :: current) rest := by
  rw [linesFrom, if_neg (by simp [inside])]
  rintro rest' rfl rfl
  cases inside

theorem Complete.tail {c d : Char} {text : List Char} (complete : Complete (c :: d :: text)) :
    Complete (d :: text) := by
  rwa [Complete, List.getLast?_cons_cons] at complete

theorem complete_of_cons {c : Char} {text : List Char} (complete : Complete (c :: text)) :
    Complete text := by
  cases text with
  | nil => simp [Complete]
  | cons d rest => exact complete.tail

theorem join_cons_cons (first second : List Char) (rest : List (List Char)) :
    Text.join ['\n'] (first :: second :: rest) =
      first ++ '\n' :: Text.join ['\n'] (second :: rest) := by
  simp [Text.join, List.intercalate_cons_cons]

/-- The lines of a text and their join, with the first line indented or not. -/
theorem exists_linesFrom {text : List Char} (complete : Complete text) (current : List Char) :
    ∃ first rest, linesFrom current (text ++ ['\n']) = (current.reverse ++ first) :: rest ∧
      Text.join ['\n'] (first :: rest.map indentLine) = reflow false text ∧
      Text.join ['\n'] (indentLine first :: rest.map indentLine) = reflow true text := by
  -- A line that is over is followed by at least one, the empty line behind the last end.
  have ended {text : List Char} {current : List Char} {lines : List (List Char)}
      (later : ∃ first rest, lines = first :: rest ∧
        Text.join ['\n'] (indentLine first :: rest.map indentLine) = reflow true text) :
      ∃ first rest, current.reverse :: lines = (current.reverse ++ first) :: rest ∧
        Text.join ['\n'] (first :: rest.map indentLine) = '\n' :: reflow true text ∧
        Text.join ['\n'] (indentLine first :: rest.map indentLine) = '\n' :: reflow true text := by
    obtain ⟨first, rest, rfl, joined⟩ := later
    refine ⟨[], first :: rest, by rw [List.append_nil], ?_, ?_⟩
    · rw [List.map_cons, join_cons_cons, joined, List.nil_append]
    · rw [List.map_cons, join_cons_cons, joined]
      rfl
  induction size : text.length using Nat.strongRecOn generalizing text current with
  | ind size ih =>
    match text with
    | [] => exact ⟨[], [], by simp [linesFrom, endsLine], rfl, rfl⟩
    | c :: rest =>
      rw [List.length_cons] at size
      by_cases pair : c = '\r' ∧ rest.head? = some '\n'
      · obtain ⟨rfl, headed⟩ := pair
        obtain ⟨rest, rfl⟩ := List.head?_eq_some_iff.mp headed
        rw [List.length_cons] at size
        obtain ⟨first, others, lines, _, joined⟩ :=
          ih rest.length (by omega) (complete_of_cons (complete_of_cons complete)) [] rfl
        simp only [reflow]
        rw [List.cons_append, List.cons_append, linesFrom]
        exact ended ⟨first, others, lines, joined⟩
      have apart : c = '\r' → rest.head? ≠ some '\n' := fun same headed => pair ⟨same, headed⟩
      have complete' := complete_of_cons complete
      by_cases ends : endsLine c = true
      · obtain ⟨first, others, lines, _, joined⟩ := ih rest.length (by omega) complete' [] rfl
        have apart' : c = '\r' → (rest ++ ['\n']).head? ≠ some '\n' := by
          rintro rfl
          cases rest with
          | nil => exact absurd rfl complete
          | cons d rest => exact apart rfl
        rw [reflow_end ends apart, reflow_end ends apart, List.cons_append,
          linesFrom_end ends apart']
        exact ended ⟨first, others, lines, joined⟩
      · have inside : endsLine c = false := by simpa using ends
        obtain ⟨first, others, lines, joined, _⟩ :=
          ih rest.length (by omega) complete' (c :: current) rfl
        have continued (before : List Char) :
            Text.join ['\n'] ((before ++ c :: first) :: others.map indentLine) =
              before ++ c :: reflow false rest := by
          rw [← joined]
          cases others with
          | nil => simp [Text.join]
          | cons second others => simp [join_cons_cons]
        refine ⟨c :: first, others, ?_, ?_, ?_⟩
        · rw [List.cons_append, linesFrom_cons inside, lines]
          simp
        · rw [reflow_cons inside]
          exact continued []
        · rw [reflow_cons inside]
          exact continued [' ', ' ']

/-- Indentation puts two blanks before the text and before each line in it that is not empty. -/
theorem indent_eq {text : String} (complete : Complete text.toList) :
    (indent text).toList = ' ' :: ' ' :: reflow false text.toList := by
  obtain ⟨first, rest, lines, joined, _⟩ := exists_linesFrom complete []
  rw [List.reverse_nil, List.nil_append] at lines
  rw [indent, lines, ← joined]
  cases rest with
  | nil => simp [Text.join]
  | cons second others =>
    simp only [List.map_cons, join_cons_cons, String.toList_ofList]
    rfl

theorem startsLine_cons (start : Bool) (c : Char) (text : List Char) :
    startsLine start (c :: text) = startsLine (endsLine c) text := by
  cases text with
  | nil => rfl
  | cons d rest =>
    rw [startsLine, startsLine, List.getLast?_cons_cons]
    cases last : (d :: rest).getLast? with
    | none => simp at last
    | some e => rfl

/-- Behind a complete text it goes on where the text left off. -/
theorem reflow_append {text : List Char} (complete : Complete text) (start : Bool)
    (behind : List Char) :
    reflow start (text ++ behind) = reflow start text ++ reflow (startsLine start text) behind := by
  induction size : text.length using Nat.strongRecOn generalizing text start with
  | ind size ih =>
    match text with
    | [] => rfl
    | c :: rest =>
      rw [List.length_cons] at size
      -- Both characters of a line end go at once, so the induction is on the length.
      by_cases pair : c = '\r' ∧ rest.head? = some '\n'
      · obtain ⟨rfl, headed⟩ := pair
        obtain ⟨rest, rfl⟩ := List.head?_eq_some_iff.mp headed
        rw [List.length_cons] at size
        have later := ih rest.length (by omega) (complete_of_cons (complete_of_cons complete))
          true rfl
        simp only [List.cons_append, reflow, later, startsLine_cons]
        rfl
      have apart : c = '\r' → rest.head? ≠ some '\n' := fun same headed => pair ⟨same, headed⟩
      have later (start : Bool) := ih rest.length (by omega) (complete_of_cons complete) start rfl
      by_cases ends : endsLine c = true
      · -- A complete text does not leave half of a line end to what follows it.
        have apart' : c = '\r' → (rest ++ behind).head? ≠ some '\n' := by
          rintro rfl
          cases rest with
          | nil => exact absurd rfl complete
          | cons d rest => exact apart rfl
        rw [List.cons_append, reflow_end ends apart', reflow_end ends apart, later,
          startsLine_cons, ends, List.cons_append]
      · have inside : endsLine c = false := by simpa using ends
        rw [List.cons_append, reflow_cons inside, reflow_cons inside, later, startsLine_cons,
          inside, List.append_assoc, List.cons_append]

theorem head?_reflow_false {text : List Char} :
    (reflow false text).head? = some '/' ↔ text.head? = some '/' := by
  unfold reflow
  split
  · rfl
  · simp
  · rename_i c rest _
    split
    · rename_i ends
      refine iff_of_false (by simp) fun slash => ?_
      obtain rfl : c = '/' := by simpa using slash
      cases ends
    · simp

/-- Indentation neither makes a closing mark nor takes one away. -/
theorem inert_reflow (start : Bool) (text : List Char) :
    Inert (reflow start text) ↔ Inert text := by
  fun_induction reflow start text with
  | case1 start => rfl
  | case2 start rest ih =>
    rw [Comment.inert_cons_of_ne (by decide), ih, Comment.inert_cons_of_ne (by decide),
      Comment.inert_cons_of_ne (by decide)]
  | case3 start c rest apart ends ih =>
    have other : c ≠ '*' := by
      rintro rfl
      cases ends
    rw [Comment.inert_cons_of_ne (by decide), ih, Comment.inert_cons_of_ne other]
  | case4 start c rest apart inside ih =>
    -- Nothing is put between two characters of one line, so a mark stays whole.
    have marked : closing <+: c :: reflow false rest ↔ closing <+: c :: rest := by
      have begins (text : List Char) : closing <+: c :: text ↔ c = '*' ∧ text.head? = some '/' := by
        cases text <;> simp [closing, List.cons_prefix_cons, eq_comm]
      rw [begins, begins, head?_reflow_false]
    have plain : Inert (c :: reflow false rest) ↔ Inert (c :: rest) := by
      rw [Comment.inert_cons_iff, Comment.inert_cons_iff, marked, ih]
    cases start with
    | false => exact plain
    | true =>
      rw [if_pos rfl, List.cons_append, List.cons_append, Comment.inert_cons_of_ne (by decide),
        Comment.inert_cons_of_ne (by decide)]
      exact plain

/-- Code that is complete, or a comment that ends with a blank. -/
def Tidy : Piece → Prop
  | .code text => Complete text
  | .comment body => body.getLast? = some ' '

/-- Indents the pieces of a text one after the other. -/
def reflowPieces : Bool → List Piece → List Piece
  | _, [] => []
  | start, .code text :: rest =>
    .code (reflow start text) :: reflowPieces (startsLine start text) rest
  | start, .comment body :: rest =>
    .code (if start then [' ', ' '] else []) :: .comment (reflow false body)
      :: reflowPieces false rest

theorem spell_reflowPieces (start : Bool) {pieces : List Piece}
    (tidy : ∀ piece ∈ pieces, Tidy piece) :
    spell (reflowPieces start pieces) = reflow start (spell pieces) := by
  induction pieces generalizing start with
  | nil => rfl
  | cons piece rest ih =>
    obtain ⟨first, later⟩ := List.forall_mem_cons.mp tidy
    cases piece with
    | code text =>
      rw [reflowPieces, Comment.spell_code, Comment.spell_code, reflow_append first, ih _ later]
    | comment body =>
      have complete : Complete body := by
        rw [Complete, show body.getLast? = some ' ' from first]
        decide
      have inLine : startsLine false body = false := by
        rw [startsLine, show body.getLast? = some ' ' from first]
        rfl
      have slash : endsLine '/' = false := by decide
      have star : endsLine '*' = false := by decide
      rw [reflowPieces, Comment.spell_code, Comment.spell_comment, Comment.spell_comment,
        reflow_cons slash, reflow_cons star, reflow_append complete, inLine, reflow_cons star,
        reflow_cons slash, ih _ later]
      simp

theorem comment_mem_reflowPieces {start : Bool} {pieces : List Piece} {body : List Char} :
    .comment body ∈ reflowPieces start pieces ↔
      ∃ original, .comment original ∈ pieces ∧ body = reflow false original := by
  induction pieces generalizing start with
  | nil => simp [reflowPieces]
  | cons piece rest ih =>
    cases piece with
    | code text => simp [reflowPieces, ih]
    | comment first => simp [reflowPieces, ih]

end ApiBindings.Template
