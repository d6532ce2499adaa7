import ApiBindings.Proofs.Text.Pieces
import ApiBindings.Service.Path

/-!
# Pieces of a template

A template is spelled out of characters and of expressions. As long as no character of it opens an
expression by chance, the expressions in its text are those it is spelled of, and renaming the first
expression of a name replaces one piece by another.
-/
namespace ApiBindings.ServicePath

/-- A text in which no expression is opened. -/
def Unopened (text : List Char) : Prop := ¬ ['$', '\x7b'] <:+: text

theorem Unopened.of_infix {part text : List Char} (unopened : Unopened text)
    (inside : part <:+: text) :
    Unopened part := fun opened => unopened (opened.trans inside)

theorem Unopened.tail {c : Char} {text : List Char} (unopened : Unopened (c :: text)) :
    Unopened text :=
  unopened.of_infix (List.suffix_cons c text).isInfix

/-- A text up to its first closing brace. -/
theorem braced?_eq_some {text name : List Char} :
    braced? text = some name ↔ '\x7d' ∉ name ∧ ∃ rest, text = name ++ '\x7d' :: rest := by
  have same : braced? text = if (Text.firstPiece '\x7d' text).length < text.length then
      some (Text.firstPiece '\x7d' text) else none := rfl
  rw [same]
  constructor
  · intro found
    split at found
    · rename_i shorter
      obtain rfl := Option.some.inj found
      obtain ⟨closed, whole | divided⟩ := Text.firstPiece_spec '\x7d' text
      · rw [whole] at shorter
        omega
      · exact ⟨closed, divided⟩
    · simp at found
  · rintro ⟨closed, rest, rfl⟩
    have first : Text.firstPiece '\x7d' (name ++ '\x7d' :: rest) = name := by
      rw [Text.firstPiece_append closed]
      simp [Text.firstPiece]
    rw [first, if_pos (by simp)]

theorem braced?_eq_none {text : List Char} : braced? text = none ↔ '\x7d' ∉ text := by
  rw [Option.eq_none_iff_forall_ne_some]
  constructor
  · intro none member
    obtain ⟨before, after, rfl, closed⟩ := List.eq_append_cons_of_mem member
    exact none before (braced?_eq_some.mpr ⟨closed, after, rfl⟩)
  · intro absent name found
    obtain ⟨_, rest, rfl⟩ := braced?_eq_some.mp found
    simp at absent

/-- The name of the expression that a text starts with. -/
def expression? : List Char → Option String
  | '$' :: '\x7b' :: rest => (braced? rest).map String.ofList
  | _ => none

/-- The names of all expressions in a text. -/
def expressions : List Char → List String
  | [] => []
  | c :: rest => (expression? (c :: rest)).toList ++ expressions rest

/-- A piece of a template: a character, or an expression. -/
inductive Piece
  | char (c : Char)
  | slot (name : String)
  deriving DecidableEq

namespace Piece

def spell : Piece → List Char
  | char c => [c]
  | slot name => expression name.toList

def name? : Piece → Option String
  | char _ => none
  | slot name => some name

end Piece

def spell (pieces : List Piece) : List Char := pieces.flatMap Piece.spell

/-- The names of the expressions that a template is spelled of. -/
def slots (pieces : List Piece) : List String := pieces.filterMap Piece.name?

/-- A name that neither ends an expression nor opens another one. -/
structure Plain (name : List Char) : Prop where
  closed : '\x7d' ∉ name
  unopened : Unopened name

/-- Pieces whose characters open no expression, and whose names are plain. -/
def Legible : List Piece → Prop
  | [] => True
  | .char c :: rest => (c = '$' → rest.head? ≠ some (.char '\x7b')) ∧ Legible rest
  | .slot name :: rest => Plain name.toList ∧ Legible rest

@[simp] theorem spell_nil : spell [] = [] := rfl

@[simp] theorem spell_char (c : Char) (rest : List Piece) :
    spell (.char c :: rest) = c :: spell rest := rfl

@[simp] theorem spell_slot (name : String) (rest : List Piece) :
    spell (.slot name :: rest) = '$' :: '\x7b' :: (name.toList ++ '\x7d' :: spell rest) := by
  simp [spell, Piece.spell, expression]

@[simp] theorem spell_append (one other : List Piece) :
    spell (one ++ other) = spell one ++ spell other :=
  List.flatMap_append

theorem spell_chars (text : List Char) : spell (text.map .char) = text := by
  induction text with
  | nil => rfl
  | cons c rest ih => rw [List.map_cons, spell_char, ih]

@[simp] theorem slots_nil : slots [] = [] := rfl

@[simp] theorem slots_char (c : Char) (rest : List Piece) :
    slots (.char c :: rest) = slots rest := rfl

@[simp] theorem slots_slot (name : String) (rest : List Piece) :
    slots (.slot name :: rest) = name :: slots rest := rfl

/-- Only a character that is a brace is spelled with a brace in front. -/
theorem head?_spell {pieces : List Piece} (opened : (spell pieces).head? = some '\x7b') :
    pieces.head? = some (.char '\x7b') := by
  match pieces with
  | [] => simp at opened
  | .char c :: rest => simpa using opened
  | .slot name :: rest => simp at opened

theorem expression?_eq_none {c : Char} {rest : List Char}
    (apart : c = '$' → rest.head? ≠ some '\x7b') : expression? (c :: rest) = none := by
  unfold expression?
  split
  · rename_i same
    obtain ⟨rfl, rfl⟩ := List.cons.inj same
    simp at apart
  · rfl

/-- No expression begins inside a plain name. -/
theorem apart_of_unopened {c : Char} {name : List Char} (unopened : Unopened (c :: name))
    (rest : List Char) : c = '$' → (name ++ '\x7d' :: rest).head? ≠ some '\x7b' := by
  rintro rfl opened
  cases name with
  | nil => simp at opened
  | cons d name =>
    obtain rfl : d = '\x7b' := by simpa using opened
    exact unopened ⟨[], name, rfl⟩

theorem expressions_plain {name : List Char} (unopened : Unopened name) (rest : List Char) :
    expressions (name ++ '\x7d' :: rest) = expressions rest := by
  induction name with
  | nil =>
    rw [List.nil_append, expressions, expression?_eq_none (by simp)]
    rfl
  | cons c name ih =>
    rw [List.cons_append, expressions, expression?_eq_none (apart_of_unopened unopened rest),
      ih unopened.tail]
    rfl

/-- The expressions in a text are those it is spelled of. -/
theorem expressions_spell {pieces : List Piece} (legible : Legible pieces) :
    expressions (spell pieces) = slots pieces := by
  induction pieces with
  | nil => rfl
  | cons piece rest ih =>
    cases piece with
    | char c =>
      obtain ⟨apart, legible⟩ := legible
      rw [spell_char, slots_char, expressions, ih legible, expression?_eq_none fun same opened =>
        apart same (head?_spell opened)]
      rfl
    | slot name =>
      obtain ⟨plain, legible⟩ := legible
      have found :
          expression? ('$' :: '\x7b' :: (name.toList ++ '\x7d' :: spell rest)) = some name := by
        rw [expression?, braced?_eq_some.mpr ⟨plain.closed, _, rfl⟩]
        simp
      have brace : expression? ('\x7b' :: (name.toList ++ '\x7d' :: spell rest)) = none :=
        expression?_eq_none (by simp)
      rw [spell_slot, slots_slot, expressions, found, expressions, brace,
        expressions_plain plain.unopened, ih legible]
      rfl

theorem replaceFirst_of_apart {name new : List Char} {c : Char} {rest : List Char}
    (apart : c = '$' → rest.head? ≠ some '\x7b') :
    Text.replaceFirst (expression name) new (c :: rest) =
      c :: Text.replaceFirst (expression name) new rest := by
  have notHere : ¬ (expression name).isPrefixOf (c :: rest) = true := by
    intro prefixed
    cases rest with
    | nil => simp [expression, List.isPrefixOf] at prefixed
    | cons d rest =>
      simp only [expression, List.cons_append, List.isPrefixOf, Bool.and_eq_true,
        beq_iff_eq] at prefixed
      exact apart prefixed.1.symm (congrArg some prefixed.2.1.symm)
  rw [Text.replaceFirst, if_neg notHere]

theorem replaceFirst_plain {other : List Char} (unopened : Unopened other)
    (name new rest : List Char) :
    Text.replaceFirst (expression name) new (other ++ '\x7d' :: rest) =
      other ++ '\x7d' :: Text.replaceFirst (expression name) new rest := by
  induction other with
  | nil => exact replaceFirst_of_apart (by simp)
  | cons c other ih =>
    rw [List.cons_append, replaceFirst_of_apart (apart_of_unopened unopened rest), ih unopened.tail]
    rfl

theorem replace_cons_of_ne {α : Type} [DecidableEq α] {old other : α} (differ : old ≠ other)
    (new : α) (rest : List α) :
    (other :: rest).replace old new = other :: rest.replace old new := by
  simp [List.replace_cons, beq_false_of_ne differ]

/-- Two expressions that start alike have one name. -/
theorem eq_of_closed {name other rest : List Char} (closed : '\x7d' ∉ name)
    (closed' : '\x7d' ∉ other)
    (prefixed : expression name <+: expression other ++ rest) : name = other := by
  obtain ⟨more, same⟩ := prefixed
  have divided : name ++ '\x7d' :: more = other ++ '\x7d' :: rest := by
    simpa [expression] using same
  have first := congrArg braced? divided
  rw [braced?_eq_some.mpr ⟨closed, _, rfl⟩, braced?_eq_some.mpr ⟨closed', _, rfl⟩] at first
  exact Option.some.inj first

/-- The first expression of a name is a piece of the template. -/
theorem replaceFirst_spell {pieces : List Piece} (legible : Legible pieces) {name : String}
    (closed : '\x7d' ∉ name.toList) (new : String) :
    Text.replaceFirst (expression name.toList) (expression new.toList) (spell pieces) =
      spell (pieces.replace (.slot name) (.slot new)) := by
  induction pieces with
  | nil => rfl
  | cons piece rest ih =>
    cases piece with
    | char c =>
      obtain ⟨apart, legible⟩ := legible
      rw [replace_cons_of_ne (by simp), spell_char, spell_char, ← ih legible]
      exact replaceFirst_of_apart fun same opened => apart same (head?_spell opened)
    | slot other =>
      obtain ⟨plain, legible⟩ := legible
      by_cases same : name = other
      · subst same
        rw [List.replace_cons_self]
        exact Text.replaceFirst_self _ _ _ (by simp [expression])
      · have notHere : ¬ (expression name.toList).isPrefixOf (spell (.slot other :: rest)) = true :=
          fun prefixed => same (String.toList_inj.mp
            (eq_of_closed closed plain.closed (List.isPrefixOf_iff_prefix.mp prefixed)))
        rw [replace_cons_of_ne (by simpa using same), spell_slot] at *
        rw [Text.replaceFirst, if_neg notHere, replaceFirst_of_apart (by simp),
          replaceFirst_plain plain.unopened, spell_slot, ih legible]

theorem slots_replace (pieces : List Piece) (name new : String) :
    slots (pieces.replace (.slot name) (.slot new)) = (slots pieces).replace name new := by
  induction pieces with
  | nil => rfl
  | cons piece rest ih =>
    cases piece with
    | char c => rw [replace_cons_of_ne (by simp), slots_char, slots_char, ih]
    | slot other =>
      by_cases same : name = other
      · subst same
        simp
      · rw [replace_cons_of_ne (by simpa using same), slots_slot, slots_slot,
          replace_cons_of_ne same, ih]

theorem legible_replace {pieces : List Piece} (legible : Legible pieces) (name : String)
    {new : String} (plain : Plain new.toList) :
    Legible (pieces.replace (.slot name) (.slot new)) := by
  induction pieces with
  | nil => trivial
  | cons piece rest ih =>
    cases piece with
    | char c =>
      obtain ⟨apart, legible⟩ := legible
      rw [replace_cons_of_ne (by simp)]
      refine ⟨fun same opened => apart same ?_, ih legible⟩
      -- A slot takes the place of a slot, so the next piece is the brace it was.
      cases rest with
      | nil => simp at opened
      | cons next rest =>
        by_cases replaced : .slot name = next
        · subst replaced
          simp at opened
        · rw [replace_cons_of_ne replaced] at opened
          simpa using opened
    | slot other =>
      obtain ⟨plain', legible⟩ := legible
      by_cases same : name = other
      · subst same
        rw [List.replace_cons_self]
        exact ⟨plain, legible⟩
      · rw [replace_cons_of_ne (by simpa using same)]
        exact ⟨plain', ih legible⟩

/-- The pieces of an expression whose name may hold a closing brace, at which it ends. -/
def expressionPieces (name : List Char) : List Piece :=
  match braced? name with
  | some first => .slot (String.ofList first) ::
      (name.drop (first.length + 1) ++ ['\x7d']).map .char
  | none => [.slot (String.ofList name)]

/-- The pieces of the template of a path. -/
def piecesFrom : Nat → List Char → List Piece
  | _, [] => []
  | covered + 1, _ :: rest => piecesFrom covered rest
  | 0, c :: rest =>
    if c = ':' then
      let name := rest.takeWhile (· != '/')
      expressionPieces name ++ piecesFrom name.length rest
    else if c = '\x7b' then
      match braced? rest with
      | some name => .slot (String.ofList name) :: piecesFrom (name.length + 1) rest
      | none => .char c :: piecesFrom 0 rest
    else .char c :: piecesFrom 0 rest

/-- The name of an expression is all there is, or it ends at its first closing brace. -/
theorem expressionPieces_cases (name : List Char) :
    ('\x7d' ∉ name ∧ expressionPieces name = [.slot (String.ofList name)]) ∨
      ∃ first rest, name = first ++ '\x7d' :: rest ∧ '\x7d' ∉ first ∧ expressionPieces name =
        .slot (String.ofList first) :: (rest ++ ['\x7d']).map .char := by
  unfold expressionPieces
  split
  · rename_i first found
    obtain ⟨closed, rest, rfl⟩ := braced?_eq_some.mp found
    have later : (first ++ '\x7d' :: rest).drop (first.length + 1) = rest := by
      rw [← List.drop_drop, List.drop_left]
      rfl
    exact .inr ⟨first, rest, rfl, closed, by rw [later]⟩
  · rename_i absent
    exact .inl ⟨braced?_eq_none.mp absent, rfl⟩

theorem spell_expressionPieces (name : List Char) :
    spell (expressionPieces name) = expression name := by
  rcases expressionPieces_cases name with ⟨_, same⟩ | ⟨first, rest, rfl, _, same⟩
  · simp [same, expression]
  · rw [same, spell_slot, spell_chars]
    simp [expression]

theorem spell_piecesFrom (covered : Nat) (path : List Char) :
    spell (piecesFrom covered path) = templateFrom covered path := by
  fun_induction piecesFrom covered path with
  | case1 => rfl
  | case2 covered c rest ih => rw [ih, templateFrom]
  | case3 rest name ih =>
    rw [spell_append, spell_expressionPieces, ih, templateFrom]
    rfl
  | case4 rest name found _ ih => simp [templateFrom, found, ih, expression]
  | case5 rest none _ ih => simp [templateFrom, none, ih]
  | case6 c rest colon brace ih => simp [templateFrom, colon, brace, ih]

/-- The first piece is the first character of the path, or an expression. -/
theorem head?_piecesFrom {path : List Char} {c : Char}
    (first : (piecesFrom 0 path).head? = some (.char c)) : path.head? = some c := by
  cases path with
  | nil => simp [piecesFrom] at first
  | cons d rest =>
    rw [piecesFrom] at first
    split at first
    · dsimp only at first
      rcases expressionPieces_cases (rest.takeWhile (· != '/')) with ⟨_, same⟩ | ⟨_, _, _, _, same⟩
      · simp [same] at first
      · simp [same] at first
    · split at first
      · rename_i brace
        split at first
        · simp at first
        · simpa [brace] using first
      · simpa using first

theorem legible_closing {text : List Char} (unopened : Unopened text) {rest : List Piece}
    (legible : Legible rest) : Legible ((text ++ ['\x7d']).map .char ++ rest) := by
  induction text with
  | nil => exact ⟨by simp, legible⟩
  | cons c text ih =>
    refine ⟨fun same opened => apart_of_unopened unopened [] same ?_, ih unopened.tail⟩
    cases text with
    | nil => simp at opened
    | cons d text => simpa using opened

theorem legible_expressionPieces {name : List Char} (unopened : Unopened name)
    {rest : List Piece} (legible : Legible rest) : Legible (expressionPieces name ++ rest) := by
  rcases expressionPieces_cases name with ⟨closed, same⟩ | ⟨first, later, rfl, closed, same⟩
  · rw [same]
    exact ⟨⟨by simpa using closed, by simpa using unopened⟩, legible⟩
  · have before : Unopened first := unopened.of_infix (List.prefix_append _ _).isInfix
    have behind : Unopened later :=
      unopened.of_infix ((List.suffix_cons _ _).trans (List.suffix_append _ _)).isInfix
    rw [same]
    exact ⟨⟨by simpa using closed, by simpa using before⟩, legible_closing behind legible⟩

/-- The template of a path that holds no expression yet is legible. -/
theorem legible_piecesFrom {covered : Nat} {path : List Char} (unopened : Unopened path) :
    Legible (piecesFrom covered path) := by
  fun_induction piecesFrom covered path with
  | case1 => trivial
  | case2 covered c rest ih => exact ih unopened.tail
  | case3 rest name ih =>
    have inside : Unopened name :=
      unopened.tail.of_infix (List.takeWhile_prefix _).isInfix
    exact legible_expressionPieces inside (ih unopened.tail)
  | case4 rest name found _ ih =>
    obtain ⟨closed, later, rfl⟩ := braced?_eq_some.mp found
    have inside : Unopened name := unopened.tail.of_infix (List.prefix_append _ _).isInfix
    exact ⟨⟨by simpa using closed, by simpa using inside⟩, ih unopened.tail⟩
  | case5 rest _ _ ih => exact ⟨by simp, ih unopened.tail⟩
  | case6 c rest _ _ ih =>
    refine ⟨?_, ih unopened.tail⟩
    rintro rfl opened
    have brace := head?_piecesFrom opened
    cases rest with
    | nil => simp at brace
    | cons d rest =>
      obtain rfl : d = '\x7b' := by simpa using brace
      exact unopened ⟨[], rest, rfl⟩

theorem template_eq (path : String) :
    template path = String.ofList (spell (piecesFrom 0 path.toList)) := by
  rw [template, spell_piecesFrom]

theorem unopened_of_hasExpression {path : String} (unopened : hasExpression path = false) :
    Unopened path.toList := by
  intro opened
  have found := (Text.occursIn_iff _ _).mpr opened
  simp [hasExpression, found] at unopened

/-- The path of a function that is generated is a legible template. -/
theorem legible_of_hasExpression {path : String} (unopened : hasExpression path = false) :
    Legible (piecesFrom 0 path.toList) :=
  legible_piecesFrom (unopened_of_hasExpression unopened)

/-- Renames the first expression of each name in turn. -/
def renameEach : List (String × String) → List Piece → List Piece
  | [], pieces => pieces
  | (name, new) :: rest, pieces => renameEach rest (pieces.replace (.slot name) (.slot new))

theorem legible_renameEach {changes : List (String × String)}
    (plain : ∀ change ∈ changes, Plain change.2.toList) {pieces : List Piece}
    (legible : Legible pieces) : Legible (renameEach changes pieces) := by
  induction changes generalizing pieces with
  | nil => exact legible
  | cons change rest ih =>
    exact ih (fun other later => plain other (List.mem_cons_of_mem _ later))
      (legible_replace legible _ (plain _ List.mem_cons_self))

/-- A name that nothing else becomes is taken away as often as it is renamed. -/
theorem count_renameEach {changes : List (String × String)} {name : String}
    (fresh : name ∉ changes.map (·.2)) (pieces : List Piece) :
    (slots (renameEach changes pieces)).count name =
      (slots pieces).count name - (changes.map (·.1)).count name := by
  induction changes generalizing pieces with
  | nil => rfl
  | cons change rest ih =>
    obtain ⟨old, new⟩ := change
    rw [List.map_cons, List.mem_cons, not_or] at fresh
    rw [renameEach, ih fresh.2, slots_replace, List.count_replace, List.map_cons, List.count_cons]
    -- A name that does not occur is counted neither before nor after.
    by_cases same : old = name
    · subst same
      by_cases present : old ∈ slots pieces
      · simp [present, beq_false_of_ne (Ne.symm fresh.1)]
        omega
      · simp [present, List.count_eq_zero_of_not_mem present]
    · simp [beq_false_of_ne (Ne.symm fresh.1), beq_false_of_ne same]

/-- What a name becomes when all names are renamed at once. -/
def renamedBy (changes : List (String × String)) (name : String) : String :=
  (changes.lookup name).getD name

def Piece.mapName (rename : String → String) : Piece → Piece
  | char c => char c
  | slot name => slot (rename name)

theorem replace_eq_map {α : Type} [DecidableEq α] {items : List α} {old : α}
    (once : items.count old ≤ 1) (new : α) :
    items.replace old new = items.map fun item => if item = old then new else item := by
  induction items with
  | nil => rfl
  | cons item rest ih =>
    by_cases same : old = item
    · subst same
      have absent : old ∉ rest := by
        rw [List.count_cons_self] at once
        exact List.count_eq_zero.mp (by omega)
      have kept : ∀ item ∈ rest, (if item = old then new else item) = item := fun item member =>
        if_neg (ne_of_mem_of_not_mem member absent)
      rw [List.replace_cons_self, List.map_cons, if_pos rfl, List.map_congr_left kept, List.map_id']
    · rw [replace_cons_of_ne same, List.map_cons, if_neg (Ne.symm same), ih]
      rwa [List.count_cons_of_ne (Ne.symm same)] at once

theorem count_slots (pieces : List Piece) (name : String) :
    (slots pieces).count name = pieces.count (.slot name) := by
  induction pieces with
  | nil => rfl
  | cons piece rest ih =>
    cases piece with
    | char c => simp [ih]
    | slot other => simp [List.count_cons, ih]

/-- Names that occur once are renamed at once, unless one becomes what is to be renamed yet. -/
theorem renameEach_eq_map {changes : List (String × String)}
    (apart : changes.Pairwise fun earlier later => earlier.2 ≠ later.1) {pieces : List Piece}
    (once : ∀ change ∈ changes, (slots pieces).count change.1 ≤ 1) :
    renameEach changes pieces = pieces.map (Piece.mapName (renamedBy changes)) := by
  induction changes generalizing pieces with
  | nil =>
    have same : Piece.mapName (renamedBy []) = id := by
      funext piece
      cases piece <;> rfl
    rw [renameEach, same, List.map_id]
  | cons change rest ih =>
    obtain ⟨old, new⟩ := change
    obtain ⟨fresh, apart⟩ := List.pairwise_cons.mp apart
    have first : pieces.count (.slot old) ≤ 1 := count_slots pieces old ▸ once _ List.mem_cons_self
    have later : ∀ change ∈ rest,
        (slots (pieces.replace (.slot old) (.slot new))).count change.1 ≤ 1 := by
      intro change member
      have known := once _ (List.mem_cons_of_mem _ member)
      rw [slots_replace, List.count_replace, beq_false_of_ne (fresh change member)]
      split
      · simp
        omega
      · exact known
    rw [renameEach, ih apart later, replace_eq_map first, List.map_map]
    refine List.map_congr_left fun piece _ => ?_
    cases piece with
    | char c => simp [Piece.mapName]
    | slot name =>
      by_cases same : name = old
      · -- The name is renamed here, and what it becomes is not renamed later.
        subst same
        have settled : rest.lookup new = none :=
          List.lookup_eq_none_iff.mpr fun change member => by simpa using fresh change member
        simp [Piece.mapName, renamedBy, settled]
      · simp [Piece.mapName, renamedBy, same, List.lookup_cons, beq_false_of_ne same]

namespace Piece

/-- A piece as it stands in a path. -/
def written : Piece → List Char
  | char c => [c]
  | slot name => '\x7b' :: name.toList ++ ['\x7d']

/-- A character that is itself in a template, or a placeholder that is named by a word. -/
def Simple : Piece → Prop
  | char c => c ≠ ':' ∧ c ≠ '$' ∧ c ≠ '\x7b' ∧ c ≠ '\x7d'
  | slot name => name.toList ≠ [] ∧ ∀ c ∈ name.toList, Text.isWord c = true

instance : DecidablePred Simple
  | char c => inferInstanceAs (Decidable (c ≠ ':' ∧ c ≠ '$' ∧ c ≠ '\x7b' ∧ c ≠ '\x7d'))
  | slot name => decidable_of_iff (name.toList ≠ [] ∧ name.toList.all Text.isWord = true)
      (by simp [Simple])

end Piece

theorem written_slot (name : String) (rest : List Piece) :
    (Piece.slot name :: rest).flatMap Piece.written =
      '\x7b' :: (name.toList ++ '\x7d' :: rest.flatMap Piece.written) := by
  simp [Piece.written]

theorem notMem_of_word {name : List Char} (word : ∀ c ∈ name, Text.isWord c = true) {c : Char}
    (other : Text.isWord c = false) : c ∉ name := by
  intro member
  have here := word c member
  simp [other] at here

theorem piecesFrom_covered (covered : Nat) (path : List Char) :
    piecesFrom covered path = piecesFrom 0 (path.drop covered) := by
  induction covered generalizing path with
  | zero => rfl
  | succ covered ih =>
    cases path with
    | nil => rw [piecesFrom, List.drop_nil, piecesFrom]
    | cons c rest => rw [piecesFrom, ih, List.drop_succ_cons]

theorem isWord_brace : Text.isWord '\x7b' = false ∧ Text.isWord '\x7d' = false := by decide +kernel

/-- A path that is written of simple pieces has the template of these pieces. -/
theorem piecesFrom_written {pieces : List Piece} (simple : ∀ piece ∈ pieces, piece.Simple) :
    piecesFrom 0 (pieces.flatMap Piece.written) = pieces := by
  induction pieces with
  | nil => rfl
  | cons piece rest ih =>
    have later := ih fun other member => simple other (List.mem_cons_of_mem _ member)
    have here := simple piece List.mem_cons_self
    cases piece with
    | char c =>
      obtain ⟨colon, _, brace, _⟩ := here
      simp [Piece.written, piecesFrom, colon, brace, later]
    | slot name =>
      have closed : '\x7d' ∉ name.toList := notMem_of_word here.2 isWord_brace.2
      have behind : (name.toList ++ '\x7d' :: rest.flatMap Piece.written).drop
          (name.toList.length + 1) = rest.flatMap Piece.written := by
        rw [← List.drop_drop, List.drop_left]
        rfl
      rw [written_slot, piecesFrom, if_neg (by decide), if_pos rfl,
        braced?_eq_some.mpr ⟨closed, _, rfl⟩]
      dsimp only
      rw [piecesFrom_covered, behind, later, String.ofList_toList]

/-- A name is read up to the brace behind it. -/
theorem placeholderName?_eq_some {text name : List Char} :
    Parameter.placeholderName? text = some name ↔
      name ≠ [] ∧ (∀ c ∈ name, Text.isWord c = true) ∧ ∃ after, text = name ++ '\x7d' :: after := by
  unfold Parameter.placeholderName?
  constructor
  · intro read
    dsimp only at read
    split at read
    · cases read
    · rename_i present
      split at read
      · rename_i closed
        obtain rfl := Option.some.inj read
        refine ⟨by simpa using present, List.all_eq_true.mp List.all_takeWhile, ?_⟩
        obtain ⟨after, rest⟩ := List.head?_eq_some_iff.mp closed
        have first := List.prefix_iff_eq_append.mp (List.takeWhile_prefix Text.isWord (l := text))
        exact ⟨after, by rw [← rest, first]⟩
      · cases read
  · rintro ⟨present, word, after, rfl⟩
    have first : (name ++ '\x7d' :: after).takeWhile Text.isWord = name := by
      rw [List.takeWhile_append_of_pos word]
      simp [isWord_brace.2]
    simp only [first, List.drop_left]
    simp [present]

theorem placeholders_append {before : List Char} (absent : '\x7b' ∉ before) (after : List Char) :
    Parameter.placeholders (before ++ after) = Parameter.placeholders after := by
  induction before with
  | nil => rfl
  | cons c before ih =>
    rw [List.mem_cons, not_or] at absent
    rw [List.cons_append, Parameter.placeholders, if_neg (Ne.symm absent.1), ih absent.2]

/-- The placeholders of such a path are the expressions of its template. -/
theorem placeholders_written {pieces : List Piece} (simple : ∀ piece ∈ pieces, piece.Simple) :
    Parameter.placeholders (pieces.flatMap Piece.written) = slots pieces := by
  induction pieces with
  | nil => rfl
  | cons piece rest ih =>
    have later := ih fun other member => simple other (List.mem_cons_of_mem _ member)
    have here := simple piece List.mem_cons_self
    cases piece with
    | char c =>
      obtain ⟨_, _, brace, _⟩ := here
      simp [Piece.written, Parameter.placeholders, brace, later]
    | slot name =>
      obtain ⟨present, word⟩ := here
      have named : Parameter.placeholderName?
          (name.toList ++ '\x7d' :: rest.flatMap Piece.written) = some name.toList :=
        placeholderName?_eq_some.mpr ⟨by simpa using present, word, _, rfl⟩
      rw [written_slot, Parameter.placeholders, if_pos rfl, named]
      dsimp only
      rw [placeholders_append (notMem_of_word word isWord_brace.1), Parameter.placeholders,
        if_neg (by decide), later, String.ofList_toList, slots_slot]

theorem hasExpression_of_written {path : String} {pieces : List Piece}
    (simple : ∀ piece ∈ pieces, piece.Simple)
    (written : path.toList = pieces.flatMap Piece.written) : hasExpression path = false := by
  rw [hasExpression, ← Bool.not_eq_true, Text.occursIn_iff, written]
  intro opened
  obtain ⟨piece, member, dollar⟩ := List.mem_flatMap.mp (opened.subset List.mem_cons_self)
  have here := simple piece member
  cases piece with
  | char c => exact here.2.1 (List.mem_singleton.mp dollar).symm
  | slot name =>
    have word : '$' ∈ name.toList := by simpa [Piece.written] using dollar
    exact notMem_of_word here.2 (by decide +kernel) word

end ApiBindings.ServicePath
