import ApiBindings.Configuration.Environment
import ApiBindings.Proofs.Text.Pieces
import Mathlib.Data.List.Forall2

/-!
# Expanded configurations

A text is a row of stretches without a variable and of the variables between them, in one way only,
since no variable holds the dollar that another one starts with. Expanding puts values in place of
the variables that are set and changes nothing else. So what becomes of a configuration depends on
the variables that its texts mention and on no others.
-/
namespace ApiBindings.Environment

/-- The name of a variable: ASCII letters, digits and underscores, but no digit in front. -/
def IsName (name : List Char) : Prop :=
  ∃ first rest, name = first :: rest ∧ startsName first = true ∧ ∀ c ∈ rest, continuesName c = true

/-- A variable as it is written. -/
def written (name : List Char) : List Char := '$' :: '\x7b' :: (name ++ ['\x7d'])

/-- A text in which no variable is written. -/
def Plain (text : List Char) : Prop := ∀ name, IsName name → ¬ written name <:+: text

inductive Part
  | plain (text : List Char)
  | named (name : List Char)

/-- The parts of a text: stretches without a variable, each of which reaches to the next variable or
to the end of the text, and the variables between them. -/
inductive Reads : List Char → List Part → Prop
  | last {text : List Char} (plain : Plain text) : Reads text [.plain text]
  | next {stretch name rest : List Char} {parts : List Part} (plain : Plain stretch)
      (named : IsName name) (later : Reads rest parts) :
      Reads (stretch ++ (written name ++ rest)) (.plain stretch :: .named name :: parts)

/-- What a part becomes. -/
def Part.value (environment : Environment) : Part → List Char
  | .plain text => text
  | .named name =>
    match environment.lookup (String.ofList name) with
    | some value => value.toList
    | none => written name

section Names

variable {name text : List Char}

theorem IsName.continues (named : IsName name) {c : Char} (member : c ∈ name) :
    continuesName c = true := by
  obtain ⟨first, rest, rfl, starts, continues⟩ := named
  rcases List.mem_cons.mp member with rfl | later
  · simp only [startsName, continuesName, Char.isAlphanum, Bool.or_eq_true] at starts ⊢
    exact starts.imp_left .inl
  · exact continues c later

theorem dollar_notMem (named : IsName name) : '$' ∉ '\x7b' :: (name ++ ['\x7d']) := by
  have absent : '$' ∉ name := fun member => absurd (named.continues member) (by decide)
  simp [absent]

/-- The variable that starts a text is the one that is written there. -/
theorem variableName?_eq_some :
    variableName? text = some name ↔ IsName name ∧ written name <+: text := by
  constructor
  · intro found
    unfold variableName? at found
    split at found
    · rename_i rest
      dsimp only at found
      split at found
      · rename_i fits
        rw [Bool.and_eq_true, decide_eq_true_eq, List.head?_eq_some_iff] at fits
        obtain ⟨starts, more, closes⟩ := fits
        obtain rfl := Option.some.inj found
        -- The name is all that may continue one, so the mark that closes it comes right behind.
        have whole := List.prefix_iff_eq_append.mp (List.takeWhile_prefix continuesName (l := rest))
        have continues := List.all_eq_true.mp (List.all_takeWhile (p := continuesName) (l := rest))
        refine ⟨?_, more, ?_⟩
        · cases taken : rest.takeWhile continuesName with
          | nil => simp [taken] at starts
          | cons first others =>
            rw [taken] at starts continues
            exact ⟨first, others, rfl, by simpa using starts, fun c member =>
              continues c (List.mem_cons_of_mem first member)⟩
        · rw [closes] at whole
          simp [written, whole]
      · cases found
    · cases found
  · rintro ⟨named, rest, rfl⟩
    have taken : (name ++ '\x7d' :: rest).takeWhile continuesName = name := by
      rw [List.takeWhile_append_of_pos fun c => named.continues]
      simp [continuesName]
    obtain ⟨first, more, rfl, starts, _⟩ := named
    rw [List.cons_append] at taken
    simp [variableName?, written, taken, starts]

theorem variableName?_written (named : IsName name) (rest : List Char) :
    variableName? (written name ++ rest) = some name :=
  variableName?_eq_some.mpr ⟨named, List.prefix_append _ _⟩

/-- Behind a character that starts no variable, a text is plain if it was. -/
theorem plain_cons {c : Char} (plain : Plain text) {rest : List Char} (behind : text <+: rest)
    (none : variableName? (c :: rest) = none) : Plain (c :: text) := by
  intro name named occurs
  rcases List.infix_cons_iff.mp occurs with starts | later
  · have found : variableName? (c :: rest) = some name :=
      variableName?_eq_some.mpr ⟨named, starts.trans ((List.prefix_cons_inj c).mpr behind)⟩
    rw [none] at found
    cases found
  · exact plain name named later

theorem Plain.tail {c : Char} {more : List Char} (plain : Plain (c :: more)) : Plain more :=
  fun name named occurs => plain name named (occurs.trans (List.suffix_cons c more).isInfix)

/-- A variable that starts in a plain stretch would end there, before the next dollar. -/
theorem variableName?_of_plain {c : Char} {more rest : List Char} (plain : Plain (c :: more))
    (next : rest = [] ∨ rest.head? = some '$') : variableName? (c :: (more ++ rest)) = none := by
  rw [Option.eq_none_iff_forall_ne_some]
  intro name found
  obtain ⟨named, starts⟩ := variableName?_eq_some.mp found
  refine plain name named (List.IsPrefix.isInfix ?_)
  rw [written, List.cons_prefix_cons] at starts ⊢
  refine ⟨starts.1, ?_⟩
  rcases next with rfl | next
  · simpa using starts.2
  · obtain ⟨after, rfl⟩ := List.head?_eq_some_iff.mp next
    exact Text.prefix_of_notMem (dollar_notMem named) more after starts.2

theorem plain_nil : Plain [] := fun name _ occurs => by simp [written] at occurs

/-- Every text can be read. -/
theorem exists_reads (text : List Char) : ∃ parts, Reads text parts := by
  -- A variable takes several characters at once, so the induction is on the length.
  induction size : text.length using Nat.strong_induction_on generalizing text with
  | _ size ih =>
    subst size
    cases text with
    | nil => exact ⟨_, .last plain_nil⟩
    | cons c rest =>
      cases found : variableName? (c :: rest) with
      | some name =>
        obtain ⟨named, more, spelled⟩ := variableName?_eq_some.mp found
        obtain ⟨parts, reads⟩ := ih more.length (by simp [← spelled, written]; omega) more rfl
        rw [← spelled]
        exact ⟨_, .next plain_nil named reads⟩
      | none =>
        obtain ⟨parts, reads⟩ := ih rest.length (by simp) rest rfl
        cases reads with
        | last plain => exact ⟨_, .last (plain_cons plain List.prefix_rfl found)⟩
        | next plain named later =>
          exact ⟨_, .next (plain_cons plain (List.prefix_append _ _) found) named later⟩

/-- A stretch ends where the next variable starts, and nowhere else. -/
theorem stretch_unique {stretch stretch' name name' rest rest' : List Char} (plain : Plain stretch)
    (plain' : Plain stretch') (named : IsName name) (named' : IsName name')
    (same : stretch ++ (written name ++ rest) = stretch' ++ (written name' ++ rest')) :
    stretch = stretch' ∧ name = name' ∧ rest = rest' := by
  induction stretch generalizing stretch' with
  | nil =>
    cases stretch' with
    | nil =>
      have first := variableName?_written named rest
      rw [List.nil_append, List.nil_append] at same
      rw [same, variableName?_written named'] at first
      obtain rfl := Option.some.inj first
      exact ⟨rfl, rfl, List.append_cancel_left same⟩
    | cons c more =>
      have first := variableName?_written named rest
      rw [List.nil_append, List.cons_append] at same
      -- One reading has a variable where the other goes on with its stretch.
      rw [same, variableName?_of_plain plain' (.inr rfl)] at first
      cases first
  | cons c more ih =>
    cases stretch' with
    | nil =>
      have first := variableName?_written named' rest'
      rw [List.nil_append, List.cons_append] at same
      rw [← same, variableName?_of_plain plain (.inr rfl)] at first
      cases first
    | cons c' more' =>
      obtain ⟨rfl, behind⟩ := List.cons.inj same
      obtain ⟨rfl, others⟩ := ih plain.tail plain'.tail behind
      exact ⟨rfl, others⟩

/-- A text is read in one way. -/
theorem Reads.unique {parts parts' : List Part} (reads : Reads text parts)
    (reads' : Reads text parts') : parts = parts' := by
  have holds {stretch name rest : List Char} (named : IsName name) :
      ¬ Plain (stretch ++ (written name ++ rest)) := fun plain =>
    plain name named ⟨stretch, rest, List.append_assoc _ _ _⟩
  induction reads generalizing parts' with
  | last plain =>
    cases reads' with
    | last => rfl
    | next _ named _ => exact absurd plain (holds named)
  | @next stretch name rest parts plain named _ ih =>
    generalize whole : stretch ++ (written name ++ rest) = text at reads'
    cases reads' with
    | last plain' => exact absurd (whole ▸ plain') (holds named)
    | next plain' named' later' =>
      obtain ⟨rfl, rfl, rfl⟩ := stretch_unique plain plain' named named' whole
      rw [ih later']

end Names

section Expansion

variable {environment : Environment} {name stretch rest : List Char}

theorem expandFrom_covered (covered : Nat) (text : List Char) :
    expandFrom environment covered text = expandFrom environment 0 (text.drop covered) := by
  induction covered generalizing text with
  | zero => rfl
  | succ covered ih =>
    cases text with
    | nil => simp [expandFrom]
    | cons c rest => rw [expandFrom, ih, List.drop_succ_cons]

theorem expandFrom_cons {c : Char} (none : variableName? (c :: rest) = none) :
    expandFrom environment 0 (c :: rest) = c :: expandFrom environment 0 rest := by
  rw [expandFrom, none]

theorem expandFrom_of_notMem (absent : '$' ∉ stretch) (rest : List Char) :
    expandFrom environment 0 (stretch ++ rest) = stretch ++ expandFrom environment 0 rest := by
  induction stretch with
  | nil => rfl
  | cons c more ih =>
    rw [List.mem_cons, not_or] at absent
    have none : variableName? (c :: (more ++ rest)) = none := by
      rw [Option.eq_none_iff_forall_ne_some]
      intro name found
      obtain ⟨_, _, spelled⟩ := variableName?_eq_some.mp found
      exact absent.1 (List.cons.inj spelled).1
    rw [List.cons_append, expandFrom_cons none, ih absent.2, List.cons_append]

/-- A variable is replaced by its value if it is set, and stays as it is written if it is not. -/
theorem expandFrom_written (named : IsName name) (rest : List Char) :
    expandFrom environment 0 (written name ++ rest) =
      (Part.named name).value environment ++ expandFrom environment 0 rest := by
  have found := variableName?_written named rest
  simp only [written, List.cons_append] at found ⊢
  rw [expandFrom, found]
  dsimp only [Part.value]
  cases environment.lookup (String.ofList name) with
  | some value =>
    -- The variable behind its dollar is covered by the value and not read again.
    dsimp only
    rw [expandFrom_covered]
    simp
  | none =>
    -- Here it is read again, but without its dollar no variable starts in it.
    dsimp only
    rw [← List.cons_append, expandFrom_of_notMem (dollar_notMem named)]
    simp [written]

theorem expandFrom_plain (plain : Plain stretch) (next : rest = [] ∨ rest.head? = some '$') :
    expandFrom environment 0 (stretch ++ rest) = stretch ++ expandFrom environment 0 rest := by
  induction stretch with
  | nil => rfl
  | cons c more ih =>
    rw [List.cons_append, expandFrom_cons (variableName?_of_plain plain next), ih plain.tail,
      List.cons_append]

/-- However a text is read, it is expanded part by part. -/
theorem expandFrom_of_reads {text : List Char} {parts : List Part} (reads : Reads text parts) :
    expandFrom environment 0 text = parts.flatMap (Part.value environment) := by
  induction reads with
  | last plain => simpa [expandFrom, Part.value] using expandFrom_plain plain (.inl rfl)
  | next plain named _ ih =>
    rw [expandFrom_plain plain (.inr rfl), expandFrom_written named, ih]
    simp [Part.value]

end Expansion

/-- What a tree becomes: each text by its parts, and all else as it is, at its place. -/
inductive Expands (environment : Environment) : Node → Node → Prop
  | text {value : String} {parts : List Part} (reads : Reads value.toList parts) :
      Expands environment (.text value)
        (.text (String.ofList (parts.flatMap (Part.value environment))))
  | scalar {value : Scalar} (other : ∀ text, value ≠ .text text) :
      Expands environment (.scalar value) (.scalar value)
  | list {items results : List Node} (each : List.Forall₂ (Expands environment) items results) :
      Expands environment (.list items) (.list results)
  | object {members results : List (Scalar × Node)}
      (keys : members.map Prod.fst = results.map Prod.fst)
      (each : List.Forall₂ (Expands environment) (members.map Prod.snd) (results.map Prod.snd)) :
      Expands environment (.object members) (.object results)

/-- A text of a tree has a variable with this name written in it. Keys are no texts of the tree. -/
inductive Mentions (name : List Char) : Node → Prop
  | text {value : String} (occurs : written name <:+: value.toList) : Mentions name (.text value)
  | item {items : List Node} {item : Node} (member : item ∈ items) (inside : Mentions name item) :
      Mentions name (.list items)
  | value {members : List (Scalar × Node)} {key : Scalar} {value : Node}
      (member : (key, value) ∈ members) (inside : Mentions name value) :
      Mentions name (.object members)

section Trees

variable {environment : Environment}

theorem expands_text {value : String} {result : Node} :
    Expands environment (.text value) result ↔
      result = .text (expandText environment value) := by
  obtain ⟨parts, reads⟩ := exists_reads value.toList
  constructor
  · intro expands
    cases expands with
    | text reads' => rw [expandText, expandFrom_of_reads reads']
    | scalar other => exact absurd rfl (other value)
  · rintro rfl
    rw [expandText, expandFrom_of_reads reads]
    exact .text reads

theorem expands_scalar {value : Scalar} (other : ∀ text, value ≠ .text text) {result : Node} :
    Expands environment (.scalar value) result ↔ result = .scalar value := by
  constructor
  · intro expands
    cases expands with
    | text => exact absurd rfl (other _)
    | scalar => rfl
  · rintro rfl
    exact .scalar other

end Trees

mutual

theorem expands_iff (environment : Environment) (tree result : Node) :
    Expands environment tree result ↔ result = environment.expand tree := by
  cases tree with
  | scalar value =>
    cases value with
    | text value => rw [expands_text, expand]
    | _ => rw [expands_scalar (by simp), expand]; simp
  | list items =>
    rw [expand]
    constructor
    · intro expands
      cases expands with
      | list each => rw [(expandsItems_iff environment items _).mp each]
    · rintro rfl
      exact .list ((expandsItems_iff environment items _).mpr rfl)
  | object members =>
    rw [expand]
    constructor
    · intro expands
      cases expands with
      | object keys each => rw [(expandsMembers_iff environment members _).mp ⟨keys, each⟩]
    · rintro rfl
      obtain ⟨keys, each⟩ := (expandsMembers_iff environment members _).mpr rfl
      exact .object keys each

theorem expandsItems_iff (environment : Environment) (items results : List Node) :
    List.Forall₂ (Expands environment) items results ↔
      results = environment.expandItems items := by
  match items with
  | [] => simp [expandItems]
  | item :: rest =>
    rw [expandItems, List.forall₂_cons_left_iff]
    simp [expands_iff environment item, expandsItems_iff environment rest]

theorem expandsMembers_iff (environment : Environment) (members results : List (Scalar × Node)) :
    members.map Prod.fst = results.map Prod.fst ∧
      List.Forall₂ (Expands environment) (members.map Prod.snd) (results.map Prod.snd) ↔
      results = environment.expandMembers members := by
  match members with
  | [] => cases results <;> simp [expandMembers]
  | (key, value) :: rest =>
    cases results with
    | nil => simp [expandMembers]
    | cons first others =>
      obtain ⟨key', value'⟩ := first
      have first := expands_iff environment value value'
      have later := expandsMembers_iff environment rest others
      simp only [expandMembers, List.map_cons, List.cons.injEq, List.forall₂_cons, Prod.mk.injEq,
        ← later, first]
      constructor
      · rintro ⟨⟨rfl, keys⟩, rfl, each⟩
        exact ⟨⟨rfl, rfl⟩, keys, each⟩
      · rintro ⟨⟨rfl, rfl⟩, keys, each⟩
        exact ⟨⟨rfl, keys⟩, rfl, each⟩

end

/-- Two environments say the same of every variable that a tree mentions. -/
def Agree (environment other : Environment) (tree : Node) : Prop :=
  ∀ name, IsName name → Mentions name tree →
    environment.lookup (String.ofList name) = other.lookup (String.ofList name)

section Agreement

variable {environment other : Environment}

theorem mentioned_of_reads {text : List Char} {parts : List Part} (reads : Reads text parts)
    {name : List Char} (member : .named name ∈ parts) : IsName name ∧ written name <:+: text := by
  induction reads with
  | last => simp at member
  | next _ named _ ih =>
    simp only [List.mem_cons, reduceCtorEq, Part.named.injEq, false_or] at member
    rcases member with rfl | later
    · exact ⟨named, _, _, List.append_assoc _ _ _⟩
    · obtain ⟨named, occurs⟩ := ih later
      refine ⟨named, occurs.trans (List.IsSuffix.isInfix ?_)⟩
      exact (List.suffix_append _ _).trans (List.suffix_append _ _)

theorem expandText_of_agree {value : String} (agree : Agree environment other (.text value)) :
    expandText environment value = expandText other value := by
  obtain ⟨parts, reads⟩ := exists_reads value.toList
  have same : ∀ part ∈ parts, part.value environment = part.value other := by
    intro part member
    cases part with
    | plain text => rfl
    | named name =>
      obtain ⟨named, occurs⟩ := mentioned_of_reads reads member
      rw [Part.value, Part.value, agree name named (.text occurs)]
  rw [expandText, expandText, expandFrom_of_reads reads, expandFrom_of_reads reads,
    List.flatMap_congr same]

theorem Agree.item {items : List Node} (agree : Agree environment other (.list items))
    {item : Node} (member : item ∈ items) : Agree environment other item :=
  fun name named inside => agree name named (.item member inside)

theorem Agree.value {members : List (Scalar × Node)}
    (agree : Agree environment other (.object members)) {key : Scalar} {value : Node}
    (member : (key, value) ∈ members) : Agree environment other value :=
  fun name named inside => agree name named (.value member inside)

mutual

theorem expand_of_agree {tree : Node} (agree : Agree environment other tree) :
    environment.expand tree = other.expand tree := by
  cases tree with
  | scalar value =>
    cases value with
    | text value => rw [expand, expand, expandText_of_agree agree]
    | _ => rfl
  | list items => rw [expand, expand, expandItems_of_agree fun _ => agree.item]
  | object members => rw [expand, expand, expandMembers_of_agree fun _ _ => agree.value]

theorem expandItems_of_agree {items : List Node}
    (agree : ∀ item, item ∈ items → Agree environment other item) :
    environment.expandItems items = other.expandItems items := by
  match items with
  | [] => rfl
  | item :: rest =>
    rw [expandItems, expandItems, expand_of_agree (agree item List.mem_cons_self),
      expandItems_of_agree fun item member => agree item (List.mem_cons_of_mem _ member)]

theorem expandMembers_of_agree {members : List (Scalar × Node)}
    (agree : ∀ key value, (key, value) ∈ members → Agree environment other value) :
    environment.expandMembers members = other.expandMembers members := by
  match members with
  | [] => rfl
  | (key, value) :: rest =>
    rw [expandMembers, expandMembers, expand_of_agree (agree key value List.mem_cons_self),
      expandMembers_of_agree fun key value member =>
        agree key value (List.mem_cons_of_mem _ member)]

end

end Agreement

/-- Two environments that agree on the variables a configuration mentions expand it to the same
tree. In that tree each text is expanded part by part, as it is read in its only way, and keys,
lengths, order and all other values are as they were. -/
theorem expand_mentioned (environment other : Environment) (tree : Node)
    (agree : Agree environment other tree) :
    environment.expand tree = other.expand tree ∧
      (∀ result, Expands environment tree result ↔ result = environment.expand tree) ∧
      ∀ text, ∃! parts, Reads text parts := by
  refine ⟨expand_of_agree agree, expands_iff environment tree, fun text => ?_⟩
  obtain ⟨parts, reads⟩ := exists_reads text
  exact ⟨parts, reads, fun others reads' => reads'.unique reads⟩

/-- A text with a dollar before a variable, a variable inside of braces and one that is not set,
under a key that looks like a variable. -/
def nestedVariables : Node :=
  .object [(.text "$\x7bB\x7d", .text "$$\x7bA\x7d/$\x7b$\x7bA\x7d\x7d/$\x7bC\x7d")]

/-- The value of one variable is written like another one, and is not expanded in its turn. -/
theorem expand_mentioned_of_nested :
    let environment := [("A", "$\x7bB\x7d"), ("B", "one")]
    let other := [("A", "$\x7bB\x7d"), ("B", "two")]
    Agree environment other nestedVariables ∧
      expand environment nestedVariables = expand other nestedVariables ∧
      Expands environment nestedVariables (.object [(.text "$\x7bB\x7d",
        .text "$$\x7bB\x7d/$\x7b$\x7bB\x7d\x7d/$\x7bC\x7d")]) := by
  intro environment other
  have agree : Agree environment other nestedVariables := by
    intro name named inside
    -- The environments differ in one variable, and only the key is written with it.
    by_cases differs : String.ofList name = "B"
    · obtain rfl : name = ['B'] := by simpa using congrArg String.toList differs
      cases inside with
      | value member inside =>
        obtain ⟨rfl, rfl⟩ := Prod.mk.inj (List.mem_singleton.mp member)
        cases inside with
        | text occurs => exact absurd occurs (by decide +kernel)
    · simp [environment, other, List.lookup_cons, beq_false_of_ne differs]
  have expanded : expand environment nestedVariables = .object [(.text "$\x7bB\x7d",
      .text "$$\x7bB\x7d/$\x7b$\x7bB\x7d\x7d/$\x7bC\x7d")] := by decide +kernel
  obtain ⟨same, results, _⟩ := expand_mentioned environment other nestedVariables agree
  exact ⟨agree, same, (results _).mpr expanded.symm⟩

end ApiBindings.Environment
