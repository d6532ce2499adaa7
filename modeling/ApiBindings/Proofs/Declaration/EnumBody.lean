import ApiBindings.Proofs.Declaration.Listing
import ApiBindings.Proofs.Declaration.Run
import ApiBindings.Proofs.Service.Arguments
import ApiBindings.Proofs.Text.Romanization
import ApiBindings.Proofs.Text.StringLiteral

/-!
# Members of an enum

The generated language reads the body of an enum as members between braces, with commas between
them. A member is named by an identifier or by a string literal, and another literal stands behind
an equals sign.

A value is written twice, as the name and as the literal of one member. So the body has a member
for each value exactly if the values are identifiers and no two of them are written the same. A
value that brings quotes of its own does not get by: the literal it opens either ends before the
equals sign, and is too short for the value, or it ends behind the quote of the other literal, where
no equals sign comes.
-/
namespace ApiBindings

/-- Characters that have a meaning in an enum or in a string literal. -/
def Alphabet.marks : List Char := ['=', '"', '\'', '\\', '\n', '\r']

theorem Alphabet.notMem_of_isIdentifier {alphabet : Alphabet} {name : String}
    (legal : alphabet.isIdentifier name = true) : ∀ c ∈ name.toList, c ∉ marks := by
  intro c member mark
  -- All of them are ASCII, so it does not matter which letters are beyond.
  have free : alphabet.isStart c = false ∧ alphabet.isPart c = false := by
    simp only [marks, List.mem_cons, List.not_mem_nil, or_false] at mark
    rcases mark with rfl | rfl | rfl | rfl | rfl | rfl <;> exact ⟨rfl, rfl⟩
  unfold isIdentifier at legal
  split at legal
  · cases legal
  · rename_i first rest written
    rw [Bool.and_eq_true, List.all_eq_true] at legal
    rw [written] at member
    rcases List.mem_cons.mp member with rfl | among
    · exact absurd legal.1 (by simp [free.1])
    · exact absurd (legal.2 c among) (by simp [free.2])

namespace EnumText

open StringLiteral

/-- The name at the start of a text and what comes behind it: an identifier stands for itself, and
a string literal for its value. -/
inductive ReadsName (alphabet : Alphabet) : List Char → String → List Char → Prop
  | identifier {name : String} {behind : List Char}
      (legal : alphabet.isIdentifier name = true) :
      ReadsName alphabet (name.toList ++ behind) name behind
  | literal {quote : Char} {text : List Char} {name : String} {behind : List Char}
      (isQuote : IsQuote quote)
      (read : readFrom quote 0 text = some (units name.toList, behind)) :
      ReadsName alphabet (quote :: text) name behind

/-- A member at the start of a text, by its name, and what comes behind it. -/
def ReadsMember (alphabet : Alphabet) (text : List Char) (name : String) (behind : List Char) :
    Prop :=
  ∃ quote rest value, IsQuote quote ∧ ReadsName alphabet text name ('=' :: quote :: rest) ∧
    readFrom quote 0 rest = some (value, behind)

/-- Members up to a closing brace, by their names. -/
inductive ReadsMembers (alphabet : Alphabet) : List Char → List String → Prop
  | last {text : List Char} {name : String} (member : ReadsMember alphabet text name ['\x7d']) :
      ReadsMembers alphabet text [name]
  | next {text behind : List Char} {name : String} {names : List String}
      (member : ReadsMember alphabet text name (',' :: behind))
      (others : ReadsMembers alphabet behind names) : ReadsMembers alphabet text (name :: names)

/-- The body of an enum, by the names of its members, without blanks between its parts. -/
inductive ReadsBody (alphabet : Alphabet) : List Char → List String → Prop
  | empty : ReadsBody alphabet ['\x7b', '\x7d'] []
  | filled {text : List Char} {names : List String} (members : ReadsMembers alphabet text names) :
      ReadsBody alphabet ('\x7b' :: text) names

/-- A text is the body of an enum that has each value, as it is written, for the name of one member,
in the order in which the values are first met. -/
def NamesEach (alphabet : Alphabet) (text : String) (values : List Node) : Prop :=
  ∃ names, ReadsBody alphabet text.toList names ∧ FirstSeen (values.map Node.display) names

variable {alphabet : Alphabet}

/-- The member of a value that is written this way. -/
def memberText (written : String) (behind : List Char) : List Char :=
  written.toList ++ '=' :: '"' :: (written.toList ++ '"' :: behind)

/-- What comes behind a member. -/
def membersBehind : List String → List Char
  | [] => ['\x7d']
  | written :: rest => ',' :: memberText written (membersBehind rest)

theorem toList_members (written : String) (others : List String) :
    (",".intercalate ((written :: others).map fun name => name ++ "=\"" ++ name ++ "\"") ++
      "\x7d").toList = memberText written (membersBehind others) := by
  induction others generalizing written with
  | nil => simp [memberText, membersBehind]
  | cons other others ih =>
    rw [membersBehind, ← ih]
    simp [memberText, String.intercalate_cons_cons, String.append_assoc]

theorem toList_enumBody (values : List Node) :
    (enumBody values).toList = match values.map Node.display with
      | [] => ['\x7b', '\x7d']
      | written :: rest => '\x7b' :: memberText written (membersBehind rest) := by
  have same : enumBody values = "\x7b" ++ (",".intercalate ((values.map Node.display).map
      fun name => name ++ "=\"" ++ name ++ "\"") ++ "\x7d") := by
    rw [enumBody, String.append_assoc, List.map_map]
    rfl
  rw [same, String.toList_append]
  cases values.map Node.display with
  | nil => rfl
  | cons written rest => rw [toList_members]; rfl

theorem exists_first_of_isIdentifier {name : String} (legal : alphabet.isIdentifier name = true) :
    ∃ c rest, name.toList = c :: rest ∧ c ∉ Alphabet.marks := by
  cases written : name.toList with
  | nil => simp [Alphabet.isIdentifier, written] at legal
  | cons c rest =>
    exact ⟨c, rest, rfl, Alphabet.notMem_of_isIdentifier legal c (by simp [written])⟩

theorem mark_of_isQuote {quote : Char} (isQuote : IsQuote quote) : quote ∈ Alphabet.marks := by
  rcases isQuote with rfl | rfl <;> decide

/-- A value that is an identifier is read as one, up to the equals sign. -/
theorem ReadsName.unique {written name : String} {rest behind : List Char}
    (legal : alphabet.isIdentifier written = true)
    (named : ReadsName alphabet (written.toList ++ '=' :: rest) name ('=' :: behind)) :
    name = written ∧ behind = rest := by
  have noEquals {name : String} (legal : alphabet.isIdentifier name = true) :
      '=' ∉ name.toList :=
    fun member => Alphabet.notMem_of_isIdentifier legal _ member (by decide)
  generalize same : written.toList ++ '=' :: rest = text at named
  cases named with
  | identifier other =>
    have pieces := congrArg (Text.cut '=') same
    rw [Text.cut_append (noEquals legal), Text.cut_append (noEquals other)] at pieces
    obtain rfl := String.toList_inj.mp (List.cons.inj pieces).1
    exact ⟨rfl, (List.cons.inj (List.append_cancel_left same)).2.symm⟩
  | @literal quote text _ _ isQuote read =>
    obtain ⟨c, more, starts, plain⟩ := exists_first_of_isIdentifier legal
    rw [starts, List.cons_append] at same
    obtain rfl := (List.cons.inj same).1
    exact absurd (mark_of_isQuote isQuote) plain

/-- A value that is read as the name of its own member is an identifier. -/
theorem ReadsName.isIdentifier {written : String} {rest behind : List Char}
    (named : ReadsName alphabet (memberText written rest) written ('=' :: behind)) :
    alphabet.isIdentifier written = true := by
  generalize same : memberText written rest = text at named
  cases named with
  | identifier legal => exact legal
  | @literal quote text _ _ isQuote read =>
    exfalso
    -- The quote comes from the value, so the literal has to stand for a quote and what follows it.
    obtain ⟨more, starts⟩ : ∃ more, written.toList = quote :: more := by
      rw [memberText] at same
      cases starts : written.toList with
      | nil =>
        rw [starts, List.nil_append] at same
        rcases isQuote with rfl | rfl <;> cases same
      | cons c more =>
        rw [starts, List.cons_append] at same
        obtain rfl := (List.cons.inj same).1
        exact ⟨more, rfl⟩
    rw [memberText, starts, List.cons_append] at same
    obtain rfl := (List.cons.inj same).2
    rw [starts, units_cons] at read
    rcases readFrom_equals isQuote read with ⟨between, split⟩ | ⟨later, read'⟩
    · -- The literal ends within the value, whose quote is not in what it stands for.
      have light := (readFrom_bounds isQuote read).2
      have heavy := @weight_le quote more
      have one := length_unitsOf_pos (Text.codePoint quote)
      rw [← split] at light
      simp only [List.length_append, weight_append] at light
      omega
    · -- The literal goes on into the other one, whose quote ends it or is taken along.
      rcases isQuote with rfl | rfl
      · rw [readFrom_quote] at read'
        cases read'
      · obtain ⟨_, read', _⟩ := (readFrom_plain (by decide) (by decide)).mp read'
        rw [List.cons_append, readFrom_quote] at read'
        obtain ⟨_, ends⟩ := Prod.mk.inj (Option.some.inj read')
        cases more with
        | nil => cases ends
        | cons d more =>
          -- An equals sign behind the second quote is one behind the first, but no quote.
          obtain rfl := (List.cons.inj ends).1
          obtain ⟨_, _, value⟩ := (readFrom_plain (by decide) (by decide)).mp read
          exact absurd (List.cons.inj value).1 (by decide)

theorem readsBack_of_isIdentifier {written : String} (legal : alphabet.isIdentifier written = true)
    (behind : List Char) :
    readFrom '"' 0 (written.toList ++ '"' :: behind) = some (units written.toList, behind) := by
  refine (readsBack_iff (.inl rfl) written.toList behind).mpr fun c member => ?_
  have plain := Alphabet.notMem_of_isIdentifier legal c member
  simp only [Alphabet.marks, List.mem_cons, List.not_mem_nil, or_false, not_or] at plain
  simp [isPlain, breaksOff, plain]

/-- The member of an identifier is read as such, and in no other way. -/
theorem readsMember_iff {written name : String} {rest behind : List Char}
    (legal : alphabet.isIdentifier written = true) :
    ReadsMember alphabet (memberText written rest) name behind ↔
      name = written ∧ behind = rest := by
  constructor
  · rintro ⟨quote, text, value, _, named, initial⟩
    obtain ⟨rfl, same⟩ := ReadsName.unique legal named
    obtain ⟨rfl, rfl⟩ := List.cons.inj same
    rw [readsBack_of_isIdentifier legal] at initial
    exact ⟨rfl, (Prod.mk.inj (Option.some.inj initial)).2.symm⟩
  · rintro ⟨rfl, rfl⟩
    exact ⟨_, _, _, .inl rfl, .identifier legal, readsBack_of_isIdentifier legal _⟩

theorem readsMembers_of_legal {written : String} {others : List String}
    (legal : ∀ name ∈ written :: others, alphabet.isIdentifier name = true) :
    ReadsMembers alphabet (memberText written (membersBehind others)) (written :: others) := by
  induction others generalizing written with
  | nil => exact .last ((readsMember_iff (legal _ List.mem_cons_self)).mpr ⟨rfl, rfl⟩)
  | cons other others ih =>
    obtain ⟨first, rest⟩ := List.forall_mem_cons.mp legal
    exact .next ((readsMember_iff first).mpr ⟨rfl, rfl⟩) (ih rest)

/-- If a member has the name of the first value that is new, this is an identifier, and it is the
value the member is written for. -/
theorem legal_of_readsMember {written name : String} {others seen names : List String}
    {rest behind : List Char} (known : ∀ name ∈ seen, alphabet.isIdentifier name = true)
    (member : ReadsMember alphabet (memberText written rest) name behind)
    (listed : name :: names =
      (distinct (written :: others)).filter fun name => decide (name ∉ seen)) :
    alphabet.isIdentifier written = true ∧ written ∉ seen ∧ behind = rest ∧
      names = (distinct others).filter fun name => decide (name ∉ written :: seen) := by
  have new : written ∉ seen := by
    -- What was seen is an identifier, so it would be named a second time.
    intro before
    obtain ⟨rfl, _⟩ := (readsMember_iff (known _ before)).mp member
    have first : name ∈ name :: names := List.mem_cons_self
    rw [listed] at first
    simpa [before] using (List.mem_filter.mp first).2
  rw [distinct, List.filter_cons_of_pos (by simpa using new), List.filter_filter] at listed
  obtain ⟨rfl, rfl⟩ := List.cons.inj listed
  have legal : alphabet.isIdentifier name = true := by
    obtain ⟨_, _, _, _, named, _⟩ := member
    exact named.isIdentifier
  refine ⟨legal, new, ((readsMember_iff legal).mp member).2, ?_⟩
  congr 1
  funext other
  simp [Bool.and_comm]

/-- If the members have the names of the values that are new, each once, all values are new
identifiers. -/
theorem legal_of_readsMembers {written : String} {others names : List String} (seen : List String)
    (known : ∀ name ∈ seen, alphabet.isIdentifier name = true)
    (read : ReadsMembers alphabet (memberText written (membersBehind others)) names)
    (listed : names = (distinct (written :: others)).filter fun name => decide (name ∉ seen)) :
    (∀ name ∈ written :: others, alphabet.isIdentifier name = true ∧ name ∉ seen) ∧
      (written :: others).Nodup := by
  induction others generalizing written seen names with
  | nil =>
    cases read with
    | last member | next member _ =>
      obtain ⟨legal, new, _⟩ := legal_of_readsMember known member listed
      simp [legal, new]
  | cons other others ih =>
    cases read with
    | last member =>
      obtain ⟨_, _, same, _⟩ := legal_of_readsMember known member listed
      cases same
    | next member read =>
      obtain ⟨legal, new, same, rfl⟩ := legal_of_readsMember known member listed
      obtain rfl := (List.cons.inj same).2
      -- For the values behind it, this one was seen as well.
      obtain ⟨later, once⟩ := ih _ (List.forall_mem_cons.mpr ⟨legal, known⟩) read rfl
      refine ⟨List.forall_mem_cons.mpr ⟨⟨legal, new⟩, fun name among => ?_⟩, ?_⟩
      · exact ⟨(later name among).1, fun before =>
          (later name among).2 (List.mem_cons_of_mem _ before)⟩
      · exact List.nodup_cons.mpr ⟨fun among => (later _ among).2 List.mem_cons_self, once⟩

/-- A body names each value exactly if the values are identifiers that are written differently. -/
theorem namesEach_iff (alphabet : Alphabet) (values : List Node) :
    NamesEach alphabet (enumBody values) values ↔
      (values.map Node.display).Nodup ∧
        ∀ value ∈ values, alphabet.isIdentifier value.display = true := by
  rw [NamesEach, toList_enumBody, ← List.forall_mem_map (f := Node.display)
    (P := fun name => alphabet.isIdentifier name = true)]
  cases values.map Node.display with
  | nil => exact iff_of_true ⟨[], .empty, firstSeen_distinct []⟩ ⟨List.nodup_nil, by simp⟩
  | cons written others =>
    dsimp only
    constructor
    · rintro ⟨names, body, seen⟩
      obtain rfl := seen.unique (firstSeen_distinct _)
      generalize same : '\x7b' :: memberText written (membersBehind others) = text at body
      cases body with
      | filled members =>
        obtain rfl := (List.cons.inj same).2
        obtain ⟨legal, once⟩ := legal_of_readsMembers [] (by simp) members (by simp)
        exact ⟨once, fun name member => (legal name member).1⟩
    · rintro ⟨once, legal⟩
      have seen := firstSeen_distinct (written :: others)
      rw [distinct_of_nodup once] at seen
      exact ⟨_, .filled (readsMembers_of_legal legal), seen⟩

section

variable [Text.Romanization]

theorem enumeration_of_style {builder : DeclarationBuilder} {schema : Members} {values : List Node}
    (style : builder.settings.enumStyle = .enumeration)
    (listed : schema.field "enum" = .list values) :
    (builder.enumeration schema).outcome = .ok (.enumeration (enumBody values)) := by
  simp [DeclarationBuilder.enumeration, listed, style]

/-- In the enum style a schema with values is declared as an enum. It names each value once, in the
order in which they are first met, exactly if the values are identifiers that are written
differently. -/
theorem enumeration_namesEach_iff (alphabet : Alphabet) (builder : DeclarationBuilder)
    (schema : Members) (values : List Node) (style : builder.settings.enumStyle = .enumeration)
    (listed : schema.field "enum" = .list values) :
    ∃ body, (builder.enumeration schema).outcome = .ok body ∧ body.kind = .enumeration ∧
      (NamesEach alphabet body.type values ↔
        (values.map Node.display).Nodup ∧
          ∀ value ∈ values, alphabet.isIdentifier value.display = true) :=
  ⟨_, enumeration_of_style style listed, rfl, namesEach_iff alphabet values⟩

end

/-- No letters beyond ASCII. -/
def asciiAlphabet : Alphabet := ⟨fun _ => false, fun _ => false⟩

def enumBuilder : DeclarationBuilder :=
  .ofSettings { Settings.ofSource "openapi.json" with enumStyle := .enumeration }

def enumSchema (values : List Node) : Members := [(.text "enum", .list values)]

theorem enumeration_namesEach_of_two :
    ∃ body, (enumBuilder.enumeration (enumSchema [.text "RED", .text "GREEN"])).outcome = .ok body ∧
      body.kind = .enumeration ∧
      NamesEach asciiAlphabet body.type [.text "RED", .text "GREEN"] := by
  obtain ⟨body, declared, kind, named⟩ := enumeration_namesEach_iff asciiAlphabet enumBuilder
    (enumSchema [.text "RED", .text "GREEN"]) [.text "RED", .text "GREEN"] rfl rfl
  exact ⟨body, declared, kind, named.mpr ⟨by decide, by decide⟩⟩

/-- A value that stands in the list twice is named twice, and a value of two words is no name. -/
theorem enumeration_not_namesEach :
    let red : List Node := [.text "RED", .text "GREEN", .text "RED"]
    let progress : List Node := [.text "in progress"]
    (∃ body, (enumBuilder.enumeration (enumSchema red)).outcome = .ok body ∧
      body.kind = .enumeration ∧ ¬ NamesEach asciiAlphabet body.type red) ∧
    ∃ body, (enumBuilder.enumeration (enumSchema progress)).outcome = .ok body ∧
      body.kind = .enumeration ∧ ¬ NamesEach asciiAlphabet body.type progress := by
  intro red progress
  refine ⟨⟨_, enumeration_of_style rfl rfl, rfl, fun named => ?_⟩,
    ⟨_, enumeration_of_style rfl rfl, rfl, fun named => ?_⟩⟩
  · exact absurd ((namesEach_iff _ _).mp named).1 (by decide)
  · exact absurd ((namesEach_iff _ _).mp named).2 (by decide)

end EnumText

end ApiBindings
