import ApiBindings.Proofs.Text.Letter

/-!
# Camel case

Camel case raises the characters that stand right behind separators. So it changes nothing in a text
without such characters, and of a text of word characters it leaves separators at the end alone.
-/
namespace ApiBindings.Text

variable {isSeparator : Char → Bool} {pending text : List Char}

/-- No letter or digit stands right behind a separator. -/
def Apart (isSeparator : Char → Bool) (text : List Char) : Prop :=
  text.IsChain fun c d => isSeparator c = true → d.isAlphanum = false

/-- A separator is followed by separators only. -/
def EndsSeparated (isSeparator : Char → Bool) (text : List Char) : Prop :=
  text.Pairwise fun c d => isSeparator c = true → isSeparator d = true

theorem EndsSeparated.of_sublist {part : List Char} (ends : EndsSeparated isSeparator text)
    (sublist : part.Sublist text) : EndsSeparated isSeparator part :=
  List.Pairwise.sublist sublist ends

theorem EndsSeparated.apart (plain : ∀ c, isSeparator c = true → c.isAlphanum = false)
    (ends : EndsSeparated isSeparator text) : Apart isSeparator text :=
  List.Pairwise.isChain (ends.imp fun follows separator => plain _ (follows separator))

theorem camelFrom_of_apart (apart : Apart isSeparator text)
    (first : pending ≠ [] → ∀ c ∈ text.head?, c.isAlphanum = false) :
    camelFrom isSeparator pending text = pending ++ text := by
  fun_induction camelFrom isSeparator pending text with
  | case1 pending => simp
  | case2 pending c rest separator ih =>
    obtain ⟨behind, apart⟩ := List.isChain_cons.mp apart
    rw [ih apart fun _ d next => behind d next separator, List.append_assoc, List.singleton_append]
  | case3 pending c rest _ raised =>
    have plain := first raised.1 c rfl
    simp [raised.2] at plain
  | case4 pending c rest _ _ ih =>
    obtain ⟨_, apart⟩ := List.isChain_cons.mp apart
    rw [ih apart fun some => absurd rfl some, List.nil_append]

/-- Camel case leaves a text as it is where nothing stands right behind a separator. -/
theorem camel_of_apart (apart : Apart isSeparator text) : camel isSeparator text = text :=
  camelFrom_of_apart apart fun some => absurd rfl some

theorem apart_of_camelFrom (plain : ∀ c, isSeparator c = true → c.isAlphanum = false)
    (small : ∀ c ∈ camelFrom isSeparator pending text, c.isAlphanum = true → c.isLower = true) :
    Apart isSeparator text ∧ (pending ≠ [] → ∀ c ∈ text.head?, c.isAlphanum = false) := by
  fun_induction camelFrom isSeparator pending text with
  | case1 pending => exact ⟨.nil, by simp⟩
  | case2 pending c rest separator ih =>
    obtain ⟨apart, behind⟩ := ih small
    refine ⟨List.isChain_cons.mpr ⟨fun d next _ => behind (by simp) d next, apart⟩, ?_⟩
    intro _ d same
    obtain rfl : c = d := by simpa using same
    exact plain c separator
  | case3 pending c rest _ raised _ =>
    -- A character that is raised is a capital or a digit.
    have low := small c.toUpper List.mem_cons_self (by simpa using raised.2)
    simp at low
  | case4 pending c rest notSeparator kept ih =>
    obtain ⟨apart, _⟩ := ih fun d member => small d (by simp [member])
    refine ⟨List.isChain_cons.mpr ⟨fun _ _ separator => absurd separator notSeparator, apart⟩, ?_⟩
    intro some d same
    obtain rfl : c = d := by simpa using same
    simpa [some] using kept

/-- Nothing but small letters comes out only where nothing is raised. -/
theorem apart_of_camel (plain : ∀ c, isSeparator c = true → c.isAlphanum = false)
    (small : ∀ c ∈ camel isSeparator text, c.isAlphanum = true → c.isLower = true) :
    Apart isSeparator text :=
  (apart_of_camelFrom plain small).1

theorem endsSeparated_camelFrom (plain : ∀ c, isSeparator c = true → c.isAlphanum = false)
    (word : ∀ c ∈ text, isSeparator c = true ∨ c.isAlphanum = true)
    (waiting : ∀ c ∈ pending, isSeparator c = true) :
    EndsSeparated isSeparator (camelFrom isSeparator pending text) := by
  fun_induction camelFrom isSeparator pending text with
  | case1 pending => exact List.pairwise_of_forall_mem_list fun _ _ d member _ => waiting d member
  | case2 pending c rest separator ih =>
    apply ih (fun d member => word d (List.mem_cons_of_mem c member))
    intro d member
    rcases List.mem_append.mp member with before | here
    · exact waiting d before
    · obtain rfl := List.mem_singleton.mp here
      exact separator
  | case3 pending c rest _ raised ih =>
    refine List.pairwise_cons.mpr ⟨fun d _ separator => ?_, ?_⟩
    · have other := plain _ separator
      simp [raised.2] at other
    · exact ih (fun d member => word d (List.mem_cons_of_mem c member)) (by simp)
  | case4 pending c rest notSeparator kept ih =>
    -- A word character that is no separator would be raised behind one.
    have letter := (word c List.mem_cons_self).resolve_left notSeparator
    have nothing : pending = [] := by simpa [letter] using kept
    subst nothing
    refine List.pairwise_cons.mpr ⟨fun d _ separator => absurd separator notSeparator, ?_⟩
    exact ih (fun d member => word d (List.mem_cons_of_mem c member)) (by simp)

/-- In a text of word characters, separators are left at the end only. -/
theorem endsSeparated_camel (plain : ∀ c, isSeparator c = true → c.isAlphanum = false)
    (word : ∀ c ∈ text, isSeparator c = true ∨ c.isAlphanum = true) :
    EndsSeparated isSeparator (camel isSeparator text) :=
  endsSeparated_camelFrom plain word (by simp)

end ApiBindings.Text
