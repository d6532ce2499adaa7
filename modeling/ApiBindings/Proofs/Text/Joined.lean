import ApiBindings.Text.Pieces

/-!
# Cutting and joining

Cutting a text is splitting the list of its characters, so what is known of splitting holds of it:
joined pieces are the text again, and pieces without a separator come out of what they are joined
to.
-/
namespace ApiBindings.Text

theorem cut_eq_splitOn (separator : Char) (text : List Char) :
    cut separator text = text.splitOn separator := by
  induction text with
  | nil => rfl
  | cons c rest ih =>
    rw [cut, ih, List.splitOn_cons_eq_if_modifyHead]
    by_cases same : c = separator
    · simp [same]
    · cases pieces : rest.splitOn separator with
      | nil => exact absurd pieces (List.splitOn_ne_nil separator rest)
      | cons piece pieces => simp [same]

theorem join_cut (separator : Char) (text : List Char) :
    join [separator] (cut separator text) = text := by
  rw [cut_eq_splitOn]
  exact List.intercalate_splitOn separator

theorem cut_join {separator : Char} {pieces : List (List Char)} (some : pieces ≠ [])
    (apart : ∀ piece ∈ pieces, separator ∉ piece) :
    cut separator (join [separator] pieces) = pieces := by
  rw [cut_eq_splitOn]
  exact List.splitOn_intercalate separator apart some

theorem notMem_of_mem_cut {separator : Char} {text piece : List Char}
    (member : piece ∈ cut separator text) : separator ∉ piece := by
  induction text generalizing piece with
  | nil =>
    obtain rfl := List.mem_singleton.mp member
    exact List.not_mem_nil
  | cons c rest ih =>
    rw [cut] at member
    split at member
    · rcases List.mem_cons.mp member with rfl | later
      · exact List.not_mem_nil
      · exact ih later
    · rename_i other
      split at member
      · rename_i nothing
        exact absurd nothing (cut_ne_nil separator rest)
      · rename_i first others pieces
        rcases List.mem_cons.mp member with rfl | later
        · have inFirst := ih (pieces ▸ List.mem_cons_self)
          simp [inFirst, Ne.symm other]
        · exact ih (pieces ▸ List.mem_cons_of_mem _ later)

/-- The pieces of two lists are joined like two texts. -/
theorem join_append {separator : Char} {one other : List (List Char)} (some : one ≠ [])
    (some' : other ≠ []) :
    join [separator] (one ++ other) =
      join [separator] one ++ separator :: join [separator] other := by
  induction one with
  | nil => exact absurd rfl some
  | cons first rest ih =>
    by_cases last : rest = []
    · subst last
      simp [join, List.intercalate_cons_of_ne_nil some']
    · have later := ih last
      simp only [join, List.cons_append] at later ⊢
      rw [List.intercalate_cons_of_ne_nil (by simp [last]), later,
        List.intercalate_cons_of_ne_nil last]
      simp

/-- A text is cut into given pieces first exactly if it is the text of these pieces, or goes on
with a separator behind it. -/
theorem prefix_cut_iff {separator : Char} {pieces : List (List Char)} (some : pieces ≠ [])
    (apart : ∀ piece ∈ pieces, separator ∉ piece) (text : List Char) :
    pieces <+: cut separator text ↔
      text = join [separator] pieces ∨
        ∃ rest, text = join [separator] pieces ++ separator :: rest := by
  constructor
  · rintro ⟨more, spelled⟩
    have whole : text = join [separator] (pieces ++ more) := by rw [spelled, join_cut]
    -- Pieces that are not the last ones have a separator behind them.
    by_cases last : more = []
    · left
      simpa [last] using whole
    · right
      exact ⟨join [separator] more, by rw [whole, join_append some last]⟩
  · rintro (rfl | ⟨rest, rfl⟩)
    · exact ⟨[], by rw [List.append_nil, cut_join some apart]⟩
    · have pieced : join [separator] pieces ++ separator :: rest =
          join [separator] (pieces ++ cut separator rest) := by
        rw [join_append some (cut_ne_nil separator rest), join_cut]
      rw [pieced, cut_join (by simp [some])]
      · exact List.prefix_append _ _
      · intro piece member
        rcases List.mem_append.mp member with early | late
        · exact apart piece early
        · exact notMem_of_mem_cut late

end ApiBindings.Text
