import ApiBindings.Service.Path
import ApiBindings.Name.SharedSegments
import ApiBindings.Proofs.Text.Joined

/-!
# Quoted prefixes

A quoted prefix is compared with the text of a path, not with its segments. So a path that only
begins with the same characters counts as one that has the prefix already and is left as it is.
Every other path gets the segments of the prefix in front, and none gets them twice.
-/
namespace ApiBindings

namespace ServicePath

open SharedSegments

/-- A prefix that stands between quotes for every operation. Whatever closes it is taken off. -/
def Quotes (apiPrefix : Option ApiPrefix) (literal : List Char) : Prop :=
  ∀ context, ∃ opening closing, isQuote opening = true ∧
    prefixText apiPrefix context = opening :: (literal ++ [closing])

/-- A path that is taken to have a prefix although it begins with other segments: it goes on inside
of the last segment of the prefix, or an empty segment stands before it. -/
inductive Mistaken (literal : List Char) : List Char → Prop
  | runsOn (c : Char) (rest : List Char) (inside : c ≠ '/') :
      Mistaken literal (literal ++ c :: rest)
  | slash (rest : List Char) : Mistaken literal ('/' :: literal ++ rest)

theorem startsWith_iff {literal path : List Char} :
    startsWith literal path = true ↔ literal <+: path ∨ '/' :: literal <+: path := by
  simp [startsWith]

theorem startsWith_of_mistaken {literal path : List Char} (mistaken : Mistaken literal path) :
    startsWith literal path = true := by
  rw [startsWith_iff]
  cases mistaken with
  | runsOn c rest inside => exact .inl (List.prefix_append _ _)
  | slash rest => exact .inr (List.prefix_append _ _)

theorem startsWith_append (literal path : List Char) :
    startsWith literal (literal ++ path) = true :=
  startsWith_iff.mpr (.inl (List.prefix_append _ _))

theorem toList_prefixed {apiPrefix : Option ApiPrefix} {literal : List Char}
    (quoted : Quotes apiPrefix literal) (context : PrefixContext) :
    (prefixed apiPrefix context).toList =
      if startsWith literal context.path.toList then context.path.toList
      else literal ++ context.path.toList := by
  obtain ⟨opening, closing, isQuote, spelled⟩ := quoted context
  rw [prefixed, String.toList_ofList, spelled, withPrefix, if_pos isQuote, List.dropLast_concat]

/-- What has got a quoted prefix does not get it again. -/
theorem prefixed_prefixed {apiPrefix : Option ApiPrefix} {literal : List Char}
    (quoted : Quotes apiPrefix literal) {context again : PrefixContext}
    (result : again.path = prefixed apiPrefix context) :
    prefixed apiPrefix again = again.path := by
  have starts : startsWith literal again.path.toList = true := by
    rw [result, toList_prefixed quoted]
    split
    · assumption
    · exact startsWith_append literal _
  rw [← String.toList_inj, toList_prefixed quoted, if_pos starts]

variable {parts : List (List Char)}

/-- The text of rooted segments: each with a slash before it. -/
def rooted (parts : List (List Char)) : List Char := Text.join ['/'] ([] :: parts)

theorem rooted_cons (first : List Char) (rest : List (List Char)) :
    rooted (first :: rest) = '/' :: Text.join ['/'] (first :: rest) := by
  rw [rooted, Text.join, List.intercalate_cons_of_ne_nil (List.cons_ne_nil _ _)]
  rfl

/-- Behind its slash the first segment begins, so no second slash stands there. -/
theorem exists_rooted (present : parts ≠ []) (whole : ∀ part ∈ parts, part ≠ [] ∧ '/' ∉ part) :
    ∃ second more, rooted parts = '/' :: second :: more ∧ second ≠ '/' := by
  obtain ⟨first, rest, rfl⟩ := List.exists_cons_of_ne_nil present
  obtain ⟨some, plain⟩ := whole first List.mem_cons_self
  obtain ⟨second, tail, rfl⟩ := List.exists_cons_of_ne_nil some
  rw [List.mem_cons, not_or] at plain
  rw [rooted_cons, Text.join]
  cases rest with
  | nil => exact ⟨second, tail, by rw [List.intercalate_singleton], Ne.symm plain.1⟩
  | cons next others =>
    refine ⟨second, tail ++ (['/'] ++ List.intercalate ['/'] (next :: others)), ?_,
      Ne.symm plain.1⟩
    rw [List.intercalate_cons_of_ne_nil (List.cons_ne_nil _ _)]
    simp

/-- A path that is taken to have the prefix begins with its segments, unless it is mistaken. -/
theorem segments_of_startsWith (present : parts ≠ [])
    (whole : ∀ part ∈ parts, part ≠ [] ∧ '/' ∉ part) {path : List Char}
    (starts : startsWith (rooted parts) path = true) :
    [] :: parts <+: Text.cut '/' path ↔ ¬ Mistaken (rooted parts) path := by
  have apart : ∀ piece ∈ [] :: parts, '/' ∉ piece := by
    simpa using fun part member => (whole part member).2
  obtain ⟨second, more, spelled, inside⟩ := exists_rooted present whole
  rw [Text.prefix_cut_iff (List.cons_ne_nil _ _) apart]
  change path = rooted parts ∨ (∃ rest, path = rooted parts ++ '/' :: rest) ↔ _
  constructor
  · rintro ends mistaken
    cases mistaken with
    | runsOn c rest other =>
      rcases ends with same | ⟨behind, same⟩
      · simp at same
      · rw [List.append_cancel_left_eq] at same
        exact other (List.cons.inj same).1
    | slash rest =>
      -- The path has a slash where the first segment of the prefix has a character of its own.
      rw [spelled] at ends
      rcases ends with same | ⟨behind, same⟩
      · simp [inside.symm] at same
      · simp [inside.symm] at same
  · intro right
    rcases startsWith_iff.mp starts with ⟨behind, rfl⟩ | ⟨behind, rfl⟩
    · cases behind with
      | nil => exact .inl (List.append_nil _)
      | cons c rest =>
        by_cases other : c = '/'
        · exact .inr ⟨rest, by rw [other]⟩
        · exact absurd (.runsOn c rest other) right
    · exact absurd (.slash behind) right

/-- The result of a quoted prefix begins with the segments of the prefix exactly if the path is not
mistaken for one that has them, and putting the prefix before the result changes nothing. -/
theorem prefixed_segments_iff (apiPrefix : Option ApiPrefix) (parts : List (List Char))
    (present : parts ≠ []) (whole : ∀ part ∈ parts, part ≠ [] ∧ '/' ∉ part)
    (quoted : Quotes apiPrefix (rooted parts)) (context : PrefixContext)
    (slash : ['/'] <+: context.path.toList) :
    ([] :: parts <+: segments (prefixed apiPrefix context) ↔
        ¬ Mistaken (rooted parts) context.path.toList) ∧
      ∀ again : PrefixContext, again.path = prefixed apiPrefix context →
        prefixed apiPrefix again = again.path := by
  refine ⟨?_, fun again result => prefixed_prefixed quoted result⟩
  rw [segments, toList_prefixed quoted]
  by_cases starts : startsWith (rooted parts) context.path.toList = true
  · rw [if_pos starts]
    exact segments_of_startsWith present whole starts
  · rw [if_neg starts]
    -- Behind the prefix the path goes on with its own slash.
    obtain ⟨rest, spelled⟩ := slash
    refine iff_of_true ?_ fun mistaken => starts (startsWith_of_mistaken mistaken)
    refine (Text.prefix_cut_iff (List.cons_ne_nil _ _) ?_ _).mpr (.inr ⟨rest, ?_⟩)
    · simpa using fun part member => (whole part member).2
    · rw [← spelled]
      rfl

/-- The context of an operation, as far as a quoted prefix is concerned. -/
def contextOf (path : String) : PrefixContext := ⟨path, "get", "default", "getUsers"⟩

theorem quotes_version : Quotes (some (.fixed "'/v1'")) (rooted ["v1".toList]) := by
  intro context
  have trimmed : Text.trimBlanks "'/v1'".toList = '\'' :: (rooted ["v1".toList] ++ ['\'']) := by
    decide +kernel
  exact ⟨'\'', '\'', rfl, trimmed⟩

/-- A path without the prefix gets it in front. -/
theorem prefixed_segments_users :
    let apiPrefix := some (ApiPrefix.fixed "'/v1'")
    let parts := ["v1".toList]
    parts ≠ [] ∧ (∀ part ∈ parts, part ≠ [] ∧ '/' ∉ part) ∧ Quotes apiPrefix (rooted parts) ∧
      ['/'] <+: (contextOf "/users").path.toList ∧
      prefixed apiPrefix (contextOf "/users") = "/v1/users" ∧
      [] :: parts <+: segments (prefixed apiPrefix (contextOf "/users")) ∧
      prefixed apiPrefix (contextOf "/v1/users") = "/v1/users" := by
  intro apiPrefix parts
  have present : parts ≠ [] := List.cons_ne_nil _ _
  have whole : ∀ part ∈ parts, part ≠ [] ∧ '/' ∉ part := by decide
  have slash : ['/'] <+: (contextOf "/users").path.toList := by decide
  have result : prefixed apiPrefix (contextOf "/users") = "/v1/users" := by decide +kernel
  have right : ¬ Mistaken (rooted parts) (contextOf "/users").path.toList := fun mistaken =>
    absurd (startsWith_of_mistaken mistaken) (by decide)
  obtain ⟨begins, once⟩ :=
    prefixed_segments_iff apiPrefix parts present whole quotes_version (contextOf "/users") slash
  exact ⟨present, whole, quotes_version, slash, result, begins.mpr right,
    once (contextOf "/v1/users") result.symm⟩

/-- A path of another version begins with the same characters, so it gets no prefix. -/
theorem prefixed_misses_of_otherVersion :
    let apiPrefix := some (ApiPrefix.fixed "'/v1'")
    Quotes apiPrefix (rooted ["v1".toList]) ∧
      ['/'] <+: (contextOf "/v10/users").path.toList ∧
      prefixed apiPrefix (contextOf "/v10/users") = "/v10/users" ∧
      ¬ [[], "v1".toList] <+: segments (prefixed apiPrefix (contextOf "/v10/users")) :=
  ⟨quotes_version, by decide, by decide +kernel, by decide +kernel⟩

end ServicePath

end ApiBindings
