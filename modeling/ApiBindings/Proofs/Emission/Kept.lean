import ApiBindings.Emission.Output
import Mathlib.Data.List.Basic

/-!
# Files kept in memory

Of several texts put at one path the last one stays. What a run leaves at a path is thus decided
by the last file planned there, whatever was planned before it or elsewhere.
-/
namespace ApiBindings.KeptFiles

theorem lookup_put (path text other : String) (files : List (String × String)) :
    (put path text files).lookup other =
      if other = path then some text else files.lookup other := by
  induction files with
  | nil =>
    by_cases same : other = path
    · simp [put, same]
    · simp [put, List.lookup_cons, same, beq_eq_false_iff_ne.mpr same]
  | cons first rest ih =>
    obtain ⟨taken, old⟩ := first
    rw [put]
    split
    · subst taken
      by_cases same : other = path
      · simp [same]
      · simp [List.lookup_cons, same, beq_eq_false_iff_ne.mpr same]
    · rename_i free
      by_cases found : other = taken
      · subst other
        simp [free]
      · simp [List.lookup_cons, beq_eq_false_iff_ne.mpr found, ih]

theorem get?_write (kept : KeptFiles) (path text other : String) :
    (kept.write path text).get? other = if other = path then some text else kept.get? other :=
  lookup_put path text other kept.files

variable [TemplateEngine] {tree : FileTree} {folder : Option String}

theorem writeAll_cons_ok {kept after : KeptFiles} {file : PlannedFile} {rest : List PlannedFile} :
    kept.writeAll tree folder (file :: rest) = .ok after ↔
      ∃ text, file.finalText tree folder = .ok text ∧
        (kept.write file.path text).writeAll tree folder rest = .ok after := by
  simp only [writeAll, List.foldlM_cons]
  cases file.finalText tree folder <;> simp [bind, Except.bind, pure, Except.pure]

theorem writeAll_append_ok {kept after : KeptFiles} {before later : List PlannedFile} :
    kept.writeAll tree folder (before ++ later) = .ok after ↔
      ∃ between, kept.writeAll tree folder before = .ok between ∧
        between.writeAll tree folder later = .ok after := by
  induction before generalizing kept with
  | nil => simp [writeAll, pure, Except.pure]
  | cons file rest ih =>
    simp only [List.cons_append, writeAll_cons_ok, ih]
    constructor
    · rintro ⟨text, made, between, first, second⟩
      exact ⟨between, ⟨text, made, first⟩, second⟩
    · rintro ⟨between, ⟨text, made, first⟩, second⟩
      exact ⟨text, made, between, first, second⟩

/-- A path that is not planned keeps what is there. -/
theorem get?_writeAll_of_notMem {kept after : KeptFiles} {plan : List PlannedFile} {path : String}
    (written : kept.writeAll tree folder plan = .ok after)
    (unplanned : path ∉ plan.map PlannedFile.path) : after.get? path = kept.get? path := by
  -- Each file writes its own path only, so what is kept at this one passes through unchanged.
  induction plan generalizing kept with
  | nil =>
    obtain rfl := Except.ok.inj written
    rfl
  | cons file rest ih =>
    obtain ⟨text, _, written⟩ := writeAll_cons_ok.mp written
    obtain ⟨elsewhere, unplanned⟩ := not_or.mp (mt List.mem_cons.mpr unplanned)
    rw [ih written unplanned, get?_write, if_neg elsewhere]

/-- The last file planned at a path is found there. -/
theorem get?_writeAll {kept after : KeptFiles} {before later : List PlannedFile}
    {file : PlannedFile} (written : kept.writeAll tree folder (before ++ file :: later) = .ok after)
    (last : file.path ∉ later.map PlannedFile.path) :
    ∃ text, file.finalText tree folder = .ok text ∧ after.get? file.path = some text := by
  obtain ⟨between, _, written⟩ := writeAll_append_ok.mp written
  obtain ⟨text, made, written⟩ := writeAll_cons_ok.mp written
  refine ⟨text, made, ?_⟩
  rw [get?_writeAll_of_notMem written last, get?_write, if_pos rfl]

/-- When no path is planned twice, every planned file is found at its path. -/
theorem get?_of_nodup {kept after : KeptFiles} {plan : List PlannedFile} {file : PlannedFile}
    (written : kept.writeAll tree folder plan = .ok after)
    (apart : (plan.map PlannedFile.path).Nodup) (planned : file ∈ plan) :
    ∃ text, file.finalText tree folder = .ok text ∧ after.get? file.path = some text := by
  obtain ⟨before, later, rfl⟩ := List.append_of_mem planned
  apply get?_writeAll written
  rw [List.map_append, List.map_cons] at apart
  exact (List.nodup_cons.mp (List.nodup_append.mp apart).2.1).1

/-- There is a text at every planned path, and at every path where there was one. -/
theorem exists_get?_writeAll {kept after : KeptFiles} {plan : List PlannedFile} {path : String}
    (written : kept.writeAll tree folder plan = .ok after)
    (there : path ∈ plan.map PlannedFile.path ∨ ∃ text, kept.get? path = some text) :
    ∃ text, after.get? path = some text := by
  induction plan generalizing kept with
  | nil =>
    obtain rfl := Except.ok.inj written
    exact there.resolve_left List.not_mem_nil
  | cons file rest ih =>
    obtain ⟨text, _, written⟩ := writeAll_cons_ok.mp written
    refine ih written ?_
    rw [get?_write]
    by_cases here : path = file.path
    · exact .inr ⟨text, if_pos here⟩
    · rw [if_neg here]
      rcases there with planned | old
      · exact .inl ((List.mem_cons.mp planned).resolve_left here)
      · exact .inr old

/-- Without a folder of templates, everything planned can be written. -/
theorem exists_writeAll (tree : FileTree) (kept : KeptFiles) (plan : List PlannedFile) :
    ∃ after, kept.writeAll tree none plan = .ok after := by
  induction plan generalizing kept with
  | nil => exact ⟨kept, rfl⟩
  | cons file rest ih =>
    obtain ⟨after, written⟩ := ih (kept.write file.path file.text)
    exact ⟨after, writeAll_cons_ok.mpr ⟨file.text, rfl, written⟩⟩

end ApiBindings.KeptFiles
