import ApiBindings.Noted
import Mathlib.Data.List.Forall2

/-!
# Outcomes of attempts

The remarks of an attempt never decide what comes out of it. The outcome of a sequence is the
sequence of the outcomes, and work over a list succeeds when it succeeds on every item.
-/
namespace ApiBindings

/-- What each item of a list is related to. -/
theorem exists_of_forall₂ {α β : Type} {related : α → β → Prop} {items : List α}
    {results : List β} (all : List.Forall₂ related items results) {item : α}
    (member : item ∈ items) : ∃ result ∈ results, related item result := by
  induction all with
  | nil => simp at member
  | cons first _ ih =>
    rcases List.mem_cons.mp member with rfl | later
    · exact ⟨_, by simp, first⟩
    · obtain ⟨result, among, fits⟩ := ih later
      exact ⟨result, List.mem_cons_of_mem _ among, fits⟩

theorem exceptBind_ok {ε α β : Type} (attempt : Except ε α) (next : α → Except ε β)
    (result : β) :
    attempt >>= next = .ok result ↔ ∃ value, attempt = .ok value ∧ next value = .ok result := by
  cases attempt <;> simp [bind, Except.bind]

/-- Work over a list that may meet a misfit succeeds exactly when it succeeds on every item. -/
theorem exceptMapM_ok {ε α β : Type} (work : α → Except ε β) (items : List α)
    (results : List β) :
    items.mapM work = .ok results ↔
      List.Forall₂ (fun item result => work item = .ok result) items results := by
  induction items generalizing results with
  | nil => cases results <;> simp [pure, Except.pure]
  | cons item rest ih =>
    rw [List.mapM_cons]
    cases first : work item with
    | error reason => cases results <;> simp [first, bind, Except.bind]
    | ok value =>
      cases others : rest.mapM work with
      | error reason =>
        cases results with
        | nil => simp [bind, Except.bind]
        | cons result results => simp [first, ← ih, others, bind, Except.bind]
      | ok values =>
        cases results with
        | nil => simp [bind, Except.bind, pure, Except.pure]
        | cons result results => simp [first, ← ih, others, bind, Except.bind, pure, Except.pure]

namespace Noted

@[ext] theorem ext {α : Type} {one other : Noted α} (values : one.value = other.value)
    (remarks : one.remarks = other.remarks) : one = other := by
  cases one
  cases other
  cases values
  cases remarks
  rfl

instance : LawfulMonad Noted := LawfulMonad.mk' Noted
  (fun noted => by ext <;> simp [Functor.map])
  (fun value next => by ext <;> simp)
  (fun noted next last => by ext <;> simp)

@[simp] theorem value_map {α β : Type} (change : α → β) (noted : Noted α) :
    (change <$> noted).value = change noted.value := rfl

@[simp] theorem remarks_map {α β : Type} (change : α → β) (noted : Noted α) :
    (change <$> noted).remarks = noted.remarks := List.append_nil _

theorem value_mapM {α β : Type} (work : α → Noted β) (items : List α) :
    (items.mapM work).value = items.map fun item => (work item).value := by
  induction items with
  | nil => rfl
  | cons item rest ih => simp [List.mapM_cons, ih]

end Noted

namespace Attempt

@[simp] theorem outcome_pure {α : Type} (value : α) :
    (pure value : Attempt α).outcome = .ok value := rfl

@[simp] theorem outcome_throw {α : Type} (failure : Failure) :
    (throw failure : Attempt α).outcome = .error failure := rfl

@[simp] theorem outcome_noted {α : Type} (noted : Noted α) :
    (liftM noted : Attempt α).outcome = .ok noted.value := rfl

@[simp] theorem outcome_misfit {α : Type} (result : Except Misfit α) :
    (liftM result : Attempt α).outcome = result.mapError .misfit := by
  cases result <;> rfl

theorem outcome_bind {α β : Type} (attempt : Attempt α) (next : α → Attempt β) :
    (attempt >>= next).outcome = attempt.outcome.bind fun value => (next value).outcome := by
  simp only [outcome, ExceptT.run_bind, Noted.value_bind]
  cases attempt.run.value <;> rfl

theorem outcome_bind_ok {α β : Type} (attempt : Attempt α) (next : α → Attempt β) (result : β) :
    (attempt >>= next).outcome = .ok result ↔
      ∃ value, attempt.outcome = .ok value ∧ (next value).outcome = .ok result := by
  rw [outcome_bind]
  cases attempt.outcome <;> simp [Except.bind]

/-- An attempt can be tried for a value without looking into the value. -/
theorem exists_outcome {α : Type} (attempt : Attempt α)
    (made : attempt.outcome.toOption.isSome = true) : ∃ value, attempt.outcome = .ok value := by
  cases taken : attempt.outcome with
  | error failure => simp [taken, Except.toOption] at made
  | ok value => exact ⟨value, rfl⟩

theorem exists_outcome_of_any {α : Type} (meets : α → Prop) [DecidablePred meets]
    (attempt : Attempt α) (met : attempt.outcome.toOption.any (fun value => meets value) = true) :
    ∃ value, attempt.outcome = .ok value ∧ meets value := by
  cases taken : attempt.outcome with
  | error failure => simp [taken, Except.toOption] at met
  | ok value => exact ⟨value, rfl, by simpa [taken, Except.toOption] using met⟩

theorem outcome_map_ok {α β : Type} (change : α → β) (attempt : Attempt α) (result : β) :
    (change <$> attempt).outcome = .ok result ↔
      ∃ value, attempt.outcome = .ok value ∧ change value = result := by
  rw [map_eq_pure_bind, outcome_bind_ok]
  simp

theorem mapError_ok {α : Type} (result : Except Misfit α) (value : α) :
    result.mapError Failure.misfit = .ok value ↔ result = .ok value := by
  cases result <;> simp [Except.mapError]

/-- Work over a list succeeds exactly when it succeeds on every item. -/
theorem outcome_mapM_ok {α β : Type} (work : α → Attempt β) (items : List α) (results : List β) :
    (items.mapM work).outcome = .ok results ↔
      List.Forall₂ (fun item result => (work item).outcome = .ok result) items results := by
  induction items generalizing results with
  | nil => cases results <;> simp
  | cons item rest ih =>
    rw [List.mapM_cons, outcome_bind_ok]
    cases results with
    | nil => simp [outcome_map_ok]
    | cons result results => simp [outcome_map_ok, ih, and_left_comm]

/-- Something comes out of an attempt. -/
def Succeeds {α : Type} (attempt : Attempt α) : Prop := ∃ value, attempt.outcome = .ok value

section Succeeds

variable {α β : Type}

@[simp] theorem succeeds_pure (value : α) : (pure value : Attempt α).Succeeds := ⟨value, rfl⟩

@[simp] theorem succeeds_noted (noted : Noted α) : (liftM noted : Attempt α).Succeeds :=
  ⟨noted.value, rfl⟩

@[simp] theorem succeeds_misfit (result : Except Misfit α) :
    (liftM result : Attempt α).Succeeds ↔ result.isOk = true := by
  cases result <;> simp [Succeeds, Except.isOk, Except.toBool, Except.mapError]

theorem succeeds_bind (attempt : Attempt α) (next : α → Attempt β) :
    (attempt >>= next).Succeeds ↔
      ∃ value, attempt.outcome = .ok value ∧ (next value).Succeeds := by
  simp only [Succeeds, outcome_bind_ok]
  constructor
  · rintro ⟨result, value, taken, made⟩
    exact ⟨value, taken, result, made⟩
  · rintro ⟨value, taken, result, made⟩
    exact ⟨result, value, taken, made⟩

/-- Where the second step succeeds whatever the first one gives, the first one decides. -/
theorem succeeds_bind_iff {attempt : Attempt α} {next : α → Attempt β} {holds : Prop}
    (then_ : ∀ value, (next value).Succeeds ↔ holds) :
    (attempt >>= next).Succeeds ↔ attempt.Succeeds ∧ holds := by
  rw [succeeds_bind]
  constructor
  · rintro ⟨value, taken, made⟩
    exact ⟨⟨value, taken⟩, (then_ value).mp made⟩
  · rintro ⟨⟨value, taken⟩, held⟩
    exact ⟨value, taken, (then_ value).mpr held⟩

@[simp] theorem succeeds_bind_pure (attempt : Attempt α) (change : α → β) :
    (do return change (← attempt) : Attempt β).Succeeds ↔ attempt.Succeeds :=
  (succeeds_bind_iff fun _ => iff_true_intro (succeeds_pure _)).trans (and_iff_left trivial)

theorem succeeds_mapM (work : α → Attempt β) (items : List α) :
    (items.mapM work).Succeeds ↔ ∀ item ∈ items, (work item).Succeeds := by
  induction items with
  | nil => simp
  | cons item rest ih =>
    rw [List.mapM_cons, succeeds_bind_iff fun _ => succeeds_bind_pure _ _, ih,
      List.forall_mem_cons]

end Succeeds

/-- Whatever comes out of one attempt comes out of the other. -/
def KeptBy {α : Type} (one other : Attempt α) : Prop :=
  ∀ value, one.outcome = .ok value → other.outcome = .ok value

namespace KeptBy

variable {α β : Type}

theorem refl (attempt : Attempt α) : attempt.KeptBy attempt := fun _ made => made

theorem bind {one other : Attempt α} {next next' : α → Attempt β} (first : one.KeptBy other)
    (then_ : ∀ value, one.outcome = .ok value → (next value).KeptBy (next' value)) :
    (one >>= next).KeptBy (other >>= next') := by
  intro result made
  rw [outcome_bind_ok] at made ⊢
  obtain ⟨value, taken, made⟩ := made
  exact ⟨value, first value taken, then_ value taken result made⟩

theorem mapM {work work' : α → Attempt β} {items : List α}
    (each : ∀ item ∈ items, (work item).KeptBy (work' item)) :
    (items.mapM work).KeptBy (items.mapM work') := by
  intro results made
  rw [outcome_mapM_ok] at made ⊢
  induction made with
  | nil => exact .nil
  | @cons item result _ _ first _ ih =>
    exact .cons (each item (by simp) result first)
      (ih fun other member => each other (List.mem_cons_of_mem _ member))

end KeptBy

/-- Every failure of an attempt is of a kind. -/
def FailsAs {α : Type} (kind : Failure → Prop) (attempt : Attempt α) : Prop :=
  ∀ failure, attempt.outcome = .error failure → kind failure

namespace FailsAs

variable {α β : Type} {kind : Failure → Prop}

theorem pure (value : α) : (Pure.pure value : Attempt α).FailsAs kind := by
  intro failure failed
  simp at failed

theorem noted (noted : Noted α) : (liftM noted : Attempt α).FailsAs kind := by
  intro failure failed
  simp at failed

theorem misfit (known : ∀ reason, kind (.misfit reason)) (result : Except Misfit α) :
    (liftM result : Attempt α).FailsAs kind := by
  intro failure failed
  cases result with
  | error reason =>
    obtain rfl := Except.error.inj failed
    exact known reason
  | ok value => simp [Except.mapError] at failed

theorem bind_of_outcome {attempt : Attempt α} {next : α → Attempt β}
    (first : attempt.FailsAs kind)
    (then_ : ∀ value, attempt.outcome = .ok value → (next value).FailsAs kind) :
    (attempt >>= next).FailsAs kind := by
  intro failure failed
  rw [outcome_bind] at failed
  cases made : attempt.outcome with
  | error earlier =>
    rw [made] at failed
    obtain rfl := Except.error.inj failed
    exact first _ made
  | ok value =>
    rw [made] at failed
    exact then_ value made failure failed

/-- What fits cannot fail. -/
theorem bind_of_ok {result : Except Misfit α} {value : α} {next : α → Attempt β}
    (given : result = .ok value) (then_ : (next value).FailsAs kind) :
    ((liftM result : Attempt α) >>= next).FailsAs kind := by
  intro failure failed
  rw [outcome_bind, outcome_misfit, given] at failed
  exact then_ failure failed

theorem bind {attempt : Attempt α} {next : α → Attempt β} (first : attempt.FailsAs kind)
    (then_ : ∀ value, (next value).FailsAs kind) : (attempt >>= next).FailsAs kind :=
  first.bind_of_outcome fun value _ => then_ value

theorem mapM_of_mem {work : α → Attempt β} {items : List α}
    (each : ∀ item ∈ items, (work item).FailsAs kind) : (items.mapM work).FailsAs kind := by
  induction items with
  | nil => exact .pure _
  | cons item rest ih =>
    rw [List.forall_mem_cons] at each
    rw [List.mapM_cons]
    exact .bind each.1 fun _ => .bind (ih each.2) fun _ => .pure _

theorem mapM {work : α → Attempt β} (each : ∀ item, (work item).FailsAs kind)
    (items : List α) : (items.mapM work).FailsAs kind :=
  mapM_of_mem fun item _ => each item

theorem of_succeeds {attempt : Attempt α} (succeeds : attempt.Succeeds) :
    attempt.FailsAs kind := by
  intro failure failed
  obtain ⟨value, made⟩ := succeeds
  rw [made] at failed
  cases failed

theorem forM {work : α → Attempt PUnit} (each : ∀ item, (work item).FailsAs kind)
    (items : List α) : (items.forM work).FailsAs kind := by
  induction items with
  | nil => exact .pure _
  | cons item rest ih => exact .bind (each item) fun _ => ih

end FailsAs

end Attempt

end ApiBindings
