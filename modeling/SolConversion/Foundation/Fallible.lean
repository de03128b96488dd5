import Mathlib.Logic.Basic
import Mathlib.Tactic.Common

/-!
# Fallible computations

Inversion laws for `Except`.  A computation that sequences checks and partial operations succeeds
exactly when every stage does, and the laws below peel one stage at a time.
-/

namespace Fallible

universe u v

variable {ε : Type u} {α β : Type v}

/-- Continue when the condition holds and fail otherwise. -/
def require (condition : Prop) [Decidable condition] (failure : ε) : Except ε Unit :=
  if condition then .ok () else .error failure

/-- Turn a missing value into a failure. -/
def orFail (failure : ε) : Option α → Except ε α
  | some value => .ok value
  | none => .error failure

/-- Replace the failure of a computation. -/
def mapFailure {δ : Type u} (change : ε → δ) : Except ε α → Except δ α
  | .ok value => .ok value
  | .error failure => .error (change failure)

@[simp]
theorem require_eq_ok {condition : Prop} [Decidable condition] {failure : ε} {done : Unit} :
    require condition failure = .ok done ↔ condition := by
  unfold require
  split <;> simp_all

@[simp]
theorem require_eq_error {condition : Prop} [Decidable condition] {failure reported : ε} :
    require condition failure = .error reported ↔ ¬condition ∧ failure = reported := by
  unfold require
  split <;> simp_all

theorem require_of_not {condition : Prop} [Decidable condition] {failure : ε}
    (refuted : ¬condition) : require condition failure = .error failure := by
  simp [refuted]

@[simp]
theorem orFail_eq_ok {failure : ε} {source : Option α} {value : α} :
    orFail failure source = .ok value ↔ source = some value := by
  cases source <;> simp [orFail]

@[simp]
theorem orFail_eq_error {failure reported : ε} {source : Option α} :
    orFail failure source = .error reported ↔ source = none ∧ failure = reported := by
  cases source <;> simp [orFail]

@[simp]
theorem orFail_some {failure : ε} {value : α} : orFail failure (some value) = .ok value := rfl

@[simp]
theorem mapFailure_eq_ok {δ : Type u} {change : ε → δ} {source : Except ε α} {value : α} :
    mapFailure change source = .ok value ↔ source = .ok value := by
  cases source <;> simp [mapFailure]

theorem mapFailure_eq_error {δ : Type u} {change : ε → δ} {source : Except ε α} {failure : δ} :
    mapFailure change source = .error failure ↔
      ∃ original, source = .error original ∧ change original = failure := by
  cases source <;> simp [mapFailure]

@[simp]
theorem bind_eq_ok {first : Except ε α} {next : α → Except ε β} {value : β} :
    (first >>= next) = .ok value ↔ ∃ middle, first = .ok middle ∧ next middle = .ok value := by
  cases first <;> simp [bind, Except.bind]

theorem bind_eq_error {first : Except ε α} {next : α → Except ε β} {failure : ε} :
    (first >>= next) = .error failure ↔
      first = .error failure ∨ ∃ middle, first = .ok middle ∧ next middle = .error failure := by
  cases first <;> simp [bind, Except.bind]

@[simp]
theorem ok_bind {value : α} {next : α → Except ε β} :
    ((.ok value : Except ε α) >>= next) = next value := rfl

@[simp]
theorem error_bind {failure : ε} {next : α → Except ε β} :
    ((.error failure : Except ε α) >>= next) = .error failure := rfl

@[simp]
theorem pure_eq_ok {source value : α} :
    (pure source : Except ε α) = .ok value ↔ source = value := by
  simp [pure, Except.pure]

theorem map_eq_ok {σ τ : Type*} {change : σ → τ} {source : Except ε σ} {value : τ} :
    source.map change = .ok value ↔
      ∃ original, source = .ok original ∧ change original = value := by
  cases source <;> simp [Except.map]

theorem map_eq_error {σ τ : Type*} {change : σ → τ} {source : Except ε σ} {failure : ε} :
    source.map change = .error failure ↔ source = .error failure := by
  cases source <;> simp [Except.map]

theorem exists_error_iff {source : Except ε α} :
    (∃ failure, source = .error failure) ↔ ¬∃ value, source = .ok value := by
  cases source <;> simp

theorem mapM_eq_ok {γ : Type u} {items : List γ} {next : γ → Except ε β} {result : γ → β}
    (each : ∀ item ∈ items, next item = .ok (result item)) :
    items.mapM next = .ok (items.map result) := by
  induction items with
  | nil => rfl
  | cons item items ih =>
      rw [List.mapM_cons, each item List.mem_cons_self,
        ih fun other member => each other (List.mem_cons_of_mem _ member)]
      rfl

theorem foldlM_eq_ok {γ : Type u} {items : List γ} {next : β → γ → Except ε β}
    {result : β → γ → β} (each : ∀ item ∈ items, ∀ state, next state item = .ok (result state item))
    (state : β) : items.foldlM next state = .ok (items.foldl result state) := by
  induction items generalizing state with
  | nil => rfl
  | cons item items ih =>
      rw [List.foldlM_cons, each item List.mem_cons_self, ok_bind, List.foldl_cons]
      exact ih (fun other member => each other (List.mem_cons_of_mem _ member)) _

/-- A computation fails, and its failure is of a kind. -/
def FailsWhere (kind : ε → Prop) (result : Except ε α) : Prop :=
  ∃ failure, result = .error failure ∧ kind failure

section FailsWhere

variable {kind : ε → Prop}

theorem failsWhere_error {failure : ε} :
    FailsWhere kind (.error failure : Except ε α) ↔ kind failure := by
  simp [FailsWhere]

theorem failsWhere_bind {first : Except ε α} {next : α → Except ε β} :
    FailsWhere kind (first >>= next) ↔
      FailsWhere kind first ∨ ∃ middle, first = .ok middle ∧ FailsWhere kind (next middle) := by
  simp only [FailsWhere, bind_eq_error]
  constructor
  · rintro ⟨failure, failed | ⟨middle, passed, failed⟩, matching⟩
    · exact .inl ⟨failure, failed, matching⟩
    · exact .inr ⟨middle, passed, failure, failed, matching⟩
  · rintro (⟨failure, failed, matching⟩ | ⟨middle, passed, failure, failed, matching⟩)
    · exact ⟨failure, .inl failed, matching⟩
    · exact ⟨failure, .inr ⟨middle, passed, failed⟩, matching⟩

theorem failsWhere_require {condition : Prop} [Decidable condition] {failure : ε} :
    FailsWhere kind (require condition failure) ↔ ¬condition ∧ kind failure := by
  simp only [FailsWhere, require_eq_error]
  constructor
  · rintro ⟨_, ⟨refuted, rfl⟩, matching⟩
    exact ⟨refuted, matching⟩
  · rintro ⟨refuted, matching⟩
    exact ⟨failure, ⟨refuted, rfl⟩, matching⟩

theorem failsWhere_orFail {source : Option α} {failure : ε} :
    FailsWhere kind (orFail failure source) ↔ source = none ∧ kind failure := by
  simp only [FailsWhere, orFail_eq_error]
  constructor
  · rintro ⟨_, ⟨missing, rfl⟩, matching⟩
    exact ⟨missing, matching⟩
  · rintro ⟨missing, matching⟩
    exact ⟨failure, ⟨missing, rfl⟩, matching⟩

theorem failsWhere_mapFailure {δ : Type u} {change : δ → ε} {source : Except δ α} :
    FailsWhere kind (mapFailure change source) ↔
      FailsWhere (fun original => kind (change original)) source := by
  simp only [FailsWhere, mapFailure_eq_error]
  constructor
  · rintro ⟨_, ⟨original, failed, rfl⟩, matching⟩
    exact ⟨original, failed, matching⟩
  · rintro ⟨original, failed, matching⟩
    exact ⟨change original, ⟨original, failed, rfl⟩, matching⟩

theorem not_failsWhere_ok {value : α} : ¬FailsWhere kind (.ok value : Except ε α) := by
  rintro ⟨failure, ⟨⟩, -⟩

theorem not_failsWhere_pure {value : α} : ¬FailsWhere kind (pure value : Except ε α) :=
  not_failsWhere_ok

end FailsWhere

end Fallible
