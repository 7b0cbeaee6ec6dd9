import Mathlib.Data.List.Basic

set_option autoImplicit false

/-!
# Runs of a state machine

A run is the list of its inputs; the state after it is a left fold. What one
step preserves holds after every run.
-/

namespace Runs

variable {σ ι : Type}

def run (step : σ → ι → σ) (s : σ) (inputs : List ι) : σ := inputs.foldl step s

@[simp] theorem run_nil (step : σ → ι → σ) (s : σ) : run step s [] = s := rfl

@[simp] theorem run_cons (step : σ → ι → σ) (s : σ) (i : ι) (rest : List ι) :
    run step s (i :: rest) = run step (step s i) rest := rfl

@[simp] theorem run_append (step : σ → ι → σ) (s : σ) (first rest : List ι) :
    run step s (first ++ rest) = run step (run step s first) rest := by
  simp [run]

/-- Every input of the run meets a condition on the state it is given to. -/
def Meets (step : σ → ι → σ) (condition : σ → ι → Prop) : σ → List ι → Prop
  | _, [] => True
  | s, i :: rest => condition s i ∧ Meets step condition (step s i) rest

/-- A property holds in every state of the run, the first and the last included. -/
def Always (step : σ → ι → σ) (property : σ → Prop) : σ → List ι → Prop
  | s, [] => property s
  | s, i :: rest => property s ∧ Always step property (step s i) rest

variable {step : σ → ι → σ} {inv property : σ → Prop} {condition other : σ → ι → Prop}

theorem Meets.append {s : σ} {first rest : List ι} (both : Meets step condition s (first ++ rest)) :
    Meets step condition s first ∧ Meets step condition (run step s first) rest := by
  induction first generalizing s with
  | nil => exact ⟨trivial, both⟩
  | cons i first ih =>
    obtain ⟨here, later⟩ := both
    obtain ⟨front, back⟩ := ih later
    exact ⟨⟨here, front⟩, back⟩

theorem Meets.concat {s : σ} {first : List ι} {last : ι} (meets : Meets step condition s first)
    (here : condition (run step s first) last) : Meets step condition s (first ++ [last]) := by
  induction first generalizing s with
  | nil => exact ⟨here, trivial⟩
  | cons i first ih => exact ⟨meets.1, ih meets.2 here⟩

theorem meets_and {s : σ} {inputs : List ι} :
    Meets step (fun s i => condition s i ∧ other s i) s inputs
      ↔ Meets step condition s inputs ∧ Meets step other s inputs := by
  induction inputs generalizing s with
  | nil => simp [Meets]
  | cons i rest ih =>
    simp only [Meets, ih]
    exact and_and_and_comm

theorem Always.first {s : σ} {inputs : List ι} (always : Always step property s inputs) :
    property s := by
  cases inputs with
  | nil => exact always
  | cons i rest => exact always.1

theorem Always.imp {weaker : σ → Prop} (follows : ∀ s, property s → weaker s) {s : σ}
    {inputs : List ι} (always : Always step property s inputs) : Always step weaker s inputs := by
  induction inputs generalizing s with
  | nil => exact follows s always
  | cons i rest ih => exact ⟨follows s always.1, ih always.2⟩

theorem always_iff_prefixes {s : σ} {inputs : List ι} :
    Always step property s inputs
      ↔ ∀ first rest, inputs = first ++ rest → property (run step s first) := by
  induction inputs generalizing s with
  | nil =>
    constructor
    · intro always first rest whole
      obtain ⟨rfl, rfl⟩ := List.append_eq_nil_iff.mp whole.symm
      exact always
    · intro prefixes
      exact prefixes [] [] rfl
  | cons i inputs ih =>
    constructor
    · rintro ⟨here, later⟩ first rest whole
      cases first with
      | nil => exact here
      | cons j first =>
        obtain ⟨rfl, tail⟩ := List.cons.inj whole
        exact ih.mp later first rest tail
    · intro prefixes
      refine ⟨prefixes [] (i :: inputs) rfl, ih.mpr fun first rest tail => ?_⟩
      exact prefixes (i :: first) rest (by rw [tail]; rfl)

theorem meets_iff_splits {s : σ} {inputs : List ι} :
    Meets step condition s inputs
      ↔ ∀ before i after, inputs = before ++ i :: after → condition (run step s before) i := by
  induction inputs generalizing s with
  | nil =>
    constructor
    · intro _ before i after split
      cases List.append_ne_nil_of_right_ne_nil before (List.cons_ne_nil i after) split.symm
    · intro _
      trivial
  | cons j inputs ih =>
    constructor
    · intro meets before i after split
      cases before with
      | nil =>
        obtain ⟨rfl, rfl⟩ := List.cons.inj split
        exact meets.1
      | cons k before =>
        obtain ⟨rfl, tail⟩ := List.cons.inj split
        exact ih.mp meets.2 before i after tail
    · intro splits
      refine ⟨splits [] j inputs rfl, ih.mpr fun before i after tail => ?_⟩
      exact splits (j :: before) i after (by rw [tail]; rfl)

/-- Two machines in step with each other meet their conditions in the same runs. -/
theorem meets_iff_of_related {τ : Type} {step' : τ → ι → τ} {condition' : τ → ι → Prop}
    {related : σ → τ → Prop}
    (agree : ∀ s t i, related s t → (condition s i ↔ condition' t i))
    (follows : ∀ s t i, related s t → condition s i → related (step s i) (step' t i))
    {s : σ} {t : τ} {inputs : List ι} (start : related s t) :
    Meets step condition s inputs ↔ Meets step' condition' t inputs := by
  induction inputs generalizing s t with
  | nil => exact Iff.rfl
  | cons i rest ih =>
    constructor
    · intro meets
      exact ⟨(agree s t i start).mp meets.1, (ih (follows s t i start meets.1)).mp meets.2⟩
    · intro meets
      have here := (agree s t i start).mpr meets.1
      exact ⟨here, (ih (follows s t i start here)).mpr meets.2⟩

theorem run_related {τ : Type} {step' : τ → ι → τ} {related : σ → τ → Prop}
    (follows : ∀ s t i, related s t → condition s i → related (step s i) (step' t i))
    {s : σ} {t : τ} {inputs : List ι} (start : related s t)
    (meets : Meets step condition s inputs) : related (run step s inputs) (run step' t inputs) := by
  induction inputs generalizing s t with
  | nil => exact start
  | cons i rest ih => exact ih (follows s t i start meets.1) meets.2

theorem run_keeps (keeps : ∀ s i, inv s → inv (step s i)) {s : σ} {inputs : List ι}
    (start : inv s) : inv (run step s inputs) := by
  induction inputs generalizing s with
  | nil => exact start
  | cons i rest ih => exact ih (keeps s i start)

/-- What holds at the start and is kept by every step that meets the condition holds at the end. -/
theorem run_invariant (keeps : ∀ s i, inv s → condition s i → inv (step s i)) {s : σ}
    {inputs : List ι} (start : inv s) (meets : Meets step condition s inputs) :
    inv (run step s inputs) := by
  induction inputs generalizing s with
  | nil => exact start
  | cons i rest ih => exact ih (keeps s i start meets.1) meets.2

theorem always_of_invariant (keeps : ∀ s i, inv s → condition s i → inv (step s i)) {s : σ}
    {inputs : List ι} (start : inv s) (meets : Meets step condition s inputs) :
    Always step inv s inputs := by
  induction inputs generalizing s with
  | nil => exact start
  | cons i rest ih => exact ⟨start, ih (keeps s i start meets.1) meets.2⟩

/-- As `always_iff_meets`, in runs whose steps all meet an assumption. -/
theorem always_iff_meets_given {given : σ → ι → Prop}
    (keeps : ∀ s i, inv s → property s → given s i → condition s i → inv (step s i))
    (decides : ∀ s i, inv s → property s → given s i → (property (step s i) ↔ condition s i)) {s : σ}
    {inputs : List ι} (sound : inv s) (start : property s) (assumed : Meets step given s inputs) :
    Always step property s inputs ↔ Meets step condition s inputs := by
  induction inputs generalizing s with
  | nil => exact ⟨fun _ => trivial, fun _ => start⟩
  | cons i rest ih =>
    obtain ⟨here, later⟩ := assumed
    constructor
    · intro always
      have survives := (decides s i sound start here).mp always.2.first
      have after := keeps s i sound start here survives
      exact ⟨survives, (ih after always.2.first later).mp always.2⟩
    · intro meets
      have survives := (decides s i sound start here).mpr meets.1
      exact ⟨start, (ih (keeps s i sound start here meets.1) survives later).mpr meets.2⟩

theorem meets_true (s : σ) (inputs : List ι) : Meets step (fun _ _ => True) s inputs := by
  induction inputs generalizing s with
  | nil => trivial
  | cons i rest ih => exact ⟨trivial, ih (step s i)⟩

theorem meets_iff_of_invariant (keeps : ∀ s i, inv s → inv (step s i))
    (agree : ∀ s i, inv s → (condition s i ↔ other s i)) {s : σ} {inputs : List ι} (start : inv s) :
    Meets step condition s inputs ↔ Meets step other s inputs := by
  induction inputs generalizing s with
  | nil => exact Iff.rfl
  | cons i rest ih => exact and_congr (agree s i start) (ih (keeps s i start))

/-- If the condition decides for each step whether the property survives it, it does for runs. -/
theorem always_iff_meets
    (keeps : ∀ s i, inv s → property s → condition s i → inv (step s i))
    (decides : ∀ s i, inv s → property s → (property (step s i) ↔ condition s i)) {s : σ}
    {inputs : List ι} (sound : inv s) (start : property s) :
    Always step property s inputs ↔ Meets step condition s inputs :=
  always_iff_meets_given (fun s i sound holds _ => keeps s i sound holds)
    (fun s i sound holds _ => decides s i sound holds) sound start (meets_true s inputs)

end Runs
