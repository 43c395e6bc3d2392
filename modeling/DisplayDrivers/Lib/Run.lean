import Mathlib.Logic.Basic
import Mathlib.Order.WellFounded

/-! # Runs of an input-driven machine

A machine is a total function `step : σ → ι → σ`; whatever the environment decides (which call comes
next, whether an allocation succeeds, which thread is scheduled) is part of the input.
-/

namespace DisplayDrivers.Lib.Run

variable {σ ι : Type*} (step : σ → ι → σ)

def run (s : σ) (inputs : List ι) : σ := inputs.foldl step s

def StepsMeet (cond : σ → ι → Prop) : σ → List ι → Prop
  | _, [] => True
  | s, i :: rest => cond s i ∧ StepsMeet cond (step s i) rest

/-- Every state of the run, the first and the last included, satisfies `P`. -/
def Throughout (P : σ → Prop) : σ → List ι → Prop
  | s, [] => P s
  | s, i :: rest => P s ∧ Throughout P (step s i) rest

instance decidableStepsMeet (cond : σ → ι → Prop) [∀ s i, Decidable (cond s i)] :
    (s : σ) → (inputs : List ι) → Decidable (StepsMeet step cond s inputs)
  | _, [] => inferInstanceAs (Decidable True)
  | s, i :: rest =>
    have := decidableStepsMeet cond (step s i) rest
    inferInstanceAs (Decidable (cond s i ∧ StepsMeet step cond (step s i) rest))

instance decidableThroughout (P : σ → Prop) [DecidablePred P] :
    (s : σ) → (inputs : List ι) → Decidable (Throughout step P s inputs)
  | s, [] => inferInstanceAs (Decidable (P s))
  | s, i :: rest =>
    have := decidableThroughout P (step s i) rest
    inferInstanceAs (Decidable (P s ∧ Throughout step P (step s i) rest))

@[simp] theorem run_nil (s : σ) : run step s [] = s := rfl

@[simp] theorem run_cons (s : σ) (i : ι) (rest : List ι) :
    run step s (i :: rest) = run step (step s i) rest := rfl

@[simp] theorem run_append (s : σ) (front back : List ι) :
    run step s (front ++ back) = run step (run step s front) back := by
  simp [run, List.foldl_append]

variable {step} {cond : σ → ι → Prop} {P : σ → Prop} (Inv : σ → Prop)

@[simp] theorem stepsMeet_nil (s : σ) : StepsMeet step cond s [] := trivial

@[simp] theorem stepsMeet_cons (s : σ) (i : ι) (rest : List ι) :
    StepsMeet step cond s (i :: rest) ↔ cond s i ∧ StepsMeet step cond (step s i) rest := Iff.rfl

theorem stepsMeet_append (s : σ) (front back : List ι) :
    StepsMeet step cond s (front ++ back) ↔
      StepsMeet step cond s front ∧ StepsMeet step cond (run step s front) back := by
  induction front generalizing s with
  | nil => simp
  | cons i rest ih => simp [ih, and_assoc]

variable {cond' : σ → ι → Prop}

theorem stepsMeet_congr (same : ∀ s i, cond s i ↔ cond' s i) (s : σ)
    (inputs : List ι) : StepsMeet step cond s inputs ↔ StepsMeet step cond' s inputs := by
  induction inputs generalizing s with
  | nil => simp
  | cons i rest ih => rw [stepsMeet_cons, stepsMeet_cons, same, ih]

variable {inputs : List ι} {s : σ}

theorem StepsMeet.and
    (first : StepsMeet step cond s inputs) (second : StepsMeet step cond' s inputs) :
    StepsMeet step (fun s i => cond s i ∧ cond' s i) s inputs := by
  induction inputs generalizing s with
  | nil => trivial
  | cons i rest ih => exact ⟨⟨first.1, second.1⟩, ih first.2 second.2⟩

theorem run_invariant_of_meets (keeps : ∀ s i, Inv s → cond s i → Inv (step s i))
    (start : Inv s) (meets : StepsMeet step cond s inputs) :
    Inv (run step s inputs) := by
  induction inputs generalizing s with
  | nil => exact start
  | cons i rest ih => exact ih (keeps s i start meets.1) meets.2

theorem throughout_of_meets (keeps : ∀ s i, Inv s → cond s i → Inv (step s i))
    (gives : ∀ s, Inv s → P s) (start : Inv s)
    (meets : StepsMeet step cond s inputs) : Throughout step P s inputs := by
  induction inputs generalizing s with
  | nil => exact gives s start
  | cons i rest ih => exact ⟨gives s start, ih (keeps s i start meets.1) meets.2⟩

theorem StepsMeet.imp (keeps : ∀ s i, Inv s → cond s i → Inv (step s i))
    (turns : ∀ s i, Inv s → cond s i → cond' s i)
    (start : Inv s) (meets : StepsMeet step cond s inputs) :
    StepsMeet step cond' s inputs := by
  induction inputs generalizing s with
  | nil => trivial
  | cons i rest ih =>
    exact ⟨turns s i start meets.1, ih (keeps s i start meets.1) meets.2⟩

theorem run_invariant (keeps : ∀ s i, Inv s → Inv (step s i)) (start : Inv s)
    (inputs : List ι) : Inv (run step s inputs) := by
  induction inputs generalizing s with
  | nil => exact start
  | cons i rest ih => exact ih (keeps s i start)

theorem throughout_of_invariant (keeps : ∀ s i, Inv s → Inv (step s i))
    (gives : ∀ s, Inv s → P s) (start : Inv s) (inputs : List ι) :
    Throughout step P s inputs := by
  induction inputs generalizing s with
  | nil => exact gives s start
  | cons i rest ih => exact ⟨gives s start, ih (keeps s i start)⟩

theorem stepsMeet_of_invariant (keeps : ∀ s i, Inv s → Inv (step s i))
    (gives : ∀ s i, Inv s → cond s i) (start : Inv s) (inputs : List ι) :
    StepsMeet step cond s inputs := by
  induction inputs generalizing s with
  | nil => trivial
  | cons i rest ih => exact ⟨gives s i start, ih (keeps s i start)⟩

theorem Throughout.first (h : Throughout step P s inputs) : P s := by
  cases inputs with
  | nil => exact h
  | cons i rest => exact h.1

theorem throughout_iff_prefix : Throughout step P s inputs ↔
      ∀ front back, inputs = front ++ back → P (run step s front) := by
  induction inputs generalizing s with
  | nil =>
    constructor
    · intro h front back split
      obtain ⟨rfl, -⟩ := List.append_eq_nil_iff.mp split.symm
      exact h
    · intro h
      exact h [] [] rfl
  | cons i rest ih =>
    constructor
    · rintro ⟨here, later⟩ front back split
      cases front with
      | nil => exact here
      | cons j front =>
        obtain ⟨rfl, tail⟩ := List.cons.inj split
        exact ih.mp later front back tail
    · intro h
      refine ⟨h [] (i :: rest) rfl, ih.mpr fun front back split => ?_⟩
      exact h (i :: front) back (by rw [split]; rfl)

theorem stepsMeet_of_forall (every : ∀ s, ∀ i ∈ inputs, cond s i) (s : σ) :
    StepsMeet step cond s inputs := by
  induction inputs generalizing s with
  | nil => trivial
  | cons i rest ih =>
    exact ⟨every s i List.mem_cons_self, ih (fun s j listed => every s j (.tail i listed)) _⟩

variable {allowed : σ → ι → Prop}

theorem throughout_iff_stepsMeet_good
    (keeps : ∀ s i, allowed s i → Inv s → P s → P (step s i) → Inv (step s i))
    (exact_step : ∀ s i, allowed s i → Inv s → P s → (P (step s i) ↔ cond s i))
    (inv : Inv s) (start : P s)
    (allows : StepsMeet step allowed s inputs) :
    Throughout step P s inputs ↔ StepsMeet step cond s inputs := by
  induction inputs generalizing s with
  | nil => simpa [Throughout] using start
  | cons i rest ih =>
    obtain ⟨here, allowsRest⟩ := allows
    constructor
    -- the step is judged by the next state, which must be good for the rest to be judged
    · rintro ⟨_, later⟩
      have good : P (step s i) := later.first
      have next : Inv (step s i) := keeps s i here inv start good
      exact ⟨(exact_step s i here inv start).mp good, (ih next good allowsRest).mp later⟩
    · rintro ⟨meets, later⟩
      have good : P (step s i) := (exact_step s i here inv start).mpr meets
      have next : Inv (step s i) := keeps s i here inv start good
      exact ⟨start, (ih next good allowsRest).mpr later⟩

theorem throughout_iff_stepsMeet_along (keeps : ∀ s i, Inv s → P s → Inv (step s i))
    (exact_step : ∀ s i, Inv s → P s → (P (step s i) ↔ cond s i))
    (inv : Inv s) (start : P s) (inputs : List ι) :
    Throughout step P s inputs ↔ StepsMeet step cond s inputs := by
  have keeps_allowed : ∀ s i, True → Inv s → P s → P (step s i) → Inv (step s i) :=
    fun s i _ inv good _ => keeps s i inv good
  have exact_allowed : ∀ s i, True → Inv s → P s → (P (step s i) ↔ cond s i) :=
    fun s i _ => exact_step s i
  exact throughout_iff_stepsMeet_good Inv keeps_allowed exact_allowed inv start
    (stepsMeet_of_forall (fun _ _ _ => trivial) s)

theorem throughout_iff_stepsMeet_when (keeps : ∀ s i, Inv s → Inv (step s i))
    (exact_step : ∀ s i, allowed s i → Inv s → P s → (P (step s i) ↔ cond s i))
    (inv : Inv s) (start : P s)
    (allows : StepsMeet step allowed s inputs) :
    Throughout step P s inputs ↔ StepsMeet step cond s inputs :=
  throughout_iff_stepsMeet_good Inv (fun s i _ inv _ _ => keeps s i inv) exact_step inv start allows

theorem throughout_iff_stepsMeet_of {allowed : ι → Prop} (keeps : ∀ s i, Inv s → Inv (step s i))
    (exact_step : ∀ s i, allowed i → Inv s → P s → (P (step s i) ↔ cond s i))
    (inv : Inv s) (start : P s) (allows : ∀ i ∈ inputs, allowed i) :
    Throughout step P s inputs ↔ StepsMeet step cond s inputs :=
  throughout_iff_stepsMeet_when Inv keeps exact_step inv start
    (stepsMeet_of_forall (fun _ => allows) s)

theorem throughout_iff_stepsMeet (keeps : ∀ s i, Inv s → Inv (step s i))
    (exact_step : ∀ s i, Inv s → P s → (P (step s i) ↔ cond s i))
    (inv : Inv s) (start : P s) (inputs : List ι) :
    Throughout step P s inputs ↔ StepsMeet step cond s inputs :=
  have exact_allowed : ∀ s i, True → Inv s → P s → (P (step s i) ↔ cond s i) :=
    fun s i _ => exact_step s i
  throughout_iff_stepsMeet_of Inv keeps exact_allowed inv start fun _ _ => trivial

theorem throughout_iff_stepsMeet_kept (keeps : ∀ s i, Inv s → cond s i → Inv (step s i))
    (gives : ∀ s, Inv s → P s) (fails : ∀ s i, Inv s → ¬ cond s i → ¬ P (step s i))
    (start : Inv s) (inputs : List ι) :
    Throughout step P s inputs ↔ StepsMeet step cond s inputs := by
  constructor
  · intro good
    induction inputs generalizing s with
    | nil => trivial
    | cons i rest ih =>
      have meets : cond s i :=
        Classical.byContradiction fun broken => fails s i start broken good.2.first
      exact ⟨meets, ih (keeps s i start meets) good.2⟩
  · exact throughout_of_meets Inv keeps gives start

/-! ## Noninterference by unwinding

An observer sees `view` of a machine's state, and `concerns` tells which inputs are its business.
If the other inputs do not change the view, and the view after an input depends only on the
view before it, two runs with the same inputs of concern end in the same view.
-/

section Unwinding

variable {σ ι ν : Type*} {step : σ → ι → σ} {view : σ → ν} {concerns : ι → Bool}

theorem view_run_filter
    (frame : ∀ s i, concerns i = false → view (step s i) = view s)
    (congr : ∀ s t i, view s = view t → view (step s i) = view (step t i))
    {s t : σ} (same : view s = view t) (inputs : List ι) :
    view (run step s inputs) = view (run step t (inputs.filter concerns)) := by
  induction inputs generalizing s t with
  | nil => exact same
  | cons i rest ih =>
    cases concern : concerns i with
    | true =>
      rw [List.filter_cons_of_pos concern]
      exact ih (congr s t i same)
    | false =>
      rw [List.filter_cons_of_neg (by simp [concern])]
      exact ih ((frame s i concern).trans same)

theorem view_run_eq
    (frame : ∀ s i, concerns i = false → view (step s i) = view s)
    (congr : ∀ s t i, view s = view t → view (step s i) = view (step t i))
    (s : σ) {inputs inputs' : List ι} (agree : inputs.filter concerns = inputs'.filter concerns) :
    view (run step s inputs) = view (run step s inputs') := by
  rw [view_run_filter frame congr rfl inputs, view_run_filter frame congr rfl inputs', agree]

end Unwinding

end DisplayDrivers.Lib.Run
