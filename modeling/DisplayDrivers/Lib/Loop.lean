import Mathlib.Data.List.Basic

/-! # Loops that may not end

A step of a loop goes on with another state or leaves with a result. `Returns` says that the loop
leaves after some number of steps; what it leaves with does not depend on how many are allowed.

A loop whose states are known in advance, up to where it leaves, leaves at the first of them it does
not go on from (`loop_isSome_iff`).
-/

namespace DisplayDrivers.Lib.Loop

variable {σ ρ : Type*} (step : σ → σ ⊕ ρ)

def loop : Nat → σ → Option ρ
  | 0, _ => none
  | fuel + 1, s =>
    match step s with
    | .inl s' => loop fuel s'
    | .inr r => some r

@[simp] theorem loop_zero (s : σ) : loop step 0 s = none := rfl

theorem loop_succ (fuel : Nat) (s : σ) : loop step (fuel + 1) s =
    match step s with
    | .inl s' => loop step fuel s'
    | .inr r => some r := rfl

def Returns (s : σ) (r : ρ) : Prop := ∃ fuel, loop step fuel s = some r

variable {step} {s s' : σ} {r r' : ρ}

theorem returns_of_again (again : step s = .inl s') : Returns step s r ↔ Returns step s' r := by
  constructor
  · rintro ⟨fuel, left⟩
    cases fuel with
    | zero => cases left
    | succ fuel => exact ⟨fuel, by simpa [loop_succ, again] using left⟩
  · rintro ⟨fuel, left⟩
    exact ⟨fuel + 1, by simpa [loop_succ, again] using left⟩

theorem returns_of_leave (leave : step s = .inr r') : Returns step s r ↔ r' = r := by
  constructor
  · rintro ⟨fuel, left⟩
    cases fuel with
    | zero => cases left
    | succ fuel => simpa [loop_succ, leave] using left
  · rintro rfl
    exact ⟨1, by simp [loop_succ, leave]⟩

theorem not_returns_of_stuck (stuck : step s = .inl s) : ¬Returns step s r := by
  rintro ⟨fuel, left⟩
  induction fuel with
  | zero => cases left
  | succ fuel ih => exact ih (by simpa [loop_succ, stuck] using left)

theorem returns_orbit_iff {n : ℕ} (orbit : ℕ → σ)
    (follows : ∀ k < n, step (orbit k) = .inl (orbit (k + 1))) (leave : step (orbit n) = .inr r) :
    Returns step (orbit 0) r' ↔ r = r' := by
  induction n generalizing orbit with
  | zero => exact returns_of_leave leave
  | succ n ih =>
    rw [returns_of_again (follows 0 (Nat.succ_pos n))]
    exact ih (fun k => orbit (k + 1))
      (fun k below => follows (k + 1) (Nat.succ_lt_succ below)) leave

theorem exists_returns {Inv : σ → Prop} {post : ρ → Prop} (measure : σ → ℕ)
    (turn : ∀ s, Inv s → (∃ s', step s = .inl s' ∧ Inv s' ∧ measure s' < measure s) ∨
      ∃ r, step s = .inr r ∧ post r)
    (init : Inv s) : ∃ r, Returns step s r ∧ post r := by
  induction bound : measure s using Nat.strongRecOn generalizing s with
  | _ n ih =>
    obtain ⟨s', again, kept, falls⟩ | ⟨r, leave, left⟩ := turn s init
    · obtain ⟨r, returns, left⟩ := ih (measure s') (bound ▸ falls) kept rfl
      exact ⟨r, (returns_of_again again).mpr returns, left⟩
    · exact ⟨r, (returns_of_leave leave).mpr rfl, left⟩

theorem loop_isSome_iff {orbit : ℕ → σ}
    (follows : ∀ k, step (orbit k) = .inl (orbit (k + 1)) ∨ ∃ r, step (orbit k) = .inr r)
    (n : ℕ) : ∀ start : ℕ, (loop step n (orbit start)).isSome ↔
      ∃ k, start ≤ k ∧ k < start + n ∧ ∃ r, step (orbit k) = .inr r := by
  induction n with
  | zero =>
    intro start
    have none : ¬ ∃ k, start ≤ k ∧ k < start + 0 ∧ ∃ r, step (orbit k) = .inr r := by
      rintro ⟨k, low, high, -⟩
      omega
    simp only [loop_zero, Option.isSome_none, Bool.false_eq_true, none]
  | succ n ih =>
    intro start
    cases follows start with
    | inl again =>
      simp only [loop_succ, again, ih]
      constructor
      · rintro ⟨k, low, high, left⟩
        exact ⟨k, by omega, by omega, left⟩
      · rintro ⟨k, low, high, left⟩
        have later : k ≠ start := by
          rintro rfl
          obtain ⟨r, leave⟩ := left
          rw [again] at leave
          cases leave
        exact ⟨k, by omega, by omega, left⟩
    | inr left =>
      obtain ⟨r, leave⟩ := left
      simp only [loop_succ, leave, Option.isSome_some, true_iff]
      exact ⟨start, Nat.le_refl _, by omega, r, leave⟩

end DisplayDrivers.Lib.Loop
