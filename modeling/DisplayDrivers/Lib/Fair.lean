import DisplayDrivers.Lib.Run
import Mathlib.Order.WellFounded

/-! # Infinite schedules

A schedule gives a machine an input for every moment, `stateAt` is the state the machine is in then.
What eventually happens is shown with a rank: while something is `pending`, no input raises the
rank and every input that makes progress lowers it, unless the `goal` is reached; fairness says
that a machine with something pending gets an input that makes progress
(`eventually_of_rank`).
-/

namespace DisplayDrivers.Lib.Fair

variable {σ ι α : Type*} (step : σ → ι → σ) (start : σ) (inputs : ℕ → ι)

def stateAt : ℕ → σ
  | 0 => start
  | n + 1 => step (stateAt n) (inputs n)

variable {step start inputs}

theorem stateAt_invariant (Inv : σ → Prop) (keeps : ∀ s i, Inv s → Inv (step s i))
    (first : Inv start) (n : ℕ) : Inv (stateAt step start inputs n) := by
  induction n with
  | zero => exact first
  | succ n ih => exact keeps _ _ ih

theorem stateAt_of_stutter {n : ℕ}
    (stutter : ∀ m, n ≤ m → step (stateAt step start inputs n) (inputs m) =
      stateAt step start inputs n) {m : ℕ} (later : n ≤ m) :
    stateAt step start inputs m = stateAt step start inputs n := by
  induction m, later using Nat.le_induction with
  | base => rfl
  | succ m later ih => rw [stateAt, ih, stutter m later]

variable [LinearOrder α] (rank : σ → α) (pending : σ → Prop)
  (goal : σ → ι → Prop) (progress : ι → Prop)

theorem pending_until {n m : ℕ} (later : n ≤ m)
    (keeps : ∀ n, pending (stateAt step start inputs n) →
      goal (stateAt step start inputs n) (inputs n) ∨
        pending (stateAt step start inputs (n + 1)) ∧
          rank (stateAt step start inputs (n + 1)) ≤ rank (stateAt step start inputs n))
    (here : pending (stateAt step start inputs n)) :
    (∃ k, n ≤ k ∧ goal (stateAt step start inputs k) (inputs k)) ∨
      pending (stateAt step start inputs m) ∧
        rank (stateAt step start inputs m) ≤ rank (stateAt step start inputs n) := by
  induction m, later using Nat.le_induction with
  | base => exact .inr ⟨here, le_refl _⟩
  | succ m later ih =>
    rcases ih with reached | ⟨still, bound⟩
    · exact .inl reached
    · rcases keeps m still with reached | ⟨next, lower⟩
      · exact .inl ⟨m, later, reached⟩
      · exact .inr ⟨next, le_trans lower bound⟩

theorem eventually_of_rank [WellFoundedLT α]
    (keeps : ∀ n, pending (stateAt step start inputs n) →
      goal (stateAt step start inputs n) (inputs n) ∨
        pending (stateAt step start inputs (n + 1)) ∧
          rank (stateAt step start inputs (n + 1)) ≤ rank (stateAt step start inputs n) ∧
          (progress (inputs n) →
            rank (stateAt step start inputs (n + 1)) < rank (stateAt step start inputs n)))
    (fair : ∀ n, pending (stateAt step start inputs n) → ∃ m, n ≤ m ∧ progress (inputs m))
    {n : ℕ} (here : pending (stateAt step start inputs n)) :
    ∃ m, n ≤ m ∧ goal (stateAt step start inputs m) (inputs m) := by
  -- induction on the rank at the moment from which the goal is awaited
  induction rankHere : rank (stateAt step start inputs n) using WellFoundedLT.induction
    generalizing n with
  | _ r ih =>
    obtain ⟨m, later, moves⟩ := fair n here
    have until_m := pending_until rank pending goal later
      (fun n here => (keeps n here).imp_right fun kept => ⟨kept.1, kept.2.1⟩) here
    rcases until_m with ⟨k, after, reached⟩ | ⟨still, bound⟩
    · exact ⟨k, after, reached⟩
    · rcases keeps m still with reached | ⟨next, -, lower⟩
      · exact ⟨m, later, reached⟩
      · have below : rank (stateAt step start inputs (m + 1)) < r :=
          rankHere ▸ lt_of_lt_of_le (lower moves) bound
        obtain ⟨k, after, reached⟩ := ih _ below next rfl
        exact ⟨k, by omega, reached⟩

end DisplayDrivers.Lib.Fair
