import Mathlib.Algebra.BigOperators.Group.List.Basic
import Mathlib.Algebra.Ring.Int.Defs
import Mathlib.Algebra.BigOperators.Group.Finset.Basic
import Mathlib.Algebra.Order.BigOperators.Group.Finset
import Mathlib.Data.Fintype.Basic

/-! # Running balances

Increments and decrements of a counter, in the order in which they happen. `StaysNonneg start moves`
says that a counter that starts at `start` is never negative along `moves`.
-/

namespace DisplayDrivers.Lib.Balance

/-- A counter that starts at `start` is not negative before, between and after its moves. -/
def StaysNonneg : Int → List Int → Prop
  | start, [] => 0 ≤ start
  | start, move :: rest => 0 ≤ start ∧ StaysNonneg (start + move) rest

@[simp] theorem staysNonneg_nil (start : Int) : StaysNonneg start [] ↔ 0 ≤ start := Iff.rfl

@[simp] theorem staysNonneg_cons (start move : Int) (rest : List Int) :
    StaysNonneg start (move :: rest) ↔ 0 ≤ start ∧ StaysNonneg (start + move) rest := Iff.rfl

instance decidableStaysNonneg : (start : Int) → (moves : List Int) →
    Decidable (StaysNonneg start moves)
  | start, [] => inferInstanceAs (Decidable (0 ≤ start))
  | start, move :: rest =>
    have := decidableStaysNonneg (start + move) rest
    inferInstanceAs (Decidable (0 ≤ start ∧ StaysNonneg (start + move) rest))

theorem StaysNonneg.start {start : Int} {moves : List Int} (h : StaysNonneg start moves) :
    0 ≤ start := by
  cases moves with
  | nil => exact h
  | cons move rest => exact h.1

theorem staysNonneg_append (start : Int) (front back : List Int) :
    StaysNonneg start (front ++ back) ↔
      StaysNonneg start front ∧ StaysNonneg (start + front.sum) back := by
  induction front generalizing start with
  | nil =>
    simp only [List.nil_append, staysNonneg_nil, List.sum_nil, add_zero]
    exact ⟨fun h => ⟨h.start, h⟩, fun h => h.2⟩
  | cons move rest ih => simp [ih, and_assoc, add_assoc]

end DisplayDrivers.Lib.Balance
