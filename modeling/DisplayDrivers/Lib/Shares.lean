import Mathlib.Algebra.BigOperators.Group.List.Basic
import Mathlib.Algebra.Ring.Int.Defs
import Mathlib.Algebra.BigOperators.Group.Finset.Basic
import Mathlib.Algebra.Order.BigOperators.Group.Finset
import Mathlib.Data.Fintype.Basic

/-! # Counts that several parties share

Finitely many parties, each with a state of its own; what they hold of an item is counted in its
states. A step of one party changes the total by what it changes itself (`total_update`).  An item
is held `Alone` if at most one party has any of it, and a party that takes some of an item keeps it
so exactly when it has some already or nobody has (`Alone.update`, `not_alone_update`).
-/

namespace DisplayDrivers.Lib.Shares

variable {ι σ κ : Type*} [Fintype ι] [DecidableEq ι]

def total (held : σ → ℕ) (parties : ι → σ) : ℕ := ∑ i, held (parties i)

def Alone (held : σ → κ → ℕ) (parties : ι → σ) : Prop :=
  ∀ k i j, 0 < held (parties i) k → 0 < held (parties j) k → i = j

variable {held : σ → ℕ} {parties : ι → σ}

theorem total_update (held : σ → ℕ) (parties : ι → σ) (i : ι) (next : σ) :
    total held (Function.update parties i next) + held (parties i) =
    total held parties + held next := by
  have split := Finset.sum_erase_add Finset.univ (fun j => held (parties j)) (Finset.mem_univ i)
  have split' := Finset.sum_erase_add Finset.univ
    (fun j => held (Function.update parties i next j)) (Finset.mem_univ i)
  have others : ∑ j ∈ Finset.univ.erase i, held (Function.update parties i next j) =
      ∑ j ∈ Finset.univ.erase i, held (parties j) := by
    refine Finset.sum_congr rfl fun j member => ?_
    rw [Function.update_of_ne (Finset.ne_of_mem_erase member)]
  rw [Function.update_self] at split'
  rw [total, total]
  omega

omit [DecidableEq ι] in
theorem le_total (held : σ → ℕ) (parties : ι → σ) (i : ι) : held (parties i) ≤ total held parties :=
  Finset.single_le_sum (f := fun j => held (parties j)) (fun _ _ => Nat.zero_le _)
    (Finset.mem_univ i)

omit [DecidableEq ι] in
theorem total_eq_zero : total held parties = 0 ↔ ∀ i, held (parties i) = 0 := by
  rw [total, Finset.sum_eq_zero_iff]
  simp

theorem exists_other {i : ι} (none : held (parties i) = 0) (some : 0 < total held parties) :
    ∃ j, j ≠ i ∧ 0 < held (parties j) := by
  by_contra nobody
  have all : ∀ j, held (parties j) = 0 := by
    intro j
    by_cases same : j = i
    · rw [same, none]
    · by_contra has
      exact nobody ⟨j, same, Nat.pos_of_ne_zero has⟩
  rw [total_eq_zero.mpr all] at some
  exact lt_irrefl 0 some

section Items

variable {held : σ → κ → ℕ} {i : ι} {next : σ}

theorem Alone.update (alone : Alone held parties)
    (takes : ∀ k, 0 < held next k → 0 < held (parties i) k ∨ total (held · k) parties = 0) :
    Alone held (Function.update parties i next) := by
  -- what the party has afterwards, no other has
  have mine : ∀ k j, 0 < held next k → j ≠ i → held (parties j) k = 0 := by
    intro k j has other
    by_contra others
    cases takes k has with
    | inl before => exact other (alone k j i (Nat.pos_of_ne_zero others) before)
    | inr nobody => exact others (total_eq_zero.mp nobody j)
  intro k j j' has has'
  by_cases same : j = i
  · by_cases same' : j' = i
    · rw [same, same']
    · rw [same, Function.update_self] at has
      rw [Function.update_of_ne same', mine k j' has same'] at has'
      exact absurd has' (lt_irrefl 0)
  · by_cases same' : j' = i
    · rw [same', Function.update_self] at has'
      rw [Function.update_of_ne same, mine k j has' same] at has
      exact absurd has (lt_irrefl 0)
    · rw [Function.update_of_ne same] at has
      rw [Function.update_of_ne same'] at has'
      exact alone k j j' has has'

theorem not_alone_update {k : κ} (takes : 0 < held next k) (none : held (parties i) k = 0)
    (some : 0 < total (held · k) parties) : ¬Alone held (Function.update parties i next) := by
  intro alone
  obtain ⟨j, other, has⟩ := exists_other none some
  refine other (alone k j i ?_ ?_)
  · rw [Function.update_of_ne other]
    exact has
  · rw [Function.update_self]
    exact takes

end Items

end DisplayDrivers.Lib.Shares
