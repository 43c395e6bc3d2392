import Mathlib.Algebra.Order.Group.Nat
import Mathlib.Data.Nat.Log
import Mathlib.Tactic.Ring

/-! # Fixed-point numbers in words

A number `x` with `p` fraction bits stands for `x / 2 ^ p`. The numbers here are not negative.

What is dropped does not matter where one operand is a power of two and the other has zeros there
(`fixedMul_pow_exact`), or the result is cut to an integer anyway (`fixedMul_pow_div`).
-/

namespace DisplayDrivers.Lib.FixedPoint

variable {p m : ℕ}

def ofFraction (p a b : ℕ) : ℕ :=
  a * 2 ^ p / b + if b ≤ 2 * (a * 2 ^ p % b) then 1 else 0

def dropped (m a b : ℕ) : ℕ := Nat.log2 a + Nat.log2 b - m

def fixedMul (p m a b : ℕ) : ℕ :=
  a / 2 ^ (dropped m a b / 2 + dropped m a b % 2) * (b / 2 ^ (dropped m a b / 2)) *
    2 ^ dropped m a b / 2 ^ p

def fixedDiv (p m a b : ℕ) : ℕ :=
  a * 2 ^ (m + 1 - Nat.log2 a) / (b / 2 ^ (p - (m + 1 - Nat.log2 a))) /
    2 ^ (m + 1 - Nat.log2 a - p)

/-! ## Powers of two -/

theorem cut_scale_div {i k : ℕ} (a : ℕ) (low : i + k ≤ p) :
    a / 2 ^ i * 2 ^ (i + k) / 2 ^ p = a * 2 ^ k / 2 ^ p := by
  obtain ⟨d, rfl⟩ := Nat.exists_eq_add_of_le low
  have left : a / 2 ^ i * 2 ^ (i + k) / 2 ^ (i + k + d) = a / 2 ^ (i + d) := by
    rw [Nat.pow_add 2 (i + k) d, Nat.mul_comm, Nat.mul_div_mul_left _ _ (Nat.two_pow_pos _),
      Nat.div_div_eq_div_mul, ← Nat.pow_add]
  have right : a * 2 ^ k / 2 ^ (i + k + d) = a / 2 ^ (i + d) := by
    rw [show i + k + d = k + (i + d) by omega, Nat.pow_add 2 k (i + d), Nat.mul_comm,
      Nat.mul_div_mul_left _ _ (Nat.two_pow_pos _)]
  rw [left, right]

theorem two_pow_div {i k : ℕ} (low : i ≤ k) : 2 ^ k / 2 ^ i = 2 ^ (k - i) :=
  Nat.pow_div low (by omega)

theorem log2_le_of_lt {a n : ℕ} (small : a < 2 ^ (n + 1)) : Nat.log2 a ≤ n := by
  by_cases zero : a = 0
  · simp [zero]
  · have := (Nat.log2_lt zero).mpr small
    omega

/-! ## The operations on powers of two -/

@[simp] theorem ofFraction_one (n : ℕ) : ofFraction p n 1 = n * 2 ^ p := by
  simp [ofFraction, Nat.mod_one]

theorem ofFraction_bounds (p a : ℕ) {b : ℕ} (positive : 0 < b) :
    b * ofFraction p a b ≤ a * 2 ^ p + b ∧ a * 2 ^ p < b * ofFraction p a b + b := by
  have split := Nat.div_add_mod (a * 2 ^ p) b
  have low := Nat.mod_lt (a * 2 ^ p) positive
  unfold ofFraction
  by_cases up : b ≤ 2 * (a * 2 ^ p % b)
  · rw [if_pos up, Nat.mul_add, Nat.mul_one]
    omega
  · rw [if_neg up, Nat.add_zero]
    omega

theorem ofFraction_pow {k : ℕ} (n : ℕ) (low : k ≤ p) :
    ofFraction p n (2 ^ k) = n * 2 ^ (p - k) := by
  obtain ⟨d, rfl⟩ := Nat.exists_eq_add_of_le low
  have whole : n * 2 ^ (k + d) = n * 2 ^ d * 2 ^ k := by
    rw [Nat.pow_add]
    ring
  rw [ofFraction, whole, Nat.mul_mod_left, Nat.mul_div_cancel _ (Nat.two_pow_pos k),
    Nat.add_sub_cancel_left]
  simp

def lost (m a e : ℕ) : ℕ := (Nat.log2 a + e - m) / 2 + (Nat.log2 a + e - m) % 2

theorem lost_le {a n e c : ℕ} (small : a < 2 ^ (n + 1)) (room : n + e ≤ m + 2 * c) :
    lost m a e ≤ c := by
  have bits := log2_le_of_lt small
  unfold lost
  omega

theorem fixedMul_pow {a k : ℕ} (fits : (Nat.log2 a + (k + p) - m) / 2 ≤ k + p) :
    fixedMul p m a (2 ^ (k + p)) = a / 2 ^ lost m a (k + p) * 2 ^ (lost m a (k + p) + k) := by
  -- how much is dropped depends on the first operand only through its length
  have bits : dropped m a (2 ^ (k + p)) = Nat.log2 a + (k + p) - m := by
    rw [dropped, Nat.log2_two_pow]
  rw [fixedMul, bits, lost]
  generalize Nat.log2 a + (k + p) - m = s at fits
  obtain ⟨d, high⟩ := Nat.exists_eq_add_of_le fits
  have halves : s = s / 2 + s % 2 + s / 2 := by omega
  rw [high, two_pow_div (Nat.le_add_right _ _), Nat.add_sub_cancel_left]
  -- the bits the power loses come back with the scale
  have scale : 2 ^ d * 2 ^ s = 2 ^ (s / 2 + s % 2 + k) * 2 ^ p := by
    rw [← Nat.pow_add, ← Nat.pow_add]
    congr 1
    omega
  rw [Nat.mul_assoc, scale, ← Nat.mul_assoc, Nat.mul_div_cancel _ (Nat.two_pow_pos p)]

theorem fixedMul_pow_le {a k : ℕ} (fits : (Nat.log2 a + (k + p) - m) / 2 ≤ k + p) :
    fixedMul p m a (2 ^ (k + p)) ≤ a * 2 ^ k := by
  rw [fixedMul_pow fits, Nat.pow_add, ← Nat.mul_assoc]
  exact Nat.mul_le_mul_right _ (Nat.div_mul_le_self _ _)

theorem fixedMul_pow_exact {a k : ℕ} (fits : (Nat.log2 a + (k + p) - m) / 2 ≤ k + p)
    (zeros : 2 ^ lost m a (k + p) ∣ a) : fixedMul p m a (2 ^ (k + p)) = a * 2 ^ k := by
  rw [fixedMul_pow fits, Nat.pow_add, ← Nat.mul_assoc, Nat.div_mul_cancel zeros]

theorem fixedMul_int (a n : ℕ) (fits : dropped m a (n * 2 ^ p) / 2 ≤ p) :
    fixedMul p m a (n * 2 ^ p) =
      a / 2 ^ (dropped m a (n * 2 ^ p) / 2 + dropped m a (n * 2 ^ p) % 2) *
        2 ^ (dropped m a (n * 2 ^ p) / 2 + dropped m a (n * 2 ^ p) % 2) * n := by
  rw [fixedMul]
  generalize dropped m a (n * 2 ^ p) = s at fits
  obtain ⟨d, high⟩ := Nat.exists_eq_add_of_le fits
  have halves : s = s / 2 + s % 2 + s / 2 := by omega
  have cut : n * 2 ^ p / 2 ^ (s / 2) = n * 2 ^ d := by
    rw [high, Nat.pow_add, Nat.mul_left_comm, Nat.mul_div_cancel_left _ (Nat.two_pow_pos _)]
  have scale : 2 ^ d * 2 ^ s = 2 ^ (s / 2 + s % 2) * 2 ^ p := by
    rw [← Nat.pow_add, ← Nat.pow_add]
    congr 1
    omega
  rw [cut, Nat.mul_assoc, Nat.mul_assoc n, scale, ← Nat.mul_assoc n, ← Nat.mul_assoc,
    ← Nat.mul_assoc,
    Nat.mul_div_cancel _ (Nat.two_pow_pos p)]
  ring

theorem fixedMul_int_left (a b : ℕ)
    (fits : dropped m (a * 2 ^ p) b / 2 + dropped m (a * 2 ^ p) b % 2 ≤ p) :
    fixedMul p m (a * 2 ^ p) b =
      a * (b / 2 ^ (dropped m (a * 2 ^ p) b / 2) * 2 ^ (dropped m (a * 2 ^ p) b / 2)) := by
  rw [fixedMul]
  generalize dropped m (a * 2 ^ p) b = s at fits
  obtain ⟨d, high⟩ := Nat.exists_eq_add_of_le fits
  have cut : a * 2 ^ p / 2 ^ (s / 2 + s % 2) = a * 2 ^ d := by
    rw [high, Nat.pow_add, Nat.mul_left_comm, Nat.mul_div_cancel_left _ (Nat.two_pow_pos _)]
  have scale : 2 ^ d * 2 ^ s = 2 ^ (s / 2) * 2 ^ p := by
    rw [← Nat.pow_add, ← Nat.pow_add]
    congr 1
    omega
  have split : a * 2 ^ d * (b / 2 ^ (s / 2)) * 2 ^ s = a *
    (b / 2 ^ (s / 2) * (2 ^ d * 2 ^ s)) := by ring
  rw [cut, split, scale, ← Nat.mul_assoc, ← Nat.mul_assoc, Nat.mul_div_cancel _ (Nat.two_pow_pos p),
    Nat.mul_assoc]

theorem fixedMul_ints (a b : ℕ)
    (fits : dropped m (a * 2 ^ p) (b * 2 ^ p) / 2 + dropped m (a * 2 ^ p) (b * 2 ^ p) % 2 ≤ p) :
    fixedMul p m (a * 2 ^ p) (b * 2 ^ p) = a * b * 2 ^ p := by
  rw [fixedMul_int_left a _ fits, Nat.div_mul_cancel, Nat.mul_assoc]
  exact Dvd.dvd.mul_left (pow_dvd_pow 2 (by omega)) b

theorem fixedMul_pow_div {a k : ℕ} (fits : (Nat.log2 a + (k + p) - m) / 2 ≤ k + p)
    (low : lost m a (k + p) + k ≤ p) :
    fixedMul p m a (2 ^ (k + p)) / 2 ^ p = a * 2 ^ k / 2 ^ p := by
  rw [fixedMul_pow fits, cut_scale_div a low]

theorem fixedDiv_pow (c k : ℕ) : fixedDiv p m (c * 2 ^ k) (2 ^ (k + p)) = c := by
  rw [fixedDiv]
  generalize m + 1 - Nat.log2 (c * 2 ^ k) = s
  -- the dividend is moved up by `s`; where that is less than `p`, the divisor is moved down
  by_cases low : s ≤ p
  · obtain ⟨d, rfl⟩ := Nat.exists_eq_add_of_le low
    have divisor : 2 ^ (k + (s + d)) / 2 ^ (s + d - s) = 2 ^ (k + s) := by
      rw [two_pow_div (by omega)]
      congr 1
      omega
    rw [divisor, Nat.mul_assoc, ← Nat.pow_add, Nat.mul_div_cancel _ (Nat.two_pow_pos _),
      show s - (s + d) = 0 by omega, Nat.pow_zero, Nat.div_one]
  · obtain ⟨d, rfl⟩ := Nat.exists_eq_add_of_le (Nat.le_of_not_le low)
    have dividend : c * 2 ^ k * 2 ^ (p + d) = c * 2 ^ d * 2 ^ (k + p) := by
      rw [Nat.pow_add 2 p d, Nat.pow_add 2 k p]
      ring
    rw [show p - (p + d) = 0 by omega, Nat.pow_zero, Nat.div_one, dividend,
      Nat.mul_div_cancel _ (Nat.two_pow_pos _), Nat.add_sub_cancel_left,
      Nat.mul_div_cancel _ (Nat.two_pow_pos _)]

end DisplayDrivers.Lib.FixedPoint
