import Mathlib.Data.BitVec

/-! # Serial-number arithmetic

Free-running counters of `w + 1` bits are compared by the sign of their difference, so the order
survives wrap-around as long as the two are less than half the range apart.
-/

namespace DisplayDrivers.Lib.Serial

variable {w : Nat}

def ahead (a b : BitVec (w + 1)) : Int := (a - b).toInt

def lead (a b : BitVec (w + 1)) : Nat := (a - b).toNat

@[simp] theorem lead_self (a : BitVec (w + 1)) : lead a a = 0 := by simp [lead]

@[simp] theorem ahead_self (a : BitVec (w + 1)) : ahead a a = 0 := by simp [ahead]

theorem lead_eq_zero_iff {a b : BitVec (w + 1)} : lead a b = 0 ↔ a = b := by
  constructor
  · intro h
    have zero : a - b = 0#(w + 1) := BitVec.eq_of_toNat_eq (by simpa [lead] using h)
    exact sub_eq_zero.mp zero
  · rintro rfl
    exact lead_self a

theorem ahead_eq_lead {a b : BitVec (w + 1)} (near : lead a b < 2 ^ w) :
    ahead a b = lead a b := by
  have double : 2 ^ (w + 1) = 2 * 2 ^ w := by rw [Nat.pow_succ, Nat.mul_comm]
  unfold ahead lead at *
  rw [BitVec.toInt_eq_toNat_cond, if_pos (by omega)]

theorem ahead_nonneg {a b : BitVec (w + 1)} (near : lead a b < 2 ^ w) : 0 ≤ ahead a b := by
  rw [ahead_eq_lead near]
  exact Int.natCast_nonneg _

theorem ahead_swap_neg_iff {a b : BitVec (w + 1)} (near : lead a b < 2 ^ w) :
    ahead b a < 0 ↔ a ≠ b := by
  have double : 2 ^ (w + 1) = 2 * 2 ^ w := by rw [Nat.pow_succ, Nat.mul_comm]
  have swap : b - a = -(a - b) := (neg_sub a b).symm
  constructor
  · rintro negative rfl
    simp at negative
  · intro differ
    have positive : 0 < lead a b := Nat.pos_of_ne_zero (mt lead_eq_zero_iff.mp differ)
    unfold ahead lead at *
    have bound := (a - b).isLt
    -- a positive lead below `2 ^ w` has its negation in the upper half, so the sign bit is set
    rw [swap, BitVec.toInt_eq_toNat_cond, BitVec.toNat_neg,
      Nat.mod_eq_of_lt (by omega), if_neg (by omega), Int.ofNat_sub bound.le]
    omega

theorem lead_succ_left {a b : BitVec (w + 1)} (room : lead a b + 1 < 2 ^ (w + 1)) :
    lead (a + 1#(w + 1)) b = lead a b + 1 := by
  have one : (1#(w + 1)).toNat = 1 := by
    rw [BitVec.toNat_ofNat]
    exact Nat.mod_eq_of_lt (Nat.one_lt_two_pow (by omega))
  have shift : a + 1#(w + 1) - b = a - b + 1#(w + 1) := add_sub_right_comm a _ b
  unfold lead at *
  rw [shift, BitVec.toNat_add, one, Nat.mod_eq_of_lt room]

theorem lead_succ_right {a b : BitVec (w + 1)} (differ : a ≠ b) :
    lead a (b + 1#(w + 1)) = lead a b - 1 := by
  have positive : 0 < lead a b := Nat.pos_of_ne_zero (mt lead_eq_zero_iff.mp differ)
  have one : (1#(w + 1)).toNat = 1 := by
    rw [BitVec.toNat_ofNat]
    exact Nat.mod_eq_of_lt (Nat.one_lt_two_pow (by omega))
  have shift : a - (b + 1#(w + 1)) = a - b - 1#(w + 1) := (sub_sub a b _).symm
  unfold lead at *
  rw [shift, BitVec.toNat_sub_of_le (by rw [BitVec.le_def, one]; omega), one]

theorem ahead_succ_self (hw : 0 < w) (a : BitVec (w + 1)) : ahead (a + 1#(w + 1)) a = 1 := by
  have big : 1 < 2 ^ w := Nat.one_lt_two_pow (by omega)
  have double : 2 ^ (w + 1) = 2 * 2 ^ w := by rw [Nat.pow_succ, Nat.mul_comm]
  have one : lead (a + 1#(w + 1)) a = 1 := by
    rw [lead_succ_left (by rw [lead_self]; omega), lead_self]
  rw [ahead_eq_lead (by omega), one]
  rfl

theorem ahead_ofNat {a b : ℕ} (low : b ≤ a + 2 ^ w) (high : a < b + 2 ^ w) :
    ahead (BitVec.ofNat (w + 1) a) (BitVec.ofNat (w + 1) b) = (a : Int) - b := by
  have double : 2 ^ (w + 1) = 2 * 2 ^ w := by rw [Nat.pow_succ, Nat.mul_comm]
  unfold ahead
  rw [BitVec.toInt_sub, BitVec.toInt_ofNat', BitVec.toInt_ofNat', Int.bmod_sub_bmod,
    Int.sub_bmod_bmod]
  apply Int.bmod_eq_of_le_mul_two
  · omega
  · omega

end DisplayDrivers.Lib.Serial
