import Mathlib.Algebra.Group.Nat.Defs
import Mathlib.Data.List.Nodup
import Mathlib.Tactic.Common

/-! # Bit fields of a word

A register value is put together from fields: `place` shifts the value of a field to its position,
`extractLsb'` takes it out again. A field is read back from an OR of placed fields as the OR of what
each of them contributes: a field placed there contributes itself, one placed elsewhere nothing.
-/

namespace DisplayDrivers.Lib.Fields

variable {w n m lo hi : ℕ}

def place (w lo : ℕ) (x : BitVec n) : BitVec w := x.setWidth w <<< lo

theorem not_lt_bool (i k : ℕ) : (!decide (i < k)) = decide (k ≤ i) := by
  by_cases below : i < k
  · simp [below, Nat.not_le.mpr below]
  · simp [below, Nat.not_lt.mp below]

theorem getLsbD_place (x : BitVec n) (i : ℕ) :
    (place w lo x).getLsbD i = (decide (i < w) && decide (lo ≤ i) && x.getLsbD (i - lo)) := by
  rw [place, BitVec.getLsbD_shiftLeft, BitVec.getLsbD_setWidth, not_lt_bool]
  by_cases inside : i < w
  · have less : i - lo < w := by omega
    simp [inside, less]
  · simp [inside]

theorem extract_place_self (x : BitVec n) (fits : lo + n ≤ w) :
    (place w lo x).extractLsb' lo n = x := by
  ext i inside
  have below : lo + i < w := by omega
  rw [BitVec.getElem_extractLsb', getLsbD_place, Nat.add_sub_cancel_left]
  simp [below, ← BitVec.getLsbD_eq_getElem]

theorem extract_place_apart (x : BitVec n) (apart : lo + n ≤ hi ∨ hi + m ≤ lo) :
    (place w lo x).extractLsb' hi m = 0#m := by
  ext i inside
  rw [BitVec.getElem_extractLsb', getLsbD_place, BitVec.getElem_zero]
  cases apart with
  | inl before =>
    rw [BitVec.getLsbD_of_ge x (hi + i - lo) (by omega), Bool.and_false]
  | inr after =>
    have below : ¬lo ≤ hi + i := by omega
    simp [below]

theorem setWidth_setWidth_of_lt {x : BitVec w} (fits : x.toNat < 2 ^ n) :
    (x.setWidth n).setWidth w = x := by
  apply BitVec.eq_of_toNat_eq
  rw [BitVec.toNat_setWidth, BitVec.toNat_setWidth, Nat.mod_eq_of_lt fits,
    Nat.mod_eq_of_lt x.isLt]

variable {mask : BitVec w}

theorem and_mask_shiftLeft (ones : mask = (BitVec.allOnes n).setWidth w)
    (x : BitVec w) (lo : ℕ) : (x &&& mask) <<< lo = place w lo (x.setWidth n) := by
  apply BitVec.eq_of_getLsbD_eq
  intro i inside
  have less : i - lo < w := by omega
  rw [ones, getLsbD_place, BitVec.getLsbD_shiftLeft, BitVec.getLsbD_and, BitVec.getLsbD_setWidth,
    BitVec.getLsbD_setWidth, BitVec.getLsbD_allOnes, not_lt_bool]
  cases x.getLsbD (i - lo) with
  | false => simp
  | true => simp [inside, less]

theorem and_mask (ones : mask = (BitVec.allOnes n).setWidth w) (x : BitVec w) :
    x &&& mask = place w 0 (x.setWidth n) := by
  rw [← and_mask_shiftLeft ones x 0, BitVec.shiftLeft_zero]

/-! ## Single bits -/

theorem twoPow_ne_zero (inside : m < w) : BitVec.twoPow w m ≠ 0#w := by
  intro zero
  have bit : (BitVec.twoPow w m).getLsbD m = true := by simp [inside]
  rw [zero] at bit
  simp at bit

theorem and_twoPow_bne (x : BitVec w) (inside : m < w) :
    (x &&& BitVec.twoPow w m != 0#w) = x.getLsbD m := by
  rw [BitVec.and_twoPow]
  cases x.getLsbD m with
  | false => simp
  | true => simpa using twoPow_ne_zero inside

theorem and_twoPow_ne_zero (x : BitVec w) (inside : m < w) :
    x &&& BitVec.twoPow w m ≠ 0#w ↔ x.getLsbD m = true := by
  rw [← and_twoPow_bne x inside, bne_iff_ne]

/-! ## Positions told apart -/

def distinct (seen : ℕ) : List ℕ → Bool
  | [] => true
  | i :: rest => !seen.testBit i && distinct (seen ||| 2 ^ i) rest

variable {list : List ℕ}

theorem distinct_sound : ∀ {seen : ℕ}, distinct seen list = true →
    list.Nodup ∧ ∀ i ∈ list, seen.testBit i = false := by
  induction list with
  | nil =>
    intro seen _
    exact ⟨List.nodup_nil, by simp⟩
  | cons first rest ih =>
    intro seen new
    simp only [distinct, Bool.and_eq_true, Bool.not_eq_true'] at new
    obtain ⟨once, unseen⟩ := ih new.2
    have later : ∀ i ∈ rest, seen.testBit i = false ∧ i ≠ first := by
      intro i listed
      have both := unseen i listed
      rw [Nat.testBit_or, Bool.or_eq_false_iff] at both
      refine ⟨both.1, ?_⟩
      rintro rfl
      simp at both
    constructor
    · exact List.nodup_cons.mpr ⟨fun again => (later first again).2 rfl, once⟩
    · intro i listed
      cases listed with
      | head => exact new.1
      | tail _ listed => exact (later i listed).1

theorem nodup_of_distinct (new : distinct 0 list = true) : list.Nodup :=
  (distinct_sound new).1

/-- Checked in parts, so that no mask has more than `n` bits. -/
theorem nodup_of_distinct_parts (n k : ℕ) (bounded : ∀ i ∈ list, i / n < k)
    (parts : ∀ r < k, distinct 0 ((list.filter (· / n = r)).map (· % n)) = true) : list.Nodup := by
  refine List.nodup_iff_count_le_one.mpr fun i => ?_
  by_cases listed : i ∈ list
  · have part := (nodup_of_distinct (parts (i / n) (bounded i listed))).of_map _
    have once := List.nodup_iff_count_le_one.mp part i
    rwa [List.count_filter (by simp)] at once
  · rw [List.count_eq_zero.mpr listed]
    omega

end DisplayDrivers.Lib.Fields
