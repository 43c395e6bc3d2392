import Mathlib.Order.Interval.Finset.Nat
import Mathlib.Tactic.Ring

/-! # Places left out at a fixed rate

Items are put into places in their order, and after every `active` of them `dummy` places are left
out. The place of an item is a strictly increasing function whose values are the filled places;
between the places of two items lie as many places as there are items, and the dummies.
-/

namespace DisplayDrivers.Lib.Interleave

def place (active dummy item : ℕ) : ℕ := item % active + item / active * (active + dummy)

def Filled (active dummy k : ℕ) : Prop := k % (active + dummy) < active

instance (active dummy k : ℕ) : Decidable (Filled active dummy k) := Nat.decLt _ _

variable {active dummy : ℕ} (some : 0 < active)
include some

theorem place_mod (item : ℕ) : place active dummy item % (active + dummy) = item % active := by
  have small := Nat.mod_lt item some
  rw [place, Nat.add_mul_mod_self_right, Nat.mod_eq_of_lt (by omega)]

theorem filled_place (item : ℕ) : Filled active dummy (place active dummy item) := by
  rw [Filled, place_mod some]
  exact Nat.mod_lt item some

theorem exists_place {k : ℕ} (filled : Filled active dummy k) :
    ∃ item, place active dummy item = k := by
  refine ⟨k % (active + dummy) + k / (active + dummy) * active, ?_⟩
  rw [place, Nat.add_mul_mod_self_right, Nat.mod_eq_of_lt filled, Nat.add_mul_div_right _ _ some,
    Nat.div_eq_of_lt filled, Nat.zero_add, Nat.mul_comm, Nat.add_comm]
  exact Nat.div_add_mod k (active + dummy)

omit some in
theorem place_eq (item : ℕ) : place active dummy item = item + item / active * dummy := by
  have split := Nat.div_add_mod item active
  rw [Nat.mul_comm] at split
  rw [place, Nat.mul_add]
  omega

omit some in
theorem place_strictMono : StrictMono (place active dummy) := by
  intro first second before
  rw [place_eq, place_eq]
  have groups :=
    Nat.mul_le_mul_right dummy (Nat.div_le_div_right before.le : first / active ≤ second / active)
  omega

theorem place_lt {items places : ℕ} (rate : active * places = (active + dummy) * items) {item : ℕ}
    (within : item < items) : place active dummy item < places := by
  have groups : item / active * active ≤ item := Nat.div_mul_le_self item active
  refine Nat.lt_of_mul_lt_mul_left (a := active) ?_
  calc active * place active dummy item
      = active * item + item / active * active * dummy := by rw [place_eq]; ring
    _ ≤ active * item + item * dummy := Nat.add_le_add_left (Nat.mul_le_mul_right dummy groups) _
    _ = (active + dummy) * item := by ring
    _ < (active + dummy) * items := Nat.mul_lt_mul_of_pos_left within (by omega)
    _ = active * places := rate.symm

theorem span_eq (first last : ℕ) :
    place active dummy last + 1 - place active dummy first = (last + 1 - first) +
      ((Finset.Icc (place active dummy first) (place active dummy last)).filter
        fun k => ¬Filled active dummy k).card := by
  have filled : (Finset.Icc (place active dummy first) (place active dummy last)).filter
    (Filled active dummy) =
      (Finset.Icc first last).image (place active dummy) := by
    ext k
    rw [Finset.mem_filter, Finset.mem_image, Finset.mem_Icc]
    constructor
    · rintro ⟨⟨low, high⟩, at_item⟩
      obtain ⟨item, rfl⟩ := exists_place some at_item
      exact ⟨item, Finset.mem_Icc.mpr ⟨place_strictMono.le_iff_le.mp low,
        place_strictMono.le_iff_le.mp high⟩, rfl⟩
    · rintro ⟨item, member, rfl⟩
      obtain ⟨low, high⟩ := Finset.mem_Icc.mp member
      exact ⟨⟨place_strictMono.monotone low, place_strictMono.monotone high⟩,
        filled_place some item⟩
  have count := Finset.card_filter_add_card_filter_not (s := Finset.Icc (place active dummy first)
    (place active dummy last)) (Filled active dummy)
  rw [filled, Finset.card_image_of_injective _ place_strictMono.injective, Nat.card_Icc,
    Nat.card_Icc] at count
  exact count.symm

end DisplayDrivers.Lib.Interleave
