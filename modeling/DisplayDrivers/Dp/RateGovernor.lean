import DisplayDrivers.Dp.Ctrl
import DisplayDrivers.Lib.FixedPoint

/-! # The rate governor of an MST stream (`msm/dp/dp_ctrl.c`)

`dp_ctrl_mst_calculate_rg` turns the number of time slots a stream needs into the symbols it sends
in each: an integer part and a fraction in units of 1/256.

The operations of `drm/drm_fixed.h` come from the kernel and are a parameter.
-/

namespace DisplayDrivers.Dp.RateGovernor

open DisplayDrivers.Lib.FixedPoint

abbrev U64 := BitVec 64

/-- The functions of `drm/drm_fixed.h`: an `s64` is a word, an `int` one of 32 bits. -/
structure DrmFixed where
  fixp2int : U64 → U32
  fixp2intCeil : U64 → U32
  fromFraction : U64 → U64 → U64
  mul : U64 → U64 → U64
  div : U64 → U64 → U64

structure DrmFixed.Lawful (drm : DrmFixed) : Prop where
  fixp2int : ∀ a, a.toNat < 2 ^ 63 → (drm.fixp2int a).toNat = a.toNat / 2 ^ 32
  fixp2intCeil : ∀ a, 0 < a.toNat → a.toNat + (2 ^ 32 - 1) < 2 ^ 63 →
    (drm.fixp2intCeil a).toNat = (a.toNat + (2 ^ 32 - 1)) / 2 ^ 32
  fromFraction : ∀ a b, a.toNat < 2 ^ 63 → 0 < b.toNat → b.toNat < 2 ^ 63 →
    ofFraction 32 a.toNat b.toNat < 2 ^ 63 →
    (drm.fromFraction a b).toNat = ofFraction 32 a.toNat b.toNat
  mul : ∀ a b, a.toNat < 2 ^ 63 → b.toNat < 2 ^ 63 → fixedMul 32 61 a.toNat b.toNat < 2 ^ 63 →
    (drm.mul a b).toNat = fixedMul 32 61 a.toNat b.toNat
  div : ∀ a b, a.toNat < 2 ^ 63 → b.toNat < 2 ^ 63 →
    0 < b.toNat / 2 ^ (32 - (62 - Nat.log2 a.toNat)) →
    fixedDiv 32 61 a.toNat b.toNat < 2 ^ 63 →
    (drm.div a b).toNat = fixedDiv 32 61 a.toNat b.toNat

/-- What the function reads of `struct dp_panel`. -/
structure DpPanel where
  pixelClkKhz : U32
  bpp : U32
  rate : U32
  numLanes : U32
  pbn : U32
  compRatio : U32
  dscBpp : U32
  dscOverheadFp : U64
  fecOverheadFp : U64

structure RgConfig where
  xInt : U32
  yFracEnum : U32

section Code
variable (drm : DrmFixed)

/-- `raw_target_sc` with its overheads. -/
def rawTargetSc (panel : DpPanel) : U64 :=
  let pclk := panel.pixelClkKhz.setWidth 64
  let lclk := panel.rate.setWidth 64
  let lanes := panel.numLanes.setWidth 64
  let pbn := panel.pbn.setWidth 64
  let bpp := if panel.compRatio ≠ 0 then panel.dscBpp.signExtend 64 else panel.bpp.setWidth 64
  let minSlotCnt := drm.fromFraction (pclk * bpp * 64 * 1000) (lclk * lanes * 8 * 1000)
  let maxSlotCnt := drm.fromFraction (pbn * 54 * 1000) (lclk * lanes)
  let raw := drm.div (maxSlotCnt + minSlotCnt) (drm.fromFraction 2 1)
  let raw := if panel.dscOverheadFp ≠ 0 then drm.mul raw panel.dscOverheadFp else raw
  if panel.fecOverheadFp ≠ 0 then drm.mul raw panel.fecOverheadFp else raw

/-- `ts_int`, from `target_sc_fixp`. -/
def tsInt (lanes raw : U64) : U64 :=
  let numerator := drm.mul raw (drm.fromFraction (256 * lanes) 1)
  let target := drm.div numerator (drm.fromFraction (256 * lanes) 1)
  (drm.fixp2int target).signExtend 64

def tsEnum (lanes raw : U64) : U64 :=
  let tsDenom := drm.fromFraction (256 * lanes) 1
  if (drm.fixp2intCeil raw).signExtend 64 ≠ tsInt drm lanes raw then
    let frac := raw - drm.fromFraction (tsInt drm lanes raw) 1
    (drm.fixp2int (drm.mul frac tsDenom)).signExtend 64
  else 0

def targetStrmSym (lanes raw : U64) : U64 :=
  let tsDenom := drm.fromFraction (256 * lanes) 1
  let tsIntFixp := drm.fromFraction (tsInt drm lanes raw) 1
  let tsFracFixp :=
    drm.fromFraction (tsEnum drm lanes raw) ((drm.fixp2int tsDenom).signExtend 64)
  drm.mul (tsIntFixp + tsFracFixp) (drm.fromFraction lanes 1)

/-- `x_int` and `y_frac_enum`, from `target_strm_sym`. -/
def encodeStrmSym (strmSym : U64) : RgConfig :=
  let xInt := drm.fixp2int strmSym
  let frac := strmSym - drm.fromFraction (xInt.setWidth 64) 1
  let yFracEnumFixp := drm.mul frac (drm.fromFraction 256 1)
  let floor := (drm.fixp2int yFracEnumFixp).signExtend 64
  let ceil := if yFracEnumFixp ≠ 0 then (drm.fixp2intCeil yFracEnumFixp).signExtend 64 else 0
  { xInt, yFracEnum := (if floor = ceil then floor else floor + 1).setWidth 32 }

def dpCtrlMstCalculateRg (panel : DpPanel) : RgConfig :=
  encodeStrmSym drm (targetStrmSym drm (panel.numLanes.setWidth 64) (rawTargetSc drm panel))

end Code

/-! ## The functions on small numbers -/

section Numbers
variable {drm : DrmFixed}

theorem toNat_signExtend_of_small {n : U32} (small : n.toNat < 2 ^ 31) :
    (n.signExtend 64).toNat = n.toNat := by
  have positive : n.msb = false := by
    rw [BitVec.msb_eq_false_iff_two_mul_lt]
    omega
  rw [BitVec.signExtend_eq_setWidth_of_msb_false positive, BitVec.toNat_setWidth]
  omega

variable {a : U64}

section

variable (lawful : drm.Lawful)

include lawful

theorem toNat_fixp2int (small : a.toNat < 2 ^ 63) :
    ((drm.fixp2int a).signExtend 64).toNat = a.toNat / 2 ^ 32 := by
  have value := lawful.fixp2int a small
  rw [toNat_signExtend_of_small (by omega), value]

theorem toNat_fixp2intCeil (positive : 0 < a.toNat) (small : a.toNat + (2 ^ 32 - 1) < 2 ^ 63) :
    ((drm.fixp2intCeil a).signExtend 64).toNat = (a.toNat + (2 ^ 32 - 1)) / 2 ^ 32 := by
  have value := lawful.fixp2intCeil a positive small
  rw [toNat_signExtend_of_small (by omega), value]

theorem toNat_fromInt {n : U64} (small : n.toNat < 2 ^ 31) :
    (drm.fromFraction n 1).toNat = n.toNat * 2 ^ 32 := by
  have one : (1 : U64).toNat = 1 := rfl
  have value := lawful.fromFraction n 1 (by omega) (by decide) (by decide)
    (by rw [one, ofFraction_one]; omega)
  rw [value, one, ofFraction_one]

theorem toNat_fromInt_pow {n : U64} {k : ℕ} (power : n.toNat = 2 ^ k)
    (small : k ≤ 10) : (drm.fromFraction n 1).toNat = 2 ^ (k + 32) := by
  have bound : 2 ^ k ≤ 2 ^ 10 := Nat.pow_le_pow_right (by omega) small
  rw [toNat_fromInt lawful (by omega), power, ← Nat.pow_add]

theorem toNat_mul_pow {b : U64} {n k : ℕ} (small : a.toNat < 2 ^ (n + 1))
    (power : b.toNat = 2 ^ (k + 32)) (room : n + k ≤ 60) (low : k ≤ 10) :
    (drm.mul a b).toNat = fixedMul 32 61 a.toNat (2 ^ (k + 32)) ∧
      (Nat.log2 a.toNat + (k + 32) - 61) / 2 ≤ k + 32 ∧ (drm.mul a b).toNat ≤ a.toNat * 2 ^ k ∧
      a.toNat * 2 ^ k < 2 ^ 62 := by
  have bits := log2_le_of_lt small
  have fits : (Nat.log2 a.toNat + (k + 32) - 61) / 2 ≤ k + 32 := by omega
  have below := @fixedMul_pow_le 32 61 a.toNat k fits
  have scaled : a.toNat * 2 ^ k < 2 ^ 62 :=
    calc a.toNat * 2 ^ k < 2 ^ (n + 1) * 2 ^ k :=
          Nat.mul_lt_mul_of_pos_right small (Nat.two_pow_pos k)
      _ = 2 ^ (n + 1 + k) := (Nat.pow_add 2 (n + 1) k).symm
      _ ≤ 2 ^ 62 := Nat.pow_le_pow_right (by omega) (by omega)
  have first : a.toNat < 2 ^ 63 :=
    Nat.lt_of_lt_of_le small (Nat.pow_le_pow_right (by omega) (by omega))
  have second : b.toNat < 2 ^ 63 := by
    rw [power]
    exact Nat.pow_lt_pow_right (by omega) (by omega)
  have value := lawful.mul a b first second (by rw [power]; omega)
  rw [power] at value
  exact ⟨value, fits, by omega, scaled⟩

theorem toNat_mul_exact {b : U64} {n k c : ℕ}
    (small : a.toNat < 2 ^ (n + 1)) (power : b.toNat = 2 ^ (k + 32)) (room : n + k ≤ 60)
    (low : k ≤ 10) (enough : n + k ≤ 29 + 2 * c) (zeros : 2 ^ c ∣ a.toNat) :
    (drm.mul a b).toNat = a.toNat * 2 ^ k := by
  obtain ⟨product, fits, -, -⟩ := toNat_mul_pow lawful small power room low
  have cut : lost 61 a.toNat (k + 32) ≤ c := lost_le small (by omega)
  rw [product, fixedMul_pow_exact fits ((pow_dvd_pow 2 cut).trans zeros)]

theorem toNat_ceil_of_int {n : ℕ} (int : a.toNat = n * 2 ^ 32) (small : n < 2 ^ 30) :
    (if a ≠ 0 then (drm.fixp2intCeil a).signExtend 64 else 0).toNat = n := by
  split
  case isTrue some =>
    have positive : 0 < a.toNat := Nat.pos_of_ne_zero fun zero => some (BitVec.eq_of_toNat_eq zero)
    rw [toNat_fixp2intCeil lawful positive (by omega)]
    omega
  case isFalse none =>
    have zero : a.toNat = 0 := by rw [not_not.mp none]; rfl
    show 0 = n
    omega

end

end Numbers

/-! ## The slots, split and put together -/

section Slots
variable {drm : DrmFixed} {lanes raw : U64} {l : ℕ}

theorem toNat_scale (power : lanes.toNat = 2 ^ l) (few : l ≤ 2) :
    (256 * lanes).toNat = 2 ^ (8 + l) := by
  have bound : 2 ^ l ≤ 2 ^ 2 := Nat.pow_le_pow_right (by omega) few
  rw [BitVec.toNat_mul, power, Nat.pow_add]
  exact Nat.mod_eq_of_lt (show 2 ^ 8 * 2 ^ l < 2 ^ 64 by omega)

theorem toNat_tsInt (lawful : drm.Lawful) (power : lanes.toNat = 2 ^ l) (few : l ≤ 2)
    (slots : raw.toNat < 2 ^ 38) :
    (tsInt drm lanes raw).toNat = raw.toNat / 2 ^ 32 := by
  have scale := toNat_fromInt_pow lawful (toNat_scale power few) (by omega)
  obtain ⟨product, fits, -, -⟩ := toNat_mul_pow lawful (n := 37) slots scale (by omega) (by omega)
  have cut : lost 61 raw.toNat (8 + l + 32) ≤ 9 := lost_le slots (by omega)
  rw [fixedMul_pow fits, Nat.pow_add, ← Nat.mul_assoc] at product
  -- the scaled number is `c * 2 ^ (8 + l)`, where `c` has lost its low bits; dividing gives `c`
  have below := Nat.div_mul_le_self raw.toNat (2 ^ lost 61 raw.toNat (8 + l + 32))
  have whole := @cut_scale_div 32 (lost 61 raw.toNat (8 + l + 32)) 0 raw.toNat (by omega)
  rw [Nat.add_zero, Nat.pow_zero, Nat.mul_one] at whole
  generalize raw.toNat / 2 ^ lost 61 raw.toNat (8 + l + 32) *
    2 ^ lost 61 raw.toNat (8 + l + 32) = c at product below whole
  have high : c * 2 ^ (8 + l) < 2 ^ 63 :=
    calc c * 2 ^ (8 + l) ≤ c * 2 ^ 10 :=
          Nat.mul_le_mul_left c (Nat.pow_le_pow_right (by omega) (by omega))
      _ < 2 ^ 63 := by omega
  have divisor : 0 < 2 ^ (8 + l + 32) / 2 ^ (32 - (62 - Nat.log2 (c * 2 ^ (8 + l)))) := by
    rw [two_pow_div (by omega)]
    exact Nat.two_pow_pos _
  have quotient := lawful.div (drm.mul raw (drm.fromFraction (256 * lanes) 1))
    (drm.fromFraction (256 * lanes) 1) (by rw [product]; exact high)
    (by rw [scale]; exact Nat.pow_lt_pow_right (by omega) (by omega))
    (by rw [product, scale]; exact divisor)
    (by rw [product, scale, fixedDiv_pow]; omega)
  rw [product, scale, fixedDiv_pow] at quotient
  rw [tsInt, toNat_fixp2int lawful (by rw [quotient]; omega), quotient, whole]

theorem toNat_sub_fromInt (lawful : drm.Lawful) {x n : U64} (small : x.toNat < 2 ^ 63)
    (whole : n.toNat = x.toNat / 2 ^ 32) :
    (x - drm.fromFraction n 1).toNat = x.toNat % 2 ^ 32 := by
  have int := toNat_fromInt lawful (n := n) (by omega)
  have below : drm.fromFraction n 1 ≤ x := by
    rw [BitVec.le_def, int, whole]
    exact Nat.div_mul_le_self _ _
  rw [BitVec.toNat_sub_of_le below, int, whole]
  omega

theorem toNat_tsEnum (lawful : drm.Lawful) (power : lanes.toNat = 2 ^ l) (few : l ≤ 2)
    (slots : raw.toNat < 2 ^ 38) :
    (tsEnum drm lanes raw).toNat = raw.toNat % 2 ^ 32 * 2 ^ (8 + l) / 2 ^ 32 := by
  have int := toNat_tsInt lawful power few slots
  have scale := toNat_fromInt_pow lawful (toNat_scale power few) (by omega)
  have frac := toNat_sub_fromInt lawful (x := raw) (by omega) int
  have small : raw.toNat % 2 ^ 32 < 2 ^ 32 := Nat.mod_lt _ (by omega)
  simp only [tsEnum]
  split
  case isTrue computed =>
    -- what the product loses is below the unit
    obtain ⟨product, fits, low, high⟩ := toNat_mul_pow lawful (n := 31)
      (a := raw - drm.fromFraction (tsInt drm lanes raw) 1) (by omega) scale (by omega) (by omega)
    have cut : lost 61 (raw - drm.fromFraction (tsInt drm lanes raw) 1).toNat (8 + l + 32) ≤ 6 :=
      lost_le (n := 31) (by omega) (by omega)
    rw [toNat_fixp2int lawful (by omega), product, fixedMul_pow_div fits (by omega), frac]
  case isFalse same =>
    -- the number is an integer, or 0
    have zero : raw.toNat % 2 ^ 32 = 0 := by
      by_cases none : raw.toNat = 0
      · omega
      · have ceil := toNat_fixp2intCeil lawful (a := raw) (by omega) (by omega)
        have equal := congrArg BitVec.toNat (not_not.mp same)
        rw [ceil, int] at equal
        omega
    rw [zero]
    simp

def slotUnits (l : ℕ) (raw : U64) : ℕ := raw.toNat * 2 ^ (8 + l) / 2 ^ 32

theorem slotUnits_lt (slots : raw.toNat < 2 ^ 38) (few : l ≤ 2) : slotUnits l raw < 2 ^ 16 := by
  have scaled : raw.toNat * 2 ^ (8 + l) ≤ raw.toNat * 2 ^ 10 :=
    Nat.mul_le_mul_left _ (Nat.pow_le_pow_right (by omega) (by omega))
  unfold slotUnits
  omega

theorem slotUnits_eq (few : l ≤ 2) :
    raw.toNat / 2 ^ 32 * 2 ^ 32 + raw.toNat % 2 ^ 32 * 2 ^ (8 + l) / 2 ^ 32 * 2 ^ (32 - (8 + l)) =
      slotUnits l raw * 2 ^ (24 - l) := by
  unfold slotUnits
  obtain rfl | rfl | rfl : l = 0 ∨ l = 1 ∨ l = 2 := by omega
  all_goals
    simp only [Nat.reduceAdd, Nat.reduceSub, Nat.reducePow]
    omega

theorem slotUnits_le (few : l ≤ 2) : slotUnits l raw * 2 ^ (24 - l) ≤ raw.toNat := by
  unfold slotUnits
  obtain rfl | rfl | rfl : l = 0 ∨ l = 1 ∨ l = 2 := by omega
  all_goals
    simp only [Nat.reduceAdd, Nat.reduceSub, Nat.reducePow]
    omega

theorem toNat_tsFracFixp (lawful : drm.Lawful) (power : lanes.toNat = 2 ^ l) (few : l ≤ 2)
    (slots : raw.toNat < 2 ^ 38) :
    (drm.fromFraction (tsEnum drm lanes raw)
      ((drm.fixp2int (drm.fromFraction (256 * lanes) 1)).signExtend 64)).toNat =
      raw.toNat % 2 ^ 32 * 2 ^ (8 + l) / 2 ^ 32 * 2 ^ (32 - (8 + l)) := by
  have units := toNat_tsEnum lawful power few slots
  have scale := toNat_fromInt_pow lawful (toNat_scale power few) (by omega)
  have bound : 2 ^ (8 + l) ≤ 2 ^ 10 := Nat.pow_le_pow_right (by omega) (by omega)
  have denom : ((drm.fixp2int (drm.fromFraction (256 * lanes) 1)).signExtend 64).toNat =
      2 ^ (8 + l) := by
    rw [toNat_fixp2int lawful (by rw [scale, Nat.pow_add]; omega), scale, Nat.pow_add,
      Nat.mul_div_cancel _ (Nat.two_pow_pos 32)]
  have whole := @slotUnits_eq raw l few
  have below := @slotUnits_le raw l few
  have positive := Nat.two_pow_pos (8 + l)
  have value := lawful.fromFraction (tsEnum drm lanes raw)
    ((drm.fixp2int (drm.fromFraction (256 * lanes) 1)).signExtend 64)
    (by
      have scaled : raw.toNat % 2 ^ 32 * 2 ^ (8 + l) ≤ 2 ^ 32 * 2 ^ 10 :=
        Nat.mul_le_mul (Nat.le_of_lt (Nat.mod_lt _ (by omega))) bound
      omega)
    (by omega) (by omega)
    (by rw [denom, ofFraction_pow _ (by omega), units]; omega)
  rw [value, denom, ofFraction_pow _ (by omega), units]

theorem toNat_targetStrmSym (lawful : drm.Lawful) (power : lanes.toNat = 2 ^ l) (few : l ≤ 2)
    (slots : raw.toNat < 2 ^ 38) :
    (targetStrmSym drm lanes raw).toNat = slotUnits l raw * 2 ^ 24 := by
  have int := toNat_tsInt lawful power few slots
  have intFixp := toNat_fromInt lawful (n := tsInt drm lanes raw) (by omega)
  have fracFixp := toNat_tsFracFixp lawful power few slots
  have lanesFixp := toNat_fromInt_pow lawful power (by omega)
  have whole := @slotUnits_eq raw l few
  have below := @slotUnits_le raw l few
  have sum : (drm.fromFraction (tsInt drm lanes raw) 1 + drm.fromFraction (tsEnum drm lanes raw)
      ((drm.fixp2int (drm.fromFraction (256 * lanes) 1)).signExtend 64)).toNat =
      slotUnits l raw * 2 ^ (24 - l) := by
    rw [BitVec.toNat_add, intFixp, int, fracFixp, whole]
    exact Nat.mod_eq_of_lt (by omega)
  have zeros : 2 ^ 5 ∣ slotUnits l raw * 2 ^ (24 - l) :=
    Dvd.dvd.mul_left (pow_dvd_pow 2 (by omega)) _
  rw [targetStrmSym, toNat_mul_exact lawful (n := 37) (c := 5) (by rw [sum]; omega) lanesFixp
    (by omega) (by omega) (by omega) (by rw [sum]; exact zeros), sum, Nat.mul_assoc,
    ← Nat.pow_add, Nat.sub_add_cancel (by omega)]

theorem encodeStrmSym_spec (lawful : drm.Lawful) {strmSym : U64} {t : ℕ} (small : t < 2 ^ 16)
    (units : strmSym.toNat = t * 2 ^ 24) :
    (encodeStrmSym drm strmSym).xInt.toNat = t / 256 ∧
      (encodeStrmSym drm strmSym).yFracEnum.toNat = t % 256 := by
  have int := lawful.fixp2int strmSym (by omega)
  have wide : ((drm.fixp2int strmSym).setWidth 64).toNat = strmSym.toNat / 2 ^ 32 := by
    rw [BitVec.toNat_setWidth, int]
    omega
  have frac := toNat_sub_fromInt lawful (x := strmSym) (by omega) wide
  -- a unit has 24 bits of fraction, so nothing is lost from here on
  have rest : strmSym.toNat % 2 ^ 32 = t % 256 * 2 ^ 24 := by omega
  rw [rest] at frac
  have scale : (drm.fromFraction 256 1).toNat = 2 ^ (8 + 32) :=
    toNat_fromInt_pow lawful (n := 256) rfl (by omega)
  have zeros : 2 ^ 5 ∣ t % 256 * 2 ^ 24 := Dvd.dvd.mul_left (pow_dvd_pow 2 (by omega)) _
  have product := toNat_mul_exact lawful (n := 31) (c := 5) (by rw [frac]; omega) scale
    (by omega) (by omega) (by omega) (by rw [frac]; exact zeros)
  rw [frac, Nat.mul_assoc, ← Nat.pow_add] at product
  -- the units are whole, so that the ceiling is the floor
  have floor := toNat_fixp2int lawful (a := drm.mul
    (strmSym - drm.fromFraction ((drm.fixp2int strmSym).setWidth 64) 1) (drm.fromFraction 256 1))
    (by omega)
  rw [product, Nat.mul_div_cancel _ (Nat.two_pow_pos 32)] at floor
  have ceil := toNat_ceil_of_int lawful product (by omega)
  have same := BitVec.eq_of_toNat_eq (floor.trans ceil.symm)
  constructor
  · show (drm.fixp2int strmSym).toNat = _
    omega
  · simp only [encodeStrmSym]
    rw [if_pos same, BitVec.toNat_setWidth, floor]
    omega

end Slots

/-- For slot counts in `[0, 64)`, the two parts are the symbols of a slot, down to units of
`1 / 256`. -/
theorem dpCtrlMstCalculateRg_encodes {drm : DrmFixed} (lawful : drm.Lawful) {panel : DpPanel}
    (lanes : panel.numLanes = 1 ∨ panel.numLanes = 2 ∨ panel.numLanes = 4)
    (slots : (rawTargetSc drm panel).toNat < 64 * 2 ^ 32) :
    (dpCtrlMstCalculateRg drm panel).yFracEnum.toNat ≤ 255 ∧
      (dpCtrlMstCalculateRg drm panel).xInt.toNat * 256 +
          (dpCtrlMstCalculateRg drm panel).yFracEnum.toNat =
        256 * panel.numLanes.toNat * (rawTargetSc drm panel).toNat / 2 ^ 32 := by
  obtain ⟨l, few, count⟩ : ∃ l, l ≤ 2 ∧ panel.numLanes.toNat = 2 ^ l := by
    rcases lanes with one | two | four
    · exact ⟨0, by omega, by simp [one]⟩
    · exact ⟨1, by omega, by simp [two]⟩
    · exact ⟨2, by omega, by simp [four]⟩
  have power : (panel.numLanes.setWidth 64).toNat = 2 ^ l := by
    rw [BitVec.toNat_setWidth, ← count]
    omega
  have small : (rawTargetSc drm panel).toNat < 2 ^ 38 := by omega
  have scaled : 256 * panel.numLanes.toNat * (rawTargetSc drm panel).toNat =
      (rawTargetSc drm panel).toNat * 2 ^ (8 + l) := by
    rw [count, Nat.pow_add]
    ring
  obtain ⟨int, units⟩ := encodeStrmSym_spec lawful (slotUnits_lt small few)
    (toNat_targetStrmSym lawful power few small)
  rw [scaled]
  show _ ∧ _ = slotUnits l (rawTargetSc drm panel)
  simp only [dpCtrlMstCalculateRg]
  rw [int, units]
  omega

def wordDrmFixed : DrmFixed where
  fixp2int a := BitVec.ofNat 32 (a.toNat / 2 ^ 32)
  fixp2intCeil a := BitVec.ofNat 32 ((a.toNat + (2 ^ 32 - 1)) / 2 ^ 32)
  fromFraction a b := BitVec.ofNat 64 (ofFraction 32 a.toNat b.toNat)
  mul a b := BitVec.ofNat 64 (fixedMul 32 61 a.toNat b.toNat)
  div a b := BitVec.ofNat 64 (fixedDiv 32 61 a.toNat b.toNat)

theorem wordDrmFixed_lawful : wordDrmFixed.Lawful where
  fixp2int a small := by
    simp only [wordDrmFixed, BitVec.toNat_ofNat]
    omega
  fixp2intCeil a _ small := by
    simp only [wordDrmFixed, BitVec.toNat_ofNat]
    omega
  fromFraction a b _ _ _ small := by
    simp only [wordDrmFixed, BitVec.toNat_ofNat]
    omega
  mul a b _ _ small := by
    simp only [wordDrmFixed, BitVec.toNat_ofNat]
    omega
  div a b _ _ _ small := by
    simp only [wordDrmFixed, BitVec.toNat_ofNat]
    omega

def hbr2Panel : DpPanel where
  pixelClkKhz := 148500
  bpp := 24
  rate := 540000
  numLanes := 4
  pbn := 532
  compRatio := 0
  dscBpp := 0
  dscOverheadFp := 0
  fecOverheadFp := wordDrmFixed.fromFraction 100000 97582

theorem dpCtrlMstCalculateRg_encodes_hbr2 :
    (dpCtrlMstCalculateRg wordDrmFixed hbr2Panel).yFracEnum.toNat ≤ 255 ∧
      (dpCtrlMstCalculateRg wordDrmFixed hbr2Panel).xInt.toNat * 256 +
          (dpCtrlMstCalculateRg wordDrmFixed hbr2Panel).yFracEnum.toNat =
        256 * hbr2Panel.numLanes.toNat * (rawTargetSc wordDrmFixed hbr2Panel).toNat / 2 ^ 32 :=
  dpCtrlMstCalculateRg_encodes wordDrmFixed_lawful (.inr (.inr rfl)) (by decide)

end DisplayDrivers.Dp.RateGovernor
