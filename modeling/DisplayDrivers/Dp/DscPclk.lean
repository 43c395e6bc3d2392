import DisplayDrivers.Dp.RateGovernor
import DisplayDrivers.Lib.Loop
import Mathlib.Order.Bounds.Basic

/-! # Pixel clocks of a compressed line (`msm/dp/dp_panel.c`)

A compressed line leaves the pixel interface at the pace of a DTO: out of `d` pixel clocks it
acknowledges `n`.
-/

namespace DisplayDrivers.Dp.DscPclk

open DisplayDrivers.Lib.FixedPoint
open DisplayDrivers.Lib.Loop
open DisplayDrivers.Dp.RateGovernor

/-- `enum msm_display_compression_ratio` -/
inductive CompressionRatio
  | none
  | twoToOne
  | threeToOne
  | max
deriving DecidableEq

structure DscDtoData where
  compRatio : CompressionRatio
  orgBpp : Int
  dtoNumerator : ℕ
  dtoDenominator : ℕ

def dtoTbl : List DscDtoData :=
  [⟨.twoToOne, 24, 1, 2⟩, ⟨.twoToOne, 30, 5, 8⟩, ⟨.threeToOne, 24, 1, 3⟩, ⟨.threeToOne, 30, 5, 12⟩]

/-- `_dp_panel_get_dto_m_n`; what it does not set is 0. -/
def getDtoMN (ratio : CompressionRatio) (orgBpp : Int) : ℕ × ℕ :=
  match dtoTbl.find? fun dto => ratio = dto.compRatio && orgBpp = dto.orgBpp with
  | some dto => (dto.dtoNumerator, dto.dtoDenominator)
  | .none => (0, 0)

/-- What is read and set of `struct msm_display_dsc_info`. -/
structure DscInfo where
  picWidth : Int
  sliceWidth : Int
  slicePerPkt : Int
  bpp : Int
  bpc : Int
  bytesInSlice : Int
  bytesPerPkt : Int
  pktPerLine : Int
  eolByteNum : Int
  pclkPerLine : Int
  extraWidth : ℕ

def DscInfo.lineWidth (dsc : DscInfo) : Int := dsc.picWidth.tdiv 2

def dtoStep (n d : ℕ) : ℕ × ℕ → ℕ × ℕ
  | (remainder, accumAck) =>
    let start := if remainder ≥ n then remainder else remainder + d
    (start - n, if start - n < n then accumAck + 1 else accumAck)

/-- One turn of the loop, with `last_few_pclk_required`. -/
def extraStep (n d : ℕ) (lastFewAckRequired : Int) : (ℕ × ℕ) × ℕ → (ℕ × ℕ) × ℕ ⊕ ℕ
  | (dto, lastFewPclkRequired) =>
    if (dto.2 : Int) < lastFewAckRequired then .inl (dtoStep n d dto, lastFewPclkRequired + 1)
    else .inr lastFewPclkRequired

section Code
variable (drm : DrmFixed)

def completeAcks (lineWidth : Int) (n d : ℕ) : Int :=
  let temp1Fp := drm.fromFraction (BitVec.ofInt 64 lineWidth) (BitVec.ofNat 64 d)
  let temp2Fp := drm.fromFraction (BitVec.ofNat 64 n) 1
  (drm.fixp2int (drm.mul temp1Fp temp2Fp)).toInt

/-- `_dp_panel_dsc_get_num_extra_pclk`: the new `extra_width`. -/
def getNumExtraPclk (fuel : ℕ) (dsc : DscInfo) (ratio : CompressionRatio) : Option ℕ :=
  let dto := getDtoMN ratio (dsc.bpc * 3)
  if dto.1 = 0 then some 0
  else
    let lastFewPclk := (BitVec.ofInt 32 dsc.lineWidth).toNat % dto.2
    let lastFewAckRequired := dsc.pclkPerLine - completeAcks drm dsc.lineWidth dto.1 dto.2
    (loop (extraStep dto.1 dto.2 lastFewAckRequired) fuel ((dto.1, 0), 0)).map fun required =>
      if lastFewPclk < required then required - lastFewPclk else 0

/-- `_dp_panel_dsc_bw_overhead_calc`: `dsc_overhead_fp` -/
def bwOverheadCalc (numLanes numSlices dscByteCnt : U32) : U64 :=
  let eocBytes := dscByteCnt % numLanes
  let totNumEocSymbols := numLanes * numSlices
  let totNumHorBytes := dscByteCnt * numSlices
  let totNumDummyBytes := if eocBytes = 0 then 0 else (numLanes - eocBytes) * numSlices
  let dwidthDscBytes := totNumHorBytes + totNumEocSymbols + totNumDummyBytes
  drm.fromFraction (dwidthDscBytes.signExtend 64) (totNumHorBytes.signExtend 64)

/-- `dp_panel_dsc_pclk_param_calc` up to the call of `_dp_panel_dsc_get_num_extra_pclk`, with
    `dsc_byte_count`. -/
def setUpPclk (dsc : DscInfo) (ratio : CompressionRatio) (intfWidth : Int) :
    Option (DscInfo × U32) :=
  if dsc.sliceWidth = 0 ∨ dsc.slicePerPkt = 0 ∨ intfWidth < dsc.sliceWidth then .none
  else
    let slicePerIntf := (intfWidth + dsc.sliceWidth - 1).tdiv dsc.sliceWidth
    let slicePerPkt := if dsc.slicePerPkt > slicePerIntf then 1 else dsc.slicePerPkt
    let bytesInSlice := (dsc.sliceWidth * dsc.bpp + 7).tdiv 8
    let compRatio : U64 :=
      match ratio with
      | .twoToOne => 200
      | .threeToOne => 300
      | _ => 100
    let denominatorFp :=
      drm.mul (drm.fromFraction compRatio 100)
        (drm.fromFraction (BitVec.ofInt 64 (slicePerPkt * 8)) 1)
    let numeratorFp := drm.fromFraction (BitVec.ofInt 64 (intfWidth * dsc.bpc * 3)) 1
    let dscByteCountFp := drm.div numeratorFp denominatorFp
    let dscByteCount := drm.fixp2intCeil dscByteCountFp
    let temp2 := dscByteCount * BitVec.ofInt 32 slicePerIntf
    let temp1 := if temp2 % 3 ≠ 0 then temp2 + (3 - temp2 % 3) else temp2
    let temp2Fp := drm.mul dscByteCountFp (drm.fromFraction (BitVec.ofInt 64 slicePerIntf) 6)
    some ({ dsc with
      bytesInSlice
      bytesPerPkt := bytesInSlice * slicePerPkt
      pktPerLine := slicePerIntf.tdiv slicePerPkt
      eolByteNum := (temp1 - temp2).toInt
      pclkPerLine := (drm.fixp2intCeil temp2Fp).toInt }, dscByteCount)

/-- `dp_panel_dsc_pclk_param_calc`, and `dsc_overhead_fp` where it is set. -/
def dscPclkParamCalc (fuel : ℕ) (dsc : DscInfo) (ratio : CompressionRatio) (intfWidth : Int)
    (numLanes : U32) : Option (DscInfo × Option U64) :=
  match setUpPclk drm dsc ratio intfWidth with
  | .none => some (dsc, .none)
  | some (dsc, dscByteCount) =>
    (getNumExtraPclk drm fuel dsc ratio).map fun extraWidth =>
      ({ dsc with extraWidth, pclkPerLine := dsc.pclkPerLine - 1 },
        some (bwOverheadCalc drm numLanes (BitVec.ofInt 32 dsc.slicePerPkt) dscByteCount))

end Code

/-! ## The acknowledges of a DTO -/

def dtoAfter (n d : ℕ) : ℕ → ℕ × ℕ
  | 0 => (n, 0)
  | k + 1 => dtoStep n d (dtoAfter n d k)

def acks (n d k : ℕ) : ℕ := (dtoAfter n d k).2

variable {n d : ℕ}

/-- What the remainder says about the clocks so far: below `n` it is behind an acknowledge. -/
structure Paced (n d k : ℕ) (dto : ℕ × ℕ) : Prop where
  low : dto.1 < n + d
  behind : dto.1 < n → dto.1 + k * n + d = n + dto.2 * d
  ahead : n ≤ dto.1 → dto.1 + k * n = n + dto.2 * d

theorem paced_step (fits : n ≤ d) {k : ℕ} {dto : ℕ × ℕ} (paced : Paced n d k dto) :
    Paced n d (k + 1) (dtoStep n d dto) := by
  obtain ⟨remainder, accumAck⟩ := dto
  obtain ⟨low, behind, ahead⟩ := paced
  dsimp only at low behind ahead
  have next : (k + 1) * n = k * n + n := Nat.succ_mul k n
  have more : (accumAck + 1) * d = accumAck * d + d := Nat.succ_mul accumAck d
  -- in both cases the clock takes `n` off, and the acknowledge is counted at once
  obtain ⟨left, step, total⟩ : ∃ left, dtoStep n d (remainder, accumAck) =
      (left, if left < n then accumAck + 1 else accumAck) ∧
        left < n + d ∧ left + (k + 1) * n = n + accumAck * d := by
    by_cases full : remainder ≥ n
    · refine ⟨remainder - n, by simp only [dtoStep, if_pos full], by omega, ?_⟩
      have count := ahead full
      omega
    · refine ⟨remainder + d - n, by simp only [dtoStep, if_neg full], by omega, ?_⟩
      have count := behind (Nat.lt_of_not_ge full)
      omega
  rw [step]
  refine ⟨total.1, fun below => ?_, fun above => ?_⟩
  · show left + (k + 1) * n + d = n + (if left < n then accumAck + 1 else accumAck) * d
    rw [if_pos below]
    omega
  · show left + (k + 1) * n = n + (if left < n then accumAck + 1 else accumAck) * d
    rw [if_neg (Nat.not_lt_of_ge above)]
    exact total.2

section

variable (positive : 0 < n)

include positive

theorem paced_after (fits : n ≤ d) (k : ℕ) : Paced n d k (dtoAfter n d k) := by
  induction k with
  | zero =>
    refine ⟨?_, fun below => absurd below (Nat.lt_irrefl n), fun _ => ?_⟩
    · show n < n + d
      omega
    · show n + 0 * n = n + 0 * d
      rw [Nat.zero_mul, Nat.zero_mul]
  | succ k ih => exact paced_step fits ih

theorem acks_eq (fits : n ≤ d) (k : ℕ) : acks n d k = (k * n + d - 1) / d := by
  obtain ⟨low, behind, ahead⟩ := paced_after positive fits k
  symm
  rw [Nat.div_eq_iff (by omega)]
  unfold acks
  by_cases below : (dtoAfter n d k).1 < n
  · have count := behind below
    have some : (dtoAfter n d k).2 ≠ 0 := by
      intro zero
      rw [zero, Nat.zero_mul] at count
      cases k with
      | zero => exact absurd below (Nat.lt_irrefl n)
      | succ k =>
        rw [Nat.succ_mul] at count
        omega
    have pred : (dtoAfter n d k).2 * d = ((dtoAfter n d k).2 - 1) * d + d := by
      rw [← Nat.succ_mul, Nat.succ_eq_add_one, Nat.sub_add_cancel (Nat.pos_of_ne_zero some)]
    omega
  · have count := ahead (Nat.le_of_not_lt below)
    omega

theorem acks_add (fits : n ≤ d) (q k : ℕ) : acks n d (q * d + k) = q * n + acks n d k := by
  have whole : (q * d + k) * n + d - 1 = k * n + d - 1 + q * n * d := by
    have split : (q * d + k) * n = k * n + q * n * d := by ring
    omega
  rw [acks_eq positive fits, acks_eq positive fits, whole, Nat.add_mul_div_right _ _
    (by omega), Nat.add_comm]

theorem acks_succ (fits : n ≤ d) (k : ℕ) :
    acks n d k ≤ acks n d (k + 1) ∧ acks n d (k + 1) ≤ acks n d k + 1 := by
  have next : (k + 1) * n + d - 1 = k * n + d - 1 + n := by
    rw [Nat.succ_mul]
    omega
  rw [acks_eq positive fits, acks_eq positive fits, next]
  refine ⟨Nat.div_le_div_right (Nat.le_add_right _ n), ?_⟩
  rw [← Nat.add_div_right _ (by omega : 0 < d)]
  exact Nat.div_le_div_right (Nat.add_le_add_left fits _)

theorem acks_mono (fits : n ≤ d) {j k : ℕ} (le : j ≤ k) : acks n d j ≤ acks n d k := by
  induction le with
  | refl => exact Nat.le_refl _
  | step _ ih => exact Nat.le_trans ih (acks_succ positive fits _).1

theorem exists_acks (fits : n ≤ d) (last : Int) : ∃ k, last ≤ acks n d k := by
  refine ⟨last.toNat * d, ?_⟩
  have whole := acks_add positive fits last.toNat 0
  rw [Nat.add_zero] at whole
  rw [whole]
  have scaled : last.toNat * 1 ≤ last.toNat * n := Nat.mul_le_mul_left _ positive
  omega

def clocksFor (positive : 0 < n) (fits : n ≤ d) (last : Int) : ℕ :=
  Nat.find (exists_acks positive fits last)

theorem extraLoop_returns (fits : n ≤ d) (last : Int) (required : ℕ) :
    Returns (extraStep n d last) ((n, 0), 0) required ↔ clocksFor positive fits last =
    required := by
  refine returns_orbit_iff (fun k => (dtoAfter n d k, k))
    (fun k (below : k < clocksFor positive fits last) => ?_) ?_
  · have missing : ((dtoAfter n d k).2 : Int) < last := Int.not_le.mp (Nat.find_min _ below)
    exact if_pos missing
  · have reached : ¬((dtoAfter n d (clocksFor positive fits last)).2 : Int) < last :=
      Int.not_lt.mpr (Nat.find_spec (exists_acks positive fits last))
    exact if_neg reached

theorem missing_eq_iff (fits : n ≤ d) {few many : Int} (le : few ≤ many) (r : ℕ) :
    clocksFor positive fits few - r = clocksFor positive fits many - r ↔ few = many ∨
    many ≤ acks n d r := by
  have within : ∀ {last : Int} {k : ℕ}, last ≤ acks n d k → clocksFor positive fits last ≤ k :=
    fun reached => Nat.find_min' _ reached
  constructor
  · intro same
    by_contra differ
    rw [not_or] at differ
    obtain ⟨less, late⟩ := differ
    have reached : many ≤ acks n d (clocksFor positive fits many) :=
      Nat.find_spec (exists_acks positive fits many)
    have behind : r < clocksFor positive fits many := by
      by_contra before
      have mono := acks_mono positive fits (Nat.le_of_not_lt before)
      omega
    -- the last clock brings one acknowledge, and the smaller number does without it
    obtain ⟨j, last⟩ : ∃ j, clocksFor positive fits many = j + 1 :=
      ⟨_, (Nat.sub_add_cancel (by omega)).symm⟩
    have early : ¬many ≤ acks n d j := Nat.find_min (exists_acks positive fits many) (m := j) (by
      show j < clocksFor positive fits many
      omega)
    have step := (acks_succ positive fits j).2
    rw [last] at reached
    have enough : clocksFor positive fits few ≤ j := within (by omega)
    omega
  · rintro (rfl | early)
    · rfl
    · have first : clocksFor positive fits few ≤ r := within (by omega)
      have second : clocksFor positive fits many ≤ r := within early
      omega

theorem isLeast_missing (fits : n ≤ d) (required : Int) (q r : ℕ) :
    IsLeast {e : ℕ | required ≤ acks n d (q * d + r + e)}
      (clocksFor positive fits (required - (q * n : ℕ)) - r) := by
  have split : ∀ e, required ≤ acks n d (q * d + r + e) ↔
    required - (q * n : ℕ) ≤ acks n d (r + e) := by
    intro e
    rw [Nat.add_assoc, acks_add positive fits]
    omega
  constructor
  · rw [Set.mem_ofPred_eq, split]
    have reached : required - (q * n : ℕ) ≤ acks n d
      (clocksFor positive fits (required - (q * n : ℕ))) :=
      Nat.find_spec (exists_acks positive fits (required - (q * n : ℕ)))
    have mono := acks_mono positive fits
      (show clocksFor positive fits (required - (q * n : ℕ)) ≤
        r + (clocksFor positive fits (required - (q * n : ℕ)) - r) by omega)
    omega
  · intro e member
    rw [Set.mem_ofPred_eq, split] at member
    have below : clocksFor positive fits (required - (q * n : ℕ)) ≤ r + e := Nat.find_min' _ member
    omega

end

/-! ## The acknowledges of the complete rounds -/

def InTable (n d : ℕ) : Prop := n = 1 ∧ d = 2 ∨ n = 5 ∧ d = 8 ∨ n = 1 ∧ d = 3 ∨ n = 5 ∧ d = 12

theorem inTable_of {ratio : CompressionRatio} {bpc : Int} (depth : bpc = 8 ∨ bpc = 10)
    (compressed : ratio = .twoToOne ∨ ratio = .threeToOne) :
    InTable (getDtoMN ratio (bpc * 3)).1 (getDtoMN ratio (bpc * 3)).2 := by
  obtain rfl | rfl := depth
  · obtain rfl | rfl := compressed
    · exact .inl ⟨rfl, rfl⟩
    · exact .inr (.inr (.inl ⟨rfl, rfl⟩))
  · obtain rfl | rfl := compressed
    · exact .inr (.inl ⟨rfl, rfl⟩)
    · exact .inr (.inr (.inr ⟨rfl, rfl⟩))

theorem InTable.positive (table : InTable n d) : 0 < n := by
  unfold InTable at table
  omega

theorem InTable.fits (table : InTable n d) : n ≤ d := by
  unfold InTable at table
  omega

theorem InTable.coprime (table : InTable n d) : Nat.Coprime n d := by
  obtain ⟨rfl, rfl⟩ | ⟨rfl, rfl⟩ | ⟨rfl, rfl⟩ | ⟨rfl, rfl⟩ := table
  all_goals decide

theorem floor_of_cut (table : InTable n d) {w x : ℕ} (exact : w % d = 0 → x = ofFraction 32 w d)
    (low : x ≤ ofFraction 32 w d) (high : ofFraction 32 w d < x + 2 ^ 17) :
    x * n / 2 ^ 32 = w * n / d := by
  have positive : 0 < d := Nat.lt_of_lt_of_le table.positive table.fits
  obtain ⟨above, below⟩ := ofFraction_bounds 32 w positive
  have floor := Nat.div_add_mod (w * n) d
  have rest := Nat.mod_lt (w * n) positive
  have line := Nat.div_add_mod w d
  generalize ofFraction 32 w d = a at exact low high above below
  generalize w * n / d = k at floor ⊢
  generalize w / d = q at line
  rw [Nat.div_eq_iff (by omega)]
  by_cases whole : w % d = 0
  · obtain rfl := exact whole
    rw [whole, Nat.add_zero] at line
    subst line
    obtain ⟨rfl, rfl⟩ | ⟨rfl, rfl⟩ | ⟨rfl, rfl⟩ | ⟨rfl, rfl⟩ := table
    all_goals omega
  · have some : w * n % d ≠ 0 := fun zero =>
      whole (Nat.mod_eq_zero_of_dvd
        (table.coprime.symm.dvd_of_dvd_mul_right (Nat.dvd_of_mod_eq_zero zero)))
    generalize w * n % d = s at floor rest some
    obtain ⟨rfl, rfl⟩ | ⟨rfl, rfl⟩ | ⟨rfl, rfl⟩ | ⟨rfl, rfl⟩ := table
    all_goals omega

/-- The fixed-point numbers give the acknowledges of the line, rounded down. -/
theorem completeAcks_eq {drm : DrmFixed} (lawful : drm.Lawful) (table : InTable n d) {w : ℕ}
    (small : w < 2 ^ 30) :
    completeAcks drm w n d = (w * n / d : ℕ) := by
  have positive : 0 < d := Nat.lt_of_lt_of_le table.positive table.fits
  have bound : d ≤ 12 ∧ n ≤ 5 := by
    unfold InTable at table
    omega
  obtain ⟨above, -⟩ := ofFraction_bounds 32 w positive
  have line : (BitVec.ofInt 64 w : U64).toNat = w := by
    rw [BitVec.toNat_ofInt]
    omega
  have denominator : (BitVec.ofNat 64 d : U64).toNat = d := by
    rw [BitVec.toNat_ofNat]
    omega
  have numerator : (BitVec.ofNat 64 n : U64).toNat = n := by
    rw [BitVec.toNat_ofNat]
    omega
  -- the quotient is below `2 ^ 62`, as `d` is at least 2
  have two : 2 ≤ d := by
    unfold InTable at table
    omega
  have scaled : 2 * ofFraction 32 w d ≤ d * ofFraction 32 w d := Nat.mul_le_mul_right _ two
  have quotient : (drm.fromFraction (BitVec.ofInt 64 w) (BitVec.ofNat 64 d)).toNat =
    ofFraction 32 w d := by
    have value :=
      lawful.fromFraction (BitVec.ofInt 64 w) (BitVec.ofNat 64 d) (by omega) (by omega) (by omega)
      (by rw [line, denominator]; omega)
    rwa [line, denominator] at value
  have factor : (drm.fromFraction (BitVec.ofNat 64 n) 1).toNat = n * 2 ^ 32 := by
    rw [toNat_fromInt lawful (by omega), numerator]
  have bits : dropped 61 (ofFraction 32 w d) (n * 2 ^ 32) ≤ 34 := by
    have first := log2_le_of_lt (n := 61) (a := ofFraction 32 w d) (by omega)
    have second := log2_le_of_lt (n := 34) (a := n * 2 ^ 32) (by omega)
    unfold dropped
    omega
  have product := fixedMul_int (p := 32) (m := 61) (ofFraction 32 w d) n (by omega)
  obtain ⟨c, few, cut⟩ : ∃ c ≤ 17, fixedMul 32 61 (ofFraction 32 w d) (n * 2 ^ 32) =
      ofFraction 32 w d / 2 ^ c * 2 ^ c * n := ⟨_, by omega, product⟩
  have low : ofFraction 32 w d / 2 ^ c * 2 ^ c ≤ ofFraction 32 w d := Nat.div_mul_le_self _ _
  have high : ofFraction 32 w d < ofFraction 32 w d / 2 ^ c * 2 ^ c + 2 ^ 17 := by
    have rest := Nat.mod_lt (ofFraction 32 w d) (Nat.two_pow_pos c)
    have split := Nat.div_add_mod' (ofFraction 32 w d) (2 ^ c)
    have power : 2 ^ c ≤ 2 ^ 17 := Nat.pow_le_pow_right (by omega) few
    omega
  have exact : w % d = 0 → ofFraction 32 w d / 2 ^ c * 2 ^ c = ofFraction 32 w d := by
    intro whole
    have line := Nat.div_add_mod w d
    have scale : w * 2 ^ 32 = w / d * 2 ^ 32 * d := by
      rw [Nat.mul_right_comm, Nat.div_mul_cancel (Nat.dvd_of_mod_eq_zero whole)]
    have rounds : ofFraction 32 w d = w / d * 2 ^ 32 := by
      rw [ofFraction, scale, Nat.mul_mod_left, Nat.mul_div_cancel _ positive,
        if_neg (by omega), Nat.add_zero]
    rw [rounds]
    exact Nat.div_mul_cancel (Dvd.dvd.mul_left (pow_dvd_pow 2 (by omega)) _)
  have floor := floor_of_cut table exact low high
  rw [← cut] at floor
  have inside : fixedMul 32 61 (ofFraction 32 w d) (n * 2 ^ 32) < 2 ^ 62 := by
    rw [cut]
    have least : ofFraction 32 w d / 2 ^ c * 2 ^ c * n ≤ ofFraction 32 w d * n :=
      Nat.mul_le_mul_right _ low
    obtain ⟨rfl, rfl⟩ | ⟨rfl, rfl⟩ | ⟨rfl, rfl⟩ | ⟨rfl, rfl⟩ := table
    all_goals omega
  have value := lawful.mul (drm.fromFraction (BitVec.ofInt 64 w) (BitVec.ofNat 64 d))
    (drm.fromFraction (BitVec.ofNat 64 n) 1) (by omega) (by omega) (by rw [quotient, factor]; omega)
  rw [quotient, factor] at value
  have int := lawful.fixp2int (drm.mul (drm.fromFraction (BitVec.ofInt 64 w) (BitVec.ofNat 64 d))
    (drm.fromFraction (BitVec.ofNat 64 n) 1)) (by omega)
  rw [value, floor] at int
  show (drm.fixp2int _).toInt = _
  rw [BitVec.toInt_eq_toNat_of_lt (by omega), int]

theorem least_extra_iff (table : InTable n d) (required : Int) (w : ℕ) :
    IsLeast {e : ℕ | required ≤ acks n d (w + e)}
        (clocksFor table.positive table.fits (required - (w * n / d : ℕ)) - w % d) ↔
      w % d * n < d ∨ required ≤ ((w * n + d - 1) / d : ℕ) := by
  have positive : 0 < d := Nat.lt_of_lt_of_le table.positive table.fits
  rw [← acks_eq table.positive table.fits]
  have rounds : w / d * d + w % d = w := Nat.div_add_mod' w d
  have least := isLeast_missing table.positive table.fits required (w / d) (w % d)
  rw [rounds] at least
  have floor : w * n / d = w / d * n + w % d * n / d := by
    have split : w * n = w % d * n + w / d * n * d := by
      calc w * n = (w / d * d + w % d) * n := by rw [rounds]
        _ = _ := by ring
    rw [split, Nat.add_mul_div_right _ _ positive, Nat.add_comm]
  have whole := acks_add table.positive table.fits (w / d) (w % d)
  rw [rounds] at whole
  have more : w / d * n ≤ w * n / d := floor ▸ Nat.le_add_right _ _
  have fewer : required - (w * n / d : ℕ) ≤ required - (w / d * n : ℕ) :=
    Int.sub_le_sub_left (Int.ofNat_le.mpr more) _
  have missing := missing_eq_iff table.positive table.fits fewer (w % d)
  have none : w % d * n < d ↔ w % d * n / d = 0 := (Nat.div_eq_zero_iff_lt positive).symm
  constructor
  · intro code
    obtain same | early := missing.mp (code.unique least)
    · exact .inl (none.mpr (by omega))
    · exact .inr (by omega)
  · rintro (below | early)
    · have zero := none.mp below
      rw [missing.mpr (.inl (by omega))]
      exact least
    · rw [missing.mpr (.inr (by omega))]
      exact least

/-! ## The widened line -/

section Widened
variable {drm : DrmFixed} {dsc set : DscInfo} {ratio : CompressionRatio}
  {intfWidth : Int} {count : U32}

/-- The loop ends, and the line is widened by the fewest clocks that bring the acknowledges which
    the compressed width asks for; that width has been counted down by then. -/
def WidensLeast (drm : DrmFixed) (dsc : DscInfo) (ratio : CompressionRatio) (intfWidth : Int)
    (numLanes : U32) : Prop :=
  ∃ fuel result overhead, dscPclkParamCalc drm fuel dsc ratio intfWidth numLanes = some
    (result, overhead) ∧
    IsLeast {e : ℕ | result.pclkPerLine + 1 ≤
        acks (getDtoMN ratio (dsc.bpc * 3)).1 (getDtoMN ratio (dsc.bpc * 3)).2
          (dsc.lineWidth.toNat + e)}
      result.extraWidth

theorem setUpPclk_keeps (ready : setUpPclk drm dsc ratio intfWidth = some (set, count)) :
    set.picWidth = dsc.picWidth ∧ set.bpc = dsc.bpc := by
  unfold setUpPclk at ready
  split at ready
  · cases ready
  · cases ready
    exact ⟨rfl, rfl⟩

theorem lineWidth_toNat (width : 0 ≤ dsc.picWidth) (int : dsc.picWidth < 2 ^ 31) :
    dsc.lineWidth = dsc.lineWidth.toNat ∧ dsc.lineWidth.toNat < 2 ^ 30 ∧
      (BitVec.ofInt 32 dsc.lineWidth).toNat = dsc.lineWidth.toNat := by
  have half : dsc.lineWidth = dsc.picWidth / 2 := Int.tdiv_eq_ediv_of_nonneg width
  refine ⟨by omega, by omega, ?_⟩
  rw [BitVec.toNat_ofInt]
  omega

theorem getNumExtraPclk_iff (lawful : drm.Lawful) (width : 0 ≤ dsc.picWidth)
    (int : dsc.picWidth < 2 ^ 31)
    (table : InTable (getDtoMN ratio (dsc.bpc * 3)).1 (getDtoMN ratio (dsc.bpc * 3)).2)
    (extra : ℕ) :
    (∃ fuel, getNumExtraPclk drm fuel dsc ratio = some extra) ↔
      extra = clocksFor table.positive table.fits
          (dsc.pclkPerLine - (dsc.lineWidth.toNat * (getDtoMN ratio (dsc.bpc * 3)).1 /
            (getDtoMN ratio (dsc.bpc * 3)).2 : ℕ)) -
        dsc.lineWidth.toNat % (getDtoMN ratio (dsc.bpc * 3)).2 := by
  obtain ⟨line, small, low⟩ := lineWidth_toNat width int
  have complete := completeAcks_eq lawful table small
  rw [← line] at complete
  have code : ∀ fuel, getNumExtraPclk drm fuel dsc ratio =
      (loop (extraStep (getDtoMN ratio (dsc.bpc * 3)).1 (getDtoMN ratio (dsc.bpc * 3)).2
        (dsc.pclkPerLine - (dsc.lineWidth.toNat * (getDtoMN ratio (dsc.bpc * 3)).1 /
          (getDtoMN ratio (dsc.bpc * 3)).2 : ℕ))) fuel
            (((getDtoMN ratio (dsc.bpc * 3)).1, 0), 0)).map
        fun required => required - dsc.lineWidth.toNat % (getDtoMN ratio (dsc.bpc * 3)).2 := by
    intro fuel
    simp only [getNumExtraPclk, if_neg (Nat.ne_of_gt table.positive), complete, low]
    congr 1
    funext required
    split
    · rfl
    · omega
  simp only [code, Option.map_eq_some_iff]
  constructor
  · rintro ⟨fuel, required, left, rfl⟩
    rw [(extraLoop_returns table.positive table.fits _ required).mp ⟨fuel, left⟩]
  · rintro rfl
    obtain ⟨fuel, left⟩ := (extraLoop_returns table.positive table.fits _ _).mpr rfl
    exact ⟨fuel, _, left, rfl⟩

theorem dscPclkParamCalc_eq (ready : setUpPclk drm dsc ratio intfWidth = some (set, count))
    (fuel : ℕ)
    (numLanes : U32) : dscPclkParamCalc drm fuel dsc ratio intfWidth numLanes =
      (getNumExtraPclk drm fuel set ratio).map fun extraWidth =>
        ({ set with extraWidth, pclkPerLine := set.pclkPerLine - 1 },
          some (bwOverheadCalc drm numLanes (BitVec.ofInt 32 set.slicePerPkt) count)) := by
  rw [dscPclkParamCalc, ready]

/-- The code counts the acknowledges of a round that is not complete as well, without its clocks:
    that is right exactly where such a round has none, or the line is wide enough as it is. -/
theorem widensLeast_iff (lawful : drm.Lawful) (width : 0 ≤ dsc.picWidth)
    (int : dsc.picWidth < 2 ^ 31)
    (depth : dsc.bpc = 8 ∨ dsc.bpc = 10) (compressed : ratio = .twoToOne ∨ ratio = .threeToOne)
    (ready : setUpPclk drm dsc ratio intfWidth = some (set, count)) (numLanes : U32) :
    WidensLeast drm dsc ratio intfWidth numLanes ↔
      dsc.lineWidth.toNat % (getDtoMN ratio (dsc.bpc * 3)).2 * (getDtoMN ratio (dsc.bpc * 3)).1 <
          (getDtoMN ratio (dsc.bpc * 3)).2 ∨
        set.pclkPerLine ≤ ((dsc.lineWidth.toNat * (getDtoMN ratio (dsc.bpc * 3)).1 +
          (getDtoMN ratio (dsc.bpc * 3)).2 - 1) / (getDtoMN ratio (dsc.bpc * 3)).2 : ℕ) := by
  obtain ⟨samePic, sameBpc⟩ := setUpPclk_keeps ready
  have table := inTable_of depth compressed
  have sameLine : set.lineWidth = dsc.lineWidth := by
    rw [DscInfo.lineWidth, DscInfo.lineWidth, samePic]
  have setWidth : 0 ≤ set.picWidth := by rw [samePic]; exact width
  have setInt : set.picWidth < 2 ^ 31 := by rw [samePic]; exact int
  have setTable : InTable (getDtoMN ratio (set.bpc * 3)).1 (getDtoMN ratio (set.bpc * 3)).2 := by
    rw [sameBpc]
    exact table
  have extra := getNumExtraPclk_iff lawful setWidth setInt setTable
  simp only [sameBpc, sameLine] at extra
  have run : WidensLeast drm dsc ratio intfWidth numLanes ↔
      ∃ e, (∃ fuel, getNumExtraPclk drm fuel set ratio = some e) ∧
        IsLeast {e : ℕ | set.pclkPerLine ≤ acks (getDtoMN ratio (dsc.bpc * 3)).1
          (getDtoMN ratio (dsc.bpc * 3)).2 (dsc.lineWidth.toNat + e)} e := by
    simp only [WidensLeast, dscPclkParamCalc_eq ready, Option.map_eq_some_iff, Prod.mk.injEq]
    constructor
    · rintro ⟨fuel, result, overhead, ⟨e, ran, rfl, -⟩, least⟩
      refine ⟨e, ⟨fuel, ran⟩, ?_⟩
      simpa only [Int.sub_add_cancel] using least
    · rintro ⟨e, ⟨fuel, ran⟩, least⟩
      refine ⟨fuel, _, _, ⟨e, ran, rfl, rfl⟩, ?_⟩
      simpa only [Int.sub_add_cancel] using least
  rw [run]
  simp only [extra, exists_eq_left]
  exact least_extra_iff table set.pclkPerLine dsc.lineWidth.toNat

end Widened

def hdDsc : DscInfo :=
  { picWidth := 1920, sliceWidth := 1920, slicePerPkt := 1, bpp := 8, bpc := 8, bytesInSlice := 0,
    bytesPerPkt := 0, pktPerLine := 0, eolByteNum := 0, pclkPerLine := 0, extraWidth := 0 }

theorem widensLeast_iff_hd : ∃ set count,
    setUpPclk wordDrmFixed hdDsc .threeToOne 1920 = some (set, count) ∧
      (WidensLeast wordDrmFixed hdDsc .threeToOne 1920 4 ↔ 960 % 3 * 1 < 3 ∨
        set.pclkPerLine ≤ 320) :=
  ⟨_, _, rfl, widensLeast_iff wordDrmFixed_lawful (by decide) (by decide) (.inl rfl)
    (.inr rfl) rfl 4⟩

def oddDsc : DscInfo :=
  { picWidth := 1935, sliceWidth := 1935, slicePerPkt := 1, bpp := 10, bpc := 10, bytesInSlice := 0,
    bytesPerPkt := 0, pktPerLine := 0, eolByteNum := 0, pclkPerLine := 0, extraWidth := 0 }

def oddSet : DscInfo :=
  { oddDsc with
    bytesInSlice := 2419, bytesPerPkt := 2419, pktPerLine := 1, eolByteNum := 2
    pclkPerLine := 404 }

/-- The line is not widened, and its last acknowledge is missing. -/
theorem not_widensLeast_odd :
    ¬∀ (dsc : DscInfo) (ratio : CompressionRatio) (intfWidth : Int) (numLanes : U32),
      0 ≤ dsc.picWidth → dsc.picWidth < 2 ^ 31 → dsc.bpc = 8 ∨ dsc.bpc = 10 →
      ratio = .twoToOne ∨ ratio = .threeToOne →
        (setUpPclk wordDrmFixed dsc ratio intfWidth).isSome →
      WidensLeast wordDrmFixed dsc ratio intfWidth numLanes := by
  intro every
  obtain ⟨fuel, result, overhead, ran, least⟩ :=
    every oddDsc .threeToOne 1935 4 (by decide) (by decide) (.inr rfl) (.inr rfl) rfl
  have ready : setUpPclk wordDrmFixed oddDsc .threeToOne 1935 = some (oddSet, 2419) := rfl
  rw [dscPclkParamCalc_eq ready, Option.map_eq_some_iff] at ran
  obtain ⟨extra, run, same⟩ := ran
  have table : InTable (getDtoMN .threeToOne (oddSet.bpc * 3)).1
    (getDtoMN .threeToOne (oddSet.bpc * 3)).2 :=
    .inr (.inr (.inr ⟨rfl, rfl⟩))
  have width : 0 ≤ oddSet.picWidth := by decide
  have code := getNumExtraPclk_iff wordDrmFixed_lawful width (by decide) table
  have here : getNumExtraPclk wordDrmFixed 4 oddSet .threeToOne = some 0 := rfl
  obtain rfl : extra = 0 := ((code extra).mp ⟨fuel, run⟩).trans ((code 0).mp ⟨4, here⟩).symm
  cases same
  have enough : (404 : Int) ≤ acks 5 12 967 := least.1
  rw [acks_eq (by decide) (by decide)] at enough
  exact absurd enough (by decide)

end DisplayDrivers.Dp.DscPclk
