import DisplayDrivers.Dp.RateGovernor

/-! # The number of mixers a mode needs (`sde_kms_get_mixer_count` of `msm/sde/sde_kms.c`)

The pixel clock is compared with the clock of the core in 32.32 fixed point: the products of the
mode's numbers are exact as long as they fit (`pixelRate_eq`), the product with the factor for the
overhead drops low bits of the factor (`modeClock_eq`).
-/

namespace DisplayDrivers.Kms.MixerCount

open DisplayDrivers.Dp
open DisplayDrivers.Dp.RateGovernor
open DisplayDrivers.Lib.FixedPoint

/-- What the function reads of `struct drm_display_mode`, which has been checked to have no negative
    numbers. -/
structure DrmDisplayMode where
  hdisplay : U32
  htotal : U32
  vtotal : U32
  vrefresh : U32
  positive : hdisplay.toNat < 2 ^ 31 ∧ htotal.toNat < 2 ^ 31 ∧ vtotal.toNat < 2 ^ 31 ∧
    vrefresh.toNat < 2 ^ 31

def einval : ℤ := -22

structure Returned where
  code : ℤ
  numLm : ℕ
deriving DecidableEq

section Code
variable (drm : DrmFixed)

/-- `mode_clock_hz` -/
def modeClock (mode : DrmDisplayMode) : U64 :=
  let mdpFudgeFactor := drm.fromFraction 105 100
  let htotalFp := drm.fromFraction (mode.htotal.signExtend 64) 1
  let vtotalFp := drm.fromFraction (mode.vtotal.signExtend 64) 1
  let vrefreshFp := drm.fromFraction (mode.vrefresh.signExtend 64) 1
  let temp := drm.mul htotalFp vtotalFp
  let temp := drm.mul temp vrefreshFp
  drm.mul temp mdpFudgeFactor

/-- The first argument is `max_core_clk_rate` of `kms`; a pointer that is not given is `none`. -/
def getMixerCount (kms : Option U64) (mode : Option DrmDisplayMode) (maxMixerWidth : U32) :
    Returned :=
  match kms, mode with
  | some maxCoreClkRate, some mode =>
    if maxMixerWidth = 0 then { code := einval, numLm := 1 }
    else
      let maxMdpClock := drm.fromFraction maxCoreClkRate 1
      if maxMdpClock.slt (modeClock drm mode) ∨ maxMixerWidth < mode.hdisplay then
        if maxMdpClock.slt ((modeClock drm mode).sshiftRight 1) then { code := einval, numLm := 2 }
        else { code := 0, numLm := 2 }
      else { code := 0, numLm := 1 }
  | _, _ => { code := einval, numLm := 1 }

end Code

/-! ## What is asked of the result -/

def DrmDisplayMode.pixels (mode : DrmDisplayMode) : ℕ :=
  mode.htotal.toNat * mode.vtotal.toNat * mode.vrefresh.toNat

def fudge : ℕ := ofFraction 32 105 100

structure Products (mode : DrmDisplayMode) where
  frame : ℕ
  pixels : ℕ
  clock : ℕ
  frame_eq : frame = fixedMul 32 61 (mode.htotal.toNat * 2 ^ 32) (mode.vtotal.toNat * 2 ^ 32)
  pixels_eq : pixels = fixedMul 32 61 frame (mode.vrefresh.toNat * 2 ^ 32)
  clock_eq : clock = fixedMul 32 61 pixels fudge

def products (mode : DrmDisplayMode) : Products mode := ⟨_, _, _, rfl, rfl, rfl⟩

def Products.Fit {mode : DrmDisplayMode} (products : Products mode) : Prop :=
  products.frame < 2 ^ 63 ∧ products.pixels < 2 ^ 63 ∧ products.clock < 2 ^ 63

def Suffice (maxCoreClkRate : U64) (mode : DrmDisplayMode) (maxMixerWidth : U32) (mixers : ℕ) :
    Prop :=
  mode.hdisplay.toNat ≤ mixers * maxMixerWidth.toNat ∧
  105 * mode.pixels * 2 ^ 32 ≤ 100 * (mixers * maxCoreClkRate.toNat * 2 ^ 32 + 1)

def Sound (drm : DrmFixed) (maxCoreClkRate : U64) (mode : DrmDisplayMode) (maxMixerWidth : U32) :
    Prop :=
  (maxMixerWidth ≠ 0 → (products mode).Fit) ∧
  ((getMixerCount drm (some maxCoreClkRate) (some mode) maxMixerWidth).code = 0 →
    Suffice maxCoreClkRate mode maxMixerWidth
      (getMixerCount drm (some maxCoreClkRate) (some mode) maxMixerWidth).numLm)

/-! ## The products -/

def cutFudge (pixels : ℕ) : ℕ :=
  fudge / 2 ^ ((Nat.log2 pixels + 3) / 2) * 2 ^ ((Nat.log2 pixels + 3) / 2)

theorem fudge_eq : fudge = 4509715661 := by decide

theorem log2_scaled {a : ℕ} (some : a ≠ 0) : Nat.log2 (a * 2 ^ 32) = Nat.log2 a + 32 := by
  rw [Nat.log2_eq_iff (Nat.mul_ne_zero some (by decide))]
  have low := Nat.log2_self_le some
  have high := Nat.lt_log2_self (n := a)
  constructor
  · rw [Nat.pow_add]
    exact Nat.mul_le_mul_right _ low
  · rw [show a.log2 + 32 + 1 = a.log2 + 1 + 32 by omega, Nat.pow_add]
    exact (Nat.mul_lt_mul_right (by decide)).mpr high

theorem fixedMul_small {a b : ℕ} (left : a < 2 ^ 31) (right : b < 2 ^ 31) :
    fixedMul 32 61 (a * 2 ^ 32) (b * 2 ^ 32) = a * b * 2 ^ 32 := by
  apply fixedMul_ints
  have leftBits : Nat.log2 (a * 2 ^ 32) ≤ 62 := log2_le_of_lt (by omega)
  have rightBits : Nat.log2 (b * 2 ^ 32) ≤ 62 := log2_le_of_lt (by omega)
  unfold dropped
  omega

theorem fixedMul_fudge {a : ℕ} (small : a < 2 ^ 31) :
    fixedMul 32 61 (a * 2 ^ 32) fudge = a * cutFudge a := by
  by_cases zero : a = 0
  · simp [zero, fixedMul]
  · have bits : dropped 61 (a * 2 ^ 32) fudge = Nat.log2 a + 3 := by
      have factor : Nat.log2 fudge = 32 := by
        rw [fudge_eq, Nat.log2_eq_iff (by decide)]
        decide
      rw [dropped, log2_scaled zero, factor]
      omega
    have short : Nat.log2 a ≤ 30 := log2_le_of_lt (by omega)
    rw [fixedMul_int_left a fudge (by rw [bits]; omega), bits, cutFudge]

theorem cutFudge_le (pixels : ℕ) : cutFudge pixels ≤ fudge := Nat.div_mul_le_self _ _

theorem two_dvd_cutFudge (pixels : ℕ) : 2 ∣ cutFudge pixels := by
  apply Dvd.dvd.mul_left
  exact dvd_pow_self 2 (by omega)

theorem clock_fits_iff {pixels : ℕ} (small : pixels < 2 ^ 31) :
    pixels * cutFudge pixels < 2 ^ 63 ↔ pixels ≤ 2045246299 := by
  by_cases low : pixels < 2 ^ 30
  · have bound := Nat.mul_le_mul (Nat.le_of_lt low) (cutFudge_le pixels)
    rw [fudge_eq] at bound
    omega
  · -- from here on the length is 31 bits, and sixteen bits of the factor are dropped
    have bits : Nat.log2 pixels = 30 := by
      rw [Nat.log2_eq_iff (by omega)]
      omega
    have cut : cutFudge pixels = 4509663232 := by
      rw [cutFudge, bits, fudge_eq]
      decide
    rw [cut]
    omega

theorem frame_fits_iff (mode : DrmDisplayMode) :
    (products mode).frame < 2 ^ 63 ↔ mode.htotal.toNat * mode.vtotal.toNat < 2 ^ 31 := by
  obtain ⟨_, htotal, vtotal, _⟩ := mode.positive
  rw [(products mode).frame_eq, fixedMul_small htotal vtotal]
  generalize mode.htotal.toNat * mode.vtotal.toNat = frame
  omega

variable {mode : DrmDisplayMode}

theorem pixelRate_eq (frame : mode.htotal.toNat * mode.vtotal.toNat < 2 ^ 31) :
    (products mode).pixels = mode.pixels * 2 ^ 32 := by
  obtain ⟨_, htotal, vtotal, vrefresh⟩ := mode.positive
  rw [(products mode).pixels_eq, (products mode).frame_eq, fixedMul_small htotal vtotal,
    fixedMul_small frame vrefresh, DrmDisplayMode.pixels]

theorem fit_iff (mode : DrmDisplayMode) :
    (products mode).Fit ↔ mode.htotal.toNat * mode.vtotal.toNat < 2 ^ 31 ∧
    mode.pixels ≤ 2045246299 := by
  unfold Products.Fit
  rw [frame_fits_iff]
  apply and_congr_right
  intro frame
  rw [(products mode).clock_eq, pixelRate_eq frame]
  constructor
  · rintro ⟨pixels, clock⟩
    have small : mode.pixels < 2 ^ 31 := by omega
    rw [fixedMul_fudge small] at clock
    exact (clock_fits_iff small).mp clock
  · intro bound
    have small : mode.pixels < 2 ^ 31 := by omega
    rw [fixedMul_fudge small]
    exact ⟨by omega, (clock_fits_iff small).mpr bound⟩

theorem clock_eq (fit : (products mode).Fit) :
    (products mode).clock = mode.pixels * cutFudge mode.pixels := by
  obtain ⟨frame, pixels⟩ := (fit_iff mode).mp fit
  rw [(products mode).clock_eq, pixelRate_eq frame, fixedMul_fudge (by omega)]

/-! ## The result -/

section Lawful
variable {drm : DrmFixed}

theorem toNat_fudge (lawful : drm.Lawful) : (drm.fromFraction 105 100).toNat = fudge := by
  have value := lawful.fromFraction 105 100 (by decide) (by decide) (by decide) (by decide)
  rw [value]
  rfl

theorem toNat_modeNumber (lawful : drm.Lawful) {n : U32} (small : n.toNat < 2 ^ 31) :
    (drm.fromFraction (n.signExtend 64) 1).toNat = n.toNat * 2 ^ 32 := by
  have value := toNat_signExtend_of_small small
  rw [toNat_fromInt lawful (by rw [value]; exact small), value]

theorem toNat_modeClock (lawful : drm.Lawful) (fit : (products mode).Fit) :
    (modeClock drm mode).toNat = (products mode).clock := by
  obtain ⟨_, htotalSmall, vtotalSmall, vrefreshSmall⟩ := mode.positive
  have htotal := toNat_modeNumber lawful htotalSmall
  have vtotal := toNat_modeNumber lawful vtotalSmall
  have vrefresh := toNat_modeNumber lawful vrefreshSmall
  have factor := toNat_fudge lawful
  obtain ⟨frameFits, pixelsFit, clockFits⟩ := fit
  have frame := lawful.mul (drm.fromFraction (mode.htotal.signExtend 64) 1)
    (drm.fromFraction (mode.vtotal.signExtend 64) 1) (by omega) (by omega)
    (by rw [htotal, vtotal, ← (products mode).frame_eq]; exact frameFits)
  rw [htotal, vtotal, ← (products mode).frame_eq] at frame
  have pixels :=
    lawful.mul _ (drm.fromFraction (mode.vrefresh.signExtend 64) 1) (by rw [frame]; exact frameFits)
    (by omega) (by rw [frame, vrefresh, ← (products mode).pixels_eq]; exact pixelsFit)
  rw [frame, vrefresh, ← (products mode).pixels_eq] at pixels
  have clock := lawful.mul _ (drm.fromFraction 105 100) (by rw [pixels]; exact pixelsFit)
    (by rw [factor]; decide) (by rw [pixels, factor, ← (products mode).clock_eq]; exact clockFits)
  rw [pixels, factor, ← (products mode).clock_eq] at clock
  exact clock

theorem slt_iff {a b : U64} (left : a.toNat < 2 ^ 63) (right : b.toNat < 2 ^ 63) :
    a.slt b = true ↔ a.toNat < b.toNat := by
  rw [BitVec.slt_eq_decide, decide_eq_true_iff, BitVec.toInt_eq_toNat_of_lt (by omega),
    BitVec.toInt_eq_toNat_of_lt (by omega), Int.ofNat_lt]

theorem toNat_half {a : U64} (small : a.toNat < 2 ^ 63) :
    (a.sshiftRight 1).toNat = a.toNat / 2 := by
  have positive : a.msb = false := by
    rw [BitVec.msb_eq_false_iff_two_mul_lt]
    omega
  rw [BitVec.sshiftRight_eq_of_msb_false positive, BitVec.toNat_ushiftRight,
    Nat.shiftRight_eq_div_pow,
    Nat.pow_one]

theorem half_lt_iff {rate clock : ℕ} (even : 2 ∣ clock) :
    rate * 2 ^ 32 < clock / 2 ↔ 2 * rate * 2 ^ 32 < clock := by
  obtain ⟨half, rfl⟩ := even
  rw [Nat.mul_div_cancel_left half (by decide)]
  omega

theorem getMixerCount_eq (lawful : drm.Lawful) {maxCoreClkRate : U64}
    {maxMixerWidth : U32} (small : maxCoreClkRate.toNat < 2 ^ 31) (fit : (products mode).Fit)
    (given : maxMixerWidth ≠ 0) :
    getMixerCount drm (some maxCoreClkRate) (some mode) maxMixerWidth =
      if maxCoreClkRate.toNat * 2 ^ 32 < mode.pixels * cutFudge mode.pixels ∨
          maxMixerWidth.toNat < mode.hdisplay.toNat then
        if 2 * maxCoreClkRate.toNat * 2 ^ 32 < mode.pixels * cutFudge mode.pixels then
          { code := einval, numLm := 2 }
        else { code := 0, numLm := 2 }
      else { code := 0, numLm := 1 } := by
  have clock := toNat_modeClock lawful fit
  rw [clock_eq fit] at clock
  have clockSmall : (modeClock drm mode).toNat < 2 ^ 63 := by
    rw [clock, ← clock_eq fit]
    exact fit.2.2
  have rate := toNat_fromInt lawful small
  have rateSmall : (drm.fromFraction maxCoreClkRate 1).toNat < 2 ^ 63 := by omega
  have half := toNat_half clockSmall
  have exceeds := slt_iff rateSmall clockSmall
  have overTwice := slt_iff (b := (modeClock drm mode).sshiftRight 1) rateSmall (by omega)
  -- the clock is even, so that nothing is lost when it is halved
  have even : 2 ∣ mode.pixels * cutFudge mode.pixels := Dvd.dvd.mul_left (two_dvd_cutFudge _) _
  rw [half, clock, rate, half_lt_iff even] at overTwice
  rw [clock, rate] at exceeds
  simp only [getMixerCount, if_neg given, exceeds, overTwice, BitVec.lt_def]

end Lawful

/-! ## When the result is sound -/

def Cut (maxCoreClkRate : U64) (mode : DrmDisplayMode) (mixers : ℕ) : Prop :=
  100 * (mixers * maxCoreClkRate.toNat) < 105 * mode.pixels ∧
  mode.pixels * cutFudge mode.pixels ≤ mixers * maxCoreClkRate.toNat * 2 ^ 32

structure Decided (maxCoreClkRate : U64) (mode : DrmDisplayMode) (maxMixerWidth : U32) : Prop where
  frame : mode.htotal.toNat * mode.vtotal.toNat < 2 ^ 31
  pixels : mode.pixels ≤ 2045246299
  one : mode.hdisplay.toNat ≤ maxMixerWidth.toNat → ¬Cut maxCoreClkRate mode 1
  two : ¬Cut maxCoreClkRate mode 2
  width : mode.hdisplay.toNat ≤ 2 * maxMixerWidth.toNat ∨
    2 * maxCoreClkRate.toNat * 2 ^ 32 < mode.pixels * cutFudge mode.pixels

theorem not_cut_iff (maxCoreClkRate : U64) (mode : DrmDisplayMode) (mixers : ℕ) :
    ¬Cut maxCoreClkRate mode mixers ↔
      (mode.pixels * cutFudge mode.pixels ≤ mixers * maxCoreClkRate.toNat * 2 ^ 32 →
        105 * mode.pixels * 2 ^ 32 ≤ 100 * (mixers * maxCoreClkRate.toNat * 2 ^ 32 + 1)) := by
  unfold Cut
  generalize mode.pixels * cutFudge mode.pixels = clock
  generalize mixers * maxCoreClkRate.toNat = rate
  omega

/-- The function is sound exactly where it is called without a width, which is an error, or decides
    rightly. -/
theorem sound_iff {drm : DrmFixed} (lawful : drm.Lawful) (maxCoreClkRate : U64)
    (mode : DrmDisplayMode)
    (maxMixerWidth : U32) (small : maxCoreClkRate.toNat < 2 ^ 31) :
    Sound drm maxCoreClkRate mode maxMixerWidth ↔
      maxMixerWidth = 0 ∨ Decided maxCoreClkRate mode maxMixerWidth := by
  by_cases given : maxMixerWidth = 0
  · subst given
    simp [Sound, getMixerCount, einval]
  · rw [or_iff_right given]
    by_cases fit : (products mode).Fit
    · obtain ⟨frame, pixels⟩ := (fit_iff mode).mp fit
      have returned := getMixerCount_eq lawful small fit given
      have one := not_cut_iff maxCoreClkRate mode 1
      have two := not_cut_iff maxCoreClkRate mode 2
      have known : Sound drm maxCoreClkRate mode maxMixerWidth ↔ _ := and_iff_right fun _ => fit
      rw [known, returned]
      constructor
      · intro suffice
        refine ⟨frame, pixels, fun narrow => one.mpr fun below => ?_, two.mpr fun below => ?_, ?_⟩
        · -- one mixer is enough for the function
          rw [if_neg (by omega)] at suffice
          have enough : Suffice maxCoreClkRate mode maxMixerWidth 1 := suffice rfl
          exact enough.2
        · by_cases more : maxCoreClkRate.toNat * 2 ^ 32 < mode.pixels * cutFudge mode.pixels ∨
            maxMixerWidth.toNat < mode.hdisplay.toNat
          · rw [if_pos more, if_neg (by omega)] at suffice
            have enough : Suffice maxCoreClkRate mode maxMixerWidth 2 := suffice rfl
            exact enough.2
          · rw [if_neg more] at suffice
            have enough : Suffice maxCoreClkRate mode maxMixerWidth 1 := suffice rfl
            have fewer : 1 * maxCoreClkRate.toNat * 2 ^ 32 ≤ 2 * maxCoreClkRate.toNat * 2 ^ 32 := by
              rw [Nat.mul_assoc, Nat.mul_assoc]
              exact Nat.mul_le_mul_right _ (by decide)
            exact Nat.le_trans enough.2 (Nat.mul_le_mul_left _ (Nat.add_le_add_right fewer _))
        · by_cases exceeds : 2 * maxCoreClkRate.toNat * 2 ^ 32 < mode.pixels * cutFudge mode.pixels
          · exact .inr exceeds
          · left
            by_cases more : maxCoreClkRate.toNat * 2 ^ 32 < mode.pixels * cutFudge mode.pixels ∨
              maxMixerWidth.toNat < mode.hdisplay.toNat
            · rw [if_pos more, if_neg (by omega)] at suffice
              have enough : Suffice maxCoreClkRate mode maxMixerWidth 2 := suffice rfl
              exact enough.1
            · omega
      · intro decided
        have oneFits := fun narrow => one.mp (decided.one narrow)
        have twoFit := two.mp decided.two
        have wide := decided.width
        split
        next more =>
          split
          next exceeds =>
            intro zero
            cases zero
          next under =>
            intro _
            have enough : Suffice maxCoreClkRate mode maxMixerWidth 2 :=
              ⟨by omega, twoFit (by omega)⟩
            exact enough
        next single =>
          intro _
          have enough : Suffice maxCoreClkRate mode maxMixerWidth 1 :=
            ⟨by omega, oneFits (by omega) (by omega)⟩
          exact enough
    · constructor
      · intro sound
        exact absurd (sound.1 given) fit
      · intro decided
        exact absurd ((fit_iff mode).mpr ⟨decided.frame, decided.pixels⟩) fit

def fullHd : DrmDisplayMode where
  hdisplay := 1920
  htotal := 2200
  vtotal := 1125
  vrefresh := 60
  positive := by decide

theorem sound_fullHd : wordDrmFixed.Lawful ∧ (430000000 : U64).toNat < 2 ^ 31 ∧
    (Sound wordDrmFixed 430000000 fullHd 2560 ↔ (2560 : U32) = 0 ∨ Decided 430000000 fullHd 2560) :=
  ⟨wordDrmFixed_lawful, by decide, sound_iff wordDrmFixed_lawful 430000000 fullHd 2560 (by decide)⟩

def wide : DrmDisplayMode where
  hdisplay := 10000
  htotal := 10200
  vtotal := 1000
  vrefresh := 30
  positive := by decide

/-- Its width is compared with one mixer, and it is given two. -/
theorem not_sound_wide : getMixerCount wordDrmFixed (some 430000000) (some wide) 2560 =
    { code := 0, numLm := 2 } ∧
    ¬Sound wordDrmFixed 430000000 wide 2560 := by
  have returned : getMixerCount wordDrmFixed (some 430000000) (some wide) 2560 =
    { code := 0, numLm := 2 } := by
    decide +kernel
  refine ⟨returned, fun sound => ?_⟩
  have suffice := sound.2
  rw [returned] at suffice
  exact absurd (suffice rfl).1 (by decide)

end DisplayDrivers.Kms.MixerCount
