import Mathlib.Data.BitVec
import Mathlib.Tactic.Ring
import DisplayDrivers.Format.Layout

/-! # The addresses of a region of a frame buffer

Writeback of a part of a linear frame buffer starts at the first sample of the region in each plane.
-/

namespace DisplayDrivers.Format

/-- `struct sde_rect`. -/
structure SdeRect where
  x : BitVec 16
  y : BitVec 16
  w : BitVec 16
  h : BitVec 16

def sdeFormatCalcOffsetLinear (source : HwFmtLayout) (x y : U32) : HwFmtLayout :=
  if x = 0 ∧ y = 0 then source
  else
    let source := source.setAddr 0 (source.planeAddr 0 + y * source.planePitch 0)
    if source.numPlanes = 1 then source.setAddr 0 (source.planeAddr 0 + x * source.format.bpp)
    else
      let xoff := x / (sdeGetVHSubsampleRate source.format.chromaSample).2
      let yoff := y / (sdeGetVHSubsampleRate source.format.chromaSample).1
      let source := source.setAddr 0 (source.planeAddr 0 + x)
      let source := source.setAddr 1 (source.planeAddr 1 + (xoff + yoff * source.planePitch 1))
      if source.numPlanes = 2 then source.setAddr 1 (source.planeAddr 1 + xoff)
      else source.setAddr 2 (source.planeAddr 2 + (xoff + yoff * source.planePitch 2))

section Roi
variable (media : MsmMediaInfo) (aspace : Option ℕ) (fb : Framebuffer)

structure SdeRect.Inside (roi : SdeRect) (fb : Framebuffer) : Prop where
  wide : roi.w ≠ 0
  high : roi.h ≠ 0
  right : roi.x.toNat + roi.w.toNat ≤ fb.width.toNat
  bottom : roi.y.toNat + roi.h.toNat ≤ fb.height.toNat

def sdeFormatPopulateLayoutWithRoi (roi : Option SdeRect) (layout : HwFmtLayout) :
    Int × HwFmtLayout :=
  let (ret, layout) := sdeFormatPopulateLayout aspace fb media layout
  match roi with
  | none => (ret, layout)
  | some roi =>
    if ret ≠ 0 then (ret, layout)
    else if roi.w = 0 ∨ roi.h = 0 ∨ roi.x.toNat + roi.w.toNat > fb.width.toNat ∨
        roi.y.toNat + roi.h.toNat > fb.height.toNat then (-EINVAL, layout)
    else if layout.format.isLinear then
      let layout := sdeFormatCalcOffsetLinear layout (roi.x.setWidth 32) (roi.y.setWidth 32)
      (0, { layout with width := roi.w.setWidth 32, height := roi.h.setWidth 32 })
    else if roi.x ≠ 0 ∨ roi.y ≠ 0 ∨ roi.w.toNat ≠ fb.width.toNat ∨
        roi.h.toNat ≠ fb.height.toNat then (-EINVAL, layout)
    else (0, layout)

end Roi

/-! ## The first sample of a region -/

def planeRow (fmt : SdeFormat) (y i : ℕ) : ℕ := if i = 0 then y else y / vSubsample fmt
def planeColumn (fmt : SdeFormat) (x i : ℕ) : ℕ := if i = 0 then x else x / hSubsample fmt

def groupBytes (fmt : SdeFormat) (i : ℕ) : ℕ :=
  match fmt.fetchPlanes, i with
  | .interleaved, _ => fmt.bpp.toNat
  | .pseudoPlanar, 0 | .planar, _ => lumaBytes fmt
  | .pseudoPlanar, _ => 2 * lumaBytes fmt

def firstSample (aspace : Option ℕ) (fb : Framebuffer) (roi : SdeRect) (i : ℕ) : U32 :=
  fbAddr aspace fb i + BitVec.ofNat 32
    (planeRow fb.format roi.y.toNat i * (fb.pitches i).toNat +
      planeColumn fb.format roi.x.toNat i * groupBytes fb.format i)

def AtFirstSamples (media : MsmMediaInfo) (aspace : Option ℕ) (fb : Framebuffer) (roi : SdeRect)
    (held : HwFmtLayout) : Prop :=
  (sdeFormatPopulateLayoutWithRoi media aspace fb (some roi) held).1 = 0 ∧
    ∀ i < planeCount fb.format,
      (sdeFormatPopulateLayoutWithRoi media aspace fb (some roi) held).2.planeAddr i =
        firstSample aspace fb roi i

/-! ## The layout of a linear buffer before the region -/

theorem linear_modes (fmt : SdeFormat) (linear : fmt.isLinear) :
    ¬ (fmt.isUbwc ∨ fmt.isTile) := by
  have mode : fmt.fetchMode = .linear := by simpa [SdeFormat.isLinear] using linear
  simp [SdeFormat.isUbwc, SdeFormat.isTile, mode]

structure Placed (aspace : Option ℕ) (fb : Framebuffer) (layout : HwFmtLayout) : Prop where
  format : layout.format = fb.format
  count : layout.numPlanes = planeCount fb.format
  addr : ∀ i < planeCount fb.format, layout.planeAddr i = fbAddr aspace fb i
  pitch : ∀ i < planeCount fb.format, layout.planePitch i = fb.pitches i

section Region
variable {media : MsmMediaInfo} {aspace : Option ℕ} {fb : Framebuffer} {held layout : HwFmtLayout}
variable {roi : SdeRect}

theorem placed_of_populated (listed : fb.format ∈ sdeFormats) (linear : fb.format.isLinear)
    (populated : sdeFormatPopulateLayout aspace fb media held = (0, layout)) :
    Placed aspace fb layout := by
  obtain ⟨sized, computed, placeable, -, rfl⟩ := populated_cases populated (.inl rfl)
  have shape := sized_of_getPlaneSizes computed
  have other := linear_modes fb.format linear
  obtain ⟨⟨wide, high⟩, -⟩ := getPlaneSizes_cases listed computed
  cases kind_of_getPlaneSizes computed with
  | inl ubwc => exact absurd ubwc.1 other
  | inr sizes =>
    have measured := linear_measured listed wide high sizes.2
    rw [Placeable, shape.format, if_neg other, measured.count] at placeable
    constructor
    · exact shape.format
    · exact measured.count
    · intro i used
      simp only [placement, shape.format, if_neg other, measured.count, used, if_true]
    · intro i used
      -- the pitch was raised to that of the user, and found not to be above it
      have raised := measured.pitch i used
      have below : (sized.planePitch i).toNat ≤ (fb.pitches i).toNat := (placeable i used).1
      show sized.planePitch i = fb.pitches i
      exact BitVec.eq_of_toNat_eq (by omega)

theorem withRoi_of_inside (inside : roi.Inside fb) (linear : fb.format.isLinear)
    (populated : sdeFormatPopulateLayout aspace fb media held = (0, layout))
    (format : layout.format = fb.format) :
    (sdeFormatPopulateLayoutWithRoi media aspace fb (some roi) held).1 = 0 ∧
      (sdeFormatPopulateLayoutWithRoi media aspace fb (some roi) held).2.planeAddr =
        (sdeFormatCalcOffsetLinear layout (roi.x.setWidth 32)
          (roi.y.setWidth 32)).planeAddr := by
  have right := inside.right
  have bottom := inside.bottom
  have accepted : ¬ (roi.w = 0 ∨ roi.h = 0 ∨ roi.x.toNat + roi.w.toNat > fb.width.toNat ∨
      roi.y.toNat + roi.h.toNat > fb.height.toNat) := by
    simp only [inside.wide, inside.high, false_or]
    omega
  simp only [sdeFormatPopulateLayoutWithRoi, populated, accepted, if_false, ne_eq,
    not_true_eq_false, format, linear, if_true, and_self]

/-! ## The offsets as words -/

theorem ofNat_div (x : BitVec 16) (d : U32) :
    BitVec.ofNat 32 (x.toNat / d.toNat) = x.setWidth 32 / d := by
  apply BitVec.eq_of_toNat_eq
  have small : x.toNat < 65536 := x.isLt
  have below := Nat.div_le_self x.toNat d.toNat
  rw [BitVec.toNat_udiv, BitVec.toNat_ofNat, BitVec.toNat_setWidth, Nat.mod_eq_of_lt (by omega),
    Nat.mod_eq_of_lt (by omega)]

theorem firstSample_luma :
    firstSample aspace fb roi 0 = fbAddr aspace fb 0 + (roi.y.setWidth 32 * fb.pitches 0 +
      roi.x.setWidth 32 * BitVec.ofNat 32 (groupBytes fb.format 0)) := by
  simp [firstSample, planeRow, planeColumn, BitVec.ofNat_add, BitVec.ofNat_mul]

theorem firstSample_chroma {i : ℕ} (chroma : i ≠ 0) :
    firstSample aspace fb roi i = fbAddr aspace fb i +
      (roi.y.setWidth 32 / (sdeGetVHSubsampleRate fb.format.chromaSample).1 * fb.pitches i +
        roi.x.setWidth 32 / (sdeGetVHSubsampleRate fb.format.chromaSample).2 *
          BitVec.ofNat 32 (groupBytes fb.format i)) := by
  simp only [firstSample, planeRow, planeColumn, chroma, if_false, BitVec.ofNat_add,
    BitVec.ofNat_mul, vSubsample, hSubsample, ofNat_div, BitVec.ofNat_toNat, BitVec.setWidth_eq]

/-! ## Where the code moves the addresses -/

theorem calcOffset_packed (x y : U32) (count : layout.numPlanes = 1) :
    (sdeFormatCalcOffsetLinear layout x y).planeAddr 0 =
      layout.planeAddr 0 + (y * layout.planePitch 0 + x * layout.format.bpp) := by
  unfold sdeFormatCalcOffsetLinear
  split
  case isTrue corner => simp [corner.1, corner.2]
  case isFalse moved =>
    have one : (layout.setAddr 0 (layout.planeAddr 0 + y * layout.planePitch 0)).numPlanes = 1 :=
      count
    simp only [one, if_true, setAddr_planeAddr]
    exact BitVec.add_assoc _ _ _

theorem calcOffset_luma (x y : U32) (count : layout.numPlanes ≠ 1) :
    (sdeFormatCalcOffsetLinear layout x y).planeAddr 0 =
      layout.planeAddr 0 + (y * layout.planePitch 0 + x) := by
  unfold sdeFormatCalcOffsetLinear
  split
  case isTrue corner => simp [corner.1, corner.2]
  case isFalse moved =>
    simp only [HwFmtLayout.setAddr, count, if_false]
    split <;> simp [BitVec.add_assoc]

theorem calcOffset_pair (x y : U32) (count : layout.numPlanes = 2) :
    (sdeFormatCalcOffsetLinear layout x y).planeAddr 1 = layout.planeAddr 1 +
      (y / (sdeGetVHSubsampleRate layout.format.chromaSample).1 * layout.planePitch 1 +
        x / (sdeGetVHSubsampleRate layout.format.chromaSample).2 * 2) := by
  unfold sdeFormatCalcOffsetLinear
  split
  case isTrue corner => simp [corner.1, corner.2]
  case isFalse moved =>
    simp only [HwFmtLayout.setAddr, count, OfNat.ofNat_ne_one, one_ne_zero, if_true, if_false]
    ring

theorem calcOffset_planar (x y : U32) (count : layout.numPlanes = 3) {i : ℕ}
    (chroma : i = 1 ∨ i = 2) :
    (sdeFormatCalcOffsetLinear layout x y).planeAddr i = layout.planeAddr i +
      (y / (sdeGetVHSubsampleRate layout.format.chromaSample).1 * layout.planePitch i +
        x / (sdeGetVHSubsampleRate layout.format.chromaSample).2) := by
  unfold sdeFormatCalcOffsetLinear
  split
  case isTrue corner => simp [corner.1, corner.2]
  case isFalse moved =>
    rcases chroma with rfl | rfl
    · simp [HwFmtLayout.setAddr, count, add_comm]
    · simp [HwFmtLayout.setAddr, count, add_comm]

/-! ## When the region is addressed -/

theorem groupBytes_interleaved {fmt : SdeFormat} (packed : fmt.fetchPlanes = .interleaved) :
    BitVec.ofNat 32 (groupBytes fmt 0) = fmt.bpp := by
  simp [groupBytes, packed]

theorem pseudoPlanar_of_wide_luma :
    ∀ fmt ∈ sdeFormats, lumaBytes fmt ≠ 1 → fmt.fetchPlanes = .pseudoPlanar := by decide

theorem lumaBytes_pos (fmt : SdeFormat) : 0 < lumaBytes fmt := by
  unfold lumaBytes lumaBpp
  split <;> decide

theorem interleaved_at (placed : Placed aspace fb layout)
    (packed : fb.format.fetchPlanes = .interleaved) : ∀ i < planeCount fb.format,
      (sdeFormatCalcOffsetLinear layout (roi.x.setWidth 32) (roi.y.setWidth 32)).planeAddr i =
        firstSample aspace fb roi i := by
  have one : planeCount fb.format = 1 := by simp [planeCount, packed]
  intro i used
  obtain rfl : i = 0 := by omega
  rw [calcOffset_packed _ _ (placed.count.trans one), placed.addr 0 used, placed.pitch 0 used,
    placed.format, firstSample_luma, groupBytes_interleaved packed]

theorem planar_at (placed : Placed aspace fb layout) (planar : fb.format.fetchPlanes = .planar)
    (single : lumaBytes fb.format = 1) : ∀ i < planeCount fb.format,
      (sdeFormatCalcOffsetLinear layout (roi.x.setWidth 32) (roi.y.setWidth 32)).planeAddr i =
        firstSample aspace fb roi i := by
  have three : planeCount fb.format = 3 := by simp [planeCount, planar]
  have count := placed.count.trans three
  have bytes : ∀ i, groupBytes fb.format i = 1 := by
    intro i
    simp [groupBytes, planar, single]
  intro i used
  by_cases luma : i = 0
  · obtain rfl := luma
    rw [calcOffset_luma _ _ (by omega), placed.addr 0 used, placed.pitch 0 used,
      firstSample_luma, bytes]
    simp
  · rw [calcOffset_planar _ _ count (by omega), placed.addr i used, placed.pitch i used,
      placed.format, firstSample_chroma luma, bytes]
    simp

theorem pseudoPlanar_at_iff (placed : Placed aspace fb layout)
    (pseudo : fb.format.fetchPlanes = .pseudoPlanar) :
    (∀ i < planeCount fb.format,
      (sdeFormatCalcOffsetLinear layout (roi.x.setWidth 32) (roi.y.setWidth 32)).planeAddr i =
        firstSample aspace fb roi i) ↔ lumaBytes fb.format = 1 ∨ roi.x = 0 := by
  have two : planeCount fb.format = 2 := by simp [planeCount, pseudo]
  have count := placed.count.trans two
  have luma : groupBytes fb.format 0 = lumaBytes fb.format := by simp [groupBytes, pseudo]
  have pair : groupBytes fb.format 1 = 2 * lumaBytes fb.format := by simp [groupBytes, pseudo]
  have first := @calcOffset_luma layout (roi.x.setWidth 32) (roi.y.setWidth 32) (by omega)
  have second := calcOffset_pair (roi.x.setWidth 32) (roi.y.setWidth 32) count
  rw [placed.addr 0 (by omega), placed.pitch 0 (by omega)] at first
  rw [placed.addr 1 (by omega), placed.pitch 1 (by omega), placed.format] at second
  constructor
  · intro at_first
    have plane0 := at_first 0 (by omega)
    rw [first, firstSample_luma, luma] at plane0
    have columns : roi.x.setWidth 32 =
        roi.x.setWidth 32 * BitVec.ofNat 32 (lumaBytes fb.format) :=
      add_left_cancel (add_left_cancel plane0)
    have few := lumaBytes_le_two fb.format
    have some := lumaBytes_pos fb.format
    -- a column that is its own double is 0, as a region's columns are small
    by_cases single : lumaBytes fb.format = 1
    · exact .inl single
    · have double : lumaBytes fb.format = 2 := by omega
      have small : roi.x.toNat < 65536 := roi.x.isLt
      rw [double] at columns
      have numbers := congrArg BitVec.toNat columns
      simp only [BitVec.toNat_mul, BitVec.toNat_setWidth, BitVec.toNat_ofNat] at numbers
      exact .inr (BitVec.eq_of_toNat_eq (by simp; omega))
  · intro right i used
    have cases : i = 0 ∨ i = 1 := by omega
    rcases cases with rfl | rfl
    · rw [first, firstSample_luma, luma]
      cases right with
      | inl single => simp [single]
      | inr edge => simp [edge]
    -- a pair has the same fault as a luma sample, at the same regions
    · rw [second, firstSample_chroma (by omega), pair]
      cases right with
      | inl single => simp [single]
      | inr edge => simp [edge]

/-- The region is addressed unless the samples have two bytes and it begins right of the edge. -/
theorem atFirstSamples_iff (listed : fb.format ∈ sdeFormats) (linear : fb.format.isLinear)
    (inside : roi.Inside fb)
    (populated : (sdeFormatPopulateLayout aspace fb media held).1 = 0) :
    AtFirstSamples media aspace fb roi held ↔ lumaBytes fb.format = 1 ∨ roi.x = 0 := by
  obtain ⟨layout, returned⟩ : ∃ layout,
      sdeFormatPopulateLayout aspace fb media held = (0, layout) :=
    ⟨_, Prod.ext populated rfl⟩
  have placed := placed_of_populated listed linear returned
  obtain ⟨succeeds, addresses⟩ := withRoi_of_inside inside linear returned placed.format
  simp only [AtFirstSamples, succeeds, addresses, true_and]
  cases kind : fb.format.fetchPlanes with
  | pseudoPlanar => exact pseudoPlanar_at_iff placed kind
  | interleaved =>
    have single : lumaBytes fb.format = 1 := by
      by_contra wide
      simp [pseudoPlanar_of_wide_luma fb.format listed wide] at kind
    simp only [single, true_or, iff_true]
    exact interleaved_at placed kind
  | planar =>
    have single : lumaBytes fb.format = 1 := by
      by_contra wide
      simp [pseudoPlanar_of_wide_luma fb.format listed wide] at kind
    simp only [single, true_or, iff_true]
    exact planar_at placed kind single

end Region

/-! ### Regions of a 10-bit frame buffer of 64 by 64 pixels -/

def p010Buffer : Framebuffer where
  format := p010
  width := 64
  height := 64
  pitches _ := 128
  offsets plane := if plane = 0 then 0 else 8192
  planes _ := some { iova := fun _ => 4096, dmaAddr := 4096 }

def regionAt (x : BitVec 16) : SdeRect := { x, y := 2, w := 16, h := 16 }

theorem atFirstSamples_iff_p010 :
    AtFirstSamples noMedia none p010Buffer (regionAt 0) (resetLayout p010 0 0) ↔
      lumaBytes p010 = 1 ∨ (regionAt 0).x = 0 :=
  atFirstSamples_iff (by decide) (by decide)
    { wide := by decide, high := by decide, right := by decide, bottom := by decide } (by decide)

/-- Sixteen samples to the right are sixteen bytes to the right, not thirty-two. -/
theorem not_atFirstSamples :
    ¬ ∀ (media : MsmMediaInfo) (aspace : Option ℕ) (fb : Framebuffer) (roi : SdeRect)
        (held : HwFmtLayout),
      fb.format ∈ sdeFormats → fb.format.isLinear → roi.Inside fb →
        hSubsample fb.format ∣ roi.x.toNat → vSubsample fb.format ∣ roi.y.toNat →
          (sdeFormatPopulateLayout aspace fb media held).1 = 0 →
            AtFirstSamples media aspace fb roi held := by
  intro placed
  have inside : (regionAt 16).Inside p010Buffer :=
    { wide := by decide, high := by decide, right := by decide, bottom := by decide }
  have first := (placed noMedia none p010Buffer (regionAt 16) (resetLayout p010 0 0) (by decide)
    (by decide) inside (by decide) (by decide) (by decide)).2 0 (by decide)
  revert first
  decide

end DisplayDrivers.Format
