import Mathlib.Algebra.Group.Nat.Defs
import Mathlib.Algebra.GroupWithZero.Nat
import Mathlib.Algebra.Order.Group.Nat
import Mathlib.Algebra.BigOperators.Group.List.Basic
import Mathlib.Data.List.Dedup
import DisplayDrivers.Format.Formats

/-! # What the size check of a frame buffer covers

`minPitch` and `rows` say what a plane of a linear buffer needs; the layout of an accepted buffer
has the planes of exactly that size (`Measured`), whatever the pitch of the user is.
-/

namespace DisplayDrivers.Format

/-! ## Exact words -/

theorem toNat_mul_exact {a b : U32} (fits : a.toNat * b.toNat < 4294967296) :
    (a * b).toNat = a.toNat * b.toNat := by
  rw [BitVec.toNat_mul, Nat.mod_eq_of_lt fits]

theorem toNat_add_exact {a b : U32} (fits : a.toNat + b.toNat < 4294967296) :
    (a + b).toNat = a.toNat + b.toNat := by
  rw [BitVec.toNat_add, Nat.mod_eq_of_lt fits]

/-! ## What a plane needs -/

def vSubsample (fmt : SdeFormat) : ℕ := (sdeGetVHSubsampleRate fmt.chromaSample).1.toNat
def hSubsample (fmt : SdeFormat) : ℕ := (sdeGetVHSubsampleRate fmt.chromaSample).2.toNat

def lumaBytes (fmt : SdeFormat) : ℕ := (lumaBpp fmt).toNat

def planeCount (fmt : SdeFormat) : ℕ :=
  match fmt.fetchPlanes with
  | .interleaved => 1
  | .pseudoPlanar => 2
  | .planar => 3

def rows (fmt : SdeFormat) (height : U32) (i : ℕ) : ℕ :=
  if i = 0 then height.toNat else height.toNat / vSubsample fmt

def minPitch (fmt : SdeFormat) (width : U32) (i : ℕ) : ℕ :=
  match fmt.fetchPlanes, i with
  | .interleaved, _ => width.toNat * fmt.bpp.toNat
  | .pseudoPlanar, 0 | .planar, 0 => width.toNat * lumaBytes fmt
  | .pseudoPlanar, _ => width.toNat * lumaBytes fmt / hSubsample fmt * 2
  | .planar, _ => width.toNat * lumaBytes fmt / hSubsample fmt

def planeBytes (fmt : SdeFormat) (width height : U32) (i : ℕ) : ℕ :=
  minPitch fmt width i * rows fmt height i

def imageBytes (fmt : SdeFormat) (width height : U32) : ℕ :=
  ((List.range (planeCount fmt)).map (planeBytes fmt width height)).sum

/-! ## The formats of the tables -/

theorem bpp_le_four : ∀ fmt ∈ sdeFormats, fmt.bpp.toNat ≤ 4 := by decide

theorem hSubsample_eq_two :
    ∀ fmt ∈ sdeFormats, fmt.fetchPlanes ≠ .interleaved → hSubsample fmt = 2 := by decide

theorem planar_of_three_planes :
    ∀ fmt ∈ sdeFormats, fmt.pixelFormat = .yuv420 ∨ fmt.pixelFormat = .yvu420 →
      fmt.fetchPlanes = .planar ∧ fmt.chromaSample = .c420 ∧ fmt.isLinear = true := by decide

theorem linear_or_ubwc :
    ∀ fmt ∈ sdeFormats, fmt.isLinear = !(fmt.isUbwc || fmt.isTile) := by decide

theorem lumaBytes_le_two (fmt : SdeFormat) : lumaBytes fmt ≤ 2 := by
  unfold lumaBytes lumaBpp
  split <;> decide

/-! ## The layout of a linear buffer -/

variable (pitches : Option (ℕ → U32))

@[simp] theorem raisePitches_numPlanes (layout : HwFmtLayout) :
    (raisePitches pitches layout).numPlanes = layout.numPlanes := by
  cases pitches <;> rfl

@[simp] theorem raisePitches_planeSize (layout : HwFmtLayout) :
    (raisePitches pitches layout).planeSize = layout.planeSize := by
  cases pitches <;> rfl

@[simp] theorem raisePitches_totalSize (layout : HwFmtLayout) :
    (raisePitches pitches layout).totalSize = layout.totalSize := by
  cases pitches <;> rfl

variable {layout : HwFmtLayout}

theorem raisePitches_planePitch (asked : ℕ → U32) {i : ℕ}
    (used : i < layout.numPlanes) (few : layout.numPlanes ≤ SDE_MAX_PLANES) :
    ((raisePitches (some asked) layout).planePitch i).toNat =
      max (layout.planePitch i).toNat (asked i).toNat := by
  have inside : i < SDE_MAX_PLANES := by omega
  simp only [raisePitches, used, inside, true_and, BitVec.lt_def]
  split <;> omega

theorem layoutOf_totalSize (fmt : SdeFormat) (width height : U32) (numPlanes : ℕ)
    {first second third fourth : PlaneExtent}
    (fits : first.size.toNat + second.size.toNat + third.size.toNat + fourth.size.toNat <
      4294967296) :
    (layoutOf fmt width height numPlanes first second third fourth).totalSize.toNat =
      first.size.toNat + second.size.toNat + third.size.toNat + fourth.size.toNat := by
  simp only [layoutOf, totalSizeOf, SDE_MAX_PLANES, List.range_succ, List.range_zero,
    List.nil_append, List.foldl_append, List.foldl_cons, List.foldl_nil, planes,
    BitVec.toNat_add]
  simp only [BitVec.ofNat_eq_ofNat, BitVec.toNat_ofNat]
  omega

structure Measured (fmt : SdeFormat) (width height : U32) (asked : ℕ → U32)
    (layout : HwFmtLayout) : Prop where
  count : layout.numPlanes = planeCount fmt
  size : ∀ i < planeCount fmt, (layout.planeSize i).toNat = planeBytes fmt width height i
  pitch : ∀ i < planeCount fmt,
    (layout.planePitch i).toNat = max (minPitch fmt width i) (asked i).toNat
  total : layout.totalSize.toNat = imageBytes fmt width height

section Linear
variable {fmt : SdeFormat} {width height : U32} {asked : ℕ → U32}

theorem area_le (wide : width ≤ SDE_MAX_IMG_WIDTH) (high : height ≤ SDE_MAX_IMG_HEIGHT) {k : ℕ}
    (few : k ≤ 4) : width.toNat * k * height.toNat ≤ 1073610756 := by
  have w : width.toNat ≤ 16383 := wide
  have h : height.toNat ≤ 16383 := high
  calc width.toNat * k * height.toNat ≤ 16383 * 4 * 16383 :=
        Nat.mul_le_mul (Nat.mul_le_mul w few) h
    _ = 1073610756 := rfl

theorem measured_layoutOf {first second third : PlaneExtent}
    (pitches : ∀ i < planeCount fmt,
      (planes first.pitch second.pitch third.pitch 0 i).toNat = minPitch fmt width i)
    (sizes : ∀ i < planeCount fmt,
      (planes first.size second.size third.size 0 i).toNat = planeBytes fmt width height i)
    (total : first.size.toNat + second.size.toNat + third.size.toNat = imageBytes fmt width height)
    (fits : imageBytes fmt width height < 4294967296) :
    Measured fmt width height asked (raisePitches (some asked)
      (layoutOf fmt width height (planeCount fmt) first second third .unused)) := by
  have few : planeCount fmt ≤ SDE_MAX_PLANES := by
    unfold planeCount SDE_MAX_PLANES
    split <;> omega
  have unused : PlaneExtent.unused.size.toNat = 0 := rfl
  exact
    { count := raisePitches_numPlanes _ _
      size := by
        intro i used
        rw [raisePitches_planeSize]
        exact sizes i used
      pitch := by
        intro i used
        rw [raisePitches_planePitch asked used few, ← pitches i used]
        rfl
      total := by
        rw [raisePitches_totalSize, layoutOf_totalSize _ _ _ _ (by omega)]
        omega }

theorem interleaved_measured (listed : fmt ∈ sdeFormats) (packed : fmt.fetchPlanes = .interleaved)
    (wide : width ≤ SDE_MAX_IMG_WIDTH) (high : height ≤ SDE_MAX_IMG_HEIGHT) :
    Measured fmt width height asked (raisePitches (some asked) (layoutOf fmt width height 1
      (interleavedExtent fmt width height) .unused .unused .unused)) := by
  have one : planeCount fmt = 1 := by simp [planeCount, packed]
  have area := area_le wide high (bpp_le_four fmt listed)
  have pixels : width.toNat * height.toNat ≤ 1073610756 := by
    simpa using area_le wide high (show 1 ≤ 4 by omega)
  have row : width.toNat * fmt.bpp.toNat < 4294967296 := by
    have w : width.toNat ≤ 16383 := wide
    have := Nat.mul_le_mul w (bpp_le_four fmt listed)
    omega
  have swap : width.toNat * height.toNat * fmt.bpp.toNat =
      width.toNat * fmt.bpp.toNat * height.toNat := Nat.mul_right_comm _ _ _
  have count : (width * height).toNat = width.toNat * height.toNat :=
    toNat_mul_exact (by omega)
  have bytes : planeBytes fmt width height 0 = width.toNat * fmt.bpp.toNat * height.toNat := by
    simp [planeBytes, minPitch, rows, packed]
  have size : (interleavedExtent fmt width height).size.toNat = planeBytes fmt width height 0 := by
    rw [interleavedExtent, toNat_mul_exact (by rw [count]; omega), count, swap, bytes]
  have pitch : (interleavedExtent fmt width height).pitch.toNat = minPitch fmt width 0 := by
    rw [interleavedExtent, toNat_mul_exact row]
    simp [minPitch, packed]
  have image : imageBytes fmt width height = planeBytes fmt width height 0 := by
    simp [imageBytes, one]
  have unused : PlaneExtent.unused.size.toNat = 0 := rfl
  rw [← one]
  apply measured_layoutOf
  · intro i used
    obtain rfl : i = 0 := by omega
    exact pitch
  · intro i used
    obtain rfl : i = 0 := by omega
    exact size
  · omega
  · omega

/-! ### Subsampled formats -/

theorem chroma_pitch_le (listed : fmt ∈ sdeFormats) (divided : fmt.fetchPlanes ≠ .interleaved) :
    width.toNat * lumaBytes fmt / hSubsample fmt * 2 ≤ width.toNat * lumaBytes fmt := by
  rw [hSubsample_eq_two fmt listed divided]
  exact Nat.div_mul_le_self _ 2

theorem chroma_size_le (listed : fmt ∈ sdeFormats) (divided : fmt.fetchPlanes ≠ .interleaved) :
    width.toNat * lumaBytes fmt / hSubsample fmt * (height.toNat / vSubsample fmt) * 2 ≤
      width.toNat * lumaBytes fmt * height.toNat :=
  calc width.toNat * lumaBytes fmt / hSubsample fmt * (height.toNat / vSubsample fmt) * 2
      = width.toNat * lumaBytes fmt / hSubsample fmt * 2 * (height.toNat / vSubsample fmt) :=
        Nat.mul_right_comm _ _ _
    _ ≤ width.toNat * lumaBytes fmt * height.toNat :=
        Nat.mul_le_mul (chroma_pitch_le listed divided) (Nat.div_le_self _ _)

structure Subsampled (fmt : SdeFormat) (width height : U32) : Prop where
  lumaPitch : (lumaExtent fmt width height).pitch.toNat = width.toNat * lumaBytes fmt
  lumaSize : (lumaExtent fmt width height).size.toNat =
    width.toNat * lumaBytes fmt * height.toNat
  chromaPitch : (chromaExtent fmt width height).pitch.toNat =
    width.toNat * lumaBytes fmt / hSubsample fmt
  chromaSize : (chromaExtent fmt width height).size.toNat =
    width.toNat * lumaBytes fmt / hSubsample fmt * (height.toNat / vSubsample fmt)
  pairPitch : (chromaPairExtent fmt width height).pitch.toNat =
    width.toNat * lumaBytes fmt / hSubsample fmt * 2
  pairSize : (chromaPairExtent fmt width height).size.toNat =
    width.toNat * lumaBytes fmt / hSubsample fmt * (height.toNat / vSubsample fmt) * 2
  half : (chromaExtent fmt width height).size.toNat * 2 ≤
    (lumaExtent fmt width height).size.toNat
  fits : (lumaExtent fmt width height).size.toNat ≤ 1073610756

theorem subsampled_of_table (listed : fmt ∈ sdeFormats) (divided : fmt.fetchPlanes ≠ .interleaved)
    (wide : width ≤ SDE_MAX_IMG_WIDTH) (high : height ≤ SDE_MAX_IMG_HEIGHT) :
    Subsampled fmt width height := by
  have few : lumaBytes fmt ≤ 2 := lumaBytes_le_two fmt
  have row : width.toNat * lumaBytes fmt ≤ 32766 := Nat.mul_le_mul wide few
  have area := area_le wide high (show lumaBytes fmt ≤ 4 by omega)
  have narrow := @chroma_pitch_le fmt width listed divided
  have half := @chroma_size_le fmt width height listed divided
  have lumaPitch : (lumaExtent fmt width height).pitch.toNat = width.toNat * lumaBytes fmt :=
    toNat_mul_exact (show width.toNat * lumaBytes fmt < 4294967296 by omega)
  have lumaSize : (lumaExtent fmt width height).size.toNat =
      width.toNat * lumaBytes fmt * height.toNat := by
    rw [← lumaPitch]
    exact toNat_mul_exact (by rw [← lumaPitch] at area; exact Nat.lt_of_le_of_lt area (by decide))
  have chromaPitch : (chromaExtent fmt width height).pitch.toNat =
      width.toNat * lumaBytes fmt / hSubsample fmt := by
    rw [← lumaPitch]
    exact BitVec.toNat_udiv
  have chromaRows : (height / (sdeGetVHSubsampleRate fmt.chromaSample).1).toNat =
      height.toNat / vSubsample fmt := BitVec.toNat_udiv
  have chromaSize : (chromaExtent fmt width height).size.toNat =
      width.toNat * lumaBytes fmt / hSubsample fmt * (height.toNat / vSubsample fmt) := by
    rw [← chromaPitch, ← chromaRows]
    exact toNat_mul_exact (by
      change (chromaExtent fmt width height).pitch.toNat * _ < _
      rw [chromaPitch, chromaRows]
      omega)
  have two : (2 : U32).toNat = 2 := rfl
  exact
    { lumaPitch, lumaSize, chromaPitch, chromaSize
      pairPitch := by
        rw [← chromaPitch]
        exact toNat_mul_exact (by rw [two, chromaPitch]; omega)
      pairSize := by
        rw [← chromaSize]
        exact toNat_mul_exact (by rw [two, chromaSize]; omega)
      half := by rw [chromaSize, lumaSize]; exact half
      fits := by rw [lumaSize]; exact area }

theorem planar_measured (sub : Subsampled fmt width height) (planar : fmt.fetchPlanes = .planar) :
    Measured fmt width height asked (raisePitches (some asked) (layoutOf fmt width height 3
      (lumaExtent fmt width height) (chromaExtent fmt width height)
      (chromaExtent fmt width height) .unused)) := by
  have three : planeCount fmt = 3 := by simp [planeCount, planar]
  have first : (lumaExtent fmt width height).size.toNat = planeBytes fmt width height 0 := by
    simpa [planeBytes, minPitch, rows, planar] using sub.lumaSize
  have later : ∀ i, i ≠ 0 →
      (chromaExtent fmt width height).size.toNat = planeBytes fmt width height i := by
    intro i other
    simpa [planeBytes, minPitch, rows, planar, other] using sub.chromaSize
  have image : imageBytes fmt width height = planeBytes fmt width height 0 +
      planeBytes fmt width height 1 + planeBytes fmt width height 2 := by
    simp [imageBytes, three, List.range_succ, Nat.add_assoc]
  have second := later 1 (by omega)
  have third := later 2 (by omega)
  have := sub.half
  have := sub.fits
  rw [← three]
  apply measured_layoutOf
  · intro i used
    rw [three] at used
    match i with
    | 0 => simpa [planes, minPitch, planar] using sub.lumaPitch
    | 1 | 2 => simpa [planes, minPitch, planar] using sub.chromaPitch
  · intro i used
    rw [three] at used
    match i with
    | 0 => exact first
    | 1 => exact second
    | 2 => exact third
  · omega
  · omega

theorem pseudoPlanar_measured (sub : Subsampled fmt width height)
    (pseudo : fmt.fetchPlanes = .pseudoPlanar) :
    Measured fmt width height asked (raisePitches (some asked) (layoutOf fmt width height 2
      (lumaExtent fmt width height) (chromaPairExtent fmt width height) .unused .unused)) := by
  have two : planeCount fmt = 2 := by simp [planeCount, pseudo]
  have first : (lumaExtent fmt width height).size.toNat = planeBytes fmt width height 0 := by
    simpa [planeBytes, minPitch, rows, pseudo] using sub.lumaSize
  have second : (chromaPairExtent fmt width height).size.toNat =
      planeBytes fmt width height 1 := by
    rw [sub.pairSize, Nat.mul_right_comm]
    simp [planeBytes, minPitch, rows, pseudo]
  have image : imageBytes fmt width height =
      planeBytes fmt width height 0 + planeBytes fmt width height 1 := by
    simp [imageBytes, two, List.range_succ]
  have unused : PlaneExtent.unused.size.toNat = 0 := rfl
  have pair := sub.pairSize
  have single := sub.chromaSize
  have := sub.half
  have := sub.fits
  rw [← two]
  apply measured_layoutOf
  · intro i used
    rw [two] at used
    match i with
    | 0 => simpa [planes, minPitch, pseudo] using sub.lumaPitch
    | 1 => simpa [planes, minPitch, pseudo] using sub.pairPitch
  · intro i used
    rw [two] at used
    match i with
    | 0 => exact first
    | 1 => exact second
  · omega
  · omega

theorem linear_measured (listed : fmt ∈ sdeFormats) (wide : width ≤ SDE_MAX_IMG_WIDTH)
    (high : height ≤ SDE_MAX_IMG_HEIGHT)
    (computed : sdeFormatGetPlaneSizesLinear fmt width height (some asked) = .ok layout) :
    Measured fmt width height asked layout := by
  unfold sdeFormatGetPlaneSizesLinear at computed
  split at computed
  case isTrue packed =>
    obtain rfl := Except.ok.inj computed
    exact interleaved_measured listed packed wide high
  case isFalse divided =>
    have sub := subsampled_of_table listed divided wide high
    split at computed
    · cases computed
    · split at computed
      case isTrue pseudo =>
        obtain rfl := Except.ok.inj computed
        exact pseudoPlanar_measured sub pseudo
      case isFalse other =>
        have planar : fmt.fetchPlanes = .planar := by
          cases kind : fmt.fetchPlanes with
          | interleaved => exact absurd kind divided
          | planar => rfl
          | pseudoPlanar => exact absurd kind other
        obtain rfl := Except.ok.inj computed
        exact planar_measured sub planar

end Linear

end DisplayDrivers.Format
