import DisplayDrivers.Format.Layout
import DisplayDrivers.Lib.Tiling

/-! # The planes of a compressed or tiled buffer

The sizes are computed with the bitstream planes first, the addresses in the order of the memory:
each metadata plane before its bitstream (`memoryOrder`).
-/

namespace DisplayDrivers.Format

open DisplayDrivers.Lib.Tiling

structure MsmMediaInfo.NoOverflow (media : MsmMediaInfo) : Prop where
  aligns : ∀ x : U32, x.toNat + 4095 < 4294967296 →
    (media.align x SDE_UBWC_PLANE_SIZE_ALIGNMENT).toNat = (x.toNat + 4095) / 4096 * 4096
  total : ∀ fmt width height, width ≤ SDE_MAX_IMG_WIDTH → height ≤ SDE_MAX_IMG_HEIGHT →
    ubwcBytes media fmt width height < 4294967296

def memoryOrder (fmt : SdeFormat) : List ℕ :=
  if fmt.isYuv then if fmt.isUbwc then [2, 0, 3, 1] else [0, 1]
  else if fmt.isUbwc then [2, 0] else [0]

theorem memoryOrder_nodup (fmt : SdeFormat) : (memoryOrder fmt).Nodup := by
  unfold memoryOrder
  cases fmt.isYuv <;> cases fmt.isUbwc <;> decide

def HwFmtLayout.planeRange (layout : HwFmtLayout) (i : ℕ) : Set U32 :=
  span (layout.planeAddr i) (layout.planeSize i)

def HwFmtLayout.planeInterval (layout : HwFmtLayout) (i : ℕ) : Set ℕ :=
  Set.Ico (layout.planeAddr i).toNat ((layout.planeAddr i).toNat + (layout.planeSize i).toNat)

structure PlanesTile (base : U32) (layout : HwFmtLayout) : Prop where
  words : Tiles {i | i < layout.numPlanes} layout.planeRange (span base layout.totalSize)
  numbers : base.toNat + layout.totalSize.toNat ≤ 4294967296 →
    Tiles {i | i < layout.numPlanes} layout.planeInterval
      (Set.Ico base.toNat (base.toNat + layout.totalSize.toNat))
  aligned : ∀ i, 4096 ∣ (layout.planeSize i).toNat

section Exact
variable {media : MsmMediaInfo}

theorem ubwcExtent_exact (noOverflow : media.NoOverflow) {stride scanlines : U32}
    (fits : alignedBytes stride scanlines < 4294967296) :
    (ubwcExtent media stride scanlines).size.toNat = alignedBytes stride scanlines := by
  unfold alignedBytes at fits ⊢
  have product : (stride * scanlines).toNat = stride.toNat * scanlines.toNat :=
    toNat_mul_exact (by omega)
  rw [ubwcExtent, noOverflow.aligns _ (by rw [product]; omega), product]

theorem layoutOf_exact (fmt : SdeFormat) (width height : U32) (numPlanes : ℕ)
    {first second third fourth : PlaneExtent}
    (fits : first.size.toNat + second.size.toNat + third.size.toNat + fourth.size.toNat <
      4294967296)
    (aligned : ∀ extent ∈ [first, second, third, fourth], 4096 ∣ extent.size.toNat) :
    let layout := layoutOf fmt width height numPlanes first second third fourth
    layout.totalSize.toNat = (layout.planeSize 0).toNat + (layout.planeSize 1).toNat +
        (layout.planeSize 2).toNat + (layout.planeSize 3).toNat ∧
      ∀ i, 4096 ∣ (layout.planeSize i).toNat := by
  constructor
  · exact layoutOf_totalSize fmt width height numPlanes fits
  · intro i
    match i with
    | 0 => exact aligned first (by simp)
    | 1 => exact aligned second (by simp)
    | 2 => exact aligned third (by simp)
    | 3 => exact aligned fourth (by simp)
    | _ + 4 => exact Nat.dvd_zero 4096

theorem unused_size : PlaneExtent.unused.size.toNat = 0 := rfl

theorem add_unused (n : ℕ) : n + PlaneExtent.unused.size.toNat = n := rfl

theorem dvd_alignedBytes (stride scanlines : U32) : 4096 ∣ alignedBytes stride scanlines :=
  Nat.dvd_mul_left 4096 _

theorem ubwc_exact (noOverflow : media.NoOverflow) {fmt : SdeFormat} {width height : U32}
    {sized : HwFmtLayout} (wide : width ≤ SDE_MAX_IMG_WIDTH) (high : height ≤ SDE_MAX_IMG_HEIGHT)
    (computed : sdeFormatGetPlaneSizesUbwc media fmt width height = .ok sized) :
    sized.totalSize.toNat = (sized.planeSize 0).toNat + (sized.planeSize 1).toNat +
        (sized.planeSize 2).toNat + (sized.planeSize 3).toNat ∧
      ∀ i, 4096 ∣ (sized.planeSize i).toNat := by
  have total := noOverflow.total fmt width height wide high
  unfold sdeFormatGetPlaneSizesUbwc at computed
  cases found : sdeFormatGetMediaColorUbwc fmt with
  | none => simp [found] at computed
  | some color =>
    simp only [found] at computed
    simp only [ubwcBytes, found] at total
    have exact_of := @ubwcExtent_exact media noOverflow
    have size_dvd : ∀ {stride scanlines : U32}, alignedBytes stride scanlines < 4294967296 →
        4096 ∣ (ubwcExtent media stride scanlines).size.toNat := by
      intro stride scanlines fits
      rw [exact_of fits]
      exact dvd_alignedBytes stride scanlines
    -- the macros are asked for four, two, two and one of the planes
    split at computed <;> split at computed
    case isTrue.isTrue yuv compressed =>
      rw [if_pos yuv, if_pos compressed] at total
      obtain rfl := Except.ok.inj computed
      apply layoutOf_exact
      · rw [exact_of (by omega), exact_of (by omega), exact_of (by omega), exact_of (by omega)]
        omega
      · simp only [List.forall_mem_cons]
        exact ⟨size_dvd (by omega), size_dvd (by omega), size_dvd (by omega),
          size_dvd (by omega), by simp⟩
    case isTrue.isFalse yuv tiled =>
      rw [if_pos yuv, if_neg tiled, Nat.add_zero] at total
      obtain rfl := Except.ok.inj computed
      apply layoutOf_exact
      · rw [exact_of (by omega), exact_of (by omega), add_unused, add_unused]
        exact total
      · simp only [List.forall_mem_cons]
        exact ⟨size_dvd (by omega), size_dvd (by omega), by simp [unused_size]⟩
    case isFalse.isTrue rgb compressed =>
      rw [if_neg rgb, if_pos compressed] at total
      obtain rfl := Except.ok.inj computed
      apply layoutOf_exact
      · rw [exact_of (by omega), exact_of (by omega), add_unused, add_unused]
        exact total
      · simp only [List.forall_mem_cons]
        exact ⟨size_dvd (by omega), by simp [unused_size], size_dvd (by omega),
          by simp [unused_size]⟩
    case isFalse.isFalse rgb tiled =>
      rw [if_neg rgb, if_neg tiled, Nat.add_zero] at total
      obtain rfl := Except.ok.inj computed
      apply layoutOf_exact
      · rw [exact_of total, add_unused, add_unused, add_unused]
        exact total
      · simp only [List.forall_mem_cons]
        exact ⟨size_dvd total, by simp [unused_size]⟩

end Exact

section Placed
variable {aspace : Option ℕ} {fb : Framebuffer} {sized : HwFmtLayout}

theorem laid_of_placement (format : sized.format = fb.format)
    (other : fb.format.isUbwc ∨ fb.format.isTile) (sizes : UbwcSized fb.format sized)
    (total : sized.totalSize.toNat = (sized.planeSize 0).toNat + (sized.planeSize 1).toNat +
      (sized.planeSize 2).toNat + (sized.planeSize 3).toNat) :
    Laid (memoryOrder fb.format) sized.planeSize (placement aspace fb sized) (fbAddr aspace fb 0)
      sized.totalSize where
  once := memoryOrder_nodup fb.format
  placed := by
    have bare := sizes.bare
    rw [placement, format, if_pos other]
    cases yuv : fb.format.isYuv <;> cases compressed : fb.format.isUbwc
    case false.false => simp [memoryOrder, yuv, compressed, planes, offset, bare compressed]
    case false.true => simp [memoryOrder, yuv, compressed, planes, offset]
    case true.false => simp [memoryOrder, yuv, compressed, planes, offset, bare compressed]
    case true.true =>
      -- the bitstream of plane 0 is added before its metadata, and the words commute
      have swap : fbAddr aspace fb 0 + sized.planeSize 0 + sized.planeSize 2 =
          fbAddr aspace fb 0 + (sized.planeSize 2 + sized.planeSize 0) := by
        rw [add_assoc, add_comm (sized.planeSize 0)]
      simp [memoryOrder, yuv, compressed, planes, offset, BitVec.ofNat_add, swap, add_assoc]
  total := by
    have bare := sizes.bare
    have packed := sizes.packed
    rw [total]
    cases yuv : fb.format.isYuv <;> cases compressed : fb.format.isUbwc
    case false.false => simp [memoryOrder, yuv, compressed, bare compressed, packed yuv]
    case false.true => simp [memoryOrder, yuv, compressed, packed yuv, Nat.add_comm]
    case true.false => simp [memoryOrder, yuv, compressed, bare compressed]
    case true.true =>
      simp only [memoryOrder, yuv, compressed, if_true, List.map_cons, List.map_nil,
        List.sum_cons, List.sum_nil]
      omega

theorem unlaid_empty (sizes : UbwcSized fb.format sized) {i : ℕ} (used : i < sized.numPlanes)
    (unlaid : i ∉ memoryOrder fb.format) : sized.planeSize i = 0 := by
  rw [sizes.count, ubwcPlaneCount] at used
  cases yuv : fb.format.isYuv <;> cases compressed : fb.format.isUbwc
  all_goals
    simp only [memoryOrder, yuv, compressed, if_true, if_false, Bool.false_eq_true,
      List.mem_cons, List.not_mem_nil, or_false, not_or] at used unlaid
  case false.false => omega
  case false.true =>
    obtain rfl : i = 1 := by omega
    exact (sizes.packed yuv).1
  case true.false => omega
  case true.true => omega

theorem laid_used (sizes : UbwcSized fb.format sized) :
    {i | i ∈ memoryOrder fb.format} ⊆ {i | i < sized.numPlanes} := by
  intro i laid
  rw [Set.mem_ofPred_eq, sizes.count, ubwcPlaneCount]
  rw [Set.mem_ofPred_eq, memoryOrder] at laid
  cases yuv : fb.format.isYuv <;> cases compressed : fb.format.isUbwc
  all_goals
    simp only [yuv, compressed, if_true, if_false, Bool.false_eq_true, List.mem_cons,
      List.not_mem_nil, or_false] at laid ⊢
    omega

end Placed

/-- The planes of a populated layout of a compressed or tiled buffer tile the buffer. -/
theorem populateLayout_tiles {media : MsmMediaInfo} (noOverflow : media.NoOverflow)
    {aspace : Option ℕ} {fb : Framebuffer} {held layout : HwFmtLayout} {ret : Int}
    (other : fb.format.isUbwc ∨ fb.format.isTile)
    (populated : sdeFormatPopulateLayout aspace fb media held = (ret, layout))
    (succeeded : ret = 0 ∨ ret = -EAGAIN) : PlanesTile (fbAddr aspace fb 0) layout := by
  obtain ⟨sized, computed, -, -, rfl⟩ := populated_cases populated succeeded
  have inside := inside_of_getPlaneSizes computed
  rw [not_or, BitVec.not_lt, BitVec.not_lt] at inside
  cases kind_of_getPlaneSizes computed with
  | inr linear => exact absurd other linear.1
  | inl ubwc =>
    obtain ⟨shape, sizes⟩ := ubwcSized_of_ubwc ubwc.2
    obtain ⟨total, aligned⟩ := ubwc_exact noOverflow inside.1 inside.2 ubwc.2
    have laid := @laid_of_placement aspace _ _ shape.format other sizes total
    constructor
    -- plane 1 of an RGB buffer is counted, and takes no room
    · apply laid.tiles_spans.widen (laid_used sizes)
      intro i used unlaid
      rw [unlaid_empty sizes used unlaid, span_zero]
    · intro within
      apply (laid.tiles_numbers within).widen (laid_used sizes)
      intro i used unlaid
      simp [unlaid_empty sizes used unlaid]
    · exact aligned

/-! ### A compressed NV12 buffer of 256 by 256 pixels -/

/-- `MSM_MEDIA_ALIGN` for an alignment that is not a power of two, the same for one that is. -/
def msmMediaAlign (size align : U32) : U32 := (size + (align - 1)) / align * align

theorem msmMediaAlign_toNat {size align : U32} (positive : 0 < align.toNat)
    (fits : size.toNat + (align.toNat - 1) < 4294967296) :
    (msmMediaAlign size align).toNat =
      (size.toNat + (align.toNat - 1)) / align.toNat * align.toNat := by
  have one : (align - 1).toNat = align.toNat - 1 := BitVec.toNat_sub_of_le positive
  have up : ((size + (align - 1)) / align).toNat =
      (size.toNat + (align.toNat - 1)) / align.toNat := by
    rw [BitVec.toNat_udiv, toNat_add_exact (by omega), one]
  have below := Nat.div_mul_le_self (size.toNat + (align.toNat - 1)) align.toNat
  rw [msmMediaAlign, toNat_mul_exact (by rw [up]; omega), up]

/-- The macros as they are for `COLOR_FMT_NV12_UBWC` and `COLOR_FMT_RGBA8888_UBWC`. -/
def nv12Media : MsmMediaInfo where
  align := msmMediaAlign
  yStride _ width := msmMediaAlign width 128
  yScanlines _ height := msmMediaAlign height 32
  uvStride _ width := msmMediaAlign width 128
  uvScanlines _ height := msmMediaAlign ((height + 1) / 2) 32
  yMetaStride _ width := msmMediaAlign ((width + 31) / 32) 64
  yMetaScanlines _ height := msmMediaAlign ((height + 7) / 8) 16
  uvMetaStride _ width := msmMediaAlign (((width + 1) / 2 + 15) / 16) 64
  uvMetaScanlines _ height := msmMediaAlign (((height + 1) / 2 + 7) / 8) 16
  rgbStride _ width := msmMediaAlign (width * 4) 256
  rgbScanlines _ height := msmMediaAlign height 16
  rgbMetaStride _ width := msmMediaAlign ((width + 15) / 16) 64
  rgbMetaScanlines _ height := msmMediaAlign ((height + 3) / 4) 16

theorem msmMediaAlign_le {size align : U32} {k : ℕ} (small : size.toNat ≤ k)
    (positive : 0 < align.toNat) (fine : align.toNat ≤ 256) (word : k ≤ 65536) :
    (msmMediaAlign size align).toNat ≤ k + 255 := by
  rw [msmMediaAlign_toNat positive (by omega)]
  have below := Nat.div_mul_le_self (size.toNat + (align.toNat - 1)) align.toNat
  omega

theorem alignedBytes_le {stride scanlines : U32} {a b : ℕ} (row : stride.toNat ≤ a)
    (column : scanlines.toNat ≤ b) : alignedBytes stride scanlines ≤ a * b + 4095 := by
  have area := Nat.mul_le_mul row column
  unfold alignedBytes
  omega

theorem quotient_le {x y d : U32} {k : ℕ} (small : x.toNat ≤ k) (step : y.toNat ≤ 31)
    (word : k ≤ 65536) : ((x + y) / d).toNat ≤ k + 31 := by
  rw [BitVec.toNat_udiv, toNat_add_exact (by omega)]
  exact Nat.le_trans (Nat.div_le_self _ _) (by omega)

theorem nv12Media_noOverflow : nv12Media.NoOverflow where
  aligns _ fits := msmMediaAlign_toNat (by decide) fits
  total := by
    intro fmt width height wide high
    have w : width.toNat ≤ 16383 := wide
    have h : height.toNat ≤ 16383 := high
    have bytes : (width * 4).toNat ≤ 65532 := by
      rw [toNat_mul_exact (by simp; omega)]
      simp
      omega
    -- the strides and scanlines stay below 16700, or 66000 for the bytes of an RGB row
    have upTo : ∀ {size align : U32}, size.toNat ≤ 16445 → 0 < align.toNat → align.toNat ≤ 256 →
        (msmMediaAlign size align).toNat ≤ 16700 := fun small positive fine =>
      msmMediaAlign_le small positive fine (by omega)
    have half : ∀ {x : U32}, x.toNat ≤ 16383 → ((x + 1) / 2).toNat ≤ 16414 := fun small =>
      quotient_le small (by decide) (by omega)
    have tile : ∀ {x y d : U32}, x.toNat ≤ 16414 → y.toNat ≤ 31 → ((x + y) / d).toNat ≤ 16445 :=
      fun small step => quotient_le small step (by omega)
    unfold ubwcBytes
    cases sdeFormatGetMediaColorUbwc fmt with
    | none => simp
    | some color =>
      have y : alignedBytes (nv12Media.yStride color width) (nv12Media.yScanlines color height) ≤
          16700 * 16700 + 4095 :=
        alignedBytes_le (upTo (by omega) (by decide) (by decide))
          (upTo (by omega) (by decide) (by decide))
      have uv : alignedBytes (nv12Media.uvStride color width)
          (nv12Media.uvScanlines color height) ≤ 16700 * 16700 + 4095 :=
        alignedBytes_le (upTo (by omega) (by decide) (by decide))
          (upTo (Nat.le_trans (half h) (by omega)) (by decide) (by decide))
      have rgb : alignedBytes (nv12Media.rgbStride color width)
          (nv12Media.rgbScanlines color height) ≤ (65532 + 255) * 16700 + 4095 :=
        alignedBytes_le (msmMediaAlign_le bytes (by decide) (by decide) (by omega))
          (upTo (by omega) (by decide) (by decide))
      have yMeta : alignedBytes (nv12Media.yMetaStride color width)
          (nv12Media.yMetaScanlines color height) ≤ 16700 * 16700 + 4095 :=
        alignedBytes_le (upTo (tile (by omega) (by decide)) (by decide) (by decide))
          (upTo (tile (by omega) (by decide)) (by decide) (by decide))
      have uvMeta : alignedBytes (nv12Media.uvMetaStride color width)
          (nv12Media.uvMetaScanlines color height) ≤ 16700 * 16700 + 4095 :=
        alignedBytes_le (upTo (tile (half w) (by decide)) (by decide) (by decide))
          (upTo (tile (half h) (by decide)) (by decide) (by decide))
      have rgbMeta : alignedBytes (nv12Media.rgbMetaStride color width)
          (nv12Media.rgbMetaScanlines color height) ≤ 16700 * 16700 + 4095 :=
        alignedBytes_le (upTo (tile (by omega) (by decide)) (by decide) (by decide))
          (upTo (tile (by omega) (by decide)) (by decide) (by decide))
      simp only
      split <;> split <;> omega

def nv12Buffer : Framebuffer where
  format := pseudoYuvFmt .nv12 .c420 [.yuv, .compressed] .ubwc 4
  width := 256
  height := 256
  pitches _ := 256
  offsets _ := 0
  planes _ := some { iova := fun _ => 4096, dmaAddr := 4096 }

theorem populateLayout_tiles_nv12 :
    PlanesTile 4096 (sdeFormatPopulateLayout none nv12Buffer nv12Media
      (resetLayout nv12Buffer.format 0 0)).2 :=
  @populateLayout_tiles nv12Media nv12Media_noOverflow none nv12Buffer
    (resetLayout nv12Buffer.format 0 0) (sdeFormatPopulateLayout none nv12Buffer nv12Media
      (resetLayout nv12Buffer.format 0 0)).2 0 (by decide) (Prod.ext (by decide) rfl)
    (.inl rfl)

end DisplayDrivers.Format
