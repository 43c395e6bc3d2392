import Mathlib.Algebra.BigOperators.Group.List.Basic
import Mathlib.Data.List.Dedup
import Mathlib.Data.List.Nodup
import DisplayDrivers.Format.Sizes

/-! # The size check of a frame buffer with a modifier

`sde_format_check_modified_format` accepts a frame buffer when the sizes of its buffer objects add
up to the total size of the layout. Two things escape it.
-/

namespace DisplayDrivers.Format

/-! ## The bytes of the buffer objects -/

def objectBytes (size : BoId → U64) (objects : List BoId) : ℕ :=
  (objects.map fun bo => (size bo).toNat).sum

def objectsOf (bos : ℕ → Option BoId) (n : ℕ) : List BoId :=
  ((List.range n).filterMap bos).dedup

def countedBos (bos : ℕ → Option BoId) (n : ℕ) : List BoId :=
  (List.range n).filterMap fun i => if i = 0 ∨ bos i ≠ bos 0 then bos i else none

section Objects
variable {size : BoId → U64} {bos : ℕ → Option BoId} {n : ℕ}

theorem countedBos_succ : countedBos bos (n + 1) = countedBos bos n ++
    (if n = 0 ∨ bos n ≠ bos 0 then bos n else none).toList := by
  rw [countedBos, List.range_succ, List.filterMap_append, countedBos]
  cases counted : (if n = 0 ∨ bos n ≠ bos 0 then bos n else none) <;> simp [counted]

theorem objectBytes_append (front back : List BoId) :
    objectBytes size (front ++ back) = objectBytes size front + objectBytes size back := by
  simp [objectBytes]

theorem bosTotalSize_succ : bosTotalSize size bos (n + 1) =
    (bosTotalSize size bos n >>= fun total => addBo size bos total n) := by
  simp [bosTotalSize, List.range_succ]

theorem bosTotalSize_le {total : U32} (summed : bosTotalSize size bos n = .ok total) :
    total.toNat ≤ objectBytes size (countedBos bos n) ∧ ∀ i < n, (bos i).isSome := by
  induction n generalizing total with
  | zero =>
    obtain rfl := Except.ok.inj summed
    exact ⟨Nat.zero_le _, fun i below => absurd below (Nat.not_lt_zero i)⟩
  | succ n ih =>
    rw [bosTotalSize_succ] at summed
    cases before : bosTotalSize size bos n with
    | error e =>
      rw [before] at summed
      cases summed
    | ok sum =>
      rw [before] at summed
      obtain ⟨bounded, present⟩ := ih before
      cases here : bos n with
      | none =>
        simp [addBo, bind, Except.bind, here] at summed
      | some bo =>
        have all : ∀ i < n + 1, (bos i).isSome := by
          intro i below
          by_cases last : i = n
          · simp [last, here]
          · exact present i (by omega)
        refine ⟨?_, all⟩
        rw [countedBos_succ, objectBytes_append]
        simp only [addBo, bind, Except.bind, here] at summed
        split at summed
        case isTrue counted =>
          obtain rfl := Except.ok.inj summed
          rw [here, if_pos counted]
          have low : (sum + (size bo).setWidth 32).toNat ≤ sum.toNat + (size bo).toNat := by
            rw [BitVec.toNat_add, BitVec.toNat_setWidth]
            exact Nat.le_trans (Nat.mod_le _ _) (Nat.add_le_add_left (Nat.mod_le _ _) _)
          simp only [Option.toList_some, objectBytes, List.map_cons, List.map_nil,
            List.sum_cons, List.sum_nil] at *
          omega
        case isFalse skipped =>
          obtain rfl := Except.ok.inj summed
          omega

theorem mem_countedBos {bo : BoId} : bo ∈ countedBos bos n ↔ bo ∈ objectsOf bos n := by
  simp only [countedBos, objectsOf, List.mem_dedup, List.mem_filterMap, List.mem_range]
  constructor
  · rintro ⟨i, below, counted⟩
    split at counted
    · exact ⟨i, below, counted⟩
    · cases counted
  · rintro ⟨i, below, found⟩
    -- a plane that is not counted shows the object of plane 0
    by_cases same : bos i = bos 0
    · exact ⟨0, by omega, by rw [if_pos (.inl rfl), ← same, found]⟩
    · exact ⟨i, below, by rw [if_pos (.inr same), found]⟩

theorem objectBytes_counted (once : (countedBos bos n).Nodup) :
    objectBytes size (countedBos bos n) = objectBytes size (objectsOf bos n) := by
  have perm : (countedBos bos n).Perm (objectsOf bos n) :=
    (List.perm_ext_iff_of_nodup once (List.nodup_dedup _)).mpr fun _ => mem_countedBos
  exact (perm.map _).sum_eq

theorem countedBos_nodup (few : n ≤ 3) (apart : n = 3 → bos 1 = bos 2 → bos 1 = bos 0) :
    (countedBos bos n).Nodup := by
  have split : n = 0 ∨ n = 1 ∨ n = 2 ∨ n = 3 := by omega
  have zero : countedBos bos 0 = [] := rfl
  cases first : bos 0 <;> cases second : bos 1 <;> cases third : bos 2
  all_goals
    simp only [first, second, third, Option.some.injEq, reduceCtorEq, imp_false] at apart
    obtain rfl | rfl | rfl | rfl := split
  all_goals
    simp only [countedBos_succ, zero, first, second, third, List.nil_append]
    grind

theorem objectBytes_shared {luma chroma : BoId} (first : bos 0 = some luma)
    (second : bos 1 = some chroma) (third : bos 2 = some chroma) (apart : chroma ≠ luma) :
    objectBytes size (objectsOf bos 3) = (size luma).toNat + (size chroma).toNat := by
  have objects : objectsOf bos 3 = [luma, chroma] := by
    simp [objectsOf, List.range_succ, first, second, third, Ne.symm apart]
  simp [objects, objectBytes]

end Objects

/-! ## The total of a compressed or tiled layout -/

/-- The bytes of a plane, up to the next multiple of `SDE_UBWC_PLANE_SIZE_ALIGNMENT`. -/
def alignedBytes (stride scanlines : U32) : ℕ :=
  (stride.toNat * scanlines.toNat + 4095) / 4096 * 4096

structure MsmMediaInfo.Fits (media : MsmMediaInfo) : Prop where
  aligns : ∀ x : U32, x.toNat ≤ 1073741824 →
    (media.align x SDE_UBWC_PLANE_SIZE_ALIGNMENT).toNat = (x.toNat + 4095) / 4096 * 4096
  y : ∀ color width height, width ≤ SDE_MAX_IMG_WIDTH → height ≤ SDE_MAX_IMG_HEIGHT →
    (media.yStride color width).toNat * (media.yScanlines color height).toNat ≤ 1073741824
  uv : ∀ color width height, width ≤ SDE_MAX_IMG_WIDTH → height ≤ SDE_MAX_IMG_HEIGHT →
    (media.uvStride color width).toNat * (media.uvScanlines color height).toNat ≤ 1073741824
  rgb : ∀ color width height, width ≤ SDE_MAX_IMG_WIDTH → height ≤ SDE_MAX_IMG_HEIGHT →
    (media.rgbStride color width).toNat * (media.rgbScanlines color height).toNat ≤ 1073741824
  yMeta : ∀ color width height, width ≤ SDE_MAX_IMG_WIDTH → height ≤ SDE_MAX_IMG_HEIGHT →
    (media.yMetaStride color width).toNat * (media.yMetaScanlines color height).toNat ≤ 16777216
  uvMeta : ∀ color width height, width ≤ SDE_MAX_IMG_WIDTH → height ≤ SDE_MAX_IMG_HEIGHT →
    (media.uvMetaStride color width).toNat * (media.uvMetaScanlines color height).toNat ≤ 16777216
  rgbMeta : ∀ color width height, width ≤ SDE_MAX_IMG_WIDTH → height ≤ SDE_MAX_IMG_HEIGHT →
    (media.rgbMetaStride color width).toNat * (media.rgbMetaScanlines color height).toNat ≤ 16777216

def ubwcBytes (media : MsmMediaInfo) (fmt : SdeFormat) (width height : U32) : ℕ :=
  match sdeFormatGetMediaColorUbwc fmt with
  | none => 0
  | some color =>
    if fmt.isYuv then
      alignedBytes (media.yStride color width) (media.yScanlines color height) +
        alignedBytes (media.uvStride color width) (media.uvScanlines color height) +
        if fmt.isUbwc then
          alignedBytes (media.yMetaStride color width) (media.yMetaScanlines color height) +
            alignedBytes (media.uvMetaStride color width) (media.uvMetaScanlines color height)
        else 0
    else
      alignedBytes (media.rgbStride color width) (media.rgbScanlines color height) +
        if fmt.isUbwc then
          alignedBytes (media.rgbMetaStride color width) (media.rgbMetaScanlines color height)
        else 0

section Ubwc
variable {media : MsmMediaInfo} {fmt : SdeFormat} {width height : U32}

theorem ubwcExtent_size (fits : media.Fits) {stride scanlines : U32} {k : ℕ}
    (small : stride.toNat * scanlines.toNat ≤ k) (word : k ≤ 1073741824) :
    (ubwcExtent media stride scanlines).size.toNat = alignedBytes stride scanlines ∧
      alignedBytes stride scanlines ≤ k + 4095 := by
  have product : (stride * scanlines).toNat = stride.toNat * scanlines.toNat :=
    toNat_mul_exact (by omega)
  constructor
  · rw [ubwcExtent, fits.aligns _ (by rw [product]; omega), product, alignedBytes]
  · unfold alignedBytes
    omega

theorem ubwc_total (fits : media.Fits) (wide : width ≤ SDE_MAX_IMG_WIDTH)
    (high : height ≤ SDE_MAX_IMG_HEIGHT) {layout : HwFmtLayout}
    (computed : sdeFormatGetPlaneSizesUbwc media fmt width height = .ok layout) :
    layout.totalSize.toNat = ubwcBytes media fmt width height := by
  unfold sdeFormatGetPlaneSizesUbwc at computed
  cases found : sdeFormatGetMediaColorUbwc fmt with
  | none => simp [found] at computed
  | some color =>
    have whole : (1073741824 : ℕ) ≤ 1073741824 := Nat.le_refl _
    have part : (16777216 : ℕ) ≤ 1073741824 := by omega
    have y := ubwcExtent_size fits (fits.y color width height wide high) whole
    have uv := ubwcExtent_size fits (fits.uv color width height wide high) whole
    have rgb := ubwcExtent_size fits (fits.rgb color width height wide high) whole
    have yMeta := ubwcExtent_size fits (fits.yMeta color width height wide high) part
    have uvMeta := ubwcExtent_size fits (fits.uvMeta color width height wide high) part
    have rgbMeta := ubwcExtent_size fits (fits.rgbMeta color width height wide high) part
    have unused : PlaneExtent.unused.size.toNat = 0 := rfl
    simp only [found] at computed
    simp only [ubwcBytes, found]
    split at computed
    case isTrue yuv =>
      rw [if_pos yuv]
      split at computed
      case isTrue compressed =>
        obtain rfl := Except.ok.inj computed
        rw [layoutOf_totalSize _ _ _ _ (by omega), if_pos compressed]
        omega
      case isFalse tiled =>
        obtain rfl := Except.ok.inj computed
        rw [layoutOf_totalSize _ _ _ _ (by omega), if_neg tiled]
        omega
    case isFalse packed =>
      rw [if_neg packed]
      split at computed
      case isTrue compressed =>
        obtain rfl := Except.ok.inj computed
        rw [layoutOf_totalSize _ _ _ _ (by omega), if_pos compressed]
        omega
      case isFalse tiled =>
        obtain rfl := Except.ok.inj computed
        rw [layoutOf_totalSize _ _ _ _ (by omega), if_neg tiled]
        omega

end Ubwc

/-! ## What an accepted frame buffer covers -/

def kernelPlanes : PixelFormat → ℕ
  | .nv12 | .nv21 | .nv16 | .nv61 => 2
  | .yuv420 | .yvu420 => 3
  | _ => 1

def DocumentedPlanes (drmFormatNumPlanes : PixelFormat → ℕ) : Prop :=
  ∀ format, drmFormatNumPlanes format = kernelPlanes format

structure CoversFetch (media : MsmMediaInfo) (fmt : SdeFormat) (cmd : FbCmd) (objects : ℕ)
    (layout : HwFmtLayout) : Prop where
  planes : fmt.isLinear → ∀ i < layout.numPlanes,
    (layout.planePitch i).toNat * rows fmt cmd.height i ≤ (layout.planeSize i).toNat
  exact : layout.totalSize.toNat =
    if fmt.isLinear then imageBytes fmt cmd.width cmd.height
    else ubwcBytes media fmt cmd.width cmd.height
  objects : layout.totalSize.toNat ≤ objects

def PitchesMinimal (fmt : SdeFormat) (cmd : FbCmd) : Prop :=
  fmt.isLinear → ∀ i < planeCount fmt,
    (cmd.pitches i).toNat ≤ minPitch fmt cmd.width i ∨ rows fmt cmd.height i = 0

def SharedChromaFits (size : BoId → U64) (fmt : SdeFormat) (cmd : FbCmd)
    (bos : ℕ → Option BoId) : Prop :=
  fmt.pixelFormat = .yuv420 ∨ fmt.pixelFormat = .yvu420 → bos 1 = bos 2 → bos 1 ≠ bos 0 →
    ∀ luma chroma, bos 0 = some luma → bos 1 = some chroma →
      3 * (cmd.width.toNat * cmd.height.toNat) ≤ 2 * ((size luma).toNat + (size chroma).toNat)

section Accepted
variable {media : MsmMediaInfo} {drmFormatNumPlanes : PixelFormat → ℕ} {size : BoId → U64}
variable {fmt : SdeFormat} {cmd : FbCmd} {bos : ℕ → Option BoId} {layout : HwFmtLayout}

theorem accepted_cases
    (accepted : sdeFormatCheckModifiedFormat media drmFormatNumPlanes size fmt cmd bos = .ok ()) :
    ∃ layout sum,
      sdeFormatGetPlaneSizes media fmt cmd.width cmd.height (some cmd.pitches) = .ok layout ∧
      bosTotalSize size bos (drmFormatNumPlanes fmt.pixelFormat) = .ok sum ∧
      layout.totalSize ≤ sum := by
  unfold sdeFormatCheckModifiedFormat at accepted
  cases sizes : sdeFormatGetPlaneSizes media fmt cmd.width cmd.height (some cmd.pitches) with
  | error e => simp [sizes, bind, Except.bind] at accepted
  | ok layout =>
    cases summed : bosTotalSize size bos (drmFormatNumPlanes fmt.pixelFormat) with
    | error e => simp [sizes, summed, bind, Except.bind] at accepted
    | ok sum =>
      simp only [sizes, summed, bind, Except.bind] at accepted
      split at accepted
      · cases accepted
      · exact ⟨layout, sum, rfl, rfl, by simp_all [BitVec.lt_def, BitVec.le_def]⟩

variable {pitches : Option (ℕ → U32)}

theorem getPlaneSizes_cases {width height : U32} (listed : fmt ∈ sdeFormats)
    (sizes : sdeFormatGetPlaneSizes media fmt width height pitches = .ok layout) :
    (width ≤ SDE_MAX_IMG_WIDTH ∧ height ≤ SDE_MAX_IMG_HEIGHT) ∧
      ((fmt.isLinear = true ∧
          sdeFormatGetPlaneSizesLinear fmt width height pitches = .ok layout) ∨
        (fmt.isLinear = false ∧
          sdeFormatGetPlaneSizesUbwc media fmt width height = .ok layout)) := by
  have kind := linear_or_ubwc fmt listed
  unfold sdeFormatGetPlaneSizes at sizes
  split at sizes
  · cases sizes
  case isFalse inside =>
    have bounds : width ≤ SDE_MAX_IMG_WIDTH ∧ height ≤ SDE_MAX_IMG_HEIGHT := by
      simpa [BitVec.not_lt] using inside
    split at sizes
    case isTrue other =>
      have : fmt.isLinear = false := by
        rw [kind]
        cases other with
        | inl ubwc => simp [ubwc]
        | inr tile => simp [tile]
      exact ⟨bounds, .inr ⟨this, sizes⟩⟩
    case isFalse linear => exact ⟨bounds, .inl ⟨by simp_all, sizes⟩⟩

theorem imageBytes_planar {width height : U32} (listed : fmt ∈ sdeFormats)
    (planar : fmt.pixelFormat = .yuv420 ∨ fmt.pixelFormat = .yvu420)
    (computed : sdeFormatGetPlaneSizesLinear fmt width height pitches = .ok layout) :
    2 * imageBytes fmt width height = 3 * (width.toNat * height.toNat) := by
  obtain ⟨kind, sampled, -⟩ := planar_of_three_planes fmt listed planar
  have single : lumaBytes fmt = 1 := by
    cases planar with
    | inl yuv => simp [lumaBytes, lumaBpp, yuv]
    | inr yvu => simp [lumaBytes, lumaBpp, yvu]
  have even : width.toNat % 2 = 0 ∧ height.toNat % 2 = 0 := by
    unfold sdeFormatGetPlaneSizesLinear at computed
    rw [kind, sampled, if_neg (by decide)] at computed
    split at computed
    · cases computed
    case isFalse divides =>
      simp only [sdeGetVHSubsampleRate, ne_eq, not_or, not_not] at divides
      have w := congrArg BitVec.toNat divides.1
      have h := congrArg BitVec.toNat divides.2
      exact ⟨by simpa using w, by simpa using h⟩
  obtain ⟨a, wide⟩ := Nat.dvd_of_mod_eq_zero even.1
  obtain ⟨b, high⟩ := Nat.dvd_of_mod_eq_zero even.2
  have halves : 2 * a / 2 = a ∧ 2 * b / 2 = b := by omega
  have bytes : imageBytes fmt width height = 2 * a * (2 * b) + (a * b + a * b) := by
    simp [imageBytes, planeCount, kind, List.range_succ, planeBytes, minPitch, rows, single,
      hSubsample, vSubsample, sampled, sdeGetVHSubsampleRate, wide, high, halves]
  have area : 2 * a * (2 * b) = 4 * (a * b) := Nat.mul_mul_mul_comm 2 a 2 b
  rw [bytes, wide, high, area]
  omega

theorem linear_covers_planes (measured : Measured fmt cmd.width cmd.height cmd.pitches layout) :
    (∀ i < layout.numPlanes,
        (layout.planePitch i).toNat * rows fmt cmd.height i ≤ (layout.planeSize i).toNat) ↔
      ∀ i < planeCount fmt,
        (cmd.pitches i).toNat ≤ minPitch fmt cmd.width i ∨ rows fmt cmd.height i = 0 := by
  rw [measured.count]
  apply forall_congr'
  intro i
  apply imp_congr_right
  intro used
  rw [measured.size i used, measured.pitch i used, planeBytes]
  constructor
  · intro covered
    by_cases empty : rows fmt cmd.height i = 0
    · exact .inr empty
    · have := Nat.le_of_mul_le_mul_right covered (Nat.pos_of_ne_zero empty)
      exact .inl (by omega)
  · intro minimal
    cases minimal with
    | inl narrow =>
      rw [Nat.max_eq_left narrow]
    | inr empty => simp [empty]

theorem objects_of_accepted (planes : DocumentedPlanes drmFormatNumPlanes) {sum : U32}
    (summed : bosTotalSize size bos (drmFormatNumPlanes fmt.pixelFormat) = .ok sum)
    (large : layout.totalSize ≤ sum)
    (apart : drmFormatNumPlanes fmt.pixelFormat = 3 → bos 1 = bos 2 → bos 1 = bos 0) :
    layout.totalSize.toNat ≤
      objectBytes size (objectsOf bos (drmFormatNumPlanes fmt.pixelFormat)) := by
  have few : drmFormatNumPlanes fmt.pixelFormat ≤ 3 := by
    rw [planes]
    unfold kernelPlanes
    split <;> omega
  have counted := (bosTotalSize_le summed).1
  rw [objectBytes_counted (countedBos_nodup few apart)] at counted
  exact Nat.le_trans large counted

theorem three_planes_iff (planes : DocumentedPlanes drmFormatNumPlanes) (format : PixelFormat) :
    drmFormatNumPlanes format = 3 ↔ format = .yuv420 ∨ format = .yvu420 := by
  rw [planes]
  cases format <;> simp [kernelPlanes]

theorem total_of_layout (fits : media.Fits) (listed : fmt ∈ sdeFormats)
    (sizes : sdeFormatGetPlaneSizes media fmt cmd.width cmd.height (some cmd.pitches) =
      .ok layout) :
    layout.totalSize.toNat =
      if fmt.isLinear then imageBytes fmt cmd.width cmd.height
      else ubwcBytes media fmt cmd.width cmd.height := by
  obtain ⟨⟨wide, high⟩, kind⟩ := getPlaneSizes_cases listed sizes
  cases kind with
  | inl linear =>
    rw [if_pos linear.1]
    exact (linear_measured listed wide high linear.2).total
  | inr other =>
    rw [if_neg (by simp [other.1])]
    exact ubwc_total fits wide high other.2

theorem planes_covered_iff (listed : fmt ∈ sdeFormats)
    (sizes : sdeFormatGetPlaneSizes media fmt cmd.width cmd.height (some cmd.pitches) =
      .ok layout) :
    (fmt.isLinear → ∀ i < layout.numPlanes,
        (layout.planePitch i).toNat * rows fmt cmd.height i ≤ (layout.planeSize i).toNat) ↔
      PitchesMinimal fmt cmd := by
  obtain ⟨⟨wide, high⟩, kind⟩ := getPlaneSizes_cases listed sizes
  apply imp_congr_right
  intro linear
  cases kind with
  | inl computed => exact linear_covers_planes (linear_measured listed wide high computed.2)
  | inr other => simp [other.1] at linear

theorem shared_total_le_iff (fits : media.Fits) (listed : fmt ∈ sdeFormats)
    (sizes : sdeFormatGetPlaneSizes media fmt cmd.width cmd.height (some cmd.pitches) =
      .ok layout)
    (planar : fmt.pixelFormat = .yuv420 ∨ fmt.pixelFormat = .yvu420) {luma chroma : BoId}
    (first : bos 0 = some luma) (second : bos 1 = some chroma) (third : bos 2 = some chroma)
    (apart : chroma ≠ luma) :
    layout.totalSize.toNat ≤ objectBytes size (objectsOf bos 3) ↔
      3 * (cmd.width.toNat * cmd.height.toNat) ≤
        2 * ((size luma).toNat + (size chroma).toNat) := by
  have linear : fmt.isLinear = true := (planar_of_three_planes fmt listed planar).2.2
  have total := total_of_layout fits listed sizes
  rw [if_pos linear] at total
  obtain ⟨-, kind⟩ := getPlaneSizes_cases listed sizes
  cases kind with
  | inr other => simp [other.1] at linear
  | inl computed =>
    have bytes := imageBytes_planar listed planar computed.2
    rw [objectBytes_shared first second third apart, total]
    omega

/-- An accepted frame buffer covers what the pipe fetches exactly when the user's pitches are the
    minimal ones and no chroma object counted twice was needed to reach the total. -/
theorem checkModifiedFormat_covers_iff (planes : DocumentedPlanes drmFormatNumPlanes)
    (fits : media.Fits) (listed : fmt ∈ sdeFormats)
    (accepted : sdeFormatCheckModifiedFormat media drmFormatNumPlanes size fmt cmd bos = .ok ()) :
    (∃ layout,
        sdeFormatGetPlaneSizes media fmt cmd.width cmd.height (some cmd.pitches) = .ok layout ∧
        CoversFetch media fmt cmd
          (objectBytes size (objectsOf bos (drmFormatNumPlanes fmt.pixelFormat))) layout) ↔
      PitchesMinimal fmt cmd ∧ SharedChromaFits size fmt cmd bos := by
  obtain ⟨layout, sum, sizes, summed, large⟩ := accepted_cases accepted
  have three := three_planes_iff planes fmt.pixelFormat
  constructor
  · intro ⟨layout', sizes', covers⟩
    obtain rfl : layout = layout' := by simpa [sizes] using sizes'
    refine ⟨(planes_covered_iff listed sizes).mp covers.planes, ?_⟩
    intro planar shared apart luma chroma first second
    rw [first, second, ne_eq, Option.some.injEq] at apart
    have within := covers.objects
    rw [three.mpr planar] at within
    exact (shared_total_le_iff fits listed sizes planar first second (by rw [← shared, second])
      apart).mp within
  · intro ⟨minimal, fitting⟩
    refine ⟨layout, sizes, (planes_covered_iff listed sizes).mpr minimal,
      total_of_layout fits listed sizes, ?_⟩
    by_cases twice : drmFormatNumPlanes fmt.pixelFormat = 3 ∧ bos 1 = bos 2 ∧ bos 1 ≠ bos 0
    · obtain ⟨count, shared, apart⟩ := twice
      have present := (bosTotalSize_le summed).2
      rw [count] at present
      obtain ⟨luma, first⟩ := Option.isSome_iff_exists.mp (present 0 (by omega))
      obtain ⟨chroma, second⟩ := Option.isSome_iff_exists.mp (present 1 (by omega))
      have planar := three.mp count
      have enough := fitting planar shared apart luma chroma first second
      rw [first, second, ne_eq, Option.some.injEq] at apart
      rw [count]
      exact (shared_total_le_iff fits listed sizes planar first second (by rw [← shared, second])
        apart).mpr enough
    · apply objects_of_accepted planes summed large
      intro count shared
      by_contra apart
      exact twice ⟨count, shared, apart⟩

end Accepted

/-! ### A 10-bit frame buffer of 64 by 64 pixels -/

def noMedia : MsmMediaInfo where
  align x _ := (x + 4095) / 4096 * 4096
  yStride _ _ := 0
  yScanlines _ _ := 0
  uvStride _ _ := 0
  uvScanlines _ _ := 0
  yMetaStride _ _ := 0
  yMetaScanlines _ _ := 0
  uvMetaStride _ _ := 0
  uvMetaScanlines _ _ := 0
  rgbStride _ _ := 0
  rgbScanlines _ _ := 0
  rgbMetaStride _ _ := 0
  rgbMetaScanlines _ _ := 0

theorem noMedia_fits : noMedia.Fits where
  aligns := by
    intro x small
    have up : (x + 4095).toNat = x.toNat + 4095 := toNat_add_exact (by
      change x.toNat + 4095 < 4294967296
      omega)
    have down : ((x + 4095) / 4096).toNat = (x.toNat + 4095) / 4096 := by
      rw [BitVec.toNat_udiv, up]
      rfl
    rw [← down]
    exact toNat_mul_exact (by
      rw [down]
      change (x.toNat + 4095) / 4096 * 4096 < 4294967296
      omega)
  y _ _ _ _ _ := by simp [noMedia]
  uv _ _ _ _ _ := by simp [noMedia]
  rgb _ _ _ _ _ := by simp [noMedia]
  yMeta _ _ _ _ _ := by simp [noMedia]
  uvMeta _ _ _ _ _ := by simp [noMedia]
  rgbMeta _ _ _ _ _ := by simp [noMedia]

def p010 : SdeFormat := pseudoYuvFmtLoose .nv12 .c420 [.yuv, .dx] .linear 2

def squareCmd (pitch : U32) : FbCmd := { width := 64, height := 64, pitches := fun _ => pitch }

theorem checkModifiedFormat_covers_iff_p010 :
    (∃ layout,
        sdeFormatGetPlaneSizes noMedia p010 64 64 (some (squareCmd 128).pitches) = .ok layout ∧
        CoversFetch noMedia p010 (squareCmd 128)
          (objectBytes (fun _ => 12288) (objectsOf (fun _ => some 0) 2)) layout) ↔
      PitchesMinimal p010 (squareCmd 128) ∧
        SharedChromaFits (fun _ => 12288) p010 (squareCmd 128) fun _ => some 0 := by
  have listed : p010 ∈ sdeFormats := by decide
  have accepted : sdeFormatCheckModifiedFormat noMedia kernelPlanes (fun _ => 12288) p010
      (squareCmd 128) (fun _ => some 0) = .ok () := by decide
  exact checkModifiedFormat_covers_iff (fun _ => rfl) noMedia_fits listed accepted

/-- Rows of 4096 bytes are fetched from an object of the 12288 bytes of the unpadded image. -/
theorem padded_p010_not_covered :
    sdeFormatCheckModifiedFormat noMedia kernelPlanes (fun _ => 12288) p010 (squareCmd 4096)
        (fun _ => some 0) = .ok () ∧
      ∀ layout,
        sdeFormatGetPlaneSizes noMedia p010 64 64 (some (squareCmd 4096).pitches) = .ok layout →
          ¬ CoversFetch noMedia p010 (squareCmd 4096)
            (objectBytes (fun _ => 12288) (objectsOf (fun _ => some 0) 2)) layout := by
  constructor
  · decide
  · intro layout sizes covers
    obtain rfl := Except.ok.inj sizes
    have first := covers.planes (by decide) 0 (by decide)
    revert first
    decide

end DisplayDrivers.Format
