import Mathlib.Data.List.Basic
import Mathlib.Tactic.Common

/-! # Pixel formats and the layout of a frame buffer (`msm/sde/sde_formats.c`)

A frame buffer has a format of one of the tables below, a size and a pitch for each plane.

The stride and scanline macros of compressed and tiled buffers (`MsmMediaInfo`) come from a header
of the kernel, and so does the number of planes of a pixel format: they are parameters.
-/

namespace DisplayDrivers.Format

abbrev U32 := BitVec 32
abbrev U64 := BitVec 64

def EINVAL : Int := 22
def ERANGE : Int := 34

def SDE_MAX_IMG_WIDTH : U32 := 0x3FFF
def SDE_MAX_IMG_HEIGHT : U32 := 0x3FFF
def SDE_UBWC_PLANE_SIZE_ALIGNMENT : U32 := 4096
def SDE_MAX_PLANES : ℕ := 6

/-- The `DRM_FORMAT_*` codes the tables name. -/
inductive PixelFormat
  | argb8888 | abgr8888 | xbgr8888 | rgba8888 | bgra8888 | bgrx8888 | xrgb8888 | rgbx8888 | rgb888
  | bgr888 | rgb565 | bgr565 | argb1555 | abgr1555 | rgba5551 | bgra5551 | xrgb1555 | xbgr1555
  | rgbx5551 | bgrx5551 | argb4444 | abgr4444 | rgba4444 | bgra4444 | xrgb4444 | xbgr4444
  | rgbx4444 | bgrx4444 | bgra1010102 | rgba1010102 | abgr2101010 | argb2101010 | xrgb2101010
  | bgrx1010102 | xbgr2101010 | rgbx1010102 | nv12 | nv21 | nv16 | nv61 | vyuy | uyvy | yuyv
  | yvyu | yuv420 | yvu420
deriving DecidableEq

/-- `enum sde_plane_type`. -/
inductive PlaneType
  | interleaved
  | planar
  | pseudoPlanar
deriving DecidableEq

/-- `enum sde_chroma_samp_type`. -/
inductive ChromaSample
  | rgb
  | h2v1
  | h1v2
  | c420
deriving DecidableEq

/-- `enum sde_fetch_type`. -/
inductive FetchType
  | linear
  | tile
  | ubwc
deriving DecidableEq

inductive FormatFlag
  | yuv
  | dx
  | compressed
deriving DecidableEq

/-- `struct sde_format`, with the fields the layout depends on. -/
structure SdeFormat where
  pixelFormat : PixelFormat
  fetchPlanes : PlaneType
  chromaSample : ChromaSample
  unpackTight : Bool
  bpp : U32
  numPlanes : ℕ
  fetchMode : FetchType
  flag : List FormatFlag
deriving DecidableEq

def SdeFormat.isYuv (fmt : SdeFormat) : Bool := .yuv ∈ fmt.flag
def SdeFormat.isDx (fmt : SdeFormat) : Bool := .dx ∈ fmt.flag
def SdeFormat.isLinear (fmt : SdeFormat) : Bool := fmt.fetchMode = .linear
def SdeFormat.isTile (fmt : SdeFormat) : Bool := fmt.fetchMode = .ubwc ∧ .compressed ∉ fmt.flag
def SdeFormat.isUbwc (fmt : SdeFormat) : Bool := fmt.fetchMode = .ubwc ∧ .compressed ∈ fmt.flag

/-! ## The tables -/

def interleavedRgbFmt (fmt : PixelFormat) (bp : U32) (flg : List FormatFlag) (fm : FetchType)
    (np : ℕ) : SdeFormat :=
  { pixelFormat := fmt, fetchPlanes := .interleaved, chromaSample := .rgb, unpackTight := true,
    bpp := bp, numPlanes := np, fetchMode := fm, flag := flg }

def interleavedYuvFmt (fmt : PixelFormat) (chroma : ChromaSample) (bp : U32)
    (flg : List FormatFlag) (fm : FetchType) (np : ℕ) : SdeFormat :=
  { pixelFormat := fmt, fetchPlanes := .interleaved, chromaSample := chroma, unpackTight := true,
    bpp := bp, numPlanes := np, fetchMode := fm, flag := flg }

def pseudoYuvFmt (fmt : PixelFormat) (chroma : ChromaSample) (flg : List FormatFlag)
    (fm : FetchType) (np : ℕ) : SdeFormat :=
  { pixelFormat := fmt, fetchPlanes := .pseudoPlanar, chromaSample := chroma, unpackTight := true,
    bpp := 2, numPlanes := np, fetchMode := fm, flag := flg }

def pseudoYuvFmtLoose (fmt : PixelFormat) (chroma : ChromaSample) (flg : List FormatFlag)
    (fm : FetchType) (np : ℕ) : SdeFormat :=
  { pixelFormat := fmt, fetchPlanes := .pseudoPlanar, chromaSample := chroma, unpackTight := false,
    bpp := 2, numPlanes := np, fetchMode := fm, flag := flg }

def planarYuvFmt (fmt : PixelFormat) (chroma : ChromaSample) (bp : U32)
    (flg : List FormatFlag) (fm : FetchType) (np : ℕ) : SdeFormat :=
  { pixelFormat := fmt, fetchPlanes := .planar, chromaSample := chroma, unpackTight := true,
    bpp := bp, numPlanes := np, fetchMode := fm, flag := flg }

def sdeFormatMap : List SdeFormat :=
  [ interleavedRgbFmt .argb8888 4 [] .linear 1,
    interleavedRgbFmt .abgr8888 4 [] .linear 1,
    interleavedRgbFmt .xbgr8888 4 [] .linear 1,
    interleavedRgbFmt .rgba8888 4 [] .linear 1,
    interleavedRgbFmt .bgra8888 4 [] .linear 1,
    interleavedRgbFmt .bgrx8888 4 [] .linear 1,
    interleavedRgbFmt .xrgb8888 4 [] .linear 1,
    interleavedRgbFmt .rgbx8888 4 [] .linear 1,
    interleavedRgbFmt .rgb888 3 [] .linear 1,
    interleavedRgbFmt .bgr888 3 [] .linear 1,
    interleavedRgbFmt .rgb565 2 [] .linear 1,
    interleavedRgbFmt .bgr565 2 [] .linear 1,
    interleavedRgbFmt .argb1555 2 [] .linear 1,
    interleavedRgbFmt .abgr1555 2 [] .linear 1,
    interleavedRgbFmt .rgba5551 2 [] .linear 1,
    interleavedRgbFmt .bgra5551 2 [] .linear 1,
    interleavedRgbFmt .xrgb1555 2 [] .linear 1,
    interleavedRgbFmt .xbgr1555 2 [] .linear 1,
    interleavedRgbFmt .rgbx5551 2 [] .linear 1,
    interleavedRgbFmt .bgrx5551 2 [] .linear 1,
    interleavedRgbFmt .argb4444 2 [] .linear 1,
    interleavedRgbFmt .abgr4444 2 [] .linear 1,
    interleavedRgbFmt .rgba4444 2 [] .linear 1,
    interleavedRgbFmt .bgra4444 2 [] .linear 1,
    interleavedRgbFmt .xrgb4444 2 [] .linear 1,
    interleavedRgbFmt .xbgr4444 2 [] .linear 1,
    interleavedRgbFmt .rgbx4444 2 [] .linear 1,
    interleavedRgbFmt .bgrx4444 2 [] .linear 1,
    interleavedRgbFmt .bgra1010102 4 [.dx] .linear 1,
    interleavedRgbFmt .rgba1010102 4 [.dx] .linear 1,
    interleavedRgbFmt .abgr2101010 4 [.dx] .linear 1,
    interleavedRgbFmt .argb2101010 4 [.dx] .linear 1,
    interleavedRgbFmt .xrgb2101010 4 [.dx] .linear 1,
    interleavedRgbFmt .bgrx1010102 4 [.dx] .linear 1,
    interleavedRgbFmt .xbgr2101010 4 [.dx] .linear 1,
    interleavedRgbFmt .rgbx1010102 4 [.dx] .linear 1,
    pseudoYuvFmt .nv12 .c420 [.yuv] .linear 2,
    pseudoYuvFmt .nv21 .c420 [.yuv] .linear 2,
    pseudoYuvFmt .nv16 .h2v1 [.yuv] .linear 2,
    pseudoYuvFmt .nv61 .h2v1 [.yuv] .linear 2,
    interleavedYuvFmt .vyuy .h2v1 2 [.yuv] .linear 2,
    interleavedYuvFmt .uyvy .h2v1 2 [.yuv] .linear 2,
    interleavedYuvFmt .yuyv .h2v1 2 [.yuv] .linear 2,
    interleavedYuvFmt .yvyu .h2v1 2 [.yuv] .linear 2,
    planarYuvFmt .yuv420 .c420 1 [.yuv] .linear 3,
    planarYuvFmt .yvu420 .c420 1 [.yuv] .linear 3 ]

def sdeFormatMapTile : List SdeFormat :=
  [ interleavedRgbFmt .bgr565 2 [] .ubwc 1,
    interleavedRgbFmt .argb8888 4 [] .ubwc 1,
    interleavedRgbFmt .abgr8888 4 [] .ubwc 1,
    interleavedRgbFmt .xbgr8888 4 [] .ubwc 1,
    interleavedRgbFmt .rgba8888 4 [] .ubwc 1,
    interleavedRgbFmt .bgra8888 4 [] .ubwc 1,
    interleavedRgbFmt .bgrx8888 4 [] .ubwc 1,
    interleavedRgbFmt .xrgb8888 4 [] .ubwc 1,
    interleavedRgbFmt .rgbx8888 4 [] .ubwc 1,
    interleavedRgbFmt .abgr2101010 4 [.dx] .ubwc 1,
    interleavedRgbFmt .xbgr2101010 4 [.dx] .ubwc 1,
    pseudoYuvFmt .nv12 .c420 [.yuv] .ubwc 2,
    pseudoYuvFmt .nv21 .c420 [.yuv] .ubwc 2 ]

def sdeFormatMapP010Tile : List SdeFormat :=
  [ pseudoYuvFmtLoose .nv12 .c420 [.yuv, .dx] .ubwc 2 ]

def sdeFormatMapTp10Tile : List SdeFormat :=
  [ pseudoYuvFmt .nv12 .c420 [.yuv, .dx] .ubwc 2 ]

def sdeFormatMapUbwc : List SdeFormat :=
  [ interleavedRgbFmt .bgr565 2 [.compressed] .ubwc 2,
    interleavedRgbFmt .abgr8888 4 [.compressed] .ubwc 2,
    interleavedRgbFmt .xbgr8888 4 [.compressed] .ubwc 2,
    interleavedRgbFmt .abgr2101010 4 [.dx, .compressed] .ubwc 2,
    interleavedRgbFmt .xbgr2101010 4 [.dx, .compressed] .ubwc 2,
    pseudoYuvFmt .nv12 .c420 [.yuv, .compressed] .ubwc 4 ]

def sdeFormatMapP010 : List SdeFormat :=
  [ pseudoYuvFmtLoose .nv12 .c420 [.yuv, .dx] .linear 2 ]

def sdeFormatMapP010Ubwc : List SdeFormat :=
  [ pseudoYuvFmtLoose .nv12 .c420 [.yuv, .dx, .compressed] .ubwc 4 ]

def sdeFormatMapTp10Ubwc : List SdeFormat :=
  [ pseudoYuvFmt .nv12 .c420 [.yuv, .dx, .compressed] .ubwc 4 ]

def sdeFormats : List SdeFormat :=
  sdeFormatMap ++ sdeFormatMapTile ++ sdeFormatMapP010Tile ++ sdeFormatMapTp10Tile ++
    sdeFormatMapUbwc ++ sdeFormatMapP010 ++ sdeFormatMapP010Ubwc ++ sdeFormatMapTp10Ubwc

/-! ## Compressed and tiled layouts -/

inductive MediaColor
  | nv12Ubwc
  | nv12Bpp10Ubwc
  | p010Ubwc
  | rgba8888Ubwc
  | rgba1010102Ubwc
  | rgb565Ubwc

/-- The macros of `media/msm_media_info.h`: strides and scanlines, and `MSM_MEDIA_ALIGN`. -/
structure MsmMediaInfo where
  align : U32 → U32 → U32
  yStride : MediaColor → U32 → U32
  yScanlines : MediaColor → U32 → U32
  uvStride : MediaColor → U32 → U32
  uvScanlines : MediaColor → U32 → U32
  yMetaStride : MediaColor → U32 → U32
  yMetaScanlines : MediaColor → U32 → U32
  uvMetaStride : MediaColor → U32 → U32
  uvMetaScanlines : MediaColor → U32 → U32
  rgbStride : MediaColor → U32 → U32
  rgbScanlines : MediaColor → U32 → U32
  rgbMetaStride : MediaColor → U32 → U32
  rgbMetaScanlines : MediaColor → U32 → U32

/-- `struct sde_hw_fmt_layout`. -/
structure HwFmtLayout where
  format : SdeFormat
  numPlanes : ℕ
  width : U32
  height : U32
  totalSize : U32
  planeAddr : ℕ → U32
  planeSize : ℕ → U32
  planePitch : ℕ → U32

def planes (first second third fourth : U32) : ℕ → U32
  | 0 => first
  | 1 => second
  | 2 => third
  | 3 => fourth
  | _ => 0

/-- The loop that adds the plane sizes up, `SDE_MAX_PLANES` of them. -/
def totalSizeOf (planeSize : ℕ → U32) : U32 :=
  (List.range SDE_MAX_PLANES).foldl (fun total i => total + planeSize i) 0

def sdeMediaUbwcMap : List (PixelFormat × MediaColor) :=
  [(.abgr8888, .rgba8888Ubwc), (.xbgr8888, .rgba8888Ubwc), (.abgr2101010, .rgba1010102Ubwc),
    (.xbgr2101010, .rgba1010102Ubwc), (.bgr565, .rgb565Ubwc)]

def sdeFormatGetMediaColorUbwc (fmt : SdeFormat) : Option MediaColor :=
  if fmt.pixelFormat = .nv12 then
    if fmt.isDx then
      if fmt.unpackTight then some .nv12Bpp10Ubwc else some .p010Ubwc
    else some .nv12Ubwc
  else (sdeMediaUbwcMap.find? fun entry => entry.1 = fmt.pixelFormat).map Prod.snd

/-- The pitch and the size of a plane; an unused one keeps the zeros of the `memset`. -/
structure PlaneExtent where
  pitch : U32
  size : U32

def PlaneExtent.unused : PlaneExtent := { pitch := 0, size := 0 }

def layoutOf (fmt : SdeFormat) (width height : U32) (numPlanes : ℕ)
    (first second third fourth : PlaneExtent) : HwFmtLayout :=
  let planeSize := planes first.size second.size third.size fourth.size
  { format := fmt, numPlanes, width, height, totalSize := totalSizeOf planeSize
    planeAddr := fun _ => 0, planeSize
    planePitch := planes first.pitch second.pitch third.pitch fourth.pitch }

section Ubwc
variable (media : MsmMediaInfo)

def ubwcExtent (stride scanlines : U32) : PlaneExtent :=
  { pitch := stride, size := media.align (stride * scanlines) SDE_UBWC_PLANE_SIZE_ALIGNMENT }

def sdeFormatGetPlaneSizesUbwc (fmt : SdeFormat) (width height : U32) : Except Int HwFmtLayout :=
  match sdeFormatGetMediaColorUbwc fmt with
  | none => .error (-EINVAL)
  | some color =>
    if fmt.isYuv then
      let y := ubwcExtent media (media.yStride color width) (media.yScanlines color height)
      let uv := ubwcExtent media (media.uvStride color width) (media.uvScanlines color height)
      if fmt.isUbwc then
        .ok (layoutOf fmt width height 4 y uv
          (ubwcExtent media (media.yMetaStride color width) (media.yMetaScanlines color height))
          (ubwcExtent media (media.uvMetaStride color width) (media.uvMetaScanlines color height)))
      else .ok (layoutOf fmt width height 2 y uv .unused .unused)
    else
      let rgb := ubwcExtent media (media.rgbStride color width) (media.rgbScanlines color height)
      if fmt.isUbwc then
        -- plane 1 stays empty: the metadata of an RGB buffer is plane 2
        .ok (layoutOf fmt width height 3 rgb .unused
          (ubwcExtent media (media.rgbMetaStride color width)
            (media.rgbMetaScanlines color height)) .unused)
      else .ok (layoutOf fmt width height 1 rgb .unused .unused .unused)

end Ubwc

/-! ## Linear layouts -/

/-- `_sde_get_v_h_subsample_rate`: the vertical and the horizontal rate. -/
def sdeGetVHSubsampleRate : ChromaSample → U32 × U32
  | .h2v1 => (1, 2)
  | .h1v2 => (2, 1)
  | .c420 => (2, 2)
  | .rgb => (1, 1)

def raisePitches (pitches : Option (ℕ → U32)) (layout : HwFmtLayout) : HwFmtLayout :=
  match pitches with
  | none => layout
  | some asked =>
    { layout with planePitch := fun i =>
        if i < layout.numPlanes ∧ i < SDE_MAX_PLANES ∧ layout.planePitch i < asked i then asked i
        else layout.planePitch i }

def lumaBpp (fmt : SdeFormat) : U32 := if fmt.pixelFormat = .nv12 ∧ fmt.isDx then 2 else 1

section Linear
variable (fmt : SdeFormat) (width height : U32)

def interleavedExtent : PlaneExtent :=
  { pitch := width * fmt.bpp, size := width * height * fmt.bpp }

def lumaExtent : PlaneExtent :=
  { pitch := width * lumaBpp fmt, size := width * lumaBpp fmt * height }

def chromaExtent : PlaneExtent :=
  let pitch := width * lumaBpp fmt / (sdeGetVHSubsampleRate fmt.chromaSample).2
  { pitch, size := pitch * (height / (sdeGetVHSubsampleRate fmt.chromaSample).1) }

def chromaPairExtent : PlaneExtent :=
  { pitch := (chromaExtent fmt width height).pitch * 2
    size := (chromaExtent fmt width height).size * 2 }

def sdeFormatGetPlaneSizesLinear (pitches : Option (ℕ → U32)) : Except Int HwFmtLayout :=
  if fmt.fetchPlanes = .interleaved then
    .ok (raisePitches pitches (layoutOf fmt width height 1 (interleavedExtent fmt width height)
      .unused .unused .unused))
  else if width % (sdeGetVHSubsampleRate fmt.chromaSample).2 ≠ 0 ∨
      height % (sdeGetVHSubsampleRate fmt.chromaSample).1 ≠ 0 then
    .error (-EINVAL)
  else if fmt.fetchPlanes = .pseudoPlanar then
    .ok (raisePitches pitches (layoutOf fmt width height 2 (lumaExtent fmt width height)
      (chromaPairExtent fmt width height) .unused .unused))
  else
    .ok (raisePitches pitches (layoutOf fmt width height 3 (lumaExtent fmt width height)
      (chromaExtent fmt width height) (chromaExtent fmt width height) .unused))

end Linear

def sdeFormatGetPlaneSizes (media : MsmMediaInfo) (fmt : SdeFormat) (w h : U32)
    (pitches : Option (ℕ → U32)) : Except Int HwFmtLayout :=
  if w > SDE_MAX_IMG_WIDTH ∨ h > SDE_MAX_IMG_HEIGHT then .error (-ERANGE)
  else if fmt.isUbwc ∨ fmt.isTile then sdeFormatGetPlaneSizesUbwc media fmt w h
  else sdeFormatGetPlaneSizesLinear fmt w h pitches

/-! ## The check of a frame buffer with a modifier -/

abbrev BoId := ℕ

/-- `struct drm_mode_fb_cmd2`. -/
structure FbCmd where
  width : U32
  height : U32
  pitches : ℕ → U32

def addBo (size : BoId → U64) (bos : ℕ → Option BoId) (total : U32) (i : ℕ) : Except Int U32 :=
  match bos i with
  | none => .error (-EINVAL)
  | some bo =>
    -- the sum is a `uint32_t`: the size of an object is cut to its low word
    if i = 0 ∨ bos i ≠ bos 0 then .ok (total + (size bo).setWidth 32) else .ok total

section Check
variable (media : MsmMediaInfo) (drmFormatNumPlanes : PixelFormat → ℕ) (size : BoId → U64)

def bosTotalSize (bos : ℕ → Option BoId) (numBaseFmtPlanes : ℕ) : Except Int U32 :=
  (List.range numBaseFmtPlanes).foldlM (addBo size bos) 0

def sdeFormatCheckModifiedFormat (fmt : SdeFormat) (cmd : FbCmd) (bos : ℕ → Option BoId) :
    Except Int Unit := do
  let layout ← sdeFormatGetPlaneSizes media fmt cmd.width cmd.height (some cmd.pitches)
  let bosTotalSize ← bosTotalSize size bos (drmFormatNumPlanes fmt.pixelFormat)
  if bosTotalSize < layout.totalSize then .error (-EINVAL) else .ok ()

end Check

end DisplayDrivers.Format
