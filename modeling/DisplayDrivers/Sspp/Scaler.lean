import DisplayDrivers.Sspp.Pipe

/-! # The scaler configuration of a plane (`msm/sde/sde_plane.c`)

`_sde_plane_setup_scaler` leaves the configuration of the user in the state of the plane where the
checks have accepted it, and puts a default in its place elsewhere.
-/

namespace DisplayDrivers.Sspp

open DisplayDrivers.Format (PixelFormat)
open DisplayDrivers.Multirect (MultirectMode)

/-! ## Data -/

/-- `SDE_PLANE_SCLCHECK_*` -/
inductive SclCheck
  | none | scalerV1 | scalerV2Check | scalerV2
deriving DecidableEq

/-- What the user has set of the scaler, and what `_sde_plane_setup_scaler` makes of it. -/
structure ScalerState where
  scalerCheckState : SclCheck
  pixelExt : PixelExt
  scaler3Cfg : Scaler3Cfg

/-- The blobs of `PLANE_PROP_SCALER_LUT_ED` and its siblings. -/
structure Luts where
  ed : Option Lut
  cir : Option Lut
  sep : Option Lut

structure ScalerCaps where
  /-- `is_qseed3_rev_qseed3lite` -/
  qseed3lite : Bool
  hPreload : U32
  vPreload : U32
  debugfsDefaultScale : Bool
  drmFormatHorzChromaSubsampling : PixelFormat → U32
  drmFormatVertChromaSubsampling : PixelFormat → U32

structure ScalerArgs where
  fmt : PipeFormat
  srcW : U32
  srcH : U32
  dstW : U32
  dstH : U32
  horzDecimation : U8
  vertDecimation : U8
  multirectMode : MultirectMode
  luts : Luts

/-! ## Phase steps -/

def decimatedDimension (dim : U32) (deci : U8) : U32 :=
  (dim + (1#32 <<< deci.toNat - 1)) >>> deci.toNat

/-- `mult_frac` of the kernel. -/
def multFrac (x numer denom : U32) : U32 := x / denom * numer + x % denom * numer / denom

/-- `PHASE_STEP_UNIT_SCALE`; `PHASE_STEP_SHIFT` is 21. -/
def phaseStepUnitScale : U32 := 1#32 <<< 21

def phaseStep (src dst : U32) : U32 := multFrac phaseStepUnitScale src dst

def phaseSteps (src dst chromaSubsampling : U32) : ℕ → U32
  | 0 | 3 => phaseStep src dst
  | 1 | 2 => phaseStep src dst / chromaSubsampling
  | _ => 0

/-! ## QSEED3 -/

/-- `_sde_plane_setup_scaler3_lut` and `_sde_plane_setup_scaler3lite_lut`: the configuration with
    the tables, and whether all of them are there.  With the debugfs switch neither is called. -/
def setupScaler3Luts (caps : ScalerCaps) (luts : Luts) (cfg : Scaler3Cfg) : Scaler3Cfg × Bool :=
  if caps.debugfsDefaultScale then (cfg, false)
  else if caps.qseed3lite then ({ cfg with sepLut := luts.sep }, luts.sep.isSome)
  else
    ({ cfg with dirLut := luts.ed, cirLut := luts.cir, sepLut := luts.sep },
      luts.ed.isSome && luts.cir.isSome && luts.sep.isSome)

/-- The default of `_sde_plane_setup_scaler3`: bilinear where something is to be scaled. -/
def defaultScaler3 (caps : ScalerCaps) (args : ScalerArgs) (chromaH chromaV : U32) :
    Scaler3Cfg × PixelExt :=
  let w := decimatedDimension args.srcW args.horzDecimation
  let h := decimatedDimension args.srcH args.vertDecimation
  let width (i : ℕ) : U32 := if i = 1 ∨ i = 2 then w / chromaH else w
  let height (i : ℕ) : U32 := if i = 1 ∨ i = 2 then h / chromaV else h
  let unscaled : Scaler3Cfg :=
    { phaseStepX := phaseSteps w args.dstW chromaH, phaseStepY := phaseSteps h args.dstH chromaV
      srcWidth := width, srcHeight := height
      preloadX := fun _ => caps.hPreload, preloadY := fun _ => caps.vPreload }
  let scaled : Scaler3Cfg :=
    { unscaled with
      dstWidth := args.dstW, dstHeight := args.dstH
      -- `SDE_SCALE_BIL` and `SDE_SCALE_ALPHA_BIL`
      yRgbFilterCfg := 3, uvFilterCfg := 3, alphaFilterCfg := 1
      lutFlag := 0, blendCfg := 1, enable := 1, dynExpDisabled := 0 }
  (if (!args.fmt.isYuv ∧ args.srcH = args.dstH ∧ args.srcW = args.dstW) ∨ args.multirectMode ≠ .none
    then unscaled else scaled,
    { numExtPxlsTop := height, numExtPxlsLeft := width })

/-! ## QSEED2 -/

/-- `SDE_SCALE_FILTER_*`, by their values. -/
def scaleFilterNearest : U32 := 0
def scaleFilterBil : U32 := 1
def scaleFilterPcmn : U32 := 2
def scaleFilterCa : U32 := 3

/-- The filters of `_sde_plane_setup_scaler2`. -/
def scaler2Filter (src dst : U32) (fmt : PipeFormat) : ℕ → U32 :=
  if fmt.isYuv ∨ src ≠ dst then
    let scaling := if src ≤ dst then scaleFilterBil else scaleFilterPcmn
    fun
      | 0 => if fmt.isYuv then scaleFilterCa else scaling
      | 1 => if fmt.isYuv then scaling else scaleFilterNearest
      | 3 => scaling
      | _ => 0
  else
    fun
      | 0 | 1 | 3 => scaleFilterMax
      | _ => 0

def edgePixels (edge : BitVec 64) : U32 :=
  if 0 ≤ edge.toInt then -((edge.setWidth 32).sshiftRight 21)
  else ((-edge).setWidth 32 + phaseStepUnitScale - 1).sshiftRight 21

/-- `_sde_plane_setup_pixel_ext`: the sizes and the edges of the components in a direction. -/
def setupPixelExt (src dst decimatedSrc : U32) (steps filter : ℕ → U32) (fmt : PipeFormat)
    (chromaSubsampling : U32) (postCompare : Bool) : (ℕ → U32) × (ℕ → U32) × (ℕ → U32) :=
  let work (i : ℕ) : U32 := if i = 1 ∨ i = 2 then decimatedSrc / chromaSubsampling else decimatedSrc
  let compared (i : ℕ) : U32 := if postCompare then work i else src
  -- only the first component has the filter for luma
  let caf (i : ℕ) : BitVec 64 :=
    if i = 0 ∧ fmt.isYuv ∧ filter 0 = scaleFilterCa then phaseStepUnitScale.setWidth 64 else 0
  let span (i : ℕ) : BitVec 64 :=
    ((dst - 1) * steps i).setWidth 64 - ((work i - 1) * phaseStepUnitScale).setWidth 64
  let residual : BitVec 64 := 1#64 <<< 15
  let edges (i : ℕ) : BitVec 64 × BitVec 64 :=
    if !fmt.isYuv ∧ compared i = dst then (0, 0)
    else if compared i ≤ dst then (residual - caf i, -(residual + span i + caf i))
    else (0, -(span i + (steps i).setWidth 64))
  (work, fun i => edgePixels (edges i).1, fun i => edgePixels (edges i).2)

def repeated (pxls : ℕ → U32) (i : ℕ) : U32 := if 0 ≤ (pxls i).toInt then pxls i else 0
def fetched (pxls : ℕ → U32) (i : ℕ) : U32 := if 0 ≤ (pxls i).toInt then 0 else pxls i

def defaultScaler2 (args : ScalerArgs) (chromaH chromaV : U32) : PixelExt :=
  let w := decimatedDimension args.srcW args.horzDecimation
  let h := decimatedDimension args.srcH args.vertDecimation
  let even (dim : U32) : U32 := if args.fmt.isYuv then dim &&& ~~~1 else dim
  let stepX := phaseSteps w args.dstW chromaH
  let stepY := phaseSteps h args.dstH chromaV
  let horz := scaler2Filter w args.dstW args.fmt
  let vert := scaler2Filter h args.dstH args.fmt
  let (roiW, left, right) :=
    setupPixelExt args.srcW args.dstW (even w) stepX horz args.fmt chromaH false
  let (roiH, top, btm) := setupPixelExt args.srcH args.dstH h stepY vert args.fmt chromaV true
  { phaseStepX := stepX, phaseStepY := stepY, horzFilter := horz, vertFilter := vert
    roiW, roiH
    numExtPxlsLeft := left, numExtPxlsRight := right, numExtPxlsTop := top, numExtPxlsBtm := btm
    leftRpt := repeated left, rightRpt := repeated right
    topRpt := repeated top, btmRpt := repeated btm
    leftFtch := fetched left, rightFtch := fetched right
    topFtch := fetched top, btmFtch := fetched btm }

/-! ## The configuration -/

def chromaSubsmplH (caps : ScalerCaps) (args : ScalerArgs) : U32 :=
  if args.horzDecimation ≠ 0 then 1 else caps.drmFormatHorzChromaSubsampling args.fmt.pixelFormat

def chromaSubsmplV (caps : ScalerCaps) (args : ScalerArgs) : U32 :=
  if args.vertDecimation ≠ 0 then 1 else caps.drmFormatVertChromaSubsampling args.fmt.pixelFormat

/-- `_sde_plane_setup_scaler` without colour fill. -/
def setupScalerState (pipe : HwPipe) (caps : ScalerCaps) (args : ScalerArgs) (s : ScalerState) :
    ScalerState :=
  let chromaH := chromaSubsmplH caps args
  let chromaV := chromaSubsmplV caps args
  if pipe.qseed3 then
    let tables := setupScaler3Luts caps args.luts s.scaler3Cfg
    if (!tables.2 ∨ s.scalerCheckState ≠ .scalerV2) ∧ chromaH ≠ 0 ∧ chromaV ≠ 0 then
      let default := defaultScaler3 caps args chromaH chromaV
      { s with scaler3Cfg := default.1, pixelExt := default.2 }
    else { s with scaler3Cfg := tables.1 }
  else if s.scalerCheckState ≠ .scalerV1 ∨ caps.debugfsDefaultScale then
    { s with pixelExt := defaultScaler2 args chromaH chromaV }
  else s

theorem setupScaler3Luts_settles (caps : ScalerCaps) (luts : Luts) (cfg : Scaler3Cfg) :
    setupScaler3Luts caps luts (setupScaler3Luts caps luts cfg).1 = setupScaler3Luts caps
    luts cfg := by
  unfold setupScaler3Luts
  split
  · rfl
  · split <;> rfl

theorem setupScaler3Luts_complete (caps : ScalerCaps) (luts : Luts) (cfg cfg' : Scaler3Cfg) :
    (setupScaler3Luts caps luts cfg).2 = (setupScaler3Luts caps luts cfg').2 := by
  unfold setupScaler3Luts
  split
  · rfl
  · split <;> rfl

theorem setupScalerState_checkState (pipe : HwPipe) (caps : ScalerCaps) (args : ScalerArgs)
    (s : ScalerState) : (setupScalerState pipe caps args s).scalerCheckState =
    s.scalerCheckState := by
  unfold setupScalerState
  dsimp only
  split
  · split <;> rfl
  · split <;> rfl

theorem setupScalerState_settles (pipe : HwPipe) (caps : ScalerCaps) (args : ScalerArgs)
    (s : ScalerState) :
    setupScalerState pipe caps args (setupScalerState pipe caps args s) =
      setupScalerState pipe caps args s := by
  have kept := setupScalerState_checkState pipe caps args s
  rw [setupScalerState, kept]
  dsimp only
  rw [setupScaler3Luts_complete caps args.luts _ s.scaler3Cfg]
  unfold setupScalerState
  dsimp only
  by_cases qseed3 : pipe.qseed3 = true
  · simp only [if_pos qseed3]
    split
    · rfl
    · rw [setupScaler3Luts_settles]
  · simp only [if_neg qseed3]
    split <;> rfl

/-! ## Panel stacking -/

/-- What an update uses of `struct sde_crtc_state`: the partial update region, whether its property
    is dirty, and the padding of panel stacking. -/
structure CrtcState where
  crtcRoi : SdeRect := {}
  roiDirty : Bool := false
  paddingHeight : U32 := 0
  paddingActive : U32 := 0
  paddingDummy : U32 := 0

/-- `sde_crtc_calc_vpadding_param`: `padding_y`, `padding_start` and `padding_height`. -/
def calcVpaddingParam (crtc : CrtcState) (crtcY crtcH : U32) : U32 × U32 × U32 :=
  let m := crtc.paddingActive
  let n := m + crtc.paddingDummy
  let yRemain := crtcY % m
  let yStart := yRemain + crtcY / m * n
  let yEnd := (crtcY + crtcH - 1) / m * n + (crtcY + crtcH - 1) % m
  (yStart, m - yRemain, yEnd - yStart + 1)

/-- `_sde_plane_setup_panel_stacking`: the configuration, and by how much the destination moves.  A
    pipe with the feature belongs to a catalog with line insertion, and a padding height comes with
    its active lines. -/
def setupPanelStacking (pipe : HwPipe) (crtc : CrtcState) (crtcY crtcH : U32) :
    LineInsertionCfg × U16 :=
  if !pipe.features .lineInsertion ∨ crtc.paddingHeight = 0 then ({}, 0)
  else
    let (yStart, hStart, hTotal) := calcVpaddingParam crtc crtcY crtcH
    ({ enable := true, dummyLines := crtc.paddingDummy, activeLines := crtc.paddingActive
       firstActiveLines := hStart, dstH := hTotal }, (yStart - crtcY).setWidth 16)

end DisplayDrivers.Sspp
