import DisplayDrivers.Property.Dirty
import DisplayDrivers.Sspp.Scaler

/-! # Updates of a plane (`msm/sde/sde_plane.c`)

An update programs the registers of its pipe in three groups, each only where a bit of
`pstate->dirty` asks for it.

There is no colour fill and no error frame, so `SDE_PLANE_COLOR_FILL_FLAG` and `is_error` are never
set and their branches are left out.
-/

namespace DisplayDrivers.Sspp

open DisplayDrivers.Ctl (Multirect)
open DisplayDrivers.Format (PixelFormat MsmMediaInfo sdeFormatGetPlaneSizes)
open DisplayDrivers.Lib.RegProgram
open DisplayDrivers.Multirect (MultirectMode)
open DisplayDrivers.Property (PropertyInfo PropertyState DrmProperty DrmBlob msmPropertyAtomicSet
  msmPropertyIndex msmPropertyPopDirty msmPropertySetDirtyNoLock msmPropertyDuplicateState)

/-! ## Dirty bits -/

/-- `SDE_PLANE_DIRTY_*` -/
def dirtyRects : U32 := 0x1
def dirtyFormat : U32 := 0x2
def dirtyPerf : U32 := 0x8
def dirtyFbTranslationMode : U32 := 0x10
def dirtyVigGamut : U32 := 0x20
def dirtyVigIgc : U32 := 0x40
def dirtyDmaIgc : U32 := 0x80
def dirtyDmaGc : U32 := 0x100
def dirtyCp : U32 := dirtyVigGamut ||| dirtyVigIgc ||| dirtyDmaIgc ||| dirtyDmaGc
def dirtyAll : U32 := 0xFFFFFFFF &&& ~~~dirtyCp

def has (dirty bits : U32) : Bool := dirty &&& bits != 0

/-- `enum msm_mdp_plane_property` -/
inductive PlaneProp
  | cscV1 | cscDmaV1 | info | scalerLutEd | scalerLutCir | scalerLutSep | skinColor | skyColor
  | foliageColor | vigGamut | vigIgc | dmaIgc | dmaGc | rotCapsV1
  | zpos | alpha | colorFill | hDecimate | vDecimate | inputFence | hueAdjust | saturationAdjust
  | valueAdjust | contrastAdjust | exclRectV1 | rotDstX | rotDstY | rotDstW | rotDstH | prefillSize
  | prefillTime | scalerV1 | scalerV2 | rotOutFb | inversePma
  | blendOp | srcConfig | fbTranslationMode | multirectMode
deriving DecidableEq

def planeProps : List PlaneProp :=
  [.cscV1, .cscDmaV1, .info, .scalerLutEd, .scalerLutCir, .scalerLutSep, .skinColor, .skyColor,
    .foliageColor, .vigGamut, .vigIgc, .dmaIgc, .dmaGc, .rotCapsV1,
    .zpos, .alpha, .colorFill, .hDecimate, .vDecimate, .inputFence, .hueAdjust, .saturationAdjust,
    .valueAdjust, .contrastAdjust, .exclRectV1, .rotDstX, .rotDstY, .rotDstW,
      .rotDstH, .prefillSize,
    .prefillTime, .scalerV1, .scalerV2, .rotOutFb, .inversePma,
    .blendOp, .srcConfig, .fbTranslationMode, .multirectMode]

def PlaneProp.index (prop : PlaneProp) : ℕ := planeProps.idxOf prop

/-- The switch of `sde_plane_sspp_atomic_update` over a dirty property. -/
def propDirty (dirty : U32) (idx : ℕ) : U32 :=
  match planeProps[idx]? with
  | some .scalerV1 | some .scalerV2 | some .scalerLutEd | some .scalerLutCir | some .scalerLutSep
  | some .hDecimate | some .vDecimate | some .srcConfig | some .zpos | some .exclRectV1 =>
    dirty ||| dirtyRects
  | some .cscV1 | some .cscDmaV1 | some .inversePma => dirty ||| dirtyFormat
  | some .multirectMode | some .colorFill => dirtyAll
  | some .info | some .alpha | some .inputFence | some .blendOp => dirty
  | some .fbTranslationMode => dirty ||| dirtyFbTranslationMode
  | some .prefillSize | some .prefillTime => dirty ||| dirtyPerf
  | some .rotDstX | some .rotDstY | some .rotDstW | some .rotDstH | some .rotOutFb => dirty
  | some .vigGamut => dirty ||| dirtyVigGamut
  | some .vigIgc => dirty ||| dirtyVigIgc
  | some .dmaIgc => dirty ||| dirtyDmaIgc
  | some .dmaGc => dirty ||| dirtyDmaGc
  | _ => dirty ||| dirtyAll

/-- "determine what needs to be refreshed": dirty properties are popped until there is none, at most
    `turns` of them. -/
def popDirtyLoop : ℕ → PropertyState → U32 → PropertyState × U32
  | 0, st, dirty => (st, dirty)
  | turns + 1, st, dirty =>
    let popped := msmPropertyPopDirty st
    if popped.2 ≥ 0 then popDirtyLoop turns popped.1 (propDirty dirty popped.2.toNat)
    else (popped.1, dirty)

/-! ## The state of a plane -/

/-- `struct drm_framebuffer` -/
structure Fb where
  width : U32
  height : U32
  /-- `fb->format->format` -/
  pixelFormat : PixelFormat
  modifier : U64
  pitches : ℕ → U32
  offsets : ℕ → U32

/-- `struct sde_plane_rot_state`: what the rotator hands on to the pipe.  `rotHw` is the system
    cache id of the rotator in use. -/
structure RotState where
  outSbuf : Bool := false
  rotHw : Option U32 := none
  nplane : U32 := 0
  outXpos : U32 := 0
  outRotation : U32 := 0
  outSrcX : U32 := 0
  outSrcY : U32 := 0
  outSrcW : U32 := 0
  outSrcH : U32 := 0
  outFb : Option Fb := none

/-- `struct sde_plane_state`; `enabled` says that it has a CRTC and a frame buffer. -/
structure PlaneState where
  enabled : Bool
  crtcX : U32
  crtcY : U32
  crtcW : U32
  crtcH : U32
  rot : RotState
  constAlphaEn : Bool
  stage : ℕ
  multirectIndex : Multirect
  multirectMode : MultirectMode
  exclRect : SdeRect
  propertyState : PropertyState
  scaler : ScalerState

def PlaneState.property (st : PlaneState) (prop : PlaneProp) : U64 :=
  (st.propertyState.valueAt prop.index).value

/-- Where `psde->csc_ptr` points to: the configuration of the user, or one of the defaults. -/
inductive CscPtr
  | null | usr | csc10Yuv2rgb601L | cscYuv2rgb601L

structure Caps where
  pipe : HwPipe
  scaler : ScalerCaps
  /-- `perf.cdp_cfg[SDE_PERF_CDP_USAGE_RT].rd_enable` -/
  cdpRdEnable : Bool
  /-- The format of a frame buffer with a pixel format and a modifier. -/
  getFormat : PixelFormat → U64 → PipeFormat
  media : MsmMediaInfo
  /-- The data of a blob. -/
  blobData : DrmBlob → Lut
  /-- The property of the input fence, and its default. -/
  inputFence : DrmProperty
  inputFenceDefault : U64
  /-- `SDE_DRM_BLEND_OP_OPAQUE`, `SDE_DRM_DEINTERLACE`, `SDE_DRM_FB_SEC` and
      `SDE_DRM_FB_SEC_DIR_TRANS` -/
  blendOpOpaque : U64
  deinterlace : ℕ
  fbSec : U32
  fbSecDirTrans : U32

def Caps.format (caps : Caps) (fb : Fb) : PipeFormat := caps.getFormat fb.pixelFormat fb.modifier

/-- `struct sde_plane` with its state and the registers of its pipe.  `pending` belongs to the
    state, and `crtc` is the state of the CRTC that the last update has seen. -/
structure Plane where
  regs : Reg → U32
  state : PlaneState
  pending : Bool
  info : PropertyInfo
  cscUsrPtr : Option CscCfg
  cscPtr : CscPtr
  revalidate : Bool
  crtc : CrtcState

/-! ## Setting properties -/

/-- What `copy_from_user` finds at the address that a property is set to. -/
inductive UserData
  | fault
  | csc (csc : CscCfg)
  | scalerV1 (pe : PixelExt)
  | scalerV2 (cfg : Scaler3Cfg) (pe : PixelExt)
  | clip (rect : SdeRect)

/-- A call of `sde_plane_atomic_set_property`. -/
structure PropertySet where
  property : DrmProperty
  val : U64
  /-- The answer of `drm_property_lookup_blob`. -/
  found : Option DrmBlob
  user : UserData

structure Prepared where
  state : PlaneState
  info : PropertyInfo
  cscUsrPtr : Option CscCfg

namespace Prepared

/-- `msm_property_atomic_set`; the references to blobs are not looked at here. -/
def msmPropertySet (p : Prepared) (property : DrmProperty) (val : U64) (found : Option DrmBlob) :
    Prepared × Int :=
  let done := msmPropertyAtomicSet p.info (fun _ => 0) p.state.propertyState property val found
  ({ p with info := done.1, state := { p.state with propertyState := done.2.2.1 } }, done.2.2.2)

def setDirty (p : Prepared) (prop : PlaneProp) : Prepared :=
  { p with
    state := { p.state with
      propertyState := msmPropertySetDirtyNoLock p.info p.state.propertyState prop.index } }

def setScaler (p : Prepared) (scaler : ScalerState) : Prepared :=
  { p with state := { p.state with scaler } }

def setCscV1 (p : Prepared) (usr : U64) (user : UserData) : Prepared :=
  match user with
  | .csc csc => { p with cscUsrPtr := if usr = 0 then none else some csc }
  | _ => { p with cscUsrPtr := none }

def setScalerV1 (p : Prepared) (usr : U64) (user : UserData) : Prepared :=
  let s : ScalerState := { p.state.scaler with scalerCheckState := .none }
  match user with
  | .scalerV1 pe =>
    if usr = 0 then p.setScaler s
    else (p.setDirty .scalerV1).setScaler { s with pixelExt := pe, scalerCheckState := .scalerV1 }
  | _ => p.setScaler s

def setScalerV2 (p : Prepared) (usr : U64) (user : UserData) : Prepared :=
  let s : ScalerState := { p.state.scaler with scalerCheckState := .none }
  let cfg := s.scaler3Cfg
  let removed := (p.setDirty .scalerV2).setScaler { s with scaler3Cfg := { cfg with enable := 0 } }
  if usr = 0 then removed
  else
    match user with
    | .scalerV2 scale pe =>
      if scale.enable = 0 then removed
      else
        (p.setDirty .scalerV2).setScaler
          { scalerCheckState := .scalerV2Check, pixelExt := pe
            -- `sde_set_scaler_v2` leaves the tables
            scaler3Cfg :=
              { scale with dirLut := cfg.dirLut, cirLut := cfg.cirLut, sepLut := cfg.sepLut } }
    | _ => p.setScaler s

def setExclRectV1 (p : Prepared) (usr : U64) (user : UserData) : Prepared :=
  if usr = 0 then { p with state := { p.state with exclRect := {} } }
  else
    match user with
    | .clip rect => { p with state := { p.state with exclRect := rect } }
    | _ => p

def setProperty (p : Prepared) (set : PropertySet) : Prepared :=
  let done := p.msmPropertySet set.property set.val set.found
  if done.2 ≠ 0 then done.1
  else
    let looked := msmPropertyIndex done.1.info set.property
    let p := { done.1 with info := looked.1 }
    match looked.2.bind (planeProps[·]?) with
    | some .cscV1 | some .cscDmaV1 => p.setCscV1 set.val set.user
    | some .scalerV1 => p.setScalerV1 set.val set.user
    | some .scalerV2 => p.setScalerV2 set.val set.user
    | some .exclRectV1 => p.setExclRectV1 set.val set.user
    | _ => p

end Prepared

/-! ## Requests -/

/-- What the rotator answers: `sde_plane_rot_calc_cfg` and the command to the rotator. -/
structure RotAnswer where
  nplane : U32
  outXpos : U32
  outRotation : U32
  outSrcX : U32
  outSrcY : U32
  outSrcW : U32
  outSrcH : U32

/-- The rotator in a request that streams through it: which one, the answer when the request is
    checked, with the output buffer if there is one by then, and the answer and the buffer when it
    is committed. -/
structure Streamed where
  scid : U32
  checked : RotAnswer
  checkedFb : Option Fb
  committed : RotAnswer
  committedFb : Fb

/-- An update of an enabled plane that is accepted: the properties that are set and the state of
    DRM, with the rotation that `drm_rotation_simplify` makes of it, then what the check of the CRTC
    decides, and the state of the CRTC. -/
structure Request where
  sets : List PropertySet
  fb : Fb
  srcX : U32
  srcY : U32
  srcW : U32
  srcH : U32
  crtcX : U32
  crtcY : U32
  crtcW : U32
  crtcH : U32
  inRotation : U32
  sbufMode : Bool := false
  streamed : Streamed
  stage : ℕ
  multirectIndex : Multirect
  multirectMode : MultirectMode
  /-- `crtc_x` after the check, which moves the plane by `layout_offset`. -/
  layoutX : U32
  crtc : CrtcState

/-! ## Checks -/

def Plane.duplicateState (caps : Caps) (pl : Plane) : Prepared :=
  let copy : Prepared :=
    { info := pl.info, cscUsrPtr := pl.cscUsrPtr
      state := { pl.state with
        propertyState :=
          (msmPropertyDuplicateState pl.info (fun _ => 0) pl.state.propertyState).2
        rot := { pl.state.rot with rotHw := none, outFb := none } } }
  (copy.msmPropertySet caps.inputFence caps.inputFenceDefault none).1

/-- `DRM_MODE_ROTATE_90`, `DRM_MODE_REFLECT_X` and `DRM_MODE_REFLECT_Y` -/
def modeRotate90 : U32 := BIT 1
def modeReflectX : U32 := BIT 4
def modeReflectY : U32 := BIT 5

def RotState.answered (rot : RotState) (scid : U32) (answer : RotAnswer) (fb : Option Fb) :
    RotState :=
  { rot with
    outSbuf := true, rotHw := some scid, outFb := fb
    nplane := answer.nplane, outXpos := answer.outXpos, outRotation := answer.outRotation
    outSrcX := answer.outSrcX, outSrcY := answer.outSrcY
    outSrcW := answer.outSrcW, outSrcH := answer.outSrcH }

def RotState.bypassed (rot : RotState) (req : Request) : RotState :=
  { rot with
    outSbuf := false, rotHw := none, outFb := some req.fb, outRotation := req.inRotation
    outSrcX := req.srcX, outSrcY := req.srcY, outSrcW := req.srcW, outSrcH := req.srcH }

/-- `rstate->out_sbuf`, when the check has decided it. -/
def Request.streams (req : Request) : Bool := req.sbufMode || has req.inRotation modeRotate90

/-- `sde_plane_rot_atomic_check`: the state and the dirty bits. -/
def rotAtomicCheck (old st : PlaneState) (req : Request) : PlaneState × U32 :=
  if req.streams then
    let answer := req.streamed.checked
    ({ st with rot := st.rot.answered req.streamed.scid answer req.streamed.checkedFb },
      if answer.nplane ≠ old.rot.nplane ∨ answer.outXpos ≠ old.rot.outXpos then
        dirtyFormat ||| dirtyRects
      else 0)
  else ({ st with rot := st.rot.bypassed req }, 0)

/-- The chain of comparisons in `_sde_plane_sspp_atomic_check_mode_changed`; `pending` is the one of
    the old state. -/
def stateChanged (old : PlaneState) (pending : Bool) (st : PlaneState) (dirty : U32) : U32 :=
  if !st.enabled ∨ !old.enabled then dirty ||| dirtyAll
  else if pending then dirty ||| dirtyAll
  else if st.multirectIndex ≠ old.multirectIndex ∨ st.multirectMode ≠ old.multirectMode then
    dirty ||| dirtyAll
  else if st.rot.outSrcW ≠ old.rot.outSrcW ∨ st.rot.outSrcH ≠ old.rot.outSrcH ∨
      st.rot.outSrcX ≠ old.rot.outSrcX ∨ st.rot.outSrcY ≠ old.rot.outSrcY then
    dirty ||| dirtyRects
  else if st.crtcW ≠ old.crtcW ∨ st.crtcH ≠ old.crtcH ∨ st.crtcX ≠ old.crtcX ∨
    st.crtcY ≠ old.crtcY then
    dirty ||| dirtyRects
  else if st.exclRect ≠ old.exclRect then dirty ||| dirtyRects
  else dirty

def fbChanged (old st : PlaneState) (dirty : U32) : U32 :=
  match st.rot.outFb, old.rot.outFb with
  | some fb, some oldFb =>
    if fb.pixelFormat ≠ oldFb.pixelFormat ∨ st.constAlphaEn ≠ old.constAlphaEn then
      dirty ||| (dirtyFormat ||| dirtyRects)
    else
      let dirty :=
        if fb.modifier ≠ oldFb.modifier then dirty ||| (dirtyFormat ||| dirtyRects) else dirty
      let dirty := if ∃ i < 4, fb.pitches i ≠ oldFb.pitches i then dirty ||| dirtyRects else dirty
      if ∃ i < 4, fb.offsets i ≠ oldFb.offsets i then dirty |||
        (dirtyFormat ||| dirtyRects) else dirty
  | _, _ => dirty

def modeChanged (old : PlaneState) (pending : Bool) (st : PlaneState) (dirty : U32) : U32 :=
  -- "no need to check it again"
  if dirty = dirtyAll then dirty else fbChanged old st (stateChanged old pending st dirty)

/-- `_sde_plane_validate_scaler_v2` on a configuration that passes. -/
def validateScalerV2 (caps : Caps) (s : ScalerState) : ScalerState :=
  if caps.scaler.debugfsDefaultScale then s
  else if s.scalerCheckState = .scalerV2 ∨ s.scalerCheckState = .scalerV2Check then
    { s with scalerCheckState := .scalerV2 }
  else s

/-- What `sde_plane_sspp_atomic_check` makes of a state that passes. -/
def ssppChecked (caps : Caps) (st : PlaneState) (req : Request) : PlaneState :=
  { st with
    scaler := validateScalerV2 caps st.scaler
    -- `SDE_STAGE_0` is 1
    constAlphaEn :=
      (caps.format req.fb).alphaEnable && st.property .blendOp != caps.blendOpOpaque &&
      st.stage != 1 }

namespace Plane

/-- The request with its properties set, as `sde_plane_atomic_check` gets it. -/
def prepared (caps : Caps) (pl : Plane) (req : Request) : Prepared :=
  let p := req.sets.foldl Prepared.setProperty (pl.duplicateState caps)
  { p with
    state := { p.state with
      enabled := true, crtcX := req.crtcX, crtcY := req.crtcY
      crtcW := req.crtcW, crtcH := req.crtcH } }

/-- The state as `sde_plane_atomic_check` leaves it. -/
def checked (caps : Caps) (pl : Plane) (req : Request) : PlaneState :=
  ssppChecked caps (rotAtomicCheck pl.state (pl.prepared caps req).state req).1 req

/-- The dirty bits after `sde_plane_atomic_check`. -/
def checkedDirty (caps : Caps) (pl : Plane) (req : Request) : U32 :=
  modeChanged pl.state pl.pending (pl.checked caps req)
    (rotAtomicCheck pl.state (pl.prepared caps req).state req).2

def decided (caps : Caps) (pl : Plane) (req : Request) : PlaneState :=
  let st := pl.checked caps req
  { st with
    stage := req.stage, multirectIndex := req.multirectIndex, multirectMode := req.multirectMode
    crtcX := req.layoutX
    rot := if req.streams then
        st.rot.answered req.streamed.scid req.streamed.committed (some req.streamed.committedFb)
      else st.rot }

def swapped (caps : Caps) (pl : Plane) (req : Request) : Plane :=
  { pl with
    state := pl.decided caps req, pending := false, crtc := req.crtc
    info := (pl.prepared caps req).info, cscUsrPtr := (pl.prepared caps req).cscUsrPtr }

end Plane

/-! ## What the groups are programmed from -/

def Caps.luts (caps : Caps) (st : PlaneState) : Luts :=
  let blob (prop : PlaneProp) : Option Lut :=
    ((st.propertyState.valueAt prop.index).blob).map caps.blobData
  { ed := blob .scalerLutEd, cir := blob .scalerLutCir, sep := blob .scalerLutSep }

/-- The pitches of the layout that `_sde_plane_set_scanout` leaves in `pipe_cfg`, zero where there
    is none. -/
def Caps.planePitch (caps : Caps) (fb : Fb) : ℕ → U32 :=
  match sdeFormatGetPlaneSizes caps.media (caps.format fb).toSdeFormat fb.width fb.height
    (some fb.pitches) with
  | .ok layout => layout.planePitch
  | .error _ => fun _ => 0

/-- What the group under `SDE_PLANE_DIRTY_FB_TRANSLATION_MODE` is programmed from. -/
structure SecureArgs where
  index : Multirect
  enable : Bool

def Caps.secureArgs (caps : Caps) (st : PlaneState) : SecureArgs where
  index := st.multirectIndex
  enable := (st.property .fbTranslationMode).setWidth 32 == caps.fbSec ||
    (st.property .fbTranslationMode).setWidth 32 == caps.fbSecDirTrans

/-- What the group under `SDE_PLANE_DIRTY_RECTS` is programmed from, beside the scaler. -/
structure RectsArgs where
  fmt : PipeFormat
  cfg : PipeCfg
  exclRect : SdeRect
  index : Multirect
  mode : MultirectMode
  luts : Luts
  lineInsertion : LineInsertionCfg

def Caps.rectsArgs (caps : Caps) (st : PlaneState) (crtc : CrtcState) (fb : Fb) : RectsArgs :=
  let src : SdeRect :=
    ⟨(st.rot.outSrcX >>> 16).setWidth 16, (st.rot.outSrcY >>> 16).setWidth 16,
      (st.rot.outSrcW >>> 16).setWidth 16, (st.rot.outSrcH >>> 16).setWidth 16⟩
  let dst : SdeRect :=
    ⟨st.crtcX.setWidth 16, st.crtcY.setWidth 16, st.crtcW.setWidth 16, st.crtcH.setWidth 16⟩
  let deinterlace := (st.property .srcConfig).getLsbD caps.deinterlace
  let stacked := setupPanelStacking caps.pipe crtc st.crtcY st.crtcH
  { fmt := caps.format fb
    cfg :=
      { planePitch := fun i =>
          if deinterlace then caps.planePitch fb i <<< 1 else caps.planePitch fb i
        srcRect := if deinterlace then
            { src with h := src.h / 2, y := ((src.y.setWidth 32 + 1) / 2).setWidth 16 &&& ~~~1 }
          else src
        dstRect := { dst with x := dst.x - crtc.crtcRoi.x, y := dst.y - crtc.crtcRoi.y + stacked.2 }
        horzDecimation := (st.property .hDecimate).setWidth 8
        vertDecimation := (st.property .vDecimate).setWidth 8 }
    exclRect := st.exclRect, index := st.multirectIndex, mode := st.multirectMode
    luts := caps.luts st, lineInsertion := stacked.1 }

def RectsArgs.scaler (args : RectsArgs) : ScalerArgs where
  fmt := args.fmt
  srcW := args.cfg.srcRect.w.setWidth 32
  srcH := args.cfg.srcRect.h.setWidth 32
  dstW := args.cfg.dstRect.w.setWidth 32
  dstH := args.cfg.dstRect.h.setWidth 32
  horzDecimation := args.cfg.horzDecimation
  vertDecimation := args.cfg.vertDecimation
  multirectMode := args.mode
  luts := args.luts

/-- What the group under `SDE_PLANE_DIRTY_FORMAT` is programmed from. -/
structure FormatArgs where
  fmt : PipeFormat
  constAlphaEn : Bool
  flags : SrcFlags
  index : Multirect
  scCfg : ScCfg
  pmaMode : U32
  cscUsrPtr : Option CscCfg

def RotState.scCfg (rot : RotState) : ScCfg :=
  match rot.outSbuf, rot.rotHw with
  | true, some scid =>
    { opMode := if rot.nplane.toInt < 2 then scOpModeInlineSingle
        else if rot.outXpos = 0 then scOpModeInlineLeft else scOpModeInlineRight
      rdEn := true, rdScid := scid, rdNoallocate := true }
  | _, _ => { opMode := scOpModeOffline, rdEn := false, rdScid := 0, rdNoallocate := true }

def RotState.srcFlags (rot : RotState) : SrcFlags where
  flipLr := has rot.outRotation modeReflectX
  flipUd := has rot.outRotation modeReflectY

def Caps.formatArgs (caps : Caps) (st : PlaneState) (cscUsrPtr : Option CscCfg) (fb : Fb) :
    FormatArgs :=
  let fmt := caps.format fb
  { fmt, constAlphaEn := st.constAlphaEn, flags := st.rot.srcFlags, index := st.multirectIndex
    scCfg := st.rot.scCfg
    pmaMode := if fmt.alphaEnable then (st.property .inversePma).setWidth 32 else 0
    cscUsrPtr }

/-! ## The programs of the groups -/

section Programs
variable (caps : Caps)

def secureProgram (args : SecureArgs) : PipeProgram := setupSecure args.index args.enable

def lift {ι : Type} (reg : ι → Reg) (ws : Program ι 32) : PipeProgram :=
  ws.map fun u => ⟨reg u.reg, u.mask, u.value⟩

def scalerProgram (fmt : PipeFormat) (s : ScalerState) : PipeProgram :=
  if caps.pipe.qseed3 then
    lift .qseed3 (match caps.pipe.regDmaSetupVigQseed3 with
      | some setup => setup s.scaler3Cfg fmt
      | none => setupScaler3 caps.pipe.scalerVersion s.scaler3Cfg fmt)
  else when (caps.pipe.features .scalerQseed2) (lift .qseed2 (setupScaler s.pixelExt))

/-- The group under `SDE_PLANE_DIRTY_RECTS`; `s` is what `_sde_plane_setup_scaler` has left. -/
def rectsProgram (args : RectsArgs) (s : ScalerState) : PipeProgram :=
  setupRects caps.pipe args.cfg args.index ++
  when (args.index != .rect1) (setupPeConfig s.pixelExt ++ scalerProgram caps args.fmt s) ++
  when (caps.pipe.features .exclRect) (setupExclRect args.exclRect args.index) ++
  when caps.pipe.multirectEnabled (setupMultirect args.index args.mode) ++
  when (caps.pipe.features .lineInsertion) (setupLineInsertion args.index args.lineInsertion)

def cdpCfg (fmt : PipeFormat) : CdpCfg where
  enable := caps.cdpRdEnable
  ubwcMetaEnable := fmt.isUbwc
  tileAmortizeEnable := fmt.isUbwc || fmt.isTile
  preloadAhead64 := true

/-- The group under `SDE_PLANE_DIRTY_FORMAT` or `SDE_PLANE_DIRTY_RECTS`. -/
def formatProgram (args : FormatArgs) : PipeProgram :=
  setupFormat caps.pipe args.fmt args.constAlphaEn args.flags args.index ++
  when (caps.pipe.features .cdp) (setupCdp (cdpCfg caps args.fmt) args.index) ++
  when (caps.pipe.features .sbuf) (setupSysCache args.scCfg) ++
  setupInversePma caps.pipe args.index args.pmaMode ++
  when (caps.pipe.features .dgmCsc) (setupDgmCsc args.index args.cscUsrPtr)

/-- "update csc": `_sde_plane_setup_csc`, or no configuration. -/
def cscPtr (args : FormatArgs) : CscPtr :=
  if args.fmt.isYuv then
    if args.cscUsrPtr.isSome then .usr
    else if caps.pipe.features .csc10bit then .csc10Yuv2rgb601L
    else .cscYuv2rgb601L
  else .null

/-! ## The update -/

def dirtyAtUpdate (pl : Plane) (old : PlaneState) (pending : Bool) (dirty : U32) :
    PropertyState × U32 :=
  let dirty := if pl.revalidate then dirtyAll else dirty
  let popped := popDirtyLoop (pl.info.propertyCount + 1) pl.state.propertyState dirty
  let dirty := modeChanged old pending pl.state popped.2
  (popped.1, if pl.crtc.roiDirty then dirty ||| dirtyRects else dirty)

def program (pl : Plane) (fb : Fb) (dirty : U32) : Plane :=
  let rects := has dirty dirtyRects
  let format := has dirty dirtyFormat || has dirty dirtyRects
  let rectsArgs := caps.rectsArgs pl.state pl.crtc fb
  let formatArgs := caps.formatArgs pl.state pl.cscUsrPtr fb
  let scaler := setupScalerState caps.pipe caps.scaler rectsArgs.scaler pl.state.scaler
  { pl with
    regs := exec (selected
      [(has dirty dirtyFbTranslationMode, secureProgram (caps.secureArgs pl.state)),
        (rects, rectsProgram caps rectsArgs scaler), (format, formatProgram caps formatArgs)])
          pl.regs
    state := if rects then { pl.state with scaler } else pl.state
    cscPtr := if format then cscPtr caps formatArgs else pl.cscPtr }

/-- `sde_plane_sspp_atomic_update`.  With `full` everything counts as dirty. -/
def ssppAtomicUpdate (full : Bool) (pl : Plane) (old : PlaneState) (pending : Bool) (dirty : U32) :
    Plane :=
  match pl.state.rot.outFb with
  | none => pl
  | some fb =>
    let found := dirtyAtUpdate pl old pending dirty
    let dirty := if full then dirtyAll else found.2
    let pl := { pl with revalidate := false, state := { pl.state with propertyState := found.1 } }
    -- "early out if nothing dirty"
    if dirty = 0 then pl else program caps { pl with pending := true } fb dirty

/-! ## Runs -/

inductive Event
  | commit (req : Request)
  /-- The pipe is flushed (`sde_plane_flush`). -/
  | flush
  /-- A power collapse: the registers are lost, and the plane is to be revalidated. -/
  | powerCollapse (lost : Reg → U32)
  /-- `sde_plane_restore` in a commit that does not update the plane. -/
  | restore (crtc : CrtcState)

def step (full : Bool) (pl : Plane) : Event → Plane
  | .commit req =>
    ssppAtomicUpdate caps full (pl.swapped caps req) pl.state pl.pending (pl.checkedDirty caps req)
  | .flush => { pl with pending := false }
  | .powerCollapse lost => { pl with regs := lost, revalidate := true }
  | .restore crtc =>
    if pl.revalidate then
      ssppAtomicUpdate caps full { pl with crtc } pl.state pl.pending 0
    else pl

end Programs

end DisplayDrivers.Sspp
