import DisplayDrivers.Ctl.Blendstage
import DisplayDrivers.Lib.Grouped
import DisplayDrivers.Rm.Blocks

/-! # Planes on their way to the layer mixers

`sde_crtc_atomic_check` gives every plane of a CRTC a layout, a position in it and a stage, in
several passes: the layout from the global position, a sort by z position, layout and column, the
numbering of the z positions, the count of each stage, and the comparison of planes that share one.
-/

namespace DisplayDrivers.Blend

open DisplayDrivers.Ctl (Sspp Multirect StageCfg stageMax)
open DisplayDrivers.Lib.Grouped (renumber)
open DisplayDrivers.Rm (TopologyName gCtlVer1TopTable)

structure Mode where
  hdisplay : ℕ
  vdisplay : ℕ
  h16 : hdisplay < 65536
  v16 : vdisplay < 65536

/-- What the passes use of the state of a plane; `existing` tells whether the plane is part of the
    atomic state. -/
structure PlaneState where
  id : ℕ
  pipe : Sspp
  isVirtual : Bool
  zpos : ℕ
  crtcX : Int
  crtcY : Int
  crtcW : ℕ
  crtcH : ℕ
  layout : ℕ
  layoutOffset : Int
  multirectIndex : Multirect
  existing : Bool

structure DimLayer where
  x : ℕ
  y : ℕ
  w : ℕ
  h : ℕ
  stage : ℕ

structure CrtcState where
  topologyName : TopologyName
  mode : Mode
  adjustedMode : Mode
  dimLayers : List DimLayer

structure Catalog where
  hasBaseLayer : Bool
  pipeOrderType : Bool

/-- `struct plane_state`, with the stage of `sde_pstate` -/
structure PState where
  plane : PlaneState
  stage : ℕ
  sdeStage : ℕ

def einval : Int := -22
def e2big : Int := -7

def stage0 : ℕ := 1
def pstatesMax : ℕ := stageMax * 4
def maxMixersPerCrtc : ℕ := 6
def maxMixersPerLayout : ℕ := 2
def maxLayoutsPerCrtc : ℕ := maxMixersPerCrtc / maxMixersPerLayout

/-- `CHECK_LAYER_BOUNDS`; the comparison is unsigned, so that a negative offset is out of bounds. -/
def checkLayerBounds (offset : Int) (size max : ℕ) : Bool :=
  size > max || offset < 0 || offset > max - size

/-! ## Layouts -/

def isTriplePipe (name : TopologyName) : Bool := name = .triplepipe || name = .triplepipeDsc

def isQuadPipe (name : TopologyName) : Bool :=
  name = .quadpipe3dmerge || name = .quadpipeDscmerge || name = .quadpipe3dmergeDsc

def isSixPipe (name : TopologyName) : Bool := name = .sixpipe3dmerge || name = .sixpipeDscmerge

/-- `layout_split`, where the topology has layouts -/
def CrtcState.layoutSplit (crtc : CrtcState) : Option ℕ :=
  if isTriplePipe crtc.topologyName then some (crtc.mode.hdisplay * 2 / 3)
  else if isQuadPipe crtc.topologyName then some (crtc.mode.hdisplay / 2)
  else if isSixPipe crtc.topologyName then some (crtc.mode.hdisplay / 3)
  else none

def layoutPlane (split : ℕ) (plane : PlaneState) : Except Int PlaneState :=
  if !plane.existing then .ok plane
  else
    let layout := plane.crtcX.tdiv split
    let crtcX := plane.crtcX - layout * split
    if layout < 0 ∨ layout ≥ maxLayoutsPerCrtc then .error e2big
    else if checkLayerBounds crtcX plane.crtcW split then .error e2big
    else .ok { plane with layout := layout.toNat, layoutOffset := layout * split, crtcX := crtcX }

def checkPlaneLayout (crtc : CrtcState) (planes : List PlaneState) : Except Int (List PlaneState) :=
  match crtc.layoutSplit with
  | none => .ok planes
  | some split => planes.mapM (layoutPlane split)

/-! ## Stages -/

structure Others where
  destScaler : Int
  hwRsvps : PlaneState → Int
  overMixer : PlaneState → Bool
  multirect : List PlaneState → Int
  secureState : List PState → Int
  rest : List PState → Int

def incSdeStage (catalog : Catalog) : ℕ := if catalog.hasBaseLayer then 0 else stage0

def collect (catalog : Catalog) (others : Others) (crtc : CrtcState) :
    ℕ → List PlaneState → Except Int (List PState)
  | _, [] => .ok []
  | cnt, plane :: planes =>
    if !plane.existing && others.hwRsvps plane ≠ 0 then .error (others.hwRsvps plane)
    else if cnt ≥ pstatesMax then collect catalog others crtc cnt planes
    else if crtc.dimLayers.any fun dim => dim.stage = plane.zpos + incSdeStage catalog then
      .error einval
    else if checkLayerBounds plane.crtcY plane.crtcH crtc.adjustedMode.vdisplay ||
        checkLayerBounds plane.crtcX plane.crtcW crtc.adjustedMode.hdisplay then .error e2big
    else if others.overMixer plane then .error e2big
    else
      match collect catalog others crtc (cnt + 1) planes with
      | .error rc => .error rc
      | .ok pstates => .ok (⟨plane, plane.zpos, plane.zpos⟩ :: pstates)

def pstateCmp (a b : PState) : Int :=
  if a.plane.zpos ≠ b.plane.zpos then a.plane.zpos - b.plane.zpos
  else if a.plane.layout ≠ b.plane.layout then a.plane.layout - b.plane.layout
  else a.plane.crtcX - b.plane.crtcX

/-- The `sort` of the kernel: what it returns is sorted, in whatever order it puts planes that
    compare equal. -/
structure KernelSort where
  sort : List PState → List PState
  perm : ∀ pstates, (sort pstates).Perm pstates
  sorted : ∀ pstates, (sort pstates).Pairwise fun a b => pstateCmp a b ≤ 0

def exclDimLayerCheck (crtc : CrtcState) : Int :=
  if crtc.dimLayers.any fun dim =>
      checkLayerBounds dim.y dim.h crtc.adjustedMode.vdisplay ||
        checkLayerBounds dim.x dim.w crtc.adjustedMode.hdisplay ||
        dim.stage ≥ stageMax || dim.w = 0 || dim.h = 0 then e2big
  else 0

def compact (customClient : Bool) (pstates : List PState) : List PState :=
  if customClient then pstates
  else
    (renumber PState.stage 0 (pstates.head?.elim 0 PState.stage) pstates).map fun numbered =>
      { numbered.1 with stage := numbered.2 }

/-- The count of each stage and layout, where the last one is `slot` with `zposCnt` planes. -/
def countStages (catalog : Catalog) :
    (slot : Option (ℕ × ℕ)) → (zposCnt : ℕ) → List PState → Except Int (List PState)
  | _, _, [] => .ok []
  | slot, zposCnt, pstate :: pstates =>
    let zposCnt := if slot = some (pstate.stage, pstate.plane.layout) then zposCnt else 0
    if pstate.stage ≥ stageMax - stage0 then .error einval
    else if zposCnt = 2 then .error einval
    else
      match countStages catalog (some (pstate.stage, pstate.plane.layout))
        (zposCnt + 1) pstates with
      | .error rc => .error rc
      | .ok counted =>
        .ok ({ pstate with sdeStage := pstate.stage + incSdeStage catalog } :: counted)

def u16 (n : Int) : Int := n % 65536

def sideBySide (pipeOrderType : Bool) (left right : PlaneState) : Bool :=
  !(right.id < left.id && !pipeOrderType) &&
    u16 right.crtcX = u16 left.crtcX + u16 left.crtcW &&
    (u16 left.crtcY = u16 right.crtcY && u16 left.crtcH = u16 right.crtcH)

def neighbours (pipeOrderType : Bool) (prv cur : PState) : Bool :=
  if prv.stage ≠ cur.stage ∨ prv.plane.layout ≠ cur.plane.layout then true
  else if u16 cur.plane.crtcX < u16 prv.plane.crtcX then sideBySide pipeOrderType
    cur.plane prv.plane
  else sideBySide pipeOrderType prv.plane cur.plane

def validateSrcSplitOrder (pipeOrderType : Bool) : List PState → Int
  | prv :: cur :: pstates =>
    if neighbours pipeOrderType prv cur then validateSrcSplitOrder pipeOrderType (cur :: pstates)
    else einval
  | _ => 0

/-- The end of `sde_crtc_atomic_check`: what is checked of the planes once they have their
    stages. -/
def lastChecks (catalog : Catalog) (others : Others) (planes : List PlaneState)
    (pstates : List PState) :
    Except Int (List PState) :=
  if others.multirect planes ≠ 0 then .error (others.multirect planes)
  else if others.secureState pstates ≠ 0 then .error (others.secureState pstates)
  else if validateSrcSplitOrder catalog.pipeOrderType pstates ≠ 0 then
    .error (validateSrcSplitOrder catalog.pipeOrderType pstates)
  else if others.rest pstates ≠ 0 then .error (others.rest pstates)
  else .ok pstates

def assignStages (customClient : Bool) (catalog : Catalog) (others : Others) (sort : KernelSort)
    (crtc : CrtcState) (planes : List PlaneState) (pstates : List PState) :
    Except Int (List PState) :=
  if exclDimLayerCheck crtc ≠ 0 then .error (exclDimLayerCheck crtc)
  else
    match countStages catalog none 0 (compact customClient (sort.sort pstates)) with
    | .error rc => .error rc
    | .ok counted => lastChecks catalog others planes counted

/-- `sde_crtc_atomic_check` for an active CRTC: the planes with the stages assigned to them. -/
def atomicCheck (customClient : Bool) (catalog : Catalog) (others : Others) (sort : KernelSort)
    (crtc : CrtcState) (planes : List PlaneState) : Except Int (List PState) :=
  if others.destScaler ≠ 0 then .error others.destScaler
  else
    match checkPlaneLayout crtc planes with
    | .error rc => .error rc
    | .ok laid =>
      match collect catalog others crtc 0 laid with
      | .error rc => .error rc
      | .ok pstates => assignStages customClient catalog others sort crtc laid pstates

/-! ## Stage configurations -/

def numMixers (name : TopologyName) : ℕ :=
  (gCtlVer1TopTable.find? fun top => top.topName = name).elim 0 (·.numLm)

structure Place where
  layout : ℕ
  stage : ℕ
  index : ℕ

structure Mixing where
  zposCnt : ℕ → ℕ → ℕ
  stageCfg : ℕ → StageCfg
  written : List Place

def StageCfg.none : StageCfg := ⟨fun _ _ => .none, fun _ _ => .rectSolo⟩

def cleared {α : Type} (numMixers : ℕ) (zero : α) (rows : ℕ → α) (layout : ℕ) : α :=
  if numMixers > maxMixersPerLayout ∨ layout = 0 then zero else rows layout

def StageCfg.write (cfg : StageCfg) (stage index : ℕ) (plane : PlaneState) : StageCfg where
  stage i j := if i = stage ∧ j = index then plane.pipe else cfg.stage i j
  multirectIndex i j :=
    if i = stage ∧ j = index then plane.multirectIndex else cfg.multirectIndex i j

def Mixing.enter (mixing : Mixing) (pstate : PState) : Mixing :=
  let layout := pstate.plane.layout
  let stage := pstate.sdeStage
  let index := mixing.zposCnt layout stage
  { zposCnt := fun l s => if l = layout ∧ s = stage then index + 1 else mixing.zposCnt l s
    stageCfg := fun l =>
      if l = layout then StageCfg.write (mixing.stageCfg l) stage index pstate.plane
      else mixing.stageCfg l
    written := mixing.written ++ [⟨layout, stage, index⟩] }

/-- `_sde_crtc_blend_setup_mixer`: the counts are on the stack, and the configurations those of the
    frame before. -/
def blendSetupMixer (numMixers : ℕ) (stack : ℕ → ℕ → ℕ) (old : ℕ → StageCfg)
    (pstates : List PState) :
    Mixing :=
  pstates.foldl Mixing.enter
    ⟨cleared numMixers (fun _ => 0) stack, cleared numMixers StageCfg.none old, []⟩

end DisplayDrivers.Blend
