import DisplayDrivers.Blend.Staging
import DisplayDrivers.Format.Formats
import DisplayDrivers.Lib.Pairing

/-! # Planes that share a pipe

`sde_crtc_atomic_check` pairs the planes of each pipe.
-/

namespace DisplayDrivers.Multirect

open DisplayDrivers.Ctl (Sspp)
open DisplayDrivers.Blend (Catalog Others KernelSort einval layoutPlane collect assignStages
  pstatesMax)
open DisplayDrivers.Format (SdeFormat)
open DisplayDrivers.Lib.Pairing (Table)

def enomem : Int := -12

/-- `enum sde_sspp_multirect_mode` -/
inductive MultirectMode
  | none
  | parallel
  | timeMx
deriving DecidableEq

/-- `struct sde_format`, with the height of its tiles. -/
structure TiledFormat extends SdeFormat where
  tileHeight : ℕ

/-- What the passes use of the state of a plane.  The source is given in 16.16 fixed point numbers,
    and `fmt` is the format of the frame buffer, where it has one. -/
structure PlaneState extends Blend.PlaneState where
  srcX : BitVec 32
  srcY : BitVec 32
  srcW : BitVec 32
  srcH : BitVec 32
  fmt : Option TiledFormat
  multirectProp : BitVec 64
  constAlphaEn : Bool
  multirectMode : MultirectMode

structure SsppCap where
  xinId : ℕ
  maxlinewidth : BitVec 32

/-- `struct sde_rect`; each field has 16 bits. -/
structure SdeRect where
  x : Int
  y : Int
  w : Int
  h : Int

def populateRect (a b c d : Int) : SdeRect := ⟨Blend.u16 a, Blend.u16 b, Blend.u16 c, Blend.u16 d⟩

def PlaneState.src (p : PlaneState) : SdeRect :=
  populateRect (p.srcX >>> 16).toNat (p.srcY >>> 16).toNat (p.srcW >>> 16).toNat
    (p.srcH >>> 16).toNat

def PlaneState.dst (p : PlaneState) : SdeRect := populateRect p.crtcX p.crtcY p.crtcW p.crtcH

def timeMultiplexRect (r0 r1 : SdeRect) (bufferLines : Int) : Bool :=
  r0.y ≥ r1.y + r1.h + bufferLines

def PlaneState.clearMultirect (p : PlaneState) : PlaneState :=
  { p with multirectIndex := .rectSolo, multirectMode := .none }

/-! ## A pair of planes -/

/-- What the loop of `sde_plane_validate_multirect_v2` gathers of the planes; `mode` is the value of
    the property. -/
structure Gathered where
  maxTileHeight : ℕ := 1
  parallelFetchQualified : Bool := true
  mode : ℕ := 0
  constAlphaEnable : Bool := true

def widthThreshold (cap : SsppCap) (fmt : TiledFormat) : Int :=
  if fmt.isUbwc then cap.maxlinewidth.toInt.tdiv 2 else cap.maxlinewidth.toInt

def Gathered.gather (cap : SsppCap) (g : Gathered) (p : PlaneState) : Option Gathered :=
  match p.fmt with
  | none => none
  | some fmt =>
    if p.src.w ≠ p.dst.w ∨ p.src.h ≠ p.dst.h then none
    else if fmt.isYuv then none
    else
      some
        { maxTileHeight :=
            if fmt.isUbwc && g.maxTileHeight < fmt.tileHeight then fmt.tileHeight
              else g.maxTileHeight
          parallelFetchQualified :=
            if g.parallelFetchQualified && p.src.w > widthThreshold cap fmt then false
            else g.parallelFetchQualified
          mode := if p.isVirtual then p.multirectProp.toNat % 2 ^ 32 else g.mode
          constAlphaEnable :=
            if p.constAlphaEn ≠ g.constAlphaEnable then false else g.constAlphaEnable }

def Gathered.selectMode (g : Gathered) (r0 r1 : PlaneState) : MultirectMode :=
  let bufferLines : Int := 2 * g.maxTileHeight
  let timeMultiplexed :=
    timeMultiplexRect r1.dst r0.dst bufferLines || timeMultiplexRect r0.dst r1.dst bufferLines
  match g.mode with
  -- the driver selects the mode when the client has not set the property
  | 0 => if g.parallelFetchQualified then .parallel else if timeMultiplexed then .timeMx else .none
  | 1 => if g.parallelFetchQualified then .parallel else .none
  | 2 => if timeMultiplexed then .timeMx else .none
  | _ => .none

def validateMultirectV2 (caps : Sspp → SsppCap) (r0 r1 : PlaneState) :
    (PlaneState × PlaneState) × Int :=
  match ({} : Gathered).gather (caps r0.pipe) r0 with
  | none => ((r0, r1), einval)
  | some g =>
    if (caps r1.pipe).xinId ≠ (caps r0.pipe).xinId then ((r0, r1), einval)
    else match g.gather (caps r1.pipe) r1 with
      | none => ((r0, r1), einval)
      | some g =>
        let mode := g.selectMode r0 r1
        let r0 := { r0 with multirectMode := mode, constAlphaEn := g.constAlphaEnable }
        let r1 := { r1 with multirectMode := mode, constAlphaEn := g.constAlphaEnable }
        if mode = .none then ((r0, r1), einval)
        else if r0.isVirtual then
          (({ r0 with multirectIndex := .rect1 }, { r1 with multirectIndex := .rect0 }), 0)
        else (({ r0 with multirectIndex := .rect0 }, { r1 with multirectIndex := .rect1 }), 0)

/-! ## The planes of a CRTC -/

abbrev States := ℕ → PlaneState

/-- `_sde_crtc_check_plane_layout`, where the topology has layouts. -/
def checkPlaneLayout (split : ℕ) : List ℕ → States → Except Int States
  | [], states => .ok states
  | id :: ids, states =>
    match layoutPlane split (states id).toPlaneState with
    | .error rc => .error rc
    | .ok laid =>
      checkPlaneLayout split ids (Function.update states id { states id with toPlaneState := laid })

/-- The planes of the walk by pipe: `pipe_staged` and `multirect_plane`. -/
def stagePipes (states : States) (ids : List ℕ) : Table Sspp ℕ :=
  Lib.Pairing.ofList (fun id => (states id).pipe) ids

/-- The pipes from 1 to `SSPP_MAX`. -/
def pipes : List Sspp :=
  [.vig0, .vig1, .vig2, .vig3, .rgb0, .rgb1, .rgb2, .rgb3, .dma0, .dma1, .dma2, .dma3,
    .cursor0, .cursor1]

def clearStaged (pipeStaged : Sspp → Option ℕ) : List Sspp → States → Except Int States
  | [], states => .ok states
  | pipe :: rest, states =>
    match pipeStaged pipe with
    | none => clearStaged pipeStaged rest states
    | some id =>
      if (states id).isVirtual then .error einval
      else clearStaged pipeStaged rest (Function.update states id (states id).clearMultirect)

def validatePairs (caps : Sspp → SsppCap) : List (ℕ × ℕ) → States → States × Int
  | [], states => (states, 0)
  | (r0, r1) :: rest, states =>
    let validated := validateMultirectV2 caps (states r0) (states r1)
    let states := Function.update (Function.update states r0 validated.1.1) r1 validated.1.2
    if validated.2 ≠ 0 then (states, einval) else validatePairs caps rest states

structure CrtcState extends Blend.CrtcState where
  enable : Bool
  active : Bool

structure Env where
  customClient : Bool
  catalog : Catalog
  caps : Sspp → SsppCap
  kcalloc : Bool
  others : Others
  sort : KernelSort

/-- `sde_crtc_atomic_check` from its walk over the planes on. -/
def checkPlanes (env : Env) (crtc : CrtcState) (ids : List ℕ) (states : States) :
    Except Int States :=
  let planes := ids.map fun id => (states id).toPlaneState
  match collect env.catalog env.others crtc.toCrtcState 0 planes with
  | .error rc => .error rc
  | .ok pstates =>
    let staged := stagePipes states (ids.take pstatesMax)
    match clearStaged staged.slot pipes states with
    | .error rc => .error rc
    | .ok states =>
      let validated := validatePairs env.caps staged.pairs states
      let others := { env.others with multirect := fun _ => validated.2 }
      match assignStages env.customClient env.catalog others env.sort crtc.toCrtcState
        planes pstates with
      | .error rc => .error rc
      | .ok _ => .ok validated.1

/-- `sde_crtc_atomic_check`: the states of the planes that it accepts. -/
def atomicCheck (env : Env) (crtc : CrtcState) (ids : List ℕ) (states : States) :
    Except Int States :=
  if !crtc.enable || !crtc.active then .ok states
  else if !env.kcalloc then .error enomem
  else if env.others.destScaler ≠ 0 then .error env.others.destScaler
  else match crtc.layoutSplit with
    | none => checkPlanes env crtc ids states
    | some split =>
      match checkPlaneLayout split ids states with
      | .error rc => .error rc
      | .ok states => checkPlanes env crtc ids states

end DisplayDrivers.Multirect
