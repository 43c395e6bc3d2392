import DisplayDrivers.Secure.Smmu
import Mathlib.Data.List.Basic

/-! # Which atomic states are accepted

Each active CRTC of an atomic state is checked by itself, and then the number of active CRTCs is
compared with what is secure: in the new states of the CRTCs that take part and in the current
states of all of them.
-/

namespace DisplayDrivers.Secure

/-! ## One CRTC -/

structure FbModes where
  ns : ℕ
  sec : ℕ
  secDir : ℕ

def countFbModes : List FbMode → FbModes → FbModes × Int
  | [], counts => (counts, 0)
  | .nonSec :: modes, counts => countFbModes modes { counts with ns := counts.ns + 1 }
  | .sec :: modes, counts => countFbModes modes { counts with sec := counts.sec + 1 }
  | .secDirTrans :: modes, counts => countFbModes modes { counts with secDir := counts.secDir + 1 }
  | .nonSecDirTrans :: _, counts => (counts, einval)

/-- A plane in the sorted array of `sde_crtc_atomic_check`. -/
structure Staged where
  secUiAllowed : Bool
  stage : Int
  sdeStage : Int
deriving DecidableEq

/-- What the secure transitions use of the state of a CRTC, when it is checked and when it is
    committed. -/
structure CrtcState where
  active : Bool
  modes : List FbMode
  secureLevel : SecLevel
  pstates : List Staged
  dimLayers : List Int
  encoders : List Bool
  videoMode : Bool

/-- `sde_crtc_find_plane_fb_modes`, for the current state of a CRTC -/
def CrtcState.findPlaneFbModes (crtc : CrtcState) : FbModes × Int :=
  countFbModes crtc.modes ⟨0, 0, 0⟩

/-- `sde_crtc_state_find_plane_fb_modes`, for a new one -/
def CrtcState.stateFindPlaneFbModes (state : CrtcState) : FbModes × Int :=
  countFbModes state.modes ⟨0, 0, 0⟩

structure Limits where
  suiSupportedBlendstage : ℕ
  hasBaseLayer : Bool

def stage0 : Int := 1

def maxEncoderCntPerSecureCrtc : ℕ := 1

def oneStage : List Staged → Bool
  | first :: second :: planes =>
    second.secUiAllowed && second.stage = first.stage && oneStage (second :: planes)
  | _ => true

def oneDimStage : List Int → Bool
  | first :: second :: layers => second = first && oneDimStage (second :: layers)
  | _ => true

def supportedStage (limits : Limits) (state : CrtcState) : Bool :=
  let stage :=
    match state.pstates with
    | plane :: _ => plane.sdeStage
    | [] => state.dimLayers.headD 0
  let stage := if limits.hasBaseLayer then stage else stage - stage0
  !(state.pstates.isEmpty && state.dimLayers.isEmpty) &&
    (limits.suiSupportedBlendstage : Int) = stage % 4294967296

/-- What a CRTC with `SEC_ONLY` has to satisfy. -/
def checkSecOnly (limits : Limits) (counts : FbModes) (state : CrtcState) : Bool :=
  counts.ns = 0 && counts.sec = 0 && oneStage state.pstates && oneDimStage state.dimLayers &&
    (limits.suiSupportedBlendstage = 0 || supportedStage limits state)

def displayChange (smmu : SmmuStateData) (secure : SecLevel) (counts : FbModes) : Bool :=
  counts.secDir ≠ 0 && (smmu.state = .attached && secure = .only) ||
    counts.ns ≠ 0 && (smmu.state = .detached || smmu.state = .detachAllReq) ||
    counts.ns ≠ 0 && (smmu.state = .detachedSec || smmu.state = .detachSecReq) &&
      smmu.secureLevel = .only

/-- `_sde_crtc_check_secure_state` for a new state of the CRTC that is in the state `old` now. -/
def checkSecureState (limits : Limits) (smmu : SmmuStateData) (old state : CrtcState) : Int :=
  let counts := state.stateFindPlaneFbModes
  if counts.2 ≠ 0 then counts.2
  else if state.secureLevel = .only ∧ ¬checkSecOnly limits counts.1 state then einval
  else if counts.1.secDir ≠ 0 ∧ state.encoders.length > maxEncoderCntPerSecureCrtc then einval
  -- a panel in video mode needs a commit without planes in between
  else if state.encoders.any id ∧ state.modes ≠ [] ∧ old.modes ≠ [] ∧
      displayChange smmu state.secureLevel counts.1 then einval
  else 0

/-! ## All of them -/

structure OldPlane where
  crtc : Bool
  fb : Bool

structure AtomicState where
  crtcs : ℕ → Option CrtcState
  planes : List (Option OldPlane)

structure Display where
  numCrtc : ℕ
  crtcs : ℕ → CrtcState

structure Survey where
  cnt : ℕ
  session : Bool
  last : Option ℕ

def Survey.none : Survey := ⟨0, false, .none⟩

def Survey.visit (k : ℕ) (active looked secure : Bool) (survey : Survey) : Survey :=
  if !active then survey
  else if !looked then { survey with cnt := survey.cnt + 1 }
  else ⟨survey.cnt + 1, survey.session || secure, some k⟩

def AtomicState.survey (state : AtomicState) (numCrtc : ℕ) : Survey :=
  (List.range numCrtc).foldl (fun survey k =>
    match state.crtcs k with
    | .none => survey
    | some crtc => survey.visit k crtc.active true (crtc.stateFindPlaneFbModes.1.secDir ≠ 0)) .none

def Display.survey (display : Display) (cur : Option ℕ) : Survey :=
  (List.range display.numCrtc).foldl (fun survey k =>
    survey.visit k (display.crtcs k).active (cur ≠ some k)
      ((display.crtcs k).findPlaneFbModes.1.secDir ≠ 0)) .none

def maxCrtcCntDuringSecure : ℕ := 1

def eperm : Int := -1

def ebusy : Int := -16

def checkSecureTransition (display : Display) (state : AtomicState) : Int :=
  let new := state.survey display.numCrtc
  let current := display.survey new.last
  if !current.session && !new.session then 0
  else if current.cnt > maxCrtcCntDuringSecure ∨ new.cnt > maxCrtcCntDuringSecure then eperm
  else if current.last.isSome ∧ new.last.isSome ∧ current.last ≠ new.last then eperm
  else 0

/-- The part of `drm_atomic_helper_check` that concerns the secure states: the check of the first
    CRTC that fails. -/
def checkCrtcs (limits : Limits) (smmu : SmmuStateData) (display : Display) (state : AtomicState) :
    List ℕ → Int
  | [] => 0
  | k :: crtcs =>
    match state.crtcs k with
    | .none => checkCrtcs limits smmu display state crtcs
    | some crtc =>
      let rc := if crtc.active then checkSecureState limits smmu (display.crtcs k) crtc else 0
      if rc ≠ 0 then rc else checkCrtcs limits smmu display state crtcs

/-- `sde_kms_atomic_check`; `others` is for all that `drm_atomic_helper_check` checks besides. -/
def atomicCheck (limits : Limits) (smmu : SmmuStateData) (suspended : Bool) (others : Int)
    (display : Display) (state : AtomicState) : Int :=
  if suspended then ebusy
  else if others ≠ 0 then others
  else
    let rc := checkCrtcs limits smmu display state (List.range display.numCrtc)
    if rc ≠ 0 then rc else checkSecureTransition display state

def Display.commit (display : Display) (state : AtomicState) : Display :=
  { display with crtcs := fun k => (state.crtcs k).getD (display.crtcs k) }

/-! ## The walk before a commit -/

def scanPlanes : List (Option OldPlane) → ℕ → Bool × ℕ
  | [], i => (false, i)
  | .none :: planes, i => scanPlanes planes (i + 1)
  | some plane :: planes, i =>
    if plane.crtc && plane.fb then (true, i) else scanPlanes planes (i + 1)

def CrtcState.frame (crtc : CrtcState) (oldValidFb : Bool) : Frame :=
  ⟨crtc.modes, crtc.secureLevel, crtc.videoMode, oldValidFb⟩

/-- `sde_kms_prepare_secure_transition`: the walk from the index `i` on, with the environments of
    the visits to come.  The walk over the planes has the same index, so that the one over the CRTCs
    goes on where it has left off. -/
def prepareLoop (catalog : Catalog) (numCrtc : ℕ) (state : AtomicState) :
    (fuel i : ℕ) → (envs : ℕ → Env) → (oldValidFb : Bool) → Kms → Option Kms
  | 0, _, _, _, _ => .none
  | fuel + 1, i, envs, oldValidFb, kms =>
    if numCrtc ≤ i then some kms
    else
      match state.crtcs i with
      | .none => prepareLoop catalog numCrtc state fuel (i + 1) envs oldValidFb kms
      | some crtc =>
        if !crtc.active then prepareLoop catalog numCrtc state fuel (i + 1) envs oldValidFb kms
        else
          let scan := scanPlanes state.planes 0
          let oldValidFb := oldValidFb || scan.1
          let out := getSecureTransitionOps catalog (crtc.frame oldValidFb) kms
          match out.2 with
          | .error _ => some out.1
          | .ok ops =>
            if ops = Ops.none then some out.1
            else
              let kms :=
                if ops.secureStateChange then (secureCtrl catalog (envs 0) false out.1).1 else out.1
              prepareLoop catalog numCrtc state fuel (scan.2 + 1) (fun visit => envs (visit + 1))
                oldValidFb kms

end DisplayDrivers.Secure
