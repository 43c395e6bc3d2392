import Mathlib.Data.Nat.Notation
import Mathlib.Logic.Function.Basic

/-! # Secure transitions of the SMMU

A frame with secure content detaches context banks and switches the stage 2 translation to another
VMID, a frame without attaches them again.

What the environment decides (the secure monitor's answer, the power, the acknowledgement of a halt)
is a parameter.
-/

namespace DisplayDrivers.Secure

/-- `enum sde_kms_smmu_state` -/
inductive SmmuState
  | attached
  | detached
  | detachedSec
  | attachAllReq
  | detachAllReq
  | detachSecReq
  | attachSecReq
deriving DecidableEq

/-- `enum sde_kms_smmu_state_transition_type` -/
inductive TransitionType
  | none
  | preCommit
  | postCommit
deriving DecidableEq

/-- `enum sde_kms_sui_misr_state` -/
inductive SuiMisr
  | none
  | enableReq
  | disableReq
deriving DecidableEq

inductive SecLevel
  | nonSec
  | only
deriving DecidableEq

inductive FbMode
  | nonSec
  | sec
  | nonSecDirTrans
  | secDirTrans
deriving DecidableEq

inductive Vmid
  | cpPixel
  | cpSecDisplay
  | cpCameraPreview
deriving DecidableEq

structure Bank where
  secure : Bool
  attached : Bool

/-- `struct sde_kms_smmu_state_data` -/
structure SmmuStateData where
  state : SmmuState
  secureLevel : SecLevel
  transitionType : TransitionType
  transitionError : Bool
  suiMisr : SuiMisr

/-- What the MISR of the secure UI holds: the core power references taken for it less those dropped,
    and which xin clients are requested to halt and have halted. -/
structure Sui where
  power : Int
  haltReq : ℕ → Bool
  halted : ℕ → Bool

/-- What the transitions use of `struct sde_kms`, with the hardware behind it: the banks and the
    VMID of the last switch that has succeeded. -/
structure Kms where
  smmu : SmmuStateData
  detachAllCb : Int
  detachSecCb : Int
  banks : List Bank
  vmid : Vmid
  sui : Sui

structure Catalog where
  suiNsAllowed : Bool
  suiMisrSupported : Bool
  suiBlockXinMask : ℕ → Bool

/-- What the calls into other parts return, zero for success; `xinRet` is for the wait for each xin
    client to halt. -/
structure Env where
  scmRet : Int
  powerRet : Int
  xinRet : ℕ → Int

def einval : Int := -22

def maxXinClient : ℕ := 16

/-! ## Context banks -/

def Bank.skipped (secureOnly : Bool) (b : Bank) : Bool := secureOnly && !b.secure

def Kms.mmuDetach (secureOnly : Bool) (kms : Kms) : Kms :=
  { kms with
    banks :=
      kms.banks.map fun b => if b.skipped secureOnly then b else { b with attached := false } }

def Kms.mmuAttach (secureOnly : Bool) (kms : Kms) : Kms :=
  { kms with
    banks :=
      kms.banks.map fun b => if b.skipped secureOnly then b else { b with attached := true } }

def scmCall (env : Env) (vmid : Vmid) (kms : Kms) : Kms × Int :=
  if env.scmRet = 0 then ({ kms with vmid := vmid }, 0) else (kms, env.scmRet)

/-- `_sde_kms_detach_all_cb` -/
def detachAll (env : Env) (vmid : Vmid) (kms : Kms) : Kms × Int :=
  let kms := { kms with detachAllCb := kms.detachAllCb + 1 }
  if kms.detachAllCb > 1 then (kms, 0) else scmCall env vmid (kms.mmuDetach false)

/-- `_sde_kms_attach_all_cb` -/
def attachAll (env : Env) (vmid : Vmid) (kms : Kms) : Kms × Int :=
  let kms := { kms with detachAllCb := kms.detachAllCb - 1 }
  if kms.detachAllCb ≠ 0 then (kms, 0)
  else
    let switched := scmCall env vmid kms
    if switched.2 ≠ 0 then switched else (switched.1.mmuAttach false, 0)

/-- `_sde_kms_detach_sec_cb` -/
def detachSec (env : Env) (vmid : Vmid) (kms : Kms) : Kms × Int :=
  let kms := { kms with detachSecCb := kms.detachSecCb + 1 }
  if kms.detachSecCb > 1 then (kms, 0) else scmCall env vmid (kms.mmuDetach true)

/-- `_sde_kms_attach_sec_cb` -/
def attachSec (env : Env) (vmid : Vmid) (kms : Kms) : Kms × Int :=
  let kms := { kms with detachSecCb := kms.detachSecCb - 1 }
  if kms.detachSecCb ≠ 0 then (kms, 0)
  else
    let switched := scmCall env vmid kms
    if switched.2 ≠ 0 then switched else (switched.1.mmuAttach true, 0)

/-! ## The MISR of the secure UI -/

/-- The halt of the xin clients in `mask`, one after the other; it stops at the first one that does
    not acknowledge, whose request stays. -/
def haltXin (env : Env) (mask : ℕ → Bool) : (clients : List ℕ) → Sui → Sui × Int
  | [], sui => (sui, 0)
  | i :: clients, sui =>
    if ¬mask i ∨ sui.halted i then haltXin env mask clients sui
    else
      let sui := { sui with haltReq := Function.update sui.haltReq i true }
      if env.xinRet i ≠ 0 then (sui, env.xinRet i)
      else haltXin env mask clients { sui with halted := Function.update sui.halted i true }

def unhaltXin (mask : ℕ → Bool) (sui : Sui) : Sui :=
  { sui with
    haltReq := fun i => sui.haltReq i && !(mask i && i < maxXinClient)
    halted := fun i => sui.halted i && !(mask i && i < maxXinClient) }

def vbifHaltXinMask (env : Env) (mask : ℕ → Bool) (halt : Bool) (sui : Sui) : Sui × Int :=
  if halt then haltXin env mask (List.range maxXinClient) sui else (unhaltXin mask sui, 0)

/-- A failing `sde_power_resource_enable` has raised the count of the client already and leaves it
    so. -/
def suiMisrCtrl (catalog : Catalog) (env : Env) (enable : Bool) (sui : Sui) : Sui × Int :=
  if enable then
    if env.powerRet ≠ 0 then ({ sui with power := sui.power + 1 }, env.powerRet)
    else
      let halt :=
        vbifHaltXinMask env catalog.suiBlockXinMask true { sui with power := sui.power + 1 }
      if halt.2 ≠ 0 then ({ halt.1 with power := halt.1.power - 1 }, halt.2) else (halt.1, 0)
  else
    let unhalt := vbifHaltXinMask env catalog.suiBlockXinMask false sui
    ({ unhalt.1 with power := unhalt.1.power - 1 }, 0)

/-! ## Transitions -/

def Kms.setState (state : SmmuState) (kms : Kms) : Kms :=
  { kms with smmu := { kms.smmu with state := state } }

def Kms.setAttached (kms : Kms) : Kms :=
  { kms with smmu := { kms.smmu with state := .attached, secureLevel := .nonSec } }

def SmmuStateData.secVmid (smmu : SmmuStateData) : Vmid :=
  if smmu.secureLevel = .only then .cpSecDisplay else .cpCameraPreview

/-- The switch of `_sde_kms_secure_ctrl` over the request. -/
def transition (env : Env) (kms : Kms) : Kms × Int :=
  match kms.smmu.state with
  | .detachAllReq =>
    let out := detachAll env .cpSecDisplay kms
    if out.2 = 0 then (out.1.setState .detached, 0) else out
  | .attachAllReq =>
    let out := attachAll env .cpPixel kms
    if out.2 = 0 then (out.1.setAttached, 0) else out
  | .detachSecReq =>
    let out := detachSec env kms.smmu.secVmid kms
    if out.2 = 0 then (out.1.setState .detachedSec, 0) else out
  | .attachSecReq =>
    let out := attachSec env .cpPixel kms
    if out.2 = 0 then (out.1.setAttached, 0) else out
  | _ => (kms, einval)

def finish (out : Kms × Int) : Kms × Int :=
  ({ out.1 with
      smmu := { out.1.smmu with
        suiMisr := .none
        transitionType := .none
        transitionError := out.2 ≠ 0 } }, out.2)

def secureCtrl (catalog : Catalog) (env : Env) (postCommit : Bool) (kms : Kms) : Kms × Int :=
  if kms.smmu.transitionType = .none ∨ kms.smmu.transitionType = .postCommit ∧ ¬postCommit then
    (kms, 0)
  else
    -- enable sui misr if requested, before the transition
    let enabled :=
      if kms.smmu.suiMisr = .enableReq then suiMisrCtrl catalog env true kms.sui else (kms.sui, 0)
    let kms := { kms with sui := enabled.1 }
    if enabled.2 ≠ 0 then finish (kms, enabled.2)
    else
      let moved := transition env kms
      -- disable sui misr if requested, after the transition
      if moved.2 = 0 ∧ moved.1.smmu.suiMisr = .disableReq then
        let disabled := suiMisrCtrl catalog env false moved.1.sui
        finish ({ moved.1 with sui := disabled.1 }, disabled.2)
      else finish moved

/-! ## Frames -/

/-- A committed frame of a CRTC: the translation modes of its planes in the order of the list, its
    security level, whether one of its encoders is in video mode, and whether a plane had a frame
    buffer in the old state. -/
structure Frame where
  modes : List FbMode
  secureLevel : SecLevel
  videoMode : Bool
  oldValidFb : Bool

/-- `SDE_KMS_OPS_*` -/
structure Ops where
  secureStateChange : Bool
  waitForTxDone : Bool
  cleanupPlaneFb : Bool
deriving DecidableEq

def Ops.none : Ops := ⟨false, false, false⟩

def translationMode : FbMode → List FbMode → FbMode
  | mode, [] => mode
  | _, .secDirTrans :: _ => .secDirTrans
  | _, mode :: modes => translationMode mode modes

def SmmuStateData.display (smmu : SmmuStateData) : Bool :=
  smmu.state = .detached || smmu.state = .detachAllReq ||
    smmu.secureLevel = .only && (smmu.state = .detachedSec || smmu.state = .detachSecReq)

def SmmuStateData.secOut (smmu : SmmuStateData) : Bool :=
  smmu.state = .detachedSec || smmu.state = .detachSecReq

def getSecureTransitionOps (catalog : Catalog) (f : Frame) (kms : Kms) : Kms × Except Int Ops :=
  let smmu := kms.smmu
  let attachType : TransitionType := if f.videoMode then .postCommit else .preCommit
  match translationMode .nonSec f.modes with
  | .secDirTrans =>
    -- secure display usecase
    if smmu.state = .attached ∧ f.secureLevel = .only then
      ({ kms with
          smmu := { smmu with
            state := if catalog.suiNsAllowed then .detachSecReq else .detachAllReq
            secureLevel := f.secureLevel
            transitionType := .preCommit
            suiMisr := if catalog.suiMisrSupported then .enableReq else smmu.suiMisr } },
        .ok ⟨true, f.oldValidFb, f.oldValidFb⟩)
    -- secure camera usecase
    else if smmu.state = .attached then
      ({ kms with
          smmu := { smmu with
            state := .detachSecReq
            secureLevel := f.secureLevel
            transitionType := .preCommit } },
        .ok ⟨true, false, false⟩)
    else (kms, .ok Ops.none)
  | .sec | .nonSec =>
    if smmu.display then
      ({ kms with
          smmu := { smmu with
            state := if catalog.suiNsAllowed then .attachSecReq else .attachAllReq
            transitionType := attachType
            suiMisr := if catalog.suiMisrSupported then .disableReq else smmu.suiMisr } },
        .ok ⟨true, f.oldValidFb, false⟩)
    else if smmu.secOut then
      ({ kms with smmu := { smmu with state := .attachSecReq, transitionType := attachType } },
        .ok ⟨true, f.oldValidFb, false⟩)
    else (kms, .ok Ops.none)
  | .nonSecDirTrans => (kms, .error einval)

/-- `sde_kms_prepare_secure_transition` for a state with one active CRTC. -/
def prepareSecureTransition (catalog : Catalog) (env : Env) (f : Frame) (kms : Kms) : Kms :=
  let out := getSecureTransitionOps catalog f kms
  match out.2 with
  | .error _ => out.1
  | .ok ops => if ops.secureStateChange then (secureCtrl catalog env false out.1).1 else out.1

/-- The secure transition of `sde_kms_complete_commit`. -/
def completeSecureTransition (catalog : Catalog) (env : Env) (kms : Kms) : Kms :=
  if kms.smmu.transitionType = .postCommit then (secureCtrl catalog env true kms).1 else kms

def Kms.init (secure : List Bool) : Kms where
  smmu := ⟨.attached, .nonSec, .none, false, .none⟩
  detachAllCb := 0
  detachSecCb := 0
  banks := secure.map fun secure => ⟨secure, true⟩
  vmid := .cpPixel
  sui := ⟨0, fun _ => false, fun _ => false⟩

end DisplayDrivers.Secure
