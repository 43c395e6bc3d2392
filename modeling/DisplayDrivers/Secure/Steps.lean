import DisplayDrivers.Secure.Smmu
import Mathlib.Tactic.Cases

/-! # What the steps of a secure transition do

Each function of the transitions in the cases its callers need: the banks after an attach or a
detach, a request that is carried out, and the request that a frame makes.
-/

namespace DisplayDrivers.Secure

/-! ## Banks -/

section Banks

variable {kms : Kms}

theorem mmuDetach_all : ∀ b ∈ (kms.mmuDetach false).banks, b.attached = false := by
  intro b member
  obtain ⟨before, -, rfl⟩ := List.mem_map.mp member
  rfl

theorem mmuAttach_all : ∀ b ∈ (kms.mmuAttach false).banks, b.attached = true := by
  intro b member
  obtain ⟨before, -, rfl⟩ := List.mem_map.mp member
  rfl

theorem mmuDetach_sec (attached : ∀ b ∈ kms.banks, b.attached = true) :
    ∀ b ∈ (kms.mmuDetach true).banks, b.attached = !b.secure := by
  intro b member
  obtain ⟨before, at_before, rfl⟩ := List.mem_map.mp member
  cases secure : before.secure with
  | true => simp [Bank.skipped, secure]
  | false => simp [Bank.skipped, secure, attached before at_before]

theorem mmuAttach_sec (nonSec : ∀ b ∈ kms.banks, b.secure = false → b.attached = true) :
    ∀ b ∈ (kms.mmuAttach true).banks, b.attached = true := by
  intro b member
  obtain ⟨before, at_before, rfl⟩ := List.mem_map.mp member
  cases secure : before.secure with
  | true => simp [Bank.skipped, secure]
  | false => simp [Bank.skipped, secure, nonSec before at_before secure]

theorem mmuDetach_nonSec (attached : ∀ b ∈ kms.banks, b.attached = true) :
    ∀ b ∈ (kms.mmuDetach true).banks, b.secure = false → b.attached = true := by
  intro b member insecure
  rw [mmuDetach_sec attached b member, insecure]
  rfl

end Banks

/-! ## What a transition does -/

section Transition

variable {env : Env} {kms : Kms}

theorem transition_detachAll (req : kms.smmu.state = .detachAllReq) (unused : kms.detachAllCb = 0) :
    (transition env kms).1 =
      { kms with
        smmu := { kms.smmu with state := if env.scmRet = 0 then .detached else .detachAllReq }
        detachAllCb := 1
        banks := (kms.mmuDetach false).banks
        vmid := if env.scmRet = 0 then .cpSecDisplay else kms.vmid } := by
  rw [transition, req]
  dsimp only
  rw [detachAll, unused]
  by_cases ok : env.scmRet = 0
  · simp [scmCall, ok, Kms.setState, Kms.mmuDetach]
  · simp [scmCall, ok, Kms.mmuDetach, ← req]

theorem transition_detachSec (req : kms.smmu.state = .detachSecReq) (unused : kms.detachSecCb = 0) :
    (transition env kms).1 =
      { kms with
        smmu := { kms.smmu with state := if env.scmRet = 0 then .detachedSec else .detachSecReq }
        detachSecCb := 1
        banks := (kms.mmuDetach true).banks
        vmid := if env.scmRet = 0 then kms.smmu.secVmid else kms.vmid } := by
  rw [transition, req]
  dsimp only
  rw [detachSec, unused]
  by_cases ok : env.scmRet = 0
  · simp [scmCall, ok, Kms.setState, Kms.mmuDetach]
  · simp [scmCall, ok, Kms.mmuDetach, ← req]

theorem transition_attachAll (req : kms.smmu.state = .attachAllReq) (used : kms.detachAllCb = 1) :
    (transition env kms).1 =
      if env.scmRet = 0 then
        { kms with
          smmu := { kms.smmu with state := .attached, secureLevel := .nonSec }
          detachAllCb := 0
          banks := (kms.mmuAttach false).banks
          vmid := .cpPixel }
      else { kms with detachAllCb := 0 } := by
  rw [transition, req]
  dsimp only
  rw [attachAll, used]
  by_cases ok : env.scmRet = 0
  · simp [scmCall, ok, Kms.setAttached, Kms.mmuAttach]
  · simp [scmCall, ok]

theorem transition_attachSec (req : kms.smmu.state = .attachSecReq) (used : kms.detachSecCb = 1) :
    (transition env kms).1 =
      if env.scmRet = 0 then
        { kms with
          smmu := { kms.smmu with state := .attached, secureLevel := .nonSec }
          detachSecCb := 0
          banks := (kms.mmuAttach true).banks
          vmid := .cpPixel }
      else { kms with detachSecCb := 0 } := by
  rw [transition, req]
  dsimp only
  rw [attachSec, used]
  by_cases ok : env.scmRet = 0
  · simp [scmCall, ok, Kms.setAttached, Kms.mmuAttach]
  · simp [scmCall, ok]

theorem transition_attachAll_unused (req : kms.smmu.state = .attachAllReq)
    (unused : kms.detachAllCb = 0) : (transition env kms).1.detachAllCb = -1 := by
  rw [transition, req]
  dsimp only
  rw [attachAll, unused]
  rfl

theorem transition_attachSec_unused (req : kms.smmu.state = .attachSecReq)
    (unused : kms.detachSecCb = 0) : (transition env kms).1.detachSecCb = -1 := by
  rw [transition, req]
  dsimp only
  rw [attachSec, unused]
  rfl

structure Frames (kms : Kms) (out : Kms × Int) : Prop where
  smmu : out.1.smmu = kms.smmu
  sui : out.1.sui = kms.sui

variable (vmid : Vmid)

theorem frames_scmCall : Frames kms (scmCall env vmid kms) := by
  rw [scmCall]
  split
  · exact ⟨rfl, rfl⟩
  · exact ⟨rfl, rfl⟩

theorem frames_detachAll : Frames kms (detachAll env vmid kms) := by
  rw [detachAll]
  dsimp only
  split
  · exact ⟨rfl, rfl⟩
  · obtain ⟨smmu, sui⟩ := @frames_scmCall env
      (Kms.mmuDetach false { kms with detachAllCb := kms.detachAllCb + 1 }) vmid
    exact ⟨smmu, sui⟩

theorem frames_detachSec : Frames kms (detachSec env vmid kms) := by
  rw [detachSec]
  dsimp only
  split
  · exact ⟨rfl, rfl⟩
  · obtain ⟨smmu, sui⟩ := @frames_scmCall env
      (Kms.mmuDetach true { kms with detachSecCb := kms.detachSecCb + 1 }) vmid
    exact ⟨smmu, sui⟩

theorem frames_attachAll : Frames kms (attachAll env vmid kms) := by
  rw [attachAll]
  dsimp only
  obtain ⟨smmu, sui⟩ := @frames_scmCall env { kms with detachAllCb := kms.detachAllCb - 1 } vmid
  split
  · exact ⟨rfl, rfl⟩
  · split
    · exact ⟨smmu, sui⟩
    · exact ⟨smmu, sui⟩

theorem frames_attachSec : Frames kms (attachSec env vmid kms) := by
  rw [attachSec]
  dsimp only
  obtain ⟨smmu, sui⟩ := @frames_scmCall env { kms with detachSecCb := kms.detachSecCb - 1 } vmid
  split
  · exact ⟨rfl, rfl⟩
  · split
    · exact ⟨smmu, sui⟩
    · exact ⟨smmu, sui⟩

def SmmuStateData.asked (smmu : SmmuStateData) : SmmuStateData :=
  match smmu.state with
  | .detachAllReq => { smmu with state := .detached }
  | .detachSecReq => { smmu with state := .detachedSec }
  | _ => { smmu with state := .attached, secureLevel := .nonSec }

theorem frames_then {out : Kms × Int} (frames : Frames kms out) (set : Kms → Kms)
    (ends : SmmuStateData → SmmuStateData)
    (sets : ∀ kms : Kms, (set kms).smmu = ends kms.smmu ∧ (set kms).sui = kms.sui) :
    (if out.2 = 0 then (set out.1, (0 : Int)) else out).1.smmu =
        (if (if out.2 = 0 then (set out.1, (0 : Int)) else out).2 = 0 then ends kms.smmu
        else kms.smmu) ∧
      (if out.2 = 0 then (set out.1, (0 : Int)) else out).1.sui = kms.sui := by
  by_cases ok : out.2 = 0
  · simp only [ok, if_true]
    rw [(sets out.1).1, (sets out.1).2, frames.smmu, frames.sui]
    exact ⟨rfl, rfl⟩
  · simp only [ok, if_false]
    exact ⟨frames.smmu, frames.sui⟩

theorem transition_ends (env : Env) (kms : Kms) :
    (transition env kms).1.smmu =
        (if (transition env kms).2 = 0 then kms.smmu.asked else kms.smmu) ∧
      (transition env kms).1.sui = kms.sui := by
  rw [transition, SmmuStateData.asked]
  cases kms.smmu.state with
  | detachAllReq =>
    exact frames_then (frames_detachAll _) (Kms.setState .detached)
      (fun smmu => { smmu with state := .detached }) fun _ => ⟨rfl, rfl⟩
  | detachSecReq =>
    exact frames_then (frames_detachSec _) (Kms.setState .detachedSec)
      (fun smmu => { smmu with state := .detachedSec }) fun _ => ⟨rfl, rfl⟩
  | attachAllReq =>
    exact frames_then (frames_attachAll _) Kms.setAttached
      (fun smmu => { smmu with state := .attached, secureLevel := .nonSec }) fun _ => ⟨rfl, rfl⟩
  | attachSecReq =>
    exact frames_then (frames_attachSec _) Kms.setAttached
      (fun smmu => { smmu with state := .attached, secureLevel := .nonSec }) fun _ => ⟨rfl, rfl⟩
  | attached => exact ⟨rfl, rfl⟩
  | detached => exact ⟨rfl, rfl⟩
  | detachedSec => exact ⟨rfl, rfl⟩

theorem transition_sui (env : Env) (kms : Kms) : (transition env kms).1.sui = kms.sui :=
  (transition_ends env kms).2

theorem transition_suiMisr (env : Env) (kms : Kms) :
    (transition env kms).1.smmu.suiMisr = kms.smmu.suiMisr := by
  rw [(transition_ends env kms).1]
  split
  · rw [SmmuStateData.asked]
    split
    · rfl
    · rfl
    · rfl
  · rfl

end Transition

/-! ## Carrying out a request -/

def Kms.settle (sui : Sui) (error : Bool) (kms : Kms) : Kms :=
  { kms with
    sui := sui
    smmu := { kms.smmu with suiMisr := .none, transitionType := .none, transitionError := error } }

theorem finish_eq (out : Kms × Int) :
    (finish out).1 = out.1.settle out.1.sui (out.2 ≠ 0) := rfl

section SecureCtrl

variable {env : Env} {kms : Kms} (catalog : Catalog) {postCommit : Bool}

theorem secureCtrl_later (later : kms.smmu.transitionType = .postCommit) :
    (secureCtrl catalog env false kms).1 = kms := by
  rw [secureCtrl, if_pos (.inr ⟨later, Bool.false_ne_true⟩)]

structure Due (kms : Kms) (postCommit : Bool) : Prop where
  pending : kms.smmu.transitionType ≠ .none
  now : kms.smmu.transitionType = .postCommit → postCommit = true

theorem Due.of_pre (pre : kms.smmu.transitionType = .preCommit) : Due kms postCommit :=
  ⟨by simp [pre], fun post => by simp [pre] at post⟩

theorem Due.of_post (post : kms.smmu.transitionType = .postCommit) : Due kms true :=
  ⟨by simp [post], fun _ => rfl⟩

section

variable (due : Due kms postCommit)

include due

theorem Due.not_early : ¬(kms.smmu.transitionType = .none ∨
      kms.smmu.transitionType = .postCommit ∧ ¬postCommit = true) :=
  not_or.mpr ⟨due.pending, fun both => both.2 (due.now both.1)⟩

theorem secureCtrl_refused (enable : kms.smmu.suiMisr = .enableReq)
    (refused : (suiMisrCtrl catalog env true kms.sui).2 ≠ 0) :
    (secureCtrl catalog env postCommit kms).1 =
      kms.settle (suiMisrCtrl catalog env true kms.sui).1 true := by
  rw [secureCtrl, if_neg due.not_early]
  dsimp only
  rw [if_pos enable, if_pos refused]
  simp [finish, Kms.settle, refused]

theorem secureCtrl_enabled (enable : kms.smmu.suiMisr = .enableReq)
    (enabled : (suiMisrCtrl catalog env true kms.sui).2 = 0) :
    ∃ error, (secureCtrl catalog env postCommit kms).1 =
      (transition env { kms with sui := (suiMisrCtrl catalog env true kms.sui).1 }).1.settle
        (suiMisrCtrl catalog env true kms.sui).1 error := by
  have still := (transition_suiMisr env
    { kms with sui := (suiMisrCtrl catalog env true kms.sui).1 }).trans enable
  have sui := transition_sui env { kms with sui := (suiMisrCtrl catalog env true kms.sui).1 }
  rw [secureCtrl, if_neg due.not_early]
  simp only [if_pos enable]
  rw [if_neg (not_not.mpr enabled), still, if_neg (fun both => by cases both.2), finish_eq, sui]
  exact ⟨_, rfl⟩

theorem secureCtrl_disable (disable : kms.smmu.suiMisr = .disableReq) :
    ∃ error, (secureCtrl catalog env postCommit kms).1 =
      (transition env kms).1.settle
        (if (transition env kms).2 = 0 then (suiMisrCtrl catalog env false kms.sui).1 else kms.sui)
        error := by
  rw [secureCtrl, if_neg due.not_early]
  simp only [disable, reduceCtorEq, if_false, ne_eq, not_true_eq_false]
  by_cases ok : (transition env kms).2 = 0
  · rw [if_pos ⟨ok, (transition_suiMisr env kms).trans disable⟩, if_pos ok, finish_eq,
      transition_sui]
    exact ⟨_, rfl⟩
  · rw [if_neg (fun both => ok both.1), if_neg ok, finish_eq, transition_sui]
    exact ⟨_, rfl⟩

theorem secureCtrl_plain (plain : kms.smmu.suiMisr = .none) :
    ∃ error, (secureCtrl catalog env postCommit kms).1 =
      (transition env kms).1.settle kms.sui error := by
  have still := (transition_suiMisr env kms).trans plain
  rw [secureCtrl, if_neg due.not_early]
  simp only [plain, still, reduceCtorEq, if_false, ne_eq, not_true_eq_false, and_false]
  rw [finish_eq, transition_sui]
  exact ⟨_, rfl⟩

end

end SecureCtrl

/-! ## The request that a frame makes -/

def Kms.request (state : SmmuState) (secureLevel : SecLevel) (transitionType : TransitionType)
    (suiMisr : SuiMisr) (kms : Kms) : Kms :=
  { kms with
    smmu := { kms.smmu with
      state := state
      secureLevel := secureLevel
      transitionType := transitionType
      suiMisr := suiMisr } }

def Frame.attaches (f : Frame) : Prop :=
  translationMode .nonSec f.modes = .sec ∨ translationMode .nonSec f.modes = .nonSec

def Frame.attachType (f : Frame) : TransitionType :=
  if f.videoMode then .postCommit else .preCommit

section Prepare

variable {kms : Kms} {f : Frame} (catalog : Catalog) (env : Env)

theorem prepare_display (mode : translationMode .nonSec f.modes = .secDirTrans)
    (attached : kms.smmu.state = .attached) (only : f.secureLevel = .only) :
    prepareSecureTransition catalog env f kms =
      (secureCtrl catalog env false
        (kms.request (if catalog.suiNsAllowed then .detachSecReq else .detachAllReq)
          .only .preCommit
          (if catalog.suiMisrSupported then .enableReq else kms.smmu.suiMisr))).1 := by
  rw [prepareSecureTransition, getSecureTransitionOps, mode]
  dsimp only
  rw [if_pos ⟨attached, only⟩, only]
  rfl

theorem prepare_camera (mode : translationMode .nonSec f.modes = .secDirTrans)
    (attached : kms.smmu.state = .attached) (level : f.secureLevel = .nonSec) :
    prepareSecureTransition catalog env f kms =
      (secureCtrl catalog env false
        (kms.request .detachSecReq .nonSec .preCommit kms.smmu.suiMisr)).1 := by
  have not_only : f.secureLevel ≠ .only := by simp [level]
  rw [prepareSecureTransition, getSecureTransitionOps, mode]
  dsimp only
  rw [if_neg (fun both => not_only both.2), if_pos attached, level]
  rfl

theorem prepare_leaveDisplay (mode : f.attaches) (display : kms.smmu.display = true) :
    prepareSecureTransition catalog env f kms =
      (secureCtrl catalog env false
        (kms.request (if catalog.suiNsAllowed then .attachSecReq else .attachAllReq)
          kms.smmu.secureLevel f.attachType
          (if catalog.suiMisrSupported then .disableReq else kms.smmu.suiMisr))).1 := by
  rw [prepareSecureTransition, getSecureTransitionOps]
  rcases mode with at_mode | at_mode
  all_goals
    rw [at_mode]
    dsimp only
    rw [if_pos display]
    rfl

theorem prepare_leaveCamera (mode : f.attaches) (no_display : kms.smmu.display = false)
    (secOut : kms.smmu.secOut = true) :
    prepareSecureTransition catalog env f kms =
      (secureCtrl catalog env false
        (kms.request .attachSecReq kms.smmu.secureLevel f.attachType kms.smmu.suiMisr)).1 := by
  rw [prepareSecureTransition, getSecureTransitionOps]
  rcases mode with at_mode | at_mode
  all_goals
    rw [at_mode]
    dsimp only
    rw [if_neg (ne_true_of_eq_false no_display), if_pos secOut]
    rfl

theorem prepare_idle (mode : f.attaches) (no_display : kms.smmu.display = false)
    (no_secOut : kms.smmu.secOut = false) : prepareSecureTransition catalog env f kms = kms := by
  rw [prepareSecureTransition, getSecureTransitionOps]
  rcases mode with at_mode | at_mode
  all_goals
    rw [at_mode]
    dsimp only
    rw [if_neg (ne_true_of_eq_false no_display), if_neg (ne_true_of_eq_false no_secOut)]
    rfl

theorem prepare_direct (mode : ¬f.attaches)
    (detached : translationMode .nonSec f.modes = .secDirTrans → kms.smmu.state ≠ .attached) :
    prepareSecureTransition catalog env f kms = kms := by
  rw [Frame.attaches] at mode
  rw [prepareSecureTransition, getSecureTransitionOps]
  cases at_mode : translationMode .nonSec f.modes with
  | nonSec => exact absurd (.inr at_mode) mode
  | sec => exact absurd (.inl at_mode) mode
  | nonSecDirTrans => rfl
  | secDirTrans =>
    dsimp only
    rw [if_neg (fun both => detached at_mode both.1), if_neg (detached at_mode)]
    rfl

end Prepare

end DisplayDrivers.Secure
