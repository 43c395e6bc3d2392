import DisplayDrivers.Secure.MisrBalance
import DisplayDrivers.Secure.Exclusive

/-! # What is shown is translated the way it needs

A commit with direct secure planes needs the secure banks detached and the VMID of its use case, the
secure display or the secure camera. The request is made from the state of the SMMU and the recorded
level, and only where everything is attached: a commit that changes from one use case directly to
the other asks for nothing, and is shown under the VMID of the one before it.
-/

namespace DisplayDrivers.Secure.Translation

open DisplayDrivers.Lib.Run
open DisplayDrivers.Secure.MisrBalance (Enables held)

structure Commit where
  state : CrtcState
  oldValidFb : Bool
  powerRet : (postCommit : Bool) → Int
  xinRet : (postCommit : Bool) → ℕ → Int

def Commit.env (c : Commit) (postCommit : Bool) : Env :=
  ⟨0, c.powerRet postCommit, c.xinRet postCommit⟩

def Commit.frame (c : Commit) : Frame := c.state.frame c.oldValidFb

structure Shown where
  crtc : CrtcState
  committed : Bool
  mid : Kms
  kms : Kms

def Accepted (limits : Limits) (shown : Shown) (c : Commit) : Prop :=
  c.state.active = true ∧ checkSecureState limits shown.kms.smmu shown.crtc c.state = 0 ∧
    checkSecureTransition ⟨1, fun _ => shown.crtc⟩ ⟨fun _ => some c.state, []⟩ = 0

instance (limits : Limits) (shown : Shown) (c : Commit) : Decidable (Accepted limits shown c) :=
  inferInstanceAs (Decidable (_ ∧ _ ∧ _))

def prepared (catalog : Catalog) (kms : Kms) (c : Commit) : Kms :=
  prepareSecureTransition catalog (c.env false) c.frame kms

def completed (catalog : Catalog) (kms : Kms) (c : Commit) : Kms :=
  completeSecureTransition catalog (c.env true) (prepared catalog kms c)

def step (limits : Limits) (catalog : Catalog) (shown : Shown) (c : Commit) : Shown :=
  if Accepted limits shown c then
    ⟨c.state, true, prepared catalog shown.kms c, completed catalog shown.kms c⟩
  else shown

def vmidOf (level : SecLevel) : Vmid := if level = .only then .cpSecDisplay else .cpCameraPreview

def Direct (level : SecLevel) (kms : Kms) : Prop :=
  (∀ b ∈ kms.banks, b.secure = true → b.attached = false) ∧ kms.vmid = vmidOf level

def Pixel (kms : Kms) : Prop := (∀ b ∈ kms.banks, b.attached = true) ∧ kms.vmid = .cpPixel

def Translated (shown : Shown) : Prop :=
  shown.committed = true →
    (shown.crtc.stagesDirect → Direct shown.crtc.secureLevel shown.mid) ∧
      ((∀ mode ∈ shown.crtc.modes, mode = .sec ∨ mode = .nonSec) → Pixel shown.kms)

/-- A commit with direct secure planes finds everything attached and is able to enable the MISR
    where it needs one, or it stays in the use case that there is. -/
def Fits (limits : Limits) (catalog : Catalog) (shown : Shown) (c : Commit) : Prop :=
  Accepted limits shown c → c.state.stagesDirect →
    if shown.kms.smmu.state = .attached then
      c.state.secureLevel = .only → catalog.suiMisrSupported = true → Enables catalog (c.env false)
    else shown.kms.smmu.secureLevel = c.state.secureLevel

/-! ## Between commits -/

structure Settled (catalog : Catalog) (kms : Kms) : Prop where
  truthful : Truthful kms
  kept : Kept kms
  inv : MisrBalance.Inv catalog kms.smmu
  balanced : MisrBalance.Balanced catalog kms
  type : kms.smmu.transitionType = .none
  state : kms.smmu.state = .attached ∨
    (kms.smmu.state = .detached ∧ kms.smmu.secureLevel = .only ∧ kms.detachAllCb = 1) ∨
    (kms.smmu.state = .detachedSec ∧ kms.detachSecCb = 1 ∧ kms.vmid = vmidOf kms.smmu.secureLevel)

theorem settled_init (catalog : Catalog) (secure : List Bool) :
    Settled catalog (Kms.init secure) where
  truthful := truthful_init secure
  kept := kept_init secure
  inv := MisrBalance.inv_init catalog secure
  balanced := MisrBalance.balanced_init catalog secure
  type := rfl
  state := .inl rfl

section Half

variable {catalog : Catalog} {kms : Kms}

theorem complete_none (env : Env) (type : kms.smmu.transitionType = .none) :
    completeSecureTransition catalog env kms = kms := by
  rw [completeSecureTransition, type, if_neg (fun post => by cases post)]

theorem direct_iff_level (settled : Settled catalog kms) (detached : kms.smmu.state ≠ .attached)
    (level : SecLevel) : Direct level kms ↔ kms.smmu.secureLevel = level := by
  have banks : ∀ b ∈ kms.banks, b.secure = true → b.attached = false := by
    obtain at_state | ⟨at_state, -⟩ | ⟨at_state, -⟩ := settled.state
    · exact absurd at_state detached
    · exact fun b member _ => (settled.truthful.detached at_state).1 b member
    · intro b member secure
      rw [settled.truthful.detachedSec at_state b member, secure]
      rfl
  have vmid : kms.vmid = vmidOf kms.smmu.secureLevel := by
    obtain at_state | ⟨at_state, only, -⟩ | ⟨-, -, vmid⟩ := settled.state
    · exact absurd at_state detached
    · rw [(settled.truthful.detached at_state).2, only]
      rfl
    · exact vmid
  have injective : vmidOf kms.smmu.secureLevel = vmidOf level ↔ kms.smmu.secureLevel = level := by
    cases kms.smmu.secureLevel with
    | nonSec => cases level with
      | nonSec => simp
      | only => simp [vmidOf]
    | only => cases level with
      | nonSec => simp [vmidOf]
      | only => simp
  rw [Direct, vmid, injective]
  exact and_iff_right banks

theorem transition_ok {env : Env} (scm : env.scmRet = 0)
    (req : kms.smmu.state = .detachAllReq ∨ kms.smmu.state = .detachSecReq ∨
      kms.smmu.state = .attachAllReq ∨ kms.smmu.state = .attachSecReq) :
    (transition env kms).2 = 0 := by
  have call : ∀ vmid kms', (scmCall env vmid kms').2 = 0 := by
    intro vmid kms'
    rw [scmCall, if_pos scm]
  have detach_all : ∀ vmid, (detachAll env vmid kms).2 = 0 := by
    intro vmid
    rw [detachAll]
    split
    · rfl
    · exact call _ _
  have detach_sec : ∀ vmid, (detachSec env vmid kms).2 = 0 := by
    intro vmid
    rw [detachSec]
    split
    · rfl
    · exact call _ _
  have attach_all : ∀ vmid, (attachAll env vmid kms).2 = 0 := by
    intro vmid
    rw [attachAll]
    split
    · rfl
    · rw [if_neg (not_not.mpr (call _ _))]
  have attach_sec : ∀ vmid, (attachSec env vmid kms).2 = 0 := by
    intro vmid
    rw [attachSec]
    split
    · rfl
    · rw [if_neg (not_not.mpr (call _ _))]
  rw [transition]
  rcases req with state | state | state | state
  · simp only [state, detach_all, if_true]
  · simp only [state, detach_sec, if_true]
  · simp only [state, attach_all, if_true]
  · simp only [state, attach_sec, if_true]

/-! ## Frames with direct secure planes -/

structure Detaching (catalog : Catalog) (kms : Kms) : Prop where
  pre : kms.smmu.transitionType = .preCommit
  req : kms.smmu.state = .detachAllReq ∧ kms.smmu.secureLevel = .only ∨
    kms.smmu.state = .detachSecReq
  whole : Whole kms
  held : kms.sui = held catalog false

theorem detach_carried (env : Env) (detaching : Detaching catalog kms)
    (able : kms.smmu.suiMisr = .enableReq → Enables catalog env)
    (misr : kms.smmu.suiMisr = .enableReq ∨ kms.smmu.suiMisr = .none) :
    ∃ sui sui' error, (secureCtrl catalog env false kms).1 =
      (transition env { kms with sui := sui }).1.settle sui' error := by
  have due : Due kms false := .of_pre detaching.pre
  cases misr with
  | inl enable =>
    have ok : (suiMisrCtrl catalog env true kms.sui).2 = 0 := by
      rw [detaching.held]
      exact MisrBalance.enable_ok_iff.mpr (able enable)
    obtain ⟨error, moved⟩ := @secureCtrl_enabled env kms catalog false due enable ok
    exact ⟨_, _, error, moved⟩
  | inr plain =>
    obtain ⟨error, moved⟩ := @secureCtrl_plain env kms catalog false due plain
    exact ⟨kms.sui, _, error, moved⟩

theorem detach_state (env : Env) (scm : env.scmRet = 0) (detaching : Detaching catalog kms)
    (sui sui' : Sui) (error : Bool) :
    let out := (transition env { kms with sui := sui }).1.settle sui' error
    out.smmu.secureLevel = kms.smmu.secureLevel ∧
      ((out.smmu.state = .detached ∧ out.smmu.secureLevel = .only ∧ out.detachAllCb = 1) ∨
        (out.smmu.state = .detachedSec ∧ out.detachSecCb = 1 ∧
          out.vmid = vmidOf out.smmu.secureLevel)) := by
  intro out
  cases detaching.req with
  | inl all =>
    have moved := @transition_detachAll env { kms with sui := sui } all.1 detaching.whole.allCb
    rw [if_pos scm, if_pos scm] at moved
    simp only [out, moved, Kms.settle]
    exact ⟨trivial, .inl ⟨trivial, all.2, trivial⟩⟩
  | inr sec =>
    have moved := @transition_detachSec env { kms with sui := sui } sec detaching.whole.secCb
    rw [if_pos scm, if_pos scm] at moved
    simp only [out, moved, Kms.settle]
    exact ⟨trivial, .inr ⟨trivial, trivial, rfl⟩⟩

variable {f : Frame}

theorem detach_request (env : Env) (settled : Settled catalog kms)
    (direct : FbMode.secDirTrans ∈ f.modes) (attached : kms.smmu.state = .attached) :
    ∃ req, prepareSecureTransition catalog env f kms = (secureCtrl catalog env false req).1 ∧
      Detaching catalog req ∧ req.smmu.secureLevel = f.secureLevel ∧
      (req.smmu.suiMisr = .enableReq ∧ f.secureLevel = .only ∧ catalog.suiMisrSupported = true ∨
        req.smmu.suiMisr = .none ∧ ¬(f.secureLevel = .only ∧ catalog.suiMisrSupported = true)) := by
  have mode : translationMode .nonSec f.modes = .secDirTrans :=
    translationMode_direct direct .nonSec
  obtain ⟨banks, vmid, allCb, secCb⟩ := settled.truthful.attached attached
  have no_misr : kms.smmu.suiMisr = .none := settled.inv.misr settled.type
  have idle : kms.sui = held catalog false := by
    have balanced := settled.balanced
    rwa [MisrBalance.Balanced, MisrBalance.session_attached attached] at balanced
  cases level : f.secureLevel with
  | only =>
    refine ⟨_, prepare_display catalog env mode attached level,
      ⟨rfl, ?_, ⟨banks, vmid, allCb, secCb⟩, idle⟩, rfl, ?_⟩
    · cases allowed : catalog.suiNsAllowed with
      | true => exact .inr rfl
      | false => exact .inl ⟨rfl, rfl⟩
    · cases supported : catalog.suiMisrSupported with
      | true => exact .inl ⟨rfl, rfl, rfl⟩
      | false => exact .inr ⟨no_misr, fun both => by cases both.2⟩
  | nonSec =>
    exact ⟨_, prepare_camera catalog env mode attached level,
      ⟨rfl, .inr rfl, ⟨banks, vmid, allCb, secCb⟩, idle⟩, rfl,
      .inr ⟨no_misr, fun both => by cases both.1⟩⟩

theorem prepare_able (env : Env) (scm : env.scmRet = 0) (settled : Settled catalog kms)
    (direct : FbMode.secDirTrans ∈ f.modes) (attached : kms.smmu.state = .attached)
    (able : f.secureLevel = .only → catalog.suiMisrSupported = true → Enables catalog env) :
    Settled catalog (prepareSecureTransition catalog env f kms) ∧
      Direct f.secureLevel (prepareSecureTransition catalog env f kms) := by
  have mode : translationMode .nonSec f.modes = .secDirTrans :=
    translationMode_direct direct .nonSec
  -- nothing is attached by such a frame, so that there is nothing to undo
  have undoes : Undoes kms (.prepare catalog env f) := by
    intro _ _ _ at_mode
    rw [mode] at at_mode
    cases at_mode with
    | inl sec => cases sec
    | inr nonSec => cases nonSec
  obtain ⟨truth, keeps⟩ := prepare_step settled.truthful settled.kept catalog env f
  obtain ⟨takes, inv⟩ := MisrBalance.prepare_detaches settled.inv settled.balanced env mode attached
  have truthful := truth.mpr undoes
  have kept := keeps truthful
  have balanced := takes.mpr fun only supported => (able only supported).halts
  obtain ⟨req, prepares, detaching, level, misr⟩ := detach_request env settled direct attached
  have carried : ∃ sui sui' error, (secureCtrl catalog env false req).1 =
      (transition env { req with sui := sui }).1.settle sui' error := by
    refine detach_carried env detaching (fun enable => ?_) (misr.imp (·.1) (·.1))
    cases misr with
    | inl display => exact able display.2.1 display.2.2
    | inr plain =>
      rw [plain.1] at enable
      cases enable
  obtain ⟨sui, sui', error, moved⟩ := carried
  have ends := detach_state env scm detaching sui sui' error
  have type : ((transition env { req with sui := sui }).1.settle sui' error).smmu.transitionType =
      .none := rfl
  rw [← moved, ← prepares] at ends type
  have after : Settled catalog (prepareSecureTransition catalog env f kms) :=
    ⟨truthful, kept, inv, balanced, type, .inr ends.2⟩
  refine ⟨after, (direct_iff_level after ?_ _).mpr (ends.1.trans level)⟩
  exact prepare_not_attached env direct

theorem prepare_unable (env : Env) (settled : Settled catalog kms)
    (direct : FbMode.secDirTrans ∈ f.modes) (attached : kms.smmu.state = .attached)
    (unable : ¬(f.secureLevel = .only → catalog.suiMisrSupported = true → Enables catalog env)) :
    ¬Direct f.secureLevel (prepareSecureTransition catalog env f kms) := by
  obtain ⟨only, rest⟩ := Classical.not_imp.mp unable
  obtain ⟨supported, not_enables⟩ := Classical.not_imp.mp rest
  obtain ⟨req, prepares, detaching, -, misr⟩ := detach_request env settled direct attached
  have enable : req.smmu.suiMisr = .enableReq :=
    (misr.resolve_right fun plain => plain.2 ⟨only, supported⟩).1
  have refused : (suiMisrCtrl catalog env true req.sui).2 ≠ 0 := by
    rw [detaching.held]
    exact fun ok => not_enables (MisrBalance.enable_ok_iff.mp ok)
  have due : Due req false := .of_pre detaching.pre
  rw [prepares, secureCtrl_refused catalog due enable refused, only]
  intro translated
  have vmid : req.vmid = .cpSecDisplay := translated.2
  rw [detaching.whole.vmid] at vmid
  cases vmid

/-! ## Frames without -/

theorem attaches_of_modes (modes : ∀ mode ∈ f.modes, mode = .sec ∨ mode = .nonSec) :
    f.attaches := by
  have from_first : ∀ (modes : List FbMode) (first : FbMode), (first = .sec ∨ first = .nonSec) →
      (∀ mode ∈ modes, mode = .sec ∨ mode = .nonSec) →
        translationMode first modes = .sec ∨ translationMode first modes = .nonSec := by
    intro modes
    induction modes with
    | nil => exact fun first is_first _ => is_first
    | cons mode modes ih =>
      intro first _ all
      obtain ⟨here, rest⟩ := List.forall_mem_cons.mp all
      cases here with
      | inl sec =>
        rw [sec]
        exact ih .sec (.inl rfl) rest
      | inr nonSec =>
        rw [nonSec]
        exact ih .nonSec (.inr rfl) rest
  exact from_first f.modes .nonSec (.inr rfl) modes

theorem settled_countOf (settled : Settled catalog kms) {req : SmmuState}
    (asked : attachReq catalog kms.smmu = some req) : kms.countOf req = 1 := by
  obtain at_state | ⟨at_state, only, used⟩ | ⟨at_state, used, -⟩ := settled.state
  · simp [attachReq, SmmuStateData.display, SmmuStateData.secOut, at_state] at asked
  · have all : catalog.suiNsAllowed = false := settled.inv.all (.inl at_state)
    have is_all : req = .attachAllReq := by
      simpa [attachReq, SmmuStateData.display, at_state, all, eq_comm] using asked
    rw [is_all]
    exact used
  · have is_sec : req = .attachSecReq := by
      cases level : kms.smmu.secureLevel with
      | only =>
        have allowed : catalog.suiNsAllowed = true := settled.inv.sec (.inl at_state) level
        simpa [attachReq, SmmuStateData.display, at_state, level, allowed, eq_comm] using asked
      | nonSec =>
        simpa [attachReq, SmmuStateData.display, SmmuStateData.secOut, at_state, level, eq_comm]
          using asked
    rw [is_sec]
    exact used

theorem attach_carried (catalog : Catalog) (env : Env) (scm : env.scmRet = 0) {postCommit : Bool}
    (due : Due kms postCommit) (no_misr : kms.smmu.suiMisr ≠ .enableReq)
    (req : kms.smmu.state = .attachAllReq ∨ kms.smmu.state = .attachSecReq) :
    (secureCtrl catalog env postCommit kms).1.smmu.state = .attached ∧
      (secureCtrl catalog env postCommit kms).1.smmu.transitionType = .none := by
  obtain ⟨enable, -⟩ | ⟨sui, sui', error, moved⟩ := secureCtrl_due catalog env due
  · exact absurd enable no_misr
  · have ok := @transition_ok { kms with sui := sui } env scm (.inr (.inr req))
    have ends := (transition_ends env { kms with sui := sui }).1
    rw [if_pos ok] at ends
    rw [moved]
    refine ⟨?_, rfl⟩
    rw [Kms.settle, ends]
    cases req with
    | inl all => simp [SmmuStateData.asked, all]
    | inr sec => simp [SmmuStateData.asked, sec]

theorem complete_attached (env env' : Env) (scm : env.scmRet = 0) (scm' : env'.scmRet = 0)
    (settled : Settled catalog kms) (mode : f.attaches) :
    (completeSecureTransition catalog env' (prepareSecureTransition catalog env f kms)).smmu.state =
        .attached ∧
      (completeSecureTransition catalog env'
        (prepareSecureTransition catalog env f kms)).smmu.transitionType = .none ∧
      ((prepareSecureTransition catalog env f kms).smmu.transitionType = .postCommit →
        (prepareSecureTransition catalog env f kms).countOf
          (prepareSecureTransition catalog env f kms).smmu.state = 1) := by
  cases asked : attachReq catalog kms.smmu with
  | none =>
    obtain ⟨no_display, no_secOut⟩ := attachReq_none catalog asked
    have attached : kms.smmu.state = .attached := by
      obtain at_state | ⟨at_state, -⟩ | ⟨at_state, -⟩ := settled.state
      · exact at_state
      · simp [SmmuStateData.display, at_state] at no_display
      · simp [SmmuStateData.secOut, at_state] at no_secOut
    rw [prepare_idle catalog env mode no_display no_secOut, complete_none env' settled.type]
    refine ⟨attached, settled.type, fun post => ?_⟩
    rw [settled.type] at post
    cases post
  | some req =>
    obtain ⟨is_attach, -⟩ := attachReq_some catalog asked
    obtain ⟨misr, no_misr, prepares⟩ := prepare_attach catalog env mode settled.kept.noMisr asked
    rw [prepares, Frame.attachType]
    cases f.videoMode with
    | true =>
      have later : (kms.request req kms.smmu.secureLevel .postCommit misr).smmu.transitionType =
          .postCommit := rfl
      rw [if_pos rfl, secureCtrl_later catalog later, completeSecureTransition, if_pos later]
      have due : Due (kms.request req kms.smmu.secureLevel .postCommit misr) true := .of_post rfl
      obtain ⟨state, type⟩ := attach_carried catalog env' scm' due no_misr is_attach
      exact ⟨state, type, fun _ =>
        (countOf_request is_attach _ _ misr).trans (settled_countOf settled asked)⟩
    | false =>
      rw [if_neg Bool.false_ne_true]
      have due : Due (kms.request req kms.smmu.secureLevel .preCommit misr) false := .of_pre rfl
      obtain ⟨state, type⟩ := attach_carried catalog env scm due no_misr is_attach
      rw [complete_none env' type]
      refine ⟨state, type, fun post => ?_⟩
      rw [type] at post
      cases post

theorem complete_pixel (env env' : Env) (scm : env.scmRet = 0) (scm' : env'.scmRet = 0)
    (settled : Settled catalog kms) (mode : f.attaches) :
    Settled catalog (completeSecureTransition catalog env'
        (prepareSecureTransition catalog env f kms)) ∧
      Pixel (completeSecureTransition catalog env'
        (prepareSecureTransition catalog env f kms)) := by
  obtain ⟨attached, type, used⟩ := complete_attached env env' scm scm' settled mode
  have undoes : Undoes kms (.prepare catalog env f) :=
    fun req asked _ _ => settled_countOf settled asked
  obtain ⟨truth, keeps⟩ := prepare_step settled.truthful settled.kept catalog env f
  have mid := truth.mpr undoes
  obtain ⟨truth', keeps'⟩ := complete_step mid (keeps mid) catalog env'
  have truthful := truth'.mpr used
  obtain ⟨balanced, inv⟩ := MisrBalance.prepare_attaches settled.inv settled.balanced env mode
  obtain ⟨balanced', inv'⟩ := MisrBalance.step_balanced inv balanced (.complete env')
  have after : Settled catalog (completeSecureTransition catalog env'
      (prepareSecureTransition catalog env f kms)) :=
    ⟨truthful, keeps' truthful, inv', balanced'.mpr trivial, type, .inl attached⟩
  exact ⟨after, (truthful.attached attached).1, (truthful.attached attached).2.1⟩

end Half

/-! ## Runs -/

section Step

variable {limits : Limits} {catalog : Catalog} {shown : Shown}

theorem modes_of_accepted {c : Commit} (accepted : Accepted limits shown c)
    (plain : ¬c.state.stagesDirect) : ∀ mode ∈ c.state.modes, mode = .sec ∨ mode = .nonSec := by
  intro mode member
  cases mode with
  | nonSec => exact .inr rfl
  | sec => exact .inl rfl
  | nonSecDirTrans => exact absurd member (checkSecureState_clean accepted.2.1)
  | secDirTrans => exact absurd member plain

theorem step_translated (settled : Settled catalog shown.kms) (translated : Translated shown)
    (c : Commit) :
    (Translated (step limits catalog shown c) ↔ Fits limits catalog shown c) ∧
      (Translated (step limits catalog shown c) →
        Settled catalog (step limits catalog shown c).kms) := by
  by_cases accepted : Accepted limits shown c
  · rw [step, if_pos accepted, Fits, imp_iff_right accepted]
    by_cases direct : c.state.stagesDirect
    · rw [imp_iff_right direct]
      -- nothing but its direct planes is asked of such a commit
      have only_direct : Translated ⟨c.state, true, prepared catalog shown.kms c,
          completed catalog shown.kms c⟩ ↔
            Direct c.state.secureLevel (prepared catalog shown.kms c) := by
        refine ⟨fun all => (all rfl).1 direct, fun shows _ => ⟨fun _ => shows, fun modes => ?_⟩⟩
        cases modes _ direct with
        | inl sec => cases sec
        | inr nonSec => cases nonSec
      rw [only_direct, completed]
      by_cases attached : shown.kms.smmu.state = .attached
      · rw [if_pos attached]
        by_cases able : c.state.secureLevel = .only → catalog.suiMisrSupported = true →
            Enables catalog (c.env false)
        · obtain ⟨after, shows⟩ :=
            prepare_able (f := c.frame) (c.env false) rfl settled direct attached
            able
          refine ⟨iff_of_true shows able, fun _ => ?_⟩
          rw [prepared, complete_none (c.env true) after.type]
          exact after
        · have hides := prepare_unable (f := c.frame) (c.env false) settled direct attached able
          exact ⟨iff_of_false hides able, fun shows => absurd shows hides⟩
      · rw [if_neg attached]
        have in_frame : FbMode.secDirTrans ∈ c.frame.modes := direct
        have no_attach : ¬c.frame.attaches := by
          rw [Frame.attaches, translationMode_direct in_frame]
          exact fun other => by cases other with | inl h => cases h | inr h => cases h
        rw [prepared, prepare_direct catalog (c.env false) no_attach fun _ => attached,
          complete_none (c.env true) settled.type]
        exact ⟨direct_iff_level settled attached c.state.secureLevel, fun _ => settled⟩
    · have modes := modes_of_accepted accepted direct
      obtain ⟨after, pixel⟩ := complete_pixel (c.env false) (c.env true) rfl rfl settled
        (attaches_of_modes (f := c.frame) modes)
      refine ⟨iff_of_true (fun _ => ⟨fun direct' => absurd direct' direct, fun _ => pixel⟩)
        fun direct' => absurd direct' direct, fun _ => after⟩
  · rw [step, if_neg accepted]
    exact ⟨iff_of_true translated fun accepted' => absurd accepted' accepted, fun _ => settled⟩

end Step

def Shown.init (crtc : CrtcState) (secure : List Bool) : Shown :=
  ⟨crtc, false, Kms.init secure, Kms.init secure⟩

/-- Through all accepted commits, every one is shown under the translation that it needs exactly
    when each with direct secure planes finds everything attached and is able to enable its MISR, or
    stays in the use case that there is. -/
theorem translated_iff_fits (limits : Limits) (catalog : Catalog) (crtc : CrtcState)
    (secure : List Bool) (commits : List Commit) :
    Throughout (step limits catalog) Translated (Shown.init crtc secure) commits ↔
      StepsMeet (step limits catalog) (Fits limits catalog) (Shown.init crtc secure) commits := by
  have exact_step : ∀ shown c, True → Settled catalog shown.kms → Translated shown →
      (Translated (step limits catalog shown c) ↔ Fits limits catalog shown c) :=
    fun shown c _ settled translated => (step_translated settled translated c).1
  have keeps : ∀ shown c, True → Settled catalog shown.kms → Translated shown →
      Translated (step limits catalog shown c) →
        Settled catalog (step limits catalog shown c).kms :=
    fun shown c _ settled translated => (step_translated settled translated c).2
  have start : Translated (Shown.init crtc secure) := nofun
  exact throughout_iff_stepsMeet_good (fun shown => Settled catalog shown.kms) keeps exact_step
    (settled_init catalog secure) start (stepsMeet_of_forall (fun _ _ _ => trivial) _)

/-! ### From the secure camera to the secure display -/

/-- A secure preview, and then the secure display in its place: both are accepted, every call
    succeeds, and the secure display is shown under the VMID of the camera. -/
theorem not_translated_cameraDisplay :
    ¬∀ (limits : Limits) (catalog : Catalog) (crtc : CrtcState) (secure : List Bool)
      (commits : List Commit), (∀ c ∈ commits, ∀ post, c.powerRet post = 0 ∧ ∀ i,
        c.xinRet post i = 0) →
        Throughout (step limits catalog) Translated (Shown.init crtc secure) commits := by
  intro always
  have throughout := always ⟨0, true⟩ ⟨true, false, fun _ => false⟩
    ⟨false, [], .nonSec, [], [], [], false⟩ [false, true]
    [⟨⟨true, [.secDirTrans], .nonSec, [⟨true, 0, 1⟩], [], [false], false⟩, false, fun _ => 0,
        fun _ _ => 0⟩,
      ⟨⟨true, [.secDirTrans], .only, [⟨true, 0, 1⟩], [], [false], false⟩, true, fun _ => 0,
        fun _ _ => 0⟩]
    (by simp)
  have last := throughout_iff_prefix.mp throughout _ [] (List.append_nil _).symm
  have shows := ((last rfl).1 (.head _)).2
  exact absurd shows (by decide)

end DisplayDrivers.Secure.Translation
