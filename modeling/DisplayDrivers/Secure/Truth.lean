import DisplayDrivers.Secure.Steps
import DisplayDrivers.Lib.Run

/-! # The recorded state of the SMMU tells the truth

The enum claims something of the banks, of the VMID and of the use counts.
-/

namespace DisplayDrivers.Secure

open DisplayDrivers.Lib.Run

/-- The transitions of a frame before its commit, and those that are left for after it.  Each of
    them has its own catalog, so that nothing depends on its being the same throughout. -/
inductive Input
  | prepare (catalog : Catalog) (env : Env) (f : Frame)
  | complete (catalog : Catalog) (env : Env)

def Kms.step (kms : Kms) : Input → Kms
  | .prepare catalog env f => prepareSecureTransition catalog env f kms
  | .complete catalog env => completeSecureTransition catalog env kms

structure Truthful (kms : Kms) : Prop where
  attached : kms.smmu.state = .attached →
    (∀ b ∈ kms.banks, b.attached = true) ∧ kms.vmid = .cpPixel ∧
      kms.detachAllCb = 0 ∧ kms.detachSecCb = 0
  detached : kms.smmu.state = .detached →
    (∀ b ∈ kms.banks, b.attached = false) ∧ kms.vmid = .cpSecDisplay
  detachedSec : kms.smmu.state = .detachedSec → ∀ b ∈ kms.banks, b.attached = !b.secure
  allCb : kms.detachAllCb = 0 ∨ kms.detachAllCb = 1
  secCb : kms.detachSecCb = 0 ∨ kms.detachSecCb = 1

def Kms.countOf (kms : Kms) : SmmuState → Int
  | .attachAllReq => kms.detachAllCb
  | .attachSecReq => kms.detachSecCb
  | _ => 1

def attachReq (catalog : Catalog) (smmu : SmmuStateData) : Option SmmuState :=
  if smmu.display then some (if catalog.suiNsAllowed then .attachSecReq else .attachAllReq)
  else if smmu.secOut then some .attachSecReq
  else none

def Undoes (kms : Kms) : Input → Prop
  | .prepare catalog _ f =>
    ∀ req, attachReq catalog kms.smmu = some req → f.videoMode = false →
      (translationMode .nonSec f.modes = .sec ∨ translationMode .nonSec f.modes = .nonSec) →
        kms.countOf req = 1
  | .complete _ _ => kms.smmu.transitionType = .postCommit → kms.countOf kms.smmu.state = 1

/-! ## Carrying out a request -/

theorem secureCtrl_due (catalog : Catalog) (env : Env) {kms : Kms} {postCommit : Bool}
    (due : Due kms postCommit) :
    (kms.smmu.suiMisr = .enableReq ∧
      ∃ sui, (secureCtrl catalog env postCommit kms).1 = kms.settle sui true) ∨
    ∃ sui sui' error, (secureCtrl catalog env postCommit kms).1 =
      (transition env { kms with sui := sui }).1.settle sui' error := by
  cases misr : kms.smmu.suiMisr with
  | enableReq =>
    by_cases enabled : (suiMisrCtrl catalog env true kms.sui).2 = 0
    · obtain ⟨error, moved⟩ := @secureCtrl_enabled env kms catalog postCommit due misr enabled
      exact .inr ⟨_, _, error, moved⟩
    · exact .inl ⟨rfl, _, secureCtrl_refused catalog due misr enabled⟩
  | disableReq =>
    obtain ⟨error, moved⟩ := @secureCtrl_disable env kms catalog postCommit due misr
    exact .inr ⟨kms.sui, _, error, moved⟩
  | none =>
    obtain ⟨error, moved⟩ := @secureCtrl_plain env kms catalog postCommit due misr
    exact .inr ⟨kms.sui, _, error, moved⟩

/-! ## One request -/

/-- What holds besides in every state of a run. -/
structure Kept (kms : Kms) : Prop where
  notPre : kms.smmu.transitionType ≠ .preCommit
  noMisr : kms.smmu.suiMisr ≠ .enableReq
  pending : kms.smmu.transitionType = .postCommit →
    kms.smmu.state = .attachAllReq ∨ kms.smmu.state = .attachSecReq
  one : kms.detachAllCb = 0 ∨ kms.detachSecCb = 0
  nonSec : kms.detachAllCb = 0 →
    kms.smmu.state = .attachAllReq ∧ kms.smmu.transitionType = .none ∨
      ∀ b ∈ kms.banks, b.secure = false → b.attached = true

def SmmuState.Requested (state : SmmuState) : Prop :=
  (state = .detachAllReq ∨ state = .detachSecReq) ∨ (state = .attachAllReq ∨ state = .attachSecReq)

theorem truthful_of_req {kms : Kms} (requested : kms.smmu.state.Requested)
    (allCb : kms.detachAllCb = 0 ∨ kms.detachAllCb = 1)
    (secCb : kms.detachSecCb = 0 ∨ kms.detachSecCb = 1) : Truthful kms where
  attached at_state := by simp [at_state, SmmuState.Requested] at requested
  detached at_state := by simp [at_state, SmmuState.Requested] at requested
  detachedSec at_state := by simp [at_state, SmmuState.Requested] at requested
  allCb := allCb
  secCb := secCb

section Request

variable {kms : Kms}

structure Whole (kms : Kms) : Prop where
  banks : ∀ b ∈ kms.banks, b.attached = true
  vmid : kms.vmid = .cpPixel
  allCb : kms.detachAllCb = 0
  secCb : kms.detachSecCb = 0

theorem truthful_settle {sui : Sui} {error : Bool} (truthful : Truthful kms) :
    Truthful (kms.settle sui error) :=
  ⟨truthful.attached, truthful.detached, truthful.detachedSec, truthful.allCb, truthful.secCb⟩

theorem secureCtrl_detach (catalog : Catalog) (env : Env) (whole : Whole kms)
    (pre : kms.smmu.transitionType = .preCommit)
    (req : kms.smmu.state = .detachAllReq ∨ kms.smmu.state = .detachSecReq) :
    Truthful (secureCtrl catalog env false kms).1 ∧ Kept (secureCtrl catalog env false kms).1 := by
  have attached : ∀ b ∈ kms.banks, b.secure = false → b.attached = true :=
    fun b member _ => whole.banks b member
  obtain ⟨-, sui, given_up⟩ | ⟨sui, sui', error, moved⟩ :=
    @secureCtrl_due catalog env kms false (.of_pre pre)
  -- the MISR could not be enabled: nothing has been done
  · rw [given_up]
    have truth : Truthful kms := truthful_of_req (.inl req) (.inl whole.allCb) (.inl whole.secCb)
    exact ⟨truthful_settle truth, nofun, nofun, nofun, .inl whole.allCb, fun _ => .inr attached⟩
  · rw [moved]
    cases req with
    | inl all =>
      rw [@transition_detachAll env { kms with sui := sui } all whole.allCb]
      refine ⟨truthful_settle ?_, ?_⟩
      · by_cases ok : env.scmRet = 0
        · simp only [ok, if_true]
          exact ⟨nofun, fun _ => ⟨mmuDetach_all, rfl⟩, nofun, .inr rfl, .inl whole.secCb⟩
        · simp only [ok, if_false]
          exact truthful_of_req (.inl (.inl rfl)) (.inr rfl) (.inl whole.secCb)
      · exact ⟨nofun, nofun, nofun, .inr whole.secCb, fun zero => absurd zero Int.one_ne_zero⟩
    | inr sec =>
      rw [@transition_detachSec env { kms with sui := sui } sec whole.secCb]
      refine ⟨truthful_settle ?_, ?_⟩
      · by_cases ok : env.scmRet = 0
        · simp only [ok, if_true]
          exact ⟨nofun, nofun, fun _ => mmuDetach_sec whole.banks, .inl whole.allCb, .inr rfl⟩
        · simp only [ok, if_false]
          exact truthful_of_req (.inl (.inr rfl)) (.inl whole.allCb) (.inr rfl)
      · exact ⟨nofun, nofun, nofun, .inl whole.allCb, fun _ => .inr (mmuDetach_nonSec whole.banks)⟩

structure Attaching (kms : Kms) : Prop where
  noMisr : kms.smmu.suiMisr ≠ .enableReq
  req : kms.smmu.state = .attachAllReq ∨ kms.smmu.state = .attachSecReq
  allCb : kms.detachAllCb = 0 ∨ kms.detachAllCb = 1
  secCb : kms.detachSecCb = 0 ∨ kms.detachSecCb = 1
  one : kms.detachAllCb = 0 ∨ kms.detachSecCb = 0
  nonSec : kms.detachAllCb = 0 → ∀ b ∈ kms.banks, b.secure = false → b.attached = true

variable {postCommit : Bool}

theorem secureCtrl_attaching (catalog : Catalog) (env : Env)
    (attaching : Attaching kms) (due : Due kms postCommit) :
    ∃ sui sui' error, (secureCtrl catalog env postCommit kms).1 =
      (transition env { kms with sui := sui }).1.settle sui' error := by
  obtain ⟨misr, -⟩ | moved := secureCtrl_due catalog env due
  · exact absurd misr attaching.noMisr
  · exact moved

theorem secureCtrl_attach (catalog : Catalog) (env : Env)
    (attaching : Attaching kms) (due : Due kms postCommit)
    (used : kms.countOf kms.smmu.state = 1) :
    Truthful (secureCtrl catalog env postCommit kms).1 ∧
      Kept (secureCtrl catalog env postCommit kms).1 := by
  obtain ⟨sui, sui', error, moved⟩ := secureCtrl_attaching catalog env attaching due
  rw [moved]
  cases attaching.req with
  | inl all =>
    have used : kms.detachAllCb = 1 := by rwa [all] at used
    have unused : kms.detachSecCb = 0 := attaching.one.resolve_left (by omega)
    rw [@transition_attachAll env { kms with sui := sui } all used]
    by_cases ok : env.scmRet = 0
    · rw [if_pos ok]
      exact ⟨truthful_settle ⟨fun _ => ⟨mmuAttach_all, rfl, rfl, unused⟩, nofun, nofun, .inl rfl,
        .inl unused⟩, nofun, nofun, nofun, .inl rfl, fun _ => .inr fun b member _ =>
        mmuAttach_all b member⟩
    · rw [if_neg ok]
      exact ⟨truthful_settle (truthful_of_req (.inr (.inl all)) (.inl rfl) (.inl unused)), nofun,
        nofun,
        nofun, .inl rfl, fun _ => .inl ⟨all, rfl⟩⟩
  | inr sec =>
    have used : kms.detachSecCb = 1 := by rwa [sec] at used
    have unused : kms.detachAllCb = 0 := attaching.one.resolve_right (by omega)
    have nonSec := attaching.nonSec unused
    rw [@transition_attachSec env { kms with sui := sui } sec used]
    by_cases ok : env.scmRet = 0
    · rw [if_pos ok]
      have whole : ∀ b ∈ (kms.mmuAttach true).banks, b.attached = true := mmuAttach_sec nonSec
      exact ⟨truthful_settle ⟨fun _ => ⟨whole, rfl, unused, rfl⟩, nofun, nofun, .inl unused,
        .inl rfl⟩, nofun, nofun, nofun, .inl unused, fun _ => .inr fun b member _ => whole b member⟩
    · rw [if_neg ok]
      exact ⟨truthful_settle (truthful_of_req (.inr (.inr sec)) (.inl unused) (.inl rfl)), nofun,
        nofun,
        nofun, .inl unused, fun _ => .inr nonSec⟩

theorem not_truthful_attach (catalog : Catalog) (env : Env)
    (attaching : Attaching kms) (due : Due kms postCommit)
    (unused : kms.countOf kms.smmu.state ≠ 1) :
    ¬Truthful (secureCtrl catalog env postCommit kms).1 := by
  obtain ⟨sui, sui', error, moved⟩ := secureCtrl_attaching catalog env attaching due
  rw [moved]
  intro truthful
  cases attaching.req with
  | inl all =>
    have zero : kms.detachAllCb = 0 := attaching.allCb.resolve_right (by rwa [all] at unused)
    have below : ((transition env { kms with sui := sui }).1.settle sui' error).detachAllCb = -1 :=
      @transition_attachAll_unused env { kms with sui := sui } all zero
    have count := truthful.allCb
    omega
  | inr sec =>
    have zero : kms.detachSecCb = 0 := attaching.secCb.resolve_right (by rwa [sec] at unused)
    have below : ((transition env { kms with sui := sui }).1.settle sui' error).detachSecCb = -1 :=
      @transition_attachSec_unused env { kms with sui := sui } sec zero
    have count := truthful.secCb
    omega

end Request

/-! ## Frames -/

section Frame

variable {kms : Kms} {f : Frame} (catalog : Catalog) (env : Env)

theorem prepare_detach (mode : translationMode .nonSec f.modes = .secDirTrans)
    (attached : kms.smmu.state = .attached) :
    ∃ req level misr, (req = .detachAllReq ∨ req = .detachSecReq) ∧
      prepareSecureTransition catalog env f kms =
        (secureCtrl catalog env false (kms.request req level .preCommit misr)).1 := by
  cases level : f.secureLevel with
  | only =>
    refine ⟨_, _, _, ?_, prepare_display catalog env mode attached level⟩
    cases catalog.suiNsAllowed with
    | true => exact .inr rfl
    | false => exact .inl rfl
  | nonSec => exact ⟨_, _, _, .inr rfl, prepare_camera catalog env mode attached level⟩

variable {req : SmmuState}

theorem countOf_request (is_attach : req = .attachAllReq ∨ req = .attachSecReq)
    (level : SecLevel) (type : TransitionType) (misr : SuiMisr) :
    (kms.request req level type misr).countOf req = kms.countOf req := by
  cases is_attach with
  | inl all => rw [all]; rfl
  | inr sec => rw [sec]; rfl

theorem prepare_attach (mode : f.attaches) (noMisr : kms.smmu.suiMisr ≠ .enableReq)
    (asked : attachReq catalog kms.smmu = some req) :
    ∃ misr, misr ≠ .enableReq ∧
      prepareSecureTransition catalog env f kms =
        (secureCtrl catalog env false
          (kms.request req kms.smmu.secureLevel f.attachType misr)).1 := by
  rw [attachReq] at asked
  cases display : kms.smmu.display with
  | true =>
    rw [if_pos display] at asked
    cases asked
    refine ⟨_, ?_, prepare_leaveDisplay catalog env mode display⟩
    cases catalog.suiMisrSupported with
    | true => simp
    | false => exact noMisr
  | false =>
    cases secOut : kms.smmu.secOut with
    | true =>
      rw [if_neg (ne_true_of_eq_false display), if_pos secOut] at asked
      cases asked
      exact ⟨_, noMisr, prepare_leaveCamera catalog env mode display secOut⟩
    | false =>
      rw [if_neg (ne_true_of_eq_false display), if_neg (ne_true_of_eq_false secOut)] at asked
      cases asked

variable {smmu : SmmuStateData}

theorem attachReq_none (none_asked : attachReq catalog smmu = none) :
    smmu.display = false ∧ smmu.secOut = false := by
  rw [attachReq] at none_asked
  cases display : smmu.display with
  | true =>
    rw [if_pos display] at none_asked
    cases none_asked
  | false =>
    cases secOut : smmu.secOut with
    | true =>
      rw [if_neg (ne_true_of_eq_false display), if_pos secOut] at none_asked
      cases none_asked
    | false => exact ⟨rfl, rfl⟩

theorem attachReq_some (asked : attachReq catalog smmu = some req) :
    (req = .attachAllReq ∨ req = .attachSecReq) ∧ smmu.state ≠ .attachAllReq := by
  constructor
  · rw [attachReq] at asked
    cases display : smmu.display with
    | true =>
      rw [if_pos display] at asked
      cases asked
      cases catalog.suiNsAllowed with
      | true => exact .inr rfl
      | false => exact .inl rfl
    | false =>
      rw [if_neg (ne_true_of_eq_false display)] at asked
      cases secOut : smmu.secOut with
      | true =>
        rw [if_pos secOut] at asked
        cases asked
        exact .inr rfl
      | false =>
        rw [if_neg (ne_true_of_eq_false secOut)] at asked
        cases asked
  · intro waiting
    simp [attachReq, SmmuStateData.display, SmmuStateData.secOut, waiting] at asked

end Frame

/-! ## Runs -/

section Step

variable {kms : Kms}

theorem prepare_step_attach (truthful : Truthful kms) (kept : Kept kms)
    (catalog : Catalog) (env : Env)
    {f : Frame} (mode : f.attaches) {req : SmmuState}
    (asked : attachReq catalog kms.smmu = some req) :
    (Truthful (kms.step (.prepare catalog env f)) ↔ Undoes kms (.prepare catalog env f)) ∧
      (Truthful (kms.step (.prepare catalog env f)) →
        Kept (kms.step (.prepare catalog env f))) := by
  obtain ⟨is_attach, before⟩ := attachReq_some catalog asked
  have nonSec : kms.detachAllCb = 0 → ∀ b ∈ kms.banks, b.secure = false → b.attached = true :=
    fun zero => (kept.nonSec zero).resolve_left fun both => before both.1
  have demand : Undoes kms (.prepare catalog env f) ↔
    (f.videoMode = false → kms.countOf req = 1) := by
    constructor
    · intro all at_once
      exact all req asked at_once mode
    · intro used other at_other at_once _
      rw [asked] at at_other
      cases at_other
      exact used at_once
  obtain ⟨misr, no_misr, prepared⟩ := prepare_attach catalog env mode kept.noMisr asked
  rw [Kms.step, prepared, demand, Frame.attachType]
  cases video : f.videoMode with
  | true =>
    rw [if_pos rfl, secureCtrl_later catalog rfl]
    have truth : Truthful (kms.request req kms.smmu.secureLevel .postCommit misr) :=
      truthful_of_req (.inr is_attach) truthful.allCb truthful.secCb
    exact ⟨iff_of_true truth nofun, fun _ =>
      ⟨nofun, no_misr, fun _ => is_attach, kept.one, fun zero => .inr (nonSec zero)⟩⟩
  | false =>
    rw [if_neg Bool.false_ne_true]
    have attaching : Attaching (kms.request req kms.smmu.secureLevel .preCommit misr) :=
      ⟨no_misr, is_attach, truthful.allCb, truthful.secCb, kept.one, nonSec⟩
    have due : Due (kms.request req kms.smmu.secureLevel .preCommit misr) false := .of_pre rfl
    have count : (kms.request req kms.smmu.secureLevel .preCommit misr).countOf req =
      kms.countOf req :=
      countOf_request is_attach _ _ misr
    by_cases used : kms.countOf req = 1
    · obtain ⟨truth, keeps⟩ := secureCtrl_attach catalog env attaching due (count.trans used)
      exact ⟨iff_of_true truth fun _ => used, fun _ => keeps⟩
    · have lies := not_truthful_attach catalog env attaching due fun one => used (count ▸ one)
      exact ⟨iff_of_false lies fun all => used (all rfl), fun truth => absurd truth lies⟩

theorem prepare_step (truthful : Truthful kms) (kept : Kept kms) (catalog : Catalog) (env : Env)
    (f : Frame) :
    (Truthful (kms.step (.prepare catalog env f)) ↔ Undoes kms (.prepare catalog env f)) ∧
      (Truthful (kms.step (.prepare catalog env f)) →
        Kept (kms.step (.prepare catalog env f))) := by
  by_cases mode : f.attaches
  · cases asked : attachReq catalog kms.smmu with
    | none =>
      obtain ⟨no_display, no_secOut⟩ := attachReq_none catalog asked
      rw [Kms.step, prepare_idle catalog env mode no_display no_secOut]
      refine ⟨iff_of_true truthful fun req at_req => ?_, fun _ => kept⟩
      rw [asked] at at_req
      cases at_req
    | some req => exact prepare_step_attach truthful kept catalog env mode asked
  · have free : Undoes kms (.prepare catalog env f) := fun _ _ _ at_mode => absurd at_mode mode
    by_cases detaches : translationMode .nonSec f.modes = .secDirTrans ∧ kms.smmu.state = .attached
    · obtain ⟨banks, vmid, allCb, secCb⟩ := truthful.attached detaches.2
      obtain ⟨req, level, misr, is_detach, prepared⟩ :=
        prepare_detach catalog env detaches.1 detaches.2
      have whole : Whole (kms.request req level .preCommit misr) := ⟨banks, vmid, allCb, secCb⟩
      rw [Kms.step, prepared]
      obtain ⟨truth, keeps⟩ := secureCtrl_detach catalog env whole rfl is_detach
      exact ⟨iff_of_true truth free, fun _ => keeps⟩
    · rw [Kms.step, prepare_direct catalog env mode fun at_mode at_state =>
        detaches ⟨at_mode, at_state⟩]
      exact ⟨iff_of_true truthful free, fun _ => kept⟩

theorem complete_step (truthful : Truthful kms) (kept : Kept kms) (catalog : Catalog) (env : Env) :
    (Truthful (kms.step (.complete catalog env)) ↔ Undoes kms (.complete catalog env)) ∧
      (Truthful (kms.step (.complete catalog env)) → Kept (kms.step (.complete catalog env))) := by
  rw [Kms.step, completeSecureTransition, Undoes]
  by_cases post : kms.smmu.transitionType = .postCommit
  · rw [if_pos post]
    have due : Due kms true := .of_post post
    have attaching : Attaching kms :=
      { noMisr := kept.noMisr
        req := kept.pending post
        allCb := truthful.allCb
        secCb := truthful.secCb
        one := kept.one
        nonSec := fun zero => (kept.nonSec zero).resolve_left fun both => due.pending both.2 }
    by_cases used : kms.countOf kms.smmu.state = 1
    · obtain ⟨truth, keeps⟩ := secureCtrl_attach catalog env attaching due used
      exact ⟨iff_of_true truth fun _ => used, fun _ => keeps⟩
    · have lies := not_truthful_attach catalog env attaching due used
      exact ⟨iff_of_false lies fun all => used (all post), fun truth => absurd truth lies⟩
  · rw [if_neg post]
    exact ⟨iff_of_true truthful fun at_type => absurd at_type post, fun _ => kept⟩

end Step

theorem truthful_init (secure : List Bool) : Truthful (Kms.init secure) where
  attached _ :=
    ⟨fun b member => by obtain ⟨_, -, rfl⟩ := List.mem_map.mp member; rfl, rfl, rfl, rfl⟩
  detached := nofun
  detachedSec := nofun
  allCb := .inl rfl
  secCb := .inl rfl

theorem kept_init (secure : List Bool) : Kept (Kms.init secure) where
  notPre := nofun
  noMisr := nofun
  pending := nofun
  one := .inl rfl
  nonSec _ := .inr fun b member _ => by obtain ⟨_, -, rfl⟩ := List.mem_map.mp member; rfl

/-- Through all frames, whichever calls fail, the recorded state tells the truth exactly when every
    attach that is carried out undoes a detach that has begun. -/
theorem truthful_iff_undoes (secure : List Bool) (inputs : List Input) :
    Throughout Kms.step Truthful (Kms.init secure) inputs ↔
      StepsMeet Kms.step Undoes (Kms.init secure) inputs := by
  have both : ∀ kms input, True → Kept kms → Truthful kms →
      (Truthful (Kms.step kms input) ↔ Undoes kms input) := by
    intro kms input _ kept truthful
    cases input with
    | prepare catalog env f => exact (prepare_step truthful kept catalog env f).1
    | complete catalog env => exact (complete_step truthful kept catalog env).1
  have keeps : ∀ kms input, True → Kept kms → Truthful kms → Truthful (Kms.step kms input) →
      Kept (Kms.step kms input) := by
    intro kms input _ kept truthful truth
    cases input with
    | prepare catalog env f => exact (prepare_step truthful kept catalog env f).2 truth
    | complete catalog env => exact (complete_step truthful kept catalog env).2 truth
  exact throughout_iff_stepsMeet_good Kept keeps both (kept_init secure) (truthful_init secure)
    (stepsMeet_of_forall (fun _ _ _ => trivial) _)

/-! ### The MISR that cannot be enabled -/

/-- The secure UI asks for its MISR and for a detach, a client does not halt, and the next frame
    without secure planes attaches what has never been detached. -/
theorem not_truthful_haltFails :
    ¬∀ (secure : List Bool) (inputs : List Input),
      Throughout Kms.step Truthful (Kms.init secure) inputs := by
  intro always
  have throughout := always [false, true]
    [.prepare ⟨false, true, fun i => i = 0⟩ ⟨0, 0, fun _ => -110⟩
      ⟨[.secDirTrans], .only, false, false⟩,
      .prepare ⟨false, true, fun i => i = 0⟩ ⟨0, 0, fun _ => 0⟩ ⟨[.nonSec], .nonSec, false, false⟩]
  have last := throughout_iff_prefix.mp throughout _ [] (List.append_nil _).symm
  exact absurd last.allCb (by decide)

end DisplayDrivers.Secure
