import DisplayDrivers.Secure.Truth

/-! # The secure UI gives back what it takes

For the MISR of the secure UI the core power is held and xin clients are halted.
-/

namespace DisplayDrivers.Secure.MisrBalance

open DisplayDrivers.Lib.Run

/-! ## Sessions -/

def isSecureSessionInprogress (catalog : Catalog) (smmu : SmmuStateData) : Bool :=
  catalog.suiNsAllowed && smmu.secureLevel = .only &&
      (smmu.state = .detachedSec || smmu.state = .detachSecReq || smmu.state = .attachSecReq) ||
    (smmu.state = .detached || smmu.state = .detachAllReq || smmu.state = .attachAllReq)

def session (catalog : Catalog) (smmu : SmmuStateData) : Bool :=
  catalog.suiMisrSupported && isSecureSessionInprogress catalog smmu

def blocks (catalog : Catalog) (i : ℕ) : Bool := catalog.suiBlockXinMask i && i < maxXinClient

def held (catalog : Catalog) (on : Bool) : Sui where
  power := if on then 1 else 0
  haltReq i := on && blocks catalog i
  halted i := on && blocks catalog i

def Balanced (catalog : Catalog) (kms : Kms) : Prop :=
  kms.sui = held catalog (session catalog kms.smmu)

inductive Half
  | prepare (env : Env) (f : Frame)
  | complete (env : Env)

def step (catalog : Catalog) (kms : Kms) : Half → Kms
  | .prepare env f => prepareSecureTransition catalog env f kms
  | .complete env => completeSecureTransition catalog env kms

def Enables (catalog : Catalog) (env : Env) : Prop :=
  env.powerRet = 0 ∧ ∀ i, blocks catalog i = true → env.xinRet i = 0

/-- Every blocked client halts. A power enable that fails is in the way only where there is such a
    client: the reference itself is counted all the same. -/
def Halts (catalog : Catalog) (env : Env) : Prop :=
  ∀ i, blocks catalog i = true → env.powerRet = 0 ∧ env.xinRet i = 0

def Granted (catalog : Catalog) (kms : Kms) : Half → Prop
  | .prepare env f =>
    translationMode .nonSec f.modes = .secDirTrans → kms.smmu.state = .attached →
      f.secureLevel = .only → catalog.suiMisrSupported = true → Halts catalog env
  | .complete _ => True

/-! ## The control of the MISR -/

section Ctrl

variable (env : Env) (mask : ℕ → Bool)

theorem haltXin_power (clients : List ℕ) (sui : Sui) :
    (haltXin env mask clients sui).1.power = sui.power := by
  induction clients generalizing sui with
  | nil => rfl
  | cons i clients ih =>
    rw [haltXin]
    split
    · exact ih sui
    · dsimp only
      split
      · rfl
      · exact ih _

theorem haltXin_ok (clients : List ℕ) (sui : Sui) :
    (haltXin env mask clients sui).2 = 0 ↔
      ∀ i ∈ clients, mask i = true → sui.halted i = false → env.xinRet i = 0 := by
  induction clients generalizing sui with
  | nil => simp [haltXin]
  | cons i clients ih =>
    rw [haltXin, List.forall_mem_cons]
    by_cases skip : ¬mask i = true ∨ sui.halted i = true
    · rw [if_pos skip, ih]
      refine ⟨fun rest => ⟨fun masked running => ?_, rest⟩, fun both => both.2⟩
      cases skip with
      | inl outside => exact absurd masked outside
      | inr halted => simp [halted] at running
    · obtain ⟨masked, running⟩ := not_or.mp skip
      rw [if_neg skip]
      dsimp only
      by_cases ack : env.xinRet i = 0
      · rw [if_neg (not_not.mpr ack), ih]
        -- the client that has just halted needs no second acknowledgement
        refine ⟨fun rest => ⟨fun _ _ => ack, fun j at_j masked_j running_j => ?_⟩,
          fun both j at_j masked_j running_j => ?_⟩
        · by_cases same : j = i
          · rw [same, ack]
          · refine rest j at_j masked_j ?_
            dsimp only
            rwa [Function.update_of_ne same]
        · by_cases same : j = i
          · rw [same, ack]
          · dsimp only at running_j
            rw [Function.update_of_ne same] at running_j
            exact both.2 j at_j masked_j running_j
      · rw [if_pos ack]
        exact iff_of_false ack fun both => ack (both.1 (not_not.mp masked) (by simpa using running))

theorem haltXin_halts (clients : List ℕ) (sui : Sui) (same : sui.haltReq = sui.halted)
    (ok : (haltXin env mask clients sui).2 = 0) :
    (haltXin env mask clients sui).1 =
      ⟨sui.power, fun i => sui.halted i || mask i && clients.contains i,
        fun i => sui.halted i || mask i && clients.contains i⟩ := by
  induction clients generalizing sui with
  | nil =>
    cases sui with
    | mk power haltReq halted =>
      cases same
      simp [haltXin]
  | cons i clients ih =>
    rw [haltXin] at ok ⊢
    by_cases skip : ¬mask i = true ∨ sui.halted i = true
    · rw [if_pos skip] at ok ⊢
      rw [ih sui same ok]
      have still : ∀ j, (sui.halted j || mask j && clients.contains j) =
          (sui.halted j || mask j && (i :: clients).contains j) := by
        intro j
        by_cases at_i : j = i
        · cases skip with
          | inl outside => simp [at_i, outside]
          | inr halted => simp [at_i, halted]
        · simp [at_i]
      simp only [still]
    · rw [if_neg skip] at ok ⊢
      dsimp only at ok ⊢
      by_cases ack : env.xinRet i = 0
      · rw [if_neg (not_not.mpr ack)] at ok ⊢
        rw [ih _ (by rw [same]) ok]
        have more : ∀ j, (Function.update sui.halted i true j || mask j && clients.contains j) =
            (sui.halted j || mask j && (i :: clients).contains j) := by
          intro j
          by_cases at_i : j = i
          · rw [at_i, Function.update_self]
            simp [not_not.mp (not_or.mp skip).1]
          · simp [at_i]
        simp only [more]
      · rw [if_pos ack] at ok
        exact absurd ok ack

end Ctrl

section Enable

variable {catalog : Catalog} {env : Env}

theorem enable_ok_iff :
    (suiMisrCtrl catalog env true (held catalog false)).2 = 0 ↔ Enables catalog env := by
  rw [suiMisrCtrl, if_pos rfl, Enables]
  by_cases power : env.powerRet = 0
  · rw [if_neg (not_not.mpr power)]
    have halts := haltXin_ok env catalog.suiBlockXinMask (List.range maxXinClient)
      { held catalog false with power := (held catalog false).power + 1 }
    have blocked : (∀ i ∈ List.range maxXinClient, catalog.suiBlockXinMask i = true →
        (held catalog false).halted i = false → env.xinRet i = 0) ↔
          ∀ i, blocks catalog i = true → env.xinRet i = 0 := by
      simp only [blocks, held, List.mem_range, Bool.false_and, Bool.and_eq_true,
        decide_eq_true_eq]
      exact ⟨fun all i both => all i both.2 both.1 trivial,
        fun all i below masked _ => all i ⟨masked, below⟩⟩
    rw [blocked] at halts
    dsimp only [vbifHaltXinMask]
    rw [if_pos rfl]
    split
    · rename_i refused
      exact iff_of_false refused fun both => refused (halts.mpr both.2)
    · rename_i halted
      exact iff_of_true rfl ⟨power, halts.mp (not_not.mp halted)⟩
  · rw [if_pos power]
    exact iff_of_false power fun both => power both.1

theorem enable_ok (enables : Enables catalog env) :
    (suiMisrCtrl catalog env true (held catalog false)).1 = held catalog true := by
  have ok := enable_ok_iff.mpr enables
  rw [suiMisrCtrl, if_pos rfl, if_neg (not_not.mpr enables.1)] at ok ⊢
  dsimp only [vbifHaltXinMask] at ok ⊢
  rw [if_pos rfl] at ok ⊢
  split at ok
  · rename_i refused
    exact absurd ok refused
  · rename_i halted
    rw [if_neg halted, haltXin_halts _ _ _ _ rfl (not_not.mp halted)]
    simp [held, blocks]

theorem Enables.halts (enables : Enables catalog env) : Halts catalog env :=
  fun i blocked => ⟨enables.1, enables.2 i blocked⟩

theorem haltXin_refused (power : env.powerRet = 0)
    (refused : (suiMisrCtrl catalog env true (held catalog false)).2 ≠ 0) :
    (suiMisrCtrl catalog env true (held catalog false)).1.power = 0 := by
  rw [suiMisrCtrl, if_pos rfl, if_neg (not_not.mpr power)] at refused ⊢
  dsimp only [vbifHaltXinMask] at refused ⊢
  rw [if_pos rfl] at refused ⊢
  split at refused
  · rename_i halted
    rw [if_pos halted]
    dsimp only
    rw [haltXin_power]
    rfl
  · exact absurd rfl refused

theorem enable_held_iff :
    (suiMisrCtrl catalog env true (held catalog false)).1 = held catalog true ↔
      Halts catalog env := by
  by_cases power : env.powerRet = 0
  · constructor
    · intro taken i blocked
      refine ⟨power, ?_⟩
      by_contra running
      have refused : (suiMisrCtrl catalog env true (held catalog false)).2 ≠ 0 := by
        rw [ne_eq, enable_ok_iff]
        exact fun enables => running (enables.halts i blocked).2
      have none_held := haltXin_refused power refused
      rw [taken] at none_held
      cases none_held
    · exact fun halts => enable_ok ⟨power, fun i blocked => (halts i blocked).2⟩
  -- the reference counts, and no client has been asked
  · have counted : (suiMisrCtrl catalog env true (held catalog false)).1 =
        ⟨1, fun _ => false, fun _ => false⟩ := by
      rw [suiMisrCtrl, if_pos rfl, if_pos power]
      rfl
    rw [counted]
    constructor
    · intro taken i blocked
      have halted := congrFun (congrArg Sui.halted taken) i
      simp [held, blocked] at halted
    · intro halts
      have unblocked : ∀ i, blocks catalog i = false := by
        intro i
        by_contra blocked
        exact power (halts i (by simpa using blocked)).1
      simp [held, unblocked]

theorem disable_held : (suiMisrCtrl catalog env false (held catalog true)).1 =
    held catalog false := by
  have released : unhaltXin catalog.suiBlockXinMask (held catalog true) =
      ⟨1, fun i => blocks catalog i && !blocks catalog i,
        fun i => blocks catalog i && !blocks catalog i⟩ := rfl
  rw [suiMisrCtrl, if_neg Bool.false_ne_true, vbifHaltXinMask, if_neg Bool.false_ne_true, released]
  simp [held]

end Enable

/-! ## Sessions begin and end -/

structure Fixed (catalog : Catalog) (smmu : SmmuStateData) : Prop where
  all : smmu.state = .detached ∨ smmu.state = .detachAllReq ∨ smmu.state = .attachAllReq →
    catalog.suiNsAllowed = false
  sec : smmu.state = .detachedSec ∨ smmu.state = .detachSecReq ∨ smmu.state = .attachSecReq →
    smmu.secureLevel = .only → catalog.suiNsAllowed = true

/-- What holds besides in every state of a run: no request before a commit is left, and the
    MISR is requested only with an attach that is left for after one. -/
structure Inv (catalog : Catalog) (smmu : SmmuStateData) : Prop extends Fixed catalog smmu where
  notPre : smmu.transitionType ≠ .preCommit
  misr : smmu.transitionType = .none → smmu.suiMisr = .none
  pending : smmu.transitionType = .postCommit →
    (smmu.state = .attachAllReq ∨ smmu.state = .attachSecReq) ∧
      smmu.suiMisr = if session catalog smmu then .disableReq else .none

section Session

variable {catalog : Catalog} {smmu : SmmuStateData}

theorem session_congr {smmu' : SmmuStateData} (state : smmu'.state = smmu.state)
    (level : smmu'.secureLevel = smmu.secureLevel) :
    session catalog smmu' = session catalog smmu := by
  rw [session, session, isSecureSessionInprogress, isSecureSessionInprogress, state, level]

theorem session_attached (attached : smmu.state = .attached) : session catalog smmu = false := by
  simp [session, isSecureSessionInprogress, attached]

theorem session_all
    (all : smmu.state = .detached ∨ smmu.state = .detachAllReq ∨ smmu.state = .attachAllReq) :
    session catalog smmu = catalog.suiMisrSupported := by
  rcases all with state | state | state
  all_goals simp [session, isSecureSessionInprogress, state]

theorem session_sec (allowed : catalog.suiNsAllowed = true) (only : smmu.secureLevel = .only)
    (sec : smmu.state = .detachedSec ∨ smmu.state = .detachSecReq ∨ smmu.state = .attachSecReq) :
    session catalog smmu = catalog.suiMisrSupported := by
  rcases sec with state | state | state
  all_goals simp [session, isSecureSessionInprogress, allowed, only, state]

theorem session_camera (level : smmu.secureLevel ≠ .only)
    (sec : smmu.state = .detachedSec ∨ smmu.state = .detachSecReq ∨ smmu.state = .attachSecReq) :
    session catalog smmu = false := by
  rcases sec with state | state | state
  all_goals simp [session, isSecureSessionInprogress, level, state]

theorem balanced_settle {kms : Kms} {sui : Sui} {error : Bool} :
    Balanced catalog (kms.settle sui error) ↔ sui = held catalog (session catalog kms.smmu) :=
      Iff.rfl

theorem Fixed.asked (fixed : Fixed catalog smmu) : Fixed catalog smmu.asked := by
  rw [SmmuStateData.asked]
  cases state : smmu.state with
  | detachAllReq =>
    have allowed : catalog.suiNsAllowed = false := fixed.all (.inr (.inl state))
    exact ⟨fun _ => allowed, fun other => by simp at other⟩
  | detachSecReq => exact ⟨fun other => by simp at other, fun _ => fixed.sec (.inr (.inl state))⟩
  | attached => exact ⟨fun other => by simp at other, fun other => by simp at other⟩
  | detached => exact ⟨fun other => by simp at other, fun other => by simp at other⟩
  | detachedSec => exact ⟨fun other => by simp at other, fun other => by simp at other⟩
  | attachAllReq => exact ⟨fun other => by simp at other, fun other => by simp at other⟩
  | attachSecReq => exact ⟨fun other => by simp at other, fun other => by simp at other⟩

theorem Fixed.transition {kms : Kms} (fixed : Fixed catalog kms.smmu) (env : Env) :
    Fixed catalog (transition env kms).1.smmu := by
  rw [(transition_ends env kms).1]
  split
  · exact fixed.asked
  · exact fixed

theorem Fixed.settle {kms : Kms} (fixed : Fixed catalog kms.smmu) (sui : Sui) (error : Bool) :
    Inv catalog (kms.settle sui error).smmu where
  all := fixed.all
  sec := fixed.sec
  notPre := nofun
  misr _ := rfl
  pending := nofun

theorem Fixed.secureCtrl {kms : Kms} (fixed : Fixed catalog kms.smmu) (env : Env)
    {postCommit : Bool} (due : Due kms postCommit) :
    Inv catalog (secureCtrl catalog env postCommit kms).1.smmu := by
  obtain ⟨-, sui, given_up⟩ | ⟨sui, sui', error, moved⟩ := secureCtrl_due catalog env due
  · rw [given_up]
    exact fixed.settle sui true
  · rw [moved]
    have after : Fixed catalog (Secure.transition env { kms with sui := sui }).1.smmu :=
      @Fixed.transition catalog { kms with sui := sui } fixed env
    exact after.settle sui' error

theorem Inv.rests (inv : Inv catalog smmu) (not_all : smmu.state ≠ .attachAllReq)
    (not_sec : smmu.state ≠ .attachSecReq) : smmu.suiMisr = .none := by
  cases type : smmu.transitionType with
  | none => exact inv.misr type
  | preCommit => exact absurd type inv.notPre
  | postCommit =>
    cases (inv.pending type).1 with
    | inl all => exact absurd all not_all
    | inr sec => exact absurd sec not_sec

end Session

/-! ## What a frame does -/

section Step

variable {catalog : Catalog} {kms : Kms}

theorem balanced_attach (env : Env) {postCommit : Bool} (due : Due kms postCommit)
    (attach : kms.smmu.state = .attachAllReq ∨ kms.smmu.state = .attachSecReq)
    (misr : kms.smmu.suiMisr = if session catalog kms.smmu then .disableReq else .none)
    (balanced : Balanced catalog kms) :
    Balanced catalog (secureCtrl catalog env postCommit kms).1 := by
  obtain ⟨ends, -⟩ := transition_ends env kms
  have attached : kms.smmu.asked =
    { kms.smmu with state := .attached, secureLevel := .nonSec } := by
    rw [SmmuStateData.asked]
    cases attach with
    | inl all => rw [all]
    | inr sec => rw [sec]
  have over_ok : (transition env kms).2 = 0 →
    session catalog (transition env kms).1.smmu = false := by
    intro ok
    rw [ends, if_pos ok, attached]
    exact session_attached rfl
  have over_not : (transition env kms).2 ≠ 0 →
      session catalog (transition env kms).1.smmu = session catalog kms.smmu := by
    intro failed
    rw [ends, if_neg failed]
  rw [Balanced] at balanced
  cases serving : session catalog kms.smmu with
  | true =>
    rw [serving] at balanced misr over_not
    obtain ⟨error, moved⟩ := @secureCtrl_disable env kms catalog postCommit due misr
    rw [moved, balanced, disable_held]
    by_cases ok : (transition env kms).2 = 0
    · rw [if_pos ok, balanced_settle, over_ok ok]
    · rw [if_neg ok, balanced_settle, over_not ok]
  | false =>
    rw [serving] at balanced misr over_not
    obtain ⟨error, moved⟩ := @secureCtrl_plain env kms catalog postCommit due misr
    rw [moved, balanced, balanced_settle]
    by_cases ok : (transition env kms).2 = 0
    · rw [over_ok ok]
    · rw [over_not ok]

theorem session_display {smmu : SmmuStateData} (only : smmu.secureLevel = .only)
    (req : smmu.state = if catalog.suiNsAllowed then .detachSecReq else .detachAllReq) :
    session catalog smmu = catalog.suiMisrSupported ∧
      session catalog smmu.asked = catalog.suiMisrSupported := by
  cases allowed : catalog.suiNsAllowed with
  | true =>
    rw [allowed, if_pos rfl] at req
    rw [SmmuStateData.asked, req]
    exact ⟨session_sec allowed only (.inr (.inl req)), session_sec allowed only (.inl rfl)⟩
  | false =>
    rw [allowed, if_neg Bool.false_ne_true] at req
    rw [SmmuStateData.asked, req]
    exact ⟨session_all (.inr (.inl req)), session_all (.inl rfl)⟩

theorem balanced_display (env : Env) (due : Due kms false) (only : kms.smmu.secureLevel = .only)
    (req : kms.smmu.state = if catalog.suiNsAllowed then .detachSecReq else .detachAllReq)
    (misr : kms.smmu.suiMisr = if catalog.suiMisrSupported then .enableReq else .none)
    (idle : kms.sui = held catalog false) :
    Balanced catalog (secureCtrl catalog env false kms).1 ↔
      (catalog.suiMisrSupported = true → Halts catalog env) := by
  obtain ⟨before, after⟩ := session_display only req
  have moves : ∀ sui, session catalog (transition env { kms with sui := sui }).1.smmu =
      catalog.suiMisrSupported := by
    intro sui
    rw [(transition_ends env { kms with sui := sui }).1]
    split
    · exact after
    · exact before
  cases supported : catalog.suiMisrSupported with
  | false =>
    rw [supported, if_neg Bool.false_ne_true] at misr
    obtain ⟨error, moved⟩ := @secureCtrl_plain env kms catalog false due misr
    rw [moved, idle, balanced_settle]
    refine iff_of_true ?_ nofun
    exact congrArg (held catalog) ((moves kms.sui).trans supported).symm
  | true =>
    rw [supported, if_pos rfl] at misr
    have taken : ∀ smmu : SmmuStateData, session catalog smmu = true →
        ((suiMisrCtrl catalog env true kms.sui).1 = held catalog (session catalog smmu) ↔
          Halts catalog env) := by
      intro smmu serves
      rw [serves, idle, enable_held_iff]
    by_cases ok : (suiMisrCtrl catalog env true kms.sui).2 = 0
    · obtain ⟨error, moved⟩ := @secureCtrl_enabled env kms catalog false due misr ok
      rw [moved, balanced_settle, taken _ ((moves _).trans supported), imp_iff_right rfl]
    -- the session counts as one in progress all the same
    · rw [secureCtrl_refused catalog due misr ok, balanced_settle, taken _ (before.trans supported),
        imp_iff_right rfl]

variable {f : Frame}

theorem balanced_leave (env : Env) {req : SmmuState} {misr : SuiMisr}
    (attach : req = .attachAllReq ∨ req = .attachSecReq)
    (same : session catalog { kms.smmu with state := req } = session catalog kms.smmu)
    (is_misr : misr = if session catalog kms.smmu then .disableReq else .none)
    (fixed : Fixed catalog { kms.smmu with state := req }) (balanced : Balanced catalog kms) :
    Balanced catalog (secureCtrl catalog env false
        (kms.request req kms.smmu.secureLevel f.attachType misr)).1 ∧
      Inv catalog (secureCtrl catalog env false
        (kms.request req kms.smmu.secureLevel f.attachType misr)).1.smmu := by
  have request : ∀ type, session catalog (kms.request req kms.smmu.secureLevel type misr).smmu =
      session catalog kms.smmu := by
    intro type
    rw [← same]
    exact session_congr rfl rfl
  have still : ∀ type, Balanced catalog (kms.request req kms.smmu.secureLevel type misr) := by
    intro type
    rw [Balanced, request]
    exact balanced
  have kept : ∀ type, Fixed catalog (kms.request req kms.smmu.secureLevel type misr).smmu :=
    fun _ => ⟨fixed.all, fixed.sec⟩
  rw [Frame.attachType]
  cases f.videoMode with
  | true =>
    rw [if_pos rfl, secureCtrl_later catalog rfl]
    refine ⟨still .postCommit,
      { toFixed := kept .postCommit, notPre := ?_, misr := ?_, pending := ?_ }⟩
    · simp [Kms.request]
    · exact fun type => by simp [Kms.request] at type
    · intro _
      rw [request]
      exact ⟨attach, is_misr⟩
  | false =>
    rw [if_neg Bool.false_ne_true]
    have due : Due (kms.request req kms.smmu.secureLevel .preCommit misr) false := .of_pre rfl
    refine ⟨balanced_attach env due attach ?_ (still .preCommit),
      (kept .preCommit).secureCtrl env due⟩
    rw [request]
    exact is_misr

theorem session_leaveDisplay (fixed : Fixed catalog kms.smmu) (display : kms.smmu.display = true) :
    session catalog kms.smmu = catalog.suiMisrSupported ∧
      session catalog { kms.smmu with
        state := if catalog.suiNsAllowed then .attachSecReq else .attachAllReq } =
          catalog.suiMisrSupported ∧
      Fixed catalog { kms.smmu with
        state := if catalog.suiNsAllowed then .attachSecReq else .attachAllReq } := by
  simp only [SmmuStateData.display, Bool.or_eq_true, Bool.and_eq_true, decide_eq_true_eq] at display
  cases allowed : catalog.suiNsAllowed with
  | false =>
    refine ⟨?_, session_all (.inr (.inr rfl)), fun _ => allowed, fun other => by simp at other⟩
    rcases display with (state | state) | ⟨only, sec⟩
    · exact session_all (.inl state)
    · exact session_all (.inr (.inl state))
    · have contrary := fixed.sec (sec.imp_right .inl) only
      rw [allowed] at contrary
      cases contrary
  | true =>
    have only : kms.smmu.secureLevel = .only ∧
        (kms.smmu.state = .detachedSec ∨ kms.smmu.state = .detachSecReq) := by
      refine display.resolve_left fun all => ?_
      have contrary := fixed.all (all.imp_right .inl)
      rw [allowed] at contrary
      cases contrary
    exact ⟨session_sec allowed only.1 (only.2.imp_right .inl),
      session_sec allowed only.1 (.inr (.inr rfl)), fun other => by simp at other,
      fun _ _ => allowed⟩

theorem session_leaveCamera (catalog : Catalog) (no_display : kms.smmu.display = false)
    (secOut : kms.smmu.secOut = true) :
    session catalog kms.smmu = false ∧
      session catalog { kms.smmu with state := .attachSecReq } = false ∧
      Fixed catalog { kms.smmu with state := .attachSecReq } := by
  simp only [SmmuStateData.secOut, Bool.or_eq_true, decide_eq_true_eq] at secOut
  have camera : kms.smmu.secureLevel ≠ .only := by
    intro only
    cases secOut with
    | inl state => simp [SmmuStateData.display, only, state] at no_display
    | inr state => simp [SmmuStateData.display, only, state] at no_display
  exact ⟨session_camera camera (secOut.imp_right .inl), session_camera camera (.inr (.inr rfl)),
    fun other => by simp at other, fun _ only => absurd only camera⟩

theorem prepare_attaches (inv : Inv catalog kms.smmu) (balanced : Balanced catalog kms) (env : Env)
    (mode : f.attaches) :
    Balanced catalog (prepareSecureTransition catalog env f kms) ∧
      Inv catalog (prepareSecureTransition catalog env f kms).smmu := by
  cases display : kms.smmu.display with
  | true =>
    obtain ⟨serves, serves', fixed⟩ := session_leaveDisplay inv.toFixed display
    have no_misr : kms.smmu.suiMisr = .none := by
      refine inv.rests (fun state => ?_) fun state => ?_
      · simp [SmmuStateData.display, state] at display
      · simp [SmmuStateData.display, state] at display
    rw [prepare_leaveDisplay catalog env mode display]
    refine balanced_leave env ?_ (serves'.trans serves.symm) ?_ fixed balanced
    · cases catalog.suiNsAllowed with
      | true => exact .inr rfl
      | false => exact .inl rfl
    · rw [serves, no_misr]
  | false =>
    cases secOut : kms.smmu.secOut with
    | true =>
      obtain ⟨serves, serves', fixed⟩ := session_leaveCamera catalog display secOut
      have no_misr : kms.smmu.suiMisr = .none := by
        refine inv.rests (fun state => ?_) fun state => ?_
        · simp [SmmuStateData.secOut, state] at secOut
        · simp [SmmuStateData.secOut, state] at secOut
      rw [prepare_leaveCamera catalog env mode display secOut]
      refine balanced_leave env (.inr rfl) (serves'.trans serves.symm) ?_ fixed balanced
      rw [serves, no_misr]
      rfl
    | false =>
      rw [prepare_idle catalog env mode display secOut]
      exact ⟨balanced, inv⟩

theorem prepare_detaches (inv : Inv catalog kms.smmu) (balanced : Balanced catalog kms) (env : Env)
    (mode : translationMode .nonSec f.modes = .secDirTrans)
    (attached : kms.smmu.state = .attached) :
    (Balanced catalog (prepareSecureTransition catalog env f kms) ↔
      (f.secureLevel = .only → catalog.suiMisrSupported = true → Halts catalog env)) ∧
      Inv catalog (prepareSecureTransition catalog env f kms).smmu := by
  have no_misr : kms.smmu.suiMisr = .none := by
    refine inv.rests (fun state => ?_) fun state => ?_
    · simp [attached] at state
    · simp [attached] at state
  have idle : kms.sui = held catalog false := by
    rw [Balanced, session_attached attached] at balanced
    exact balanced
  cases level : f.secureLevel with
  | only =>
    rw [prepare_display catalog env mode attached level, no_misr, imp_iff_right rfl]
    have fixed : ∀ misr, Fixed catalog (kms.request
        (if catalog.suiNsAllowed then .detachSecReq else .detachAllReq) .only .preCommit
          misr).smmu := by
      intro misr
      cases allowed : catalog.suiNsAllowed with
      | true => exact ⟨fun other => by simp [Kms.request] at other, fun _ _ => allowed⟩
      | false => exact ⟨fun _ => allowed, fun other => by simp [Kms.request] at other⟩
    have due : ∀ state misr, Due (kms.request state .only .preCommit misr) false :=
      fun _ _ => .of_pre rfl
    exact ⟨balanced_display env (due _ _) rfl rfl rfl idle, (fixed _).secureCtrl env (due _ _)⟩
  | nonSec =>
    rw [prepare_camera catalog env mode attached level, no_misr]
    have due : Due (kms.request .detachSecReq .nonSec .preCommit .none) false := .of_pre rfl
    have fixed : Fixed catalog (kms.request .detachSecReq .nonSec .preCommit .none).smmu :=
      ⟨fun other => by simp [Kms.request] at other, fun _ only => by simp [Kms.request] at only⟩
    refine ⟨iff_of_true ?_ (fun only => by cases only), fixed.secureCtrl env due⟩
    obtain ⟨error, moved⟩ := @secureCtrl_plain env
      (kms.request .detachSecReq .nonSec .preCommit .none) catalog false due rfl
    have ends := (transition_ends env (kms.request .detachSecReq .nonSec .preCommit .none)).1
    rw [moved, balanced_settle, ends]
    have camera : ∀ smmu : SmmuStateData, smmu.secureLevel = .nonSec →
        smmu.state = .detachedSec ∨ smmu.state = .detachSecReq → session catalog smmu = false :=
      fun smmu level sec => session_camera (by simp [level]) (sec.imp_right .inl)
    -- the secure camera has no MISR, whether its detach succeeds or not
    split
    · exact idle.trans (congrArg (held catalog) (camera _ rfl (.inl rfl)).symm)
    · exact idle.trans (congrArg (held catalog) (camera _ rfl (.inr rfl)).symm)

theorem step_balanced (inv : Inv catalog kms.smmu) (balanced : Balanced catalog kms) (half : Half) :
    (Balanced catalog (step catalog kms half) ↔ Granted catalog kms half) ∧
      Inv catalog (step catalog kms half).smmu := by
  cases half with
  | prepare env f =>
    rw [step, Granted]
    by_cases mode : f.attaches
    · obtain ⟨gives_back, keeps⟩ := prepare_attaches inv balanced env mode
      refine ⟨iff_of_true gives_back fun direct => ?_, keeps⟩
      cases mode with
      | inl sec => simp [sec] at direct
      | inr nonSec => simp [nonSec] at direct
    · by_cases detaches : translationMode .nonSec f.modes = .secDirTrans ∧
        kms.smmu.state = .attached
      · obtain ⟨takes, keeps⟩ := prepare_detaches inv balanced env detaches.1 detaches.2
        refine ⟨takes.trans ⟨fun all _ _ => all, fun all => all detaches.1 detaches.2⟩, keeps⟩
      · rw [prepare_direct catalog env mode fun at_mode at_state => detaches ⟨at_mode, at_state⟩]
        exact ⟨iff_of_true balanced fun at_mode at_state =>
          absurd ⟨at_mode, at_state⟩ detaches, inv⟩
  | complete env =>
    rw [step, Granted, completeSecureTransition]
    by_cases post : kms.smmu.transitionType = .postCommit
    · rw [if_pos post]
      obtain ⟨attach, misr⟩ := inv.pending post
      have due : Due kms true := .of_post post
      exact ⟨iff_of_true (balanced_attach env due attach misr balanced) trivial,
        inv.toFixed.secureCtrl env due⟩
    · rw [if_neg post]
      exact ⟨iff_of_true balanced trivial, inv⟩

end Step

/-! ## Runs -/

theorem inv_init (catalog : Catalog) (secure : List Bool) : Inv catalog (Kms.init secure).smmu where
  all state := by simp [Kms.init] at state
  sec state := by simp [Kms.init] at state
  notPre := nofun
  misr _ := rfl
  pending := nofun

theorem balanced_init (catalog : Catalog) (secure : List Bool) :
    Balanced catalog (Kms.init secure) := by
  have over_all : session catalog (Kms.init secure).smmu = false := session_attached rfl
  rw [Balanced, over_all]
  rfl

/-- Through all commits, whichever calls fail, the secure UI holds one power reference and its
    blocked clients during its sessions and nothing outside of them, exactly when in every frame
    that enables the MISR all these clients halt. -/
theorem balanced_iff_granted (catalog : Catalog) (secure : List Bool) (halves : List Half) :
    Throughout (step catalog) (Balanced catalog) (Kms.init secure) halves ↔
      StepsMeet (step catalog) (Granted catalog) (Kms.init secure) halves := by
  have keeps : ∀ kms half, Inv catalog kms.smmu → Balanced catalog kms →
      Inv catalog (step catalog kms half).smmu :=
    fun kms half inv balanced => (step_balanced inv balanced half).2
  have exact_step : ∀ kms half, Inv catalog kms.smmu → Balanced catalog kms →
      (Balanced catalog (step catalog kms half) ↔ Granted catalog kms half) :=
    fun kms half inv balanced => (step_balanced inv balanced half).1
  exact throughout_iff_stepsMeet_along (fun kms => Inv catalog kms.smmu) keeps exact_step
    (inv_init catalog secure) (balanced_init catalog secure) halves

/-! ### A power reference that is given back twice -/

/-- A client of the secure UI does not halt: its power goes back at once, and with the next frame
    again. -/
theorem not_balanced_haltFails :
    ∃ (catalog : Catalog) (secure : List Bool) (halves : List Half),
      ¬Throughout (step catalog) (Balanced catalog) (Kms.init secure) halves ∧
        (run (step catalog) (Kms.init secure) halves).sui.power = -1 := by
  refine ⟨⟨false, true, fun i => i = 0⟩, [false, true],
    [.prepare ⟨0, 0, fun _ => -110⟩ ⟨[.secDirTrans], .only, false, false⟩,
      .prepare ⟨0, 0, fun _ => 0⟩ ⟨[.nonSec], .nonSec, false, false⟩], fun throughout => ?_, rfl⟩
  have last := throughout_iff_prefix.mp throughout _ [] (List.append_nil _).symm
  exact absurd (congrArg Sui.power last) (by decide)

end DisplayDrivers.Secure.MisrBalance
