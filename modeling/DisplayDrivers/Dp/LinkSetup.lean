import DisplayDrivers.Dp.Ctrl
import DisplayDrivers.Lib.Run

/-! # Setting up the link (`msm/dp/dp_ctrl.c`, `msm/dp/dp_power.c`, `msm/sde_io_util.c`)

`dp_ctrl_link_setup` enables the link clocks and the main link and trains; after a failure it takes
a lower link rate, gives both back and tries again, a hundred times at most.
-/

namespace DisplayDrivers.Dp.LinkSetup

open DisplayDrivers.Lib.Run

def ENOTCONN : Int := 107
def ETIMEDOUT : Int := 110

def DP_LINK_BW_1_62 : U32 := 0x06
def DP_LINK_BW_2_7 : U32 := 0x0a
def DP_LINK_BW_5_4 : U32 := 0x14
def DP_LINK_BW_8_1 : U32 := 0x1e

def IsLinkRateValid (bwCode : U32) : Prop :=
  bwCode = DP_LINK_BW_1_62 ∨ bwCode = DP_LINK_BW_2_7 ∨ bwCode = DP_LINK_BW_5_4 ∨
    bwCode = DP_LINK_BW_8_1

instance (bwCode : U32) : Decidable (IsLinkRateValid bwCode) := by
  unfold IsLinkRateValid
  infer_instance

/-- `struct dss_clk`: whether the clock was found, and its enable count. -/
structure DssClk where
  found : Bool
  count : ℕ

def DssClk.enable (clk : DssClk) : DssClk := { clk with count := clk.count + 1 }

def DssClk.disable (clk : DssClk) : DssClk :=
  if clk.found then { clk with count := clk.count - 1 } else clk

structure LinkCtrl where
  powerOn : Bool
  linkClksOn : Bool
  clks : List DssClk
  mainlink : Bool
  bwCode : U32
  rate : U32

/-! ## The link clocks -/

/-- The loop of `msm_dss_clk_set_rate`. -/
def msmDssClkSetRate (setRate : ℕ → Int) : ℕ → List DssClk → Int
  | _, [] => 0
  | i, clk :: rest =>
    let rc := if clk.found then setRate i else -EPERM
    if rc ≠ 0 then rc else msmDssClkSetRate setRate (i + 1) rest

/-- The loop of `msm_dss_enable_clk`, with the clocks it has enabled; a failure disables these. -/
def msmDssEnableClk (enable : ℕ → Int) : List DssClk → List DssClk → List DssClk × Int
  | enabled, [] => (enabled, 0)
  | enabled, clk :: rest =>
    let rc := if clk.found then enable enabled.length else -EPERM
    -- the clocks enabled so far are disabled again, the failing one is as it was
    if rc ≠ 0 then (enabled.map DssClk.disable ++ clk :: rest, rc)
    else msmDssEnableClk enable (enabled ++ [clk.enable]) rest

/-- The answers of one attempt: of each clock, and of `dp_ctrl_link_train`. -/
structure Attempt where
  setRate : ℕ → Int
  enable : ℕ → Int
  train : Int
  /-- Read after the attempt. -/
  aborted : Bool

def dpPowerClkEnable (link : LinkCtrl) (answers : Attempt) : LinkCtrl × Int :=
  if link.linkClksOn then (link, 0)
  else if msmDssClkSetRate answers.setRate 0 link.clks ≠ 0 then
    (link, msmDssClkSetRate answers.setRate 0 link.clks)
  else
    let (clks, rc) := msmDssEnableClk answers.enable [] link.clks
    if rc ≠ 0 then ({ link with clks }, rc) else ({ link with clks, linkClksOn := true }, 0)

def dpPowerClkDisable (link : LinkCtrl) : LinkCtrl :=
  { link with clks := link.clks.map DssClk.disable, linkClksOn := false }

def dpCtrlEnableLinkClock (link : LinkCtrl) (answers : Attempt) : LinkCtrl × Int :=
  let (link, rc) := dpPowerClkEnable link answers
  (link, if rc ≠ 0 then -EINVAL else 0)

/-! ## The retry loop -/

def dpCtrlConfigureSourceLinkParams (link : LinkCtrl) (enable : Bool) : LinkCtrl :=
  { link with mainlink := enable }

def dpCtrlLinkRateDownShift (link : LinkCtrl) : LinkCtrl :=
  { link with bwCode :=
      if link.bwCode = DP_LINK_BW_8_1 then DP_LINK_BW_5_4
      else if link.bwCode = DP_LINK_BW_5_4 then DP_LINK_BW_2_7
      else DP_LINK_BW_1_62 }

/-- `dp_ctrl_setup_main_link`: nothing is trained for a PHY test pattern. -/
def dpCtrlSetupMainLink (phyTestPattern : Bool) (answers : Attempt) : Int :=
  if phyTestPattern then 0 else answers.train

def linkAttempt (shallow phyTestPattern : Bool) (answers : Attempt) (link : LinkCtrl) :
    (LinkCtrl × Int) ⊕ (LinkCtrl × Int) :=
  let (link, rc) := dpCtrlEnableLinkClock link answers
  if rc ≠ 0 then .inr (link, rc)
  else
    let link := dpCtrlConfigureSourceLinkParams link true
    let rc := dpCtrlSetupMainLink phyTestPattern answers
    if rc = 0 then .inr (link, 0)
    -- in shallow mode a link that is not trained is left on all the same
    else if shallow then .inr (link, 0)
    else
      let link := dpCtrlLinkRateDownShift link
      let link := dpCtrlConfigureSourceLinkParams link false
      .inl (dpPowerClkDisable link, rc)

structure SetupResult where
  link : LinkCtrl
  rc : Int
  /-- The `bw_code` of each attempt. -/
  codes : List U32

def linkSetupFrom (shallow phyTestPattern : Bool) (answers : ℕ → Attempt) :
    ℕ → ℕ → LinkCtrl → SetupResult
  | left, attempt, link =>
    match linkAttempt shallow phyTestPattern (answers attempt) link with
    | .inr (after, rc) => { link := after, rc, codes := [link.bwCode] }
    | .inl (after, rc) =>
      match left with
      | 0 => { link := after, rc, codes := [link.bwCode] }
      | left + 1 =>
        if (answers attempt).aborted then { link := after, rc, codes := [link.bwCode] }
        else
          let rest := linkSetupFrom shallow phyTestPattern answers left (attempt + 1) after
          { rest with codes := link.bwCode :: rest.codes }

def dpCtrlLinkSetup (link : LinkCtrl) (shallow phyTestPattern : Bool)
    (answers : ℕ → Attempt) : SetupResult :=
  linkSetupFrom shallow phyTestPattern answers 99 0 link

/-! ## The callers -/

/-- The link before a call of `dp_ctrl_link_setup`, and what the call comes to. -/
structure Setup where
  entry : LinkCtrl
  result : SetupResult

/-- What `dp_ctrl_on` finds: an abort, a PHY test in `sink_request`, the answers of the setup. -/
structure OnAnswers where
  aborted : Bool
  phyTestPattern : Bool
  attempts : ℕ → Attempt

/-- What `dp_panel_read_dpcd` comes to: it fails before it sets the rate, or sets the rate. -/
inductive DpcdRead
  | failed (timedOut : Bool)
  | read (rate : U32) (dsPortsRead : Bool)

/-- The outcome of `dp_panel_read_sink_caps` after the link parameters. -/
structure SinkCaps where
  dpcd : DpcdRead
  laneCountValid : Bool
  maxBwCode : U32
  later : Int

structure LinkSession where
  link : LinkCtrl
  setups : List Setup

section Callers
variable (linkRateToBwCode : U32 → U32)

def dpCtrlOn (session : LinkSession) (shallow : Bool) (answers : OnAnswers) : LinkSession :=
  if session.link.powerOn then session
  else if answers.aborted then session
  else
    let entry := if answers.phyTestPattern then session.link
      else { session.link with bwCode := linkRateToBwCode session.link.rate }
    let result := dpCtrlLinkSetup entry shallow answers.phyTestPattern answers.attempts
    { link := if result.rc ≠ 0 then result.link else { result.link with powerOn := true }
      setups := session.setups ++ [{ entry, result }] }

def dpCtrlOff (link : LinkCtrl) : LinkCtrl :=
  if link.powerOn then
    let off := dpPowerClkDisable (dpCtrlConfigureSourceLinkParams link false)
    { off with powerOn := false }
  else link

/-- `dp_power_deinit`, for the link clocks. -/
def dpPowerDeinit (link : LinkCtrl) : LinkCtrl :=
  if link.linkClksOn then dpPowerClkDisable link else link

def dpPanelReadDpcd (link : LinkCtrl) : DpcdRead → LinkCtrl × Int
  | .failed timedOut => (link, if timedOut then -ETIMEDOUT else -EINVAL)
  | .read rate dsPortsRead => ({ link with rate }, if dsPortsRead then 0 else -EINVAL)

def setDefaultLinkParams (link : LinkCtrl) : LinkCtrl := { link with rate := 162000 }

def dpPanelReadSinkCaps (link : LinkCtrl) (caps : SinkCaps) : LinkCtrl × Int :=
  let (link, rc) := dpPanelReadDpcd link caps.dpcd
  if rc ≠ 0 ∨ ¬ IsLinkRateValid (linkRateToBwCode link.rate) ∨ ¬ caps.laneCountValid ∨
      linkRateToBwCode link.rate > caps.maxBwCode then
    if rc = -ETIMEDOUT then (link, rc) else (setDefaultLinkParams link, caps.later)
  else (link, caps.later)

def dpDisplayProcessHpdHigh (session : LinkSession) (caps : SinkCaps) (answers : OnAnswers) :
    LinkSession :=
  let (link, rc) := dpPanelReadSinkCaps linkRateToBwCode session.link caps
  if rc = -ETIMEDOUT ∨ rc = -ENOTCONN then { session with link }
  else dpCtrlOn linkRateToBwCode { session with link } false answers

inductive LinkCall
  | hpdHigh (caps : SinkCaps) (answers : OnAnswers)
  | prepare (answers : OnAnswers)
  /-- `dp_ctrl_process_phy_test_request`, made while `sink_request` has the PHY test. -/
  | phyTest (answers : OnAnswers)
  /-- A link rate that a test request of the sink sets, once checked. -/
  | testLinkRate (bwCode : U32)
  | off
  | powerDeinit

def linkStep (session : LinkSession) : LinkCall → LinkSession
  | .hpdHigh caps answers => dpDisplayProcessHpdHigh linkRateToBwCode session caps answers
  | .prepare answers => dpCtrlOn linkRateToBwCode session true answers
  | .phyTest answers =>
    dpCtrlOn linkRateToBwCode { session with link := dpCtrlOff session.link } false
      { answers with phyTestPattern := true }
  | .testLinkRate bwCode =>
    if IsLinkRateValid bwCode then { session with link := { session.link with bwCode } }
    else session
  | .off => { session with link := dpCtrlOff session.link }
  | .powerDeinit => { session with link := dpPowerDeinit session.link }

end Callers

def LinkSession.init (found : List Bool) : LinkSession :=
  { link :=
      { powerOn := false, linkClksOn := false
        clks := found.map fun found => { found, count := 0 }
        mainlink := false, bwCode := 0, rate := 0 }
    setups := [] }

/-! ## What a setup takes and gives back -/

structure Idle (link : LinkCtrl) : Prop where
  clks : link.linkClksOn = false
  mainlink : link.mainlink = false

structure Released (entry link : LinkCtrl) : Prop where
  clks : link.clks = entry.clks
  clksOn : link.linkClksOn = entry.linkClksOn
  mainlink : link.mainlink = entry.mainlink

structure Held (entry link : LinkCtrl) : Prop where
  clks : link.clks = entry.clks.map DssClk.enable
  clksOn : link.linkClksOn = true
  mainlink : link.mainlink = true

structure Balanced (entry : LinkCtrl) (result : SetupResult) : Prop where
  failed : result.rc ≠ 0 → Released entry result.link
  done : result.rc = 0 → Held entry result.link
  attempts : result.codes.length ≤ 100
  falling : (result.codes ++ [result.link.bwCode]).Pairwise fun before after => after ≤ before

section Clocks

theorem disable_enable {clks : List DssClk} (found : ∀ clk ∈ clks, clk.found) :
    (clks.map DssClk.enable).map DssClk.disable = clks := by
  have undo : ∀ clk ∈ clks, (DssClk.disable ∘ DssClk.enable) clk = id clk := by
    intro clk listed
    have here := found clk listed
    cases clk
    simp_all [DssClk.enable, DssClk.disable]
  rw [List.map_map, List.map_congr_left undo, List.map_id]

theorem msmDssEnableClk_spec (enable : ℕ → Int) (rest : List DssClk) :
    ∀ before : List DssClk, (∀ clk ∈ before, clk.found) →
      ((msmDssEnableClk enable (before.map DssClk.enable) rest).2 = 0 ∧
          (msmDssEnableClk enable (before.map DssClk.enable) rest).1 =
            (before ++ rest).map DssClk.enable ∧
          ∀ clk ∈ before ++ rest, clk.found) ∨
        ((msmDssEnableClk enable (before.map DssClk.enable) rest).2 ≠ 0 ∧
          (msmDssEnableClk enable (before.map DssClk.enable) rest).1 = before ++ rest) := by
  -- the induction is on the clocks to come, with those enabled so far in front
  induction rest with
  | nil =>
    intro before found
    exact .inl ⟨rfl, by simp [msmDssEnableClk], by simpa using found⟩
  | cons clk rest ih =>
    intro before found
    have undo := disable_enable found
    have one : before.map DssClk.enable ++ [clk.enable] = (before ++ [clk]).map DssClk.enable := by
      simp
    have all : before ++ clk :: rest = before ++ [clk] ++ rest := by simp
    simp only [msmDssEnableClk]
    cases here : clk.found with
    | false =>
      simp only [Bool.false_eq_true, if_false]
      exact .inr ⟨by simp [EPERM], by simp [EPERM, undo]⟩
    | true =>
      simp only [if_true]
      split
      case isTrue refused => exact .inr ⟨refused, by simp [undo]⟩
      case isFalse taken =>
        -- an enabled clock joins the ones in front
        have later := ih (before ++ [clk]) (by
          intro other listed
          simp only [List.mem_append, List.mem_singleton] at listed
          rcases listed with old | rfl
          · exact found other old
          · exact here)
        rw [one, all]
        exact later

theorem enableLinkClock_spec {link : LinkCtrl} (off : link.linkClksOn = false)
    (answers : Attempt) :
    (∃ rc, rc ≠ 0 ∧ dpCtrlEnableLinkClock link answers = (link, rc)) ∨
      ((∀ clk ∈ link.clks, clk.found) ∧ dpCtrlEnableLinkClock link answers =
        ({ link with clks := link.clks.map DssClk.enable, linkClksOn := true }, 0)) := by
  have spec := msmDssEnableClk_spec answers.enable link.clks [] (by simp)
  simp only [List.map_nil, List.nil_append] at spec
  have fresh : ¬ link.linkClksOn = true := by simp [off]
  have failed : -EINVAL ≠ 0 := by simp [EINVAL]
  unfold dpCtrlEnableLinkClock dpPowerClkEnable
  rw [if_neg fresh]
  by_cases unset : msmDssClkSetRate answers.setRate 0 link.clks ≠ 0
  · simp only [if_pos unset]
    exact .inl ⟨-EINVAL, failed, rfl⟩
  · simp only [if_neg unset]
    rcases spec with ⟨taken, clks, found⟩ | ⟨refused, clks⟩
    · refine .inr ⟨found, ?_⟩
      simp only [taken, clks, ne_eq, not_true_eq_false, if_false]
    · refine .inl ⟨-EINVAL, failed, ?_⟩
      simp only [refused, clks, ne_eq, not_false_eq_true, if_true]

end Clocks

section Loop
variable {shallow phyTestPattern : Bool} {answers : Attempt} {link : LinkCtrl}

theorem downShift_valid (link : LinkCtrl) :
    IsLinkRateValid (dpCtrlLinkRateDownShift link).bwCode := by
  unfold dpCtrlLinkRateDownShift IsLinkRateValid
  simp only
  split
  · simp
  · split <;> simp

theorem downShift_le (valid : IsLinkRateValid link.bwCode) :
    (dpCtrlLinkRateDownShift link).bwCode ≤ link.bwCode := by
  rcases valid with code | code | code | code <;>
    simp [dpCtrlLinkRateDownShift, code, DP_LINK_BW_1_62, DP_LINK_BW_2_7, DP_LINK_BW_5_4,
      DP_LINK_BW_8_1]

def Trainable (shallow phyTestPattern : Bool) (link : LinkCtrl) : Prop :=
  shallow = true ∨ phyTestPattern = true ∨ IsLinkRateValid link.bwCode

def held (link : LinkCtrl) : LinkCtrl :=
  { link with clks := link.clks.map DssClk.enable, linkClksOn := true, mainlink := true }

theorem linkAttempt_cases (idle : Idle link) :
    (∃ after rc, linkAttempt shallow phyTestPattern answers link = .inr (after, rc) ∧
        (rc ≠ 0 → Released link after) ∧ (rc = 0 → Held link after) ∧
        after.bwCode = link.bwCode) ∨
      ∃ after rc, linkAttempt shallow phyTestPattern answers link = .inl (after, rc) ∧
        rc ≠ 0 ∧ shallow = false ∧ phyTestPattern = false ∧
        Released link after ∧ after.bwCode = (dpCtrlLinkRateDownShift link).bwCode := by
  have holds : Held link (held link) := { clks := rfl, clksOn := rfl, mainlink := rfl }
  unfold linkAttempt
  rcases enableLinkClock_spec idle.clks answers with ⟨rc, failed, same⟩ | ⟨found, enabled⟩
  · left
    simp only [same, failed, ne_eq, not_false_eq_true, if_true]
    exact ⟨link, rc, rfl, fun _ => { clks := rfl, clksOn := rfl, mainlink := rfl },
      fun zero => absurd zero failed, rfl⟩
  · simp only [enabled, ne_eq, not_true_eq_false, if_false]
    by_cases trained : dpCtrlSetupMainLink phyTestPattern answers = 0
    · left
      rw [if_pos trained]
      exact ⟨held link, 0, rfl, fun wrong => absurd rfl wrong, fun _ => holds, rfl⟩
    · rw [if_neg trained]
      cases shallow with
      | true =>
        left
        exact ⟨held link, 0, rfl, fun wrong => absurd rfl wrong, fun _ => holds, rfl⟩
      | false =>
        right
        -- a PHY test does not fail to train
        have pattern : phyTestPattern = false := by
          cases phyTestPattern with
          | false => rfl
          | true => simp [dpCtrlSetupMainLink] at trained
        refine ⟨{ held link with
            clks := (link.clks.map DssClk.enable).map DssClk.disable
            linkClksOn := false
            mainlink := false
            bwCode := (dpCtrlLinkRateDownShift link).bwCode }, _, rfl, trained, rfl, pattern, ?_,
          rfl⟩
        exact
          { clks := disable_enable found
            clksOn := idle.clks.symm
            mainlink := idle.mainlink.symm }

theorem Released.idle {entry : LinkCtrl} (idle : Idle entry) (released : Released entry link) :
    Idle link where
  clks := released.clksOn.trans idle.clks
  mainlink := released.mainlink.trans idle.mainlink

structure LoopBalanced (left : ℕ) (entry : LinkCtrl) (result : SetupResult) : Prop where
  failed : result.rc ≠ 0 → Released entry result.link
  done : result.rc = 0 → Held entry result.link
  attempts : result.codes.length ≤ left + 1
  below : ∀ code ∈ result.codes ++ [result.link.bwCode], code ≤ entry.bwCode
  falling : (result.codes ++ [result.link.bwCode]).Pairwise fun before after => after ≤ before

variable {after : LinkCtrl}

theorem loopBalanced_last {left : ℕ} {rc : Int}
    (failed : rc ≠ 0 → Released link after) (done : rc = 0 → Held link after)
    (low : after.bwCode ≤ link.bwCode) :
    LoopBalanced left link { link := after, rc, codes := [link.bwCode] } where
  failed := failed
  done := done
  attempts := by simp
  below := by simpa using low
  falling := by simpa using low

theorem LoopBalanced.cons {left : ℕ} {rest : SetupResult}
    (released : Released link after) (low : after.bwCode ≤ link.bwCode)
    (balanced : LoopBalanced left after rest) :
    LoopBalanced (left + 1) link { rest with codes := link.bwCode :: rest.codes } := by
  have below : ∀ code ∈ rest.codes ++ [rest.link.bwCode], code ≤ link.bwCode :=
    fun code listed => BitVec.le_trans (balanced.below code listed) low
  constructor
  · intro wrong
    have last := balanced.failed wrong
    exact
      { clks := last.clks.trans released.clks
        clksOn := last.clksOn.trans released.clksOn
        mainlink := last.mainlink.trans released.mainlink }
  · intro right
    have last := balanced.done right
    exact
      { clks := last.clks.trans (by rw [released.clks])
        clksOn := last.clksOn
        mainlink := last.mainlink }
  · simpa using balanced.attempts
  · intro code listed
    rcases List.mem_cons.mp listed with rfl | later
    · exact BitVec.le_refl _
    · exact below code later
  · exact List.pairwise_cons.mpr ⟨below, balanced.falling⟩

theorem linkSetupFrom_balanced (answers : ℕ → Attempt) : ∀ (left attempt : ℕ) (link : LinkCtrl),
    Idle link → Trainable shallow phyTestPattern link →
      LoopBalanced left link (linkSetupFrom shallow phyTestPattern answers left attempt link)
  | left, attempt, link, idle, trainable => by
      unfold linkSetupFrom
      rcases @linkAttempt_cases shallow phyTestPattern (answers attempt) link idle with
        ⟨after, rc, leaves, failed, done, same⟩ |
          ⟨after, rc, again, failed, deep, pattern, released, shifted⟩
      · rw [leaves]
        exact loopBalanced_last failed done (by rw [same]; exact BitVec.le_refl _)
      · rw [again]
        have valid : IsLinkRateValid link.bwCode := by
          simpa [Trainable, deep, pattern] using trainable
        have low : after.bwCode ≤ link.bwCode := by
          rw [shifted]
          exact downShift_le valid
        have last {left : ℕ} :
            LoopBalanced left link { link := after, rc, codes := [link.bwCode] } :=
          loopBalanced_last (fun _ => released) (fun zero => absurd zero failed) low
        -- the last attempt and an abort leave the link as released
        cases left with
        | zero => exact last
        | succ left =>
            simp only
            split
            · exact last
            · have next : Trainable shallow phyTestPattern after := by
                right
                right
                rw [shifted]
                exact downShift_valid link
              exact (linkSetupFrom_balanced answers left (attempt + 1) after
                (released.idle idle) next).cons released low

theorem linkSetup_spec (idle : Idle link) (trainable : Trainable shallow phyTestPattern link)
    (answers : ℕ → Attempt) :
    Balanced link (dpCtrlLinkSetup link shallow phyTestPattern answers) := by
  have loop := linkSetupFrom_balanced answers 99 0 link idle trainable
  exact
    { failed := loop.failed, done := loop.done, attempts := loop.attempts
      falling := loop.falling }

end Loop

/-! ## Every setup of a run -/

section Session
variable {linkRateToBwCode : U32 → U32} {session : LinkSession}

structure Settled (session : LinkSession) : Prop where
  idle : session.link.powerOn = false → Idle session.link
  balanced : ∀ setup ∈ session.setups, Balanced setup.entry setup.result

theorem Settled.withLink (settled : Settled session) {link : LinkCtrl}
    (idle : link.powerOn = false → Idle link) : Settled { session with link } :=
  { idle, balanced := settled.balanced }

theorem dpCtrlOn_settled (settled : Settled session) {shallow : Bool} (answers : OnAnswers)
    (trainable : shallow = true ∨ answers.phyTestPattern = true ∨
      IsLinkRateValid (linkRateToBwCode session.link.rate)) :
    Settled (dpCtrlOn linkRateToBwCode session shallow answers) := by
  unfold dpCtrlOn
  split
  · exact settled
  case isFalse down =>
    split
    · exact settled
    · let entry := if answers.phyTestPattern then session.link
        else { session.link with bwCode := linkRateToBwCode session.link.rate }
      have idle : Idle session.link := settled.idle (by simpa using down)
      -- a PHY test keeps the code of the rate, any other setup takes it from the panel
      have ready : Idle entry ∧ Trainable shallow answers.phyTestPattern entry := by
        cases pattern : answers.phyTestPattern with
        | true =>
          simp only [entry, pattern, if_true]
          exact ⟨idle, .inr (.inl rfl)⟩
        | false =>
          simp only [entry, pattern, Bool.false_eq_true, if_false]
          refine ⟨{ clks := idle.clks, mainlink := idle.mainlink }, ?_⟩
          rcases trainable with slight | test | valid
          · exact .inl slight
          · simp [pattern] at test
          · exact .inr (.inr valid)
      have balanced := linkSetup_spec ready.1 ready.2 answers.attempts
      constructor
      · intro off
        by_cases failed : (dpCtrlLinkSetup entry shallow answers.phyTestPattern
            answers.attempts).rc ≠ 0
        · change Idle (if _ then _ else _)
          rw [if_pos failed]
          exact (balanced.failed failed).idle ready.1
        · change (if _ then _ else _ : LinkCtrl).powerOn = false at off
          rw [if_neg failed] at off
          cases off
      · intro setup listed
        rcases List.mem_append.mp listed with earlier | last
        · exact settled.balanced setup earlier
        · rw [List.mem_singleton.mp last]
          exact balanced

theorem dpCtrlOff_idle {link : LinkCtrl} (idle : link.powerOn = false → Idle link) :
    (dpCtrlOff link).powerOn = false → Idle (dpCtrlOff link) := by
  intro _
  unfold dpCtrlOff
  split
  · exact { clks := rfl, mainlink := rfl }
  case isFalse down => exact idle (by simpa using down)

theorem dpPowerDeinit_idle {link : LinkCtrl} (idle : link.powerOn = false → Idle link) :
    (dpPowerDeinit link).powerOn = false → Idle (dpPowerDeinit link) := by
  unfold dpPowerDeinit
  split
  · intro off
    exact { clks := rfl, mainlink := (idle off).mainlink }
  · exact idle

theorem readSinkCaps_idle {link : LinkCtrl} (caps : SinkCaps)
    (idle : link.powerOn = false → Idle link) :
    (dpPanelReadSinkCaps linkRateToBwCode link caps).1.powerOn = false →
      Idle (dpPanelReadSinkCaps linkRateToBwCode link caps).1 := by
  have same : ∃ rate, (dpPanelReadSinkCaps linkRateToBwCode link caps).1 = { link with rate } := by
    obtain ⟨rate, read⟩ : ∃ rate, (dpPanelReadDpcd link caps.dpcd).1 = { link with rate } := by
      cases caps.dpcd with
      | failed timedOut => exact ⟨link.rate, rfl⟩
      | read rate dsPortsRead => exact ⟨rate, rfl⟩
    unfold dpPanelReadSinkCaps
    simp only
    split
    · split
      · exact ⟨rate, read⟩
      · exact ⟨162000, by rw [setDefaultLinkParams, read]⟩
    · exact ⟨rate, read⟩
  obtain ⟨rate, same⟩ := same
  rw [same]
  intro off
  exact { clks := (idle off).clks, mainlink := (idle off).mainlink }

theorem readSinkCaps_valid (known : linkRateToBwCode 162000 = DP_LINK_BW_1_62) {link : LinkCtrl}
    (caps : SinkCaps)
    (answered : (dpPanelReadSinkCaps linkRateToBwCode link caps).2 ≠ -ETIMEDOUT) :
    IsLinkRateValid
      (linkRateToBwCode (dpPanelReadSinkCaps linkRateToBwCode link caps).1.rate) := by
  unfold dpPanelReadSinkCaps at answered ⊢
  simp only at answered ⊢
  split
  case isTrue refused =>
    rw [if_pos refused] at answered
    split
    case isTrue timedOut =>
      rw [if_pos timedOut] at answered
      exact absurd timedOut answered
    case isFalse _ => exact .inl known
  case isFalse accepted =>
    simp only [not_or, not_not] at accepted
    exact accepted.2.1

theorem linkStep_settled (known : linkRateToBwCode 162000 = DP_LINK_BW_1_62)
    (session : LinkSession) (call : LinkCall) (settled : Settled session) :
    Settled (linkStep linkRateToBwCode session call) := by
  cases call with
  | hpdHigh caps answers =>
    have kept := settled.withLink
      (@readSinkCaps_idle linkRateToBwCode session.link caps settled.idle)
    simp only [linkStep, dpDisplayProcessHpdHigh]
    split
    · exact kept
    case isFalse connected =>
      have valid := readSinkCaps_valid known caps (not_or.mp connected).1
      exact dpCtrlOn_settled kept answers (.inr (.inr valid))
  | prepare answers => exact dpCtrlOn_settled settled answers (.inl rfl)
  | phyTest answers =>
    exact dpCtrlOn_settled (settled.withLink (dpCtrlOff_idle settled.idle))
      { answers with phyTestPattern := true } (.inr (.inl rfl))
  | testLinkRate bwCode =>
    simp only [linkStep]
    split
    · exact settled.withLink fun off =>
        { clks := (settled.idle off).clks, mainlink := (settled.idle off).mainlink }
    · exact settled
  | off => exact settled.withLink (dpCtrlOff_idle settled.idle)
  | powerDeinit => exact settled.withLink (dpPowerDeinit_idle settled.idle)

theorem init_settled (found : List Bool) : Settled (LinkSession.init found) where
  idle _ := { clks := rfl, mainlink := rfl }
  balanced := by simp [LinkSession.init]

/-- Every link setup of every run gives back what it took, or keeps it once. -/
theorem linkSetups_balanced (known : linkRateToBwCode 162000 = DP_LINK_BW_1_62)
    (found : List Bool) (calls : List LinkCall) :
    ∀ setup ∈ (run (linkStep linkRateToBwCode) (LinkSession.init found) calls).setups,
      Balanced setup.entry setup.result :=
  (run_invariant Settled (linkStep_settled known) (init_settled found) calls).balanced

end Session

/-! ### A sink that never trains -/

def kernelLinkRateToBwCode (rate : U32) : U32 := (rate / 27000) &&& 0xFF

def refusing : OnAnswers where
  aborted := false
  phyTestPattern := false
  attempts _ :=
    { setRate := fun _ => 0, enable := fun _ => 0, train := -ETIMEDOUT, aborted := false }

def fastSink : SinkCaps where
  dpcd := .read 810000 true
  laneCountValid := true
  maxBwCode := DP_LINK_BW_8_1
  later := 0

theorem linkSetups_balanced_refusing :
    ∃ setup ∈ (run (linkStep kernelLinkRateToBwCode) (LinkSession.init [true])
        [.hpdHigh fastSink refusing]).setups,
      setup.result.rc ≠ 0 ∧ setup.result.codes.length = 100 ∧
        Balanced setup.entry setup.result := by
  have tried : ∃ setup ∈ (run (linkStep kernelLinkRateToBwCode) (LinkSession.init [true])
      [.hpdHigh fastSink refusing]).setups,
      setup.result.rc ≠ 0 ∧ setup.result.codes.length = 100 := by decide
  obtain ⟨setup, listed, failed, attempts⟩ := tried
  exact ⟨setup, listed, failed, attempts,
    linkSetups_balanced (by decide) [true] [.hpdHigh fastSink refusing] setup listed⟩

end DisplayDrivers.Dp.LinkSetup
