import DisplayDrivers.Rsc.Model

/-! # What the arbitration of the RSC makes of a request

Between the request and the hardware stand two levels of switch functions with overloaded return
codes.
-/

namespace DisplayDrivers.Rsc

open DisplayDrivers.Power

inductive Verdict
  | refused
  | kept
  | updated (target : RscState)
  | awaited (target : RscState)

/-! ## Verdicts -/

def RscPriv.blocksClk (r : RscPriv) : Bool :=
  (r.vidDisplayActive || r.cmdDisplayActive) && (r.version ≠ .rev3 || !r.multiDisplayActive)

def RscPriv.leavesDisplay (r : RscPriv) : Bool :=
  r.currentState = .cmd || (r.version = .rev3 && r.currentState = .vid)

def RscPriv.displayVerdict (r : RscPriv) (target : RscState) (blocked : Bool)
    (caller : Option ClientId) : Verdict :=
  if r.primaryClient = none ∨ caller ≠ r.primaryClient then .refused
  else if r.currentState = target then .kept
  else if blocked then .refused
  else .updated target

def RscPriv.cmdVerdict (r : RscPriv) (caller : Option ClientId) : Verdict :=
  r.displayVerdict .cmd (if r.version = .rev3 then r.multiDisplayActive else r.vidDisplayActive)
    caller

def RscPriv.vidVerdict (r : RscPriv) (caller : Option ClientId) : Verdict :=
  if r.version = .rev3 then r.displayVerdict .vid r.multiDisplayActive caller
  else if r.currentState = .vid then .kept
  else .awaited .vid

def RscPriv.clkVerdict (r : RscPriv) : Verdict :=
  if r.blocksClk then .refused else .awaited .clk

def RscPriv.idleVerdict (r : RscPriv) : Verdict :=
  if r.version = .rev3 then
    if r.vidDisplayActive && !r.multiDisplayActive then r.vidVerdict r.primaryClient
    else if r.cmdDisplayActive && !r.multiDisplayActive then r.cmdVerdict r.primaryClient
    else if r.clkClientActive then r.clkVerdict
    else .updated .idle
  else if r.vidDisplayActive then .refused
  else if r.cmdDisplayActive then r.cmdVerdict r.primaryClient
  else if r.clkClientActive then r.clkVerdict
  else .updated .idle

def RscPriv.verdict (r : RscPriv) (req : Request) : Verdict :=
  match req.state with
  | .idle => r.idleVerdict
  | .cmd => r.cmdVerdict (some req.caller)
  | .vid => r.vidVerdict (some req.caller)
  | .clk => r.clkVerdict

def RscPriv.waitSucceeds (r : RscPriv) (ans : Answers) : Prop :=
  if ans.update = none ∧ r.leavesDisplay ∧ r.primaryClient ≠ none ∨ r.rscVsyncWait = 0 then
    ans.update = none
  else r.rscVsyncWait ≤ ans.resets

instance (r : RscPriv) (ans : Answers) : Decidable (r.waitSucceeds ans) := by
  unfold RscPriv.waitSucceeds
  infer_instance

def Verdict.states (r : RscPriv) (ans : Answers) : Verdict → RscState × RscState
  | .refused => (r.hwState, r.currentState)
  | .kept => (r.hwState, r.currentState)
  | .updated target =>
    if ans.update = none then (target, target) else (r.hwState, r.currentState)
  | .awaited target =>
    (if ans.update = none then target else r.hwState,
      if r.waitSucceeds ans then target else r.currentState)

/-! ## The switch functions follow their verdicts -/

/-- The state of the hardware after a switch, and the one recorded if `target` was asked for. -/
def Switch.states (s : Switch) (r : RscPriv) (target : RscState) : RscState × RscState :=
  (s.hwState, if s.rc = 0 then target else r.currentState)

@[simp] theorem Switch.stay_rc (r : RscPriv) (rc : Int) : (Switch.stay r rc).rc = rc := rfl

@[simp] theorem Switch.stay_hwState (r : RscPriv) (rc : Int) :
    (Switch.stay r rc).hwState = r.hwState := rfl

@[simp] theorem Switch.vsyncWait_rc (s : Switch) (r : RscPriv) (primary : ClientId) (p : Bool) :
    (s.vsyncWait r primary p).rc = s.rc := by
  simp only [Switch.vsyncWait]
  split <;> rfl

@[simp] theorem Switch.vsyncWait_hwState (s : Switch) (r : RscPriv) (primary : ClientId)
    (p : Bool) : (s.vsyncWait r primary p).hwState = s.hwState := by
  simp only [Switch.vsyncWait]
  split <;> rfl

@[simp] theorem hwStateUpdate_rc_eq_zero (r : RscPriv) (target : RscState) (solver : Bool)
    (ans : Answers) : (hwStateUpdate r target solver ans).rc = 0 ↔ ans.update = none := by
  cases update : ans.update <;> simp [hwStateUpdate, update]

@[simp] theorem hwStateUpdate_hwState (r : RscPriv) (target : RscState) (solver : Bool)
    (ans : Answers) : (hwStateUpdate r target solver ans).hwState =
      if ans.update = none then target else r.hwState := by
  cases update : ans.update <;> simp [hwStateUpdate, update]

@[simp] theorem hwStateUpdate_rscVsyncWait (r : RscPriv) (target : RscState) (solver : Bool)
    (ans : Answers) : (hwStateUpdate r target solver ans).rscVsyncWait = r.rscVsyncWait := by
  cases update : ans.update <;> simp [hwStateUpdate, update, Switch.stay]

variable (r : RscPriv) (hasPointer : Bool) (ans : Answers)

variable (target : RscState)

theorem hwStateUpdate_rc_le_zero (solver : Bool) : (hwStateUpdate r target solver ans).rc ≤ 0 := by
  cases update : ans.update with
  | none => simp [hwStateUpdate, update]
  | some code => simpa [hwStateUpdate, update] using Int.le_of_lt (Int.negSucc_lt_zero code)

theorem switchToDisplay_states (solver blocked config : Bool) (caller : Option ClientId) :
    (switchToDisplay target solver blocked r config caller hasPointer ans).states r target =
      (r.displayVerdict target blocked caller).states r ans := by
  cases primary : r.primaryClient with
  | none =>
    simp [switchToDisplay, primary, RscPriv.displayVerdict, Switch.states, Verdict.states, EINVAL]
  | some p =>
    by_cases isPrimary : caller = some p
    · by_cases same : r.currentState = target
      · cases config <;> simp [switchToDisplay, primary, isPrimary, same, RscPriv.displayVerdict,
          Switch.states, Verdict.states]
      · cases blocked with
        | true =>
          simp [switchToDisplay, primary, isPrimary, same, RscPriv.displayVerdict, Switch.states,
            Verdict.states, STATE_UPDATE_NOT_ALLOWED]
        | false =>
          by_cases ok : ans.update = none <;>
            simp [switchToDisplay, primary, isPrimary, same, RscPriv.displayVerdict,
              Switch.states, Verdict.states, ok]
    · simp [switchToDisplay, primary, isPrimary, RscPriv.displayVerdict, Switch.states,
        Verdict.states, EINVAL]

theorem awaitVsync_hwState (s : Switch) (leaving : Bool) :
    (s.awaitVsync r leaving hasPointer ans).hwState = s.hwState := by
  simp only [Switch.awaitVsync]
  split <;> split <;> rfl

theorem awaitVsync_rc_eq_zero :
    ((hwStateUpdate r target false ans).awaitVsync r r.leavesDisplay hasPointer ans).rc = 0 ↔
      r.waitSucceeds ans := by
  cases primary : r.primaryClient with
  | none =>
    by_cases waits : r.rscVsyncWait = 0
    · simp [Switch.awaitVsync, RscPriv.waitSucceeds, primary, waits]
    · simp [Switch.awaitVsync, RscPriv.waitSucceeds, primary, waits, ETIMEDOUT]
      omega
  | some p =>
    by_cases armed : ans.update = none ∧ r.leavesDisplay = true
    · cases hasPointer <;>
        simp [Switch.awaitVsync, RscPriv.waitSucceeds, primary, armed]
    · by_cases waits : r.rscVsyncWait = 0
      · simp [Switch.awaitVsync, RscPriv.waitSucceeds, primary, armed, waits]
      · simp [Switch.awaitVsync, RscPriv.waitSucceeds, primary, armed, waits, ETIMEDOUT]
        omega

theorem awaitVsync_states :
    ((hwStateUpdate r target false ans).awaitVsync r r.leavesDisplay hasPointer ans).states r
      target = (Verdict.awaited target).states r ans := by
  simp [Switch.states, Verdict.states, awaitVsync_hwState, awaitVsync_rc_eq_zero]

/-! The switches to one state. -/

theorem switchToCmd_states (config : Bool) (caller : ClientId) :
    (switchToCmd r config caller hasPointer ans).states r .cmd =
      (r.cmdVerdict (some caller)).states r ans := by
  by_cases rev : r.version = .rev3
  · simp [switchToCmd, RscPriv.cmdVerdict, rev, sdeRscSwitchToCmdV3, switchToDisplay_states]
  · simp [switchToCmd, RscPriv.cmdVerdict, rev, sdeRscSwitchToCmdV2, switchToDisplay_states]

theorem sdeRscSwitchToVidV2_states (rev : r.version ≠ .rev3) (caller : Option ClientId) :
    (sdeRscSwitchToVidV2 r hasPointer ans).states r .vid = (r.vidVerdict caller).states r ans := by
  by_cases same : r.currentState = .vid
  · simp [sdeRscSwitchToVidV2, RscPriv.vidVerdict, rev, same, Switch.states, Verdict.states]
  · have leaving : (decide (r.currentState = .cmd)) = r.leavesDisplay := by
      simp [RscPriv.leavesDisplay, rev]
    rw [sdeRscSwitchToVidV2, if_neg same, leaving, awaitVsync_states]
    simp [RscPriv.vidVerdict, rev, same]

theorem switchToVid_states (config : Bool) (caller : ClientId) :
    (switchToVid r config caller hasPointer ans).states r .vid =
      (r.vidVerdict (some caller)).states r ans := by
  by_cases rev : r.version = .rev3
  · simp [switchToVid, RscPriv.vidVerdict, rev, sdeRscSwitchToVidV3, switchToDisplay_states]
  · rw [switchToVid, if_neg rev]
    exact sdeRscSwitchToVidV2_states r hasPointer ans rev (some caller)

theorem switchToClk_states :
    (switchToClk r hasPointer ans).states r .clk = r.clkVerdict.states r ans := by
  -- the revisions differ in what blocks the switch and in which states are left
  have common : (if r.blocksClk then Switch.stay r STATE_UPDATE_NOT_ALLOWED
      else (hwStateUpdate r .clk false ans).awaitVsync r r.leavesDisplay hasPointer ans).states r
        .clk =
      r.clkVerdict.states r ans := by
    cases blocked : r.blocksClk with
    | true =>
      simp [RscPriv.clkVerdict, blocked, Switch.states, Verdict.states, STATE_UPDATE_NOT_ALLOWED]
    | false => simp [RscPriv.clkVerdict, blocked, awaitVsync_states]
  rw [← common]
  by_cases rev : r.version = .rev3
  · simp [switchToClk, sdeRscSwitchToClkV3, rev, RscPriv.blocksClk, RscPriv.leavesDisplay,
      Bool.and_comm]
  · simp [switchToClk, sdeRscSwitchToClkV2, rev, RscPriv.blocksClk, RscPriv.leavesDisplay]

/-! ## The switch to idle

It reports the state it ended in through its return code, so the codes of the switches it calls
must stay below the ones it adds. -/

def Switch.Plain (s : Switch) : Prop := s.rc < CLK_MODE_SWITCH_SUCCESS

variable {s : Switch}

theorem Switch.Plain.rc_ne (plain : s.Plain) :
    s.rc ≠ CMD_MODE_SWITCH_SUCCESS ∧ s.rc ≠ VID_MODE_SWITCH_SUCCESS ∧
      s.rc ≠ CLK_MODE_SWITCH_SUCCESS := by
  simp only [Switch.Plain, CMD_MODE_SWITCH_SUCCESS, VID_MODE_SWITCH_SUCCESS,
    CLK_MODE_SWITCH_SUCCESS] at plain ⊢
  omega

theorem Switch.plain_of_le_zero (h : s.rc ≤ 0) : s.Plain := by
  simp only [Switch.Plain, CLK_MODE_SWITCH_SUCCESS]
  omega

theorem Switch.stay_notAllowed_plain : (Switch.stay r STATE_UPDATE_NOT_ALLOWED).Plain := by
  simp [Switch.Plain, STATE_UPDATE_NOT_ALLOWED, CLK_MODE_SWITCH_SUCCESS]

theorem switchToDisplay_plain (solver blocked config : Bool) (caller : Option ClientId) :
    (switchToDisplay target solver blocked r config caller hasPointer ans).Plain := by
  have invalid : (Switch.stay r (-EINVAL)).Plain := Switch.plain_of_le_zero (by simp [EINVAL])
  have zero : (Switch.stay r 0).Plain := Switch.plain_of_le_zero (by simp)
  cases primary : r.primaryClient with
  | none => simpa [switchToDisplay, primary] using invalid
  | some p =>
    simp only [switchToDisplay, primary]
    split
    · exact invalid
    · split
      · split
        · simpa [Switch.Plain] using zero
        · exact zero
      · split
        · exact Switch.stay_notAllowed_plain r
        · apply Switch.plain_of_le_zero
          simpa using hwStateUpdate_rc_le_zero r ans target solver

theorem awaitVsync_plain (solver leaving : Bool) :
    ((hwStateUpdate r target solver ans).awaitVsync r leaving hasPointer ans).Plain := by
  have updated := hwStateUpdate_rc_le_zero r ans target solver
  apply Switch.plain_of_le_zero
  simp only [Switch.awaitVsync]
  split
  · split <;> exact updated
  · split
    · show (if _ then (0 : Int) else -ETIMEDOUT) ≤ 0
      split <;> simp [ETIMEDOUT]
    · exact updated

theorem switchToClk_plain : (switchToClk r hasPointer ans).Plain := by
  simp only [switchToClk, sdeRscSwitchToClkV3, sdeRscSwitchToClkV2]
  split <;> split <;> first | exact Switch.stay_notAllowed_plain r | exact awaitVsync_plain ..

theorem modeSwitch_states (code : Int) (target : RscState) (plain : s.Plain)
    (reports : (code, target) ∈ [(CMD_MODE_SWITCH_SUCCESS, RscState.cmd),
      (VID_MODE_SWITCH_SUCCESS, .vid), (CLK_MODE_SWITCH_SUCCESS, .clk)]) :
    (s.succeedWith code).modeSwitch.1.states r (s.succeedWith code).modeSwitch.2 =
      s.states r target := by
  by_cases zero : s.rc = 0
  · simp only [List.mem_cons, Prod.mk.injEq, List.not_mem_nil, or_false] at reports
    obtain ⟨rfl, rfl⟩ | ⟨rfl, rfl⟩ | ⟨rfl, rfl⟩ := reports <;>
      simp [Switch.succeedWith, Switch.modeSwitch, Switch.states, zero, CMD_MODE_SWITCH_SUCCESS,
        VID_MODE_SWITCH_SUCCESS, CLK_MODE_SWITCH_SUCCESS]
  · obtain ⟨notCmd, notVid, notClk⟩ := plain.rc_ne
    simp [Switch.succeedWith, Switch.modeSwitch, Switch.states, zero, notCmd, notVid, notClk]

theorem modeSwitch_states_idle (plain : s.Plain) :
    s.modeSwitch.1.states r s.modeSwitch.2 = s.states r .idle := by
  obtain ⟨notCmd, notVid, notClk⟩ := plain.rc_ne
  simp [Switch.modeSwitch, Switch.states, notCmd, notVid, notClk]

theorem switchToIdle_states :
    (switchToIdle r hasPointer ans).modeSwitch.1.states r
        (switchToIdle r hasPointer ans).modeSwitch.2 = r.idleVerdict.states r ans := by
  have idle : (hwStateUpdate r .idle true ans).states r .idle =
      (Verdict.updated .idle).states r ans := by
    by_cases ok : ans.update = none <;> simp [Switch.states, Verdict.states, ok]
  have idlePlain : (hwStateUpdate r .idle true ans).Plain :=
    Switch.plain_of_le_zero (hwStateUpdate_rc_le_zero r ans .idle true)
  have clk := switchToClk_states r hasPointer ans
  have clkPlain := switchToClk_plain r hasPointer ans
  by_cases rev : r.version = .rev3
  · simp only [switchToIdle, switchToClk, rev, if_true, sdeRscSwitchToIdleV3,
      RscPriv.idleVerdict] at clk clkPlain ⊢
    split
    · apply (modeSwitch_states r VID_MODE_SWITCH_SUCCESS .vid (switchToDisplay_plain ..)
        (by simp)).trans
      simp [switchToDisplay_states, RscPriv.vidVerdict, rev]
    · split
      · apply (modeSwitch_states r CMD_MODE_SWITCH_SUCCESS .cmd (switchToDisplay_plain ..)
          (by simp)).trans
        simp [switchToDisplay_states, RscPriv.cmdVerdict, rev]
      · split
        · exact (modeSwitch_states r _ .clk clkPlain (by simp)).trans clk
        · rw [modeSwitch_states_idle r idlePlain, idle]
  · simp only [switchToIdle, switchToClk, rev, if_false, sdeRscSwitchToIdleV2,
      RscPriv.idleVerdict] at clk clkPlain ⊢
    split
    · rw [modeSwitch_states_idle r (Switch.stay_notAllowed_plain r)]
      simp [Switch.states, Verdict.states, STATE_UPDATE_NOT_ALLOWED]
    · split
      · apply (modeSwitch_states r CMD_MODE_SWITCH_SUCCESS .cmd (switchToDisplay_plain ..)
          (by simp)).trans
        simp [switchToDisplay_states, RscPriv.cmdVerdict, rev]
      · split
        · exact (modeSwitch_states r _ .clk clkPlain (by simp)).trans clk
        · rw [modeSwitch_states_idle r idlePlain, idle]

theorem switchState_states (req : Request) :
    (switchState r req ans).1.states r (switchState r req ans).2 =
      (r.verdict req).states r ans := by
  cases state : req.state with
  | idle => simpa [switchState, RscPriv.verdict, state] using switchToIdle_states r _ ans
  | cmd => simpa [switchState, RscPriv.verdict, state] using switchToCmd_states r _ ans _ _
  | vid => simpa [switchState, RscPriv.verdict, state] using switchToVid_states r _ ans _ _
  | clk => simpa [switchState, RscPriv.verdict, state] using switchToClk_states r _ ans

/-! ## A whole request -/

/-- The request gets past the early exits of `sde_rsc_client_state_update`. -/
def RscPriv.serves (r : RscPriv) (req : Request) : Prop :=
  r.masterDrm = true ∧ ¬ (r.currentState = req.state ∧ req.config = false)

instance (r : RscPriv) (req : Request) : Decidable (r.serves req) := by
  unfold RscPriv.serves
  infer_instance

section Record

variable (r : RscPriv) (req : Request)

@[simp] theorem RscPriv.record_version : (r.record req).version = r.version := rfl

@[simp] theorem RscPriv.record_clientList : (r.record req).clientList = r.clientList := rfl

@[simp] theorem RscPriv.record_primaryClient :
    (r.record req).primaryClient = r.primaryClient := rfl

@[simp] theorem RscPriv.record_currentState : (r.record req).currentState = r.currentState := rfl

@[simp] theorem RscPriv.record_masterDrm : (r.record req).masterDrm = r.masterDrm := rfl

@[simp] theorem RscPriv.record_rscVsyncWait : (r.record req).rscVsyncWait = r.rscVsyncWait := rfl

@[simp] theorem RscPriv.record_hwState : (r.record req).hwState = r.hwState := rfl

end Record

/-! What touches the power resources only. -/

theorem sdeRscHwInit_eq (r : RscPriv) (ans : InitAnswers) :
    ∃ phandle swFsEnabled, (sdeRscHwInit r ans).1 =
      { r with phandle := phandle, swFsEnabled := swFsEnabled } := by
  simp only [sdeRscHwInit]
  split
  · exact ⟨r.phandle, r.swFsEnabled, rfl⟩
  · split
    · exact ⟨_, true, rfl⟩
    · split <;> exact ⟨_, true, rfl⟩

theorem RscPriv.wake_eq (r : RscPriv) (state : RscState) (ans : Answers) :
    ∃ phandle swFsEnabled needHwinit, r.wake state ans =
      { r with phandle := phandle, swFsEnabled := swFsEnabled, needHwinit := needHwinit } := by
  obtain ⟨phandle, swFs, init⟩ := sdeRscHwInit_eq r ans.init
  simp only [RscPriv.wake, init]
  split <;> split <;> exact ⟨_, _, _, rfl⟩

theorem triggerVote_eq (r : RscPriv) (deltaVote : Bool) (ans : VoteAnswers) :
    ∃ phandle bwConfig bwIndication, (sdeRscClientTriggerVote r deltaVote ans).1 =
      { r with phandle := phandle, bwConfig := bwConfig, bwIndication := bwIndication } := by
  simp only [sdeRscClientTriggerVote]
  split
  · exact ⟨_, _, _, rfl⟩
  · split
    · exact ⟨_, _, _, rfl⟩
    · split <;> split <;> exact ⟨_, _, _, rfl⟩

theorem start_eq (version : Revision) (buses : BusId → DataBusHandle) (rscVsyncWait : Nat) :
    (RscPriv.start version buses rscVsyncWait).clientList = [] ∧
      (RscPriv.start version buses rscVsyncWait).primaryClient = none ∧
      (RscPriv.start version buses rscVsyncWait).currentState = .idle ∧
      (RscPriv.start version buses rscVsyncWait).hwState = .idle := by
  simp only [RscPriv.start, sdeRscProbe]
  generalize probed : sdeRscHwInit _ _ = init
  obtain ⟨phandle, swFs, eq⟩ := sdeRscHwInit_eq _ _
  rw [probed] at eq
  simp [eq]

theorem RscPriv.settle_states (r : RscPriv) (s : Switch) (target : RscState) (ans : Answers) :
    ((r.settle s target ans).hwState, (r.settle s target ans).currentState) =
      s.states r target := by
  simp only [RscPriv.settle, Switch.states]
  split_ifs <;> rfl

theorem stateUpdate_of_not_serves {r : RscPriv} {req : Request} (served : ¬ r.serves req)
    (ans : Answers) : (sdeRscClientStateUpdate r req ans).1 = r.record req := by
  simp only [sdeRscClientStateUpdate]
  split
  · rfl
  · split
    · rfl
    · next bound changes =>
      exact absurd ⟨by simpa using bound, by simpa using changes⟩ served

theorem stateUpdate_of_serves {r : RscPriv} {req : Request} (served : r.serves req)
    (ans : Answers) :
    (sdeRscClientStateUpdate r req ans).1 =
      let woken := (r.record req).wake req.state ans
      woken.settle (switchState woken req ans).1 (switchState woken req ans).2 ans := by
  have bound : r.masterDrm = true := served.1
  have changes : ¬ (r.currentState = req.state ∧ req.config = false) := served.2
  simp [sdeRscClientStateUpdate, bound, changes]

theorem states_after_request (r : RscPriv) (req : Request) (ans : Answers) :
    ((sdeRscClientStateUpdate r req ans).1.hwState,
        (sdeRscClientStateUpdate r req ans).1.currentState) =
      if r.serves req then ((r.record req).verdict req).states (r.record req) ans
      else (r.hwState, r.currentState) := by
  by_cases served : r.serves req
  · obtain ⟨phandle, swFs, needHwinit, woken⟩ := (r.record req).wake_eq req.state ans
    rw [if_pos served, stateUpdate_of_serves served]
    simp only []
    rw [RscPriv.settle_states, switchState_states, woken]
    -- the arbitration does not look at the power resources
    rfl
  · rw [if_neg served, stateUpdate_of_not_serves served]
    rfl

theorem RscPriv.settle_clients (r : RscPriv) (s : Switch) (target : RscState) (ans : Answers) :
    (r.settle s target ans).clientList = r.clientList ∧
      (r.settle s target ans).client = r.client := by
  simp only [RscPriv.settle]
  split_ifs <;> exact ⟨rfl, rfl⟩

theorem clients_after_request (r : RscPriv) (req : Request) (ans : Answers) :
    (sdeRscClientStateUpdate r req ans).1.clientList = r.clientList ∧
      (sdeRscClientStateUpdate r req ans).1.client = (r.record req).client := by
  by_cases served : r.serves req
  · obtain ⟨phandle, swFs, needHwinit, woken⟩ := (r.record req).wake_eq req.state ans
    have kept := ((r.record req).wake req.state ans).settle_clients
      (switchState ((r.record req).wake req.state ans) req ans).1
      (switchState ((r.record req).wake req.state ans) req ans).2 ans
    rw [stateUpdate_of_serves served]
    refine ⟨kept.1.trans ?_, kept.2.trans ?_⟩ <;> rw [woken]
    rfl
  · rw [stateUpdate_of_not_serves served]
    exact ⟨rfl, rfl⟩

end DisplayDrivers.Rsc
