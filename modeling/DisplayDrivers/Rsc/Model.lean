import DisplayDrivers.Power.Handle

/-! # The display RSC (`msm/sde_rsc.c`)

Each client of the RSC asks for a state; the driver arbitrates between them and asks the hardware
for one. `hwState` is the last state for which `hw_ops.state_update` returned success.
-/

namespace DisplayDrivers.Rsc

open DisplayDrivers.Power

def ETIMEDOUT : Int := 110
def CMD_MODE_SWITCH_SUCCESS : Int := 0xFFFF
def VID_MODE_SWITCH_SUCCESS : Int := 0xFFFE
def CLK_MODE_SWITCH_SUCCESS : Int := 0xFFFD
def STATE_UPDATE_NOT_ALLOWED : Int := 0xFFFC

/-- `enum sde_rsc_state`. -/
inductive RscState
  | idle
  | cmd
  | vid
  | clk
deriving DecidableEq

/-- `enum sde_rsc_client_type`. -/
inductive ClientType
  | primaryDisp
  | externalDisp
  | clk
deriving DecidableEq

/-- `SDE_RSC_REV_*`. -/
inductive Revision
  | rev1
  | rev2
  | rev3
deriving DecidableEq

/-- `struct sde_rsc_client`. -/
structure RscClient where
  currentState : RscState
  clientType : ClientType
  crtcId : Int

/-- `struct sde_rsc_bw_config`. -/
structure BwConfig where
  abVote : BusId → U64
  ibVote : BusId → U64
  newAbVote : BusId → U64
  newIbVote : BusId → U64

/-- `struct sde_rsc_priv`.  Its power handle has one client. -/
structure RscPriv where
  version : Revision
  phandle : PowerHandle
  swFsEnabled : Bool
  needHwinit : Bool
  clientList : List ClientId
  client : ClientId → RscClient
  nextId : Nat
  primaryClient : Option ClientId
  currentState : RscState
  masterDrm : Bool
  rscVsyncWait : Nat
  bwConfig : BwConfig
  hwState : RscState
  solverMode : Bool
  bwIndication : Bool

def pclient : ClientId := 0

/-! ## Clocks and hardware initialisation -/

/-- Return codes of `msm_dss_enable_vreg` and `msm_dss_enable_clk`. -/
structure ClkAnswers where
  vreg : Int
  clk : Int

/-- `sde_rsc_clk_enable`: it counts like `sde_power_resource_enable`. -/
def sdeRscClkEnable (h : PowerHandle) (enable : Bool) (ans : ClkAnswers) : PowerHandle × Int :=
  let p := (h.client pclient).count enable
  let h := h.setClient pclient p
  let usecaseNdx := p.usecaseNdx.signExtend 32
  if h.currentUsecaseNdx = usecaseNdx then (h, 0)
  else if enable then
    if ans.vreg ≠ 0 then (h, ans.vreg)
    else if ans.clk ≠ 0 then ((h.enableVreg true).enableVreg false, ans.clk)
    else (((h.enableVreg true).enableClk true).setCurrent usecaseNdx, 0)
  else if ans.vreg ≠ 0 then (h.enableClk false, ans.vreg)
  else (((h.enableClk false).enableVreg false).setCurrent usecaseNdx, 0)

/-- The steps of `rsc_hw_init` and of `rsc_hw_init_v3`: queue timer, wrapper, sequencer memory,
    solver and PDC.  Each writes registers and returns 0. -/
def hwInitSteps : Revision → List Int
  | .rev1 | .rev2 | .rev3 => [0, 0, 0, 0, 0]

/-- `hw_ops.init`: the first failure ends it. -/
def rscHwInit (version : Revision) : Int := ((hwInitSteps version).find? (· ≠ 0)).getD 0

structure InitAnswers where
  regulator : Int
  clkOn : ClkAnswers
  clkOff : ClkAnswers

/-- `sde_rsc_hw_init`; with no command configuration, `sde_rsc_timer_calculate` returns what
    `hw_ops.init` does. -/
def sdeRscHwInit (r : RscPriv) (ans : InitAnswers) : RscPriv × Int :=
  if ans.regulator ≠ 0 then (r, ans.regulator)
  else
    let on := sdeRscClkEnable r.phandle true ans.clkOn
    let r := { r with swFsEnabled := true, phandle := on.1 }
    if on.2 ≠ 0 then (r, on.2)
    else if rscHwInit r.version ≠ 0 then (r, rscHwInit r.version)
    else ({ r with phandle := (sdeRscClkEnable r.phandle false ans.clkOff).1 }, 0)

/-- The RSC after a successful `sde_rsc_probe`: no client, idle, the data buses enabled and the
    clocks off again. -/
def sdeRscProbe (version : Revision) (buses : BusId → DataBusHandle) : RscPriv :=
  let h := sdePowerDataBusStateUpdate (sdePowerClientCreate (sdePowerResourceInit 0 buses)) true
  let zero : BusId → U64 := fun _ => 0
  (sdeRscHwInit
    { version := version, phandle := h, swFsEnabled := false, needHwinit := false,
      clientList := [], client := fun _ => ⟨.idle, .clk, 0⟩, nextId := 0, primaryClient := none,
      currentState := .idle, masterDrm := false, rscVsyncWait := 0,
      bwConfig := { abVote := zero, ibVote := zero, newAbVote := zero, newIbVote := zero },
      hwState := .idle, solverMode := false, bwIndication := false }
    ⟨0, ⟨0, 0⟩, ⟨0, 0⟩⟩).1

/-! ## Clients -/

def sdeRscClientCreate (r : RscPriv) (clientType : ClientType) : RscPriv :=
  { r with
    clientList := r.nextId :: r.clientList
    client := Function.update r.client r.nextId ⟨.idle, clientType, 0⟩
    nextId := r.nextId + 1
    primaryClient := if clientType = .primaryDisp then some r.nextId else r.primaryClient }

def RscPriv.anyClient (r : RscPriv) (p : RscClient → Bool) : Bool :=
  r.clientList.any fun c => p (r.client c)

def RscPriv.multiDisplayActive (r : RscPriv) : Bool :=
  r.anyClient fun c => c.currentState = .clk && c.clientType = .externalDisp

def RscPriv.clkClientActive (r : RscPriv) : Bool :=
  r.anyClient fun c => c.currentState = .clk && c.clientType = .clk

def RscPriv.vidDisplayActive (r : RscPriv) : Bool := r.anyClient fun c => c.currentState = .vid

def RscPriv.cmdDisplayActive (r : RscPriv) : Bool := r.anyClient fun c => c.currentState = .cmd

/-! ## State switches -/

/-- Answers during a call of `sde_rsc_client_state_update`.  `update` is what
    `hw_ops.state_update` returns, an error `-(n + 1)` or 0; `resets` counts the resets of the
    vsync refcount during the wait. -/
structure Answers where
  init : InitAnswers
  clkOn : ClkAnswers
  clkOff : ClkAnswers
  update : Option Nat
  resets : Nat

structure Switch where
  rc : Int
  hwState : RscState
  solverMode : Bool
  rscVsyncWait : Nat
  waitVblank : Option Int

def Switch.stay (r : RscPriv) (rc : Int) : Switch :=
  { rc := rc, hwState := r.hwState, solverMode := r.solverMode, rscVsyncWait := r.rscVsyncWait,
    waitVblank := none }

def hwStateUpdate (r : RscPriv) (target : RscState) (solver : Bool) (ans : Answers) : Switch :=
  match ans.update with
  | none => { Switch.stay r 0 with hwState := target, solverMode := solver }
  | some code => Switch.stay r (Int.negSucc code)

/-- The label `vsync_wait`. -/
def Switch.vsyncWait (s : Switch) (r : RscPriv) (primary : ClientId) (hasPointer : Bool) : Switch :=
  if s.rc = 0 ∧ (r.currentState = .vid ∨ r.currentState = .cmd) ∧ hasPointer then
    { s with waitVblank := some (r.client primary).crtcId }
  else s

/-- The body of `sde_rsc_switch_to_cmd_v3`, `sde_rsc_switch_to_cmd_v2` and
    `sde_rsc_switch_to_vid_v3`. -/
def switchToDisplay (target : RscState) (solver blocked : Bool) (r : RscPriv) (config : Bool)
    (caller : Option ClientId) (hasPointer : Bool) (ans : Answers) : Switch :=
  match r.primaryClient with
  | none => .stay r (-EINVAL)
  | some primary =>
    if caller ≠ some primary then .stay r (-EINVAL)
    else if r.currentState = target then
      if config then (Switch.stay r 0).vsyncWait r primary hasPointer else .stay r 0
    else if blocked then .stay r STATE_UPDATE_NOT_ALLOWED
    else (hwStateUpdate r target solver ans).vsyncWait r primary hasPointer

def sdeRscSwitchToCmdV3 (r : RscPriv) : Bool → Option ClientId → Bool → Answers → Switch :=
  switchToDisplay .cmd true r.multiDisplayActive r

def sdeRscSwitchToCmdV2 (r : RscPriv) : Bool → Option ClientId → Bool → Answers → Switch :=
  switchToDisplay .cmd true r.vidDisplayActive r

def sdeRscSwitchToVidV3 (r : RscPriv) : Bool → Option ClientId → Bool → Answers → Switch :=
  switchToDisplay .vid (r.version = .rev3) r.multiDisplayActive r

/-- The end of `sde_rsc_switch_to_clk_v3`, `sde_rsc_switch_to_clk_v2` and
    `sde_rsc_switch_to_vid_v2`: `leaving` tells whether the RSC leaves a state that needs a
    vsync.  A wait writes its own return code over the one of the update. -/
def Switch.awaitVsync (s : Switch) (r : RscPriv) (leaving hasPointer : Bool) (ans : Answers) :
    Switch :=
  match if s.rc = 0 ∧ leaving then r.primaryClient else none with
  | some primary =>
    if hasPointer then
      { s with
        waitVblank := some (r.client primary).crtcId
        rscVsyncWait := s.rscVsyncWait + 1 }
    else s
  | none =>
    if s.rscVsyncWait ≠ 0 then
      let left := s.rscVsyncWait - ans.resets
      { s with rscVsyncWait := left, rc := if left = 0 then 0 else -ETIMEDOUT }
    else s

def sdeRscSwitchToClkV3 (r : RscPriv) (hasPointer : Bool) (ans : Answers) : Switch :=
  if !r.multiDisplayActive && (r.vidDisplayActive || r.cmdDisplayActive) then
    .stay r STATE_UPDATE_NOT_ALLOWED
  else
    (hwStateUpdate r .clk false ans).awaitVsync r
      (r.currentState = .cmd || r.currentState = .vid) hasPointer ans

def sdeRscSwitchToClkV2 (r : RscPriv) (hasPointer : Bool) (ans : Answers) : Switch :=
  if r.vidDisplayActive || r.cmdDisplayActive then .stay r STATE_UPDATE_NOT_ALLOWED
  else (hwStateUpdate r .clk false ans).awaitVsync r (r.currentState = .cmd) hasPointer ans

/-- `sde_rsc_switch_to_vid_v2`: any client may ask. -/
def sdeRscSwitchToVidV2 (r : RscPriv) (hasPointer : Bool) (ans : Answers) : Switch :=
  if r.currentState = .vid then .stay r 0
  else (hwStateUpdate r .vid false ans).awaitVsync r (r.currentState = .cmd) hasPointer ans

def Switch.succeedWith (s : Switch) (code : Int) : Switch :=
  if s.rc = 0 then { s with rc := code } else s

def sdeRscSwitchToIdleV3 (r : RscPriv) (hasPointer : Bool) (ans : Answers) : Switch :=
  if r.vidDisplayActive && !r.multiDisplayActive then
    (sdeRscSwitchToVidV3 r false r.primaryClient hasPointer ans).succeedWith
      VID_MODE_SWITCH_SUCCESS
  else if r.cmdDisplayActive && !r.multiDisplayActive then
    (sdeRscSwitchToCmdV3 r false r.primaryClient hasPointer ans).succeedWith
      CMD_MODE_SWITCH_SUCCESS
  else if r.clkClientActive then
    (sdeRscSwitchToClkV3 r hasPointer ans).succeedWith CLK_MODE_SWITCH_SUCCESS
  else hwStateUpdate r .idle true ans

def sdeRscSwitchToIdleV2 (r : RscPriv) (hasPointer : Bool) (ans : Answers) : Switch :=
  if r.vidDisplayActive then .stay r STATE_UPDATE_NOT_ALLOWED
  else if r.cmdDisplayActive then
    (sdeRscSwitchToCmdV2 r false r.primaryClient hasPointer ans).succeedWith
      CMD_MODE_SWITCH_SUCCESS
  else if r.clkClientActive then
    (sdeRscSwitchToClkV2 r hasPointer ans).succeedWith CLK_MODE_SWITCH_SUCCESS
  else hwStateUpdate r .idle true ans

/-- `rsc->state_ops.switch_to_idle`; `sde_rsc_probe` installs the v3 operations for revision 3. -/
def switchToIdle (r : RscPriv) (hasPointer : Bool) (ans : Answers) : Switch :=
  if r.version = .rev3 then sdeRscSwitchToIdleV3 r hasPointer ans
  else sdeRscSwitchToIdleV2 r hasPointer ans

def switchToCmd (r : RscPriv) (config : Bool) (caller : ClientId) (hasPointer : Bool)
    (ans : Answers) : Switch :=
  if r.version = .rev3 then sdeRscSwitchToCmdV3 r config (some caller) hasPointer ans
  else sdeRscSwitchToCmdV2 r config (some caller) hasPointer ans

def switchToVid (r : RscPriv) (config : Bool) (caller : ClientId) (hasPointer : Bool)
    (ans : Answers) : Switch :=
  if r.version = .rev3 then sdeRscSwitchToVidV3 r config (some caller) hasPointer ans
  else sdeRscSwitchToVidV2 r hasPointer ans

def switchToClk (r : RscPriv) (hasPointer : Bool) (ans : Answers) : Switch :=
  if r.version = .rev3 then sdeRscSwitchToClkV3 r hasPointer ans
  else sdeRscSwitchToClkV2 r hasPointer ans

/-- A request to `sde_rsc_client_state_update`. -/
structure Request where
  caller : ClientId
  state : RscState
  config : Bool
  crtcId : Int
  hasPointer : Bool

/-- `if (rc == CMD_MODE_SWITCH_SUCCESS) { state = SDE_RSC_CMD_STATE; rc = 0; } else if ...` -/
def Switch.modeSwitch (s : Switch) : Switch × RscState :=
  if s.rc = CMD_MODE_SWITCH_SUCCESS then ({ s with rc := 0 }, .cmd)
  else if s.rc = VID_MODE_SWITCH_SUCCESS then ({ s with rc := 0 }, .vid)
  else if s.rc = CLK_MODE_SWITCH_SUCCESS then ({ s with rc := 0 }, .clk)
  else (s, .idle)

/-- The `switch (state)` of `sde_rsc_client_state_update`, with the state it ends in. -/
def switchState (r : RscPriv) (req : Request) (ans : Answers) : Switch × RscState :=
  match req.state with
  | .idle => (switchToIdle r req.hasPointer ans).modeSwitch
  | .cmd => (switchToCmd r req.config req.caller req.hasPointer ans, .cmd)
  | .vid => (switchToVid r req.config req.caller req.hasPointer ans, .vid)
  | .clk => (switchToClk r req.hasPointer ans, .clk)

def RscPriv.record (r : RscPriv) (req : Request) : RscPriv :=
  { r with
    client := Function.update r.client req.caller
      { r.client req.caller with crtcId := req.crtcId, currentState := req.state } }

def RscPriv.wake (r : RscPriv) (state : RscState) (ans : Answers) : RscPriv :=
  let r :=
    if r.needHwinit ∧ state ≠ .idle then
      { (sdeRscHwInit r ans.init).1 with needHwinit := false }
    else r
  if r.currentState = .idle then
    { r with phandle := (sdeRscClkEnable r.phandle true ans.clkOn).1 }
  else r

/-- The state that a switch leaves behind, and the label `clk_disable`. -/
def RscPriv.settle (r : RscPriv) (s : Switch) (state : RscState) (ans : Answers) : RscPriv :=
  let r :=
    { r with
      hwState := s.hwState
      solverMode := s.solverMode
      rscVsyncWait := s.rscVsyncWait
      currentState := if s.rc = 0 then state else r.currentState }
  if r.currentState = .idle then
    { r with phandle := (sdeRscClkEnable r.phandle false ans.clkOff).1 }
  else r

/-- `sde_rsc_client_state_update`: the RSC, the return code and `*wait_vblank_crtc_id`. -/
def sdeRscClientStateUpdate (r : RscPriv) (req : Request) (ans : Answers) :
    RscPriv × Int × Option Int :=
  let r := r.record req
  if !r.masterDrm then (r, -EINVAL, none)
  else if r.currentState = req.state ∧ !req.config then (r, 0, none)
  else
    let r := r.wake req.state ans
    let done := switchState r req ans
    (r.settle done.1 done.2 ans,
      if done.1.rc = STATE_UPDATE_NOT_ALLOWED then 0 else done.1.rc, done.1.waitVblank)

/-! ## Bandwidth votes -/

def sdeRscClientVote (r : RscPriv) (b : BusId) (ab ib : U64) : RscPriv :=
  { r with
    bwConfig := { r.bwConfig with
      newAbVote := Function.update r.bwConfig.newAbVote b ab
      newIbVote := Function.update r.bwConfig.newIbVote b ib } }

/-- Answers during a call of `sde_rsc_client_trigger_vote`. -/
structure VoteAnswers where
  clkOn : ClkAnswers
  clkOff : ClkAnswers
  tcsWait : Int
  dataBus : BusId → Int

def voteBuses (h : PowerHandle) (bw : BwConfig) (answer : BusId → Int) : PowerHandle :=
  BusId.all.foldl
    (fun h b =>
      (sdePowerDataBusSetQuota h pclient .rt b (bw.abVote b) (bw.ibVote b) (answer b)).1) h

def sdeRscClientTriggerVote (r : RscPriv) (deltaVote : Bool) (ans : VoteAnswers) : RscPriv × Int :=
  let bw := r.bwConfig
  let bwIncrease := deltaVote && BusId.all.any fun b =>
    bw.abVote b < bw.newAbVote b || bw.ibVote b < bw.newIbVote b
  let bw := if deltaVote then { bw with abVote := bw.newAbVote, ibVote := bw.newIbVote } else bw
  let on := sdeRscClkEnable r.phandle true ans.clkOn
  let r := { r with bwConfig := bw, phandle := on.1 }
  if on.2 ≠ 0 then (r, on.2)
  else
    let off := fun r : RscPriv =>
      { r with phandle := (sdeRscClkEnable r.phandle false ans.clkOff).1 }
    if deltaVote ∧ ans.tcsWait ≠ 0 then (off r, ans.tcsWait)
    else
      let r := if deltaVote then { r with phandle := voteBuses r.phandle bw ans.dataBus } else r
      -- only revision 3 has `bwi_status`
      let r :=
        if r.version = .rev3 ∧ (r.currentState = .cmd ∨ r.currentState = .vid) then
          { r with bwIndication := bwIncrease }
        else r
      (off r, 0)

theorem bwConfig_settle (r : RscPriv) (s : Switch) (state : RscState) (ans : Answers) :
    (r.settle s state ans).bwConfig = r.bwConfig := by
  simp only [RscPriv.settle]
  split
  · split <;> rfl
  · split <;> rfl

@[simp] theorem bwConfig_stateUpdate (r : RscPriv) (req : Request) (ans : Answers) :
    (sdeRscClientStateUpdate r req ans).1.bwConfig = r.bwConfig := by
  have hwInit : (sdeRscHwInit (r.record req) ans.init).1.bwConfig = r.bwConfig := by
    simp only [sdeRscHwInit]
    split
    · rfl
    · split
      · rfl
      · split <;> rfl
  have wake : ((r.record req).wake req.state ans).bwConfig = r.bwConfig := by
    simp only [RscPriv.wake]
    split
    · split <;> exact hwInit
    · split <;> rfl
  simp only [sdeRscClientStateUpdate]
  split
  · rfl
  · split
    · rfl
    · exact (bwConfig_settle _ _ _ ans).trans wake

theorem asked_triggerVote (r : RscPriv) (deltaVote : Bool) (ans : VoteAnswers) :
    (sdeRscClientTriggerVote r deltaVote ans).1.bwConfig.newAbVote = r.bwConfig.newAbVote ∧
      (sdeRscClientTriggerVote r deltaVote ans).1.bwConfig.newIbVote = r.bwConfig.newIbVote := by
  cases deltaVote with
  | false =>
    simp only [sdeRscClientTriggerVote, Bool.false_eq_true, if_false, false_and]
    split
    · exact ⟨rfl, rfl⟩
    · split <;> exact ⟨rfl, rfl⟩
  | true =>
    simp only [sdeRscClientTriggerVote, if_true, true_and]
    split
    · exact ⟨rfl, rfl⟩
    · split
      · exact ⟨rfl, rfl⟩
      · split <;> exact ⟨rfl, rfl⟩

/-! ## Calls -/

inductive Call
  | create (clientType : ClientType)
  | stateUpdate (req : Request) (ans : Answers)
  | vote (b : BusId) (ab ib : U64)
  | triggerVote (deltaVote : Bool) (ans : VoteAnswers)
  | resetVsyncRefcount
  | freezeLate
  | bind
  | unbind

def step (r : RscPriv) : Call → RscPriv
  | .create clientType => sdeRscClientCreate r clientType
  | .stateUpdate req ans =>
    if req.caller ∈ r.clientList then (sdeRscClientStateUpdate r req ans).1 else r
  | .vote b ab ib => sdeRscClientVote r b ab ib
  | .triggerVote deltaVote ans => (sdeRscClientTriggerVote r deltaVote ans).1
  | .resetVsyncRefcount => { r with rscVsyncWait := r.rscVsyncWait - 1 }
  | .freezeLate => { r with needHwinit := true }
  | .bind => { r with masterDrm := true }
  | .unbind => { r with masterDrm := false }

def RscPriv.start (version : Revision) (buses : BusId → DataBusHandle) (rscVsyncWait : Nat) :
    RscPriv :=
  { sdeRscProbe version buses with rscVsyncWait := rscVsyncWait }

end DisplayDrivers.Rsc
