import DisplayDrivers.Lib.Run

/-! # States of a DSI controller (`msm/dsi/dsi_ctrl.c`, `msm/dsi/dsi_pwr.c`)

Every call on a controller asks `dsi_ctrl_check_state` first, changes the hardware, and then records
the change.
-/

namespace DisplayDrivers.DsiCtrl

open DisplayDrivers.Lib.Run

def einval : Int := -22

/-- `struct dsi_ctrl_state_info` -/
structure StateInfo where
  powerState : Bool
  cmdEngineState : Bool
  vidEngineState : Bool
  controllerState : Bool
  hostInitialized : Bool
  tpgEnabled : Bool

/-- The cases of `enum dsi_ctrl_driver_ops` that change the state. -/
inductive DriverOp
  | powerStateChange
  | cmdEngine
  | vidEngine
  | hostEngine
  | hostInit
  | tpg

/-- `dsi_ctrl_check_state` -/
def checkState (state : StateInfo) (op : DriverOp) (opState : Bool) : Int :=
  match op with
  | .powerStateChange =>
    if state.powerState = opState then einval
    else if state.powerState && state.vidEngineState then einval else 0
  | .cmdEngine =>
    if state.cmdEngineState = opState then einval
    else if !state.powerState || !state.controllerState then einval else 0
  | .vidEngine =>
    if state.vidEngineState = opState then einval
    else if !state.powerState || !state.controllerState then einval else 0
  | .hostEngine =>
    if state.controllerState = opState then einval
    else if !state.powerState then einval
    else if !opState && (state.cmdEngineState || state.vidEngineState) then einval else 0
  | .hostInit =>
    if state.hostInitialized = opState then einval
    else if !state.powerState then einval else 0
  | .tpg =>
    if state.tpgEnabled = opState then einval
    else if !state.powerState || !state.controllerState then einval else 0

/-- `dsi_ctrl_update_state` -/
def updateState (state : StateInfo) (op : DriverOp) (opState : Bool) : StateInfo :=
  match op with
  | .powerStateChange => { state with powerState := opState }
  | .cmdEngine => { state with cmdEngineState := opState }
  | .vidEngine => { state with vidEngineState := opState }
  | .hostEngine => { state with controllerState := opState }
  | .hostInit => { state with hostInitialized := opState }
  | .tpg => { state with tpgEnabled := opState }

/-! ## Regulators -/

/-- `struct dsi_regulator_info`, and whether its regulators are on. -/
structure RegulatorInfo where
  count : ℕ
  refcount : ℕ
  on : Bool

/-- `dsi_pwr_enable_regulator(regs, true)`: `rc` is what `dsi_pwr_enable_vregs` returns if it is
    called; it leaves the regulators off then, but the reference is counted all the same. -/
def RegulatorInfo.enable (regs : RegulatorInfo) (rc : Int) : Int × RegulatorInfo :=
  if regs.count = 0 then (0, regs)
  else if regs.refcount = 0 then (rc, { regs with refcount := 1, on := decide (rc = 0) })
  else (0, { regs with refcount := regs.refcount + 1 })

/-- `dsi_pwr_enable_regulator(regs, false)`, which does not fail. -/
def RegulatorInfo.disable (regs : RegulatorInfo) : RegulatorInfo :=
  if regs.count = 0 ∨ regs.refcount = 0 then regs
  else { regs with refcount := regs.refcount - 1, on := regs.on && regs.refcount != 1 }

/-- `struct dsi_ctrl` -/
structure Ctrl where
  currentState : StateInfo
  hostPwr : RegulatorInfo
  digital : RegulatorInfo

/-- What enabling the two supplies returns. -/
structure Answers where
  hostPwr : Int
  digital : Int

/-- The first part of `dsi_ctrl_enable_supplies(dsi_ctrl, true)`. -/
def Ctrl.enableHostPwr (c : Ctrl) (rc : Int) : Int × RegulatorInfo :=
  if c.currentState.hostInitialized then (0, c.hostPwr) else c.hostPwr.enable rc

/-- `dsi_ctrl_enable_supplies(dsi_ctrl, true)` -/
def Ctrl.enableSupplies (c : Ctrl) (answers : Answers) : Int × Ctrl :=
  let host := c.enableHostPwr answers.hostPwr
  let digital := c.digital.enable answers.digital
  if host.1 ≠ 0 then (host.1, { c with hostPwr := host.2 })
  else if digital.1 ≠ 0 then (digital.1, { c with hostPwr := host.2.disable, digital := digital.2 })
  else (0, { c with hostPwr := host.2, digital := digital.2 })

/-- `dsi_ctrl_enable_supplies(dsi_ctrl, false)` -/
def Ctrl.disableSupplies (c : Ctrl) : Ctrl :=
  { c with
    digital := c.digital.disable
    hostPwr := if c.currentState.hostInitialized then c.hostPwr else c.hostPwr.disable }

def Ctrl.changeSupplies (c : Ctrl) (on : Bool) (answers : Answers) : Int × Ctrl :=
  match on with
  | true => c.enableSupplies answers
  | false => (0, c.disableSupplies)

/-! ## Calls -/

def Ctrl.record (c : Ctrl) (op : DriverOp) (opState : Bool) : Ctrl :=
  { c with currentState := updateState c.currentState op opState }

/-- A call that changes registers only, besides what it records. -/
def Ctrl.setState (c : Ctrl) (op : DriverOp) (opState : Bool) : Int × Ctrl :=
  let rc := checkState c.currentState op opState
  if rc ≠ 0 then (rc, c) else (0, c.record op opState)

/-- `dsi_ctrl_set_power_state` -/
def Ctrl.setPowerState (c : Ctrl) (state : Bool) (answers : Answers) : Int × Ctrl :=
  let rc := checkState c.currentState .powerStateChange state
  if rc ≠ 0 then (rc, c)
  else
    let supplies := c.changeSupplies state answers
    if supplies.1 ≠ 0 then supplies else (0, supplies.2.record .powerStateChange state)

/-- `dsi_ctrl_set_host_engine_state`, and `dsi_ctrl_update_host_engine_state_for_cont_splash` -/
def Ctrl.setHostEngineState (c : Ctrl) (state : Bool) : Int × Ctrl := c.setState .hostEngine state

/-- `dsi_ctrl_set_cmd_engine_state` -/
def Ctrl.setCmdEngineState (c : Ctrl) (state : Bool) : Int × Ctrl := c.setState .cmdEngine state

/-- `dsi_ctrl_set_vid_engine_state` -/
def Ctrl.setVidEngineState (c : Ctrl) (state : Bool) : Int × Ctrl := c.setState .vidEngine state

/-- `dsi_ctrl_set_tpg_state` -/
def Ctrl.setTpgState (c : Ctrl) (on : Bool) : Int × Ctrl := c.setState .tpg on

/-- `dsi_ctrl_host_init`, `dsi_ctrl_host_deinit`, and `dsi_ctrl_update_host_state` with
    `DSI_CTRL_OP_HOST_INIT`; with `DSI_CTRL_OP_HOST_ENGINE` it does what `setHostEngineState`
    does. -/
def Ctrl.updateHostState (c : Ctrl) (enable : Bool) : Int × Ctrl := c.setState .hostInit enable

inductive Call
  | setPowerState (state : Bool) (answers : Answers)
  | setHostEngineState (state : Bool)
  | setCmdEngineState (state : Bool)
  | setVidEngineState (state : Bool)
  | setTpgState (on : Bool)
  | updateHostState (enable : Bool)

def Ctrl.call (c : Ctrl) : Call → Int × Ctrl
  | .setPowerState state answers => c.setPowerState state answers
  | .setHostEngineState state => c.setHostEngineState state
  | .setCmdEngineState state => c.setCmdEngineState state
  | .setVidEngineState state => c.setVidEngineState state
  | .setTpgState on => c.setTpgState on
  | .updateHostState enable => c.updateHostState enable

def step (c : Ctrl) (call : Call) : Ctrl := (c.call call).2

/-- A controller after its probe, with so many regulators in each supply. -/
def probed (hostPwr digital : ℕ) : Ctrl where
  currentState := ⟨false, false, false, false, false, false⟩
  hostPwr := ⟨hostPwr, 0, false⟩
  digital := ⟨digital, 0, false⟩

/-! ## The states that are reached -/

/-- The video engine needs the controller and power, the command engine the controller. -/
structure Legal (state : StateInfo) : Prop where
  video : state.vidEngineState = true → state.controllerState = true ∧ state.powerState = true
  command : state.cmdEngineState = true → state.controllerState = true

variable {state : StateInfo}

theorem legal_updateState {op : DriverOp} {opState : Bool} (legal : Legal state)
    (allowed : checkState state op opState = 0) : Legal (updateState state op opState) := by
  obtain ⟨video, command⟩ := legal
  cases op with
  | powerStateChange => constructor <;> grind [checkState, updateState, einval]
  | cmdEngine => constructor <;> grind [checkState, updateState, einval]
  | vidEngine => constructor <;> grind [checkState, updateState, einval]
  | hostEngine => constructor <;> grind [checkState, updateState, einval]
  | hostInit => exact ⟨video, command⟩
  | tpg => exact ⟨video, command⟩

theorem setState_cases (c : Ctrl) (op : DriverOp) (opState : Bool) :
    (c.setState op opState).2 = c ∨
      checkState c.currentState op opState = 0 ∧ (c.setState op opState).2 =
        c.record op opState := by
  unfold Ctrl.setState
  dsimp only
  split
  · exact .inl rfl
  next allowed => exact .inr ⟨not_not.mp allowed, rfl⟩

theorem enableSupplies_currentState (c : Ctrl) (answers : Answers) :
    (c.enableSupplies answers).2.currentState = c.currentState := by
  unfold Ctrl.enableSupplies
  dsimp only
  split
  · rfl
  · split <;> rfl

theorem changeSupplies_currentState (c : Ctrl) (on : Bool) (answers : Answers) :
    (c.changeSupplies on answers).2.currentState = c.currentState := by
  cases on
  · rfl
  · exact enableSupplies_currentState c answers

/-- What a call does to the recorded state, whatever the regulators answer. -/
theorem step_cases (c : Ctrl) (call : Call) : (step c call).currentState = c.currentState ∨
    ∃ op opState, checkState c.currentState op opState = 0 ∧
      (step c call).currentState = updateState c.currentState op opState := by
  have recorded (op : DriverOp) (opState : Bool) :
      (c.setState op opState).2.currentState = c.currentState ∨
        ∃ op' opState', checkState c.currentState op' opState' = 0 ∧
          (c.setState op opState).2.currentState = updateState c.currentState op' opState' := by
    obtain same | ⟨allowed, next⟩ := setState_cases c op opState
    · exact .inl (by rw [same])
    · exact .inr ⟨op, opState, allowed, by rw [next]; rfl⟩
  cases call with
  | setPowerState state answers =>
    rw [step, Ctrl.call, Ctrl.setPowerState]
    dsimp only
    split
    · exact .inl rfl
    next allowed =>
      split
      · exact .inl (changeSupplies_currentState c state answers)
      · refine .inr ⟨.powerStateChange, state, not_not.mp allowed, ?_⟩
        rw [Ctrl.record, changeSupplies_currentState]
  | setHostEngineState state => exact recorded .hostEngine state
  | setCmdEngineState state => exact recorded .cmdEngine state
  | setVidEngineState state => exact recorded .vidEngine state
  | setTpgState on => exact recorded .tpg on
  | updateHostState enable => exact recorded .hostInit enable

theorem legal_step (c : Ctrl) (call : Call) (legal : Legal c.currentState) :
    Legal (step c call).currentState := by
  obtain same | ⟨op, opState, allowed, next⟩ := step_cases c call
  · rwa [same]
  · rw [next]
    exact legal_updateState legal allowed

def Reached (hostPwr digital : ℕ) (state : StateInfo) : Prop :=
  ∃ calls, (run step (probed hostPwr digital) calls).currentState = state

theorem enable_granted (regs : RegulatorInfo) : (regs.enable 0).1 = 0 := by
  unfold RegulatorInfo.enable
  split
  · rfl
  · split <;> rfl

theorem enableSupplies_granted (c : Ctrl) : (c.enableSupplies ⟨0, 0⟩).1 = 0 := by
  have host : (c.enableHostPwr 0).1 = 0 := by
    unfold Ctrl.enableHostPwr
    split
    · rfl
    · exact enable_granted c.hostPwr
  unfold Ctrl.enableSupplies
  dsimp only
  rw [if_neg (not_not.mpr host), if_neg (not_not.mpr (enable_granted c.digital))]

theorem Reached.updateState {hostPwr digital : ℕ} (reached : Reached hostPwr digital state)
    (op : DriverOp) (opState : Bool) (allowed : checkState state op opState = 0) :
    Reached hostPwr digital (updateState state op opState) := by
  obtain ⟨calls, rfl⟩ := reached
  generalize reaches : run step (probed hostPwr digital) calls = c at allowed
  have append (call : Call)
      (next : (step c call).currentState = DsiCtrl.updateState c.currentState op opState) :
      Reached hostPwr digital (DsiCtrl.updateState c.currentState op opState) :=
    ⟨calls ++ [call], by rw [run_append, reaches]; exact next⟩
  have recorded : (c.setState op opState).2.currentState = DsiCtrl.updateState c.currentState
    op opState := by
    rw [Ctrl.setState, if_neg (not_not.mpr allowed)]
    rfl
  cases op with
  | powerStateChange =>
    apply append (.setPowerState opState ⟨0, 0⟩)
    rw [step, Ctrl.call, Ctrl.setPowerState, if_neg (not_not.mpr allowed)]
    cases opState
    · rfl
    · rw [Ctrl.changeSupplies, if_neg (not_not.mpr (enableSupplies_granted c)), Ctrl.record,
        enableSupplies_currentState]
  | cmdEngine => exact append (.setCmdEngineState opState) recorded
  | vidEngine => exact append (.setVidEngineState opState) recorded
  | hostEngine => exact append (.setHostEngineState opState) recorded
  | hostInit => exact append (.updateHostState opState) recorded
  | tpg => exact append (.setTpgState opState) recorded

theorem reached_of_legal (hostPwr digital : ℕ) (legal : Legal state) :
    Reached hostPwr digital state := by
  obtain ⟨power, cmd, vid, controller, host, tpg⟩ := state
  have start : Reached hostPwr digital ⟨false, false, false, false, false, false⟩ := ⟨[], rfl⟩
  have powered := start.updateState .powerStateChange true rfl
  have enabled := powered.updateState .hostEngine true rfl
  have initialized : Reached hostPwr digital ⟨true, false, false, true, host, false⟩ := by
    cases host
    · exact enabled
    · exact enabled.updateState .hostInit true rfl
  have patterned : Reached hostPwr digital ⟨true, false, false, true, host, tpg⟩ := by
    cases tpg
    · exact initialized
    · exact initialized.updateState .tpg true rfl
  cases controller with
  | false =>
    -- no engine is on, so that the controller can be switched off again
    have noVideo : vid = false :=
      Bool.eq_false_iff.mpr fun on => absurd (legal.video on).1 Bool.false_ne_true
    have noCommand : cmd = false :=
      Bool.eq_false_iff.mpr fun on => absurd (legal.command on) Bool.false_ne_true
    subst noVideo noCommand
    have disabled := patterned.updateState .hostEngine false rfl
    cases power
    · exact disabled.updateState .powerStateChange false rfl
    · exact disabled
  | true =>
    have commanding : Reached hostPwr digital ⟨true, cmd, false, true, host, tpg⟩ := by
      cases cmd
      · exact patterned
      · exact patterned.updateState .cmdEngine true rfl
    cases vid with
    | false =>
      cases power
      · exact commanding.updateState .powerStateChange false rfl
      · exact commanding
    | true =>
      cases power
      · exact absurd (legal.video rfl).2 Bool.false_ne_true
      · exact commanding.updateState .vidEngine true rfl

/-- The calls lead to the legal states and to no others, whatever the regulators answer. -/
theorem reached_iff_legal (hostPwr digital : ℕ) (state : StateInfo) :
    (∃ calls, (run step (probed hostPwr digital) calls).currentState = state) ↔ Legal state := by
  constructor
  · rintro ⟨calls, rfl⟩
    have start : Legal (probed hostPwr digital).currentState :=
      ⟨fun on => absurd on Bool.false_ne_true, fun on => absurd on Bool.false_ne_true⟩
    exact run_invariant (fun c : Ctrl => Legal c.currentState) legal_step start calls
  · exact reached_of_legal hostPwr digital

/-! ## The supplies -/

/-- A supply that has regulators is on and counted once, or off and not counted. -/
def RegulatorInfo.Counts (regs : RegulatorInfo) (held : Bool) : Prop :=
  regs.count ≠ 0 → regs.refcount = held.toNat ∧ regs.on = held

/-- The digital supply follows the power state; the other one is kept for an initialized host
    too. -/
structure Accounted (c : Ctrl) : Prop where
  digital : c.digital.Counts c.currentState.powerState
  hostPwr : c.hostPwr.Counts (c.currentState.powerState || c.currentState.hostInitialized)

/-- No supply fails to come up that the call switches on. -/
def Granted (c : Ctrl) : Call → Prop
  | .setPowerState true answers => c.currentState.powerState = false →
      (c.currentState.hostInitialized = true ∨ c.hostPwr.count = 0 ∨ answers.hostPwr = 0) ∧
        (c.digital.count = 0 ∨ answers.digital = 0)
  | _ => True

section Regulators
variable {regs : RegulatorInfo}

@[simp] theorem count_disable : regs.disable.count = regs.count := by
  unfold RegulatorInfo.disable
  split <;> rfl

theorem RegulatorInfo.Counts.disable (counts : regs.Counts true) : regs.disable.Counts false := by
  intro some
  rw [count_disable] at some
  obtain ⟨once, -⟩ := counts some
  rw [Bool.toNat_true] at once
  have held : ¬ (regs.count = 0 ∨ regs.refcount = 0) := by omega
  rw [RegulatorInfo.disable, if_neg held, once]
  exact ⟨rfl, Bool.and_false _⟩

theorem enable_failed (counts : regs.Counts false) {rc : Int} (failed : (regs.enable rc).1 ≠ 0) :
    regs.count ≠ 0 ∧ (regs.enable rc).2 = { regs with refcount := 1, on := false } := by
  have some : regs.count ≠ 0 := by
    intro none
    exact failed (by rw [RegulatorInfo.enable, if_pos none])
  have unused : regs.refcount = 0 := (counts some).1
  rw [RegulatorInfo.enable, if_neg some, if_pos unused] at failed ⊢
  exact ⟨some, by rw [decide_eq_false failed]⟩

theorem enable_ok (counts : regs.Counts false) {rc : Int} (ok : (regs.enable rc).1 = 0) :
    (regs.enable rc).2.Counts true := by
  by_cases none : regs.count = 0
  · rw [RegulatorInfo.enable, if_pos none]
    exact fun some => absurd none some
  · have unused : regs.refcount = 0 := (counts none).1
    rw [RegulatorInfo.enable, if_neg none, if_pos unused] at ok ⊢
    exact fun _ => ⟨rfl, decide_eq_true ok⟩

theorem enable_ok_iff (counts : regs.Counts false) (rc : Int) :
    (regs.enable rc).1 = 0 ↔ regs.count = 0 ∨ rc = 0 := by
  by_cases none : regs.count = 0
  · rw [RegulatorInfo.enable, if_pos none]
    exact iff_of_true rfl (.inl none)
  · have unused : regs.refcount = 0 := (counts none).1
    rw [RegulatorInfo.enable, if_neg none, if_pos unused]
    exact ⟨.inr, fun ok => ok.resolve_left none⟩

end Regulators

theorem accounted_record {c : Ctrl} (accounted : Accounted c) (op : DriverOp) (opState : Bool)
    (other : op ≠ .powerStateChange) : Accounted (c.setState op opState).2 := by
  obtain same | ⟨allowed, next⟩ := setState_cases c op opState
  · rwa [same]
  · rw [next]
    refine ⟨?_, ?_⟩
    · cases op with
      | powerStateChange => exact absurd rfl other
      | _ => exact accounted.digital
    · cases op with
      | powerStateChange => exact absurd rfl other
      | hostInit =>
        -- the host is initialized and left with the power on, which keeps the supply by itself
        have powered : c.currentState.powerState = true := by
          grind [checkState, einval]
        have held := accounted.hostPwr
        rw [powered, Bool.true_or] at held
        change c.hostPwr.Counts (c.currentState.powerState || opState)
        rwa [powered, Bool.true_or]
      | _ => exact accounted.hostPwr

theorem accounted_off {c : Ctrl} (accounted : Accounted c)
    (powered : c.currentState.powerState = true) :
    Accounted (c.disableSupplies.record .powerStateChange false) where
  digital := by
    have held := accounted.digital
    rw [powered] at held
    exact held.disable
  hostPwr := by
    have held := accounted.hostPwr
    rw [powered, Bool.true_or] at held
    change (if c.currentState.hostInitialized = true then c.hostPwr else c.hostPwr.disable).Counts
      (false || c.currentState.hostInitialized)
    cases c.currentState.hostInitialized
    · exact held.disable
    · exact held

section Off
variable {c : Ctrl} (accounted : Accounted c) (off : c.currentState.powerState = false)
include accounted off

theorem hostPwr_held : c.hostPwr.Counts c.currentState.hostInitialized := by
  have held := accounted.hostPwr
  rwa [off, Bool.false_or] at held

theorem digital_unused : c.digital.Counts false := by
  have held := accounted.digital
  rwa [off] at held

theorem enableHostPwr_cases (rc : Int) :
    (c.enableHostPwr rc).1 = 0 ∧ (c.enableHostPwr rc).2.Counts true ∧
        (c.currentState.hostInitialized = true ∨ c.hostPwr.count = 0 ∨ rc = 0) ∨
      (c.enableHostPwr rc).1 ≠ 0 ∧ c.currentState.hostInitialized = false ∧
        c.hostPwr.count ≠ 0 ∧ rc ≠ 0 ∧
        (c.enableHostPwr rc).2 = { c.hostPwr with refcount := 1, on := false } := by
  have held := hostPwr_held accounted off
  unfold Ctrl.enableHostPwr
  cases initialized : c.currentState.hostInitialized with
  | true =>
    rw [initialized] at held
    exact .inl ⟨rfl, held, .inl rfl⟩
  | false =>
    rw [initialized] at held
    rw [if_neg Bool.false_ne_true]
    by_cases ok : (c.hostPwr.enable rc).1 = 0
    · exact .inl ⟨ok, enable_ok held ok, .inr ((enable_ok_iff held rc).mp ok)⟩
    · obtain ⟨some, left⟩ := enable_failed held ok
      exact .inr ⟨ok, rfl, some, fun zero => ok ((enable_ok_iff held rc).mpr (.inr zero)), left⟩

/-- What enabling the supplies of a controller that is off comes to. -/
theorem enableSupplies_off (answers : Answers) :
    (c.enableSupplies answers).1 = 0 ∧ Granted c (.setPowerState true answers) ∧
        Accounted ((c.enableSupplies answers).2.record .powerStateChange true) ∨
      (c.enableSupplies answers).1 ≠ 0 ∧ ¬ Granted c (.setPowerState true answers) ∧
        ¬ Accounted (c.enableSupplies answers).2 := by
  have unused := digital_unused accounted off
  unfold Ctrl.enableSupplies
  dsimp only
  obtain ⟨ok, held, granted⟩ | ⟨failed, notInitialized, some, refused, left⟩ :=
    enableHostPwr_cases accounted off answers.hostPwr
  · rw [if_neg (not_not.mpr ok)]
    by_cases came : (c.digital.enable answers.digital).1 = 0
    · rw [if_neg (not_not.mpr came)]
      refine .inl ⟨rfl, fun _ => ⟨granted, (enable_ok_iff unused _).mp came⟩, ?_, ?_⟩
      · exact enable_ok unused came
      · exact held
    · rw [if_pos came]
      refine .inr ⟨came, fun grants => came ((enable_ok_iff unused _).mpr (grants off).2),
        fun broken => ?_⟩
      -- the reference that is counted for nothing
      obtain ⟨some, left⟩ := enable_failed unused came
      have counted := broken.digital
      rw [left] at counted
      have none := (counted some).1
      change 1 = c.currentState.powerState.toNat at none
      rw [off] at none
      exact absurd none (by decide)
  · rw [if_pos failed]
    refine .inr ⟨failed, fun grants => ?_, fun broken => ?_⟩
    · obtain initialized | none | zero := (grants off).1
      · exact Bool.false_ne_true (notInitialized.symm.trans initialized)
      · exact some none
      · exact refused zero
    · have counted := broken.hostPwr
      rw [left] at counted
      have none := (counted some).1
      change 1 = (c.currentState.powerState || c.currentState.hostInitialized).toNat at none
      rw [off, notInitialized] at none
      exact absurd none (by decide)

end Off

theorem step_accounted_iff (c : Ctrl) (call : Call) (accounted : Accounted c) :
    Accounted (step c call) ↔ Granted c call := by
  cases call with
  | setPowerState state answers =>
    rw [step, Ctrl.call, Ctrl.setPowerState]
    dsimp only
    by_cases allowed : checkState c.currentState .powerStateChange state = 0
    · rw [if_neg (not_not.mpr allowed)]
      have change : c.currentState.powerState = !state := by
        cases state <;> grind [checkState, einval]
      cases state with
      | false => exact iff_of_true (accounted_off accounted change) trivial
      | true =>
        obtain ⟨ok, granted, next⟩ | ⟨failed, refused, next⟩ :=
          enableSupplies_off accounted change answers
        · rw [Ctrl.changeSupplies, if_neg (not_not.mpr ok)]
          exact iff_of_true next granted
        · rw [Ctrl.changeSupplies, if_pos failed]
          exact iff_of_false next refused
    · rw [if_pos allowed]
      refine iff_of_true accounted ?_
      cases state with
      | false => trivial
      | true =>
        intro off
        refine absurd ?_ allowed
        rw [checkState, off]
        rfl
  | setHostEngineState state =>
    exact iff_of_true (accounted_record accounted .hostEngine state nofun) trivial
  | setCmdEngineState state =>
    exact iff_of_true (accounted_record accounted .cmdEngine state nofun) trivial
  | setVidEngineState state =>
    exact iff_of_true (accounted_record accounted .vidEngine state nofun) trivial
  | setTpgState on => exact iff_of_true (accounted_record accounted .tpg on nofun) trivial
  | updateHostState enable =>
    exact iff_of_true (accounted_record accounted .hostInit enable nofun) trivial

/-- In every run the supplies are on and counted as the states say exactly as long as no supply fails
    to come up. -/
theorem accounted_iff_granted (hostPwr digital : ℕ) (calls : List Call) :
    Throughout step Accounted (probed hostPwr digital) calls ↔
      StepsMeet step Granted (probed hostPwr digital) calls := by
  have start : Accounted (probed hostPwr digital) := ⟨fun _ => ⟨rfl, rfl⟩, fun _ => ⟨rfl, rfl⟩⟩
  exact throughout_iff_stepsMeet (fun _ => True) (fun _ _ _ => trivial)
    (fun c call _ accounted => step_accounted_iff c call accounted) trivial start calls

theorem setPowerState_on {c : Ctrl} (off : c.currentState.powerState = false) (answers : Answers) :
    c.setPowerState true answers = if (c.enableSupplies answers).1 ≠ 0 then c.enableSupplies answers
      else (0, (c.enableSupplies answers).2.record .powerStateChange true) := by
  have allowed : checkState c.currentState .powerStateChange true = 0 := by
    rw [checkState, off]
    rfl
  rw [Ctrl.setPowerState, if_neg (not_not.mpr allowed)]
  rfl

theorem enableSupplies_ok {c : Ctrl} {answers : Answers} (ok : (c.enableSupplies answers).1 = 0) :
    (c.enableSupplies answers).2 = { c with
      hostPwr := (c.enableHostPwr answers.hostPwr).2
      digital := (c.digital.enable answers.digital).2 } := by
  unfold Ctrl.enableSupplies at ok ⊢
  dsimp only at ok ⊢
  split at ok
  next failed => exact absurd ok failed
  next host =>
    split at ok
    next failed => exact absurd ok failed
    next digital => rw [if_neg host, if_neg digital]

/-- Regulators that are counted as enabled and are off. -/
def RegulatorInfo.CountedOff (regs : RegulatorInfo) : Prop :=
  regs.count ≠ 0 ∧ regs.refcount ≠ 0 ∧ regs.on = false

/-- After a failure a supply is counted although it is off: the next attempt that succeeds leaves it
    off. -/
theorem retry_leaves_supply_off {c : Ctrl} {first second : Answers} (accounted : Accounted c)
    (off : c.currentState.powerState = false) (failed : (c.setPowerState true first).1 ≠ 0)
    (retried : ((c.setPowerState true first).2.setPowerState true second).1 = 0) :
    let c' := ((c.setPowerState true first).2.setPowerState true second).2
    c'.currentState.powerState = true ∧
      (c'.digital.CountedOff ∨ c'.hostPwr.CountedOff) := by
  have refused : (c.enableSupplies first).1 ≠ 0 := by
    intro ok
    rw [setPowerState_on off, if_neg (not_not.mpr ok)] at failed
    exact failed rfl
  rw [setPowerState_on off, if_pos refused] at retried ⊢
  generalize left : (c.enableSupplies first).2 = c₁ at retried ⊢
  have still : c₁.currentState = c.currentState := by
    rw [← left]
    exact enableSupplies_currentState c first
  have off₁ : c₁.currentState.powerState = false := by rw [still, off]
  have ok : (c₁.enableSupplies second).1 = 0 := by
    by_contra again
    rw [setPowerState_on off₁, if_pos again] at retried
    exact again retried
  rw [setPowerState_on off₁, if_neg (not_not.mpr ok), enableSupplies_ok ok]
  refine ⟨rfl, ?_⟩
  change (c₁.digital.enable second.digital).2.CountedOff ∨
    (c₁.enableHostPwr second.hostPwr).2.CountedOff
  have unused := digital_unused accounted off
  unfold Ctrl.enableSupplies at left refused
  dsimp only at left refused
  obtain ⟨host, -, -⟩ | ⟨host, notInitialized, some, -, kept⟩ :=
    enableHostPwr_cases accounted off first.hostPwr
  · rw [if_neg (not_not.mpr host)] at left refused
    have digital : (c.digital.enable first.digital).1 ≠ 0 := by
      by_contra came
      rw [if_neg (not_not.mpr came)] at refused
      exact refused rfl
    rw [if_pos digital] at left
    obtain ⟨some, kept⟩ := enable_failed unused digital
    rw [kept] at left
    subst left
    dsimp only
    rw [RegulatorInfo.enable, if_neg some, if_neg Nat.one_ne_zero]
    exact .inl ⟨some, Nat.succ_ne_zero 1, rfl⟩
  · rw [if_pos host, kept] at left
    subst left
    right
    dsimp only
    rw [Ctrl.enableHostPwr, notInitialized, if_neg Bool.false_ne_true,
      RegulatorInfo.enable, if_neg some,
      if_neg Nat.one_ne_zero]
    exact ⟨some, Nat.succ_ne_zero 1, rfl⟩

theorem retry_leaves_supply_off_digital :
    let c := ((probed 1 1).setPowerState true ⟨0, -5⟩).2.setPowerState true ⟨0, 0⟩
    c.2.currentState.powerState = true ∧ (c.2.digital.CountedOff ∨ c.2.hostPwr.CountedOff) := by
  have start : Accounted (probed 1 1) := ⟨fun _ => ⟨rfl, rfl⟩, fun _ => ⟨rfl, rfl⟩⟩
  exact retry_leaves_supply_off start rfl (by decide) (by decide)

end DisplayDrivers.DsiCtrl
