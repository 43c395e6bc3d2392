import DisplayDrivers.Ctl.Flush
import Mathlib.Logic.Function.Basic

/-! # The kickoff of a frame

`_sde_encoder_kickoff_phys` flushes the CTLs of an encoder's physical encoders, raises their pending
counters and starts the master. A physical encoder flushes its own CTL, or, where one flush is to
reach the whole screen, leaves its pending masks to the master.
-/

namespace DisplayDrivers.Encoder.Kickoff

open DisplayDrivers.Ctl DisplayDrivers.Lib.TwoLevel

/-- `enum sde_enc_split_role` -/
inductive SplitRole
  | solo
  | master
  | slave
  | skip
deriving DecidableEq

/-- `enum sde_enc_enable_state` -/
inductive EnableState
  | disabling
  | disabled
  | enabling
  | enabled
  | errNeedsHwReset
deriving DecidableEq

/-- The fields of `struct sde_encoder_phys`, and those of `struct sde_encoder_phys_cmd` that count;
    `frameBusy` is its bit of the virtual encoder's `frame_busy_mask`. -/
structure Phys where
  isCmd : Bool
  enableState : EnableState
  splitRole : SplitRole
  inCloneMode : Bool
  hwCtl : Option ℕ
  hwPp : Bool
  hwIntf : Bool
  intfIdx : ℕ
  ppsplit : Bool
  dualCtl : Bool
  dpDscIntf : Option ℕ
  frameBusy : Bool
  pendingCtlstartCnt : ℕ
  pendingKickoffCnt : ℕ
  pendingRetireFenceCnt : ℕ
  pendingRdPtrCnt : ℕ
  ctlstartTimeout : ℕ

/-- `sde_encoder_phys_cmd_is_master` and `sde_encoder_phys_vid_is_master` -/
def Phys.isMaster (phys : Phys) : Bool := phys.splitRole ≠ .slave

def Phys.needsSingleFlush (phys : Phys) : Bool := phys.ppsplit || !phys.dualCtl

def Phys.enabled (phys : Phys) : Bool := phys.enableState ≠ .disabled

def Phys.incPending (phys : Phys) : Phys :=
  { phys with
    pendingCtlstartCnt := phys.pendingCtlstartCnt + 1
    pendingKickoffCnt := phys.pendingKickoffCnt + 1 }

/-! ## Flushes -/

abbrev CtlFlushes := ℕ → FlushCfg

structure Trigger where
  phys : ℕ
  combined : Bool
  ctl : ℕ
  flush : FlushCfg

/-- `ops->update_pending_flush` of a CTL. -/
def mergeFlush (activeCfg : Bool) (flush cfg : FlushCfg) : FlushCfg :=
  if activeCfg then updatePendingFlushV1 flush cfg else updatePendingFlush flush cfg

/-- What `ops->trigger_flush` of a CTL writes. -/
def writes (activeCfg : Bool) (flush : FlushCfg) : List (FlushReg × BitVec 32) :=
  if activeCfg then triggerFlushV1 flush else triggerFlush flush

/-- The peripheral flush that a display port with compression needs in every frame; only a CTL with
    `SDE_CTL_ACTIVE_CFG` has the op, whose error is not looked at. -/
def Phys.periphFlush (activeCfg : Bool) (phys : Phys) (flush : FlushCfg) : FlushCfg :=
  match phys.dpDscIntf with
  | none => flush
  | some intf =>
    if activeCfg then
      match updateBitmaskPeriphV1 intf true flush with
      | .ok flush => flush
      | .error _ => flush
    else flush

def Phys.flushable (phys : Phys) : Bool :=
  phys.hwPp && phys.hwCtl.isSome && phys.splitRole ≠ .skip

def Phys.countRetire (phys : Phys) : Phys :=
  if phys.isMaster then { phys with pendingRetireFenceCnt := phys.pendingRetireFenceCnt + 1 }
  else phys

def Phys.flushOf (activeCfg : Bool) (phys : Phys) (flush extra : FlushCfg) : FlushCfg :=
  let flush := phys.periphFlush activeCfg flush
  if extra.summary ≠ 0#32 then mergeFlush activeCfg flush extra else flush

/-- `_sde_encoder_trigger_flush`; without `extra_flush` the extra masks are empty. -/
def triggerPhys (activeCfg : Bool) (i : ℕ) (combined : Bool) (phys : Phys) (ctls : CtlFlushes)
    (extra : FlushCfg) : Phys × CtlFlushes × List Trigger :=
  if ¬phys.flushable then (phys, ctls, [])
  else
    match phys.hwCtl with
    | none => (phys, ctls, [])
    | some ctl =>
      let flush := phys.flushOf activeCfg (ctls ctl) extra
      (phys.countRetire, Function.update ctls ctl flush, [⟨i, combined, ctl, flush⟩])

/-- The physical encoders that the first loop has visited, with the CTLs, `pending_flush` and the
    flushes so far. -/
structure Visited where
  physEncs : List Phys
  ctls : CtlFlushes
  pending : FlushCfg
  flushes : List Trigger

def Phys.setBusy (phys : Phys) : Phys :=
  if ¬(phys.ppsplit ∧ phys.splitRole = .slave) ∧ phys.splitRole ≠ .skip then
    { phys with frameBusy := true }
  else phys

def visit (activeCfg : Bool) (v : Visited) (phys : Phys) : Visited :=
  if ¬phys.enabled then { v with physEncs := v.physEncs ++ [phys] }
  else
    match phys.hwCtl with
    | none => { v with physEncs := v.physEncs ++ [phys] }
    | some ctl =>
      if ¬phys.needsSingleFlush then
        let own := triggerPhys activeCfg v.physEncs.length false phys.setBusy v.ctls Masks.empty
        { v with
          physEncs := v.physEncs ++ [own.1]
          ctls := own.2.1
          flushes := v.flushes ++ own.2.2 }
      -- the masks of the encoders before are lost here
      else { v with physEncs := v.physEncs ++ [phys.setBusy], pending := v.ctls ctl }

def visitAll (activeCfg : Bool) (physEncs : List Phys) (ctls : CtlFlushes) : Visited :=
  physEncs.foldl (visit activeCfg) ⟨[], ctls, Masks.empty, []⟩

/-! ## The kickoff -/

/-- `struct sde_encoder_virt` and its CTLs.  `curMaster` is the place of a physical encoder, and
    `inlineAsync` the crtc's rotator mode. -/
structure Enc where
  activeCfg : Bool
  physEncs : List Phys
  curMaster : Option ℕ
  intfsSwapped : Bool
  inlineAsync : Bool
  ctls : CtlFlushes

def Enc.setPhys (e : Enc) (i : ℕ) (phys : Phys) : Enc :=
  { e with physEncs := e.physEncs.set i phys }

def combinedFlush (e : Enc) (pending : FlushCfg) : Enc × List Trigger :=
  if pending.summary = 0#32 then (e, [])
  else
    match e.curMaster with
    | none => (e, [])
    | some m =>
      match e.physEncs[m]? with
      | none => (e, [])
      | some master =>
        let sent := triggerPhys e.activeCfg m true master e.ctls pending
        ({ e.setPhys m sent.1 with ctls := sent.2.1 }, sent.2.2)

def raisePending (e : Enc) : Enc :=
  { e with
    physEncs := e.physEncs.map fun phys => if phys.enabled then phys.incPending else phys }

/-- `_sde_encoder_trigger_start`, as far as the pending flushes go: the rotator's flush bit is
    latched before the start. -/
def startMaster (e : Enc) : Enc :=
  match e.curMaster.bind fun m => e.physEncs[m]? with
  | none => e
  | some master =>
    if ¬master.hwPp ∨ master.inCloneMode ∨ master.splitRole = .skip ∨ ¬e.inlineAsync then e
    else
      match master.hwCtl with
      | none => e
      | some ctl => { e with ctls := Function.update e.ctls ctl (triggerRotStart (e.ctls ctl)) }

def kickoffPhys (e : Enc) : Enc × List Trigger :=
  let v := visitAll e.activeCfg e.physEncs e.ctls
  let sent := combinedFlush { e with physEncs := v.physEncs, ctls := v.ctls } v.pending
  (startMaster (raisePending sent.1), v.flushes ++ sent.2)

/-! ## Roles -/

/-- `_sde_encoder_ppsplit_swap_intf_for_right_only_update` -/
def swapIntf (affectedDisplays : ℕ) (numActivePhys : ℕ) (e : Enc) : Enc × ℕ :=
  match e.curMaster.bind fun m => e.physEncs[m]? with
  | none => (e, affectedDisplays)
  | some master =>
    if ¬master.ppsplit then (e, affectedDisplays)
    else
      let isRightOnly := !affectedDisplays.testBit 0 && affectedDisplays.testBit 1
      let e :=
        if isRightOnly = e.intfsSwapped then e
        else
          match e.physEncs with
          | left :: right :: others =>
            { e with
              physEncs := { left with intfIdx := right.intfIdx } ::
                { right with intfIdx := left.intfIdx } :: others
              intfsSwapped := isRightOnly }
          | _ => e
      -- a split pingpong always uses the master
      (e, if numActivePhys = 1 then 1 else affectedDisplays)

def newRole (active : Bool) (numActivePhys : ℕ) (masterAssigned : Bool) : SplitRole :=
  if active ∧ numActivePhys = 1 then .solo
  else if active ∧ ¬masterAssigned then .master
  else if active then .slave
  else .skip

/-- The loop of `_sde_encoder_update_master` from place `i` on, with the new master if it has met
    one. -/
def assignRoles (affectedDisplays numActivePhys : ℕ) :
    (i : ℕ) → (master : Option ℕ) → List Phys → List Phys × Option ℕ
  | _, master, [] => ([], master)
  | i, master, phys :: physEncs =>
    if ¬phys.isCmd ∨ ¬phys.hwPp then
      let next := assignRoles affectedDisplays numActivePhys (i + 1) master physEncs
      (phys :: next.1, next.2)
    else
      let role := newRole (affectedDisplays.testBit i) numActivePhys master.isSome
      let master := if role = .solo ∨ role = .master then some i else master
      let next := assignRoles affectedDisplays numActivePhys (i + 1) master physEncs
      ({ phys with splitRole := role } :: next.1, next.2)

def hweightLong (mask : ℕ) : ℕ := (List.range 64).countP fun i => mask.testBit i

def updateMaster (affectedDisplays : ℕ) (e : Enc) : Enc :=
  if e.physEncs.length ≤ 1 then e
  else
    let numActivePhys := hweightLong affectedDisplays
    let swapped := swapIntf affectedDisplays numActivePhys e
    let assigned := assignRoles swapped.2 numActivePhys 0 none swapped.1.physEncs
    { swapped.1 with physEncs := assigned.1, curMaster := assigned.2.or swapped.1.curMaster }

/-! ## Interrupts and waits of a command mode encoder

Each of them takes from the pending counters what has happened: the pingpong is done, the CTL has
started, the read pointer has wrapped, or a wait for one of these has timed out.  Five of them may
take the retire fence that a flush has put on the master's account, and then signal it.  A counter
is never taken below zero.
-/

def ewouldblock : Int := -11

def etimedout : Int := -110

/-- The counters as `sde_encoder_phys_cmd_init` sets them. -/
def Phys.cmdInit (phys : Phys) : Phys :=
  { phys with
    isCmd := true
    frameBusy := false
    pendingCtlstartCnt := 0
    pendingKickoffCnt := 0
    pendingRetireFenceCnt := 0
    pendingRdPtrCnt := 0
    ctlstartTimeout := 0 }

def Phys.takeRetire (phys : Phys) : Phys × Bool :=
  ({ phys with pendingRetireFenceCnt := phys.pendingRetireFenceCnt - 1 },
    phys.pendingRetireFenceCnt ≠ 0)

/-- `handle_frame_done` with a frame event: the encoder has become idle. -/
def Phys.frameDone (phys : Phys) : Phys := { phys with frameBusy := false }

/-! ## Interrupts -/

def ppTxDoneIrq (phys : Phys) : Phys × Bool :=
  if ¬phys.hwPp then (phys, false)
  else
    let taken := if phys.isMaster then phys.takeRetire else (phys, false)
    let started :=
      if phys.isMaster then
        { taken.1 with
          pendingCtlstartCnt := phys.pendingCtlstartCnt - 1
          ctlstartTimeout := 0 }
      else taken.1
    ({ started.frameDone with pendingKickoffCnt := phys.pendingKickoffCnt - 1 }, taken.2)

/-- `sde_encoder_phys_cmd_te_rd_ptr_irq`: the read pointer count is taken even where no retire fence
    is pending. -/
def teRdPtrIrq (phys : Phys) : Phys × Bool :=
  if ¬phys.hwPp ∨ ¬phys.hwIntf then (phys, false)
  else if ¬phys.isMaster ∨ phys.pendingRdPtrCnt = 0 then (phys, false)
  else { phys with pendingRdPtrCnt := phys.pendingRdPtrCnt - 1 }.takeRetire

/-- `sde_encoder_phys_cmd_ctl_start_irq`; `late` says that it comes within the threshold after the
    read pointer interrupt, so that the frame is picked up in the current period.  Otherwise the
    next read pointer interrupt is told to signal the fence. -/
def ctlStartIrq (late : Bool) (phys : Phys) : Phys × Bool :=
  if phys.hwCtl = none then (phys, false)
  else
    let started :=
      { phys with
        pendingCtlstartCnt := phys.pendingCtlstartCnt - 1
        ctlstartTimeout := 0 }
    if ¬started.isMaster ∨ started.pendingRetireFenceCnt = 0 then (started, false)
    else if late then started.takeRetire
    else ({ started with pendingRdPtrCnt := started.pendingRdPtrCnt + 1 }, false)

/-! ## Waits -/

/-- `_sde_encoder_phys_cmd_handle_ppdone_timeout`; `panelDead` says that the panel does not send its
    tearing signal any more. -/
def handlePpdoneTimeout (panelDead : Bool) (phys : Phys) : Phys × Bool :=
  if ¬phys.hwPp ∨ phys.hwCtl = none then (phys, false)
  else
    let taken := if phys.isMaster then phys.takeRetire else (phys, false)
    let started :=
      if phys.isMaster then
        { taken.1 with pendingCtlstartCnt := phys.pendingCtlstartCnt - 1 }
      else taken.1
    let done := { started.frameDone with pendingKickoffCnt := phys.pendingKickoffCnt - 1 }
    (if panelDead then done else { done with enableState := .errNeedsHwReset }, taken.2)

/-- What the end of a wait finds: whether the interrupt is registered, whether its status is set
    although its handler has not run, what the CTL says of its start, and the panel. -/
structure WaitEnv where
  registered : Bool
  irqStatus : Bool
  startPending : Bool
  panelDead : Bool

/-- `sde_encoder_helper_wait_for_irq` at the end of the wait for a counter, with the handler it may
    run. -/
def waitForIrq (env : WaitEnv) (count : ℕ) (handler : Phys → Phys × Bool) (phys : Phys) :
    Phys × Bool × Int :=
  if phys.enableState = .disabled then (phys, false, ewouldblock)
  else if ¬env.registered ∨ count = 0 then (phys, false, 0)
  else if env.irqStatus then ((handler phys).1, (handler phys).2, 0)
  else (phys, false, etimedout)

def waitForIdle (env : WaitEnv) (phys : Phys) : Phys × Bool × Int :=
  if phys.ppsplit ∧ phys.splitRole = .slave then (phys, false, 0)
  else
    let waited := waitForIrq env phys.pendingKickoffCnt ppTxDoneIrq phys
    if waited.2.2 = etimedout then
      let timedOut := handlePpdoneTimeout env.panelDead waited.1
      (timedOut.1, timedOut.2, etimedout)
    else waited

def handleCtlStartTimeout (phys : Phys) : Phys × Bool :=
  if phys.isMaster then
    let taken := phys.takeRetire
    ({ taken.1 with
        pendingCtlstartCnt := phys.pendingCtlstartCnt - 1
        ctlstartTimeout := phys.ctlstartTimeout + 1 }, taken.2)
  else (phys, false)

/-- `_sde_encoder_phys_cmd_wait_for_ctl_start`; `late` is for the handler that the wait may run. -/
def waitForCtlStart (env : WaitEnv) (late : Bool) (phys : Phys) : Phys × Bool × Int :=
  if phys.hwCtl = none then (phys, false, -22)
  else if phys.ppsplit ∧ phys.splitRole = .slave then (phys, false, 0)
  else
    let waited := waitForIrq env phys.pendingCtlstartCnt (ctlStartIrq late) phys
    if waited.2.2 = etimedout then
      let timedOut := handleCtlStartTimeout waited.1
      (timedOut.1, timedOut.2, if env.startPending then etimedout else 0)
    else waited

/-! ## Two interfaces -/

/-- A physical encoder that is on and waits for nothing. -/
def singleFlush (role : SplitRole) (ctl : ℕ) : Phys where
  isCmd := true
  enableState := .enabled
  splitRole := role
  inCloneMode := false
  hwCtl := some ctl
  hwPp := true
  hwIntf := true
  intfIdx := ctl
  ppsplit := false
  dualCtl := false
  dpDscIntf := none
  frameBusy := false
  pendingCtlstartCnt := 0
  pendingKickoffCnt := 0
  pendingRetireFenceCnt := 0
  pendingRdPtrCnt := 0
  ctlstartTimeout := 0

/-- Two interfaces with a CTL of their own each. -/
def dualDsi : Enc where
  activeCfg := false
  physEncs :=
    [{ singleFlush .master 0 with dualCtl := true }, { singleFlush .slave 1 with dualCtl := true }]
  curMaster := some 0
  intfsSwapped := false
  inlineAsync := false
  ctls _ := Masks.empty

end DisplayDrivers.Encoder.Kickoff
