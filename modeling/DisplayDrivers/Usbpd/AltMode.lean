import DisplayDrivers.Lib.Run
import Mathlib.Data.List.Basic

/-! # DisplayPort alternate mode over USB PD (`msm/dp/dp_usbpd.c`)

The driver sends requests to the port partner, one at a time or several, and the callbacks take the
answers and the attentions of the partner.
-/

namespace DisplayDrivers.Usbpd

open DisplayDrivers.Lib.Run

abbrev U32 := BitVec 32
abbrev U8 := BitVec 8

def ebusy : Int := -16

/-- The commands that are told apart; the first five are sent by the driver or the partner. -/
inductive Cmd
  | discoverModes
  | enterMode
  | attention
  | status
  | configure
  | other
deriving DecidableEq

/-- `enum usbpd_svdm_cmd_type` -/
inductive CmdType
  | initiator
  | respAck
  | respNak
  | respBusy

/-- A request to the partner; the configuration comes with its packet. -/
structure Request where
  cmd : Cmd
  packet : U32

/-- What the callbacks of the display are called for. -/
inductive Told
  | configure
  | attention
  | disconnect
deriving DecidableEq

/-- `struct dp_usbpd_capabilities`; the ports are the two bits that they are read from. -/
structure Capabilities where
  port : BitVec 2
  receptacleState : Bool
  ulinkPinConfig : U8
  dlinkPinConfig : U8

/-- `struct dp_usbpd` -/
structure Status where
  port : BitVec 2
  lowPowSt : Bool
  adaptorDpEn : Bool
  multiFunc : Bool
  usbConfigReq : Bool
  exitDpMode : Bool
  hpdHigh : Bool
  hpdIrq : Bool

/-- The bits of `alt_mode` -/
structure AltMode where
  discover : Bool
  enter : Bool
  status : Bool
  configure : Bool

/-- `struct dp_usbpd_private`, and what has been sent and told so far. -/
structure Pd where
  forcedDisconnect : Bool
  vdo : U32
  cap : Capabilities
  status : Status
  altMode : AltMode
  altModeCfgDone : Bool
  peerUsbComm : Bool
  orientation : ℕ
  sent : List Request
  told : List Told

/-- `dp_usbpd_get_capabilities` -/
def Pd.getCapabilities (pd : Pd) : Pd :=
  { pd with cap :=
    { port := pd.vdo.extractLsb' 0 2
      receptacleState := pd.vdo.getLsbD 6
      dlinkPinConfig := pd.vdo.extractLsb' 8 8
      ulinkPinConfig := pd.vdo.extractLsb' 16 8 } }

/-- `dp_usbpd_get_status` -/
def Pd.getStatus (pd : Pd) : Pd :=
  { pd with status :=
    { port := pd.vdo.extractLsb' 0 2
      lowPowSt := pd.vdo.getLsbD 2
      adaptorDpEn := pd.vdo.getLsbD 3
      multiFunc := pd.vdo.getLsbD 4
      usbConfigReq := pd.vdo.getLsbD 5
      exitDpMode := pd.vdo.getLsbD 6
      hpdHigh := pd.vdo.getLsbD 7
      hpdIrq := pd.vdo.getLsbD 8 } }

/-- The loop of `dp_usbpd_gen_config_pkt`: pin D where the port is shared, else the first pin of the
    configuration, and pin C where none is found. -/
def pickPin (pinCfg : U8) (multiFunc : Bool) : ℕ :=
  ((List.range 6).find? fun pin => pinCfg.getLsbD pin && (!multiFunc || pin == 3)).getD 2

/-- `dp_usbpd_gen_config_pkt` -/
def Pd.genConfigPkt (pd : Pd) : U32 :=
  let pinCfg := if pd.cap.receptacleState then pd.cap.ulinkPinConfig else pd.cap.dlinkPinConfig
  (BitVec.twoPow 32 (pickPin pinCfg pd.status.multiFunc) <<< 8) ||| 1#32 <<< 2 ||| 2#32

/-- `dp_usbpd_send_event` -/
def Pd.sendEvent (pd : Pd) (cmd : Cmd) : Pd :=
  let packet := match cmd with
    | .status => 1
    | .configure => pd.genConfigPkt
    | _ => 0
  { pd with sent := pd.sent ++ [⟨cmd, packet⟩] }

/-- `dp_usbpd_validate_callback` -/
def validateCallback (cmd : Cmd) (cmdType : CmdType) (numVdos : ℕ) : Bool :=
  match cmdType with
  | .respNak => false
  | .respBusy => false
  | .initiator => decide (cmd = .attention) && numVdos != 0
  | .respAck => decide (cmd ≠ .attention)

/-- The loop of `dp_usbpd_get_ss_lanes`; `lanes k` answers the request before the last `k`. -/
def ssLanesLoop (lanes : ℕ → Int) : ℕ → Int → Int
  | 0, rc => rc
  | timeout + 1, _ =>
    if lanes timeout ≠ ebusy then lanes timeout else ssLanesLoop lanes timeout ebusy

/-- `dp_usbpd_get_ss_lanes` -/
def Pd.getSsLanes (pd : Pd) (lanes : ℕ → Int) : Int :=
  if pd.status.multiFunc then 0 else ssLanesLoop lanes 250 0

def Pd.tell (pd : Pd) (told : Told) : Pd := { pd with told := pd.told ++ [told] }

def Pd.discovered (pd : Pd) (vdo : U32) : Pd :=
  let pd := { pd with vdo := vdo }.getCapabilities
  { pd with altMode.discover := true }

def Pd.reported (pd : Pd) (vdo : U32) : Pd := { pd with vdo := vdo }.getStatus

/-- What a response comes with, and what the USB driver answers meanwhile. -/
structure Response where
  cmd : Cmd
  cmdType : CmdType
  vdo : U32
  numVdos : ℕ
  plugOrientation : ℕ
  lanes : ℕ → Int

/-- The cases of `dp_usbpd_response_cb`. -/
def Pd.respond (pd : Pd) (r : Response) : Pd :=
  match r.cmd with
  | .discoverModes =>
    let pd := pd.discovered r.vdo
    if pd.cap.port.getLsbD 0 then pd.sendEvent .enterMode else pd
  | .enterMode => { pd with altMode.enter := true }.sendEvent .status
  | .attention =>
    if pd.forcedDisconnect then pd
    else
      let pd := pd.reported r.vdo
      if !pd.altModeCfgDone then
        if pd.status.port.getLsbD 1 then pd.sendEvent .configure else pd
      else pd.tell .attention
  | .status =>
    let pd := pd.reported r.vdo
    if !pd.altMode.configure then
      let pd := { pd with altMode.status := true }
      if pd.status.port.getLsbD 1 then pd.sendEvent .configure else pd
    else pd
  | .configure =>
    let pd := { pd with altMode.configure := true, altModeCfgDone := true }.getStatus
    let pd := { pd with orientation := r.plugOrientation }
    if pd.getSsLanes r.lanes ≠ 0 then pd else pd.tell .configure
  | .other => pd

/-- `dp_usbpd_response_cb` -/
def Pd.responseCb (pd : Pd) (r : Response) : Pd :=
  if validateCallback r.cmd r.cmdType r.numVdos then pd.respond r else pd

/-- `dp_usbpd_connect_cb` -/
def Pd.connectCb (pd : Pd) (peerUsbComm : Bool) : Pd :=
  { pd with peerUsbComm := peerUsbComm }.sendEvent .discoverModes

/-- `dp_usbpd_init` -/
def init : Pd where
  forcedDisconnect := false
  vdo := 0
  cap := ⟨0, false, 0, 0⟩
  status := ⟨0, false, false, false, false, false, false, false⟩
  altMode := ⟨false, false, false, false⟩
  altModeCfgDone := false
  peerUsbComm := false
  orientation := 0
  sent := []
  told := []

/-! ## A partner that answers in order -/

/-- The driver, and the requests that the partner has not answered yet. -/
structure Link where
  pd : Pd
  asked : List Request

inductive Input
  | answer (vdo : U32) (plugOrientation : ℕ) (lanes : ℕ → Int)
  | attention (vdo : U32) (numVdos : ℕ)

def Link.deliver (l : Link) (r : Response) : Link where
  pd := l.pd.responseCb r
  asked := l.asked ++ (l.pd.responseCb r).sent.drop l.pd.sent.length

def ack (cmd : Cmd) (vdo : U32) (plugOrientation : ℕ) (lanes : ℕ → Int) : Response :=
  ⟨cmd, .respAck, vdo, 1, plugOrientation, lanes⟩

/-- The oldest request is accepted; attentions come once the mode has been entered. -/
def step (l : Link) : Input → Link
  | .answer vdo plugOrientation lanes =>
    match l.asked with
    | [] => l
    | request :: rest =>
      { l with asked := rest }.deliver (ack request.cmd vdo plugOrientation lanes)
  | .attention vdo numVdos =>
    if l.pd.altMode.enter then l.deliver ⟨.attention, .initiator, vdo, numVdos, 0,
    fun _ => 0⟩ else l

def connected (peerUsbComm : Bool) : Link := ⟨init.connectCb peerUsbComm, [⟨.discoverModes, 0⟩]⟩

def kinds (requests : List Request) : List Cmd := requests.map Request.cmd

def Capabilities.offers (cap : Capabilities) (pin : ℕ) : Bool :=
  (if cap.receptacleState then cap.ulinkPinConfig else cap.dlinkPinConfig).getLsbD pin

/-- The packet asks for one pin assignment, which is offered, or else pin C. -/
def Fits (cap : Capabilities) (packet : U32) : Prop :=
  ∃ pin < 6, packet = BitVec.twoPow 32 (8 + pin) ||| 6#32 ∧ (cap.offers pin = true ∨ pin = 2)

theorem fits_genConfigPkt (pd : Pd) : Fits pd.cap pd.genConfigPkt := by
  unfold Pd.genConfigPkt pickPin
  dsimp only
  generalize pinCfg_eq : (if pd.cap.receptacleState = true then pd.cap.ulinkPinConfig
    else pd.cap.dlinkPinConfig) = pinCfg
  have shifted : ∀ pin < 6,
      (BitVec.twoPow 32 pin <<< 8) ||| 1#32 <<< 2 ||| 2#32 = BitVec.twoPow 32 (8 + pin) |||
        6#32 := by decide
  cases found : (List.range 6).find? fun pin => pinCfg.getLsbD pin &&
    (!pd.status.multiFunc || pin == 3) with
  | none => exact ⟨2, by decide, shifted 2 (by decide), .inr rfl⟩
  | some pin =>
    have low : pin < 6 := List.mem_range.mp (List.mem_of_find?_eq_some found)
    have chosen := List.find?_some found
    refine ⟨pin, low, shifted pin low, .inl ?_⟩
    rw [Capabilities.offers, pinCfg_eq]
    exact (Bool.and_eq_true_iff.mp chosen).1

/-- How far the negotiation is, `k` configurations having been asked for. -/
inductive Phase (l : Link) (k : ℕ) : Prop
  | discovering (sent : kinds l.pd.sent = [.discoverModes])
    (asked : kinds l.asked = [.discoverModes])
      (none : k = 0) (outside : l.pd.altMode.enter = false)
  | refused (sent : kinds l.pd.sent = [.discoverModes]) (asked : kinds l.asked = []) (none : k = 0)
      (outside : l.pd.altMode.enter = false) (noSink : l.pd.cap.port.getLsbD 0 = false)
  | entering (sent : kinds l.pd.sent = [.discoverModes, .enterMode])
    (asked : kinds l.asked = [.enterMode])
      (none : k = 0) (outside : l.pd.altMode.enter = false)
  | entered
    (sent : kinds l.pd.sent = [.discoverModes, .enterMode, .status] ++ List.replicate k .configure)
      (asked : kinds l.asked = .status :: List.replicate k .configure)
  | asked (left : ℕ)
    (sent : kinds l.pd.sent = [.discoverModes, .enterMode, .status] ++ List.replicate k .configure)
      (asked : kinds l.asked = List.replicate left .configure) (some : left ≤ k)
      (absent : k = 0 → l.pd.status.port.getLsbD 1 = false)

theorem Phase.of_inMode {l : Link} {k : ℕ} (phase : Phase l k)
    (inMode : l.pd.altMode.enter = true) :
    kinds l.pd.sent = [.discoverModes, .enterMode, .status] ++ List.replicate k .configure ∧
      (kinds l.asked = .status :: List.replicate k .configure ∨
        ∃ left ≤ k, kinds l.asked = List.replicate left .configure) := by
  cases phase with
  | discovering _ _ _ outside => exact absurd (outside.symm.trans inMode) Bool.false_ne_true
  | refused _ _ _ outside => exact absurd (outside.symm.trans inMode) Bool.false_ne_true
  | entering _ _ _ outside => exact absurd (outside.symm.trans inMode) Bool.false_ne_true
  | entered sent asked => exact ⟨sent, .inl asked⟩
  | asked left sent asked some => exact ⟨sent, .inr ⟨left, some, asked⟩⟩

def waiting (l : Link) : ℕ := (kinds l.asked).count .configure

structure Inv (l : Link) (k : ℕ) : Prop where
  phase : Phase l k
  unforced : l.pd.forcedDisconnect = false
  cfgDone : l.pd.altModeCfgDone = decide (waiting l < k)
  accepted : l.pd.altMode.configure = l.pd.altModeCfgDone
  told : l.pd.told.count .configure + waiting l ≤ k
  fits : ∀ r ∈ l.pd.sent, r.cmd = .configure → Fits l.pd.cap r.packet

variable {commands : List Cmd}

theorem fits_of_none {cap : Capabilities} {requests : List Request}
    (sent : kinds requests = commands) (none : .configure ∉ commands) :
    ∀ r ∈ requests, r.cmd = .configure → Fits cap r.packet :=
  fun _ mem asks => absurd (sent ▸ List.mem_map.mpr ⟨_, mem, asks⟩) none

theorem kinds_append (front back : List Request) :
    kinds (front ++ back) = kinds front ++ kinds back :=
  List.map_append

variable {pd : Pd}

/-- A request that the driver adds to what it has sent is on its way to the partner. -/
theorem deliver_sent {l : Link} {r : Response} {more : List Request}
    (responds : l.pd.responseCb r = pd) (sends : pd.sent = l.pd.sent ++ more) :
    l.deliver r = ⟨pd, l.asked ++ more⟩ := by
  rw [Link.deliver, responds, sends, List.drop_left]

theorem deliver_silent {l : Link} {r : Response} (responds : l.pd.responseCb r = pd)
    (silent : pd.sent = l.pd.sent) : l.deliver r = ⟨pd, l.asked⟩ := by
  rw [deliver_sent responds (silent.trans (List.append_nil _).symm), List.append_nil]

theorem step_answer {l : Link} {cmd : Cmd} (asked : kinds l.asked = cmd :: commands)
    (vdo : U32) (plugOrientation : ℕ) (lanes : ℕ → Int) :
    ∃ rest, kinds rest = commands ∧ step l (.answer vdo plugOrientation lanes) =
      Link.deliver ⟨l.pd, rest⟩ (ack cmd vdo plugOrientation lanes) := by
  obtain ⟨request, rest, split, rfl, tail⟩ := List.map_eq_cons_iff.mp asked
  refine ⟨rest, tail, ?_⟩
  rw [step, split]

theorem step_answer_none {l : Link} (asked : kinds l.asked = []) (vdo : U32) (plugOrientation : ℕ)
    (lanes : ℕ → Int) : step l (.answer vdo plugOrientation lanes) = l := by
  rw [step, List.map_eq_nil_iff.mp asked]

theorem waiting_eq {l : Link} (asked : kinds l.asked = commands) :
    waiting l = commands.count .configure := by
  rw [waiting, asked]

/-- What a report of the partner's status leaves as it is. -/
structure Kept (pd pd' : Pd) : Prop where
  sent : pd'.sent = pd.sent
  forcedDisconnect : pd'.forcedDisconnect = pd.forcedDisconnect
  altModeCfgDone : pd'.altModeCfgDone = pd.altModeCfgDone
  configure : pd'.altMode.configure = pd.altMode.configure
  told : pd'.told = pd.told
  cap : pd'.cap = pd.cap

section Step
variable {l : Link} {k : ℕ} (inv : Inv l k) (vdo : U32) (plugOrientation : ℕ) (lanes : ℕ → Int)
include inv

theorem notDone (all : waiting l = k) : l.pd.altModeCfgDone = false := by
  rw [inv.cfgDone, all, decide_eq_false (Nat.lt_irrefl k)]

variable {rest : List Request}

theorem Inv.of_kept (kept : Kept l.pd pd) (phase : Phase ⟨pd, rest⟩ k)
    (same : waiting ⟨pd, rest⟩ = waiting l) : Inv ⟨pd, rest⟩ k where
  phase := phase
  unforced := kept.forcedDisconnect.trans inv.unforced
  cfgDone := by rw [same, kept.altModeCfgDone, inv.cfgDone]
  accepted := by rw [kept.configure, kept.altModeCfgDone, inv.accepted]
  told := by rw [same, kept.told]; exact inv.told
  fits := by rw [kept.sent, kept.cap]; exact inv.fits

/-- One more configuration is asked for, by a driver that has not been configured yet. -/
theorem Inv.configures (front : List Cmd) (kept : Kept l.pd pd)
    (all : waiting l = k)
    (sent : kinds l.pd.sent = [.discoverModes, .enterMode, .status] ++ List.replicate k .configure)
    (asked : kinds rest = front ++ List.replicate k .configure)
    (first : front = [] ∨ front = [.status]) :
    Inv ⟨pd.sendEvent .configure, rest ++ [⟨.configure, pd.genConfigPkt⟩]⟩ (k + 1) := by
  have sent' : kinds (pd.sendEvent .configure).sent =
      [.discoverModes, .enterMode, .status] ++ List.replicate (k + 1) .configure := by
    change kinds (pd.sent ++ _) = _
    rw [kinds_append, kept.sent, sent, List.replicate_succ', List.append_assoc]
    rfl
  have asked' : kinds (rest ++ [⟨.configure, pd.genConfigPkt⟩]) = front ++ List.replicate
    (k + 1) .configure := by
    rw [kinds_append, asked, List.replicate_succ', List.append_assoc]
    rfl
  have waits : waiting ⟨pd.sendEvent .configure, rest ++ [⟨.configure, pd.genConfigPkt⟩]⟩ =
    k + 1 := by
    rw [waiting_eq asked', List.count_append, List.count_replicate_self]
    obtain rfl | rfl := first <;> exact Nat.zero_add _
  have told := inv.told
  rw [all] at told
  refine ⟨?_, kept.forcedDisconnect.trans inv.unforced, ?_, ?_, ?_, fun r mem asks => ?_⟩
  · obtain rfl | rfl := first
    · exact .asked (k + 1) sent' asked' (Nat.le_refl _) nofun
    · exact .entered sent' asked'
  · rw [waits, decide_eq_false (Nat.lt_irrefl _)]
    exact kept.altModeCfgDone.trans (notDone inv all)
  · exact kept.configure.trans (inv.accepted.trans kept.altModeCfgDone.symm)
  · rw [waits]
    change pd.told.count .configure + (k + 1) ≤ k + 1
    rw [kept.told]
    omega
  · obtain earlier | now := List.mem_append.mp mem
    · rw [kept.sent] at earlier
      exact kept.cap ▸ inv.fits r earlier asks
    · obtain rfl := List.mem_singleton.mp now
      exact fits_genConfigPkt pd

theorem answer_discover (sent : kinds l.pd.sent = [.discoverModes])
    (asked : kinds l.asked = [.discoverModes])
    (none : k = 0) (outside : l.pd.altMode.enter = false) :
    Inv (step l (.answer vdo plugOrientation lanes)) k := by
  subst none
  obtain ⟨rest, tail, next⟩ := step_answer asked vdo plugOrientation lanes
  obtain rfl : rest = [] := List.map_eq_nil_iff.mp tail
  have all : waiting l = 0 := waiting_eq asked
  have unset := notDone inv all
  have told := inv.told
  rw [all] at told
  rw [next]
  cases sink : (l.pd.discovered vdo).cap.port.getLsbD 0 with
  | true =>
    have responds : l.pd.responseCb (ack .discoverModes vdo plugOrientation lanes) =
        (l.pd.discovered vdo).sendEvent .enterMode := if_pos sink
    rw [deliver_sent (l := ⟨l.pd, []⟩) responds rfl]
    have sent' : kinds ((l.pd.discovered vdo).sendEvent .enterMode).sent =
      [.discoverModes, .enterMode] := by
      change kinds (l.pd.sent ++ _) = _
      rw [kinds_append, sent]
      rfl
    exact ⟨.entering sent' rfl rfl outside, inv.unforced, unset, inv.accepted, told,
      fits_of_none sent' (by decide)⟩
  | false =>
    have responds : l.pd.responseCb (ack .discoverModes vdo plugOrientation lanes) =
      l.pd.discovered vdo :=
      if_neg (Bool.eq_false_iff.mp sink)
    rw [deliver_silent (l := ⟨l.pd, []⟩) responds rfl]
    exact ⟨.refused sent rfl rfl outside sink, inv.unforced, unset, inv.accepted, told,
      fits_of_none sent (by decide)⟩

theorem answer_enter (sent : kinds l.pd.sent = [.discoverModes, .enterMode])
    (asked : kinds l.asked = [.enterMode])
    (none : k = 0) : Inv (step l (.answer vdo plugOrientation lanes)) k := by
  subst none
  obtain ⟨rest, tail, next⟩ := step_answer asked vdo plugOrientation lanes
  obtain rfl : rest = [] := List.map_eq_nil_iff.mp tail
  have all : waiting l = 0 := waiting_eq asked
  have unset := notDone inv all
  have told := inv.told
  rw [all] at told
  rw [next, deliver_sent (l := ⟨l.pd, []⟩) rfl rfl]
  have sent' : kinds (({ l.pd with altMode.enter := true } : Pd).sendEvent .status).sent =
      [.discoverModes, .enterMode, .status] := by
    change kinds (l.pd.sent ++ _) = _
    rw [kinds_append, sent]
    rfl
  exact ⟨.entered sent' rfl, inv.unforced, unset, inv.accepted, told,
    fits_of_none sent' (by decide)⟩

theorem answer_status
    (sent : kinds l.pd.sent = [.discoverModes, .enterMode, .status] ++ List.replicate k .configure)
    (asked : kinds l.asked = .status :: List.replicate k .configure) :
    ∃ k', Inv (step l (.answer vdo plugOrientation lanes)) k' := by
  obtain ⟨rest, tail, next⟩ := step_answer asked vdo plugOrientation lanes
  have all : waiting l = k := (waiting_eq asked).trans List.count_replicate_self
  have unconfigured : (!l.pd.altMode.configure) = true := by
    rw [inv.accepted, notDone inv all]
    rfl
  rw [next]
  cases ready : (l.pd.reported vdo).status.port.getLsbD 1 with
  | true =>
    have responds : l.pd.responseCb (ack .status vdo plugOrientation lanes) =
        ({ l.pd.reported vdo with altMode.status := true } : Pd).sendEvent .configure :=
      (if_pos unconfigured).trans (if_pos ready)
    rw [deliver_sent (l := ⟨l.pd, rest⟩) responds rfl]
    exact ⟨k + 1, inv.configures [] ⟨rfl, rfl, rfl, rfl, rfl, rfl⟩ all sent tail (.inl rfl)⟩
  | false =>
    have responds : l.pd.responseCb (ack .status vdo plugOrientation lanes) =
        { l.pd.reported vdo with altMode.status := true } :=
      (if_pos unconfigured).trans (if_neg (Bool.eq_false_iff.mp ready))
    rw [deliver_silent (l := ⟨l.pd, rest⟩) responds rfl]
    refine ⟨k, inv.of_kept ⟨rfl, rfl, rfl, rfl, rfl, rfl⟩
      (.asked k sent tail (Nat.le_refl k) fun _ => ready) ?_⟩
    exact (waiting_eq tail).trans (List.count_replicate_self.trans all.symm)

theorem answer_configure {left : ℕ}
    (sent : kinds l.pd.sent = [.discoverModes, .enterMode, .status] ++ List.replicate k .configure)
    (asked : kinds l.asked = List.replicate (left + 1) .configure) (some : left + 1 ≤ k) :
    Inv (step l (.answer vdo plugOrientation lanes)) k := by
  obtain ⟨rest, tail, next⟩ := step_answer asked vdo plugOrientation lanes
  have before : waiting l = left + 1 := (waiting_eq asked).trans List.count_replicate_self
  have told := inv.told
  rw [before] at told
  have done (pd : Pd) (sent' : pd.sent = l.pd.sent) (cap : pd.cap = l.pd.cap)
    (unforced : pd.forcedDisconnect = l.pd.forcedDisconnect)
      (cfgDone : pd.altModeCfgDone = true) (accepted : pd.altMode.configure = true)
      (once : pd.told.count .configure ≤ l.pd.told.count .configure + 1) : Inv ⟨pd, rest⟩ k := by
    have after : waiting ⟨pd, rest⟩ = left := (waiting_eq tail).trans List.count_replicate_self
    refine ⟨.asked left ?_ tail (by omega) (by omega), unforced.trans inv.unforced, ?_, ?_, ?_, ?_⟩
    · rw [sent', sent]
    · rw [after, cfgDone, decide_eq_true (by omega)]
    · rw [accepted, cfgDone]
    · rw [after]
      change pd.told.count .configure + left ≤ k
      omega
    · rw [sent', cap]
      exact inv.fits
  rw [next]
  let pd := { ({ l.pd with altMode.configure := true, altModeCfgDone := true } : Pd).getStatus with
    orientation := plugOrientation }
  by_cases failed : pd.getSsLanes lanes ≠ 0
  · have responds : l.pd.responseCb (ack .configure vdo plugOrientation lanes) = pd := if_pos failed
    rw [deliver_silent (l := ⟨l.pd, rest⟩) responds rfl]
    exact done pd rfl rfl rfl rfl rfl (Nat.le_succ _)
  · have responds : l.pd.responseCb (ack .configure vdo plugOrientation lanes) =
      pd.tell .configure := if_neg failed
    rw [deliver_silent (l := ⟨l.pd, rest⟩) responds rfl]
    refine done (pd.tell .configure) rfl rfl rfl rfl rfl ?_
    change (l.pd.told ++ [Told.configure]).count .configure ≤ _
    rw [List.count_append]
    exact Nat.le_refl _

/-- An attention in the mode, by whether the configuration has been accepted. -/
theorem attention_cases (inMode : l.pd.altMode.enter = true) (numVdos : ℕ) :
    step l (.attention vdo numVdos) = l ∨
      l.pd.altModeCfgDone = true ∧ step l (.attention vdo numVdos) =
        ⟨(l.pd.reported vdo).tell .attention, l.asked⟩ ∨
      l.pd.altModeCfgDone = false ∧ (l.pd.reported vdo).status.port.getLsbD 1 = true ∧
        step l (.attention vdo numVdos) = ⟨(l.pd.reported vdo).sendEvent .configure,
          l.asked ++ [⟨.configure, (l.pd.reported vdo).genConfigPkt⟩]⟩ ∨
      l.pd.altModeCfgDone = false ∧ (l.pd.reported vdo).status.port.getLsbD 1 = false ∧
        step l (.attention vdo numVdos) = ⟨l.pd.reported vdo, l.asked⟩ := by
  rw [step, if_pos inMode]
  by_cases given : validateCallback .attention .initiator numVdos = true
  · have forced : ¬ l.pd.forcedDisconnect = true := Bool.eq_false_iff.mp inv.unforced
    cases done : l.pd.altModeCfgDone with
    | true =>
      have isDone : ¬ (!l.pd.altModeCfgDone) = true := by rw [done]; decide
      have responds : l.pd.responseCb ⟨.attention, .initiator, vdo, numVdos, 0, fun _ => 0⟩ =
          (l.pd.reported vdo).tell .attention :=
        (if_pos given).trans ((if_neg forced).trans (if_neg isDone))
      exact .inr (.inl ⟨rfl, deliver_silent responds rfl⟩)
    | false =>
      have isOpen : (!l.pd.altModeCfgDone) = true := by rw [done]; rfl
      cases ready : (l.pd.reported vdo).status.port.getLsbD 1 with
      | true =>
        have responds : l.pd.responseCb ⟨.attention, .initiator, vdo, numVdos, 0, fun _ => 0⟩ =
            (l.pd.reported vdo).sendEvent .configure :=
          (if_pos given).trans ((if_neg forced).trans ((if_pos isOpen).trans (if_pos ready)))
        exact .inr (.inr (.inl ⟨rfl, rfl, deliver_sent responds rfl⟩))
      | false =>
        have responds : l.pd.responseCb ⟨.attention, .initiator, vdo, numVdos, 0, fun _ => 0⟩ =
          l.pd.reported vdo :=
          (if_pos given).trans
            ((if_neg forced).trans ((if_pos isOpen).trans (if_neg (Bool.eq_false_iff.mp ready))))
        exact .inr (.inr (.inr ⟨rfl, rfl, deliver_silent responds rfl⟩))
  · have responds : l.pd.responseCb ⟨.attention, .initiator, vdo, numVdos, 0, fun _ => 0⟩ = l.pd :=
      if_neg given
    exact .inl (deliver_silent responds rfl)

theorem attention_keeps (inMode : l.pd.altMode.enter = true) (numVdos : ℕ) :
    ∃ k', Inv (step l (.attention vdo numVdos)) k' := by
  have told := inv.told
  have kept : Kept l.pd (l.pd.reported vdo) := ⟨rfl, rfl, rfl, rfl, rfl, rfl⟩
  obtain ⟨sent, asked⟩ := inv.phase.of_inMode inMode
  obtain same | ⟨done, next⟩ | ⟨unset, ready, next⟩ | ⟨unset, absent, next⟩ :=
    attention_cases inv vdo inMode numVdos
  · exact ⟨k, by rwa [same]⟩
  · rw [inv.cfgDone, decide_eq_true_eq] at done
    have told' : (l.pd.told ++ [Told.attention]).count .configure + waiting l ≤ k := by
      rw [List.count_append]
      exact told
    rw [next]
    refine ⟨k, ?_, inv.unforced, inv.cfgDone, inv.accepted, told', inv.fits⟩
    obtain asked | ⟨left, some, asked⟩ := asked
    · exact .entered sent asked
    · exact .asked left sent asked some (by omega)
  · rw [inv.cfgDone, decide_eq_false_iff_not] at unset
    have all : waiting l = k := by omega
    rw [next]
    obtain asked | ⟨left, some, asked⟩ := asked
    · exact ⟨k + 1, inv.configures [.status] kept all sent asked (.inr rfl)⟩
    · obtain rfl : left = k := ((waiting_eq asked).trans List.count_replicate_self).symm.trans all
      exact ⟨left + 1, inv.configures [] kept all sent asked (.inl rfl)⟩
  · rw [next]
    refine ⟨k, inv.of_kept kept ?_ rfl⟩
    obtain asked | ⟨left, some, asked⟩ := asked
    · exact .entered sent asked
    · exact .asked left sent asked some fun _ => absent

end Step

theorem step_keeps (l : Link) (input : Input) (inv : ∃ k, Inv l k) : ∃ k, Inv (step l input) k := by
  obtain ⟨k, inv⟩ := inv
  cases input with
  | answer vdo plugOrientation lanes =>
    cases inv.phase with
    | discovering sent asked none outside =>
      exact ⟨k, answer_discover inv vdo plugOrientation lanes sent asked none outside⟩
    | refused sent asked => exact ⟨k, (step_answer_none asked vdo plugOrientation lanes).symm ▸ inv⟩
    | entering sent asked none =>
      exact ⟨k, answer_enter inv vdo plugOrientation lanes sent asked none⟩
    | entered sent asked => exact answer_status inv vdo plugOrientation lanes sent asked
    | asked left sent asked some =>
      cases left with
      | zero => exact ⟨k, (step_answer_none asked vdo plugOrientation lanes).symm ▸ inv⟩
      | succ left => exact ⟨k, answer_configure inv vdo plugOrientation lanes sent asked some⟩
  | attention vdo numVdos =>
    by_cases inMode : l.pd.altMode.enter = true
    · exact attention_keeps inv vdo inMode numVdos
    · exact ⟨k, by rwa [step, if_neg inMode]⟩

theorem inv_connected (peerUsbComm : Bool) : Inv (connected peerUsbComm) 0 :=
  have sent : kinds (connected peerUsbComm).pd.sent = [.discoverModes] := rfl
  ⟨.discovering sent rfl rfl rfl, rfl, rfl, rfl, Nat.le_refl 0, fits_of_none sent (by decide)⟩

/-- The requests go out in their order, each configuration with a packet that fits.  When all have
    been answered the display is configured, or the partner has no sink to offer, or it has reported
    none and the driver waits for its attention. -/
theorem negotiation_ends (peerUsbComm : Bool) (inputs : List Input) :
    let l := run step (connected peerUsbComm) inputs
    (∀ r ∈ l.pd.sent, r.cmd = .configure → Fits l.pd.cap r.packet) ∧
    ∃ k, kinds l.pd.sent <+: [.discoverModes, .enterMode, .status] ++ List.replicate k .configure ∧
      l.pd.told.count .configure ≤ k ∧
      (l.asked = [] →
        kinds l.pd.sent = [.discoverModes] ∧ l.pd.cap.port.getLsbD 0 = false ∨
        kinds l.pd.sent = [.discoverModes, .enterMode, .status] ++ List.replicate k .configure ∧
          (l.pd.altModeCfgDone = true ↔ 0 < k) ∧ (k = 0 → l.pd.status.port.getLsbD 1 = false)) := by
  obtain ⟨k, inv⟩ :=
    run_invariant (fun l => ∃ k, Inv l k) step_keeps ⟨0, inv_connected peerUsbComm⟩ inputs
  generalize run step (connected peerUsbComm) inputs = l at inv
  refine ⟨inv.fits, k, ?_, (Nat.le_add_right _ _).trans inv.told, fun answered => ?_⟩
  · cases inv.phase with
    | discovering sent => rw [sent]; exact ⟨_, rfl⟩
    | refused sent => rw [sent]; exact ⟨_, rfl⟩
    | entering sent => rw [sent]; exact ⟨_, rfl⟩
    | entered sent => exact sent ▸ List.prefix_refl _
    | asked left sent => exact sent ▸ List.prefix_refl _
  · have none : waiting l = 0 := by rw [waiting, answered]; rfl
    cases inv.phase with
    | discovering sent asked => rw [answered] at asked; cases asked
    | refused sent asked none outside noSink => exact .inl ⟨sent, noSink⟩
    | entering sent asked => rw [answered] at asked; cases asked
    | entered sent asked => rw [answered] at asked; cases asked
    | asked left sent asked some absent =>
      refine .inr ⟨sent, ?_, absent⟩
      rw [inv.cfgDone, none, decide_eq_true_eq]

end DisplayDrivers.Usbpd
