import Mathlib.Data.List.Basic

/-! # Streams of the DP controller (`msm/dp/dp_ctrl.c`, `msm/dp/dp_power.c`)

The controller counts the streams it has turned on in `stream_count`; the power module enables the
pixel clock of a stream and remembers that in `strm0_clks_on` and `strm1_clks_on`.
-/

namespace DisplayDrivers.Dp

abbrev U32 := BitVec 32

def EPERM : Int := 1
def EINVAL : Int := 22

/-- `enum dp_stream_id`. -/
inductive StreamId
  | stream0
  | stream1
  | max
deriving DecidableEq

/-- `struct dp_power_private`: what it remembers of the stream clocks, and the enable count the
    clock framework keeps of each pixel clock. -/
structure DpPower where
  strmClksOn : StreamId → Bool
  pixelClk : StreamId → ℕ

/-- `struct dp_ctrl_private`. -/
structure DpCtrl where
  powerOn : Bool
  mstMode : Bool
  fecMode : Bool
  streamCount : U32
  power : DpPower

/-- `dp_power_clk_enable(.., true)` for the module of a stream; the clocks of the module are
    enabled together or not at all. -/
def dpPowerClkEnable (power : DpPower) (stream : StreamId) (clkRc : Int) : DpPower × Int :=
  if power.strmClksOn stream then (power, 0)
  else if clkRc ≠ 0 then (power, clkRc)
  else
    ({ strmClksOn := Function.update power.strmClksOn stream true
       pixelClk := Function.update power.pixelClk stream (power.pixelClk stream + 1) }, 0)

/-- `dp_power_clk_enable(.., false)`; the framework leaves a clock that is off alone. -/
def dpPowerClkDisable (power : DpPower) (stream : StreamId) : DpPower :=
  { strmClksOn := Function.update power.strmClksOn stream false
    pixelClk := Function.update power.pixelClk stream (power.pixelClk stream - 1) }

def dpPowerSetPixelClkParent : StreamId → Int
  | .max => -EINVAL
  | _ => 0

def dpCtrlEnableStreamClocks (ctrl : DpCtrl) (stream : StreamId) (clkRc : Int) : DpCtrl × Int :=
  if dpPowerSetPixelClkParent stream ≠ 0 then (ctrl, dpPowerSetPixelClkParent stream)
  else
    let enabled := dpPowerClkEnable ctrl.power stream clkRc
    ({ ctrl with power := enabled.1 }, if enabled.2 ≠ 0 then -EINVAL else 0)

def dpCtrlDisableStreamClocks (ctrl : DpCtrl) (stream : StreamId) : DpCtrl :=
  match stream with
  | .max => ctrl
  | _ => { ctrl with power := dpPowerClkDisable ctrl.power stream }

/-- The answers `stream_on` gets, and the PHY test pattern bit of `sink_request`. -/
structure StreamOnEnv where
  clkRc : Int
  hwCfgRc : Int
  phyTestPattern : Bool

def dpCtrlStreamOn (ctrl : DpCtrl) (stream : StreamId) (env : StreamOnEnv) : DpCtrl × Int :=
  let enabled := dpCtrlEnableStreamClocks ctrl stream env.clkRc
  if enabled.2 ≠ 0 then enabled
  else if env.hwCfgRc ≠ 0 then (enabled.1, env.hwCfgRc)
  else if env.phyTestPattern then (enabled.1, 0)
  else ({ enabled.1 with streamCount := enabled.1.streamCount + 1 }, 0)

def dpCtrlStreamOff (ctrl : DpCtrl) (stream : StreamId) : DpCtrl :=
  if ctrl.powerOn then
    let disabled := dpCtrlDisableStreamClocks ctrl stream
    { disabled with streamCount := disabled.streamCount - 1 }
  else ctrl

/-- The arguments of `on` and what it finds: the controller aborted, the link set up or not. -/
structure OnEnv where
  mstMode : Bool
  fecMode : Bool
  aborted : Bool
  linkSetupRc : Int

def dpCtrlOn (ctrl : DpCtrl) (env : OnEnv) : DpCtrl × Int :=
  if ctrl.powerOn then (ctrl, 0)
  else if env.aborted then (ctrl, -EPERM)
  else
    let ctrl := { ctrl with mstMode := env.mstMode, fecMode := env.fecMode }
    if env.linkSetupRc ≠ 0 then (ctrl, env.linkSetupRc) else ({ ctrl with powerOn := true }, 0)

def dpCtrlOff (ctrl : DpCtrl) : DpCtrl :=
  if ctrl.powerOn then { ctrl with mstMode := false, fecMode := false, powerOn := false }
  else ctrl

/-! ## Runs -/

/-- The controller, the streams whose `stream_on` returned 0 and that were not turned off since,
    and whether the count ever went below zero or over its width. -/
structure Session where
  ctrl : DpCtrl
  on : StreamId → Bool
  wrapped : Bool

def Session.init : Session :=
  { ctrl :=
      { powerOn := false, mstMode := false, fecMode := false, streamCount := 0
        power := { strmClksOn := fun _ => false, pixelClk := fun _ => 0 } }
    on := fun _ => false
    wrapped := false }

def streamOn (session : Session) (stream : StreamId) (env : StreamOnEnv) : Session :=
  let result := dpCtrlStreamOn session.ctrl stream env
  { ctrl := result.1
    on := if result.2 = 0 then Function.update session.on stream true else session.on
    wrapped := session.wrapped || decide (result.1.streamCount < session.ctrl.streamCount) }

def streamOff (session : Session) (stream : StreamId) : Session :=
  let ctrl := dpCtrlStreamOff session.ctrl stream
  { ctrl
    on := Function.update session.on stream false
    wrapped := session.wrapped || decide (session.ctrl.streamCount < ctrl.streamCount) }

/-- `dp_ctrl_process_phy_test_request`, on the panel of the controller. -/
def dpCtrlProcessPhyTestRequest (session : Session) (phyTestPatternSel : U32) (panel : StreamId)
    (onEnv : OnEnv) (streamOnEnv : StreamOnEnv) : Session :=
  if phyTestPatternSel = 0 then session
  else
    let off := streamOff session panel
    let off := { off with ctrl := dpCtrlOff off.ctrl }
    -- a failure of `on` is reported, and the stream is turned on all the same
    let on := (dpCtrlOn off.ctrl
      { onEnv with mstMode := off.ctrl.mstMode, fecMode := off.ctrl.fecMode }).1
    streamOn { off with ctrl := on } panel streamOnEnv

inductive Call
  | on (env : OnEnv)
  | streamOn (stream : StreamId) (env : StreamOnEnv)
  | streamPreOff (stream : StreamId)
  | streamOff (stream : StreamId)
  | off
  | phyTest (phyTestPatternSel : U32) (panel : StreamId) (onEnv : OnEnv)
      (streamOnEnv : StreamOnEnv)

def step (session : Session) : Call → Session
  | .on env => { session with ctrl := (dpCtrlOn session.ctrl env).1 }
  | .streamOn stream env => streamOn session stream env
  -- the idle pattern and the MST channels: the hardware only
  | .streamPreOff _ => session
  | .streamOff stream => streamOff session stream
  | .off => { session with ctrl := dpCtrlOff session.ctrl }
  | .phyTest phyTestPatternSel panel onEnv streamOnEnv =>
    dpCtrlProcessPhyTestRequest session phyTestPatternSel panel onEnv streamOnEnv

end DisplayDrivers.Dp
