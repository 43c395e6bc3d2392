import DisplayDrivers.Lib.Requests

/-! # The clocks under the DSI clock manager (`msm/dsi/dsi_clk_manager.c`)

What the driver asks of the clock framework, the bus and the power handle is a log of `ClkEvent`s;
each function is the operation on that log that the driver performs, error labels included.
-/

namespace DisplayDrivers.DsiClk

open DisplayDrivers.Lib.Requests

def EINVAL : Int := 22
def MAX_DSI_CTRL : Nat := 2

/-- `enum dsi_clk_state`. -/
inductive DsiClkState
  | off
  | on
  | earlyGate
deriving DecidableEq

/-- `enum dsi_lclk_type`, a bit mask. -/
abbrev DsiLclkType := Nat

def DSI_LINK_NONE : DsiLclkType := 0
def DSI_LINK_LP_CLK : DsiLclkType := 1
def DSI_LINK_HS_CLK : DsiLclkType := 2

/-- `enum dsi_clk_type`, a bit mask. -/
abbrev DsiClkType := Nat

def DSI_CORE_CLK : DsiClkType := 1
def DSI_LINK_CLK : DsiClkType := 2

/-- `enum dsi_link_clk_op_type`, a bit mask. -/
abbrev DsiLinkClkOpType := Nat

def DSI_LINK_CLK_SET_RATE : DsiLinkClkOpType := 1
def DSI_LINK_CLK_PREPARE : DsiLinkClkOpType := 2
def DSI_LINK_CLK_ENABLE : DsiLinkClkOpType := 4
def DSI_LINK_CLK_START : DsiLinkClkOpType := 1 ||| 2 ||| 4

/-- The clocks of `struct dsi_core_clk_info`. -/
inductive CoreClk
  | mdpCoreClk
  | mnocClk
  | ifaceClk
  | busClk
  | coreMmssClk
deriving DecidableEq

/-- The clocks of `struct dsi_link_lp_clk_info` and `struct dsi_link_hs_clk_info`. -/
inductive LinkClk
  | escClk
  | byteClk
  | pixelClk
  | byteIntfClk
deriving DecidableEq

inductive Clk
  | core (ctrl : Nat) (clk : CoreClk)
  | link (ctrl : Nat) (clk : LinkClk)
deriving DecidableEq

inductive Callback
  | preClkon
  | postClkon
  | preClkoff
  | postClkoff

inductive ClkEvent
  | setRate (clk : Clk)
  | prepare (clk : Clk)
  | unprepare (clk : Clk)
  | enable (clk : Clk)
  | disable (clk : Clk)
  | prepareEnable (clk : Clk)
  | disableUnprepare (clk : Clk)
  | busVote (ctrl : Nat) (on : Bool)
  | power (ctrl : Nat) (on : Bool)
  | counted (ctrl : Nat) (on : Bool)
  | callback (cb : Callback) (clkType : DsiClkType) (lType : DsiLclkType) (state : DsiClkState)

/-- `struct dsi_clk_info`: the controllers of the display, which of their optional clocks exist,
    and which callbacks are registered.  `pre_clkon_cb` always is: the core clocks are turned on
    through it without a test. -/
structure DsiClkInfo where
  dsiCtrlCount : Nat
  masterNdx : Nat
  hasCoreClk : Nat → CoreClk → Bool
  hasBusHandle : Nat → Bool
  hasByteIntfClk : Nat → Bool
  postClkonCb : Bool
  preClkoffCb : Bool
  postClkoffCb : Bool
  isContSplashEnabled : Bool
  ctrlCount_le : dsiCtrlCount ≤ MAX_DSI_CTRL
  masterNdx_lt : masterNdx < MAX_DSI_CTRL

variable (info : DsiClkInfo)

def DsiClkInfo.others : List Nat :=
  (List.range info.dsiCtrlCount).filter fun i => i ≠ info.masterNdx

/-! ## Core clocks -/

/-- The order in which `dsi_core_clk_start` turns the clocks on. -/
def coreClkOrder : List CoreClk := [.mdpCoreClk, .mnocClk, .ifaceClk, .busClk, .coreMmssClk]

/-- `dsi_core_clk_start`: a failure turns the clocks before it off again. -/
def dsiCoreClkStart (ctrl : Nat) : Op ClkEvent :=
  coreClkOrder.foldr
    (fun clk rest =>
      andThen (whenever (info.hasCoreClk ctrl clk) (attempt (.prepareEnable (.core ctrl clk))))
        (onError rest
          (whenever (info.hasCoreClk ctrl clk) (issue (.disableUnprepare (.core ctrl clk))))))
    (whenever (info.hasBusHandle ctrl) (attempt (.busVote ctrl true)))

def dsiCoreClkStop (ctrl : Nat) : Op ClkEvent :=
  andThen (whenever (info.hasBusHandle ctrl) (attempt (.busVote ctrl false)))
    (forEach coreClkOrder.reverse fun clk =>
      whenever (info.hasCoreClk ctrl clk) (issue (.disableUnprepare (.core ctrl clk))))

/-- `sde_power_resource_enable` moves the count of the controller's client before anything of it can
    fail, and leaves it moved where something does. -/
def sdePowerResourceEnable (ctrl : Nat) (enable : Bool) : Op ClkEvent :=
  onError (attempt (.power ctrl enable)) (issue (.counted ctrl enable))

/-- `dsi_display_core_clk_enable`: the master controller first. -/
def dsiDisplayCoreClkEnable : Op ClkEvent :=
  andThen (sdePowerResourceEnable info.masterNdx true)
    (onError
      (andThen (dsiCoreClkStart info info.masterNdx)
        (onError
          (forEach info.others fun i =>
            andThen (sdePowerResourceEnable i true)
              (onError (dsiCoreClkStart info i) (ignoring (sdePowerResourceEnable i false))))
          (ignoring (dsiCoreClkStop info info.masterNdx))))
      (ignoring (sdePowerResourceEnable info.masterNdx false)))

/-- `dsi_display_core_clk_disable`: the master controller last. -/
def dsiDisplayCoreClkDisable : Op ClkEvent :=
  andThen
    (forEach info.others fun i => andThen (dsiCoreClkStop info i) (sdePowerResourceEnable i false))
    (andThen (dsiCoreClkStop info info.masterNdx) (sdePowerResourceEnable info.masterNdx false))

/-! ## Link clocks -/

def dsiLinkHsClkSetRate (ctrl : Nat) : Op ClkEvent :=
  if MAX_DSI_CTRL ≤ ctrl then fail (-EINVAL)
  else if info.isContSplashEnabled then skip
  else
    andThen (attempt (.setRate (.link ctrl .byteClk)))
      (andThen (attempt (.setRate (.link ctrl .pixelClk)))
        (whenever (info.hasByteIntfClk ctrl) (attempt (.setRate (.link ctrl .byteIntfClk)))))

/-- `dsi_link_hs_clk_prepare` and `dsi_link_hs_clk_enable`: the byte, the pixel and, where it
    exists, the byte interface clock are turned on in turn; a failure undoes the ones before. -/
def hsClkOn (turnOn turnOff : Clk → ClkEvent) (ctrl : Nat) : Op ClkEvent :=
  andThen (attempt (turnOn (.link ctrl .byteClk)))
    (onError
      (andThen (attempt (turnOn (.link ctrl .pixelClk)))
        (onError
          (whenever (info.hasByteIntfClk ctrl) (attempt (turnOn (.link ctrl .byteIntfClk))))
          (issue (turnOff (.link ctrl .pixelClk)))))
      (issue (turnOff (.link ctrl .byteClk))))

/-- `dsi_link_hs_clk_unprepare` and `dsi_link_hs_clk_disable`: the other way round. -/
def hsClkOff (turnOff : Clk → ClkEvent) (ctrl : Nat) : Op ClkEvent :=
  andThen (whenever (info.hasByteIntfClk ctrl) (issue (turnOff (.link ctrl .byteIntfClk))))
    (andThen (issue (turnOff (.link ctrl .pixelClk))) (issue (turnOff (.link ctrl .byteClk))))

def dsiLinkHsClkPrepare : Nat → Op ClkEvent := hsClkOn info .prepare .unprepare
def dsiLinkHsClkUnprepare : Nat → Op ClkEvent := hsClkOff info .unprepare
def dsiLinkHsClkEnable : Nat → Op ClkEvent := hsClkOn info .enable .disable
def dsiLinkHsClkDisable : Nat → Op ClkEvent := hsClkOff info .disable

def dsiLinkHsClkStart (opType : DsiLinkClkOpType) (ctrl : Nat) : Op ClkEvent :=
  if MAX_DSI_CTRL ≤ ctrl then fail (-EINVAL)
  else
    andThen (whenever (opType &&& DSI_LINK_CLK_SET_RATE ≠ 0) (dsiLinkHsClkSetRate info ctrl))
      (andThen (whenever (opType &&& DSI_LINK_CLK_PREPARE ≠ 0) (dsiLinkHsClkPrepare info ctrl))
        (onError
          (whenever (opType &&& DSI_LINK_CLK_ENABLE ≠ 0) (dsiLinkHsClkEnable info ctrl))
          (dsiLinkHsClkUnprepare info ctrl)))

def dsiLinkHsClkStop (ctrl : Nat) : Op ClkEvent :=
  andThen (dsiLinkHsClkDisable info ctrl) (dsiLinkHsClkUnprepare info ctrl)

def dsiLinkLpClkStart (ctrl : Nat) : Op ClkEvent :=
  if MAX_DSI_CTRL ≤ ctrl then fail (-EINVAL)
  else
    andThen (whenever (!info.isContSplashEnabled) (attempt (.setRate (.link ctrl .escClk))))
      (onError (attempt (.prepareEnable (.link ctrl .escClk)))
        (issue (.unprepare (.link ctrl .escClk))))

def dsiLinkLpClkStop (ctrl : Nat) : Op ClkEvent := issue (.disableUnprepare (.link ctrl .escClk))

/-- The body of both halves of `dsi_display_link_clk_enable`. -/
def linkClkStart (lType : DsiLclkType) (ctrl : Nat) : Op ClkEvent :=
  andThen (whenever (lType &&& DSI_LINK_LP_CLK ≠ 0) (dsiLinkLpClkStart info ctrl))
    (whenever (lType &&& DSI_LINK_HS_CLK ≠ 0) (dsiLinkHsClkStart info DSI_LINK_CLK_START ctrl))

/-- `dsi_display_link_clk_enable`: the master controller first. -/
def dsiDisplayLinkClkEnable (lType : DsiLclkType) : Op ClkEvent :=
  andThen (linkClkStart info lType info.masterNdx)
    (onError (forEach info.others (linkClkStart info lType))
      -- a failure of another controller stops the master's clocks of a single type only
      (if lType = DSI_LINK_LP_CLK then dsiLinkLpClkStop info.masterNdx
       else if lType = DSI_LINK_HS_CLK then dsiLinkHsClkStop info info.masterNdx
       else skip))

/-- The body of both halves of `dsi_display_link_clk_disable`, which cannot fail. -/
def linkClkStop (lType : DsiLclkType) (ctrl : Nat) : Op ClkEvent :=
  andThen (whenever (lType &&& DSI_LINK_LP_CLK ≠ 0) (dsiLinkLpClkStop ctrl))
    (whenever (lType &&& DSI_LINK_HS_CLK ≠ 0) (dsiLinkHsClkStop info ctrl))

/-- `dsi_display_link_clk_disable`: the master controller last. -/
def dsiDisplayLinkClkDisable (lType : DsiLclkType) : Op ClkEvent :=
  andThen (forEach info.others (linkClkStop info lType)) (linkClkStop info lType info.masterNdx)

end DisplayDrivers.DsiClk
