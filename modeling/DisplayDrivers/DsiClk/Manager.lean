import DisplayDrivers.DsiClk.Clocks

/-! # The DSI clock manager (`msm/dsi/dsi_clk_manager.c`)

Clients vote for the state of the core and of the link clocks; the manager keeps the strongest vote
and drives the clocks to it.
-/

namespace DisplayDrivers.DsiClk

open DisplayDrivers.Lib.Requests

abbrev U32 := BitVec 32

/-! ## Clients -/

/-- The reference count and the state of one kind of clocks in `struct dsi_clk_client_info`. -/
structure Vote where
  refcount : U32 := 0
  clkState : DsiClkState := .off
deriving DecidableEq

/-- The part of `dsi_clk_req_state` about one kind of clocks, which it does when `clk` names that
    kind, and whether it sets `changed`. -/
def Vote.request (v : Vote) (named : Bool) (state : DsiClkState) : Vote × Bool :=
  if !named then (v, false)
  else if state = .on then
    ({ refcount := v.refcount + 1, clkState := .on }, decide (v.clkState ≠ .on))
  -- OFF or EARLY_GATE without a reference: only the way from EARLY_GATE to OFF counts
  else if v.refcount = 0 then
    if v.clkState = .earlyGate ∧ state = .off then ({ v with clkState := .off }, true)
    else (v, false)
  -- the last reference goes, and with it the vote for ON
  else if v.refcount - 1 = 0 then ({ refcount := 0, clkState := state }, true)
  else ({ v with refcount := v.refcount - 1 }, false)

/-- `struct dsi_clk_client_info`; `handle` stands for its address. -/
structure DsiClkClientInfo where
  handle : Nat
  core : Vote := {}
  link : Vote := {}
deriving DecidableEq

/-- `struct dsi_clk_mngr`.  `made` counts the clients ever allocated and numbers the next. -/
structure DsiClkMngr where
  info : DsiClkInfo
  clientList : List DsiClkClientInfo := []
  coreClkState : DsiClkState := .off
  linkClkState : DsiClkState := .off
  device : Device ClkEvent := granting []
  made : Nat := 0

namespace DsiClkMngr

def perform (m : DsiClkMngr) (op : Op ClkEvent) : DsiClkMngr × Int :=
  ({ m with device := (op m.device).1 }, (op m.device).2)

def store (m : DsiClkMngr) (c : DsiClkClientInfo) : DsiClkMngr :=
  { m with clientList := m.clientList.map fun d => if d.handle = c.handle then c else d }

end DsiClkMngr

/-! ## `dsi_update_clk_state` -/

def dsiClkUpdateLinkClkState (info : DsiClkInfo) (lType : DsiLclkType) (lState : DsiClkState)
    (enable : Bool) : Op ClkEvent :=
  if enable then
    andThen (attempt (.callback .preClkon DSI_LINK_CLK lType lState))
      (andThen (dsiDisplayLinkClkEnable info lType)
        (whenever info.postClkonCb (attempt (.callback .postClkon DSI_LINK_CLK lType lState))))
  else
    andThen
      (ignoring
        (whenever info.preClkoffCb (attempt (.callback .preClkoff DSI_LINK_CLK lType lState))))
      (andThen (dsiDisplayLinkClkDisable info lType)
        (whenever info.postClkoffCb (attempt (.callback .postClkoff DSI_LINK_CLK lType lState))))

/-- `if (c_clks && (c_state == DSI_CLK_ON))`.  A failing `post_clkon_cb` leaves its code in `rc`
    but does not stop the update. -/
def turnCoreOn (m : DsiClkMngr) (cClks : Bool) (cState : DsiClkState) :
    DsiClkMngr × Except Int Int :=
  if cClks ∧ cState = .on then
    let started := m.perform
      (andThen
        -- from EARLY_GATE the callback is left out
        (whenever (m.coreClkState = .off)
          (attempt (.callback .preClkon DSI_CORE_CLK DSI_LINK_NONE .on)))
        (dsiDisplayCoreClkEnable m.info))
    if started.2 ≠ 0 then (started.1, .error started.2)
    else
      let told := started.1.perform
        (whenever m.info.postClkonCb
          (attempt (.callback .postClkon DSI_CORE_CLK DSI_LINK_NONE .on)))
      ({ told.1 with coreClkState := .on }, .ok told.2)
  else (m, .ok 0)

def wakes (core link lState : DsiClkState) : Bool :=
  lState = .off ∧ link = .earlyGate ∧ core ≠ .on

def keeps (core : DsiClkState) (cClks : Bool) (cState : DsiClkState) : Bool :=
  cClks ∧ cState = .off ∧ core = .earlyGate

/-- `if (l_clks)`: the link clocks.  On the way from EARLY_GATE to OFF they need the core clocks,
    which are turned on (`wakes`) and off again unless the last part will do so (`keeps`).  The
    second component of the result is `l_c_on`. -/
def updateLink (m : DsiClkMngr) (cClks : Bool) (cState : DsiClkState) (lClks : Bool)
    (lState : DsiClkState) (rc : Int) : DsiClkMngr × Except Int (Int × Bool) :=
  if lClks then
    if lState = .on then
      let done := m.perform
        (andThen (dsiClkUpdateLinkClkState m.info DSI_LINK_LP_CLK lState true)
          (dsiClkUpdateLinkClkState m.info DSI_LINK_HS_CLK lState true))
      if done.2 ≠ 0 then (done.1, .error done.2)
      else ({ done.1 with linkClkState := lState }, .ok (done.2, false))
    else
      let wake := wakes m.coreClkState m.linkClkState lState
      let keep := keeps m.coreClkState cClks cState
      let done := m.perform
        (andThen
          (whenever wake
            -- the types are distinct bits, so their conjunction names no link clock
            (andThen (dsiDisplayCoreClkEnable m.info)
              (dsiDisplayLinkClkEnable m.info (DSI_LINK_LP_CLK &&& DSI_LINK_HS_CLK))))
          (andThen (dsiClkUpdateLinkClkState m.info DSI_LINK_HS_CLK lState false)
            (andThen (dsiClkUpdateLinkClkState m.info DSI_LINK_LP_CLK lState false)
              (whenever (wake && !keep) (dsiDisplayCoreClkDisable m.info)))))
      if done.2 ≠ 0 then (done.1, .error done.2)
      else ({ done.1 with linkClkState := lState }, .ok (done.2, wake && keep))
  else (m, .ok (rc, false))

/-- `if (c_clks && (c_state != DSI_CLK_ON))`.  On the way from EARLY_GATE to OFF the core clocks
    are turned on first, unless `l_c_on` says that they are. -/
def turnCoreOff (m : DsiClkMngr) (cClks : Bool) (cState : DsiClkState) (lCOn : Bool) (rc : Int) :
    DsiClkMngr × Int :=
  if cClks ∧ cState ≠ .on then
    let stopped := m.perform
      (andThen
        (whenever (cState = .off ∧ m.coreClkState = .earlyGate ∧ !lCOn)
          (dsiDisplayCoreClkEnable m.info))
        (andThen
          (ignoring
            (whenever m.info.preClkoffCb
              (attempt (.callback .preClkoff DSI_CORE_CLK DSI_LINK_NONE cState))))
          (dsiDisplayCoreClkDisable m.info)))
    if stopped.2 ≠ 0 then stopped
    else
      let told := stopped.1.perform
        (whenever (cState = .off ∧ m.info.postClkoffCb)
          (attempt (.callback .postClkoff DSI_CORE_CLK DSI_LINK_NONE .off)))
      ({ told.1 with coreClkState := cState }, told.2)
  else (m, rc)

/-- `dsi_update_clk_state`; `cClks` and `lClks` say whether the pointers are not NULL. -/
def dsiUpdateClkState (m : DsiClkMngr) (cClks : Bool) (cState : DsiClkState) (lClks : Bool)
    (lState : DsiClkState) : DsiClkMngr × Int :=
  match turnCoreOn m cClks cState with
  | (m, .error rc) => (m, rc)
  | (m, .ok rc) =>
    match updateLink m cClks cState lClks lState rc with
    | (m, .error rc) => (m, rc)
    | (m, .ok (rc, lCOn)) => turnCoreOff m cClks cState lCOn rc

/-! ## The entry points -/

/-- The two loops of `dsi_recheck_clk_state` over the clients' states: ON stops the loop. -/
def newClkState (state : DsiClkState) : List DsiClkState → DsiClkState
  | [] => state
  | s :: rest =>
    if s = .on then .on
    else if s = .earlyGate then newClkState .earlyGate rest
    else newClkState state rest

def newCoreClkState (clients : List DsiClkClientInfo) : DsiClkState :=
  newClkState .off (clients.map fun c => c.core.clkState)

def newLinkClkState (clients : List DsiClkClientInfo) : DsiClkState :=
  newClkState .off (clients.map fun c => c.link.clkState)

def dsiRecheckClkState (m : DsiClkMngr) : DsiClkMngr × Int :=
  let core := newCoreClkState m.clientList
  let link := newLinkClkState m.clientList
  if core ≠ m.coreClkState ∨ link ≠ m.linkClkState then
    dsiUpdateClkState m (core ≠ m.coreClkState) core (link ≠ m.linkClkState) link
  else (m, 0)

/-- `dsi_clk_req_state`.  A handle that is not registered is answered like NULL. -/
def dsiClkReqState (m : DsiClkMngr) (client : Nat) (clk : DsiClkType) (state : DsiClkState) :
    DsiClkMngr × Int :=
  match m.clientList.find? (fun c => c.handle = client) with
  | none => (m, -EINVAL)
  | some c =>
    if clk = 0 ∨ clk > DSI_CORE_CLK ||| DSI_LINK_CLK then (m, -EINVAL)
    else
      let core := c.core.request (clk &&& DSI_CORE_CLK ≠ 0) state
      let link := c.link.request (clk &&& DSI_LINK_CLK ≠ 0) state
      let m := m.store { c with core := core.1, link := link.1 }
      if core.2 || link.2 then dsiRecheckClkState m else (m, 0)

/-- `dsi_register_clk_handle`; `allocated` is the answer of `kzalloc`. -/
def dsiRegisterClkHandle (m : DsiClkMngr) (allocated : Bool) : DsiClkMngr :=
  if allocated then
    { m with clientList := { handle := m.made } :: m.clientList, made := m.made + 1 }
  else m

def dsiDeregisterClkHandle (m : DsiClkMngr) (client : Nat) : DsiClkMngr × Int :=
  match m.clientList.find? (fun c => c.handle = client) with
  | none => (m, -EINVAL)
  | some c =>
    let m := m.store
      { c with core := { c.core with clkState := .off }, link := { c.link with clkState := .off } }
    let done := dsiRecheckClkState m
    if done.2 ≠ 0 then done
    else
      ({ done.1 with clientList := done.1.clientList.eraseP (fun c => c.handle = client) }, done.2)

inductive Call
  | register (allocated : Bool)
  | reqState (client : Nat) (clk : DsiClkType) (state : DsiClkState)
  | deregister (client : Nat)

def perform (m : DsiClkMngr) (call : Call) (answers : Nat → Int) : DsiClkMngr × Int :=
  let m := { m with device := { m.device with answers := answers } }
  match call with
  | .register allocated => (dsiRegisterClkHandle m allocated, 0)
  | .reqState client clk state => dsiClkReqState m client clk state
  | .deregister client => dsiDeregisterClkHandle m client

def idle (info : DsiClkInfo) : DsiClkMngr := { info := info }

end DisplayDrivers.DsiClk
