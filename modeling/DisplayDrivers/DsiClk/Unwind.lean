import DisplayDrivers.DsiClk.Sequences
import DisplayDrivers.Lib.Requests
import Mathlib.Tactic.Abel

/-! # Clock starts that fail

What `dsi_display_core_clk_enable` and `dsi_display_link_clk_enable` leave behind when one of their
requests is refused. The HS link clocks are taken back whatever fails, and the core clocks whatever
fails but a power enable, which leaves its count raised.
-/

namespace DisplayDrivers.DsiClk

open DisplayDrivers.Lib.Requests

/-! ## Counters -/

inductive Counter
  | prepareCount (clk : Clk)
  | enableCount (clk : Clk)
  | busVote (ctrl : Nat)
  | power (ctrl : Nat)
deriving DecidableEq

def Counter.once (c : Counter) : Counter → Int := fun c' => if c' = c then 1 else 0

def ClkEvent.weigh : ClkEvent → Counter → Int
  | .prepare clk => Counter.once (.prepareCount clk)
  | .unprepare clk => -Counter.once (.prepareCount clk)
  | .enable clk => Counter.once (.enableCount clk)
  | .disable clk => -Counter.once (.enableCount clk)
  | .prepareEnable clk => Counter.once (.prepareCount clk) + Counter.once (.enableCount clk)
  | .disableUnprepare clk =>
    -(Counter.once (.prepareCount clk) + Counter.once (.enableCount clk))
  | .busVote ctrl true => Counter.once (.busVote ctrl)
  | .busVote ctrl false => -Counter.once (.busVote ctrl)
  | .power ctrl true => Counter.once (.power ctrl)
  | .power ctrl false => -Counter.once (.power ctrl)
  | .counted ctrl true => Counter.once (.power ctrl)
  | .counted ctrl false => -Counter.once (.power ctrl)
  | _ => 0

variable (info : DsiClkInfo)

theorem others_cases :
    info.others = [] ∨ ∃ i, info.others = [i] ∧ i ≠ info.masterNdx ∧ i < MAX_DSI_CTRL := by
  have count := info.ctrlCount_le
  have master := info.masterNdx_lt
  rw [MAX_DSI_CTRL] at count master
  have counts : info.dsiCtrlCount = 0 ∨ info.dsiCtrlCount = 1 ∨ info.dsiCtrlCount = 2 := by omega
  have masters : info.masterNdx = 0 ∨ info.masterNdx = 1 := by omega
  rcases counts with zero | one | two
  · simp [DsiClkInfo.others, zero]
  · rcases masters with first | second
    · simp [DsiClkInfo.others, one, first]
    · simp [DsiClkInfo.others, one, second, MAX_DSI_CTRL]
  · rcases masters with first | second
    · simp [DsiClkInfo.others, two, first, MAX_DSI_CTRL, List.range_succ]
    · simp [DsiClkInfo.others, two, second, MAX_DSI_CTRL, List.range_succ]

variable {d : Nat → Counter → Int} {body : Nat → Op ClkEvent}

theorem nets_others {plan : Nat → List (ClkEvent × (Counter → Int))}
    (h : ∀ i < MAX_DSI_CTRL, Nets ClkEvent.weigh (body i) (d i) (plan i)) :
    Nets ClkEvent.weigh (forEach info.others body) (info.others.map d).sum
      (info.others.flatMap plan) := by
  rcases others_cases info with none | ⟨i, one, -, inRange⟩
  · simpa [none] using nets_forEach_nil body
  · simpa [one] using nets_forEach_singleton (h i inRange)

theorem clean_others {requests : Nat → List ClkEvent}
    (h : ∀ i < MAX_DSI_CTRL, Clean ClkEvent.weigh (body i) (d i) (requests i)) :
    Clean ClkEvent.weigh (forEach info.others body) (info.others.map d).sum
      (info.others.flatMap requests) := by
  have nets := nets_others info h
  rwa [← List.map_flatMap] at nets

/-! ## Core clocks -/

/-- The requests of `dsi_core_clk_start`. -/
def coreRequests (ctrl : Nat) : List ClkEvent :=
  (coreClkOrder.flatMap fun clk =>
    if info.hasCoreClk ctrl clk then [.prepareEnable (.core ctrl clk)] else []) ++
  (if info.hasBusHandle ctrl then [.busVote ctrl true] else [])

def coreClkCount (ctrl : Nat) (clk : CoreClk) : Counter → Int :=
  if info.hasCoreClk ctrl clk then ClkEvent.weigh (.prepareEnable (.core ctrl clk)) else 0

def busCount (ctrl : Nat) : Counter → Int :=
  if info.hasBusHandle ctrl then ClkEvent.weigh (.busVote ctrl true) else 0

def coreCount (ctrl : Nat) : Counter → Int :=
  (coreClkOrder.map (coreClkCount info ctrl)).sum + busCount info ctrl

theorem grants_coreClkOff (ctrl : Nat) (clk : CoreClk) :
    Grants ClkEvent.weigh
      (whenever (info.hasCoreClk ctrl clk) (issue (.disableUnprepare (.core ctrl clk))))
      (-coreClkCount info ctrl clk) := by
  have off := nets_issue ClkEvent.weigh (ClkEvent.disableUnprepare (.core ctrl clk))
  refine (off.whenever _).granted.of_eq ?_
  cases has : info.hasCoreClk ctrl clk <;> simp [coreClkCount, has, ClkEvent.weigh]

theorem clean_coreClkLadder (ctrl : Nat) (order : List CoreClk) :
    Clean ClkEvent.weigh
      (order.foldr
        (fun clk rest =>
          andThen (whenever (info.hasCoreClk ctrl clk) (attempt (.prepareEnable (.core ctrl clk))))
            (onError rest
              (whenever (info.hasCoreClk ctrl clk) (issue (.disableUnprepare (.core ctrl clk))))))
        (whenever (info.hasBusHandle ctrl) (attempt (.busVote ctrl true))))
      ((order.map (coreClkCount info ctrl)).sum + busCount info ctrl)
      ((order.flatMap fun clk =>
        if info.hasCoreClk ctrl clk then [.prepareEnable (.core ctrl clk)] else []) ++
      (if info.hasBusHandle ctrl then [.busVote ctrl true] else [])) := by
  induction order with
  | nil =>
    have vote := clean_attempt ClkEvent.weigh (ClkEvent.busVote ctrl true)
    refine (vote.whenever (info.hasBusHandle ctrl)).of_eq ?_ rfl
    simp [busCount]
  | cons clk rest ih =>
    have turnOn := (clean_attempt ClkEvent.weigh
      (.prepareEnable (.core ctrl clk))).whenever (info.hasCoreClk ctrl clk)
    rw [List.foldr_cons]
    refine (turnOn.andThen_undo ih (grants_coreClkOff info ctrl clk)).of_eq ?_ ?_
    · simp [coreClkCount, add_assoc]
    · simp

theorem clean_coreClkStart (ctrl : Nat) :
    Clean ClkEvent.weigh (dsiCoreClkStart info ctrl) (coreCount info ctrl)
      (coreRequests info ctrl) :=
  clean_coreClkLadder info ctrl coreClkOrder

theorem grants_coreClkStop (ctrl : Nat) :
    Grants ClkEvent.weigh (dsiCoreClkStop info ctrl) (-coreCount info ctrl) := by
  have bus : Grants ClkEvent.weigh
      (whenever (info.hasBusHandle ctrl) (attempt (.busVote ctrl false)))
        (-busCount info ctrl) := by
    have withdraw := nets_attempt ClkEvent.weigh (ClkEvent.busVote ctrl false)
    refine (withdraw.whenever _).granted.of_eq ?_
    cases has : info.hasBusHandle ctrl <;> simp [busCount, has, ClkEvent.weigh]
  have clks := grants_forEach coreClkOrder.reverse (grants_coreClkOff info ctrl)
  refine (bus.andThen clks).of_eq ?_
  simp only [coreCount, coreClkOrder, List.reverse_cons, List.reverse_nil, List.nil_append,
    List.cons_append, List.map_cons, List.map_nil, List.sum_cons, List.sum_nil]
  abel

theorem weigh_counted (ctrl : Nat) (enable : Bool) :
    ClkEvent.weigh (.counted ctrl enable) = ClkEvent.weigh (.power ctrl enable) := by
  cases enable <;> rfl

theorem nets_powerResource (ctrl : Nat) (enable : Bool) :
    Nets ClkEvent.weigh (sdePowerResourceEnable ctrl enable) (ClkEvent.weigh (.power ctrl enable))
      [(.power ctrl enable, ClkEvent.weigh (.power ctrl enable))] := by
  have counted := (nets_issue ClkEvent.weigh (.counted ctrl enable)).granted
  have power := nets_attempt ClkEvent.weigh (.power ctrl enable)
  refine (power.onError counted).of_eq rfl ?_
  simp [weigh_counted]

theorem grants_powerOff (ctrl : Nat) :
    Grants ClkEvent.weigh (ignoring (sdePowerResourceEnable ctrl false))
      (-ClkEvent.weigh (.power ctrl true)) :=
  (nets_powerResource ctrl false).granted.ignoring

/-- What is left where a request of the core clocks fails. -/
def coreLeft : ClkEvent → Counter → Int
  | .power ctrl true => Counter.once (.power ctrl)
  | _ => 0

theorem coreLeft_coreRequests (ctrl : Nat) :
    (coreRequests info ctrl).map (fun e => (e, coreLeft e)) =
      (coreRequests info ctrl).map fun e => (e, 0) := by
  refine List.map_congr_left fun e asked => ?_
  rcases List.mem_append.mp asked with clks | bus
  · obtain ⟨clk, -, own⟩ := List.mem_flatMap.mp clks
    split at own
    · rw [List.mem_singleton.mp own]
      rfl
    · cases own
  · split at bus
    · rw [List.mem_singleton.mp bus]
      rfl
    · cases bus

theorem nets_powerAndCore (i : Nat) :
    Nets ClkEvent.weigh
      (andThen (sdePowerResourceEnable i true)
        (onError (dsiCoreClkStart info i) (ignoring (sdePowerResourceEnable i false))))
      (ClkEvent.weigh (.power i true) + coreCount info i)
      ((.power i true :: coreRequests info i).map fun e => (e, coreLeft e)) := by
  rw [List.map_cons, coreLeft_coreRequests]
  exact (nets_powerResource i true).andThen_undo (clean_coreClkStart info i) (grants_powerOff i)

theorem nets_displayCoreClkEnable : ∃ d,
    Nets ClkEvent.weigh (dsiDisplayCoreClkEnable info) d
      ((info.ctrls.flatMap fun i => .power i true :: coreRequests info i).map
        fun e => (e, coreLeft e)) := by
  have stop := (grants_coreClkStop info info.masterNdx).ignoring
  have master := clean_coreClkStart info info.masterNdx
  have power := nets_powerResource info.masterNdx true
  have others := nets_others info fun i _ => nets_powerAndCore info i
  have all := power.andThen_undo (Nets.andThen_undo master others stop)
    (grants_powerOff info.masterNdx)
  refine ⟨_, all.of_eq rfl ?_⟩
  simp only [DsiClkInfo.ctrls, List.flatMap_cons, List.map_append, List.map_cons, List.map_flatMap,
    coreLeft_coreRequests]
  rfl

/-! ## HS link clocks -/

def hsClks (ctrl : Nat) (request : Clk → ClkEvent) : List ClkEvent :=
  [request (.link ctrl .byteClk), request (.link ctrl .pixelClk)] ++
    (if info.hasByteIntfClk ctrl then [request (.link ctrl .byteIntfClk)] else [])

def hsCount (ctrl : Nat) (request : Clk → ClkEvent) : Counter → Int :=
  (request (.link ctrl .byteClk)).weigh + ((request (.link ctrl .pixelClk)).weigh +
    if info.hasByteIntfClk ctrl then (request (.link ctrl .byteIntfClk)).weigh else 0)

/-- The requests of `dsi_link_hs_clk_start`. -/
def hsRequests (ctrl : Nat) : List ClkEvent :=
  (if info.isContSplashEnabled then [] else hsClks info ctrl .setRate) ++
    (hsClks info ctrl .prepare ++ hsClks info ctrl .enable)

theorem clean_hsClkOn (turnOn turnOff : Clk → ClkEvent)
    (back : ∀ clk, (turnOff clk).weigh = -(turnOn clk).weigh) (ctrl : Nat) :
    Clean ClkEvent.weigh (hsClkOn info turnOn turnOff ctrl) (hsCount info ctrl turnOn)
      (hsClks info ctrl turnOn) := by
  have off (clk : Clk) : Grants ClkEvent.weigh (issue (turnOff clk)) (-(turnOn clk).weigh) :=
    (nets_issue ClkEvent.weigh (turnOff clk)).granted.of_eq (back clk)
  have byteIntf := (clean_attempt ClkEvent.weigh
    (turnOn (.link ctrl .byteIntfClk))).whenever (info.hasByteIntfClk ctrl)
  exact (clean_attempt _ _).andThen_undo ((clean_attempt _ _).andThen_undo byteIntf (off _)) (off _)

theorem grants_hsClkOff (turnOn turnOff : Clk → ClkEvent)
    (back : ∀ clk, (turnOff clk).weigh = -(turnOn clk).weigh) (ctrl : Nat) :
    Grants ClkEvent.weigh (hsClkOff info turnOff ctrl) (-hsCount info ctrl turnOn) := by
  have off (clk : Clk) := (nets_issue ClkEvent.weigh (turnOff clk)).granted
  have byteIntf := ((nets_issue ClkEvent.weigh
    (turnOff (.link ctrl .byteIntfClk))).whenever (info.hasByteIntfClk ctrl)).granted
  refine (byteIntf.andThen ((off _).andThen (off _))).of_eq ?_
  simp only [hsCount, back]
  split <;> abel

variable {ctrl : Nat}

theorem clean_hsClkSetRate (inRange : ctrl < MAX_DSI_CTRL) :
    Clean ClkEvent.weigh (dsiLinkHsClkSetRate info ctrl) 0
      (if info.isContSplashEnabled then [] else hsClks info ctrl ClkEvent.setRate) := by
  have rate (clk : Clk) : Clean ClkEvent.weigh (attempt (.setRate clk)) 0 [.setRate clk] :=
    clean_attempt ClkEvent.weigh (.setRate clk)
  have byteIntf := (rate (.link ctrl .byteIntfClk)).whenever (info.hasByteIntfClk ctrl)
  rw [dsiLinkHsClkSetRate, if_neg (Nat.not_le_of_lt inRange)]
  cases splash : info.isContSplashEnabled with
  | true => exact clean_skip
  | false =>
    refine ((rate _).andThen_still ((rate _).andThen_still byteIntf)).of_eq ?_ rfl
    simp

def hsOn (ctrl : Nat) : Counter → Int := hsCount info ctrl .prepare + hsCount info ctrl .enable

theorem clean_hsClkStart (inRange : ctrl < MAX_DSI_CTRL) :
    Clean ClkEvent.weigh (dsiLinkHsClkStart info DSI_LINK_CLK_START ctrl) (hsOn info ctrl)
      (hsRequests info ctrl) := by
  have prepare := clean_hsClkOn info .prepare .unprepare (fun _ => rfl) ctrl
  have enable := clean_hsClkOn info .enable .disable (fun _ => rfl) ctrl
  have unprepare := grants_hsClkOff info .prepare .unprepare (fun _ => rfl) ctrl
  rw [dsiLinkHsClkStart, if_neg (Nat.not_le_of_lt inRange)]
  exact (clean_hsClkSetRate info inRange).andThen_still (prepare.andThen_undo enable unprepare)

theorem grants_hsClkStop (ctrl : Nat) :
    Grants ClkEvent.weigh (dsiLinkHsClkStop info ctrl) (-hsOn info ctrl) := by
  have disable := grants_hsClkOff info .enable .disable (fun _ => rfl) ctrl
  have unprepare := grants_hsClkOff info .prepare .unprepare (fun _ => rfl) ctrl
  refine (disable.andThen unprepare).of_eq ?_
  rw [hsOn]
  abel

/-! ## LP link clocks -/

/-- The requests of `dsi_link_lp_clk_start`. -/
def lpRequests (ctrl : Nat) : List ClkEvent :=
  (if info.isContSplashEnabled then [] else [.setRate (.link ctrl .escClk)]) ++
    [.prepareEnable (.link ctrl .escClk)]

def lpOn (ctrl : Nat) : Counter → Int := ClkEvent.weigh (.prepareEnable (.link ctrl .escClk))

/-- What is left where a request of `dsi_link_lp_clk_start` fails: a clock that could not be
    prepared and enabled is unprepared. -/
def lpLeft : ClkEvent → Counter → Int
  -- `clk_prepare_enable` has already undone its own half
  | .prepareEnable clk => ClkEvent.weigh (.unprepare clk)
  | _ => 0

theorem nets_lpClkStart (inRange : ctrl < MAX_DSI_CTRL) :
    Nets ClkEvent.weigh (dsiLinkLpClkStart info ctrl) (lpOn ctrl)
      ((lpRequests info ctrl).map fun e => (e, lpLeft e)) := by
  have rate := nets_attempt ClkEvent.weigh (.setRate (.link ctrl .escClk))
  have turnOn := nets_attempt ClkEvent.weigh (.prepareEnable (.link ctrl .escClk))
  have unprepare := (nets_issue ClkEvent.weigh (.unprepare (.link ctrl .escClk))).granted
  rw [dsiLinkLpClkStart, if_neg (Nat.not_le_of_lt inRange)]
  refine ((rate.whenever (!info.isContSplashEnabled)).andThen (turnOn.onError unprepare)).of_eq ?_
    ?_
  · cases info.isContSplashEnabled <;> simp [lpOn, ClkEvent.weigh]
  · cases splash : info.isContSplashEnabled <;>
      simp [lpRequests, lpLeft, splash, ClkEvent.weigh]

theorem grants_lpClkStop (ctrl : Nat) :
    Grants ClkEvent.weigh (dsiLinkLpClkStop ctrl) (-lpOn ctrl) :=
  (nets_issue ClkEvent.weigh (.disableUnprepare (.link ctrl .escClk))).granted

/-! ## The two functions -/

inductive LinkType
  | lp
  | hs
  | lpHs

def LinkType.mask : LinkType → DsiLclkType
  | .lp => DSI_LINK_LP_CLK
  | .hs => DSI_LINK_HS_CLK
  | .lpHs => DSI_LINK_LP_CLK ||| DSI_LINK_HS_CLK

/-- `dsi_display_core_clk_enable` or `dsi_display_link_clk_enable`. -/
inductive ClkStart
  | core
  | link (lType : LinkType)

namespace ClkStart

def op : ClkStart → Op ClkEvent
  | core => dsiDisplayCoreClkEnable info
  | link lType => dsiDisplayLinkClkEnable info lType.mask

def ctrlRequests (ctrl : Nat) : ClkStart → List ClkEvent
  | core => .power ctrl true :: coreRequests info ctrl
  | link .lp => lpRequests info ctrl
  | link .hs => hsRequests info ctrl
  | link .lpHs => lpRequests info ctrl ++ hsRequests info ctrl

def requests (start : ClkStart) : List ClkEvent :=
  info.ctrls.flatMap fun ctrl => start.ctrlRequests info ctrl

/-- The requests whose failure is undone: for the core clocks all but the power enables, for LP
    clocks all but the `clk_prepare_enable` of the escape clock, and for both types only the first
    one, before which nothing was turned on. -/
def Undone : ClkStart → ClkEvent → Prop
  | core, e => ∀ ctrl, e ≠ .power ctrl true
  | link .hs, _ => True
  | link .lp, e => ∀ ctrl, e ≠ .prepareEnable (.link ctrl .escClk)
  | link .lpHs, e => e = .setRate (.link info.masterNdx .escClk)

end ClkStart

theorem clean_displayLinkClkEnable_hs : ∃ d,
    Clean ClkEvent.weigh (dsiDisplayLinkClkEnable info DSI_LINK_HS_CLK) d
      ((ClkStart.link .hs).requests info) := by
  have start {ctrl : Nat} (inRange : ctrl < MAX_DSI_CTRL) :
      Clean ClkEvent.weigh (linkClkStart info DSI_LINK_HS_CLK ctrl) (hsOn info ctrl)
        (hsRequests info ctrl) :=
    clean_skip.andThen_still (clean_hsClkStart info inRange)
  have others := clean_others info fun i inRange => start inRange
  have stop := grants_hsClkStop info info.masterNdx
  exact ⟨_, (start info.masterNdx_lt).andThen_undo others stop⟩

theorem nets_displayLinkClkEnable_lp : ∃ d,
    Nets ClkEvent.weigh (dsiDisplayLinkClkEnable info DSI_LINK_LP_CLK) d
      (((ClkStart.link .lp).requests info).map fun e => (e, lpLeft e)) := by
  have start {ctrl : Nat} (inRange : ctrl < MAX_DSI_CTRL) :
      Nets ClkEvent.weigh (linkClkStart info DSI_LINK_LP_CLK ctrl) (lpOn ctrl)
        ((lpRequests info ctrl).map fun e => (e, lpLeft e)) :=
    ((nets_lpClkStart info inRange).andThen nets_skip).of_eq (by simp) (by simp)
  have others := nets_others info fun i inRange => start inRange
  have stop := grants_lpClkStop info.masterNdx
  refine ⟨_, ((start info.masterNdx_lt).andThen (others.onError stop)).of_eq rfl ?_⟩
  simp [ClkStart.requests, ClkStart.ctrlRequests, DsiClkInfo.ctrls, List.map_flatMap,
    Function.comp_def]

def bothPlan (ctrl : Nat) : List (ClkEvent × (Counter → Int)) :=
  (lpRequests info ctrl).map (fun e => (e, lpLeft e)) ++
    (hsRequests info ctrl).map fun e => (e, lpOn ctrl)

def lpHsPlan : List (ClkEvent × (Counter → Int)) :=
  bothPlan info info.masterNdx ++ (info.others.flatMap (bothPlan info)).map fun step =>
    (step.1, lpOn info.masterNdx + hsOn info info.masterNdx + step.2)

theorem nets_displayLinkClkEnable_lpHs : ∃ d,
    Nets ClkEvent.weigh (dsiDisplayLinkClkEnable info (DSI_LINK_LP_CLK ||| DSI_LINK_HS_CLK)) d
      (lpHsPlan info) := by
  have start {ctrl : Nat} (inRange : ctrl < MAX_DSI_CTRL) :
      Nets ClkEvent.weigh (linkClkStart info (DSI_LINK_LP_CLK ||| DSI_LINK_HS_CLK) ctrl)
        (lpOn ctrl + hsOn info ctrl) (bothPlan info ctrl) :=
    ((nets_lpClkStart info inRange).andThen (clean_hsClkStart info inRange)).of_eq rfl
      (by simp [bothPlan])
  have others := nets_others info fun i inRange => start inRange
  refine ⟨_, ((start info.masterNdx_lt).andThen (others.onError nets_skip.granted)).of_eq rfl ?_⟩
  simp [lpHsPlan]

/-! ## Which failures are undone -/

@[simp] theorem once_ne_zero (c : Counter) : c.once ≠ 0 := by
  intro h
  have at_c := congrFun h c
  simp [Counter.once] at at_c

@[simp] theorem lpLeft_setRate (clk : Clk) : lpLeft (.setRate clk) = 0 := rfl

theorem lpLeft_prepareEnable_ne_zero (clk : Clk) : lpLeft (.prepareEnable clk) ≠ 0 := by
  show -Counter.once (.prepareCount clk) ≠ 0
  simp

theorem mem_lpRequests {e : ClkEvent} (member : e ∈ lpRequests info ctrl) :
    e = .setRate (.link ctrl .escClk) ∨ e = .prepareEnable (.link ctrl .escClk) := by
  rw [lpRequests] at member
  cases splash : info.isContSplashEnabled with
  | true => exact Or.inr (by simpa [splash] using member)
  | false => simpa [splash] using member

theorem setRate_escClk_not_mem_hsRequests (ctrl i : Nat) :
    ClkEvent.setRate (.link i .escClk) ∉ hsRequests info ctrl := by
  intro member
  rw [hsRequests] at member
  cases splash : info.isContSplashEnabled <;> cases has : info.hasByteIntfClk ctrl <;>
    simp [splash, has, hsClks] at member

theorem lpOn_escClk (ctrl : Nat) : lpOn ctrl (.enableCount (.link ctrl .escClk)) = 1 := by
  simp [lpOn, ClkEvent.weigh, Counter.once]

theorem lpOn_ne_zero (ctrl : Nat) : lpOn ctrl ≠ 0 := by
  intro off
  have one := lpOn_escClk ctrl
  simp [off] at one

theorem hsOn_escClk (ctrl i : Nat) : hsOn info ctrl (.enableCount (.link i .escClk)) = 0 := by
  cases has : info.hasByteIntfClk ctrl <;>
    simp [hsOn, hsCount, has, ClkEvent.weigh, Counter.once]

variable {step : ClkEvent × (Counter → Int)}

theorem bothPlan_escClk {i : Nat} (other : ctrl ≠ i)
    (member : step ∈ bothPlan info ctrl) : step.2 (.enableCount (.link i .escClk)) = 0 := by
  rw [bothPlan, List.mem_append, List.mem_map, List.mem_map] at member
  rcases member with ⟨e, asked, rfl⟩ | ⟨e, -, rfl⟩
  · rcases mem_lpRequests info asked with rfl | rfl
    · rfl
    · simp [lpLeft, ClkEvent.weigh, Counter.once]
  · simp [lpOn, ClkEvent.weigh, Counter.once, Ne.symm other]

theorem bothPlan_requests (ctrl : Nat) :
    (bothPlan info ctrl).map Prod.fst = (ClkStart.link .lpHs).ctrlRequests info ctrl := by
  simp [bothPlan, ClkStart.ctrlRequests, Function.comp_def]

theorem bothPlan_undone (member : step ∈ bothPlan info info.masterNdx) :
    step.2 = 0 ↔ (ClkStart.link .lpHs).Undone info step.1 := by
  rw [bothPlan, List.mem_append, List.mem_map, List.mem_map] at member
  rcases member with ⟨e, asked, rfl⟩ | ⟨e, asked, rfl⟩
  · rcases mem_lpRequests info asked with rfl | rfl
    · simp [ClkStart.Undone]
    · simp [ClkStart.Undone, lpLeft_prepareEnable_ne_zero]
  · have other : e ≠ .setRate (.link info.masterNdx .escClk) := by
      rintro rfl
      exact setRate_escClk_not_mem_hsRequests info _ _ asked
    simp [ClkStart.Undone, other, lpOn_ne_zero]

theorem others_not_undone {i : Nat} (other : i ≠ info.masterNdx)
    (member : step ∈ bothPlan info i) :
    lpOn info.masterNdx + hsOn info info.masterNdx + step.2 = 0 ↔
      (ClkStart.link .lpHs).Undone info step.1 := by
  have left : lpOn info.masterNdx + hsOn info info.masterNdx + step.2 ≠ 0 := by
    intro none
    -- nobody else counts at the master's escape clock
    have master := congrFun none (.enableCount (.link info.masterNdx .escClk))
    have other := bothPlan_escClk info other member
    simp [lpOn_escClk, hsOn_escClk, other] at master
  have notFirst : step.1 ≠ .setRate (.link info.masterNdx .escClk) := by
    intro first
    have asked : step.1 ∈ (bothPlan info i).map Prod.fst := List.mem_map_of_mem member
    rw [bothPlan_requests, first] at asked
    rcases List.mem_append.mp asked with lp | hs
    · rcases mem_lpRequests info lp with same | same
      · exact other (by simpa using same.symm)
      · cases same
    · exact setRate_escClk_not_mem_hsRequests info _ _ hs
  exact iff_of_false left notFirst

theorem core_undone (member : step ∈ (ClkStart.core.requests info).map fun e => (e, coreLeft e)) :
    step.2 = 0 ↔ ClkStart.core.Undone info step.1 := by
  obtain ⟨e, -, rfl⟩ := List.mem_map.mp member
  rw [ClkStart.Undone]
  by_cases power : ∃ ctrl, e = .power ctrl true
  · obtain ⟨ctrl, rfl⟩ := power
    exact iff_of_false (once_ne_zero _) fun undone => undone ctrl rfl
  · refine iff_of_true ?_ fun ctrl same => power ⟨ctrl, same⟩
    dsimp only
    rw [coreLeft]
    exact fun ctrl same => power ⟨ctrl, same⟩

theorem lp_undone (member : step ∈ ((ClkStart.link .lp).requests info).map fun e => (e, lpLeft e)) :
    step.2 = 0 ↔ (ClkStart.link .lp).Undone info step.1 := by
  obtain ⟨e, asked, rfl⟩ := List.mem_map.mp member
  obtain ⟨ctrl, -, own⟩ := List.mem_flatMap.mp asked
  rcases mem_lpRequests info own with rfl | rfl
  · simp [ClkStart.Undone]
  · simp [ClkStart.Undone, lpLeft_prepareEnable_ne_zero]

theorem lpHs_undone (member : step ∈ lpHsPlan info) :
    step.2 = 0 ↔ (ClkStart.link .lpHs).Undone info step.1 := by
  rcases List.mem_append.mp member with master | rest
  · exact bothPlan_undone info master
  · obtain ⟨own, asked, rfl⟩ := List.mem_map.mp rest
    obtain ⟨i, isOther, own_i⟩ := List.mem_flatMap.mp asked
    rcases others_cases info with none | ⟨j, one, other, -⟩
    · simp [none] at isOther
    · rw [one, List.mem_singleton] at isOther
      subst isOther
      exact others_not_undone info other own_i

theorem lpHsPlan_requests :
    (lpHsPlan info).map Prod.fst = (ClkStart.link .lpHs).requests info := by
  simp only [lpHsPlan, List.map_append, List.map_map, Function.comp_def, bothPlan_requests,
    ClkStart.requests, DsiClkInfo.ctrls, List.flatMap_cons, List.map_flatMap]

/-- A request that fails, whichever it is, leaves no count of a clock, no bus vote and no power
    resource behind exactly when it is one of those that the function undoes. -/
theorem start_all_or_nothing_iff (start : ClkStart) {rc : Int} (failed : rc ≠ 0) (k : Nat)
    (log : List ClkEvent) :
    AllOrNothing ClkEvent.weigh (start.op info) (refusing rc k log) ↔
      ∀ e, (start.requests info)[k]? = some e → start.Undone info e := by
  -- how much is undone depends on the function and on the types of clocks
  cases start with
  | core =>
    obtain ⟨d, nets⟩ := nets_displayCoreClkEnable info
    have iff :=
      nets.allOrNothing_iff_of_request failed k log fun _ member => core_undone info member
    simp only [List.map_map, Function.comp_def, List.map_id'] at iff
    exact iff
  | link lType =>
    cases lType with
    | hs =>
      obtain ⟨d, clean⟩ := clean_displayLinkClkEnable_hs info
      exact iff_of_true (clean.allOrNothing failed k log) fun _ _ => trivial
    | lp =>
      obtain ⟨d, nets⟩ := nets_displayLinkClkEnable_lp info
      have iff :=
        nets.allOrNothing_iff_of_request failed k log fun _ member => lp_undone info member
      simp only [List.map_map, Function.comp_def, List.map_id'] at iff
      exact iff
    | lpHs =>
      obtain ⟨d, nets⟩ := nets_displayLinkClkEnable_lpHs info
      have iff :=
        nets.allOrNothing_iff_of_request failed k log fun _ member => lpHs_undone info member
      rwa [lpHsPlan_requests] at iff

def splitDsi : DsiClkInfo where
  dsiCtrlCount := 2
  masterNdx := 0
  hasCoreClk _ clk := clk = .mdpCoreClk
  hasBusHandle _ := false
  hasByteIntfClk _ := false
  postClkonCb := true
  preClkoffCb := true
  postClkoffCb := true
  isContSplashEnabled := false
  ctrlCount_le := by decide
  masterNdx_lt := Nat.two_pos

theorem start_all_or_nothing_iff_splitDsi :
    AllOrNothing ClkEvent.weigh ((ClkStart.link .lpHs).op splitDsi) (refusing (-22) 0 []) ↔
      ∀ e, ((ClkStart.link .lpHs).requests splitDsi)[0]? = some e →
        (ClkStart.link .lpHs).Undone splitDsi e :=
  start_all_or_nothing_iff splitDsi (.link .lpHs) (by decide) 0 []

/-- With both types of link clocks the second controller's rate of the escape clock, request
    number 8, is refused: the function returns the error and the first controller's escape clock
    stays enabled. -/
theorem lpHs_keeps_master_on :
    ¬∀ (info : DsiClkInfo) (start : ClkStart) (rc : Int) (k : Nat) (log : List ClkEvent), rc ≠ 0 →
      AllOrNothing ClkEvent.weigh (start.op info) (refusing rc k log) := by
  intro every
  have refused := every splitDsi (.link .lpHs) (-22) 8 [] (by decide)
  have asked : ((ClkStart.link .lpHs).op splitDsi (refusing (-22) 8 [])).2 = -22 := by decide
  have enabled : net ClkEvent.weigh ((ClkStart.link .lpHs).op splitDsi (refusing (-22) 8 [])).1.log
      (.enableCount (.link 0 .escClk)) = 1 := by decide
  rw [refused (by rw [asked]; decide)] at enabled
  simp [refusing, net] at enabled

end DisplayDrivers.DsiClk
