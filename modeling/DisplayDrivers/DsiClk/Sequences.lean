import DisplayDrivers.DsiClk.Manager
import Mathlib.Data.List.Nodup
import Mathlib.Data.Int.Basic

/-! # What the clock sequences do to one clock

`move clk` keeps of the log the enables (`1`) and disables (`-1`) of one clock. For every function
of `Clocks` there is one lemma on what it shows of a clock when nothing fails; for a clock that
exists it is one move, or none.
-/

namespace DisplayDrivers.DsiClk

open DisplayDrivers.Lib.Requests

def move (clk : Clk) : ClkEvent → Option Int
  | .enable c => if c = clk then some 1 else none
  | .prepareEnable c => if c = clk then some 1 else none
  | .disable c => if c = clk then some (-1) else none
  | .disableUnprepare c => if c = clk then some (-1) else none
  | _ => none

section Move
variable (clk : Clk)

variable (c : Clk)

@[simp] theorem move_enable : move clk (.enable c) = if c = clk then some 1 else none := rfl
@[simp] theorem move_prepareEnable :
    move clk (.prepareEnable c) = if c = clk then some 1 else none := rfl
@[simp] theorem move_disable : move clk (.disable c) = if c = clk then some (-1) else none := rfl
@[simp] theorem move_disableUnprepare :
    move clk (.disableUnprepare c) = if c = clk then some (-1) else none := rfl
@[simp] theorem move_prepare : move clk (.prepare c) = none := rfl
@[simp] theorem move_unprepare : move clk (.unprepare c) = none := rfl

end Move

namespace DsiClkInfo

def ctrls (info : DsiClkInfo) : List Nat := info.masterNdx :: info.others

def present (info : DsiClkInfo) : Clk → Bool
  | .core i k => info.hasCoreClk i k
  | .link i .byteIntfClk => info.hasByteIntfClk i
  | .link _ _ => true

def Has (info : DsiClkInfo) : Clk → Prop
  | .core i k => i ∈ info.ctrls ∧ info.present (.core i k)
  | .link i k => i ∈ info.ctrls ∧ info.present (.link i k)

theorem others_lt (info : DsiClkInfo) {i : Nat} (member : i ∈ info.others) : i < MAX_DSI_CTRL := by
  have inRange := List.mem_range.mp (List.mem_of_mem_filter member)
  exact Nat.lt_of_lt_of_le inRange info.ctrlCount_le

theorem ctrls_nodup (info : DsiClkInfo) : info.ctrls.Nodup := by
  refine List.nodup_cons.mpr ⟨fun member => ?_, List.nodup_range.filter _⟩
  simpa using (List.mem_filter.mp member).2

end DsiClkInfo

theorem flatMap_ctrl {ctrls : List Nat} (nodup : ctrls.Nodup) {i : Nat} (member : i ∈ ctrls)
    (moves : List Int) : ctrls.flatMap (fun j => if j = i then moves else []) = moves := by
  induction ctrls with
  | nil => cases member
  | cons j rest ih =>
    obtain ⟨notIn, nodup⟩ := List.nodup_cons.mp nodup
    rw [List.flatMap_cons]
    by_cases here : j = i
    · subst here
      have others : rest.flatMap (fun k => if k = j then moves else []) = [] := by
        refine List.flatMap_eq_nil_iff.mpr fun k inRest => if_neg ?_
        rintro rfl
        exact notIn inRest
      rw [if_pos rfl, others, List.append_nil]
    · rw [if_neg here, List.nil_append]
      exact ih nodup ((List.mem_cons.mp member).resolve_left (Ne.symm here))

variable (info : DsiClkInfo)

/-! ## Core clocks -/

def corePiece (clk : Clk) (d : Int) (ctrl : Nat) : List Int :=
  match clk with
  | .core i k => if ctrl = i then (if info.hasCoreClk ctrl k then [d] else []) else []
  | .link _ _ => []

theorem flatMap_coreClk (clk : Clk) (d : Int) (ctrl : Nat) (order : List CoreClk)
    (nodup : order.Nodup) (all : ∀ k, k ∈ order) :
    order.flatMap (fun c => if info.hasCoreClk ctrl c then
        (if Clk.core ctrl c = clk then some d else none).toList else []) =
      corePiece info clk d ctrl := by
  cases clk with
  | link i k =>
    refine List.flatMap_eq_nil_iff.mpr fun c _ => ?_
    simp
  | core i k =>
    by_cases here : ctrl = i
    · subst here
      -- of the clocks of this controller one is `k`, and it comes once
      have single : ∀ order : List CoreClk, order.Nodup → k ∈ order →
          order.flatMap (fun c => if info.hasCoreClk ctrl c then
            (if Clk.core ctrl c = Clk.core ctrl k then some d else none).toList else []) =
          if info.hasCoreClk ctrl k then [d] else [] := by
        intro order nodup member
        induction order with
        | nil => cases member
        | cons c rest ih =>
          obtain ⟨notIn, nodup⟩ := List.nodup_cons.mp nodup
          rw [List.flatMap_cons]
          by_cases same : c = k
          · subst same
            have others : rest.flatMap (fun c' => if info.hasCoreClk ctrl c' then
                (if Clk.core ctrl c' = Clk.core ctrl c then some d else none).toList else []) =
                [] := by
              refine List.flatMap_eq_nil_iff.mpr fun c' inRest => ?_
              have differ : c' ≠ c := fun same => notIn (same ▸ inRest)
              simp [differ]
            rw [others]
            simp
          · rw [ih nodup ((List.mem_cons.mp member).resolve_left (Ne.symm same))]
            simp [same]
      simpa [corePiece] using single order nodup (all k)
    · simp [corePiece, here]

theorem shows_coreClkStart (clk : Clk) (ctrl : Nat) :
    Shows (move clk) (dsiCoreClkStart info ctrl) (corePiece info clk 1 ctrl) := by
  have general : ∀ order : List CoreClk, Shows (move clk)
      (order.foldr
        (fun c rest =>
          andThen (whenever (info.hasCoreClk ctrl c) (attempt (.prepareEnable (.core ctrl c))))
            (onError rest
              (whenever (info.hasCoreClk ctrl c) (issue (.disableUnprepare (.core ctrl c))))))
        (whenever (info.hasBusHandle ctrl) (attempt (.busVote ctrl true))))
      (order.flatMap fun c => if info.hasCoreClk ctrl c then
        (if Clk.core ctrl c = clk then some (1 : Int) else none).toList else []) := by
    intro order
    induction order with
    | nil =>
      have bus : Shows (move clk) (attempt (.busVote ctrl true)) [] := shows_attempt _
      simpa using bus.whenever (info.hasBusHandle ctrl)
    | cons c rest ih =>
      rw [List.foldr_cons, List.flatMap_cons]
      exact ((shows_attempt (.prepareEnable (.core ctrl c))).whenever _).andThen (ih.onError _)
  rw [← flatMap_coreClk info clk 1 ctrl coreClkOrder (by decide) (by intro k; cases k <;> decide)]
  exact general coreClkOrder

theorem shows_coreClkStop (clk : Clk) (ctrl : Nat) :
    Shows (move clk) (dsiCoreClkStop info ctrl) (corePiece info clk (-1) ctrl) := by
  have bus : Shows (move clk) (whenever (info.hasBusHandle ctrl) (attempt (.busVote ctrl false)))
      [] := by
    have vote : Shows (move clk) (attempt (.busVote ctrl false)) [] := shows_attempt _
    simpa using vote.whenever (info.hasBusHandle ctrl)
  rw [← flatMap_coreClk info clk (-1) ctrl coreClkOrder.reverse (by decide)
    (by intro k; cases k <;> decide)]
  exact bus.andThen (shows_forEach _ fun c _ => (shows_issue _).whenever _)

theorem shows_power (clk : Clk) (ctrl : Nat) (on : Bool) :
    Shows (move clk) (sdePowerResourceEnable ctrl on) [] :=
  Shows.onError (shows_attempt _) _

def coreShown (clk : Clk) (d : Int) : List Int :=
  match clk with
  | .core _ _ => [d]
  | .link _ _ => []

theorem flatMap_corePiece {clk : Clk} (has : info.Has clk) (d : Int) {ctrls : List Nat}
    (nodup : ctrls.Nodup) (all : ∀ i ∈ info.ctrls, i ∈ ctrls) :
    ctrls.flatMap (corePiece info clk d) = coreShown clk d := by
  cases clk with
  | link i k => exact List.flatMap_eq_nil_iff.mpr fun _ _ => rfl
  | core i k =>
    -- only the clock's own controller shows anything
    have piece : corePiece info (.core i k) d = fun j => if j = i then [d] else [] := by
      funext j
      by_cases here : j = i
      · subst here
        have listed : info.hasCoreClk j k = true := has.2
        simp [corePiece, listed]
      · simp [corePiece, here]
    rw [piece]
    exact flatMap_ctrl nodup (all i has.1) [d]

theorem offOrder_nodup : (info.others ++ [info.masterNdx]).Nodup :=
  (List.perm_append_singleton info.masterNdx info.others).nodup_iff.mpr info.ctrls_nodup

theorem mem_offOrder {i : Nat} (member : i ∈ info.ctrls) : i ∈ info.others ++ [info.masterNdx] :=
  (List.perm_append_singleton info.masterNdx info.others).mem_iff.mpr member

theorem shows_coreClkEnable {clk : Clk} (has : info.Has clk) :
    Shows (move clk) (dsiDisplayCoreClkEnable info) (coreShown clk 1) := by
  have others : Shows (move clk)
      (forEach info.others fun i =>
        andThen (sdePowerResourceEnable i true)
          (onError (dsiCoreClkStart info i) (ignoring (sdePowerResourceEnable i false))))
      (info.others.flatMap (corePiece info clk 1)) :=
    shows_forEach _ fun i _ =>
      (shows_power clk i true).andThen ((shows_coreClkStart info clk i).onError _)
  rw [← flatMap_corePiece info has 1 info.ctrls_nodup fun _ member => member]
  exact (shows_power clk info.masterNdx true).andThen
    (((shows_coreClkStart info clk info.masterNdx).andThen (others.onError _)).onError _)

theorem shows_coreClkDisable {clk : Clk} (has : info.Has clk) :
    Shows (move clk) (dsiDisplayCoreClkDisable info) (coreShown clk (-1)) := by
  have ctrlOff : ∀ i, Shows (move clk)
    (andThen (dsiCoreClkStop info i) (sdePowerResourceEnable i false))
      (corePiece info clk (-1) i) := by
    intro i
    simpa using (shows_coreClkStop info clk i).andThen (shows_power clk i false)
  have order := flatMap_corePiece info has (-1) (offOrder_nodup info)
    fun _ member => mem_offOrder info member
  rw [← order, List.flatMap_append, List.flatMap_singleton]
  exact (shows_forEach _ fun i _ => ctrlOff i).andThen (ctrlOff info.masterNdx)

/-! ## Link clocks -/

def OfType (lType : DsiLclkType) : LinkClk → Bool
  | .escClk => lType &&& DSI_LINK_LP_CLK ≠ 0
  | _ => lType &&& DSI_LINK_HS_CLK ≠ 0

@[simp] theorem ofType_lp (k : LinkClk) : OfType DSI_LINK_LP_CLK k = decide (k = .escClk) := by
  cases k <;> decide

@[simp] theorem ofType_hs (k : LinkClk) : OfType DSI_LINK_HS_CLK k = decide (k ≠ .escClk) := by
  cases k <;> decide

/-- What one controller's link clocks of a type show of a clock when each of them moves by `d`. -/
def linkPiece (lType : DsiLclkType) (clk : Clk) (d : Int) (ctrl : Nat) : List Int :=
  match clk with
  | .core _ _ => []
  | .link i k =>
    if ctrl = i then (if OfType lType k && info.present (.link i k) then [d] else []) else []

def linkShown (lType : DsiLclkType) (clk : Clk) (d : Int) : List Int :=
  match clk with
  | .core _ _ => []
  | .link _ k => if OfType lType k then [d] else []

variable (lType : DsiLclkType)

theorem flatMap_linkPiece {clk : Clk} (has : info.Has clk) (d : Int)
    {ctrls : List Nat} (nodup : ctrls.Nodup) (all : ∀ i ∈ info.ctrls, i ∈ ctrls) :
    ctrls.flatMap (linkPiece info lType clk d) = linkShown lType clk d := by
  cases clk with
  | core i k => exact List.flatMap_eq_nil_iff.mpr fun _ _ => rfl
  | link i k =>
    have piece : linkPiece info lType (.link i k) d =
        fun j => if j = i then linkShown lType (.link i k) d else [] := by
      funext j
      have listed : info.present (.link i k) = true := has.2
      simp only [linkPiece, linkShown, listed, Bool.and_true]
    rw [piece]
    exact flatMap_ctrl nodup (all i has.1) _

variable {ctrl : Nat}

section

variable (clk : Clk)

theorem shows_hsClkSetRate (inRange : ctrl < MAX_DSI_CTRL) :
    Shows (move clk) (dsiLinkHsClkSetRate info ctrl) [] := by
  rw [dsiLinkHsClkSetRate, if_neg (Nat.not_le.mpr inRange)]
  by_cases splash : info.isContSplashEnabled
  · rw [if_pos splash]
    exact shows_skip
  · rw [if_neg splash]
    have rate : ∀ c, Shows (move clk) (attempt (.setRate c)) [] := fun _ => shows_attempt _
    have interface := (rate (.link ctrl .byteIntfClk)).whenever (info.hasByteIntfClk ctrl)
    simpa using (rate (.link ctrl .byteClk)).andThen
      ((rate (.link ctrl .pixelClk)).andThen interface)

theorem shows_hsClkOn (turnOn turnOff : Clk → ClkEvent) (ctrl : Nat) :
    Shows (move clk) (hsClkOn info turnOn turnOff ctrl)
      ((move clk (turnOn (.link ctrl .byteClk))).toList ++
        ((move clk (turnOn (.link ctrl .pixelClk))).toList ++
          if info.hasByteIntfClk ctrl then
            (move clk (turnOn (.link ctrl .byteIntfClk))).toList else [])) :=
  (shows_attempt _).andThen
    (((shows_attempt _).andThen (((shows_attempt _).whenever _).onError _)).onError _)

theorem shows_hsClkOff (turnOff : Clk → ClkEvent) (ctrl : Nat) :
    Shows (move clk) (hsClkOff info turnOff ctrl)
      ((if info.hasByteIntfClk ctrl then
          (move clk (turnOff (.link ctrl .byteIntfClk))).toList else []) ++
        ((move clk (turnOff (.link ctrl .pixelClk))).toList ++
          (move clk (turnOff (.link ctrl .byteClk))).toList)) :=
  ((shows_issue _).whenever _).andThen ((shows_issue _).andThen (shows_issue _))

theorem shows_hsClkPrepare (ctrl : Nat) : Shows (move clk) (dsiLinkHsClkPrepare info ctrl) [] :=
  (shows_hsClkOn info clk .prepare .unprepare ctrl).of_eq (by simp)

theorem shows_hsClkUnprepare (ctrl : Nat) : Shows (move clk) (dsiLinkHsClkUnprepare info ctrl) [] :=
  (shows_hsClkOff info clk .unprepare ctrl).of_eq (by simp)

theorem shows_hsClkEnable (ctrl : Nat) : Shows (move clk) (dsiLinkHsClkEnable info ctrl)
      (linkPiece info DSI_LINK_HS_CLK clk 1 ctrl) := by
  apply (shows_hsClkOn info clk .enable .disable ctrl).of_eq
  cases clk with
  | core i k => simp [linkPiece]
  | link i k =>
    by_cases here : ctrl = i
    · subst here
      cases k <;> simp [linkPiece, DsiClkInfo.present]
    · simp [linkPiece, here]

theorem shows_hsClkDisable (ctrl : Nat) : Shows (move clk) (dsiLinkHsClkDisable info ctrl)
      (linkPiece info DSI_LINK_HS_CLK clk (-1) ctrl) := by
  apply (shows_hsClkOff info clk .disable ctrl).of_eq
  cases clk with
  | core i k => simp [linkPiece]
  | link i k =>
    by_cases here : ctrl = i
    · subst here
      cases k <;> simp [linkPiece, DsiClkInfo.present]
    · simp [linkPiece, here]

theorem shows_hsClkStart (inRange : ctrl < MAX_DSI_CTRL) :
    Shows (move clk) (dsiLinkHsClkStart info DSI_LINK_CLK_START ctrl)
      (linkPiece info DSI_LINK_HS_CLK clk 1 ctrl) := by
  rw [dsiLinkHsClkStart, if_neg (Nat.not_le.mpr inRange)]
  have rate := (shows_hsClkSetRate info clk inRange).whenever
    (DSI_LINK_CLK_START &&& DSI_LINK_CLK_SET_RATE ≠ 0)
  have prepare := (shows_hsClkPrepare info clk ctrl).whenever
    (DSI_LINK_CLK_START &&& DSI_LINK_CLK_PREPARE ≠ 0)
  have enable := (shows_hsClkEnable info clk ctrl).whenever
    (DSI_LINK_CLK_START &&& DSI_LINK_CLK_ENABLE ≠ 0)
  apply (rate.andThen (prepare.andThen (enable.onError _))).of_eq
  -- setting the rate and preparing are no moves
  rw [ite_self, ite_self, List.nil_append, List.nil_append]
  exact if_pos (by decide)

theorem shows_hsClkStop (ctrl : Nat) : Shows (move clk) (dsiLinkHsClkStop info ctrl)
      (linkPiece info DSI_LINK_HS_CLK clk (-1) ctrl) :=
  ((shows_hsClkDisable info clk ctrl).andThen (shows_hsClkUnprepare info clk ctrl)).of_eq
    (List.append_nil _)

theorem move_esc_toList (d : Int) (ctrl : Nat) :
    (if Clk.link ctrl .escClk = clk then some d else none).toList =
      linkPiece info DSI_LINK_LP_CLK clk d ctrl := by
  cases clk with
  | core i k => simp [linkPiece]
  | link i k =>
    by_cases here : ctrl = i
    · subst here
      cases k <;> simp [linkPiece, DsiClkInfo.present]
    · simp [linkPiece, here]

theorem shows_lpClkStart (inRange : ctrl < MAX_DSI_CTRL) :
    Shows (move clk) (dsiLinkLpClkStart info ctrl) (linkPiece info DSI_LINK_LP_CLK clk 1 ctrl) := by
  rw [dsiLinkLpClkStart, if_neg (Nat.not_le.mpr inRange)]
  have rate : Shows (move clk) (attempt (.setRate (.link ctrl .escClk))) [] := shows_attempt _
  have enable : Shows (move clk) (attempt (.prepareEnable (.link ctrl .escClk))) _ :=
    shows_attempt _
  apply ((rate.whenever (!info.isContSplashEnabled)).andThen (enable.onError _)).of_eq
  rw [ite_self, List.nil_append]
  exact move_esc_toList info clk 1 ctrl

theorem shows_lpClkStop (ctrl : Nat) :
    Shows (move clk) (dsiLinkLpClkStop ctrl) (linkPiece info DSI_LINK_LP_CLK clk (-1) ctrl) :=
  (shows_issue _).of_eq (move_esc_toList info clk (-1) ctrl)

theorem linkPiece_halves (d : Int) (ctrl : Nat) :
    (if lType &&& DSI_LINK_LP_CLK ≠ 0 then linkPiece info DSI_LINK_LP_CLK clk d ctrl else []) ++
        (if lType &&& DSI_LINK_HS_CLK ≠ 0 then linkPiece info DSI_LINK_HS_CLK clk d ctrl else []) =
      linkPiece info lType clk d ctrl := by
  cases clk with
  | core i k => simp [linkPiece]
  | link i k =>
    by_cases here : ctrl = i
    · subst here
      simp only [linkPiece, if_true, ofType_lp, ofType_hs]
      by_cases lp : lType &&& DSI_LINK_LP_CLK = 0 <;>
        by_cases hs : lType &&& DSI_LINK_HS_CLK = 0 <;> cases k <;> simp [OfType, lp, hs]
    · simp [linkPiece, here]

theorem shows_linkClkStart (inRange : ctrl < MAX_DSI_CTRL) :
    Shows (move clk) (linkClkStart info lType ctrl) (linkPiece info lType clk 1 ctrl) := by
  refine (((shows_lpClkStart info clk inRange).whenever _).andThen
    ((shows_hsClkStart info clk inRange).whenever _)).of_eq ?_
  simpa using linkPiece_halves info lType clk 1 ctrl

theorem shows_linkClkStop (ctrl : Nat) :
    Shows (move clk) (linkClkStop info lType ctrl) (linkPiece info lType clk (-1) ctrl) := by
  refine (((shows_lpClkStop info clk ctrl).whenever _).andThen
    ((shows_hsClkStop info clk ctrl).whenever _)).of_eq ?_
  simpa using linkPiece_halves info lType clk (-1) ctrl

end

theorem shows_linkClkEnable {clk : Clk} (has : info.Has clk) :
    Shows (move clk) (dsiDisplayLinkClkEnable info lType) (linkShown lType clk 1) := by
  rw [← flatMap_linkPiece info lType has 1 info.ctrls_nodup fun _ member => member]
  exact (shows_linkClkStart info lType clk info.masterNdx_lt).andThen
    ((shows_forEach _ fun i member =>
      shows_linkClkStart info lType clk (info.others_lt member)).onError _)

theorem shows_linkClkDisable {clk : Clk} (has : info.Has clk) :
    Shows (move clk) (dsiDisplayLinkClkDisable info lType) (linkShown lType clk (-1)) := by
  have order := flatMap_linkPiece info lType has (-1) (offOrder_nodup info)
    fun _ member => mem_offOrder info member
  rw [← order, List.flatMap_append, List.flatMap_singleton]
  exact (shows_forEach _ fun i _ => shows_linkClkStop info lType clk i).andThen
    (shows_linkClkStop info lType clk info.masterNdx)

/-! ## An update -/

theorem shows_callback (clk : Clk) (cb : Callback) (clkType : DsiClkType) (lType : DsiLclkType)
    (state : DsiClkState) (cond : Bool) :
    Shows (move clk) (whenever cond (attempt (.callback cb clkType lType state))) [] := by
  have told : Shows (move clk) (attempt (.callback cb clkType lType state)) [] := shows_attempt _
  exact (told.whenever cond).of_eq (ite_self [])

theorem shows_updateLinkClkState (lState : DsiClkState) (enable : Bool)
    {clk : Clk} (has : info.Has clk) :
    Shows (move clk) (dsiClkUpdateLinkClkState info lType lState enable)
      (linkShown lType clk (if enable then 1 else -1)) := by
  cases enable with
  | true =>
    have before : Shows (move clk) (attempt (.callback .preClkon DSI_LINK_CLK lType lState)) [] :=
      shows_attempt _
    exact (before.andThen ((shows_linkClkEnable info lType has).andThen
      (shows_callback clk .postClkon DSI_LINK_CLK lType lState _))).of_eq (List.append_nil _)
  | false =>
    exact ((shows_callback clk .preClkoff DSI_LINK_CLK lType lState _).ignoring.andThen
      ((shows_linkClkDisable info lType has).andThen
        (shows_callback clk .postClkoff DSI_LINK_CLK lType lState _))).of_eq (List.append_nil _)

def DsiClkMngr.moves (m : DsiClkMngr) (clk : Clk) : List Int := m.device.log.filterMap (move clk)

def Granted (m : DsiClkMngr) : Prop := m.device = granting m.device.log

structure After (clk : Clk) (m m' : DsiClkMngr) (seen : List Int) : Prop where
  granted : Granted m'
  moves : m'.moves clk = m.moves clk ++ seen

variable {m : DsiClkMngr}

theorem After.trans {clk : Clk} {m' m'' : DsiClkMngr} {front back : List Int}
    (first : After clk m m' front) (second : After clk m' m'' back) :
    After clk m m'' (front ++ back) :=
  ⟨second.granted, by rw [second.moves, first.moves, List.append_assoc]⟩

theorem perform_after {clk : Clk} (granted : Granted m) {op : Op ClkEvent}
    {seen : List Int} (shown : Shows (move clk) op seen) :
    After clk m (m.perform op).1 seen ∧ (m.perform op).2 = 0 := by
  obtain ⟨events, issues, rfl⟩ := shown
  have done : op m.device = (granting (m.device.log ++ events), 0) := by
    rw [granted]
    exact issues _
  refine ⟨⟨?_, ?_⟩, congrArg Prod.snd done⟩
  · show (op m.device).1 = granting (op m.device).1.log
    rw [done]
    rfl
  · show (op m.device).1.log.filterMap (move clk) = _
    rw [done]
    exact List.filterMap_append

def onShown (clk : Clk) (cClks : Bool) (cState : DsiClkState) : List Int :=
  if cClks ∧ cState = .on then coreShown clk 1 else []

def lCOnAfter (core link : DsiClkState) (cClks : Bool) (cState : DsiClkState) (lClks : Bool)
    (lState : DsiClkState) : Bool :=
  lClks && decide (lState ≠ .on) && (wakes core link lState && keeps core cClks cState)

def linkUpdateShown (clk : Clk) (core link : DsiClkState) (cClks : Bool) (cState : DsiClkState)
    (lClks : Bool) (lState : DsiClkState) : List Int :=
  if lClks then
    if lState = .on then linkShown DSI_LINK_LP_CLK clk 1 ++ linkShown DSI_LINK_HS_CLK clk 1
    else
      (if wakes core link lState then coreShown clk 1 else []) ++
        (linkShown DSI_LINK_HS_CLK clk (-1) ++ (linkShown DSI_LINK_LP_CLK clk (-1) ++
          if wakes core link lState && !keeps core cClks cState then coreShown clk (-1) else []))
  else []

def offShown (clk : Clk) (core : DsiClkState) (cClks : Bool) (cState : DsiClkState)
    (lCOn : Bool) : List Int :=
  if cClks ∧ cState ≠ .on then
    (if cState = .off ∧ core = .earlyGate ∧ !lCOn then coreShown clk 1 else []) ++
      coreShown clk (-1)
  else []

theorem turnCoreOn_after {clk : Clk} (granted : Granted m)
    (has : m.info.Has clk) (cClks : Bool) (cState : DsiClkState) :
    ∃ m', turnCoreOn m cClks cState = (m', .ok 0) ∧ After clk m m' (onShown clk cClks cState) := by
  by_cases turnsOn : cClks ∧ cState = .on
  · obtain ⟨started, startedRc⟩ := perform_after granted
      ((shows_callback clk .preClkon DSI_CORE_CLK DSI_LINK_NONE .on (m.coreClkState = .off)).andThen
        (shows_coreClkEnable m.info has))
    obtain ⟨told, toldRc⟩ := perform_after started.granted
      (shows_callback clk .postClkon DSI_CORE_CLK DSI_LINK_NONE .on m.info.postClkonCb)
    rw [turnCoreOn, if_pos turnsOn, onShown, if_pos turnsOn]
    dsimp only
    rw [if_neg (not_not.mpr startedRc), toldRc]
    refine ⟨_, rfl, told.granted, ?_⟩
    exact (started.trans told).moves.trans (by rw [List.append_nil, List.nil_append])
  · rw [turnCoreOn, if_neg turnsOn, onShown, if_neg turnsOn]
    exact ⟨m, rfl, granted, (List.append_nil _).symm⟩

theorem updateLink_after {clk : Clk} (granted : Granted m)
    (has : m.info.Has clk) (cClks : Bool) (cState : DsiClkState) (lClks : Bool)
    (lState : DsiClkState) :
    ∃ m', updateLink m cClks cState lClks lState 0 = (m', .ok (0,
        lCOnAfter m.coreClkState m.linkClkState cClks cState lClks lState)) ∧
      After clk m m'
        (linkUpdateShown clk m.coreClkState m.linkClkState cClks cState lClks lState) := by
  cases lClks with
  | false => exact ⟨m, rfl, granted, (List.append_nil _).symm⟩
  | true =>
    by_cases turnsOn : lState = .on
    · subst turnsOn
      obtain ⟨done, doneRc⟩ := perform_after granted
        ((shows_updateLinkClkState m.info DSI_LINK_LP_CLK .on true has).andThen
          (shows_updateLinkClkState m.info DSI_LINK_HS_CLK .on true has))
      rw [updateLink, if_pos rfl, if_pos rfl]
      dsimp only
      rw [if_neg (not_not.mpr doneRc), doneRc]
      exact ⟨_, rfl, done.granted, done.moves⟩
    · -- the conjunction of the two types is empty: no link clock is enabled
      have none : linkShown (DSI_LINK_LP_CLK &&& DSI_LINK_HS_CLK) clk 1 = [] := by
        cases clk with
        | core i k => rfl
        | link i k => cases k <;> rfl
      have wake := ((shows_coreClkEnable m.info has).andThen
        (shows_linkClkEnable m.info (DSI_LINK_LP_CLK &&& DSI_LINK_HS_CLK) has)).whenever
          (wakes m.coreClkState m.linkClkState lState)
      rw [none, List.append_nil] at wake
      obtain ⟨done, doneRc⟩ := perform_after granted (wake.andThen
        ((shows_updateLinkClkState m.info DSI_LINK_HS_CLK lState false has).andThen
          ((shows_updateLinkClkState m.info DSI_LINK_LP_CLK lState false has).andThen
            ((shows_coreClkDisable m.info has).whenever
              (wakes m.coreClkState m.linkClkState lState &&
                !keeps m.coreClkState cClks cState)))))
      rw [updateLink, if_pos rfl, if_neg turnsOn, linkUpdateShown, if_pos rfl, if_neg turnsOn]
      dsimp only
      rw [if_neg (not_not.mpr doneRc), doneRc, lCOnAfter, decide_eq_true turnsOn]
      exact ⟨_, rfl, done.granted, done.moves⟩

theorem turnCoreOff_after {clk : Clk} (granted : Granted m)
    (has : m.info.Has clk) (cClks : Bool) (cState : DsiClkState) (lCOn : Bool) :
    (turnCoreOff m cClks cState lCOn 0).2 = 0 ∧
      After clk m (turnCoreOff m cClks cState lCOn 0).1
        (offShown clk m.coreClkState cClks cState lCOn) := by
  by_cases turnsOff : cClks ∧ cState ≠ .on
  · obtain ⟨stopped, stoppedRc⟩ := perform_after granted
      (((shows_coreClkEnable m.info has).whenever
          (cState = .off ∧ m.coreClkState = .earlyGate ∧ !lCOn)).andThen
        ((shows_callback clk .preClkoff DSI_CORE_CLK DSI_LINK_NONE cState
          m.info.preClkoffCb).ignoring.andThen (shows_coreClkDisable m.info has)))
    obtain ⟨told, toldRc⟩ := perform_after stopped.granted
      (shows_callback clk .postClkoff DSI_CORE_CLK DSI_LINK_NONE .off
        (cState = .off ∧ m.info.postClkoffCb))
    rw [turnCoreOff, if_pos turnsOff, offShown, if_pos turnsOff]
    dsimp only
    rw [if_neg (not_not.mpr stoppedRc)]
    refine ⟨toldRc, told.granted, (stopped.trans told).moves.trans ?_⟩
    rw [List.append_nil, List.nil_append]
    simp only [decide_eq_true_eq]
  · rw [turnCoreOff, if_neg turnsOff, offShown, if_neg turnsOff]
    exact ⟨rfl, granted, (List.append_nil _).symm⟩

def coreFirst (core : DsiClkState) (cClks : Bool) (cState : DsiClkState) : DsiClkState :=
  if cClks ∧ cState = .on then .on else core

def updateShown (clk : Clk) (core link : DsiClkState) (cClks : Bool) (cState : DsiClkState)
    (lClks : Bool) (lState : DsiClkState) : List Int :=
  let first := coreFirst core cClks cState
  onShown clk cClks cState ++ (linkUpdateShown clk first link cClks cState lClks lState ++
    offShown clk first cClks cState (lCOnAfter first link cClks cState lClks lState))

end DisplayDrivers.DsiClk
