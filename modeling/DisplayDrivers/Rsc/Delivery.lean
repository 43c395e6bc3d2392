import DisplayDrivers.Lib.Run
import DisplayDrivers.Rsc.ClockRef

/-! # The votes that reach the data buses

A trigger copies the votes that were asked for over the ones that were sent before it knows whether
it can send them: the clock enable and the wait for the TCS come later, and both may fail.
-/

namespace DisplayDrivers.Rsc

open DisplayDrivers.Power DisplayDrivers.Lib.Run

/-- `ab_vote` and `ib_vote` of a bus. -/
def RscPriv.recorded (r : RscPriv) (b : BusId) : U64 × U64 :=
  (r.bwConfig.abVote b, r.bwConfig.ibVote b)

/-- `new_ab_vote` and `new_ib_vote` of a bus. -/
def RscPriv.asked (r : RscPriv) (b : BusId) : U64 × U64 :=
  (r.bwConfig.newAbVote b, r.bwConfig.newIbVote b)

def RscPriv.refcount (r : RscPriv) : Short := (r.phandle.client pclient).refcount

def RscPriv.sends (r : RscPriv) (deltaVote : Bool) (ans : VoteAnswers) : Prop :=
  (sdeRscClkEnable r.phandle true ans.clkOn).2 = 0 ∧ deltaVote = true ∧ ans.tcsWait = 0

instance (r : RscPriv) (deltaVote : Bool) (ans : VoteAnswers) :
    Decidable (r.sends deltaVote ans) :=
  inferInstanceAs (Decidable (_ ∧ _))

structure VoteLog where
  rsc : RscPriv
  sent : BusId → U64 × U64
  balanced : Prop

def VoteLog.start (version : Revision) (buses : BusId → DataBusHandle) (rscVsyncWait : Nat) :
    VoteLog :=
  { rsc := .start version buses rscVsyncWait, sent := fun _ => (0, 0), balanced := True }

def VoteLog.step (log : VoteLog) (call : Call) : VoteLog :=
  let next := Rsc.step log.rsc call
  match call with
  | .triggerVote deltaVote ans =>
    { rsc := next
      sent := if log.rsc.sends deltaVote ans then next.recorded else log.sent
      balanced := log.balanced ∧ next.refcount = log.rsc.refcount }
  | _ => { log with rsc := next }

structure VoteLog.Delivered (log : VoteLog) : Prop where
  recorded : log.rsc.recorded = log.sent
  balanced : log.balanced

def RscPriv.ClockComesUp (r : RscPriv) (ans : ClkAnswers) : Prop :=
  r.phandle.currentUsecaseNdx = VOTE_INDEX_LOW ∨ ans.Succeed

/-- A trigger whose clock enable succeeds, and whose wait for the TCS does where there is a change
    to be sent; one more reference does not overflow the count. -/
def VoteLog.Meets (log : VoteLog) : Call → Prop
  | .triggerVote deltaVote ans =>
    log.rsc.refcount ≠ -1 ∧ log.rsc.ClockComesUp ans.clkOn ∧
      (deltaVote = true → ans.tcsWait ≠ 0 → log.rsc.asked = log.rsc.recorded)
  | _ => True

/-! ## The clock reference of a trigger -/

section Trigger
variable {r : RscPriv} {deltaVote : Bool} {ans : VoteAnswers}

theorem refcount_clkEnable (h : PowerHandle) (enable : Bool) (ans : ClkAnswers) :
    ((sdeRscClkEnable h enable ans).1.client pclient).refcount =
      ((h.client pclient).count enable).refcount := by
  simp only [sdeRscClkEnable]
  split
  · simp
  split
  · split
    · simp
    · split <;> simp [PowerHandle.enableVreg, PowerHandle.enableClk, PowerHandle.setCurrent]
  · split <;> simp [PowerHandle.enableVreg, PowerHandle.enableClk, PowerHandle.setCurrent]

theorem refcount_voteBuses (h : PowerHandle) (bw : BwConfig) (answer : BusId → Int) :
    ((voteBuses h bw answer).client pclient).refcount = (h.client pclient).refcount := by
  simp only [voteBuses]
  induction BusId.all generalizing h with
  | nil => rfl
  | cons b rest ih =>
    rw [List.foldl_cons, ih]
    exact (keeps_setQuota pclient h .rt b _ _ _).refcount pclient

theorem clkEnable_ok_iff (room : r.refcount ≠ -1) (ans : ClkAnswers) :
    (sdeRscClkEnable r.phandle true ans).2 = 0 ↔ r.ClockComesUp ans := by
  have up : (r.phandle.client pclient).refcount + 1 ≠ 0 := by
    simp only [RscPriv.refcount] at room
    bv_omega
  have low : ((r.phandle.client pclient).count true).usecaseNdx.signExtend 32 =
      VOTE_INDEX_LOW := by
    simp only [PowerClient.count, if_true, ne_eq, up, not_false_eq_true]
    decide
  have current (p : PowerClient) :
      (r.phandle.setClient pclient p).currentUsecaseNdx = r.phandle.currentUsecaseNdx := rfl
  simp only [sdeRscClkEnable, low, current, RscPriv.ClockComesUp, ClkAnswers.Succeed]
  by_cases on : r.phandle.currentUsecaseNdx = VOTE_INDEX_LOW
  · simp [on]
  by_cases vreg : ans.vreg = 0
  · by_cases clk : ans.clk = 0
    · simp [on, vreg, clk]
    · simp [on, vreg, clk]
  · simp [on, vreg]

theorem refcount_triggerVote_of_fails
    (fails : (sdeRscClkEnable r.phandle true ans.clkOn).2 ≠ 0) :
    (sdeRscClientTriggerVote r deltaVote ans).1.refcount = r.refcount + 1 := by
  simp only [sdeRscClientTriggerVote, fails, ne_eq, not_false_eq_true, if_true]
  exact refcount_clkEnable r.phandle true ans.clkOn

theorem refcount_clkDisable {h : PowerHandle} {n : Short}
    (taken : (h.client pclient).refcount = n + 1) (ans : ClkAnswers) :
    ((sdeRscClkEnable h false ans).1.client pclient).refcount = if n = -1 then 0 else n := by
  rw [refcount_clkEnable]
  simp only [PowerClient.count, Bool.false_eq_true, if_false, taken]
  by_cases full : n = -1
  · subst full
    decide
  -- unless the count was full, the reference that was taken is there to be put down
  · have some : n + 1 ≠ 0 := by bv_omega
    rw [if_pos some, if_neg full]
    bv_omega

theorem refcount_triggerVote_of_ok (ok : (sdeRscClkEnable r.phandle true ans.clkOn).2 = 0) :
    (sdeRscClientTriggerVote r deltaVote ans).1.refcount =
      if r.refcount = -1 then 0 else r.refcount := by
  have taken : ((sdeRscClkEnable r.phandle true ans.clkOn).1.client pclient).refcount =
      r.refcount + 1 := refcount_clkEnable r.phandle true ans.clkOn
  have voted (bw : BwConfig) : ((voteBuses (sdeRscClkEnable r.phandle true ans.clkOn).1 bw
      ans.dataBus).client pclient).refcount = r.refcount + 1 := by
    rw [refcount_voteBuses, taken]
  simp only [sdeRscClientTriggerVote, ok, ne_eq, not_true_eq_false, if_false]
  split
  · exact refcount_clkDisable taken ans.clkOff
  cases deltaVote with
  | false =>
    simp only [Bool.false_eq_true, if_false]
    split
    · exact refcount_clkDisable taken ans.clkOff
    · exact refcount_clkDisable taken ans.clkOff
  | true =>
    simp only [if_true]
    split
    · dsimp only [RscPriv.refcount]
      exact refcount_clkDisable (voted _) ans.clkOff
    · dsimp only [RscPriv.refcount]
      exact refcount_clkDisable (voted _) ans.clkOff

theorem recorded_triggerVote :
    (sdeRscClientTriggerVote r deltaVote ans).1.recorded =
      if deltaVote then r.asked else r.recorded := by
  cases deltaVote with
  | false =>
    simp only [sdeRscClientTriggerVote, Bool.false_eq_true, if_false, false_and]
    split
    · rfl
    · split <;> rfl
  | true =>
    simp only [sdeRscClientTriggerVote, if_true, true_and]
    split
    · rfl
    · split
      · rfl
      · split <;> rfl

end Trigger

/-! ## One call -/

theorem recorded_step_of_other (r : RscPriv) {call : Call}
    (other : ∀ deltaVote ans, call ≠ .triggerVote deltaVote ans) :
    (Rsc.step r call).recorded = r.recorded := by
  cases call with
  | triggerVote deltaVote ans => exact absurd rfl (other deltaVote ans)
  | stateUpdate req ans =>
    simp only [Rsc.step]
    split
    · funext b
      simp [RscPriv.recorded]
    · rfl
  | create _ | vote _ _ _ | resetVsyncRefcount | freezeLate | bind | unbind => rfl

theorem delivered_triggerVote_iff {log : VoteLog} (before : log.Delivered) (deltaVote : Bool)
    (ans : VoteAnswers) :
    (log.step (.triggerVote deltaVote ans)).Delivered ↔ log.Meets (.triggerVote deltaVote ans) := by
  -- before the trigger all is well, so only its own record and reference are in question
  have unfolded : (log.step (.triggerVote deltaVote ans)).Delivered ↔
      ((if deltaVote then log.rsc.asked else log.rsc.recorded) =
          if log.rsc.sends deltaVote ans then
            if deltaVote then log.rsc.asked else log.rsc.recorded
          else log.rsc.recorded) ∧
        (sdeRscClientTriggerVote log.rsc deltaVote ans).1.refcount = log.rsc.refcount := by
    constructor
    · rintro ⟨recorded, -, kept⟩
      simp only [VoteLog.step, Rsc.step, recorded_triggerVote, ← before.recorded] at recorded
      exact ⟨recorded, kept⟩
    · rintro ⟨recorded, kept⟩
      refine ⟨?_, before.balanced, kept⟩
      simp only [VoteLog.step, Rsc.step, recorded_triggerVote, ← before.recorded]
      exact recorded
  rw [unfolded]
  by_cases full : log.rsc.refcount = -1
  · -- the count wraps to zero, and stays there
    refine iff_of_false (fun right => ?_) fun meets => meets.1 full
    have kept := right.2
    by_cases ok : (sdeRscClkEnable log.rsc.phandle true ans.clkOn).2 = 0
    · rw [refcount_triggerVote_of_ok ok, if_pos full, full] at kept
      exact absurd kept (by decide)
    · rw [refcount_triggerVote_of_fails ok, full] at kept
      exact absurd kept (by decide)
  simp only [VoteLog.Meets, ne_eq, full, not_false_eq_true, true_and, ← clkEnable_ok_iff full]
  by_cases ok : (sdeRscClkEnable log.rsc.phandle true ans.clkOn).2 = 0
  · rw [refcount_triggerVote_of_ok ok, if_neg full]
    cases deltaVote with
    | false => simp [RscPriv.sends, ok]
    | true =>
      -- a busy TCS sends nothing, so the votes must be those recorded before
      by_cases ready : ans.tcsWait = 0
      · simp [RscPriv.sends, ok, ready]
      · simp [RscPriv.sends, ok, ready]
  · rw [refcount_triggerVote_of_fails ok]
    refine iff_of_false (fun right => ?_) fun meets => ok meets.1
    have kept := right.2
    bv_omega

theorem delivered_step_iff {log : VoteLog} (before : log.Delivered) (call : Call) :
    (log.step call).Delivered ↔ log.Meets call := by
  cases call with
  | triggerVote deltaVote ans => exact delivered_triggerVote_iff before deltaVote ans
  | create _ | stateUpdate _ _ | vote _ _ _ | resetVsyncRefcount | freezeLate | bind | unbind =>
    refine iff_of_true ⟨?_, before.balanced⟩ trivial
    exact (recorded_step_of_other log.rsc (by simp)).trans before.recorded

/-- From the probe on, the votes that are recorded are the ones that were sent, and every trigger
    is balanced, exactly as long as every trigger meets its condition. -/
theorem votes_delivered_iff (version : Revision) (buses : BusId → DataBusHandle)
    (rscVsyncWait : Nat) (calls : List Call) :
    Throughout VoteLog.step VoteLog.Delivered (.start version buses rscVsyncWait) calls ↔
      StepsMeet VoteLog.step VoteLog.Meets (.start version buses rscVsyncWait) calls := by
  have start : (VoteLog.start version buses rscVsyncWait).Delivered := by
    refine ⟨?_, trivial⟩
    simp only [VoteLog.start, RscPriv.start, sdeRscProbe]
    generalize probed : sdeRscHwInit _ _ = init
    obtain ⟨phandle, swFs, eq⟩ := sdeRscHwInit_eq _ _
    rw [probed] at eq
    funext b
    simp [eq, RscPriv.recorded]
  exact throughout_iff_stepsMeet_kept VoteLog.Delivered
    (fun log call before meets => (delivered_step_iff before call).mpr meets) (fun _ => id)
    (fun log call before fails after => fails ((delivered_step_iff before call).mp after)) start
    calls

def busyTcs : List Call :=
  [.vote .mnoc 100 0,
    .triggerVote true { clkOn := ⟨0, 0⟩, clkOff := ⟨0, 0⟩, tcsWait := -16, dataBus := fun _ => 0 }]

/-- The vote is recorded, and no bus has been sent anything. -/
theorem not_votes_delivered :
    ¬ ∀ (version : Revision) (buses : BusId → DataBusHandle) (rscVsyncWait : Nat)
        (calls : List Call),
      Throughout VoteLog.step VoteLog.Delivered (.start version buses rscVsyncWait) calls := by
  intro delivered
  have after := (delivered .rev2 (fun _ => bareBus) 0 busyTcs).2.2
  have first := congrFun after.recorded .mnoc
  revert first
  decide

end DisplayDrivers.Rsc
