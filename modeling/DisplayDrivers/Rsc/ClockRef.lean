import Mathlib.Algebra.Group.Nat.Defs
import DisplayDrivers.Lib.Run
import DisplayDrivers.Rsc.Mirror

/-! # The clock reference of the RSC

`sde_rsc_client_state_update` takes a reference when it finds the RSC idle and drops one when it
leaves it idle; the initialisation after hibernation and each trigger of the votes take one and drop
it again. Between calls there is one reference exactly while the RSC is not idle.
-/

namespace DisplayDrivers.Rsc

open DisplayDrivers.Power DisplayDrivers.Lib.Run

/-- `n` references are held, and the supplies and clocks are enabled once if there is any. -/
structure Clocked (h : PowerHandle) (n : Nat) : Prop where
  refcount : (h.client pclient).refcount = BitVec.ofNat 16 n
  current : h.currentUsecaseNdx = if n = 0 then VOTE_INDEX_DISABLE else VOTE_INDEX_LOW
  vregs : h.vregs = if n = 0 then 0 else 1
  clks : h.clks = if n = 0 then 0 else 1

def ClkAnswers.Succeed (ans : ClkAnswers) : Prop := ans.vreg = 0 ∧ ans.clk = 0

/-! ## One reference -/

variable {n : Nat}

theorem ofNat_eq_zero (small : n < 2 ^ 16) : BitVec.ofNat 16 n = 0 ↔ n = 0 := by
  rw [← BitVec.toNat_inj, BitVec.toNat_ofNat, Nat.mod_eq_of_lt small]
  rfl

theorem count_usecase {p : PowerClient} {enable : Bool}
    (counts : (p.count enable).refcount = BitVec.ofNat 16 n) (small : n < 2 ^ 16) :
    (p.count enable).usecaseNdx.signExtend 32 =
      if n = 0 then VOTE_INDEX_DISABLE else VOTE_INDEX_LOW := by
  have zero := ofNat_eq_zero small
  have usecase : (p.count enable).usecaseNdx =
      if (p.count enable).refcount ≠ 0 then VOTE_INDEX_LOW.setWidth 16
      else VOTE_INDEX_DISABLE.setWidth 16 := rfl
  rw [usecase, counts]
  by_cases none : n = 0
  · rw [if_neg (not_not.mpr (zero.mpr none)), if_pos none]
    decide
  · rw [if_pos (zero.not.mpr none), if_neg none]
    decide

variable {ans : ClkAnswers}

theorem clkEnable_of_succeed (h : PowerHandle) (enable : Bool) (ok : ans.Succeed) :
    sdeRscClkEnable h enable ans =
      let p := (h.client pclient).count enable
      let counted := h.setClient pclient p
      (if h.currentUsecaseNdx = p.usecaseNdx.signExtend 32 then counted
        else ((counted.enableVreg enable).enableClk enable).setCurrent
          (p.usecaseNdx.signExtend 32), 0) := by
  obtain ⟨vreg, clk⟩ := ok
  have current (p : PowerClient) :
      (h.setClient pclient p).currentUsecaseNdx = h.currentUsecaseNdx := rfl
  cases enable with
  | true =>
    simp only [sdeRscClkEnable, vreg, clk, current]
    split
    · simp
    · rfl
  | false =>
    simp only [sdeRscClkEnable, vreg, clk, current]
    split
    · simp
    · rfl

variable {h : PowerHandle}

theorem clkEnable_clocked {m : Nat} (clocked : Clocked h n) {enable : Bool}
    (counts : ((h.client pclient).count enable).refcount = BitVec.ofNat 16 m) (small : m < 2 ^ 16)
    (edge : (n = 0 ↔ m = 0) ∨ enable = decide (n = 0)) (ok : ans.Succeed) :
    Clocked (sdeRscClkEnable h enable ans).1 m := by
  have usecase := count_usecase counts small
  rw [clkEnable_of_succeed h enable ok]
  simp only []
  by_cases same : n = 0 ↔ m = 0
  · have stays : h.currentUsecaseNdx =
        ((h.client pclient).count enable).usecaseNdx.signExtend 32 := by
      rw [clocked.current, usecase]
      simp only [same]
    rw [if_pos stays]
    obtain ⟨-, current, vregs, clks⟩ := clocked
    simp only [same] at current vregs clks
    exact ⟨by simpa using counts, current, vregs, clks⟩
  · have moves : h.currentUsecaseNdx ≠
        ((h.client pclient).count enable).usecaseNdx.signExtend 32 := by
      rw [clocked.current, usecase]
      split <;> split <;> first | decide | (exfalso; tauto)
    have refcount : (((h.setClient pclient ((h.client pclient).count enable)).client
        pclient).refcount) = BitVec.ofNat 16 m := by simpa using counts
    have direction : enable = decide (n = 0) := edge.resolve_left same
    rw [if_neg moves]
    by_cases none : n = 0
    · have up : enable = true := by simpa [none] using direction
      have some : m ≠ 0 := fun zero => same (iff_of_true none zero)
      have vregs : h.vregs = 0 := by simpa [none] using clocked.vregs
      have clks : h.clks = 0 := by simpa [none] using clocked.clks
      subst up
      refine ⟨refcount, usecase, ?_, ?_⟩
      · show h.vregs + 1 = _
        simp [vregs, some]
      · show h.clks + 1 = _
        simp [clks, some]
    · have down : enable = false := by simpa [none] using direction
      have zero : m = 0 := by tauto
      have vregs : h.vregs = 1 := by simpa [none] using clocked.vregs
      have clks : h.clks = 1 := by simpa [none] using clocked.clks
      subst down
      refine ⟨refcount, usecase, ?_, ?_⟩
      · show h.vregs - 1 = _
        simp [vregs, zero]
      · show h.clks - 1 = _
        simp [clks, zero]

theorem clkEnable_on (clocked : Clocked h n) (room : n + 1 < 2 ^ 16) (ok : ans.Succeed) :
    Clocked (sdeRscClkEnable h true ans).1 (n + 1) := by
  have counts : ((h.client pclient).count true).refcount = BitVec.ofNat 16 (n + 1) := by
    simp only [PowerClient.count, if_true, clocked.refcount]
    exact (BitVec.ofNat_add n 1).symm
  apply clkEnable_clocked clocked counts room _ ok
  by_cases none : n = 0 <;> simp [none]

theorem clkEnable_off (clocked : Clocked h (n + 1)) (small : n + 1 < 2 ^ 16) (ok : ans.Succeed) :
    Clocked (sdeRscClkEnable h false ans).1 n := by
  have counts : ((h.client pclient).count false).refcount = BitVec.ofNat 16 n := by
    have some : BitVec.ofNat 16 (n + 1) ≠ 0 := (ofNat_eq_zero small).not.mpr (Nat.succ_ne_zero n)
    simp only [PowerClient.count, clocked.refcount, Bool.false_eq_true, if_false]
    rw [if_pos some, BitVec.ofNat_add]
    exact BitVec.add_sub_cancel ..
  apply clkEnable_clocked clocked counts (by omega) _ ok
  simp

theorem clkEnable_rc (h : PowerHandle) (enable : Bool) (ok : ans.Succeed) :
    (sdeRscClkEnable h enable ans).2 = 0 := by
  rw [clkEnable_of_succeed h enable ok]

/-! ## What takes and drops references -/

def references (state : RscState) : Nat := if state = .idle then 0 else 1

theorem references_lt (state : RscState) : references state + 1 < 2 ^ 16 := by
  cases state <;> decide

@[simp] theorem rscHwInit_eq_zero (version : Revision) : rscHwInit version = 0 := by
  cases version <;> decide

variable {r : RscPriv}

theorem hwInit_clocked (clocked : Clocked r.phandle n)
    (room : n + 1 < 2 ^ 16) {ans : InitAnswers} (on : ans.clkOn.Succeed)
    (off : ans.clkOff.Succeed) : Clocked (sdeRscHwInit r ans).1.phandle n := by
  simp only [sdeRscHwInit, clkEnable_rc _ _ on, rscHwInit_eq_zero]
  split
  · exact clocked
  · simpa using clkEnable_off (clkEnable_on clocked room on) room off

theorem wake_clocked (clocked : Clocked r.phandle (references r.currentState))
    (state : RscState) {ans : Answers} (on : ans.clkOn.Succeed) (initOn : ans.init.clkOn.Succeed)
    (initOff : ans.init.clkOff.Succeed) : Clocked (r.wake state ans).phandle 1 := by
  have inited := hwInit_clocked clocked (references_lt _) initOn initOff
  have same : (sdeRscHwInit r ans.init).1.currentState = r.currentState := by
    obtain ⟨phandle, swFs, init⟩ := sdeRscHwInit_eq r ans.init
    rw [init]
  by_cases idle : r.currentState = .idle
  · simp only [references, idle, if_true] at clocked inited
    by_cases init : r.needHwinit = true ∧ state ≠ .idle
    · simpa [RscPriv.wake, init, same, idle] using clkEnable_on inited (by decide) on
    · simpa only [RscPriv.wake, if_neg init, idle, if_true] using
        clkEnable_on clocked (by decide) on
  · simp only [references, idle, if_false] at clocked inited
    by_cases init : r.needHwinit = true ∧ state ≠ .idle
    · simpa [RscPriv.wake, init, same, idle] using inited
    · simpa only [RscPriv.wake, if_neg init, idle, if_false] using clocked

theorem settle_clocked (clocked : Clocked r.phandle 1) (s : Switch)
    (state : RscState) {ans : Answers} (off : ans.clkOff.Succeed) :
    Clocked (r.settle s state ans).phandle (references (r.settle s state ans).currentState) := by
  have dropped := clkEnable_off clocked (by decide) off
  simp only [RscPriv.settle]
  generalize (if s.rc = 0 then state else r.currentState) = current
  by_cases idle : current = .idle
  · simpa [idle, references] using dropped
  · simpa [idle, references] using clocked

theorem stateUpdate_clocked
    (clocked : Clocked r.phandle (references r.currentState)) (req : Request) {ans : Answers}
    (on : ans.clkOn.Succeed) (off : ans.clkOff.Succeed) (initOn : ans.init.clkOn.Succeed)
    (initOff : ans.init.clkOff.Succeed) :
    Clocked (sdeRscClientStateUpdate r req ans).1.phandle
      (references (sdeRscClientStateUpdate r req ans).1.currentState) := by
  by_cases served : r.serves req
  · have recorded : Clocked (r.record req).phandle (references (r.record req).currentState) :=
      clocked
    rw [stateUpdate_of_serves served]
    exact settle_clocked (wake_clocked recorded req.state on initOn initOff) _ _ off
  · rw [stateUpdate_of_not_serves served]
    exact clocked

theorem setQuota_clocked (clocked : Clocked h n) (b : BusId) (ab ib : U64) (answer : Int) :
    Clocked (sdePowerDataBusSetQuota h pclient .rt b ab ib answer).1 n := by
  have slot : Clocked (h.setSlot pclient .rt ab ib) n :=
    ⟨by simpa [PowerHandle.setSlot] using clocked.refcount, clocked.current, clocked.vregs,
      clocked.clks⟩
  simp only [sdePowerDataBusSetQuota]
  split
  · exact ⟨slot.refcount, slot.current, slot.vregs, slot.clks⟩
  · exact slot

theorem voteBuses_clocked (clocked : Clocked h n) (bw : BwConfig)
    (answer : BusId → Int) : Clocked (voteBuses h bw answer) n := by
  simp only [voteBuses]
  induction BusId.all generalizing h with
  | nil => exact clocked
  | cons b rest ih => exact ih (setQuota_clocked clocked b _ _ _)

theorem triggerVote_clocked (clocked : Clocked r.phandle n)
    (room : n + 1 < 2 ^ 16) (deltaVote : Bool) {ans : VoteAnswers} (on : ans.clkOn.Succeed)
    (off : ans.clkOff.Succeed) :
    Clocked (sdeRscClientTriggerVote r deltaVote ans).1.phandle n := by
  have taken := clkEnable_on clocked room on
  simp only [sdeRscClientTriggerVote, clkEnable_rc _ _ on]
  split
  · next failed => exact absurd rfl failed
  · split
    · exact clkEnable_off taken room off
    · cases deltaVote with
      | false =>
        simp only [Bool.false_eq_true, if_false]
        split <;> exact clkEnable_off taken room off
      | true =>
        have voted := voteBuses_clocked taken
        simp only [if_true]
        split <;> dsimp only <;> exact clkEnable_off (voted _ _) room off

/-! ## Runs -/

def ClocksSucceed : Call → Prop
  | .stateUpdate _ ans =>
    ans.init.clkOn.Succeed ∧ ans.init.clkOff.Succeed ∧ ans.clkOn.Succeed ∧ ans.clkOff.Succeed
  | .triggerVote _ ans => ans.clkOn.Succeed ∧ ans.clkOff.Succeed
  | _ => True

theorem step_clocked (clocked : Clocked r.phandle (references r.currentState))
    {call : Call} (succeed : ClocksSucceed call) :
    Clocked (step r call).phandle (references (step r call).currentState) := by
  cases call with
  | stateUpdate req ans =>
    by_cases listed : req.caller ∈ r.clientList
    · obtain ⟨initOn, initOff, on, off⟩ := succeed
      simpa only [step, listed, if_true] using
        stateUpdate_clocked clocked req on off initOn initOff
    · simpa only [step, listed, if_false] using clocked
  | triggerVote deltaVote ans =>
    have same : (sdeRscClientTriggerVote r deltaVote ans).1.currentState = r.currentState := by
      obtain ⟨phandle, bwConfig, bwIndication, eq⟩ := triggerVote_eq r deltaVote ans
      rw [eq]
    simp only [step, same]
    exact triggerVote_clocked clocked (references_lt _) deltaVote succeed.1 succeed.2
  | create _ | vote _ _ _ | resetVsyncRefcount | freezeLate | bind | unbind => exact clocked

theorem start_clocked (version : Revision) (buses : BusId → DataBusHandle) (rscVsyncWait : Nat) :
    Clocked (RscPriv.start version buses rscVsyncWait).phandle 0 := by
  have zero : ClkAnswers.Succeed ⟨0, 0⟩ := ⟨rfl, rfl⟩
  apply hwInit_clocked _ (by decide) zero zero
  exact ⟨by simp [sdePowerDataBusStateUpdate, sdePowerClientCreate, sdePowerResourceInit, pclient,
    PowerHandle.setClient, PowerClient.fresh], rfl, rfl, rfl⟩

structure ClockBalanced (r : RscPriv) : Prop where
  refcount : (r.phandle.client pclient).refcount = if r.currentState = .idle then 0 else 1
  clks : r.phandle.clks = if 0 < (r.phandle.client pclient).refcount.toInt then 1 else 0
  vregs : r.phandle.vregs = if 0 < (r.phandle.client pclient).refcount.toInt then 1 else 0

theorem Clocked.balanced (clocked : Clocked r.phandle (references r.currentState)) :
    ClockBalanced r := by
  obtain ⟨refcount, -, vregs, clks⟩ := clocked
  by_cases idle : r.currentState = .idle
  · simp only [references, idle, if_true] at refcount vregs clks
    exact ⟨by simpa [idle] using refcount, by simp [refcount, clks], by simp [refcount, vregs]⟩
  · simp only [references, idle, if_false] at refcount vregs clks
    exact ⟨by simpa [idle] using refcount, by simp [refcount, clks], by simp [refcount, vregs]⟩

/-- The clock reference is balanced after each call, whatever the hardware, the vsync and the
    regulator do, while the clock operations succeed. -/
theorem clock_reference_balanced (version : Revision) (buses : BusId → DataBusHandle)
    (rscVsyncWait : Nat) {calls : List Call} (succeed : ∀ call ∈ calls, ClocksSucceed call) :
    Throughout step ClockBalanced (RscPriv.start version buses rscVsyncWait) calls := by
  have start : Clocked (RscPriv.start version buses rscVsyncWait).phandle
      (references (RscPriv.start version buses rscVsyncWait).currentState) := by
    rw [(start_eq version buses rscVsyncWait).2.2.1]
    exact start_clocked version buses rscVsyncWait
  exact throughout_of_meets (fun r => Clocked r.phandle (references r.currentState))
    (fun _ _ clocked ok => step_clocked clocked ok) (fun _ clocked => clocked.balanced) start
    (stepsMeet_of_forall (fun _ => succeed) _)

/-- After hibernation, with the hardware refusing the first request and the wait of the second
    one timing out. -/
theorem clock_reference_balanced_hibernation :
    Throughout step ClockBalanced (RscPriv.start .rev2 (fun _ => bareBus) 1)
      [.create .primaryDisp, .bind, .freezeLate,
        .stateUpdate (.plain 0 .vid) { Answers.fine with update := some 3, resets := 1 },
        .triggerVote true
          { clkOn := ⟨0, 0⟩, clkOff := ⟨0, 0⟩, tcsWait := -16, dataBus := fun _ => 0 },
        .stateUpdate (.plain 0 .idle) .fine] := by
  apply clock_reference_balanced
  simp [ClocksSucceed, ClkAnswers.Succeed, Answers.fine]

end DisplayDrivers.Rsc
