import DisplayDrivers.Lib.Run
import DisplayDrivers.Rsc.Arbitration

/-! # The recorded state of the RSC and the state of the hardware

The switches to CLK, and to VID in the v2 operations, end with a wait for an outstanding vsync whose
result replaces the one of the hardware update.
-/

namespace DisplayDrivers.Rsc

open DisplayDrivers.Power DisplayDrivers.Lib.Run

def Mirrors (r : RscPriv) : Prop := r.currentState = r.hwState

instance : DecidablePred Mirrors := fun _ => inferInstanceAs (Decidable (_ = _))

def RscPriv.WaitsInNewState (r : RscPriv) (req : Request) : Prop :=
  r.currentState ≠ .clk ∧ r.blocksClk = false ∧
      (req.state = .clk ∨ req.state = .idle ∧ r.clkClientActive = true) ∨
    r.currentState ≠ .vid ∧ r.version ≠ .rev3 ∧ req.state = .vid

def WaitAgrees (r : RscPriv) : Call → Prop
  | .stateUpdate req ans =>
    req.caller ∈ r.clientList → r.serves req → (r.record req).WaitsInNewState req →
      r.rscVsyncWait ≠ 0 →
      ¬ (ans.update = none ∧ r.leavesDisplay = true ∧ r.primaryClient ≠ none) →
      (ans.update = none ↔ r.rscVsyncWait ≤ ans.resets)
  | _ => True

/-! ## Which verdicts wait -/

theorem displayVerdict_ne_awaited (r : RscPriv) (target : RscState) (blocked : Bool)
    (caller : Option ClientId) (t : RscState) :
    r.displayVerdict target blocked caller ≠ .awaited t := by
  simp only [RscPriv.displayVerdict]
  split_ifs <;> simp

theorem clkVerdict_eq_awaited (r : RscPriv) (t : RscState) :
    r.clkVerdict = .awaited t ↔ r.blocksClk = false ∧ t = .clk := by
  cases blocked : r.blocksClk <;> simp [RscPriv.clkVerdict, blocked, eq_comm]

theorem vidVerdict_eq_awaited (r : RscPriv) (caller : Option ClientId) (t : RscState) :
    r.vidVerdict caller = .awaited t ↔
      r.version ≠ .rev3 ∧ r.currentState ≠ .vid ∧ t = .vid := by
  by_cases rev : r.version = .rev3
  · simp [RscPriv.vidVerdict, rev, displayVerdict_ne_awaited]
  · by_cases same : r.currentState = .vid
    · simp [RscPriv.vidVerdict, rev, same]
    · simp [RscPriv.vidVerdict, rev, same, eq_comm]

theorem cmdVerdict_ne_awaited (r : RscPriv) (caller : Option ClientId) (t : RscState) :
    r.cmdVerdict caller ≠ .awaited t := displayVerdict_ne_awaited _ _ _ _ t

theorem idleVerdict_eq_awaited (r : RscPriv) (t : RscState) :
    r.idleVerdict = .awaited t ↔
      r.clkClientActive = true ∧ r.blocksClk = false ∧ t = .clk := by
  by_cases rev : r.version = .rev3
  · simp only [RscPriv.idleVerdict, rev, if_true]
    split
    · next vid =>
      have blocked : r.blocksClk = true := by simp_all [RscPriv.blocksClk]
      simp [vidVerdict_eq_awaited, rev, blocked]
    · split
      · next cmd =>
        have blocked : r.blocksClk = true := by simp_all [RscPriv.blocksClk]
        simp [cmdVerdict_ne_awaited, blocked]
      · split
        · next clk => simp [clkVerdict_eq_awaited, clk]
        · next clk => simp [clk]
  · simp only [RscPriv.idleVerdict, rev, if_false]
    split
    · next vid =>
      have blocked : r.blocksClk = true := by simp [RscPriv.blocksClk, rev, vid]
      simp [blocked]
    · split
      · next cmd =>
        have blocked : r.blocksClk = true := by simp [RscPriv.blocksClk, rev, cmd]
        simp [cmdVerdict_ne_awaited, blocked]
      · split
        · next clk => simp [clkVerdict_eq_awaited, clk]
        · next clk => simp [clk]

theorem waitsInNewState_iff (r : RscPriv) (req : Request) :
    r.WaitsInNewState req ↔ ∃ t, r.verdict req = .awaited t ∧ r.currentState ≠ t := by
  cases state : req.state with
  | idle =>
    simp [RscPriv.WaitsInNewState, RscPriv.verdict, state, idleVerdict_eq_awaited]
    tauto
  | cmd => simp [RscPriv.WaitsInNewState, RscPriv.verdict, state, cmdVerdict_ne_awaited]
  | vid =>
    simp [RscPriv.WaitsInNewState, RscPriv.verdict, state, vidVerdict_eq_awaited]
    tauto
  | clk =>
    simp [RscPriv.WaitsInNewState, RscPriv.verdict, state, clkVerdict_eq_awaited]
    tauto

/-! ## One call -/

variable {r : RscPriv}

theorem awaited_states_agree (mirrors : Mirrors r) (ans : Answers) (t : RscState) :
    ((Verdict.awaited t).states r ans).2 = ((Verdict.awaited t).states r ans).1 ↔
      (r.currentState ≠ t → r.rscVsyncWait ≠ 0 →
        ¬ (ans.update = none ∧ r.leavesDisplay = true ∧ r.primaryClient ≠ none) →
        (ans.update = none ↔ r.rscVsyncWait ≤ ans.resets)) := by
  have same : r.hwState = r.currentState := mirrors.symm
  by_cases new : r.currentState = t
  · simp [Verdict.states, same, new]
  · by_cases armed : ans.update = none ∧ r.leavesDisplay = true ∧ r.primaryClient ≠ none
    · simp [Verdict.states, RscPriv.waitSucceeds, armed]
    · by_cases waits : r.rscVsyncWait = 0
      · by_cases ok : ans.update = none <;>
          simp [Verdict.states, RscPriv.waitSucceeds, waits, ok, same]
      · have decides : r.waitSucceeds ans ↔ r.rscVsyncWait ≤ ans.resets := by
          rw [RscPriv.waitSucceeds, if_neg (not_or.mpr ⟨armed, waits⟩)]
        simp only [Verdict.states, decides, same, ne_eq, new, not_false_eq_true, waits, armed,
          true_implies]
        by_cases ok : ans.update = none <;> by_cases inTime : r.rscVsyncWait ≤ ans.resets
        · simp [ok, inTime]
        · simp [ok, inTime, new]
        · simp [ok, inTime, Ne.symm new]
        · simp [ok, inTime]

theorem verdict_states_agree (mirrors : Mirrors r) (ans : Answers) (v : Verdict) :
    (v.states r ans).2 = (v.states r ans).1 ↔
      (∀ t, v = .awaited t → r.currentState ≠ t → r.rscVsyncWait ≠ 0 →
        ¬ (ans.update = none ∧ r.leavesDisplay = true ∧ r.primaryClient ≠ none) →
        (ans.update = none ↔ r.rscVsyncWait ≤ ans.resets)) := by
  cases v with
  | refused => simpa [Verdict.states, Mirrors] using mirrors
  | kept => simpa [Verdict.states, Mirrors] using mirrors
  | updated t =>
    by_cases ok : ans.update = none
    · simp [Verdict.states, ok]
    · simpa [Verdict.states, ok, Mirrors] using mirrors
  | awaited t => simpa using awaited_states_agree mirrors ans t

theorem stateUpdate_mirrors_iff (mirrors : Mirrors r) (req : Request) (ans : Answers) :
    Mirrors (sdeRscClientStateUpdate r req ans).1 ↔
      (r.serves req → (r.record req).WaitsInNewState req → r.rscVsyncWait ≠ 0 →
        ¬ (ans.update = none ∧ r.leavesDisplay = true ∧ r.primaryClient ≠ none) →
        (ans.update = none ↔ r.rscVsyncWait ≤ ans.resets)) := by
  have states := states_after_request r req ans
  by_cases served : r.serves req
  · rw [if_pos served] at states
    have recorded : Mirrors (r.record req) := mirrors
    have agree := verdict_states_agree recorded ans ((r.record req).verdict req)
    rw [← states] at agree
    rw [waitsInNewState_iff]
    refine agree.trans ?_
    simp only [served, true_implies]
    constructor
    · rintro h ⟨t, verdict, new⟩ waits armed
      exact h t verdict new waits armed
    · intro h t verdict new waits armed
      exact h ⟨t, verdict, new⟩ waits armed
  · rw [if_neg served] at states
    obtain ⟨hw, current⟩ := Prod.mk.inj states
    simpa [Mirrors, hw, current, served] using mirrors

theorem step_mirrors_iff (r : RscPriv) (call : Call) (mirrors : Mirrors r) :
    Mirrors (step r call) ↔ WaitAgrees r call := by
  cases call with
  | stateUpdate req ans =>
    by_cases listed : req.caller ∈ r.clientList
    · simpa [step, WaitAgrees, listed] using stateUpdate_mirrors_iff mirrors req ans
    · simpa [step, WaitAgrees, listed] using mirrors
  | triggerVote deltaVote ans =>
    obtain ⟨phandle, bwConfig, bwIndication, eq⟩ := triggerVote_eq r deltaVote ans
    simpa [step, WaitAgrees, eq, Mirrors] using mirrors
  | create _ => simpa [step, WaitAgrees, sdeRscClientCreate, Mirrors] using mirrors
  | vote _ _ _ => simpa [step, WaitAgrees, sdeRscClientVote, Mirrors] using mirrors
  | resetVsyncRefcount => simpa [step, WaitAgrees, Mirrors] using mirrors
  | freezeLate => simpa [step, WaitAgrees, Mirrors] using mirrors
  | bind => simpa [step, WaitAgrees, Mirrors] using mirrors
  | unbind => simpa [step, WaitAgrees, Mirrors] using mirrors

/-! ## Runs -/

/-- The recorded state follows the hardware throughout a run exactly if no vsync wait in it
    decides against the update it follows. -/
theorem state_mirrors_hardware_iff (version : Revision) (buses : BusId → DataBusHandle)
    (rscVsyncWait : Nat) (calls : List Call) :
    Throughout step Mirrors (RscPriv.start version buses rscVsyncWait) calls ↔
      StepsMeet step WaitAgrees (RscPriv.start version buses rscVsyncWait) calls := by
  obtain ⟨-, -, current, hw⟩ := start_eq version buses rscVsyncWait
  exact throughout_iff_stepsMeet (fun _ => True) (fun _ _ _ => trivial)
    (fun r call _ => step_mirrors_iff r call) trivial (current.trans hw.symm) calls

def Answers.fine : Answers :=
  { init := ⟨0, ⟨0, 0⟩, ⟨0, 0⟩⟩, clkOn := ⟨0, 0⟩, clkOff := ⟨0, 0⟩, update := none, resets := 0 }

def Request.plain (caller : ClientId) (state : RscState) : Request :=
  { caller := caller, state := state, config := false, crtcId := 0, hasPointer := true }

/-- An external display leaves the primary one in command mode and comes back before the vsync of
    its first visit.  The hardware refuses this time, the vsync comes, and the RSC records the
    CLK state. -/
theorem state_recorded_without_hardware :
    ¬ Throughout step Mirrors (RscPriv.start .rev3 (fun _ => bareBus) 0)
      [.create .primaryDisp, .create .externalDisp, .bind,
        .stateUpdate (.plain 0 .cmd) .fine,
        .stateUpdate (.plain 1 .clk) .fine,
        .stateUpdate (.plain 1 .idle) .fine,
        .stateUpdate (.plain 1 .clk) { Answers.fine with update := some 0, resets := 1 }] := by
  decide

end DisplayDrivers.Rsc
