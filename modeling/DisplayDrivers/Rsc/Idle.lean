import DisplayDrivers.Lib.Run
import DisplayDrivers.Rsc.Mirror

/-! # When the RSC is idle

The RSC may only be idle when every client is. A request to an idle RSC must therefore be granted,
and the arbitration of a request to idle must not overlook a client.
-/

namespace DisplayDrivers.Rsc

open DisplayDrivers.Power DisplayDrivers.Lib.Run

def IdleWithClients (r : RscPriv) : Prop :=
  r.currentState = .idle → ∀ c ∈ r.clientList, (r.client c).currentState = .idle

instance : DecidablePred IdleWithClients := fun r =>
  inferInstanceAs (Decidable (r.currentState = .idle → ∀ c ∈ r.clientList, _))

/-- `hw_ops.state_update` succeeds. -/
def UpdateSucceeds : Call → Prop
  | .stateUpdate _ ans => ans.update = none
  | _ => True

instance : DecidablePred UpdateSucceeds
  | .stateUpdate _ ans => inferInstanceAs (Decidable (ans.update = none))
  | .create _ | .vote .. | .triggerVote .. | .resetVsyncRefcount | .freezeLate | .bind | .unbind =>
    inferInstanceAs (Decidable True)

def RscPriv.forPrimary (r : RscPriv) (state : RscState) : Bool :=
  state = .cmd || (state = .vid && r.version = .rev3)

def RscPriv.CanGrant (r : RscPriv) (req : Request) (ans : Answers) : Prop :=
  req.state ≠ .idle → r.masterDrm = true ∧
    if r.forPrimary req.state then r.primaryClient = some req.caller
    else r.rscVsyncWait ≤ ans.resets

def RscPriv.CanRest (r : RscPriv) (req : Request) : Prop :=
  req.state = .idle → r.masterDrm = true → (r.record req).blocksClk = false →
    (r.record req).clkClientActive = false →
    ∀ c ∈ r.clientList, c ≠ req.caller → (r.client c).currentState = .idle

def Accounted (r : RscPriv) : Call → Prop
  | .stateUpdate req ans => req.caller ∈ r.clientList →
    if r.currentState = .idle then r.CanGrant req ans else r.CanRest req
  | _ => True

/-- With the operations of revision 3, a call that changes the state of the RSC while an external
    display is in the CLK state does not end in a display state. -/
def KeepsOffDisplays (r : RscPriv) (call : Call) : Prop :=
  r.version = .rev3 → (step r call).multiDisplayActive = true →
    (step r call).currentState ≠ r.currentState →
      (step r call).currentState ≠ .vid ∧ (step r call).currentState ≠ .cmd

/-! ## From an idle RSC -/

variable {ans : Answers}

theorem waitSucceeds_of_idle {r : RscPriv} (idle : r.currentState = .idle)
    (ok : ans.update = none) : r.waitSucceeds ans ↔ r.rscVsyncWait ≤ ans.resets := by
  have stays : r.leavesDisplay = false := by simp [RscPriv.leavesDisplay, idle]
  by_cases waits : r.rscVsyncWait = 0 <;> simp [RscPriv.waitSucceeds, stays, waits, ok]

theorem anyClient_record {r : RscPriv} {req : Request} (listed : req.caller ∈ r.clientList)
    (others : ∀ c ∈ r.clientList, c ≠ req.caller → (r.client c).currentState = .idle)
    {p : RscClient → Bool} (active : ∀ c, p c = true → c.currentState ≠ .idle) :
    (r.record req).anyClient p = p ((r.record req).client req.caller) := by
  rw [Bool.eq_iff_iff, RscPriv.anyClient, List.any_eq_true]
  constructor
  · rintro ⟨c, listed', holds⟩
    by_cases same : c = req.caller
    · rwa [same] at holds
    · have idle := others c listed' same
      have kept : (r.record req).client c = r.client c := Function.update_of_ne same ..
      rw [kept] at holds
      exact absurd idle (active _ holds)
  · intro holds
    exact ⟨req.caller, listed, holds⟩

section FromIdle

variable {r : RscPriv} {req : Request} (listed : req.caller ∈ r.clientList)
  (others : ∀ c ∈ r.clientList, c ≠ req.caller → (r.client c).currentState = .idle)

include listed others

theorem multiDisplayActive_record (asks : req.state ≠ .clk) :
    (r.record req).multiDisplayActive = false := by
  rw [RscPriv.multiDisplayActive, anyClient_record listed others (by simp; intros; simp [*])]
  simp [RscPriv.record, asks]

theorem vidDisplayActive_record : (r.record req).vidDisplayActive = decide (req.state = .vid) := by
  rw [RscPriv.vidDisplayActive, anyClient_record listed others (by simp; intros; simp [*])]
  simp [RscPriv.record]

theorem cmdDisplayActive_record : (r.record req).cmdDisplayActive = decide (req.state = .cmd) := by
  rw [RscPriv.cmdDisplayActive, anyClient_record listed others (by simp; intros; simp [*])]
  simp [RscPriv.record]

theorem verdict_record (idle : r.currentState = .idle) (asks : req.state ≠ .idle) :
    (r.record req).verdict req =
      if r.forPrimary req.state then
        if r.primaryClient = some req.caller then .updated req.state else .refused
      else .awaited req.state := by
  have vid := vidDisplayActive_record listed others
  have cmd := cmdDisplayActive_record listed others
  cases state : req.state with
  | idle => exact absurd state asks
  | cmd =>
    have multi := multiDisplayActive_record listed others (by simp [state])
    by_cases primary : r.primaryClient = some req.caller
    · simp [RscPriv.verdict, state, RscPriv.cmdVerdict, RscPriv.displayVerdict,
        RscPriv.forPrimary, primary, idle, multi, vid]
    · simp [RscPriv.verdict, state, RscPriv.cmdVerdict, RscPriv.displayVerdict,
        RscPriv.forPrimary, primary, eq_comm]
  | vid =>
    have multi := multiDisplayActive_record listed others (by simp [state])
    by_cases rev : r.version = .rev3
    · by_cases primary : r.primaryClient = some req.caller
      · simp [RscPriv.verdict, state, RscPriv.vidVerdict, RscPriv.displayVerdict,
          RscPriv.forPrimary, primary, idle, multi, rev]
      · simp [RscPriv.verdict, state, RscPriv.vidVerdict, RscPriv.displayVerdict,
          RscPriv.forPrimary, primary, rev, eq_comm]
    · simp [RscPriv.verdict, state, RscPriv.vidVerdict, RscPriv.forPrimary, idle, rev]
  | clk =>
    have free : (r.record req).blocksClk = false := by simp [RscPriv.blocksClk, vid, cmd, state]
    simp [RscPriv.verdict, state, RscPriv.clkVerdict, RscPriv.forPrimary, free]

theorem leaves_idle_iff (idle : r.currentState = .idle) (asks : req.state ≠ .idle)
    (ok : ans.update = none) :
    (sdeRscClientStateUpdate r req ans).1.currentState ≠ .idle ↔
      r.masterDrm = true ∧
        if r.forPrimary req.state then r.primaryClient = some req.caller
        else r.rscVsyncWait ≤ ans.resets := by
  have states := congrArg Prod.snd (states_after_request r req ans)
  simp only [] at states
  by_cases bound : r.masterDrm = true
  · have served : r.serves req := ⟨bound, fun same => asks (same.1.symm.trans idle)⟩
    rw [states, if_pos served, verdict_record listed others idle asks]
    by_cases display : r.forPrimary req.state = true
    · by_cases primary : r.primaryClient = some req.caller
      · simp [display, primary, bound, Verdict.states, ok, asks]
      · simp [display, primary, Verdict.states, idle]
    · have wait : (r.record req).waitSucceeds ans ↔ r.rscVsyncWait ≤ ans.resets :=
        waitSucceeds_of_idle idle ok
      by_cases inTime : r.rscVsyncWait ≤ ans.resets
      · simp [display, bound, Verdict.states, wait, inTime, asks]
      · simp [display, Verdict.states, wait, inTime, idle]
  · have served : ¬ r.serves req := fun served => bound served.1
    rw [states, if_neg served]
    simp [bound, idle]

end FromIdle

/-! ## To an idle RSC -/

theorem displayVerdict_ne_updated (r : RscPriv) {target : RscState} (blocked : Bool)
    (caller : Option ClientId) {t : RscState} (other : target ≠ t) :
    r.displayVerdict target blocked caller ≠ .updated t := by
  simp only [RscPriv.displayVerdict]
  split_ifs <;> simp [other]

theorem cmdVerdict_ne_idle (r : RscPriv) (caller : Option ClientId) :
    r.cmdVerdict caller ≠ .updated .idle :=
  displayVerdict_ne_updated r _ caller (by simp)

theorem vidVerdict_ne_idle (r : RscPriv) (caller : Option ClientId) :
    r.vidVerdict caller ≠ .updated .idle := by
  simp only [RscPriv.vidVerdict]
  split_ifs
  · exact displayVerdict_ne_updated r _ caller (by simp)
  · simp
  · simp

theorem clkVerdict_ne_idle (r : RscPriv) : r.clkVerdict ≠ .updated .idle := by
  simp only [RscPriv.clkVerdict]
  split_ifs <;> simp

theorem idleVerdict_eq_idle (r : RscPriv) :
    r.idleVerdict = .updated .idle ↔ r.blocksClk = false ∧ r.clkClientActive = false := by
  by_cases rev : r.version = .rev3
  · simp only [RscPriv.idleVerdict, rev, if_true]
    split
    · next vid => simp_all [RscPriv.blocksClk, vidVerdict_ne_idle]
    · split
      · next cmd => simp_all [RscPriv.blocksClk, cmdVerdict_ne_idle]
      · split
        · next clk => simp [clk, clkVerdict_ne_idle]
        · next clk => simp_all [RscPriv.blocksClk]; grind
  · simp only [RscPriv.idleVerdict, rev, if_false]
    split
    · next vid => simp [RscPriv.blocksClk, rev, vid]
    · split
      · next cmd => simp [RscPriv.blocksClk, rev, cmd, cmdVerdict_ne_idle]
      · split
        · next clk => simp [clk, clkVerdict_ne_idle]
        · next clk => simp_all [RscPriv.blocksClk]

theorem verdict_eq_idle (r : RscPriv) (req : Request) :
    r.verdict req = .updated .idle ↔
      req.state = .idle ∧ r.blocksClk = false ∧ r.clkClientActive = false := by
  cases state : req.state with
  | idle => simp [RscPriv.verdict, state, idleVerdict_eq_idle]
  | cmd => simp [RscPriv.verdict, state, cmdVerdict_ne_idle]
  | vid => simp [RscPriv.verdict, state, vidVerdict_ne_idle]
  | clk => simp [RscPriv.verdict, state, clkVerdict_ne_idle]

theorem verdict_awaits_not_idle {r : RscPriv} {req : Request} {t : RscState}
    (awaits : r.verdict req = .awaited t) : t ≠ .idle := by
  rintro rfl
  cases state : req.state <;>
    simp [RscPriv.verdict, state, idleVerdict_eq_awaited, cmdVerdict_ne_awaited,
      vidVerdict_eq_awaited, clkVerdict_eq_awaited] at awaits

theorem enters_idle_iff {r : RscPriv} (awake : r.currentState ≠ .idle) (req : Request)
    (ok : ans.update = none) :
    (sdeRscClientStateUpdate r req ans).1.currentState = .idle ↔
      r.masterDrm = true ∧ req.state = .idle ∧ (r.record req).blocksClk = false ∧
        (r.record req).clkClientActive = false := by
  have states := congrArg Prod.snd (states_after_request r req ans)
  simp only [] at states
  rw [states]
  by_cases served : r.serves req
  · rw [if_pos served, ← verdict_eq_idle, and_iff_right served.1]
    cases verdict : (r.record req).verdict req with
    | refused => simp [Verdict.states, awake]
    | kept => simp [Verdict.states, awake]
    | updated t => simp [Verdict.states, ok]
    | awaited t =>
      have target := verdict_awaits_not_idle verdict
      simp only [Verdict.states, reduceCtorEq, iff_false]
      split
      · exact target
      · exact awake
  · have unserved : ¬ (r.masterDrm = true ∧ req.state = .idle) := by
      rintro ⟨bound, asks⟩
      exact served ⟨bound, fun same => awake (same.1.trans asks)⟩
    rw [if_neg served]
    simp only [awake, false_iff]
    tauto

/-! ## One call -/

theorem all_idle_record_iff {r : RscPriv} {req : Request} (listed : req.caller ∈ r.clientList) :
    (∀ c ∈ r.clientList, ((r.record req).client c).currentState = .idle) ↔
      req.state = .idle ∧
        ∀ c ∈ r.clientList, c ≠ req.caller → (r.client c).currentState = .idle := by
  constructor
  · intro all
    constructor
    · simpa [RscPriv.record] using all req.caller listed
    · intro c listed' other
      simpa [RscPriv.record, other] using all c listed'
  · rintro ⟨asks, others⟩ c listed'
    by_cases same : c = req.caller
    · simp [RscPriv.record, same, asks]
    · simpa [RscPriv.record, same] using others c listed' same

theorem stateUpdate_idle_iff {r : RscPriv} (withClients : IdleWithClients r) {req : Request}
    (listed : req.caller ∈ r.clientList) (ok : ans.update = none) :
    IdleWithClients (sdeRscClientStateUpdate r req ans).1 ↔
      Accounted r (.stateUpdate req ans) := by
  obtain ⟨sameList, sameClients⟩ := clients_after_request r req ans
  simp only [IdleWithClients, sameList, sameClients, all_idle_record_iff listed, Accounted, listed,
    true_implies, RscPriv.CanGrant, RscPriv.CanRest]
  by_cases idle : r.currentState = .idle
  · have others : ∀ c ∈ r.clientList, c ≠ req.caller → (r.client c).currentState = .idle :=
      fun c listed' _ => withClients idle c listed'
    rw [if_pos idle, and_iff_left others]
    by_cases asks : req.state = .idle
    · simp [asks]
    · simp only [asks, imp_false, ne_eq, not_false_eq_true, true_implies]
      exact leaves_idle_iff listed others idle asks ok
  · rw [if_neg idle, enters_idle_iff idle req ok]
    tauto

theorem step_idle_iff (r : RscPriv) (call : Call) (ok : UpdateSucceeds call)
    (withClients : IdleWithClients r) : IdleWithClients (step r call) ↔ Accounted r call := by
  cases call with
  | stateUpdate req ans =>
    by_cases listed : req.caller ∈ r.clientList
    · simpa [step, listed] using stateUpdate_idle_iff withClients listed ok
    · simpa [step, listed, Accounted] using withClients
  | create clientType =>
    suffices IdleWithClients (sdeRscClientCreate r clientType) by simpa [step, Accounted]
    intro idle c listed
    by_cases new : c = r.nextId
    · simp [sdeRscClientCreate, new]
    · have old : c ∈ r.clientList := by simpa [sdeRscClientCreate, new] using listed
      simpa [sdeRscClientCreate, new] using withClients idle c old
  | triggerVote deltaVote ans =>
    obtain ⟨phandle, bwConfig, bwIndication, eq⟩ := triggerVote_eq r deltaVote ans
    simpa [step, eq, Accounted, IdleWithClients] using withClients
  | vote _ _ _ => simpa [step, sdeRscClientVote, Accounted, IdleWithClients] using withClients
  | resetVsyncRefcount => simpa [step, Accounted, IdleWithClients] using withClients
  | freezeLate => simpa [step, Accounted, IdleWithClients] using withClients
  | bind => simpa [step, Accounted, IdleWithClients] using withClients
  | unbind => simpa [step, Accounted, IdleWithClients] using withClients

theorem verdict_over_external {r : RscPriv} (rev : r.version = .rev3)
    (external : r.multiDisplayActive = true) (req : Request) :
    (∀ t, r.verdict req = .updated t → t = .idle) ∧
      (∀ t, r.verdict req = .awaited t → t = .clk) := by
  have display (target : RscState) (caller : Option ClientId) (t : RscState) :
      r.displayVerdict target true caller ≠ .updated t := by
    simp only [RscPriv.displayVerdict]
    split_ifs <;> simp
  constructor
  · intro t verdict
    cases state : req.state with
    | idle =>
      simp only [RscPriv.verdict, state, RscPriv.idleVerdict, rev, external, if_true, Bool.not_true,
        Bool.and_false, Bool.false_eq_true, if_false] at verdict
      split at verdict
      · simp only [RscPriv.clkVerdict] at verdict
        split at verdict <;> simp at verdict
      · simpa [eq_comm] using verdict
    | cmd => simp [RscPriv.verdict, state, RscPriv.cmdVerdict, rev, external, display] at verdict
    | vid => simp [RscPriv.verdict, state, RscPriv.vidVerdict, rev, external, display] at verdict
    | clk =>
      simp only [RscPriv.verdict, state, RscPriv.clkVerdict] at verdict
      split at verdict <;> simp at verdict
  · intro t verdict
    cases state : req.state with
    | idle =>
      simp only [RscPriv.verdict, state, idleVerdict_eq_awaited] at verdict
      exact verdict.2.2
    | cmd => simp [RscPriv.verdict, state, cmdVerdict_ne_awaited] at verdict
    | vid => simp [RscPriv.verdict, state, vidVerdict_eq_awaited, rev] at verdict
    | clk => simpa [RscPriv.verdict, state, clkVerdict_eq_awaited, RscPriv.blocksClk, rev, external]
        using verdict

theorem step_keepsOffDisplays (r : RscPriv) (call : Call) : KeepsOffDisplays r call := by
  intro rev external changes
  cases call with
  | stateUpdate req ans =>
    by_cases listed : req.caller ∈ r.clientList
    · simp only [step, listed, if_true] at external changes ⊢
      obtain ⟨sameList, sameClients⟩ := clients_after_request r req ans
      have recorded : (r.record req).multiDisplayActive = true := by
        simpa [RscPriv.multiDisplayActive, RscPriv.anyClient, sameList, sameClients] using external
      have states := congrArg Prod.snd (states_after_request r req ans)
      simp only [] at states
      rw [states] at changes ⊢
      by_cases served : r.serves req
      · have recordedRev : (r.record req).version = .rev3 := rev
        obtain ⟨onUpdate, onWait⟩ := verdict_over_external recordedRev recorded req
        simp only [served, if_true] at changes ⊢
        cases verdict : (r.record req).verdict req with
        | refused => simp [verdict, Verdict.states] at changes
        | kept => simp [verdict, Verdict.states] at changes
        | updated t =>
          obtain rfl := onUpdate t verdict
          by_cases ok : ans.update = none <;> simp_all [Verdict.states]
        | awaited t =>
          obtain rfl := onWait t verdict
          by_cases wait : (r.record req).waitSucceeds ans <;> simp_all [Verdict.states]
      · simp [served] at changes
    · simp [step, listed] at changes
  | triggerVote deltaVote ans =>
    obtain ⟨phandle, bwConfig, bwIndication, eq⟩ := triggerVote_eq r deltaVote ans
    simp [step, eq] at changes
  | create _ => simp [step, sdeRscClientCreate] at changes
  | vote _ _ _ => simp [step, sdeRscClientVote] at changes
  | resetVsyncRefcount | freezeLate | bind | unbind => simp [step] at changes

/-! ## Runs -/

/-- In a run with successful hardware updates, the RSC is idle only with all its clients exactly
    if no request is one that the arbitration fails to account for; and in every run the displays
    stay off while an external display is in the CLK state. -/
theorem idle_with_clients_iff (version : Revision) (buses : BusId → DataBusHandle)
    (rscVsyncWait : Nat) {calls : List Call} (succeed : ∀ call ∈ calls, UpdateSucceeds call) :
    (Throughout step IdleWithClients (RscPriv.start version buses rscVsyncWait) calls ↔
        StepsMeet step Accounted (RscPriv.start version buses rscVsyncWait) calls) ∧
      StepsMeet step KeepsOffDisplays (RscPriv.start version buses rscVsyncWait) calls := by
  obtain ⟨noClients, -, -, -⟩ := start_eq version buses rscVsyncWait
  have start : IdleWithClients (RscPriv.start version buses rscVsyncWait) := by
    intro _ c listed
    simp [noClients] at listed
  constructor
  · exact throughout_iff_stepsMeet_of (fun _ => True) (fun _ _ _ => trivial)
      (fun r call ok _ => step_idle_iff r call ok) trivial start succeed
  · exact stepsMeet_of_forall (fun r call _ => step_keepsOffDisplays r call) _

instance (r : RscPriv) (req : Request) (ans : Answers) : Decidable (r.CanGrant req ans) := by
  unfold RscPriv.CanGrant
  infer_instance

instance (r : RscPriv) (req : Request) : Decidable (r.CanRest req) := by
  unfold RscPriv.CanRest
  infer_instance

instance (r : RscPriv) : (call : Call) → Decidable (Accounted r call)
  | .stateUpdate req ans =>
    inferInstanceAs (Decidable (req.caller ∈ r.clientList →
      if r.currentState = .idle then r.CanGrant req ans else r.CanRest req))
  | .create _ | .vote .. | .triggerVote .. | .resetVsyncRefcount | .freezeLate | .bind | .unbind =>
    inferInstanceAs (Decidable True)

/-- An external display comes and goes while the primary one is in command mode. -/
def twoDisplays : List Call :=
  [.create .primaryDisp, .create .externalDisp, .bind, .stateUpdate (.plain 0 .cmd) .fine,
    .stateUpdate (.plain 1 .clk) { Answers.fine with resets := 1 },
    .stateUpdate (.plain 1 .idle) { Answers.fine with resets := 1 },
    .stateUpdate (.plain 0 .idle) .fine]

theorem idle_with_clients_iff_twoDisplays :
    Throughout step IdleWithClients (RscPriv.start .rev3 (fun _ => bareBus) 0) twoDisplays ∧
      StepsMeet step KeepsOffDisplays (RscPriv.start .rev3 (fun _ => bareBus) 0) twoDisplays := by
  have run := @idle_with_clients_iff .rev3 (fun _ => bareBus) 0 twoDisplays (by decide)
  exact ⟨run.1.mpr (by decide), run.2⟩

/-- The primary display goes idle while an external one still needs the clocks: no flag names
    that combination, and the RSC is put to idle. -/
theorem idle_under_external_display :
    ¬ Throughout step IdleWithClients (RscPriv.start .rev3 (fun _ => bareBus) 0)
      [.create .primaryDisp, .create .externalDisp, .bind,
        .stateUpdate (.plain 0 .vid) .fine,
        .stateUpdate (.plain 1 .clk) .fine,
        .stateUpdate (.plain 0 .idle) .fine] := by
  decide

end DisplayDrivers.Rsc
