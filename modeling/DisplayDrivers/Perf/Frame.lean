import DisplayDrivers.Perf.Totals

/-! # The two updates of a frame

An update with `params_changed` raises the current values of its CRTC before the kickoff of a
frame; the matching update without it lowers them to what the commit asked for.
-/

namespace DisplayDrivers.Perf

open DisplayDrivers.Lib.Run DisplayDrivers.Power

/-! ## One round of the loop -/

theorem follow_of_not_moves {paramsChanged : Bool} {new old : U64}
    (stays : moves paramsChanged new old = false) : follow paramsChanged new old = old := by
  simp [follow, stays]

theorem moves_down (new old : U64) : moves false new old = decide (new < old) := by
  simp [moves]

theorem follow_down_le (new old : U64) : follow false new old ≤ old := by
  rw [follow, moves_down]
  split
  · rename_i below
    exact BitVec.le_of_lt (of_decide_eq_true below)
  · exact BitVec.le_refl old

theorem busRequest_clear {paramsChanged solver : Bool} {new old : U64 × U64}
    (clear : (busRequest paramsChanged solver new old).2 = false) :
    ((busRequest paramsChanged solver new old).1.1 ≤ old.1 ∧
      (busRequest paramsChanged solver new old).1.2 ≤ old.2) ∧
      ((solver && !paramsChanged && (new.1 < old.1 || new.2 < old.2)) = false →
        (busRequest paramsChanged solver new old).1 = old) := by
  let cur := (follow paramsChanged new.1 old.1, follow paramsChanged new.2 old.2)
  have still : (moves paramsChanged new.1 old.1 || moves paramsChanged new.2 old.2) = false →
      cur = old := by
    intro bit
    obtain ⟨ab, ib⟩ := Bool.or_eq_false_iff.mp bit
    simp only [cur, follow_of_not_moves ab, follow_of_not_moves ib]
  have unchanged : ∀ {values : U64 × U64}, values = old →
      (values.1 ≤ old.1 ∧ values.2 ≤ old.2) ∧
        ((solver && !paramsChanged && (new.1 < old.1 || new.2 < old.2)) = false →
          values = old) := by
    rintro values rfl
    exact ⟨⟨BitVec.le_refl _, BitVec.le_refl _⟩, fun _ => rfl⟩
  cases solver with
  | false =>
    simp only [busRequest, Bool.false_eq_true, if_false] at clear ⊢
    exact unchanged (still clear)
  | true =>
    cases paramsChanged with
    | true =>
      simp only [busRequest, if_true] at clear ⊢
      split at clear
      · cases clear
      · rename_i agrees
        rw [if_neg agrees]
        exact unchanged (still clear)
    | false =>
      refine ⟨⟨follow_down_le _ _, follow_down_le _ _⟩, fun kept => ?_⟩
      apply still
      simpa [moves_down] using kept

theorem le_follow_up (new old : U64) :
    new ≤ follow true new old ∧ old ≤ follow true new old := by
  simp only [follow, moves, Bool.true_and, Bool.not_true, Bool.false_and, Bool.or_false,
    decide_eq_true_eq]
  split
  · exact ⟨BitVec.le_refl new, by bv_omega⟩
  · exact ⟨by bv_omega, BitVec.le_refl old⟩

theorem follow_down_eq {new old : U64} (above : new ≤ old) : follow false new old = new := by
  simp only [follow, moves_down, decide_eq_true_eq]
  split
  · rfl
  · bv_omega

theorem follow_down_zero (new : U64) : follow false new 0 = 0 := by
  simp only [follow, moves_down, decide_eq_true_eq, ite_eq_right_iff]
  intro below
  bv_omega

theorem le_busRequest_up (solver : Bool) (new old : U64 × U64) :
    (new.1 ≤ (busRequest true solver new old).1.1 ∧ new.2 ≤ (busRequest true solver new old).1.2) ∧
      (solver = false → old.1 ≤ (busRequest true solver new old).1.1 ∧
        old.2 ≤ (busRequest true solver new old).1.2) := by
  cases solver with
  | false =>
    exact ⟨⟨(le_follow_up _ _).1, (le_follow_up _ _).1⟩,
      fun _ => ⟨(le_follow_up _ _).2, (le_follow_up _ _).2⟩⟩
  | true =>
    refine ⟨?_, by simp⟩
    simp only [busRequest, if_true]
    split
    · exact ⟨BitVec.le_refl new.1, BitVec.le_refl new.2⟩
    · exact ⟨(le_follow_up _ _).1, (le_follow_up _ _).1⟩

theorem busRequest_down (solver : Bool) (new old : U64 × U64) :
    (busRequest false solver new old).1 = (follow false new.1 old.1, follow false new.2 old.2) := by
  cases solver <;> rfl

/-! ## Before and after a frame -/

variable {c : CrtcId} {kms : Kms}

theorem crtc_update_powered (on : (kms.crtc c).enabled) (paramsChanged : Bool) (ans : Answers) :
    (sdeCorePerfCrtcUpdate kms c paramsChanged false ans).crtc c =
      { kms.crtc c with
        newPerf := (kms.crtc c).cachedPerf paramsChanged
        curPerf :=
          { bwCtl := fun b => (busRequest paramsChanged kms.solver
              (((kms.crtc c).cachedPerf paramsChanged).on b) ((kms.crtc c).curPerf.on b)).1.1
            maxPerPipeIb := fun b => (busRequest paramsChanged kms.solver
              (((kms.crtc c).cachedPerf paramsChanged).on b) ((kms.crtc c).curPerf.on b)).1.2
            coreClkRate := follow paramsChanged
              ((kms.crtc c).cachedPerf paramsChanged).coreClkRate
              (kms.crtc c).curPerf.coreClkRate } } := by
  have going : ((kms.crtc c).enabled && !false) = true := by simp [on]
  rw [crtc_update, Function.update_self, Crtc.request, if_pos going]

def CorePerfParams.Below (p q : CorePerfParams) : Prop :=
  (∀ b, p.bwCtl b ≤ q.bwCtl b ∧ p.maxPerPipeIb b ≤ q.maxPerPipeIb b) ∧
    p.coreClkRate ≤ q.coreClkRate

/-- An update with `params_changed` of a powered CRTC outside solver mode: `cur_perf` is no less
    than it was, and no less than the performance the commit asked for. -/
def RaisesBefore (kms : Kms) (c : CrtcId) (ans : Answers) : Prop :=
  (kms.crtc c).enabled → kms.solver = false →
    let after := (sdeCorePerfCrtcUpdate kms c true false ans).crtc c
    after.newPerf = (kms.crtc c).state.newPerf ∧
      (kms.crtc c).curPerf.Below after.curPerf ∧ after.newPerf.Below after.curPerf

theorem raisesBefore (kms : Kms) (c : CrtcId) (ans : Answers) : RaisesBefore kms c ans := by
  intro on outside
  have bus := fun b => le_busRequest_up kms.solver ((kms.crtc c).state.newPerf.on b)
    ((kms.crtc c).curPerf.on b)
  have clk := le_follow_up (kms.crtc c).state.newPerf.coreClkRate (kms.crtc c).curPerf.coreClkRate
  simp only [crtc_update_powered on]
  exact ⟨rfl, ⟨fun b => (bus b).2 outside, clk.2⟩, ⟨fun b => (bus b).1, clk.1⟩⟩

def Call.updates (c : CrtcId) : Call → Bool
  | .update d _ _ _ => d = c
  | _ => false

/-- Two matching updates of a powered CRTC, whatever is called in between except an update of it:
    after the second, `cur_perf` is the performance the commit asked for.  A release in between
    takes the bandwidth away. -/
def SettlesAfter (kms : Kms) (c : CrtcId) (ans : Answers) (between : List Call)
    (ans' : Answers) : Prop :=
  let shown := run step (sdeCorePerfCrtcUpdate kms c true false ans) between
  (kms.crtc c).enabled → (shown.crtc c).enabled → (∀ call ∈ between, call.updates c = false) →
    let after := (sdeCorePerfCrtcUpdate shown c false false ans').crtc c
    after.newPerf = (kms.crtc c).state.newPerf ∧
      after.curPerf.maxPerPipeIb = after.newPerf.maxPerPipeIb ∧
      after.curPerf.coreClkRate = after.newPerf.coreClkRate ∧
      ∀ b, after.curPerf.bwCtl b = after.newPerf.bwCtl b ∨
        after.curPerf.bwCtl b = 0 ∧ ∃ answer, .releaseBw c answer ∈ between

/-- Between two matching updates: `cur_perf` has not sunk below the new performance, but for a
    bandwidth that was released. -/
structure Raised (c : CrtcId) (new : CorePerfParams) (released : Prop) (kms : Kms) : Prop where
  newPerf : (kms.crtc c).newPerf = new
  ib : ∀ b, new.maxPerPipeIb b ≤ (kms.crtc c).curPerf.maxPerPipeIb b
  clk : new.coreClkRate ≤ (kms.crtc c).curPerf.coreClkRate
  bw : ∀ b, new.bwCtl b ≤ (kms.crtc c).curPerf.bwCtl b ∨
    (kms.crtc c).curPerf.bwCtl b = 0 ∧ released

variable {new : CorePerfParams} {released : Prop}

theorem Raised.of_same {kms' : Kms}
    (raised : Raised c new released kms) (newPerf : (kms'.crtc c).newPerf = (kms.crtc c).newPerf)
    (curPerf : (kms'.crtc c).curPerf = (kms.crtc c).curPerf) : Raised c new released kms' :=
  ⟨newPerf.trans
    raised.newPerf, by rw [curPerf]; exact raised.ib, by rw [curPerf]; exact raised.clk,
    by rw [curPerf]; exact raised.bw⟩

theorem raised_step {call : Call}
    (raised : Raised c new released kms) (other : call.updates c = false)
    (noted : ∀ answer, call = .releaseBw c answer → released) :
    Raised c new released (step kms call) := by
  cases call with
  | swapState d state =>
    apply raised.of_same <;> by_cases same : c = d
    all_goals simp [step, Kms.setCrtc, same]
  | modeset d enabled intfMode =>
    apply raised.of_same <;> by_cases same : c = d
    all_goals simp [step, Kms.setCrtc, same]
  | stateUpdate req ans => exact raised.of_same rfl rfl
  | update d paramsChanged stopReq ans =>
    have same : c ≠ d := by
      rintro rfl
      simp [Call.updates] at other
    apply raised.of_same <;> simp [step, crtc_update, same]
  | releaseBw d answer =>
    by_cases releases : kms.releases d
    · by_cases same : c = d
      · subst same
        have here : (step kms (.releaseBw c answer)).crtc c = (kms.crtc c).released := by
          simp [step, crtc_releaseBw, releases]
        refine ⟨?_, ?_, ?_, fun b => .inr ⟨?_, noted answer rfl⟩⟩
        · rw [here]; exact raised.newPerf
        · rw [here]; exact raised.ib
        · rw [here]; exact raised.clk
        · rw [here]; rfl
      · apply raised.of_same <;> simp [step, crtc_releaseBw, releases, same]
    · apply raised.of_same <;> simp [step, crtc_releaseBw, releases]

theorem raised_update (on : (kms.crtc c).enabled) (ans : Answers) (released : Prop) :
    Raised c (kms.crtc c).state.newPerf released (sdeCorePerfCrtcUpdate kms c true false ans) := by
  have bus := fun b => (le_busRequest_up kms.solver ((kms.crtc c).state.newPerf.on b)
    ((kms.crtc c).curPerf.on b)).1
  have clk := le_follow_up (kms.crtc c).state.newPerf.coreClkRate (kms.crtc c).curPerf.coreClkRate
  have crtc := crtc_update_powered on true ans
  refine ⟨?_, fun b => ?_, ?_, fun b => .inl ?_⟩
  · rw [crtc]; rfl
  · rw [crtc]; exact (bus b).2
  · rw [crtc]; exact clk.1
  · rw [crtc]; exact (bus b).1

theorem settlesAfter (kms : Kms) (c : CrtcId) (ans : Answers) (between : List Call)
    (ans' : Answers) : SettlesAfter kms c ans between ans' := by
  intro on still others
  have meets : StepsMeet step (fun _ call => call.updates c = false ∧ call ∈ between)
      (sdeCorePerfCrtcUpdate kms c true false ans) between :=
    stepsMeet_of_forall (fun _ call listed => ⟨others call listed, listed⟩) _
  have raised : Raised c (kms.crtc c).state.newPerf (∃ answer, .releaseBw c answer ∈ between)
      (run step (sdeCorePerfCrtcUpdate kms c true false ans) between) :=
    run_invariant_of_meets (Raised c _ _)
      (fun _ _ raised here =>
        raised_step raised here.1 fun answer release => ⟨answer, release ▸ here.2⟩)
      (raised_update on ans _) meets
  simp only [crtc_update_powered still, Crtc.cachedPerf, Bool.false_eq_true, if_false,
    busRequest_down, raised.newPerf]
  refine ⟨trivial, funext fun b => follow_down_eq (raised.ib b), follow_down_eq raised.clk,
    fun b => ?_⟩
  obtain above | ⟨none, released⟩ := raised.bw b
  · exact .inl (follow_down_eq above)
  · refine .inr ⟨?_, released⟩
    show follow false _ (((run step _ between).crtc c).curPerf.bwCtl b) = 0
    rw [none, follow_down_zero]

end DisplayDrivers.Perf
