import DisplayDrivers.Encoder.CombinedFlush
import DisplayDrivers.Encoder.PhysCmd
import DisplayDrivers.Lib.Run

/-! # Retire fences come in the order of the kickoffs

Every flush of a master puts one retire fence on its account, and whatever takes it off signals the
fence of the oldest kickoff that is still without one.
-/

namespace DisplayDrivers.Encoder.Kickoff.RetireFence

open DisplayDrivers.Ctl DisplayDrivers.Lib.Run

structure Master where
  phys : Phys
  role : phys.splitRole = .solo ∨ phys.splitRole = .master
  pp : phys.hwPp = true
  ctl : phys.hwCtl.isSome = true

/-- The encoder, how many kickoffs there have been, how many retire fences have been signalled, and
    for which kickoffs (counted from zero) the CTL has started, the pingpong is done, or a wait has
    timed out. -/
structure Sys where
  phys : Phys
  kickoffs : ℕ
  signals : ℕ
  occurred : ℕ → Bool

/-- `of` is the kickoff to which an interrupt or a wait belongs.  A kickoff flushes first and raises
    the other counts later. -/
inductive Input
  | flush (activeCfg : Bool) (ctls : CtlFlushes) (extra : FlushCfg)
  | incPending
  | ppTxDone (of : ℕ)
  | ctlStart (of : ℕ) (late : Bool)
  | teRdPtr
  | waitForCtlStart (of : ℕ) (env : WaitEnv) (late : Bool)
  | waitForIdle (of : ℕ) (env : WaitEnv)

def waits (env : WaitEnv) (count : ℕ) (phys : Phys) : Bool :=
  phys.enabled && env.registered && count ≠ 0

def Sys.occurs (s : Sys) (of : ℕ) : Sys :=
  { s with occurred := fun k => s.occurred k || (k = of && of < s.kickoffs) }

def Sys.handled (s : Sys) (out : Phys × Bool) : Sys :=
  { s with
    phys := out.1
    signals := s.signals + if out.2 then 1 else 0 }

def Sys.step (s : Sys) : Input → Sys
  | .flush activeCfg ctls extra =>
    { s with
      phys := (triggerPhys activeCfg 0 false s.phys ctls extra).1
      kickoffs := s.kickoffs + 1 }
  | .incPending => { s with phys := s.phys.incPending }
  | .ppTxDone of => (s.occurs of).handled (ppTxDoneIrq s.phys)
  | .ctlStart of late => (s.occurs of).handled (ctlStartIrq late s.phys)
  | .teRdPtr => s.handled (teRdPtrIrq s.phys)
  | .waitForCtlStart of env late =>
    let waited := waitForCtlStart env late s.phys
    let s := if waits env s.phys.pendingCtlstartCnt s.phys then s.occurs of else s
    s.handled (waited.1, waited.2.1)
  | .waitForIdle of env =>
    let waited := waitForIdle env s.phys
    let s := if waits env s.phys.pendingKickoffCnt s.phys then s.occurs of else s
    s.handled (waited.1, waited.2.1)

def Sys.init (m : Master) : Sys := ⟨m.phys.cmdInit, 0, 0, fun _ => false⟩

def InOrder (s : Sys) : Prop :=
  s.signals ≤ s.kickoffs ∧ ∀ k < s.signals, s.occurred k = true

def Sys.oldest (s : Sys) : ℕ := s.kickoffs - s.phys.pendingRetireFenceCnt

def Sys.Due (s : Sys) (of : ℕ) : Prop := s.occurred s.oldest = true ∨ of = s.oldest

/-- Whatever may take a pending fence comes for the right kickoff; a read pointer interrupt that is
    armed has to find that something of that kickoff has occurred. -/
def Timely (s : Sys) : Input → Prop
  | .flush _ _ _ => True
  | .incPending => True
  | .ppTxDone of => s.phys.pendingRetireFenceCnt ≠ 0 → s.Due of
  | .ctlStart of late => late = true → s.phys.pendingRetireFenceCnt ≠ 0 → s.Due of
  | .teRdPtr =>
    s.phys.hwIntf = true ∧ s.phys.pendingRdPtrCnt ≠ 0 →
      s.phys.pendingRetireFenceCnt ≠ 0 → s.occurred s.oldest = true
  | .waitForCtlStart of env late =>
    waits env s.phys.pendingCtlstartCnt s.phys = true ∧ (env.irqStatus = true → late = true) →
      s.phys.pendingRetireFenceCnt ≠ 0 → s.Due of
  | .waitForIdle of env =>
    waits env s.phys.pendingKickoffCnt s.phys = true →
      s.phys.pendingRetireFenceCnt ≠ 0 → s.Due of

/-! ## What each handler takes -/

structure Ready (phys : Phys) : Prop where
  role : phys.splitRole = .solo ∨ phys.splitRole = .master
  pp : phys.hwPp = true
  ctl : phys.hwCtl.isSome = true

theorem Ready.isMaster {phys : Phys} (ready : Ready phys) : phys.isMaster = true := by
  rw [Phys.isMaster, decide_eq_true_eq]
  cases ready.role with
  | inl solo => simp [solo]
  | inr master => simp [master]

theorem Ready.not_slave {phys : Phys} (ready : Ready phys) :
    ¬(phys.ppsplit = true ∧ phys.splitRole = .slave) := by
  cases ready.role with
  | inl solo => simp [solo]
  | inr master => simp [master]

theorem Ready.not_none {phys : Phys} (ready : Ready phys) : phys.hwCtl ≠ none :=
  Option.isSome_iff_ne_none.mp ready.ctl

theorem Ready.flushable {phys : Phys} (ready : Ready phys) : phys.flushable = true := by
  rw [Phys.flushable, ready.pp, ready.ctl]
  cases ready.role with
  | inl solo => simp [solo]
  | inr master => simp [master]

/-- If `takes`, a handler takes one pending fence, and it signals exactly a fence that it takes. -/
structure Takes (phys : Phys) (takes : Prop) (out : Phys × Bool) : Prop where
  ready : Ready out.1
  signals : out.2 = true ↔ takes ∧ phys.pendingRetireFenceCnt ≠ 0
  left : out.1.pendingRetireFenceCnt + (if out.2 then 1 else 0) = phys.pendingRetireFenceCnt

section Handlers

variable {phys : Phys}

theorem takes_nothing {phys' : Phys} {takes : Prop} (ready : Ready phys') (no : ¬takes)
    (same : phys'.pendingRetireFenceCnt = phys.pendingRetireFenceCnt) :
    Takes phys takes (phys', false) where
  ready := ready
  signals := iff_of_false Bool.false_ne_true fun both => no both.1
  left := same

theorem takes_one {phys' : Phys} {takes : Prop} (ready : Ready phys') (yes : takes)
    (one : phys'.pendingRetireFenceCnt = phys.takeRetire.1.pendingRetireFenceCnt) :
    Takes phys takes (phys', phys.takeRetire.2) where
  ready := ready
  signals := by
    rw [Phys.takeRetire, decide_eq_true_eq]
    exact (and_iff_right yes).symm
  left := by
    rw [one, Phys.takeRetire]
    by_cases pending : phys.pendingRetireFenceCnt = 0
    · simp [pending]
    · simp only [decide_eq_true_eq, ne_eq, pending, not_false_eq_true, if_true]
      omega

theorem Takes.congr {takes takes' : Prop} {out : Phys × Bool} (taken : Takes phys takes out)
    (same : takes ↔ takes') : Takes phys takes' out where
  ready := taken.ready
  signals := by rw [taken.signals, same]
  left := taken.left

theorem takes_ppTxDone (ready : Ready phys) : Takes phys True (ppTxDoneIrq phys) := by
  rw [ppTxDoneIrq, if_neg (not_not.mpr ready.pp)]
  simp only [ready.isMaster, if_true]
  exact takes_one ⟨ready.role, ready.pp, ready.ctl⟩ trivial rfl

theorem takes_teRdPtr (ready : Ready phys) :
    Takes phys (phys.hwIntf = true ∧ phys.pendingRdPtrCnt ≠ 0) (teRdPtrIrq phys) := by
  have on_pp : ¬phys.hwPp = true ↔ False := iff_of_false (not_not.mpr ready.pp) id
  have on_role : ¬phys.isMaster = true ↔ False := iff_of_false (not_not.mpr ready.isMaster) id
  rw [teRdPtrIrq]
  simp only [on_pp, on_role, false_or]
  by_cases intf : phys.hwIntf = true
  · rw [if_neg (not_not.mpr intf)]
    by_cases armed : phys.pendingRdPtrCnt = 0
    · rw [if_pos armed]
      exact takes_nothing ready (fun both => both.2 armed) rfl
    · rw [if_neg armed]
      exact takes_one ⟨ready.role, ready.pp, ready.ctl⟩ ⟨intf, armed⟩ rfl
  · rw [if_pos intf]
    exact takes_nothing ready (fun both => intf both.1) rfl

theorem takes_ctlStart (late : Bool) (ready : Ready phys) :
    Takes phys (late = true) (ctlStartIrq late phys) := by
  have still : Ready
      { phys with pendingCtlstartCnt := phys.pendingCtlstartCnt - 1, ctlstartTimeout := 0 } :=
    ⟨ready.role, ready.pp, ready.ctl⟩
  rw [ctlStartIrq, if_neg ready.not_none]
  simp only [still.isMaster, not_true_eq_false, false_or]
  by_cases pending : phys.pendingRetireFenceCnt = 0
  -- there is no fence to take, nor one to arm the read pointer for
  · rw [if_pos pending]
    exact
      { ready := still
        signals := iff_of_false Bool.false_ne_true fun both => both.2 pending
        left := rfl }
  · rw [if_neg pending]
    cases late with
    | true => exact takes_one ⟨ready.role, ready.pp, ready.ctl⟩ rfl rfl
    | false => exact takes_nothing ⟨ready.role, ready.pp, ready.ctl⟩ Bool.false_ne_true rfl

theorem takes_handlePpdoneTimeout (panelDead : Bool) (ready : Ready phys) :
    Takes phys True (handlePpdoneTimeout panelDead phys) := by
  have there : ¬(¬phys.hwPp = true ∨ phys.hwCtl = none) :=
    not_or.mpr ⟨not_not.mpr ready.pp, ready.not_none⟩
  rw [handlePpdoneTimeout, if_neg there]
  simp only [ready.isMaster, if_true]
  cases panelDead with
  | true => exact takes_one ⟨ready.role, ready.pp, ready.ctl⟩ trivial rfl
  | false => exact takes_one ⟨ready.role, ready.pp, ready.ctl⟩ trivial rfl

theorem takes_handleCtlStartTimeout (ready : Ready phys) :
    Takes phys True (handleCtlStartTimeout phys) := by
  rw [handleCtlStartTimeout, if_pos ready.isMaster]
  exact takes_one ⟨ready.role, ready.pp, ready.ctl⟩ trivial rfl

theorem waitForIrq_cases (env : WaitEnv) (count : ℕ) (handler : Phys → Phys × Bool) (phys : Phys) :
    (waits env count phys = false ∧
      ∃ ret, waitForIrq env count handler phys = (phys, false, ret) ∧ ret ≠ etimedout) ∨
    (waits env count phys = true ∧ env.irqStatus = true ∧
      waitForIrq env count handler phys = ((handler phys).1, (handler phys).2, 0)) ∨
    (waits env count phys = true ∧ env.irqStatus = false ∧
      waitForIrq env count handler phys = (phys, false, etimedout)) := by
  by_cases off : phys.enableState = .disabled
  · left
    exact ⟨by simp [waits, Phys.enabled, off], ewouldblock, by rw [waitForIrq,
      if_pos off], by decide⟩
  · by_cases none_awaited : ¬env.registered = true ∨ count = 0
    · left
      refine ⟨?_, 0, by rw [waitForIrq, if_neg off, if_pos none_awaited], by decide⟩
      cases none_awaited with
      | inl unregistered => simp [waits, unregistered]
      | inr zero => simp [waits, zero]
    · right
      have waiting : waits env count phys = true := by
        obtain ⟨registered, some_awaited⟩ := not_or.mp none_awaited
        simp [waits, Phys.enabled, off, not_not.mp registered, some_awaited]
      rw [waitForIrq, if_neg off, if_neg none_awaited]
      cases fired : env.irqStatus with
      | true => exact .inl ⟨waiting, rfl, rfl⟩
      | false => exact .inr ⟨waiting, rfl, rfl⟩

theorem takes_waitForIdle (env : WaitEnv) (ready : Ready phys) :
    Takes phys (waits env phys.pendingKickoffCnt phys = true)
      ((waitForIdle env phys).1, (waitForIdle env phys).2.1) := by
  rw [waitForIdle, if_neg ready.not_slave]
  obtain ⟨idle, ret, waited, no_timeout⟩ | ⟨waiting, -, waited⟩ | ⟨waiting, -, waited⟩ :=
    waitForIrq_cases env phys.pendingKickoffCnt ppTxDoneIrq phys
  · simp only [waited, if_neg no_timeout]
    exact takes_nothing ready (ne_true_of_eq_false idle) rfl
  · have no_timeout : (0 : Int) ≠ etimedout := by decide
    simp only [waited, if_neg no_timeout]
    exact (takes_ppTxDone ready).congr (iff_of_true trivial waiting)
  · simp only [waited, if_true]
    exact (takes_handlePpdoneTimeout env.panelDead ready).congr (iff_of_true trivial waiting)

theorem takes_waitForCtlStart (env : WaitEnv) (late : Bool) (ready : Ready phys) :
    Takes phys (waits env phys.pendingCtlstartCnt phys = true ∧
        (env.irqStatus = true → late = true))
      ((waitForCtlStart env late phys).1, (waitForCtlStart env late phys).2.1) := by
  rw [waitForCtlStart, if_neg ready.not_none, if_neg ready.not_slave]
  obtain ⟨idle, ret, waited, no_timeout⟩ | ⟨waiting, fired, waited⟩ | ⟨waiting, silent, waited⟩ :=
    waitForIrq_cases env phys.pendingCtlstartCnt (ctlStartIrq late) phys
  · simp only [waited, if_neg no_timeout]
    exact takes_nothing ready (fun both => ne_true_of_eq_false idle both.1) rfl
  · have no_timeout : (0 : Int) ≠ etimedout := by decide
    simp only [waited, if_neg no_timeout]
    refine (takes_ctlStart late ready).congr ?_
    exact ⟨fun late => ⟨waiting, fun _ => late⟩, fun both => both.2 fired⟩
  · simp only [waited, if_true]
    refine (takes_handleCtlStartTimeout ready).congr (iff_of_true trivial ⟨waiting, ?_⟩)
    rw [silent]
    exact fun fired => absurd fired Bool.false_ne_true

end Handlers

/-! ## Runs -/

structure Balanced (s : Sys) : Prop where
  ready : Ready s.phys
  all : s.signals + s.phys.pendingRetireFenceCnt = s.kickoffs

section Step

variable {s s' : Sys} {takes : Prop} {out : Phys × Bool}

structure Before (s s' : Sys) : Prop where
  phys : s'.phys = s.phys
  kickoffs : s'.kickoffs = s.kickoffs
  signals : s'.signals = s.signals
  occurred : ∀ k, s.occurred k = true → s'.occurred k = true

theorem before_occurs (s : Sys) (of : ℕ) : Before s (s.occurs of) where
  phys := rfl
  kickoffs := rfl
  signals := rfl
  occurred k before := by
    rw [Sys.occurs]
    dsimp only
    rw [before, Bool.true_or]

theorem before_refl (s : Sys) : Before s s := ⟨rfl, rfl, rfl, fun _ before => before⟩

theorem balanced_handled (balanced : Balanced s) (before : Before s s')
    (taken : Takes s.phys takes out) : Balanced (s'.handled out) where
  ready := taken.ready
  all := by
    have all := balanced.all
    have left := taken.left
    simp only [Sys.handled, before.signals, before.kickoffs]
    omega

theorem inOrder_handled_iff (balanced : Balanced s) (ordered : InOrder s) (before : Before s s')
    (taken : Takes s.phys takes out) :
    InOrder (s'.handled out) ↔
      (takes → s.phys.pendingRetireFenceCnt ≠ 0 → s'.occurred s.oldest = true) := by
  have next : s.oldest = s.signals := by
    rw [Sys.oldest, ← balanced.all]
    omega
  have counted : (s'.handled out).signals ≤ (s'.handled out).kickoffs := by
    have all := (balanced_handled balanced before taken).all
    omega
  rw [InOrder, and_iff_right counted, next]
  simp only [Sys.handled, before.signals]
  cases signalled : out.2 with
  | true =>
    obtain ⟨yes, pending⟩ := taken.signals.mp signalled
    constructor
    · intro after _ _
      exact after s.signals (Nat.lt_succ_self _)
    · intro due k below
      cases Nat.lt_succ_iff_lt_or_eq.mp below with
      | inl earlier => exact before.occurred k (ordered.2 k earlier)
      | inr last =>
        rw [last]
        exact due yes pending
  | false =>
    have nothing : ¬(takes ∧ s.phys.pendingRetireFenceCnt ≠ 0) := fun both => by
      rw [taken.signals.mpr both] at signalled
      cases signalled
    refine iff_of_true (fun k below => before.occurred k (ordered.2 k below)) ?_
    exact fun yes pending => absurd ⟨yes, pending⟩ nothing

theorem occurs_oldest_iff (balanced : Balanced s) (of : ℕ)
    (pending : s.phys.pendingRetireFenceCnt ≠ 0) :
    (s.occurs of).occurred s.oldest = true ↔ s.Due of := by
  have made : s.oldest < s.kickoffs := by
    have all := balanced.all
    rw [Sys.oldest]
    omega
  rw [Sys.occurs, Sys.Due]
  dsimp only
  simp only [Bool.or_eq_true, Bool.and_eq_true, decide_eq_true_eq]
  refine or_congr Iff.rfl ?_
  constructor
  · intro both
    exact both.1.symm
  · intro same
    exact ⟨same.symm, by rwa [same]⟩

theorem inOrder_occurs_iff (balanced : Balanced s) (ordered : InOrder s) (of : ℕ)
    (taken : Takes s.phys takes out) :
    InOrder ((s.occurs of).handled out) ↔
      (takes → s.phys.pendingRetireFenceCnt ≠ 0 → s.Due of) := by
  rw [inOrder_handled_iff balanced ordered (before_occurs s of) taken]
  exact forall_congr' fun _ => forall_congr' fun pending => occurs_oldest_iff balanced of pending

theorem inOrder_wait_iff (balanced : Balanced s) (ordered : InOrder s) (of : ℕ) {waiting : Bool}
    (taken : Takes s.phys takes out) (only : takes → waiting = true) :
    InOrder ((if waiting then s.occurs of else s).handled out) ↔
      (takes → s.phys.pendingRetireFenceCnt ≠ 0 → s.Due of) := by
  cases waiting with
  | true => exact inOrder_occurs_iff balanced ordered of taken
  | false =>
    rw [if_neg Bool.false_ne_true, inOrder_handled_iff balanced ordered (before_refl s) taken]
    exact iff_of_true (fun yes => absurd (only yes) Bool.false_ne_true)
      fun yes => absurd (only yes) Bool.false_ne_true

theorem before_wait (s : Sys) (of : ℕ) (waiting : Bool) :
    Before s (if waiting then s.occurs of else s) := by
  cases waiting with
  | true => exact before_occurs s of
  | false => exact before_refl s

theorem triggerPhys_ready (activeCfg : Bool) (ctls : CtlFlushes) (extra : FlushCfg) {phys : Phys}
    (ready : Ready phys) :
    (triggerPhys activeCfg 0 false phys ctls extra).1 =
      { phys with pendingRetireFenceCnt := phys.pendingRetireFenceCnt + 1 } := by
  obtain ⟨ctl, at_ctl⟩ := Option.isSome_iff_exists.mp ready.ctl
  rw [triggerPhys_sent 0 false ctls extra ready.flushable at_ctl]
  exact if_pos ready.isMaster

theorem balanced_step (balanced : Balanced s) (input : Input) : Balanced (s.step input) := by
  have ready := balanced.ready
  cases input with
  | flush activeCfg ctls extra =>
    have counted := triggerPhys_ready activeCfg ctls extra ready
    have all := balanced.all
    rw [Sys.step, counted]
    exact ⟨⟨ready.role, ready.pp, ready.ctl⟩, by dsimp only; omega⟩
  | incPending => exact ⟨⟨ready.role, ready.pp, ready.ctl⟩, balanced.all⟩
  | ppTxDone of => exact balanced_handled balanced (before_occurs s of) (takes_ppTxDone ready)
  | ctlStart of late =>
    exact balanced_handled balanced (before_occurs s of) (takes_ctlStart late ready)
  | teRdPtr => exact balanced_handled balanced (before_refl s) (takes_teRdPtr ready)
  | waitForCtlStart of env late =>
    exact balanced_handled balanced (before_wait s of _) (takes_waitForCtlStart env late ready)
  | waitForIdle of env =>
    exact balanced_handled balanced (before_wait s of _) (takes_waitForIdle env ready)

theorem inOrder_step_iff (balanced : Balanced s) (ordered : InOrder s) (input : Input) :
    InOrder (s.step input) ↔ Timely s input := by
  have ready := balanced.ready
  cases input with
  | flush activeCfg ctls extra =>
    exact iff_of_true ⟨Nat.le_succ_of_le ordered.1, ordered.2⟩ trivial
  | incPending => exact iff_of_true ordered trivial
  | ppTxDone of =>
    rw [Sys.step, inOrder_occurs_iff balanced ordered of (takes_ppTxDone ready), true_implies]
    rfl
  | ctlStart of late =>
    exact inOrder_occurs_iff balanced ordered of (takes_ctlStart late ready)
  | teRdPtr => exact inOrder_handled_iff balanced ordered (before_refl s) (takes_teRdPtr ready)
  | waitForCtlStart of env late =>
    exact inOrder_wait_iff balanced ordered of (takes_waitForCtlStart env late ready) And.left
  | waitForIdle of env =>
    exact inOrder_wait_iff balanced ordered of (takes_waitForIdle env ready) id

end Step

theorem balanced_init (m : Master) : Balanced (Sys.init m) where
  ready := ⟨m.role, m.pp, m.ctl⟩
  all := rfl

theorem inOrder_init (m : Master) : InOrder (Sys.init m) :=
  ⟨Nat.le_refl 0, fun _ below => absurd below (Nat.not_lt_zero _)⟩

/-- The fences of a run come in order exactly when whatever takes one comes for the kickoff of the
    oldest pending fence, or after something of that kickoff has occurred. -/
theorem inOrder_iff_timely (m : Master) (inputs : List Input) :
    Throughout Sys.step InOrder (Sys.init m) inputs ↔
      StepsMeet Sys.step Timely (Sys.init m) inputs :=
  throughout_iff_stepsMeet Balanced (fun _ input balanced => balanced_step balanced input)
    (fun _ input balanced ordered => inOrder_step_iff balanced ordered input) (balanced_init m)
    (inOrder_init m) inputs

/-! ### A read pointer interrupt that was armed for the frame before -/

def panel : Master := ⟨{ singleFlush .solo 0 with hwIntf := true }, .inl rfl, rfl, rfl⟩

/-- The CTL of the first frame starts, its pingpong is done before the read pointer interrupt, and
    this interrupt then finds the fence of the second frame, whose CTL has not started. -/
theorem not_inOrder_armed :
    ¬∀ (m : Master) (inputs : List Input), Throughout Sys.step InOrder (Sys.init m) inputs := by
  intro always
  have throughout := always panel
    [.flush false (fun _ => Lib.TwoLevel.Masks.empty) Lib.TwoLevel.Masks.empty, .incPending,
      .ctlStart 0 false, .ppTxDone 0,
      .flush false (fun _ => Lib.TwoLevel.Masks.empty) Lib.TwoLevel.Masks.empty, .incPending,
      .teRdPtr]
  have last := throughout_iff_prefix.mp throughout _ [] (List.append_nil _).symm
  exact absurd (last.2 1 (by decide)) (by decide)

end DisplayDrivers.Encoder.Kickoff.RetireFence
