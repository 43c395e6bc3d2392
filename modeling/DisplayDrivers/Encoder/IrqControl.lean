import DisplayDrivers.Encoder.PhysCmd
import DisplayDrivers.Lib.Run

/-! # Interrupts of a command mode encoder are registered and unregistered in balance

`irq_control` registers what an encoder needs while it is powered, and the read pointer interrupt is
shared with the votes for vblank by a reference count.
-/

namespace DisplayDrivers.Encoder.Kickoff.IrqControl

open DisplayDrivers.Lib.Run

/-- The interrupts of `enum sde_intr_idx` that a command mode encoder uses. -/
inductive IntrIdx
  | pingpong
  | underrun
  | rdptr
  | ctlStart
  | autorefreshDone
deriving DecidableEq

/-- Which interrupts have a valid `irq_idx`, with `vblank_refcount` and `pp_timeout_report_cnt`. -/
structure Irqs where
  registered : IntrIdx → Bool
  vblankRefcount : ℕ
  ppTimeoutReportCnt : ℕ

def einval : Int := -22

/-- `sde_encoder_helper_register_irq`; `ok` says whether the lookup, the callback and the enable
    succeed. -/
def registerIrq (ok : IntrIdx → Bool) (idx : IntrIdx) (irqs : Irqs) : Irqs × Int :=
  if irqs.registered idx then (irqs, 0)
  else if ok idx then ({ irqs with registered := Function.update irqs.registered idx true }, 0)
  else (irqs, einval)

def unregisterIrq (idx : IntrIdx) (irqs : Irqs) : Irqs × Int :=
  if irqs.registered idx then
    ({ irqs with registered := Function.update irqs.registered idx false }, 0)
  else (irqs, 0)

/-- `control_vblank_irq(true)` of a master: the first reference registers. -/
def vblankTake (ok : IntrIdx → Bool) (irqs : Irqs) : Irqs × Int :=
  let raised := { irqs with vblankRefcount := irqs.vblankRefcount + 1 }
  if raised.vblankRefcount = 1 then
    let out := registerIrq ok .rdptr raised
    if out.2 ≠ 0 then ({ out.1 with vblankRefcount := out.1.vblankRefcount - 1 }, out.2) else out
  else (raised, 0)

/-- `control_vblank_irq(false)` of a master: the last reference unregisters. -/
def vblankDrop (irqs : Irqs) : Irqs × Int :=
  let lowered := { irqs with vblankRefcount := irqs.vblankRefcount - 1 }
  if lowered.vblankRefcount = 0 then
    let out := unregisterIrq .rdptr lowered
    if out.2 ≠ 0 then ({ out.1 with vblankRefcount := out.1.vblankRefcount + 1 }, out.2) else out
  else (lowered, 0)

def controlVblankIrq (ok : IntrIdx → Bool) (phys : Phys) (enable : Bool) (irqs : Irqs) :
    Irqs × Int :=
  if ¬phys.hwPp then (irqs, einval)
  -- slave encoders don't report vblank
  else if ¬phys.isMaster then (irqs, 0)
  else if ¬enable ∧ irqs.vblankRefcount = 0 then (irqs, einval)
  else if enable then vblankTake ok irqs
  else vblankDrop irqs

def skipsIrqs (oldPpsplit : Bool) (phys : Phys) : Bool :=
  phys.splitRole = .slave && (phys.ppsplit || oldPpsplit)

def irqControl (ok : IntrIdx → Bool) (oldPpsplit : Bool) (phys : Phys) (enable : Bool)
    (irqs : Irqs) : Irqs :=
  if skipsIrqs oldPpsplit phys then irqs
  else if enable then
    let irqs := (registerIrq ok .pingpong irqs).1
    let irqs := (registerIrq ok .underrun irqs).1
    let irqs := (controlVblankIrq ok phys true irqs).1
    if phys.isMaster then
      (registerIrq ok .autorefreshDone (registerIrq ok .ctlStart irqs).1).1
    else irqs
  else
    let irqs :=
      if phys.isMaster then (unregisterIrq .autorefreshDone (unregisterIrq .ctlStart irqs).1).1
      else irqs
    let irqs := (unregisterIrq .underrun irqs).1
    let irqs := (controlVblankIrq ok phys false irqs).1
    (unregisterIrq .pingpong irqs).1

/-- `_sde_encoder_phys_cmd_handle_ppdone_timeout`, as far as the interrupts go: the first timeout of
    a panel that is alive dumps the state with the read pointer interrupt off. -/
def ppdoneTimeoutIrqs (ok : IntrIdx → Bool) (panelDead : Bool) (phys : Phys) (irqs : Irqs) : Irqs :=
  if ¬phys.hwPp ∨ phys.hwCtl = none then irqs
  else
    let irqs := { irqs with ppTimeoutReportCnt := irqs.ppTimeoutReportCnt + 1 }
    if panelDead then irqs
    else if irqs.ppTimeoutReportCnt = 1 then
      (registerIrq ok .rdptr (unregisterIrq .rdptr irqs).1).1
    else irqs

/-- An encoder with the interrupts of its physical encoders, which of them `irq_control` has
    switched on last, and the votes for vblank that have not been withdrawn. -/
structure Sys where
  enc : Enc
  irqs : ℕ → Irqs
  isOn : ℕ → Bool
  votes : ℕ → ℕ

inductive Input
  | irqControl (i : ℕ) (enable oldPpsplit : Bool) (ok : IntrIdx → Bool)
  | controlVblankIrq (i : ℕ) (enable : Bool) (ok : IntrIdx → Bool)
  | updateMaster (affectedDisplays : ℕ)
  | ppdoneTimeout (i : ℕ) (panelDead : Bool) (ok : IntrIdx → Bool)
  | waitDone (i : ℕ)

/-- A physical encoder of command mode; without its pingpong `irq_control` is not called. -/
def Sys.cmd (s : Sys) (i : ℕ) : Option Phys :=
  s.enc.physEncs[i]?.filter fun phys => phys.isCmd && phys.hwPp

def Sys.set (s : Sys) (i : ℕ) (irqs : Irqs) (isOn : Bool) (votes : ℕ) : Sys :=
  { s with
    irqs := Function.update s.irqs i irqs
    isOn := Function.update s.isOn i isOn
    votes := Function.update s.votes i votes }

/-- `irq_control` alternates between on and off, and a vote is withdrawn only where there is one; no
    other call is made. -/
def Sys.step (s : Sys) : Input → Sys
  | .irqControl i enable oldPpsplit ok =>
    match s.cmd i with
    | none => s
    | some phys =>
      if s.isOn i = enable then s
      else s.set i (irqControl ok oldPpsplit phys enable (s.irqs i)) enable (s.votes i)
  | .controlVblankIrq i enable ok =>
    match s.cmd i with
    | none => s
    | some phys =>
      if enable = false ∧ s.votes i = 0 then s
      else
        s.set i (controlVblankIrq ok phys enable (s.irqs i)).1 (s.isOn i)
          (if enable then s.votes i + 1 else s.votes i - 1)
  | .updateMaster affectedDisplays => { s with enc := updateMaster affectedDisplays s.enc }
  | .ppdoneTimeout i panelDead ok =>
    match s.cmd i with
    | none => s
    | some phys =>
      let s := { s with enc := s.enc.setPhys i (handlePpdoneTimeout panelDead phys).1 }
      s.set i (ppdoneTimeoutIrqs ok panelDead phys (s.irqs i)) (s.isOn i) (s.votes i)
  -- a wait that does not time out ends the row of timeouts
  | .waitDone i => s.set i { s.irqs i with ppTimeoutReportCnt := 0 } (s.isOn i) (s.votes i)

def Sys.init (e : Enc) : Sys := ⟨e, fun _ => ⟨fun _ => false, 0, 0⟩, fun _ => false, fun _ => 0⟩

def Truthful (irqs : Irqs) : Prop := irqs.registered .rdptr = true ↔ 0 < irqs.vblankRefcount

def InBalance (s : Sys) : Prop :=
  ∀ i, Truthful (s.irqs i) ∧
    (s.isOn i = false → s.votes i = 0 → ∀ idx, (s.irqs i).registered idx = false)

/-- What `control_vblank_irq(false)` unregisters. -/
def vblankReleases (phys : Phys) (irqs : Irqs) (idx : IntrIdx) : Prop :=
  idx = .rdptr ∧ phys.isMaster = true ∧ irqs.vblankRefcount = 1

/-- What `irq_control(false)` unregisters. -/
def offReleases (oldPpsplit : Bool) (phys : Phys) (irqs : Irqs) : IntrIdx → Prop
  | .pingpong => skipsIrqs oldPpsplit phys = false
  | .underrun => skipsIrqs oldPpsplit phys = false
  | .rdptr => phys.isMaster = true ∧ irqs.vblankRefcount = 1
  | .ctlStart => phys.isMaster = true
  | .autorefreshDone => phys.isMaster = true

/-- The last of the off switch and the votes finds nothing registered that its role does not
    unregister.  The first timeout of a row finds a vote, and registers again. -/
def Released (s : Sys) : Input → Prop
  | .irqControl i enable oldPpsplit _ =>
    ∀ phys, s.cmd i = some phys → enable = false → s.isOn i = true → s.votes i = 0 →
      ∀ idx, (s.irqs i).registered idx = true → offReleases oldPpsplit phys (s.irqs i) idx
  | .controlVblankIrq i enable _ =>
    ∀ phys, s.cmd i = some phys → enable = false → s.votes i = 1 → s.isOn i = false →
      ∀ idx, (s.irqs i).registered idx = true → vblankReleases phys (s.irqs i) idx
  | .updateMaster _ => True
  | .ppdoneTimeout i panelDead ok =>
    ∀ phys, s.cmd i = some phys → phys.hwCtl.isSome = true → panelDead = false →
      (s.irqs i).ppTimeoutReportCnt = 0 → (ok .rdptr = true ↔ 0 < (s.irqs i).vblankRefcount)
  | .waitDone _ => True

/-! ## One encoder -/

section Irqs

variable {ok : IntrIdx → Bool} {idx : IntrIdx} {phys : Phys} {irqs : Irqs}

theorem registerIrq_of_ne (other : IntrIdx) (ne : other ≠ idx) :
    (registerIrq ok idx irqs).1.registered other = irqs.registered other := by
  rw [registerIrq]
  split_ifs
  · rfl
  · exact Function.update_of_ne ne _ _
  · rfl

theorem vblankRefcount_registerIrq :
    (registerIrq ok idx irqs).1.vblankRefcount = irqs.vblankRefcount := by
  rw [registerIrq]
  split_ifs <;> rfl

theorem unregisterIrq_registered (other : IntrIdx) :
    (unregisterIrq idx irqs).1.registered other = (irqs.registered other && other ≠ idx) := by
  rw [unregisterIrq]
  by_cases same : other = idx
  · subst same
    cases here : irqs.registered other with
    | true => simp
    | false => simp [here]
  · cases irqs.registered idx with
    | true => simp [same]
    | false => simp [same]

theorem vblankRefcount_unregisterIrq :
    (unregisterIrq idx irqs).1.vblankRefcount = irqs.vblankRefcount := by
  rw [unregisterIrq]
  split_ifs <;> rfl

theorem unregisterIrq_ret : (unregisterIrq idx irqs).2 = 0 := by
  rw [unregisterIrq]
  split_ifs <;> rfl

theorem Truthful.registerIrq (ok : IntrIdx → Bool) (truthful : Truthful irqs) (ne : .rdptr ≠ idx) :
    Truthful (IrqControl.registerIrq ok idx irqs).1 := by
  rw [Truthful, registerIrq_of_ne _ ne, vblankRefcount_registerIrq]
  exact truthful

theorem Truthful.unregisterIrq (truthful : Truthful irqs) (ne : .rdptr ≠ idx) :
    Truthful (IrqControl.unregisterIrq idx irqs).1 := by
  rw [Truthful, unregisterIrq_registered, vblankRefcount_unregisterIrq, decide_eq_true ne,
    Bool.and_true]
  exact truthful

theorem Truthful.vblankTake (ok : IntrIdx → Bool) (truthful : Truthful irqs) :
    Truthful (IrqControl.vblankTake ok irqs).1 := by
  by_cases zero : irqs.vblankRefcount = 0
  · have off : irqs.registered .rdptr = false := by
      rw [← Bool.not_eq_true, Iff.not truthful]
      omega
    -- the first reference stays only if the registration succeeds
    cases fine : ok .rdptr with
    | true => simp [IrqControl.vblankTake, IrqControl.registerIrq, Truthful, zero, off, fine]
    | false =>
      simp [IrqControl.vblankTake, IrqControl.registerIrq, Truthful, zero, off, fine, einval]
  · have held : 0 < irqs.vblankRefcount := Nat.pos_of_ne_zero zero
    have more : ¬irqs.vblankRefcount + 1 = 1 := by omega
    rw [IrqControl.vblankTake]
    dsimp only
    rw [if_neg more]
    exact iff_of_true (truthful.mpr held) (Nat.succ_pos _)

theorem vblankDrop_registered (held : irqs.vblankRefcount ≠ 0) :
    (vblankDrop irqs).1.registered idx = true ↔
      irqs.registered idx = true ∧ ¬(idx = .rdptr ∧ irqs.vblankRefcount = 1) := by
  rw [vblankDrop]
  dsimp only
  by_cases last : irqs.vblankRefcount = 1
  · rw [if_pos (by omega), if_neg (not_not.mpr unregisterIrq_ret), unregisterIrq_registered]
    simp [last]
  · rw [if_neg (by omega)]
    simp [last]

theorem Truthful.vblankDrop (truthful : Truthful irqs) (held : irqs.vblankRefcount ≠ 0) :
    Truthful (IrqControl.vblankDrop irqs).1 := by
  have left : (IrqControl.vblankDrop irqs).1.vblankRefcount = irqs.vblankRefcount - 1 := by
    rw [IrqControl.vblankDrop]
    dsimp only
    split_ifs with last failed
    · exact absurd unregisterIrq_ret failed
    · exact vblankRefcount_unregisterIrq
    · rfl
  have before : irqs.registered .rdptr = true ↔ 0 < irqs.vblankRefcount := truthful
  rw [Truthful, left, vblankDrop_registered held, before]
  simp only [true_and]
  omega

theorem Truthful.controlVblankIrq (ok : IntrIdx → Bool) (phys : Phys) (enable : Bool)
    (truthful : Truthful irqs) :
    Truthful (IrqControl.controlVblankIrq ok phys enable irqs).1 := by
  rw [IrqControl.controlVblankIrq]
  by_cases no_vblank : ¬phys.hwPp = true
  · rw [if_pos no_vblank]
    exact truthful
  · rw [if_neg no_vblank]
    by_cases slave : ¬phys.isMaster = true
    · rw [if_pos slave]
      exact truthful
    · rw [if_neg slave]
      cases enable with
      | true =>
        rw [if_neg (by simp), if_pos rfl]
        exact truthful.vblankTake ok
      | false =>
        by_cases zero : irqs.vblankRefcount = 0
        · rw [if_pos ⟨Bool.false_ne_true, zero⟩]
          exact truthful
        · rw [if_neg (fun both => zero both.2), if_neg Bool.false_ne_true]
          exact truthful.vblankDrop zero

theorem controlVblankIrq_off (ok : IntrIdx → Bool) (irqs : Irqs) (idx : IntrIdx)
    (pp : phys.hwPp = true) :
    (controlVblankIrq ok phys false irqs).1.registered idx = true ↔
      irqs.registered idx = true ∧ ¬vblankReleases phys irqs idx := by
  rw [controlVblankIrq, if_neg (not_not.mpr pp), vblankReleases]
  by_cases master : phys.isMaster = true
  · rw [if_neg (not_not.mpr master)]
    by_cases zero : irqs.vblankRefcount = 0
    · simp [zero]
    · rw [if_neg (fun both => zero both.2), if_neg Bool.false_ne_true, vblankDrop_registered zero]
      simp [master]
  · simp [master]

theorem stop_registered (master : Bool) :
    (unregisterIrq .underrun
      (if master then (unregisterIrq .autorefreshDone (unregisterIrq .ctlStart irqs).1).1
        else irqs)).1.registered idx = true ↔
      irqs.registered idx = true ∧ idx ≠ .underrun ∧
        (master = true → idx ≠ .ctlStart ∧ idx ≠ .autorefreshDone) := by
  cases master with
  | true => simp [unregisterIrq_registered, and_assoc, and_comm, and_left_comm]
  | false => simp [unregisterIrq_registered]

theorem stop_vblankRefcount (master : Bool) :
    (unregisterIrq .underrun
      (if master then (unregisterIrq .autorefreshDone (unregisterIrq .ctlStart irqs).1).1
        else irqs)).1.vblankRefcount = irqs.vblankRefcount := by
  rw [vblankRefcount_unregisterIrq]
  cases master with
  | true => exact vblankRefcount_unregisterIrq.trans vblankRefcount_unregisterIrq
  | false => rfl

theorem Truthful.irqControl (ok : IntrIdx → Bool) (oldPpsplit : Bool) (phys : Phys) (enable : Bool)
    (truthful : Truthful irqs) :
    Truthful (IrqControl.irqControl ok oldPpsplit phys enable irqs) := by
  have ne : ∀ idx, idx ≠ IntrIdx.rdptr → IntrIdx.rdptr ≠ idx := fun _ => Ne.symm
  rw [IrqControl.irqControl]
  by_cases skips : skipsIrqs oldPpsplit phys = true
  · rw [if_pos skips]
    exact truthful
  · rw [if_neg skips]
    cases enable with
    | true =>
      have registered := (truthful.registerIrq ok (ne .pingpong nofun)).registerIrq ok
        (ne .underrun nofun)
      have voted := registered.controlVblankIrq ok phys true
      rw [if_pos rfl]
      dsimp only
      cases phys.isMaster with
      | true =>
        exact (voted.registerIrq ok (ne .ctlStart nofun)).registerIrq ok (ne .autorefreshDone nofun)
      | false => exact voted
    | false =>
      rw [if_neg Bool.false_ne_true]
      refine Truthful.unregisterIrq (Truthful.controlVblankIrq ok phys false ?_)
        (ne .pingpong nofun)
      have others : IntrIdx.rdptr ≠ .underrun ∧
          (phys.isMaster = true → IntrIdx.rdptr ≠ .ctlStart ∧ IntrIdx.rdptr ≠ .autorefreshDone) :=
        ⟨nofun, fun _ => ⟨nofun, nofun⟩⟩
      rw [Truthful, stop_registered, stop_vblankRefcount, and_iff_left others]
      exact truthful

theorem irqControl_off (ok : IntrIdx → Bool) (oldPpsplit : Bool) (irqs : Irqs) (idx : IntrIdx)
    (pp : phys.hwPp = true) :
    (irqControl ok oldPpsplit phys false irqs).registered idx = true ↔
      irqs.registered idx = true ∧ ¬offReleases oldPpsplit phys irqs idx := by
  rw [irqControl]
  by_cases skips : skipsIrqs oldPpsplit phys = true
  · -- a slave is no master, so nothing is released
    have slave : phys.isMaster = false := by
      simp only [skipsIrqs, Bool.and_eq_true, decide_eq_true_eq] at skips
      simp [Phys.isMaster, skips.1]
    rw [if_pos skips]
    cases idx <;> simp [offReleases, skips, slave]
  · have not_skipped : skipsIrqs oldPpsplit phys = false := Bool.not_eq_true _ ▸ skips
    rw [if_neg skips, if_neg Bool.false_ne_true]
    dsimp only
    rw [unregisterIrq_registered, Bool.and_eq_true, controlVblankIrq_off _ _ _ pp, vblankReleases,
      stop_registered, stop_vblankRefcount]
    cases idx <;> simp [offReleases, not_skipped]

theorem ppdoneTimeoutIrqs_registered (panelDead : Bool) (ne : idx ≠ .rdptr) :
    (ppdoneTimeoutIrqs ok panelDead phys irqs).registered idx = irqs.registered idx := by
  rw [ppdoneTimeoutIrqs]
  dsimp only
  split_ifs
  · rfl
  · rfl
  · rw [registerIrq_of_ne _ ne, unregisterIrq_registered, decide_eq_true ne, Bool.and_true]
  · rfl

theorem vblankRefcount_ppdoneTimeoutIrqs (panelDead : Bool) :
    (ppdoneTimeoutIrqs ok panelDead phys irqs).vblankRefcount = irqs.vblankRefcount := by
  rw [ppdoneTimeoutIrqs]
  dsimp only
  split_ifs
  · rfl
  · rfl
  · exact vblankRefcount_registerIrq.trans vblankRefcount_unregisterIrq
  · rfl

theorem truthful_ppdoneTimeoutIrqs_iff (truthful : Truthful irqs) (pp : phys.hwPp = true)
    (panelDead : Bool) :
    Truthful (ppdoneTimeoutIrqs ok panelDead phys irqs) ↔
      (phys.hwCtl.isSome = true → panelDead = false → irqs.ppTimeoutReportCnt = 0 →
        (ok .rdptr = true ↔ 0 < irqs.vblankRefcount)) := by
  rw [Truthful, vblankRefcount_ppdoneTimeoutIrqs, ppdoneTimeoutIrqs]
  cases at_ctl : phys.hwCtl with
  | none =>
    rw [if_pos (.inr rfl)]
    exact iff_of_true truthful nofun
  | some ctl =>
    rw [if_neg (by simp [pp])]
    cases panelDead with
    | true => exact iff_of_true truthful fun _ => nofun
    | false =>
      dsimp only
      rw [if_neg Bool.false_ne_true]
      by_cases first : irqs.ppTimeoutReportCnt = 0
      · rw [if_pos (by omega), registerIrq, if_neg (by simp [unregisterIrq_registered])]
        have given : (some ctl).isSome = true := rfl
        simp only [given, first, true_implies]
        cases fine : ok .rdptr with
        | true => simp
        | false => simp [unregisterIrq_registered]
      · rw [if_neg (by omega)]
        exact iff_of_true truthful fun _ _ zero => absurd zero first

end Irqs

/-! ## Runs -/

section Step

variable {s : Sys}

theorem cmd_hwPp {i : ℕ} {phys : Phys} (here : s.cmd i = some phys) : phys.hwPp = true := by
  rw [Sys.cmd, Option.filter_eq_some_iff, Bool.and_eq_true] at here
  exact here.2.2

theorem inBalance_set_iff (balanced : InBalance s) (i : ℕ) (irqs : Irqs) (isOn : Bool) (votes : ℕ) :
    InBalance (s.set i irqs isOn votes) ↔ Truthful irqs ∧
      (isOn = false → votes = 0 → ∀ idx, irqs.registered idx = false) := by
  constructor
  · intro after
    have here := after i
    simpa only [Sys.set, Function.update_self] using here
  · intro here j
    by_cases same : j = i
    · subst same
      simpa only [Sys.set, Function.update_self] using here
    · simpa only [Sys.set, Function.update_of_ne same] using balanced j

theorem none_registered_iff {before after : IntrIdx → Bool} {releases : IntrIdx → Prop}
    (kept : ∀ idx, after idx = true ↔ before idx = true ∧ ¬releases idx) :
    (∀ idx, after idx = false) ↔ ∀ idx, before idx = true → releases idx := by
  refine forall_congr' fun idx => ?_
  rw [← Bool.not_eq_true, kept idx, not_and_not_right]

theorem inBalance_irqControl_iff (balanced : InBalance s) (i : ℕ) (enable oldPpsplit : Bool)
    (ok : IntrIdx → Bool) :
    InBalance (s.step (.irqControl i enable oldPpsplit ok)) ↔
      Released s (.irqControl i enable oldPpsplit ok) := by
  rw [Sys.step, Released]
  cases here : s.cmd i with
  | none => exact iff_of_true balanced fun _ no => by cases no
  | some phys =>
    simp only [Option.some.injEq, forall_eq']
    by_cases same : s.isOn i = enable
    · rw [if_pos same]
      refine iff_of_true balanced fun off on_before => ?_
      rw [same, off] at on_before
      cases on_before
    · rw [if_neg same, inBalance_set_iff balanced,
        and_iff_right ((balanced i).1.irqControl ok oldPpsplit phys enable)]
      cases enable with
      | true => exact iff_of_true nofun nofun
      | false =>
        have was_on : s.isOn i = true := by simpa using same
        have kept := none_registered_iff fun idx =>
          irqControl_off ok oldPpsplit (s.irqs i) idx (cmd_hwPp here)
        simp only [was_on, true_implies, kept]

theorem inBalance_controlVblankIrq_iff (balanced : InBalance s) (i : ℕ) (enable : Bool)
    (ok : IntrIdx → Bool) :
    InBalance (s.step (.controlVblankIrq i enable ok)) ↔
      Released s (.controlVblankIrq i enable ok) := by
  rw [Sys.step, Released]
  cases here : s.cmd i with
  | none => exact iff_of_true balanced fun _ no => by cases no
  | some phys =>
    simp only [Option.some.injEq, forall_eq']
    by_cases none_left : enable = false ∧ s.votes i = 0
    · rw [if_pos none_left]
      exact iff_of_true balanced fun _ one => by omega
    · rw [if_neg none_left, inBalance_set_iff balanced,
        and_iff_right ((balanced i).1.controlVblankIrq ok phys enable)]
      cases enable with
      | true => exact iff_of_true (fun _ zero => absurd zero (Nat.succ_ne_zero _)) nofun
      | false =>
        have last : s.votes i - 1 = 0 ↔ s.votes i = 1 := by
          have some_left : s.votes i ≠ 0 := fun zero => none_left ⟨rfl, zero⟩
          omega
        have kept := none_registered_iff fun idx =>
          controlVblankIrq_off ok (s.irqs i) idx (cmd_hwPp here)
        simp only [Bool.false_eq_true, if_false, last, true_implies, kept]
        exact forall_comm

theorem inBalance_ppdoneTimeout_iff (balanced : InBalance s) (i : ℕ) (panelDead : Bool)
    (ok : IntrIdx → Bool) :
    InBalance (s.step (.ppdoneTimeout i panelDead ok)) ↔
      Released s (.ppdoneTimeout i panelDead ok) := by
  rw [Sys.step, Released]
  cases here : s.cmd i with
  | none => exact iff_of_true balanced fun _ no => by cases no
  | some phys =>
    obtain ⟨truthful, quiet⟩ := balanced i
    simp only [Option.some.injEq, forall_eq']
    have same_enc : InBalance
      { s with enc := s.enc.setPhys i (handlePpdoneTimeout panelDead phys).1 } :=
      balanced
    rw [inBalance_set_iff same_enc, ← truthful_ppdoneTimeoutIrqs_iff truthful
      (cmd_hwPp here) panelDead]
    refine and_iff_left_of_imp fun after off no_votes idx => ?_
    have none_before := quiet off no_votes
    by_cases ne : idx = .rdptr
    · -- without a reference a truthful read pointer interrupt is off
      subst ne
      have none_held : ¬0 < (s.irqs i).vblankRefcount := by
        rw [← Iff.not truthful, none_before]
        exact Bool.false_ne_true
      rw [← Bool.not_eq_true, Iff.not after, vblankRefcount_ppdoneTimeoutIrqs]
      exact none_held
    · rw [ppdoneTimeoutIrqs_registered panelDead ne]
      exact none_before idx

theorem inBalance_step_iff (balanced : InBalance s) (input : Input) :
    InBalance (s.step input) ↔ Released s input := by
  cases input with
  | irqControl i enable oldPpsplit ok =>
    exact inBalance_irqControl_iff balanced i enable oldPpsplit ok
  | controlVblankIrq i enable ok => exact inBalance_controlVblankIrq_iff balanced i enable ok
  | updateMaster affectedDisplays => exact iff_of_true balanced trivial
  | ppdoneTimeout i panelDead ok => exact inBalance_ppdoneTimeout_iff balanced i panelDead ok
  | waitDone i =>
    rw [Sys.step, inBalance_set_iff balanced]
    exact iff_of_true (balanced i) trivial

end Step

/-- Through all switches, votes, changes of roles and timeouts the interrupts of every encoder are
    in balance, exactly when each step finds registered what the encoder's role lets it
    unregister. -/
theorem inBalance_iff_released (e : Enc) (inputs : List Input) :
    Throughout Sys.step InBalance (Sys.init e) inputs ↔
      StepsMeet Sys.step Released (Sys.init e) inputs := by
  have start : InBalance (Sys.init e) := fun _ =>
    ⟨iff_of_false Bool.false_ne_true (Nat.lt_irrefl 0), fun _ _ _ => rfl⟩
  have exact_step : ∀ s input, True → InBalance s →
      (InBalance (Sys.step s input) ↔ Released s input) :=
    fun _ input _ balanced => inBalance_step_iff balanced input
  exact throughout_iff_stepsMeet (fun _ => True) (fun _ _ _ => trivial) exact_step trivial start
    inputs

/-! ### From a right half to the full width -/

/-- The right encoder is switched on while it is alone in the frame, and switched off as a slave. -/
theorem not_inBalance_fullWidth :
    ¬∀ (e : Enc) (inputs : List Input), Throughout Sys.step InBalance (Sys.init e) inputs := by
  intro always
  have throughout := always dualDsi
    [.updateMaster 2, .irqControl 1 true false fun _ => true, .updateMaster 3,
      .irqControl 1 false false fun _ => true]
  have last := throughout_iff_prefix.mp throughout _ [] (List.append_nil _).symm
  exact absurd ((last 1).2 rfl rfl .ctlStart) (by decide)

end DisplayDrivers.Encoder.Kickoff.IrqControl
