import DisplayDrivers.Lib.Threads
import DisplayDrivers.Lib.Run

/-! # Vblank requests and their power reference

`sde_crtc_vblank`, `sde_crtc_enable`, `sde_crtc_disable` and `_sde_crtc_set_suspend` each look at
the flags of the CRTC, may switch vblank on or off, and write a flag of their own.
-/

namespace DisplayDrivers.Vblank

open DisplayDrivers.Lib.Run
open DisplayDrivers.Lib.Threads

/-- The flags of the CRTC, whether the callback of its encoders is registered, the power references
    held for vblank, and whether the last power enable for it has succeeded. -/
structure Crtc where
  enabled : Bool
  suspend : Bool
  vblankRequested : Bool
  registered : Bool
  refs : Int
  lastEnabled : Bool
deriving DecidableEq

/-! ## Switching vblank -/

/-- `_sde_crtc_vblank_enable_no_lock` until it drops the lock -/
def beforePower (enable : Bool) (crtc : Crtc) : Crtc :=
  if enable then crtc else { crtc with registered := false }

/-- `_sde_crtc_power_enable`.  An enable that fails has raised the reference count all the same:
    `sde_power_resource_enable` counts first and takes nothing back. -/
def powerEnable (enable ok : Bool) (crtc : Crtc) : Crtc × Bool :=
  if enable then ({ crtc with refs := crtc.refs + 1, lastEnabled := ok }, ok)
  else ({ crtc with refs := crtc.refs - 1 }, true)

def afterPower (enable ret : Bool) (crtc : Crtc) : Crtc :=
  if enable && ret then { crtc with registered := true } else crtc

/-! ## Operations -/

structure Operation where
  switches : Crtc → Bool
  enable : Bool
  record : Crtc → Crtc

def sdeCrtcVblank (en : Bool) : Operation where
  switches crtc := crtc.enabled && !crtc.suspend
  enable := en
  record crtc := { crtc with vblankRequested := en }

/-- `sde_crtc_enable`, which does nothing without power or if the CRTC is enabled. -/
def sdeCrtcEnable (powered : Bool) : Operation where
  switches crtc := powered && !crtc.enabled && (!crtc.suspend && crtc.vblankRequested)
  enable := true
  record crtc := if powered && !crtc.enabled then { crtc with enabled := true } else crtc

/-- `sde_crtc_disable` after the suspend that it does in a suspended system. -/
def sdeCrtcDisable (powered : Bool) : Operation where
  switches crtc := powered && (crtc.enabled && !crtc.suspend && crtc.vblankRequested)
  enable := false
  record crtc := if powered then { crtc with enabled := false } else crtc

def sdeCrtcSetSuspend (enable : Bool) : Operation where
  switches crtc := crtc.suspend != enable && (crtc.enabled && crtc.vblankRequested)
  enable := !enable
  record crtc := { crtc with suspend := enable }

inductive Call
  | vblank (en ok : Bool)
  | enable (powered ok : Bool)
  | disable (powered : Bool)
  | setSuspend (en ok : Bool)
deriving DecidableEq

def Call.operation : Call → Operation
  | .vblank en _ => sdeCrtcVblank en
  | .enable powered _ => sdeCrtcEnable powered
  | .disable powered => sdeCrtcDisable powered
  | .setSuspend en _ => sdeCrtcSetSuspend en

def Call.ok : Call → Bool
  | .vblank _ ok => ok
  | .enable _ ok => ok
  | .disable _ => true
  | .setSuspend _ ok => ok

inductive Phase
  | idle
  | first (call : Call)
  | power (call : Call)
  | second (call : Call) (ret : Bool)
deriving DecidableEq

def exec (crtc : Crtc) : Phase → Crtc × Phase
  | .idle => (crtc, .idle)
  | .first call =>
    if call.operation.switches crtc then (beforePower call.operation.enable crtc, .power call)
    else (call.operation.record crtc, .idle)
  | .power call =>
    let powered := powerEnable call.operation.enable call.ok crtc
    (powered.1, .second call powered.2)
  | .second call ret => (call.operation.record (afterPower call.operation.enable ret crtc), .idle)

def prog : Program Crtc Phase Call where
  idle := .idle
  start := .first
  exec := exec

def start : World Crtc Phase := ⟨⟨false, false, false, false, 0, true⟩, fun _ => .idle⟩

/-! ## What the references should be -/

def Crtc.wants (crtc : Crtc) : Bool := crtc.enabled && !crtc.suspend && crtc.vblankRequested

structure Steady (crtc : Crtc) : Prop where
  refs : crtc.refs = if crtc.wants && crtc.lastEnabled then 1 else 0
  registered : crtc.registered = (crtc.wants && crtc.lastEnabled)

structure Kept (w : World Crtc Phase) : Prop where
  nonneg : 0 ≤ w.shared.refs
  quiet : Quiet prog w → Steady w.shared

def Phase.midway : Phase → Bool
  | .power _ => true
  | .second _ _ => true
  | _ => false

def Call.direction : Call → Option Bool
  | .vblank en _ => some en
  | _ => none

def Phase.call : Phase → Option Call
  | .idle => none
  | .first call => some call
  | .power call => some call
  | .second call _ => some call

def Phase.direction (phase : Phase) : Option Bool := phase.call.bind Call.direction

def Alternating (w : World Crtc Phase) : Turn Call → Prop
  | .enter tid call => ∀ en, call.direction = some en → w.phase tid = .idle →
      w.shared.vblankRequested = !en ∧ ∀ other, (w.phase other).direction = none
  | .go _ => True

/-- A call that does anything begins while no other one is between its sections, and a power enable
    does not fail. -/
def Undisturbed (w : World Crtc Phase) : Turn Call → Prop
  | .enter _ _ => True
  | .go tid =>
    match w.phase tid with
    | .first call =>
      call.operation.switches w.shared = true ∨ call.operation.record w.shared ≠ w.shared →
        ∀ other, (w.phase other).midway = false
    | .power call => call.operation.enable = true → call.ok = true
    | _ => True

/-! ## The power reference follows the request

As long as at most one call is between its sections, a call that switches vblank finds it in the
other state and leaves it as its own flag says (`wants_before`, `wants_record`), and one that does
not switch leaves alone what is wanted (`wants_unswitched`).
-/

/-! ## One call -/

section Calls

variable {crtc : Crtc} {call : Call}

theorem wants_before (switches : call.operation.switches crtc = true)
    (turns : ∀ en, call.direction = some en → crtc.vblankRequested = !en) :
    crtc.wants = !call.operation.enable := by
  cases call with
  | vblank en ok =>
    have requested := turns en rfl
    simp only [Call.operation, sdeCrtcVblank] at switches ⊢
    rw [Crtc.wants, switches, requested, Bool.true_and]
  | enable powered ok =>
    simp only [Call.operation, sdeCrtcEnable, Bool.and_eq_true, Bool.not_eq_true'] at switches ⊢
    rw [Crtc.wants, switches.1.2]
    rfl
  | disable powered =>
    simp only [Call.operation, sdeCrtcDisable, Bool.and_eq_true] at switches ⊢
    rw [Crtc.wants, switches.2.1.1, switches.2.1.2, switches.2.2]
    rfl
  | setSuspend en ok =>
    simp only [Call.operation, sdeCrtcSetSuspend, Bool.and_eq_true, bne_iff_ne, ne_eq] at switches ⊢
    rw [Crtc.wants, switches.2.1, switches.2.2]
    cases en with
    | true => simp [switches.1]
    | false => simp [switches.1]

theorem wants_record (switches : call.operation.switches crtc = true) :
    (call.operation.record crtc).wants = call.operation.enable := by
  cases call with
  | vblank en ok =>
    simp only [Call.operation, sdeCrtcVblank] at switches ⊢
    rw [Crtc.wants]
    dsimp only
    rw [switches, Bool.true_and]
  | enable powered ok =>
    simp only [Call.operation, sdeCrtcEnable, Bool.and_eq_true] at switches ⊢
    rw [if_pos (by simp [switches.1.1, switches.1.2]), Crtc.wants]
    dsimp only
    rw [switches.2.1, switches.2.2]
    rfl
  | disable powered =>
    simp only [Call.operation, sdeCrtcDisable, Bool.and_eq_true] at switches ⊢
    rw [if_pos switches.1]
    rfl
  | setSuspend en ok =>
    simp only [Call.operation, sdeCrtcSetSuspend, Bool.and_eq_true] at switches ⊢
    rw [Crtc.wants]
    dsimp only
    rw [switches.2.1, switches.2.2]
    simp

theorem wants_unswitched (switches : call.operation.switches crtc = false) :
    (call.operation.record crtc).wants = crtc.wants := by
  cases call with
  | vblank en ok =>
    simp only [Call.operation, sdeCrtcVblank] at switches ⊢
    simp only [Crtc.wants, switches, Bool.false_and]
  | enable powered ok =>
    simp only [Call.operation, sdeCrtcEnable] at switches ⊢
    cases off : powered && !crtc.enabled with
    | false => rfl
    | true =>
      -- what is missing is the request, or the CRTC is suspended: enabling it changes nothing
      rw [off, Bool.true_and] at switches
      have disabled : crtc.enabled = false := by simp at off; exact off.2
      simp [Crtc.wants, switches, disabled]
  | disable powered =>
    simp only [Call.operation, sdeCrtcDisable] at switches ⊢
    cases powered with
    | false => rfl
    | true =>
      rw [Bool.true_and] at switches
      rw [Crtc.wants, Crtc.wants, switches]
      rfl
  | setSuspend en ok =>
    simp only [Call.operation, sdeCrtcSetSuspend, Bool.and_eq_false_iff] at switches ⊢
    cases switches with
    | inl same =>
      have suspended : crtc.suspend = en := by simpa using same
      simp [Crtc.wants, suspended]
    | inr missing =>
      cases missing with
      | inl disabled => simp [Crtc.wants, disabled]
      | inr unrequested => simp [Crtc.wants, unrequested]

theorem record_eq (call : Call) (crtc : Crtc) :
    ∃ enabled suspend, call.operation.record crtc =
      { crtc with
        enabled, suspend, vblankRequested := call.direction.getD crtc.vblankRequested } := by
  cases call with
  | vblank | setSuspend => exact ⟨_, _, rfl⟩
  | enable powered ok =>
    simp only [Call.operation, sdeCrtcEnable]
    split
    · exact ⟨_, _, rfl⟩
    · exact ⟨_, _, rfl⟩
  | disable powered =>
    simp only [Call.operation, sdeCrtcDisable]
    split
    · exact ⟨_, _, rfl⟩
    · exact ⟨_, _, rfl⟩

theorem record_refs (call : Call) (crtc : Crtc) :
    (call.operation.record crtc).refs = crtc.refs ∧
      (call.operation.record crtc).registered = crtc.registered ∧
        (call.operation.record crtc).lastEnabled = crtc.lastEnabled := by
  obtain ⟨enabled, suspend, recorded⟩ := record_eq call crtc
  rw [recorded]
  exact ⟨rfl, rfl, rfl⟩

theorem record_requested (call : Call) (crtc : Crtc) :
    (call.operation.record crtc).vblankRequested = call.direction.getD crtc.vblankRequested := by
  obtain ⟨enabled, suspend, recorded⟩ := record_eq call crtc
  rw [recorded]

theorem switches_congr (call : Call) (crtc : Crtc) (registered lastEnabled : Bool) (refs : Int) :
    call.operation.switches { crtc with registered, refs, lastEnabled } =
      call.operation.switches crtc := by
  cases call with
  | vblank | enable | disable | setSuspend => rfl

/-! ## Its sections -/

def Between (crtc : Crtc) : Phase → Prop
  | .power call => call.operation.switches crtc = true ∧ crtc.registered = false ∧
      crtc.refs = if call.operation.enable then 0 else 1
  | .second call ret => call.operation.switches crtc = true ∧ crtc.registered = false ∧
      crtc.refs = (if call.operation.enable then 1 else 0) ∧
        (call.operation.enable = true → ret = true)
  | _ => True

theorem between_beforePower (steady : Steady crtc) (powered : crtc.lastEnabled = true)
    (switches : call.operation.switches crtc = true)
    (turns : ∀ en, call.direction = some en → crtc.vblankRequested = !en) :
    Between (beforePower call.operation.enable crtc) (.power call) := by
  have wanted := wants_before switches turns
  have refs := steady.refs
  have registered := steady.registered
  cases direction : call.operation.enable with
  | true =>
    -- nothing was wanted, so there is neither a reference nor a callback
    rw [wanted, direction] at refs registered
    exact ⟨switches, registered, by rw [direction]; exact refs⟩
  | false =>
    rw [wanted, direction, powered] at refs
    refine ⟨?_, rfl, by rw [direction]; exact refs⟩
    exact (switches_congr call crtc false crtc.lastEnabled crtc.refs).trans switches

theorem between_powerEnable (between : Between crtc (.power call)) {ok : Bool}
    (succeeds : call.operation.enable = true → ok = true) :
    Between (powerEnable call.operation.enable ok crtc).1
      (.second call (powerEnable call.operation.enable ok crtc).2) := by
  obtain ⟨switches, registered, refs⟩ := between
  cases direction : call.operation.enable with
  | true =>
    rw [direction] at refs
    refine ⟨?_, registered, ?_, fun _ => succeeds direction⟩
    · exact (switches_congr call crtc crtc.registered ok (crtc.refs + 1)).trans switches
    · simp [powerEnable, direction, refs]
  | false =>
    rw [direction] at refs
    refine ⟨?_, registered, ?_, fun enable => absurd enable (by simp [direction])⟩
    · exact (switches_congr call crtc crtc.registered crtc.lastEnabled
        (crtc.refs - 1)).trans switches
    · simp [powerEnable, direction, refs]

theorem lastEnabled_powerEnable {enable ok : Bool} (powered : crtc.lastEnabled = true)
    (succeeds : enable = true → ok = true) : (powerEnable enable ok crtc).1.lastEnabled = true := by
  cases enable with
  | true => exact succeeds rfl
  | false => exact powered

theorem steady_afterPower {ret : Bool} (powered : crtc.lastEnabled = true)
    (between : Between crtc (.second call ret)) :
    Steady (call.operation.record (afterPower call.operation.enable ret crtc)) := by
  obtain ⟨switches, registered, refs, succeeded⟩ := between
  cases enable : call.operation.enable with
  | true =>
    obtain rfl : ret = true := succeeded enable
    have switched : call.operation.switches { crtc with registered := true } = true :=
      (switches_congr call crtc true crtc.lastEnabled crtc.refs).trans switches
    have wanted : (call.operation.record { crtc with registered := true }).wants = true := by
      rw [wants_record switched, enable]
    obtain ⟨sameRefs, sameRegistered, sameLast⟩ :=
      record_refs call { crtc with registered := true }
    rw [show afterPower true true crtc = { crtc with registered := true } from rfl]
    constructor
    · rw [sameRefs, wanted, sameLast]
      simp [refs, enable, powered]
    · rw [sameRegistered, wanted, sameLast]
      simp [powered]
  | false =>
    obtain ⟨sameRefs, sameRegistered, sameLast⟩ := record_refs call crtc
    have unwanted : (call.operation.record crtc).wants = false := by
      rw [wants_record switches, enable]
    rw [show afterPower false ret crtc = crtc from rfl]
    constructor
    · rw [sameRefs, unwanted, refs, enable]
      rfl
    · rw [sameRegistered, unwanted, registered]
      rfl

theorem steady_record (steady : Steady crtc) (switches : call.operation.switches crtc = false) :
    Steady (call.operation.record crtc) := by
  obtain ⟨sameRefs, sameRegistered, sameLast⟩ := record_refs call crtc
  constructor
  · rw [sameRefs, sameLast, wants_unswitched switches]
    exact steady.refs
  · rw [sameRegistered, sameLast, wants_unswitched switches]
    exact steady.registered

end Calls

/-! ## Calls in turn -/

theorem exec_first_switches {crtc : Crtc} {call : Call}
    (switches : call.operation.switches crtc = true) :
    prog.exec crtc (.first call) = (beforePower call.operation.enable crtc, .power call) :=
  if_pos switches

theorem exec_first_unswitched {crtc : Crtc} {call : Call}
    (switches : call.operation.switches crtc = false) :
    prog.exec crtc (.first call) = (call.operation.record crtc, .idle) :=
  if_neg (by simp [switches])

def Turns (w : World Crtc Phase) : Prop :=
  ∀ tid en, (w.phase tid).direction = some en →
    w.shared.vblankRequested = !en ∧ ∀ other, other ≠ tid → (w.phase other).direction = none

theorem exec_direction (crtc : Crtc) (phase : Phase) :
    ((exec crtc phase).2.direction = phase.direction ∧
        (exec crtc phase).1.vblankRequested = crtc.vblankRequested) ∨
      ((exec crtc phase).2 = .idle ∧
        (exec crtc phase).1.vblankRequested = phase.direction.getD crtc.vblankRequested) := by
  cases phase with
  | idle => exact .inl ⟨rfl, rfl⟩
  | first call =>
    cases switches : call.operation.switches crtc with
    | true =>
      rw [show exec crtc (.first call) = _ from exec_first_switches switches]
      refine .inl ⟨rfl, ?_⟩
      rw [beforePower]
      split
      · rfl
      · rfl
    | false =>
      rw [show exec crtc (.first call) = _ from exec_first_unswitched switches]
      exact .inr ⟨rfl, record_requested call crtc⟩
  | power call =>
    refine .inl ⟨rfl, ?_⟩
    simp only [exec, powerEnable]
    split
    · rfl
    · rfl
  | second call ret =>
    refine .inr ⟨rfl, (record_requested call _).trans ?_⟩
    rw [afterPower]
    split
    · rfl
    · rfl

variable {phase : Phase}

variable {tid : Nat}

theorem turns_update {phases : Nat → Phase} {crtc : Crtc}
    (others : ∀ thread, thread ≠ tid → ∀ en, (phases thread).direction = some en →
      crtc.vblankRequested = (!en) ∧ phase.direction = none ∧
        ∀ other, other ≠ thread → other ≠ tid → (phases other).direction = none)
    (own : ∀ en, phase.direction = some en →
      crtc.vblankRequested = (!en) ∧ ∀ other, other ≠ tid → (phases other).direction = none) :
    Turns ⟨crtc, Function.update phases tid phase⟩ := by
  intro thread en direction
  by_cases same : thread = tid
  · subst same
    simp only [Function.update_self] at direction ⊢
    obtain ⟨requested, alone⟩ := own en direction
    refine ⟨requested, fun other differ => ?_⟩
    rw [Function.update_of_ne differ]
    exact alone other differ
  · simp only [Function.update_of_ne same] at direction ⊢
    obtain ⟨requested, given, alone⟩ := others thread same en direction
    refine ⟨requested, fun other differ => ?_⟩
    by_cases moved : other = tid
    · rw [moved, Function.update_self]
      exact given
    · rw [Function.update_of_ne moved]
      exact alone other differ moved

variable {w : World Crtc Phase}

theorem turns_enter {call : Call} (turns : Turns w)
    (alternating : Alternating w (.enter tid call)) : Turns (turn prog w (.enter tid call)) := by
  by_cases isIdle : w.phase tid = prog.idle
  · simp only [turn, if_pos isIdle]
    refine turns_update (fun thread _ en direction => ?_) fun en direction => ?_
    · obtain ⟨requested, alone⟩ := turns thread en direction
      refine ⟨requested, ?_, fun other differ _ => alone other differ⟩
      -- another thread is in a vblank call, so that this one is of another kind
      cases started : (prog.start call).direction with
      | none => rfl
      | some en' =>
        have none_else := (alternating en' started isIdle).2 thread
        rw [direction] at none_else
        cases none_else
    · obtain ⟨requested, alone⟩ := alternating en direction isIdle
      exact ⟨requested, fun other _ => alone other⟩
  · simp only [turn, if_neg isIdle]
    exact turns

theorem turns_go (turns : Turns w) (tid : Nat) : Turns (turn prog w (.go tid)) := by
  refine turns_update (fun thread differ en direction => ?_) fun en direction => ?_
  · -- the call of the thread that moves is of another kind
    obtain ⟨requested, alone⟩ := turns thread en direction
    have apart := alone tid (Ne.symm differ)
    obtain ⟨same, unchanged⟩ | ⟨ended, written⟩ := exec_direction w.shared (w.phase tid)
    · exact ⟨unchanged.trans requested, same.trans apart, fun other differ _ => alone other differ⟩
    · refine ⟨written.trans ?_, congrArg Phase.direction ended, fun other differ _ =>
        alone other differ⟩
      rw [apart]
      exact requested
  · obtain ⟨same, unchanged⟩ | ⟨ended, -⟩ := exec_direction w.shared (w.phase tid)
    · obtain ⟨requested, alone⟩ := turns tid en (same ▸ direction)
      exact ⟨unchanged.trans requested, alone⟩
    · have none_left : (prog.exec w.shared (w.phase tid)).2.direction = none :=
        congrArg Phase.direction ended
      rw [none_left] at direction
      cases direction

/-! ## All calls -/

structure Inv (w : World Crtc Phase) : Prop where
  turns : Turns w
  single : ∀ a b, (w.phase a).midway = true → (w.phase b).midway = true → a = b
  between : ∀ tid, Between w.shared (w.phase tid)
  powered : w.shared.lastEnabled = true
  steady : (∀ tid, (w.phase tid).midway = false) → Steady w.shared

theorem between_of_not_midway (rests : phase.midway = false) (crtc : Crtc) :
    Between crtc phase := by
  cases phase with
  | idle | first => trivial
  | power | second => cases rests

theorem Inv.passes (inv : Inv w) (was : (w.phase tid).midway = false) (rests : phase.midway = false)
    (turns : Turns ⟨w.shared, Function.update w.phase tid phase⟩) :
    Inv ⟨w.shared, Function.update w.phase tid phase⟩ := by
  have midway : ∀ thread,
      (Function.update w.phase tid phase thread).midway = (w.phase thread).midway := by
    intro thread
    by_cases same : thread = tid
    · subst same
      rw [Function.update_self, rests, was]
    · rw [Function.update_of_ne same]
  refine ⟨turns, fun a b first second => ?_, fun thread => ?_, inv.powered, fun rest => ?_⟩
  · exact inv.single a b (midway a ▸ first) (midway b ▸ second)
  · by_cases same : thread = tid
    · subst same
      exact between_of_not_midway (by simpa using rests) _
    · simp only [Function.update_of_ne same]
      exact inv.between thread
  · exact inv.steady fun thread => (midway thread).symm.trans (rest thread)

theorem Inv.moves {crtc : Crtc}
    (alone : ∀ other, other ≠ tid → (w.phase other).midway = false) (between : Between crtc phase)
    (powered : crtc.lastEnabled = true) (steady : phase.midway = false → Steady crtc)
    (turns : Turns ⟨crtc, Function.update w.phase tid phase⟩) :
    Inv ⟨crtc, Function.update w.phase tid phase⟩ := by
  have elsewhere : ∀ thread, thread ≠ tid →
      (Function.update w.phase tid phase thread).midway = false := by
    intro thread differ
    rw [Function.update_of_ne differ]
    exact alone thread differ
  refine ⟨turns, fun a b first second => ?_, fun thread => ?_, powered, fun rest => ?_⟩
  · by_cases here : a = tid
    · by_cases there : b = tid
      · rw [here, there]
      · exact absurd second (by simp [elsewhere b there])
    · exact absurd first (by simp [elsewhere a here])
  · by_cases same : thread = tid
    · subst same
      simpa using between
    · exact between_of_not_midway (elsewhere thread same) _
  · exact steady (by simpa using rest tid)

theorem turn_keeps (w : World Crtc Phase) (t : Turn Call) (inv : Inv w)
    (meets : Alternating w t ∧ Undisturbed w t) : Inv (turn prog w t) := by
  cases t with
  | enter tid call =>
    have turns := turns_enter inv.turns meets.1
    by_cases isIdle : w.phase tid = prog.idle
    · simp only [turn, if_pos isIdle] at turns ⊢
      exact inv.passes (by rw [isIdle]; rfl) rfl turns
    · simp only [turn, if_neg isIdle]
      exact inv
  | go tid =>
    have turns := turns_go inv.turns tid
    simp only [turn] at turns ⊢
    -- once a thread is between its sections, it is the only one
    have single (midway : (w.phase tid).midway = true) (other : Nat) (differ : other ≠ tid) :
        (w.phase other).midway = false := by
      cases theirs : (w.phase other).midway with
      | false => rfl
      | true => exact absurd (inv.single other tid theirs midway) differ
    cases phase : w.phase tid with
    | idle =>
      rw [phase] at turns
      exact inv.passes (by rw [phase]; rfl) rfl turns
    | first call =>
      have alone := meets.2
      rw [Undisturbed, phase] at alone
      rw [phase] at turns
      cases switches : call.operation.switches w.shared with
      | true =>
        rw [exec_first_switches switches] at turns ⊢
        have rest := alone (.inl switches)
        have direction (en : Bool) (vblank : call.direction = some en) :
            w.shared.vblankRequested = !en :=
          (inv.turns tid en (by rw [phase]; exact vblank)).1
        have between := between_beforePower (inv.steady rest) inv.powered switches direction
        have powered : (beforePower call.operation.enable w.shared).lastEnabled = true := by
          rw [beforePower]
          split <;> exact inv.powered
        exact Inv.moves (fun other _ => rest other) between powered
          (fun rests => by cases rests) turns
      | false =>
        rw [exec_first_unswitched switches] at turns ⊢
        by_cases same : call.operation.record w.shared = w.shared
        · rw [same] at turns ⊢
          exact inv.passes (by rw [phase]; rfl) rfl turns
        · have rest := alone (.inr same)
          have powered := (record_refs call w.shared).2.2.trans inv.powered
          exact Inv.moves (fun other _ => rest other) trivial powered
            (fun _ => steady_record (inv.steady rest) switches) turns
    | power call =>
      have between := inv.between tid
      have succeeds := meets.2
      rw [Undisturbed, phase] at succeeds
      rw [phase] at turns between
      exact Inv.moves (single (by rw [phase]; rfl)) (between_powerEnable between succeeds)
        (lastEnabled_powerEnable inv.powered succeeds) (fun rests => by cases rests) turns
    | second call ret =>
      have between := inv.between tid
      rw [phase] at turns between
      have powered : (call.operation.record
        (afterPower call.operation.enable ret w.shared)).lastEnabled = true := by
        rw [(record_refs call _).2.2, afterPower]
        split <;> exact inv.powered
      exact Inv.moves (single (by rw [phase]; rfl)) trivial powered
        (fun _ => steady_afterPower inv.powered between) turns

theorem Inv.kept (inv : Inv w) : Kept w := by
  constructor
  · by_cases rest : ∀ tid, (w.phase tid).midway = false
    · rw [(inv.steady rest).refs]
      split
      · exact Int.one_nonneg
      · exact Int.le_refl 0
    · simp only [not_forall, Bool.not_eq_false] at rest
      obtain ⟨tid, midway⟩ := rest
      have between := inv.between tid
      cases phase : w.phase tid with
      | idle | first => rw [phase] at midway; cases midway
      | power call =>
        rw [phase] at between
        rw [between.2.2]
        split
        · exact Int.le_refl 0
        · exact Int.one_nonneg
      | second call ret =>
        rw [phase] at between
        rw [between.2.2.1]
        split
        · exact Int.one_nonneg
        · exact Int.le_refl 0
  · intro quiet
    exact inv.steady fun tid => by rw [quiet tid]; rfl

theorem inv_start : Inv start where
  turns := fun tid en direction => by cases direction
  single := fun a b midway => by cases midway
  between := fun tid => trivial
  powered := rfl
  steady := fun rest => ⟨rfl, rfl⟩

/-! ## Every interleaving -/

/-- In an interleaving of calls in which vblank is switched on and off in turn, no call is disturbed
    in the middle and no power enable fails, the power reference follows the request. -/
theorem vblank_references_kept (turns : List (Turn Call))
    (alternating : StepsMeet (turn prog) Alternating start turns)
    (undisturbed : StepsMeet (turn prog) Undisturbed start turns) :
    Throughout (turn prog) Kept start turns :=
  throughout_of_meets Inv turn_keeps (fun _ inv => inv.kept) inv_start
    (alternating.and undisturbed)

theorem rests_update (rests : phase.midway = false) (tid other : Nat) :
    (Function.update (fun _ => Phase.idle) tid phase other).midway = false := by
  by_cases same : other = tid
  · subst same
    simpa using rests
  · simp [same, Phase.midway]

/-- The CRTC is enabled by one thread, and vblank is switched on by another. -/
theorem vblank_references_kept_requested :
    Throughout (turn prog) Kept start
      [.enter 0 (.enable true true), .go 0,
        .enter 1 (.vblank true true), .go 1, .go 1, .go 1] := by
  apply vblank_references_kept
  · simp [Alternating, turn, start, prog, exec, Call.direction, Call.operation, Call.ok,
      sdeCrtcEnable, sdeCrtcVblank, beforePower, powerEnable, Phase.direction, Phase.call]
  · simp [Undisturbed, turn, start, prog, exec, Call.operation, Call.ok, sdeCrtcEnable,
      sdeCrtcVblank, beforePower, powerEnable]
    exact ⟨rests_update rfl 0, rests_update rfl 1⟩

/-- The CRTC is disabled while vblank is being switched on: its reference is never given back. -/
theorem disabled_in_the_middle :
    ¬ ∀ turns, StepsMeet (turn prog) Alternating start turns →
      Throughout (turn prog) Kept start turns := by
  intro kept
  have reached := kept
    [.enter 0 (.enable true true), .go 0, .enter 1 (.vblank true true), .go 1,
      .enter 0 (.disable true), .go 0, .go 1, .go 1]
    (by simp [Alternating, turn, start, prog, exec, Call.direction, Call.operation, sdeCrtcEnable,
      sdeCrtcVblank, sdeCrtcDisable, beforePower, Phase.direction, Phase.call])
  have last := throughout_iff_prefix.mp reached _ [] (List.append_nil _).symm
  have quiet := last.quiet fun tid => by
    by_cases second : tid = 1
    · simp [second, turn, start, prog, exec, Call.operation, sdeCrtcEnable, sdeCrtcVblank,
        sdeCrtcDisable, beforePower, powerEnable]
    · simp [second, turn, start, prog, exec, Call.operation, sdeCrtcEnable, sdeCrtcVblank,
        sdeCrtcDisable, beforePower, powerEnable, Function.update_apply]
  -- one reference for a CRTC that is disabled
  exact absurd quiet.refs (by decide)

end DisplayDrivers.Vblank
