import DisplayDrivers.Lib.Threads
import DisplayDrivers.Fence.Safety

/-! # Concurrent callers of one fence context

The functions of `Context` cut at their critical sections.
-/

namespace DisplayDrivers.Fence.Concurrent

open DisplayDrivers.Lib.Serial DisplayDrivers.Lib.Run DisplayDrivers.Lib.Threads

inductive Phase
  | idle
  | prepareStart
  | createStart (offset : U32) (outcome : FdOutcome) (now : Int)
  | createFd (triggerValue : U32) (outcome : FdOutcome) (now : Int)
  | signalStart (ts : Int) (event : FenceEvent)
  | triggerStart (ts : Int) (error : Bool)
  | triggerTest (fc : SdeFence) (next : List SdeFence) (ts : Int) (error : Bool)
  | triggerBack (fc : SdeFence) (next : List SdeFence) (ts : Int) (error : Bool)
deriving DecidableEq

/-- The head of the second loop of `_sde_fence_trigger`, which takes no lock itself. -/
def triggerNext (localHead : List SdeFence) (ts : Int) (error : Bool) : Phase :=
  match localHead with
  | [] => .idle
  | fc :: next => .triggerTest fc next ts error

def startPhase : Call → Phase
  | .prepare => .prepareStart
  | .create offset outcome now => .createStart offset outcome now
  | .signal ts event => .signalStart ts event

def exec (t : Timeline) : Phase → Timeline × Phase
  | .idle => (t, .idle)
  | .prepareStart => (sdeFencePrepare t, .idle)
  -- `ctx->lock`: the timeline value is read, and may be old when the fence is made
  | .createStart offset outcome now => (t, .createFd (t.ctx.commitCount + offset) outcome now)
  | .createFd triggerValue outcome now =>
    let (t, fd) := sdeFenceCreateFd t triggerValue outcome
    if fd ≥ 0 then (t, .triggerStart now false) else (t, .idle)
  | .signalStart ts event =>
    match advance t.ctx event with
    | some ctx => ({ t with ctx := ctx }, .triggerStart ts (event = .signalError))
    | none => (t, .idle)
  -- `ctx->list_lock`: the whole list is taken at once
  | .triggerStart ts error =>
    if t.ctx.fenceListHead.isEmpty then (t, .idle)
    else
      ({ t with ctx := { t.ctx with fenceListHead := [] } },
        triggerNext (moveToLocal t.ctx.fenceListHead) ts error)
  -- `ctx->lock` for the test, `ctx->list_lock` for the way back: others can run in between
  | .triggerTest fc next ts error =>
    match dmaFenceIsSignaledLocked t.ctx.doneCount (fc.stamp ts error) with
    | (true, fc) => ({ t with retired := fc.put :: t.retired }, triggerNext next ts error)
    | (false, fc) => (t, .triggerBack fc next ts error)
  | .triggerBack fc next ts error =>
    ({ t with ctx := { t.ctx with fenceListHead := fc :: t.ctx.fenceListHead } },
      triggerNext next ts error)

def program : Program Timeline Phase Call where
  idle := .idle
  start := startPhase
  exec := exec

/-! ## The lost signal -/

def Due (ctx : SdeFenceContext) (f : SdeFence) : Prop :=
  ahead (w := 31) f.seqno ctx.doneCount ≤ 0

instance (ctx : SdeFenceContext) (f : SdeFence) : Decidable (Due ctx f) :=
  inferInstanceAs (Decidable (_ ≤ _))

def NoneDue (t : Timeline) : Prop := ∀ f ∈ t.ctx.fenceListHead, ¬Due t.ctx f

instance (t : Timeline) : Decidable (NoneDue t) :=
  inferInstanceAs (Decidable (∀ f ∈ t.ctx.fenceListHead, ¬Due t.ctx f))

def fresh : World Timeline Phase := { shared := {}, phase := fun _ => .idle }

/-- Thread 0 creates a fence for the commit it prepared.  Between its test of that fence and the
    return of the fence to the list, thread 1 signals the commit and finds the list empty. -/
def lostSignalTurns : List (Turn Call) :=
  [.enter 0 .prepare, .go 0,
   .enter 0 (.create 0 (.ok 3) 0), .go 0, .go 0, .go 0, .go 0,
   .enter 1 (.signal 0 .signal), .go 1, .go 1,
   .go 0]

/-- It is not true that no due fence is left when all calls have returned. -/
theorem lost_signal :
    ¬∀ turns : List (Turn Call), Quiet program (run (turn program) fresh turns) →
      NoneDue (run (turn program) fresh turns).shared := by
  intro every
  refine absurd (every lostSignalTurns ?_) (by decide)
  intro tid
  by_cases first : tid = 0
  · subst first
    decide
  · by_cases second : tid = 1
    · subst second
      decide
    · rw [run_phase_absent _ _ (by simp [lostSignalTurns, Turn.tid, first, second])]
      rfl

/-! ## When no signal is lost -/

def Phase.WillTrigger : Phase → Prop
  | .triggerStart _ _ => True
  | _ => False

def PutBackCovered (w : World Timeline Phase) : Turn Call → Prop
  | .enter _ _ => True
  | .go tid =>
    match w.phase tid with
    | .triggerBack fc _ _ _ => ¬Due w.shared.ctx fc ∨ ∃ other, (w.phase other).WillTrigger
    | _ => True

def Covered (w : World Timeline Phase) : Prop :=
  NoneDue w.shared ∨ ∃ tid, (w.phase tid).WillTrigger

theorem exec_cases (t : Timeline) (phase : Phase) :
    (exec t phase).1.ctx.fenceListHead = [] ∨ (exec t phase).2.WillTrigger ∨
      ¬phase.WillTrigger ∧ (exec t phase).1.ctx.doneCount = t.ctx.doneCount ∧
        ((exec t phase).1.ctx.fenceListHead = t.ctx.fenceListHead ∨
          ∃ fc next ts error, phase = .triggerBack fc next ts error ∧
            (exec t phase).1.ctx.fenceListHead = fc :: t.ctx.fenceListHead) := by
  cases phase with
  | idle => exact .inr (.inr ⟨id, rfl, .inl rfl⟩)
  | prepareStart => exact .inr (.inr ⟨id, rfl, .inl rfl⟩)
  | createStart offset outcome now => exact .inr (.inr ⟨id, rfl, .inl rfl⟩)
  | createFd val outcome now =>
    cases outcome with
    | noMemory => exact .inr (.inr ⟨id, rfl, .inl rfl⟩)
    | noFd code => exact .inr (.inr ⟨id, rfl, .inl rfl⟩)
    | noSyncFile => exact .inr (.inr ⟨id, rfl, .inl rfl⟩)
    | ok fd => exact .inr (.inl trivial)
  | signalStart ts event =>
    cases moved : advance t.ctx event with
    | none => exact .inr (.inr ⟨id, by simp [exec, moved], .inl (by simp [exec, moved])⟩)
    | some ctx => exact .inr (.inl (by simp [exec, moved, Phase.WillTrigger]))
  | triggerStart ts error =>
    refine .inl ?_
    rw [exec]
    split
    next empty => exact List.isEmpty_iff.mp empty
    next => rfl
  | triggerTest fc next ts error =>
    refine .inr (.inr ⟨id, ?_⟩)
    rw [exec]
    rcases dmaFenceIsSignaledLocked t.ctx.doneCount (fc.stamp ts error) with ⟨signaled, fc'⟩
    cases signaled with
    | true => exact ⟨rfl, .inl rfl⟩
    | false => exact ⟨rfl, .inl rfl⟩
  | triggerBack fc next ts error =>
    exact .inr (.inr ⟨id, rfl, .inr ⟨fc, next, ts, error, rfl, rfl⟩⟩)

variable {w : World Timeline Phase}

theorem willTrigger_enter {tid other : Nat} {call : Call} (waits : (w.phase other).WillTrigger) :
    ((turn program w (.enter tid call)).phase other).WillTrigger := by
  have busy : w.phase other ≠ program.idle := by
    intro isIdle
    rw [isIdle] at waits
    exact waits
  rw [turn_enter_phase_of_busy w tid call busy]
  exact waits

theorem covered_turn {t : Turn Call} (covered : Covered w)
    (putBack : PutBackCovered w t) : Covered (turn program w t) := by
  cases t with
  | enter tid call =>
    rcases covered with none | ⟨other, waits⟩
    · refine .inl ?_
      rw [turn_enter_shared]
      exact none
    · exact .inr ⟨other, willTrigger_enter waits⟩
  | go tid =>
    rcases exec_cases w.shared (w.phase tid) with emptied | willTrigger | ⟨notYet, still, kept⟩
    · -- the list was taken, so nothing is left on it
      refine .inl ?_
      intro f member
      have onList : f ∈ (exec w.shared (w.phase tid)).1.ctx.fenceListHead := member
      rw [emptied] at onList
      exact absurd onList List.not_mem_nil
    · refine .inr ⟨tid, ?_⟩
      rw [turn_go_phase_self]
      exact willTrigger
    -- a caller about to take the list is not the one whose turn it is
    · have persists : (∃ other, (w.phase other).WillTrigger) →
          ∃ other, ((turn program w (.go tid)).phase other).WillTrigger := by
        rintro ⟨other, waits⟩
        have differ : other ≠ tid := by
          rintro rfl
          exact notYet waits
        refine ⟨other, ?_⟩
        rw [turn_go_phase_other w differ]
        exact waits
      cases covered with
      | inl none =>
        rcases kept with same | ⟨fc, next, ts, error, atBack, grown⟩
        · refine .inl ?_
          intro f member
          have onList : f ∈ (exec w.shared (w.phase tid)).1.ctx.fenceListHead := member
          rw [same] at onList
          show ¬Due (exec w.shared (w.phase tid)).1.ctx f
          rw [Due, still]
          exact none f onList
        · rw [PutBackCovered, atBack] at putBack
          cases putBack with
          | inl early =>
            refine .inl ?_
            intro f member
            have onList : f ∈ (exec w.shared (w.phase tid)).1.ctx.fenceListHead := member
            rw [grown] at onList
            show ¬Due (exec w.shared (w.phase tid)).1.ctx f
            rw [Due, still]
            rcases List.mem_cons.mp onList with rfl | old
            · exact early
            · exact none f old
          | inr waiting => exact .inr (persists waiting)
      | inr waiting => exact .inr (persists waiting)

/-- No signal is lost in a schedule whose returns to the list are all covered: where no due fence
    is on the list at its start and no call is under way at its end, none is on the list then. -/
theorem no_lost_signal (w : World Timeline Phase) (turns : List (Turn Call))
    (none : NoneDue w.shared) (covered : StepsMeet (turn program) PutBackCovered w turns)
    (quiet : Quiet program (run (turn program) w turns)) :
    NoneDue (run (turn program) w turns).shared := by
  have last : Covered (run (turn program) w turns) :=
    run_invariant_of_meets Covered (fun _ _ => covered_turn) (.inl none) covered
  rcases last with none | ⟨tid, waits⟩
  · exact none
  · rw [quiet tid] at waits
    exact waits.elim

/-- A fence is made, and then another thread signals it. -/
def coveredTurns : List (Turn Call) :=
  [.enter 0 .prepare, .go 0,
   .enter 0 (.create 1 (.ok 3) 0), .go 0, .go 0, .go 0, .go 0, .go 0,
   .enter 1 (.signal 0 .signal), .go 1, .go 1, .go 1, .go 1]

theorem no_lost_signal_coveredTurns :
    NoneDue (run (turn program) fresh coveredTurns).shared := by
  refine no_lost_signal fresh coveredTurns (by decide) ?_ ?_
  · exact ⟨trivial, trivial, trivial, trivial, trivial, trivial, trivial, .inl (by decide),
      trivial, trivial, trivial, trivial, .inl (by decide), trivial⟩
  · intro tid
    by_cases first : tid = 0
    · subst first
      decide
    · by_cases second : tid = 1
      · subst second
        decide
      · rw [run_phase_absent _ _ (by simp [coveredTurns, Turn.tid, first, second])]
        rfl

end DisplayDrivers.Fence.Concurrent
