import DisplayDrivers.Lib.Run
import Mathlib.Logic.Function.Basic

/-! # Threads that interleave at critical sections

Any number of threads run calls on one shared state.
-/

namespace DisplayDrivers.Lib.Threads

variable {σ π κ : Type*}

structure World (σ π : Type*) where
  shared : σ
  phase : Nat → π

inductive Turn (κ : Type*)
  | enter (tid : Nat) (call : κ)
  | go (tid : Nat)

/-- A program: the phase of an idle thread, the first phase of a call, and the atomic section
    that each phase is about to execute. -/
structure Program (σ π κ : Type*) where
  idle : π
  start : κ → π
  exec : σ → π → σ × π

variable [DecidableEq π] (prog : Program σ π κ)

def turn (w : World σ π) : Turn κ → World σ π
  | .enter tid call =>
    if w.phase tid = prog.idle then
      { w with phase := Function.update w.phase tid (prog.start call) }
    else w
  | .go tid =>
    let next := prog.exec w.shared (w.phase tid)
    { shared := next.1, phase := Function.update w.phase tid next.2 }

def Quiet (w : World σ π) : Prop := ∀ tid, w.phase tid = prog.idle

variable {prog}

theorem turn_enter_shared (w : World σ π) (tid : Nat) (call : κ) :
    (turn prog w (.enter tid call)).shared = w.shared := by
  simp only [turn]
  split <;> rfl

theorem turn_go_phase_self (w : World σ π) (tid : Nat) :
    (turn prog w (.go tid)).phase tid = (prog.exec w.shared (w.phase tid)).2 := by
  simp [turn]

variable {other : Nat}

theorem turn_go_phase_other (w : World σ π) {tid : Nat} (differ : other ≠ tid) :
    (turn prog w (.go tid)).phase other = w.phase other := by
  simp [turn, differ]

theorem turn_enter_phase_of_busy (w : World σ π) (tid : Nat) (call : κ)
    (busy : w.phase other ≠ prog.idle) :
    (turn prog w (.enter tid call)).phase other = w.phase other := by
  simp only [turn]
  split
  next isIdle =>
    have differ : other ≠ tid := by
      rintro rfl
      exact busy isIdle
    simp [differ]
  next => rfl

def Turn.tid : Turn κ → Nat
  | .enter tid _ => tid
  | .go tid => tid

theorem turn_phase_other (w : World σ π) (t : Turn κ) (differ : other ≠ t.tid) :
    (turn prog w t).phase other = w.phase other := by
  cases t with
  | enter tid call =>
    have apart : other ≠ tid := differ
    simp only [turn]
    split
    next => simp [apart]
    next => rfl
  | go tid => exact turn_go_phase_other w differ

theorem run_phase_absent (w : World σ π) (turns : List (Turn κ))
    (absent : ∀ t ∈ turns, other ≠ t.tid) :
    (Run.run (turn prog) w turns).phase other = w.phase other := by
  induction turns generalizing w with
  | nil => rfl
  | cons t rest ih =>
    rw [Run.run_cons, ih _ fun t' member => absent t' (List.mem_cons_of_mem _ member),
      turn_phase_other w t (absent t List.mem_cons_self)]

end DisplayDrivers.Lib.Threads
