import Mathlib.Data.List.Basic
import Mathlib.Logic.Function.Basic
import Mathlib.Tactic.Common

/-! # Register programs

A driver programs a device by writes that replace the bits of a register that a mask selects: all of
them, or, where it reads the register back first, a field of it.
-/

namespace DisplayDrivers.Lib.RegProgram

variable {ι : Type*} {w : ℕ}

structure Write (ι : Type*) (w : ℕ) where
  reg : ι
  mask : BitVec w
  value : BitVec w

namespace Write

def all (reg : ι) (value : BitVec w) : Write ι w := ⟨reg, BitVec.allOnes w, value⟩

def setBits (reg : ι) (bits : BitVec w) : Write ι w := ⟨reg, 0, bits⟩

def clearBits (reg : ι) (bits : BitVec w) : Write ι w := ⟨reg, bits, 0⟩

def putBits (reg : ι) (bits : BitVec w) (en : Bool) : Write ι w :=
  if en then setBits reg bits else clearBits reg bits

def on (u : Write ι w) (x : BitVec w) : BitVec w := x &&& ~~~u.mask ||| u.value

end Write

abbrev Program (ι : Type*) (w : ℕ) := List (Write ι w)

def when (cond : Bool) (ws : Program ι w) : Program ι w := if cond then ws else []

def Apart (ws us : Program ι w) : Prop := ∀ u ∈ ws, ∀ v ∈ us, u.reg ≠ v.reg

theorem Apart.symm {ws us : Program ι w} (apart : Apart ws us) : Apart us ws :=
  fun u member v other => (apart v other u member).symm

variable [DecidableEq ι]

def Write.exec (u : Write ι w) (r : ι → BitVec w) : ι → BitVec w :=
  Function.update r u.reg (u.on (r u.reg))

def exec (ws : Program ι w) (r : ι → BitVec w) : ι → BitVec w := ws.foldl (fun r u => u.exec r) r

@[simp] theorem exec_nil (r : ι → BitVec w) : exec [] r = r := rfl

@[simp] theorem exec_cons (u : Write ι w) (ws : Program ι w) (r : ι → BitVec w) :
    exec (u :: ws) r = exec ws (u.exec r) := rfl

theorem exec_append (ws us : Program ι w) (r : ι → BitVec w) :
    exec (ws ++ us) r = exec us (exec ws r) := List.foldl_append

/-! ## One register -/

theorem on_on (x m v m' v' : BitVec w) :
    (x &&& ~~~m ||| v) &&& ~~~m' ||| v' = x &&& ~~~(m ||| m') ||| (v &&& ~~~m' ||| v') := by
  ext i inside
  simp only [BitVec.getElem_or, BitVec.getElem_and, BitVec.getElem_not]
  cases x[i] <;> cases m[i] <;> cases m'[i] <;> simp

theorem exec_at (ws : Program ι w) (i : ι) :
    ∃ m v, ∀ r : ι → BitVec w, exec ws r i = r i &&& ~~~m ||| v := by
  induction ws with
  | nil => exact ⟨0, 0, fun r => by simp⟩
  | cons u ws ih =>
    obtain ⟨m, v, acts⟩ := ih
    by_cases here : i = u.reg
    · subst here
      refine ⟨u.mask ||| m, u.value &&& ~~~m ||| v, fun r => ?_⟩
      rw [exec_cons, acts, Write.exec, Function.update_self, Write.on, on_on]
    · refine ⟨m, v, fun r => ?_⟩
      rw [exec_cons, acts, Write.exec, Function.update_of_ne here]

theorem exec_of_untouched {ws : Program ι w} {i : ι} (untouched : ∀ u ∈ ws, u.reg ≠ i)
    (r : ι → BitVec w) : exec ws r i = r i := by
  induction ws generalizing r with
  | nil => rfl
  | cons u ws ih =>
    obtain ⟨other, rest⟩ := List.forall_mem_cons.mp untouched
    rw [exec_cons, ih rest, Write.exec, Function.update_of_ne (Ne.symm other)]

/-! ## What the registers hold -/

def Holds (ws : Program ι w) (r : ι → BitVec w) : Prop := exec ws r = r

theorem holds_exec (ws : Program ι w) (r : ι → BitVec w) : Holds ws (exec ws r) := by
  funext i
  obtain ⟨m, v, acts⟩ := exec_at ws i
  rw [acts, acts]
  ext k inside
  simp only [BitVec.getElem_or, BitVec.getElem_and, BitVec.getElem_not]
  cases (r i)[k] <;> cases m[k] <;> simp

variable {r : ι → BitVec w}

theorem Holds.exec {ws us : Program ι w} (holds : Holds ws r)
    (apart : Apart ws us) : Holds ws (RegProgram.exec us r) := by
  funext i
  by_cases touched : ∃ u ∈ ws, u.reg = i
  · obtain ⟨u, member, rfl⟩ := touched
    obtain ⟨m, v, acts⟩ := exec_at ws u.reg
    have kept := exec_of_untouched (fun v other => (apart u member v other).symm) r
    rw [acts, kept, ← acts]
    exact congrFun holds u.reg
  · exact exec_of_untouched (fun u member here => touched ⟨u, member, here⟩) _

/-! ## Groups of registers that are programmed each under a flag -/

def selected (groups : List (Bool × Program ι w)) : Program ι w :=
  groups.flatMap fun g => when g.1 g.2

def whole (groups : List (Bool × Program ι w)) : Program ι w := groups.flatMap Prod.snd

variable {groups : List (Bool × Program ι w)}

theorem exec_selected (apart : groups.Pairwise fun g h => Apart g.2 h.2)
    (holds : ∀ g ∈ groups, g.1 = false → Holds g.2 r) :
    exec (selected groups) r = exec (whole groups) r := by
  induction groups generalizing r with
  | nil => rfl
  | cons g rest ih =>
    obtain ⟨first, later⟩ := List.pairwise_cons.mp apart
    obtain ⟨held, others⟩ := List.forall_mem_cons.mp holds
    rw [selected, whole, List.flatMap_cons, List.flatMap_cons, exec_append, exec_append]
    cases flag : g.1 with
    | true =>
      exact ih later fun h member skipped => (others h member skipped).exec (first h member).symm
    | false =>
      rw [held flag]
      exact ih later others

theorem holds_whole (r : ι → BitVec w) (apart : groups.Pairwise fun g h => Apart g.2 h.2) :
    ∀ g ∈ groups, Holds g.2 (exec (whole groups) r) := by
  induction groups generalizing r with
  | nil => exact fun g member => nomatch member
  | cons g rest ih =>
    obtain ⟨first, later⟩ := List.pairwise_cons.mp apart
    rw [whole, List.flatMap_cons, exec_append]
    refine List.forall_mem_cons.mpr ⟨?_, ih _ later⟩
    refine (holds_exec g.2 r).exec fun u member v other => ?_
    obtain ⟨h, inside, at_h⟩ := List.mem_flatMap.mp other
    exact first h inside u member v at_h

end DisplayDrivers.Lib.RegProgram
