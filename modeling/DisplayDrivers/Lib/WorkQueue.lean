import Mathlib.Data.List.Basic
import Mathlib.Data.List.Nodup
import Mathlib.Data.List.Infix
import Mathlib.Tactic.Common

/-! # The queue of a single worker

A worker executes the works of its queue one after another, in the order in which they were
queued.  A work that is pending is not queued again, so it stands in the queue at most once;
cancelling a work takes it out.
-/

namespace DisplayDrivers.Lib

structure WorkQueue (W : Type*) where
  works : List W
  once : works.Nodup

namespace WorkQueue

variable {W : Type*}

def empty : WorkQueue W := ⟨[], List.nodup_nil⟩

def Pending (q : WorkQueue W) (w : W) : Prop := w ∈ q.works

def next (q : WorkQueue W) : Option (W × WorkQueue W) :=
  match q with
  | ⟨[], _⟩ => none
  | ⟨w :: rest, once⟩ => some (w, ⟨rest, once.of_cons⟩)

variable [DecidableEq W]

instance (q : WorkQueue W) (w : W) : Decidable (q.Pending w) :=
  inferInstanceAs (Decidable (w ∈ q.works))

def queue (q : WorkQueue W) (w : W) : WorkQueue W :=
  if pending : w ∈ q.works then q
  else
    ⟨q.works ++ [w], List.nodup_append.mpr ⟨q.once, List.nodup_singleton w, by
      intro a listed b single same
      obtain rfl := List.mem_singleton.mp single
      exact pending (same ▸ listed)⟩⟩

def cancel (q : WorkQueue W) (w : W) : WorkQueue W := ⟨q.works.erase w, q.once.erase w⟩

variable {q : WorkQueue W}

@[simp] theorem pending_queue {v w : W} : (q.queue w).Pending v ↔ v = w ∨ q.Pending v := by
  unfold queue Pending
  split
  case isTrue pending =>
    constructor
    · exact .inr
    · intro either
      cases either with
      | inl same => exact same ▸ pending
      | inr listed => exact listed
  case isFalse => simp [or_comm]

@[simp] theorem pending_cancel {v w : W} : (q.cancel w).Pending v ↔ v ≠ w ∧ q.Pending v :=
  q.once.mem_erase_iff

omit [DecidableEq W] in
@[simp] theorem not_pending_empty (w : W) : ¬ (empty : WorkQueue W).Pending w := List.not_mem_nil

omit [DecidableEq W] in
theorem next_none_iff : q.next = none ↔ ∀ w, ¬ q.Pending w := by
  obtain ⟨works, once⟩ := q
  cases works with
  | nil => simp [next, Pending]
  | cons w rest =>
    simp only [next, Pending, reduceCtorEq, false_iff, not_forall, not_not]
    exact ⟨w, List.mem_cons_self⟩

variable {rest : WorkQueue W}

omit [DecidableEq W] in
theorem pending_of_next {w : W} (first : q.next = some (w, rest)) (v : W) :
    rest.Pending v ↔ v ≠ w ∧ q.Pending v := by
  obtain ⟨works, once⟩ := q
  cases works with
  | nil => simp [next] at first
  | cons head tail =>
    simp only [next, Option.some.injEq, Prod.mk.injEq] at first
    obtain ⟨rfl, rfl⟩ := first
    have fresh : head ∉ tail := (List.nodup_cons.mp once).1
    simp only [Pending, List.mem_cons]
    constructor
    · intro listed
      exact ⟨fun same => fresh (same ▸ listed), .inr listed⟩
    · intro ⟨other, listed⟩
      exact listed.resolve_left other

omit [DecidableEq W] in
theorem next_pending {w : W} (first : q.next = some (w, rest)) : q.Pending w := by
  obtain ⟨works, once⟩ := q
  cases works with
  | nil => simp [next] at first
  | cons head tail =>
    simp only [next, Option.some.injEq, Prod.mk.injEq] at first
    obtain ⟨rfl, -⟩ := first
    exact List.mem_cons_self

end WorkQueue

end DisplayDrivers.Lib
