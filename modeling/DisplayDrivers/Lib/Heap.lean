import Mathlib.Data.List.Nodup
import Mathlib.Data.List.Perm.Basic

/-! # Heaps that record misuse

A component allocates blocks and holds pointers to them, and to memory that is not its own.
-/

namespace DisplayDrivers.Lib

inductive Ptr
  | null
  /-- The block with that number. -/
  | block (n : ℕ)
  /-- Memory that the component did not allocate. -/
  | foreign
deriving DecidableEq

inductive HeapFault
  | foreignFree
  | deadFree (n : ℕ)
  | nullAccess
  | foreignAccess
  | deadAccess (n : ℕ)

/-- The number of the next block, the blocks that are live, and what went wrong so far. -/
structure Heap where
  next : ℕ
  live : ℕ → Bool
  faults : List HeapFault

namespace Heap

def empty : Heap := { next := 0, live := fun _ => false, faults := [] }

def alloc (heap : Heap) : Heap :=
  { heap with next := heap.next + 1, live := Function.update heap.live heap.next true }

def free (heap : Heap) : Ptr → Heap
  | .null => heap
  | .block n =>
    if heap.live n then { heap with live := Function.update heap.live n false }
    else { heap with faults := .deadFree n :: heap.faults }
  | .foreign => { heap with faults := .foreignFree :: heap.faults }

def access (heap : Heap) : Ptr → Heap
  | .null => { heap with faults := .nullAccess :: heap.faults }
  | .block n => if heap.live n then heap else { heap with faults := .deadAccess n :: heap.faults }
  | .foreign => { heap with faults := .foreignAccess :: heap.faults }

def accessAll (heap : Heap) (pointers : List Ptr) : Heap := pointers.foldl access heap

@[simp] theorem faults_alloc (heap : Heap) : heap.alloc.faults = heap.faults := rfl

/-! ## Holding every block once -/

structure Holds (heap : Heap) (pointers : List Ptr) : Prop where
  own : .foreign ∉ pointers
  live : ∀ n, heap.live n = true ↔ .block n ∈ pointers
  once : ∀ n, pointers.count (.block n) ≤ 1
  below : ∀ n, heap.live n = true → n < heap.next

variable {heap : Heap} {p : Ptr} {pointers rest : List Ptr}

theorem holds_empty : Holds empty [] :=
  { own := by simp, live := by simp [empty], once := by simp, below := by simp [empty] }

theorem Holds.perm (holds : Holds heap pointers) (same : pointers.Perm rest) : Holds heap rest :=
  { own := fun foreign => holds.own (same.mem_iff.mpr foreign)
    live := fun n => (holds.live n).trans same.mem_iff
    once := fun n => same.count_eq (.block n) ▸ holds.once n
    below := holds.below }

theorem holds_null_cons : Holds heap (.null :: pointers) ↔ Holds heap pointers := by
  constructor
  · intro holds
    exact
      { own := fun foreign => holds.own (.tail _ foreign)
        live := fun n => by simpa using holds.live n
        once := fun n => by simpa using holds.once n
        below := holds.below }
  · intro holds
    exact
      { own := by simpa using holds.own
        live := fun n => by simpa using holds.live n
        once := fun n => by simpa using holds.once n
        below := holds.below }

theorem Holds.alloc (holds : Holds heap pointers) :
    Holds heap.alloc (.block heap.next :: pointers) := by
  -- pointers that are held lead to numbers below the next one
  have fresh : .block heap.next ∉ pointers := by
    intro member
    exact absurd (holds.below _ ((holds.live _).mpr member)) (Nat.lt_irrefl _)
  refine { own := by simpa using holds.own, live := ?_, once := ?_, below := ?_ }
  · intro n
    by_cases new : n = heap.next
    · simp [Heap.alloc, new]
    · simp [Heap.alloc, new, holds.live]
  · intro n
    by_cases new : n = heap.next
    · simp [new, List.count_eq_zero.mpr fresh]
    · simpa [Ne.symm new] using holds.once n
  · intro n live
    by_cases new : n = heap.next
    · simp [Heap.alloc, new]
    · have old : heap.live n = true := by simpa [Heap.alloc, new] using live
      exact Nat.lt_succ_of_lt (holds.below n old)

theorem Holds.free (holds : Holds heap (p :: pointers)) :
    Holds (heap.free p) pointers ∧ (heap.free p).faults = heap.faults := by
  cases p with
  | null => exact ⟨holds_null_cons.mp holds, rfl⟩
  | foreign => exact absurd List.mem_cons_self holds.own
  | block n =>
    have live : heap.live n = true := (holds.live n).mpr List.mem_cons_self
    -- the pointer that is freed was the only one to its block
    have gone : .block n ∉ pointers := by
      have once := holds.once n
      rw [List.count_cons_self] at once
      exact List.count_eq_zero.mp (by omega)
    have freed : heap.free (.block n) =
        { heap with live := Function.update heap.live n false } := by
      simp [Heap.free, live]
    rw [freed]
    refine ⟨{ own := ?_, live := ?_, once := ?_, below := ?_ }, rfl⟩
    · exact fun foreign => holds.own (.tail _ foreign)
    · intro m
      by_cases same : m = n
      · simp [same, gone]
      · simpa [same] using holds.live m
    · intro m
      exact Nat.le_trans List.count_le_count_cons (holds.once m)
    · intro m still
      by_cases same : m = n
      · simp [same] at still
      · exact holds.below m (by simpa [same] using still)

theorem Holds.access (holds : Holds heap pointers) (held : p ∈ pointers) (some : p ≠ .null) :
    heap.access p = heap := by
  cases p with
  | null => exact absurd rfl some
  | block n => simp [Heap.access, (holds.live n).mpr held]
  | foreign => exact absurd held holds.own

theorem Holds.accessAll (holds : Holds heap pointers)
    (held : ∀ p ∈ rest, p ∈ pointers ∧ p ≠ .null) : heap.accessAll rest = heap := by
  induction rest with
  | nil => rfl
  | cons p rest ih =>
    have first := held p List.mem_cons_self
    show (heap.access p).accessAll rest = heap
    rw [holds.access first.1 first.2]
    exact ih fun q member => held q (.tail p member)

end Heap

end DisplayDrivers.Lib
