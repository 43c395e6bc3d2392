import Mathlib.Data.List.Perm.Basic
import Mathlib.Tactic.Common

/-! # Exclusive claims on the bits of a shared mask

Each holder claims the bits of a mask of its own, and the shared mask records the bits that are
claimed.
-/

namespace DisplayDrivers.Lib.Exclusion

variable {w : ℕ}

def union (claims : List (BitVec w)) : BitVec w := claims.foldr (· ||| ·) 0#w

structure Exclusive (pending : BitVec w) (claims : List (BitVec w)) : Prop where
  disjoint : claims.Pairwise fun a b => a &&& b = 0#w
  union_eq : union claims = pending

@[simp] theorem union_nil : union ([] : List (BitVec w)) = 0#w := rfl

@[simp] theorem union_cons (m : BitVec w) (claims : List (BitVec w)) :
    union (m :: claims) = m ||| union claims := rfl

theorem or_and_eq_zero_iff {a b m : BitVec w} :
    (a ||| b) &&& m = 0#w ↔ a &&& m = 0#w ∧ b &&& m = 0#w := by
  rw [BitVec.and_comm, BitVec.and_or_distrib_left, BitVec.or_eq_zero_iff, BitVec.and_comm m,
    BitVec.and_comm m]

theorem union_and_eq_zero_iff {claims : List (BitVec w)} {m : BitVec w} :
    union claims &&& m = 0#w ↔ ∀ a ∈ claims, a &&& m = 0#w := by
  induction claims with
  | nil => simp
  | cons a claims ih => rw [union_cons, or_and_eq_zero_iff, ih, List.forall_mem_cons]

theorem union_perm {claims claims' : List (BitVec w)} (same : claims.Perm claims') :
    union claims = union claims' := by
  induction same with
  | nil => rfl
  | cons m _ ih => rw [union_cons, union_cons, ih]
  | swap a b claims =>
    simp only [union_cons]
    rw [← BitVec.or_assoc, ← BitVec.or_assoc, BitVec.or_comm a b]
  | trans _ _ ih₁ ih₂ => exact ih₁.trans ih₂

theorem and_not_of_disjoint {a m : BitVec w} (apart : a &&& m = 0#w) : a &&& ~~~m = a := by
  ext i inside
  have off : (a &&& m)[i] = false := by rw [apart, BitVec.getElem_zero]
  rw [BitVec.getElem_and] at off ⊢
  rw [BitVec.getElem_not]
  cases set : a[i] with
  | false => rfl
  | true =>
    rw [set, Bool.true_and] at off
    rw [off]
    rfl

namespace Exclusive

variable {pending m : BitVec w} {claims claims' : List (BitVec w)}

theorem empty : Exclusive 0#w ([] : List (BitVec w)) := ⟨.nil, rfl⟩

theorem perm (h : Exclusive pending claims) (same : claims.Perm claims') :
    Exclusive pending claims' where
  disjoint := (same.pairwise_iff fun {a b} apart => by rw [BitVec.and_comm, apart]).mp h.disjoint
  union_eq := (union_perm same).symm.trans h.union_eq

theorem cons (h : Exclusive pending claims) (free : pending &&& m = 0#w) :
    Exclusive (pending ||| m) (m :: claims) where
  disjoint := by
    refine List.pairwise_cons.mpr ⟨?_, h.disjoint⟩
    intro a claimed
    rw [← h.union_eq] at free
    rw [BitVec.and_comm]
    exact union_and_eq_zero_iff.mp free a claimed
  union_eq := by rw [union_cons, h.union_eq, BitVec.or_comm]

theorem tail (h : Exclusive pending (m :: claims)) : Exclusive (pending &&& ~~~m) claims where
  disjoint := (List.pairwise_cons.mp h.disjoint).2
  union_eq := by
    have apart : union claims &&& m = 0#w := by
      rw [union_and_eq_zero_iff]
      intro a claimed
      rw [BitVec.and_comm]
      exact (List.pairwise_cons.mp h.disjoint).1 a claimed
    have cleared : m &&& ~~~m = 0#w := BitVec.and_not_self m
    rw [← h.union_eq, union_cons, BitVec.and_comm, BitVec.and_or_distrib_left, BitVec.and_comm _ m,
      cleared, BitVec.zero_or, BitVec.and_comm, and_not_of_disjoint apart]

end Exclusive

/-! ## Claims of the members of a list -/

section Members

variable {α : Type*} (holds : α → Bool) (mask : α → BitVec w)

def held (members : List α) : List (BitVec w) := (members.filter holds).map mask

variable {holds mask} {members : List α} {i : ℕ} {c c' : α} {pending : BitVec w}

theorem held_append (front back : List α) :
    held holds mask (front ++ back) = held holds mask front ++ held holds mask back := by
  simp [held]

theorem held_single : held holds mask [c] = if holds c then [mask c] else [] := by
  cases held : holds c with
  | false => simp [Exclusion.held, held]
  | true => simp [Exclusion.held, held]

theorem held_perm {front back : List α} (same : front.Perm back) :
    (held holds mask front).Perm (held holds mask back) := (same.filter _).map _

theorem held_getElem (listed : members[i]? = some c) :
    (held holds mask members).Perm
      (held holds mask [c] ++ held holds mask (members.eraseIdx i)) := by
  obtain ⟨inside, rfl⟩ := List.getElem?_eq_some_iff.mp listed
  rw [← held_append]
  exact held_perm (List.getElem_cons_eraseIdx_perm inside).symm

theorem held_set (listed : members[i]? = some c) (c' : α) :
    (held holds mask (members.set i c')).Perm
      (held holds mask [c'] ++ held holds mask (members.eraseIdx i)) := by
  obtain ⟨inside, -⟩ := List.getElem?_eq_some_iff.mp listed
  rw [← held_append]
  exact held_perm (List.set_perm_cons_eraseIdx inside c')

namespace Exclusive

section

variable (h : Exclusive pending (held holds mask members))

include h

theorem keep (listed : members[i]? = some c)
    (same : holds c' = holds c) (sameMask : mask c' = mask c) :
    Exclusive pending (held holds mask (members.set i c')) := by
  refine (h.perm (held_getElem listed)).perm ?_
  have one : held holds mask [c] = held holds mask [c'] := by
    rw [held_single, held_single, same, sameMask]
  rw [one]
  exact (held_set listed c').symm

theorem take (listed : members[i]? = some c)
    (none : holds c = false) (some : holds c' = true) (free : pending &&& mask c' = 0#w) :
    Exclusive (pending ||| mask c') (held holds mask (members.set i c')) := by
  have before := h.perm (held_getElem listed)
  rw [held_single, none] at before
  have after : (held holds mask (members.set i c')).Perm
      (held holds mask [c'] ++ held holds mask (members.eraseIdx i)) := held_set listed c'
  rw [held_single, some] at after
  exact (before.cons free).perm after.symm

theorem release (listed : members[i]? = some c) (some : holds c = true) (none : holds c' = false) :
    Exclusive (pending &&& ~~~mask c) (held holds mask (members.set i c')) := by
  have before := h.perm (held_getElem listed)
  rw [held_single, some] at before
  have after : (held holds mask (members.set i c')).Perm
      (held holds mask [c'] ++ held holds mask (members.eraseIdx i)) := held_set listed c'
  rw [held_single, none] at after
  exact (Exclusive.tail before).perm after.symm

theorem join (none : holds c = false) : Exclusive pending (held holds mask (members ++ [c])) := by
  rw [held_append, held_single, none]
  simpa using h

theorem pending_eq_zero (none : ∀ c ∈ members, holds c = false) : pending = 0#w := by
  have empty : members.filter holds = [] := by
    rw [List.filter_eq_nil_iff]
    intro c member held
    exact nomatch (none c member).symm.trans held
  rw [← h.union_eq, held, empty]
  rfl

end

end Exclusive

end Members

end DisplayDrivers.Lib.Exclusion
