import Mathlib.Logic.Function.Basic
import Mathlib.Tactic.Common

/-! # Reference-counted objects

A store keeps objects under numbers. An object is created with one reference, `get` adds one and
`put` drops one; the last `put` destroys it.

A store is `Counted` by `held` when every object has exactly the references that `held` says are
held to it: it then exists as long as there is one.
-/

namespace DisplayDrivers.Lib.Refcounted

structure Slot (α : Type*) where
  refcount : ℕ
  value : α

abbrev Store (α : Type*) := ℕ → Option (Slot α)

namespace Store

variable {α : Type*}

def empty : Store α := fun _ => none

def refs (s : Store α) (n : ℕ) : ℕ := (s n).elim 0 Slot.refcount

def value (s : Store α) (n : ℕ) : Option α := (s n).map Slot.value

def create (s : Store α) (n : ℕ) (a : α) : Store α := Function.update s n (some ⟨1, a⟩)

def get (s : Store α) (n : ℕ) : Store α :=
  Function.update s n ((s n).map fun slot => { slot with refcount := slot.refcount + 1 })

def put (s : Store α) (n : ℕ) : Store α :=
  Function.update s n ((s n).bind fun slot =>
    if slot.refcount ≤ 1 then none else some { slot with refcount := slot.refcount - 1 })

def lastPut (s : Store α) (n : ℕ) : Option α := if s.refs n ≤ 1 then s.value n else none

def modify (s : Store α) (n : ℕ) (f : α → α) : Store α :=
  Function.update s n ((s n).map fun slot => { slot with value := f slot.value })

structure Counted (s : Store α) (held : ℕ → ℕ) : Prop where
  refs : ∀ n, s.refs n = held n
  positive : ∀ n slot, s n = some slot → 0 < slot.refcount

variable {s : Store α} {held : ℕ → ℕ} {n m : ℕ} {a : α}

theorem counted_empty : Counted (empty : Store α) fun _ => 0 :=
  ⟨fun _ => rfl, fun _ _ present => nomatch present⟩

section

variable (counted : Counted s held)

include counted

theorem Counted.congr {held' : ℕ → ℕ} (same : ∀ n, held n = held' n) : Counted s held' :=
  ⟨fun n => (counted.refs n).trans (same n), counted.positive⟩

theorem Counted.absent_iff : s n = none ↔ held n = 0 := by
  rw [← counted.refs n, Store.refs]
  cases present : s n with
  | none => simp
  | some slot =>
    have := counted.positive n slot present
    simp only [reduceCtorEq, Option.elim_some, false_iff]
    omega

theorem Counted.value_iff : s.value n = none ↔ held n = 0 := by
  rw [← counted.absent_iff, value, Option.map_eq_none_iff]

theorem Counted.update (n : ℕ) (slot : Option (Slot α))
    (positive : ∀ a, slot = some a → 0 < a.refcount) :
    Counted (Function.update s n slot) (Function.update held n (slot.elim 0 Slot.refcount)) := by
  constructor
  · intro m
    by_cases same : m = n
    · subst same
      simp [Store.refs]
    · simpa [Store.refs, same] using counted.refs m
  · intro m a
    by_cases same : m = n
    · subst same
      rw [Function.update_self]
      exact positive a
    · rw [Function.update_of_ne same]
      exact counted.positive m a

theorem Counted.create (n : ℕ) (a : α) : Counted (s.create n a) (Function.update held n 1) := by
  apply counted.update n (some ⟨1, a⟩)
  intro slot new
  rw [← Option.some.inj new]
  exact Nat.one_pos

theorem Counted.get (alive : 0 < held n) :
    Counted (s.get n) (Function.update held n (held n + 1)) := by
  obtain ⟨slot, present⟩ : ∃ slot, s n = some slot := by
    rw [← Option.ne_none_iff_exists', ne_eq, counted.absent_iff]
    omega
  have count : slot.refcount = held n := by
    rw [← counted.refs n, Store.refs, present]
    rfl
  have next := counted.update n (some { slot with refcount := slot.refcount + 1 })
    (fun a same => by rw [← Option.some.inj same]; exact Nat.succ_pos _)
  rw [Store.get, present, ← count]
  exact next

theorem Counted.put (n : ℕ) : Counted (s.put n) (Function.update held n (held n - 1)) := by
  have count := counted.refs n
  rw [Store.refs] at count
  rw [Store.put]
  cases present : s n with
  | none =>
    rw [present, Option.elim_none] at count
    rw [← count]
    exact counted.update n none fun _ none => nomatch none
  | some slot =>
    rw [present, Option.elim_some] at count
    rw [Option.bind_some, ← count]
    split
    case isTrue last =>
      have gone : slot.refcount - 1 = 0 := by omega
      rw [gone]
      exact counted.update n none fun _ none => nomatch none
    case isFalse others =>
      apply counted.update n (some { slot with refcount := slot.refcount - 1 })
      intro a same
      rw [← Option.some.inj same]
      exact Nat.sub_pos_of_lt (by omega)

theorem Counted.modify (n : ℕ) (f : α → α) : Counted (s.modify n f) held := by
  have count := counted.refs n
  rw [Store.refs] at count
  have next := counted.update n ((s n).map fun slot => { slot with value := f slot.value }) (by
      intro a same
      obtain ⟨slot, present, rfl⟩ := Option.map_eq_some_iff.mp same
      exact counted.positive n slot present)
  apply next.congr
  intro m
  by_cases same : m = n
  · subst same
    rw [Function.update_self, ← count]
    cases s m <;> rfl
  · rw [Function.update_of_ne same]

end

theorem value_create : (s.create n a).value m = if m = n then some a else s.value m := by
  by_cases same : m = n
  · subst same
    simp [value, create]
  · simp [value, create, same]

@[simp] theorem value_get : (s.get n).value m = s.value m := by
  by_cases same : m = n
  · subst same
    simp [value, get, Function.comp_def]
  · simp [value, get, same]

theorem value_modify {f : α → α} :
    (s.modify n f).value m = if m = n then (s.value m).map f else s.value m := by
  by_cases same : m = n
  · subst same
    simp [value, modify, Function.comp_def]
  · simp [value, modify, same]

theorem Counted.value_put (counted : Counted s held) :
    (s.put n).value m = if m = n ∧ held n ≤ 1 then none else s.value m := by
  by_cases same : m = n
  · subst same
    have count := counted.refs m
    rw [Store.refs] at count
    cases present : s m with
    | none => simp [value, Store.put, present]
    | some slot =>
      rw [present, Option.elim_some] at count
      simp only [value, Store.put, present, Function.update_self, Option.bind_some, true_and, count]
      split <;> rfl
  · simp [value, Store.put, same]

theorem Counted.lastPut (counted : Counted s held) :
    s.lastPut n = if held n ≤ 1 then s.value n else none := by
  rw [Store.lastPut, counted.refs]

/-! What is not there is not brought about by the operations on what is. -/

theorem get_eq_none (absent : s m = none) : s.get n m = none := by
  by_cases same : m = n
  · subst same
    simp [Store.get, absent]
  · simpa [Store.get, same] using absent

theorem put_eq_none (absent : s m = none) : s.put n m = none := by
  by_cases same : m = n
  · subst same
    simp [Store.put, absent]
  · simpa [Store.put, same] using absent

theorem modify_eq_none {f : α → α} (absent : s m = none) : s.modify n f m = none := by
  by_cases same : m = n
  · subst same
    simp [Store.modify, absent]
  · simpa [Store.modify, same] using absent

theorem put_create (free : s n = none) : (s.create n a).put n = s := by
  funext m
  by_cases same : m = n
  · subst same
    simp [Store.put, create, free]
  · simp [Store.put, create, same]

end Store

end DisplayDrivers.Lib.Refcounted
