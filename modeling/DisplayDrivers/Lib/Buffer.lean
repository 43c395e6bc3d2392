import Mathlib.Data.List.Basic

/-! # Arrays of a fixed size with checked copies

A `Buffer α n` is an array of `n` elements. `copyAt` is a `memcpy` into it: it fails where the copy
would leave the array, so a write out of bounds is not a value that a model can carry on with.
-/

namespace DisplayDrivers.Lib

structure Buffer (α : Type*) (n : Nat) where
  toList : List α
  length_toList : toList.length = n

namespace Buffer

variable {α : Type*} {n : Nat}

def replicate (n : Nat) (a : α) : Buffer α n := ⟨List.replicate n a, by simp⟩

def copyAt (b : Buffer α n) (start : Nat) (source : List α) : Option (Buffer α n) :=
  if fits : start + source.length ≤ n then
    some
      { toList := b.toList.take start ++ source ++ b.toList.drop (start + source.length)
        length_toList := by
          have size := b.length_toList
          simp
          omega }
  else none

theorem copyAt_eq_none (b : Buffer α n) (start : Nat) (source : List α) :
    b.copyAt start source = none ↔ n < start + source.length := by
  simp [copyAt]

variable {source : List α} {start : Nat}

theorem copyAt_fits {b b' : Buffer α n}
    (copied : b.copyAt start source = some b') : start + source.length ≤ n := by
  by_contra exceeds
  have failed := (copyAt_eq_none b start source).mpr (by omega)
  simp [failed] at copied

theorem exists_copyAt (b : Buffer α n)
    (fits : start + source.length ≤ n) : ∃ b', b.copyAt start source = some b' := by
  simp [copyAt, fits]

theorem toList_of_copyAt {b b' : Buffer α n} (copied : b.copyAt start source = some b') :
    b'.toList = b.toList.take start ++ source ++ b.toList.drop (start + source.length) := by
  have fits := copyAt_fits copied
  simp only [copyAt, fits, dif_pos, Option.some.injEq] at copied
  rw [← copied]

theorem take_of_copyAt {b b' : Buffer α n} (copied : b.copyAt start source = some b') :
    b'.toList.take (start + source.length) = b.toList.take start ++ source := by
  have fits := copyAt_fits copied
  have size := b.length_toList
  have front : (b.toList.take start ++ source).length = start + source.length := by
    simp
    omega
  rw [toList_of_copyAt copied, ← front, List.take_left]

theorem drop_of_copyAt {b b' : Buffer α n} {i : Nat}
    (copied : b.copyAt start source = some b') (behind : start + source.length ≤ i) :
    b'.toList.drop i = b.toList.drop i := by
  have fits := copyAt_fits copied
  have size := b.length_toList
  obtain ⟨k, rfl⟩ := Nat.exists_eq_add_of_le behind
  have front : (b.toList.take start ++ source).length = start + source.length := by
    simp
    omega
  rw [toList_of_copyAt copied, ← front, List.drop_length_add_append, List.drop_drop, front]

end Buffer

end DisplayDrivers.Lib
