import Mathlib.Data.Set.Basic

/-! # Tables of owned items

A table says for every item who owns it, if anybody does. A client may take an item that is free or
its own (`Takeable`) and may give back what it owns.
-/

namespace DisplayDrivers.Lib.Ownership

variable {ι κ : Type*}

def Table (ι κ : Type*) := ι → Option κ

namespace Table

def Takeable (t : Table ι κ) (c : κ) (i : ι) : Prop := ∀ d, t i = some d → d = c

open Classical in
noncomputable def giveBack (t : Table ι κ) (items : Set ι) : Table ι κ :=
  fun i => if i ∈ items then none else t i

open Classical in
noncomputable def take (t : Table ι κ) (c : κ) (items : Set ι) : Table ι κ :=
  fun i => if i ∈ items then some c else t i

inductive Moves (c : κ) : Table ι κ → Table ι κ → Prop
  | refl (t : Table ι κ) : Moves c t t
  | giveBack (t : Table ι κ) (items : Set ι) (own : ∀ i ∈ items, t i = some c) :
      Moves c t (t.giveBack items)
  | take (t : Table ι κ) (items : Set ι) (takeable : ∀ i ∈ items, t.Takeable c i) :
      Moves c t (t.take c items)
  | trans {t u v : Table ι κ} (first : Moves c t u) (second : Moves c u v) : Moves c t v

variable {t t' : Table ι κ} {c d : κ} {i : ι}

theorem Moves.others (moves : Moves c t t') (other : d ≠ c) :
    t' i = some d ↔ t i = some d := by
  induction moves with
  | refl => exact Iff.rfl
  | giveBack t items own =>
    unfold Table.giveBack
    split
    next member =>
      have owned : t i = some c := own i member
      simp [owned, other.symm]
    next => exact Iff.rfl
  | take t items takeable =>
    unfold Table.take
    split
    next member =>
      constructor
      · intro same
        exact absurd (Option.some.inj same).symm other
      · intro owned
        exact absurd (takeable i member d owned) other
    next => exact Iff.rfl
  | trans _ _ ih₁ ih₂ => exact ih₂.trans ih₁

theorem Moves.takeable_iff (moves : Moves c t t') : t'.Takeable c i ↔ t.Takeable c i := by
  constructor
  · intro after d owned
    by_contra other
    exact other (after d ((moves.others other).mpr owned))
  · intro before d owned
    by_contra other
    exact other (before d ((moves.others other).mp owned))

end Table

end DisplayDrivers.Lib.Ownership
