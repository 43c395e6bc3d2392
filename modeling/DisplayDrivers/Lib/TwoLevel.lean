import Mathlib.Tactic.Common

/-! # Masks in two levels

A group of flags has a mask of its own, and a summary word has one bit for every group. The summary
is right (`Summarised`) when the bit of a group is set exactly where its mask is not zero, so that a
reader of the summary misses no group. The operations that keep it are a store that sets the bit by
the new mask, the union of two pairs and a change of a bit that belongs to no group; a store that
leaves the summary alone keeps it only where the mask does not change between zero and non-zero.
-/

namespace DisplayDrivers.Lib.TwoLevel

variable {γ : Type*} {w : ℕ}

structure Masks (γ : Type*) (w : ℕ) where
  summary : BitVec w
  group : γ → BitVec w

def setBit (m : BitVec w) (i : ℕ) (on : Bool) : BitVec w :=
  if on then m ||| BitVec.twoPow w i else m &&& ~~~BitVec.twoPow w i

variable {i : ℕ}

theorem getLsbD_setBit (m : BitVec w) (on : Bool) (inside : i < w) (j : ℕ) :
    (setBit m i on).getLsbD j = if j = i then on else m.getLsbD j := by
  cases on with
  | true =>
    rw [setBit, if_pos rfl, BitVec.getLsbD_or, BitVec.getLsbD_twoPow]
    by_cases same : j = i
    · simp [same, inside]
    · have apart : ¬i = j := fun back => same back.symm
      simp [same, apart]
  | false =>
    rw [setBit, if_neg (by simp), BitVec.getLsbD_and, BitVec.getLsbD_not, BitVec.getLsbD_twoPow]
    by_cases same : j = i
    · simp [same, inside]
    · by_cases below : j < w
      · have apart : ¬i = j := fun back => same back.symm
        simp [same, apart, below]
      · rw [BitVec.getLsbD_of_ge m j (Nat.not_lt.mp below)]
        simp [same]

def Shows (idx : γ → ℕ) (m : Masks γ w) (g : γ) : Prop :=
  m.summary.getLsbD (idx g) = true ↔ m.group g ≠ 0#w

def Summarised (idx : γ → ℕ) (m : Masks γ w) : Prop := ∀ g, Shows idx m g

/-! ## Operations -/

namespace Masks

def empty : Masks γ w := { summary := 0#w, group := fun _ => 0#w }

def union (m n : Masks γ w) : Masks γ w :=
  { summary := m.summary ||| n.summary, group := fun g => m.group g ||| n.group g }

def mark (m : Masks γ w) (i : ℕ) (on : Bool) : Masks γ w :=
  { m with summary := setBit m.summary i on }

variable [DecidableEq γ]

def setGroup (m : Masks γ w) (g : γ) (mask : BitVec w) : Masks γ w :=
  { m with group := fun other => if other = g then mask else m.group other }

@[simp] theorem setGroup_self (m : Masks γ w) (g : γ) (mask : BitVec w) :
    (m.setGroup g mask).group g = mask := if_pos rfl

@[simp] theorem setGroup_other (m : Masks γ w) {g other : γ} (mask : BitVec w) (apart : other ≠ g) :
    (m.setGroup g mask).group other = m.group other := if_neg apart

structure Le (m n : Masks γ w) : Prop where
  summary : ∀ i, m.summary.getLsbD i = true → n.summary.getLsbD i = true
  group : ∀ g i, (m.group g).getLsbD i = true → (n.group g).getLsbD i = true

end Masks

section Order

variable {m n k : Masks γ w}

theorem le_refl (m : Masks γ w) : m.Le m := ⟨fun _ set => set, fun _ _ set => set⟩

theorem le_trans (first : m.Le n) (second : n.Le k) : m.Le k :=
  ⟨fun i set => second.summary i (first.summary i set),
    fun g i set => second.group g i (first.group g i set)⟩

theorem le_union_left (m n : Masks γ w) : m.Le (m.union n) :=
  ⟨fun i set => by simp [Masks.union, set], fun g i set => by simp [Masks.union, set]⟩

theorem le_setBit (m : BitVec w) (inside : i < w) (j : ℕ) (set : m.getLsbD j = true) :
    (setBit m i true).getLsbD j = true := by
  rw [getLsbD_setBit m true inside]
  split
  · rfl
  · exact set

theorem le_setGroup_mark [DecidableEq γ] (m : Masks γ w) (g : γ) {bit : ℕ} (inside : i < w)
    (idx_lt : bit < w) :
    m.Le ((m.setGroup g (setBit (m.group g) i true)).mark bit true) where
  summary := le_setBit m.summary idx_lt
  group other j set := by
    change ((m.setGroup g _).group other).getLsbD j = true
    by_cases same : other = g
    · subst same
      rw [Masks.setGroup_self]
      exact le_setBit _ inside j set
    · rwa [Masks.setGroup_other m _ same]

end Order

section Operations

variable {idx : γ → ℕ} {m n : Masks γ w}

theorem summarised_empty : Summarised idx (Masks.empty : Masks γ w) := by
  intro g
  simp [Shows, Masks.empty]

theorem Summarised.union (ours : Summarised idx m) (theirs : Summarised idx n) :
    Summarised idx (m.union n) := by
  intro g
  have our : m.summary.getLsbD (idx g) = true ↔ m.group g ≠ 0#w := ours g
  have their : n.summary.getLsbD (idx g) = true ↔ n.group g ≠ 0#w := theirs g
  rw [Shows, Masks.union, BitVec.getLsbD_or, Bool.or_eq_true, our, their, ne_eq, ne_eq, ne_eq,
    BitVec.or_eq_zero_iff, not_and_or]

theorem Summarised.mark (right : Summarised idx m) (inside : i < w)
    (outside : ∀ g, idx g ≠ i) (on : Bool) : Summarised idx (m.mark i on) := by
  intro g
  rw [Shows, Masks.mark, getLsbD_setBit _ on inside, if_neg (outside g)]
  exact right g

variable {g : γ}

theorem shows_mark_other (separate : ∀ g g', idx g = idx g' → g = g') {other : γ}
    (inside : idx g < w) (on : Bool) (apart : other ≠ g) :
    Shows idx (m.mark (idx g) on) other ↔ Shows idx m other := by
  rw [Shows, Masks.mark, getLsbD_setBit _ on inside,
    if_neg fun same => apart (separate other g same)]
  exact Iff.rfl

theorem shows_mark (inside : idx g < w) (on : Bool) :
    Shows idx (m.mark (idx g) on) g ↔ (on = true ↔ m.group g ≠ 0#w) := by
  rw [Shows, Masks.mark, getLsbD_setBit _ on inside, if_pos rfl]

variable [DecidableEq γ]

theorem shows_setGroup_other {other : γ} (mask : BitVec w) (apart : other ≠ g) :
    Shows idx (m.setGroup g mask) other ↔ Shows idx m other := by
  rw [Shows, Masks.setGroup_other m mask apart]
  exact Iff.rfl

theorem Summarised.store (right : Summarised idx m)
    (separate : ∀ g g', idx g = idx g' → g = g') (inside : idx g < w) (mask : BitVec w) :
    Summarised idx ((m.setGroup g mask).mark (idx g) (mask != 0#w)) := by
  intro other
  by_cases this_one : other = g
  · subst this_one
    rw [shows_mark inside, Masks.setGroup_self, bne_iff_ne]
  · rw [shows_mark_other separate inside _ this_one, shows_setGroup_other mask this_one]
    exact right other

theorem shows_force (separate : ∀ g g', idx g = idx g' → g = g') (inside : idx g < w)
    (mask : BitVec w) (other : γ) :
    Shows idx ((m.setGroup g mask).mark (idx g) true) other ↔
      if other = g then mask ≠ 0#w else Shows idx m other := by
  by_cases this_one : other = g
  · subst this_one
    rw [shows_mark inside, Masks.setGroup_self, if_pos rfl]
    simp
  · rw [shows_mark_other separate inside _ this_one, shows_setGroup_other mask this_one,
      if_neg this_one]

theorem shows_setGroup (mask : BitVec w) (g other : γ) :
    Shows idx (m.setGroup g mask) other ↔
      if other = g then (m.summary.getLsbD (idx g) = true ↔ mask ≠ 0#w) else Shows idx m other := by
  by_cases this_one : other = g
  · subst this_one
    rw [Shows, Masks.setGroup_self, if_pos rfl]
    exact Iff.rfl
  · rw [shows_setGroup_other mask this_one, if_neg this_one]

end Operations

end DisplayDrivers.Lib.TwoLevel
