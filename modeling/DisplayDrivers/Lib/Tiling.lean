import Mathlib.Data.BitVec
import Mathlib.Data.Set.Lattice.Image
import Mathlib.Data.Set.Pairwise.Lattice
import Mathlib.Order.CompletePartialOrder
import Mathlib.Order.Interval.Set.Disjoint

/-! # Parts that tile an interval

`Tiles used parts whole` says that the parts in use share nothing and make up the whole.
-/

namespace DisplayDrivers.Lib.Tiling

variable {ι α β : Type*}

structure Tiles (used : Set ι) (parts : ι → Set α) (whole : Set α) : Prop where
  apart : used.PairwiseDisjoint parts
  cover : ⋃ i ∈ used, parts i = whole

namespace Tiles
variable {used : Set ι} {parts : ι → Set α} {whole : Set α}

section

variable (tiles : Tiles used parts whole)

include tiles

theorem part_subset {i : ι} (at_i : i ∈ used) : parts i ⊆ whole := by
  rw [← tiles.cover]
  exact Set.subset_biUnion_of_mem at_i

theorem insert {i : ι} (outside : Disjoint (parts i) whole) :
    Tiles (insert i used) parts (parts i ∪ whole) where
  apart := by
    apply tiles.apart.insert
    intro j at_j _
    exact outside.mono_right (tiles.part_subset at_j)
  cover := by rw [Set.biUnion_insert, tiles.cover]

theorem image {f : α → β} (inj : Set.InjOn f whole) :
    Tiles used (fun i => f '' parts i) (f '' whole) where
  apart := by
    intro i at_i j at_j other
    have disjoint := Set.disjoint_iff_inter_eq_empty.mp (tiles.apart at_i at_j other)
    have meet := inj.image_inter (tiles.part_subset at_i) (tiles.part_subset at_j)
    exact Set.disjoint_iff_inter_eq_empty.mpr (by rw [← meet, disjoint, Set.image_empty])
  cover := by
    rw [← tiles.cover]
    rw [Set.image_iUnion₂]

theorem widen {more : Set ι} (wider : used ⊆ more)
    (empty : ∀ i ∈ more, i ∉ used → parts i = ∅) : Tiles more parts whole where
  apart := by
    intro i at_i j at_j other
    by_cases first : i ∈ used
    · by_cases second : j ∈ used
      · exact tiles.apart first second other
      · simp [Function.onFun, empty j at_j second]
    · simp [Function.onFun, empty i at_i first]
  cover := by
    rw [← tiles.cover]
    apply Set.Subset.antisymm
    · intro x covered
      simp only [Set.mem_iUnion] at covered ⊢
      obtain ⟨i, at_i, inside⟩ := covered
      by_cases first : i ∈ used
      · exact ⟨i, first, inside⟩
      · rw [empty i at_i first] at inside
        exact absurd inside (Set.notMem_empty x)
    · exact Set.biUnion_mono wider fun _ _ => Set.Subset.rfl

theorem congr {parts' : ι → Set α}
    (same : ∀ i ∈ used, parts' i = parts i) : Tiles used parts' whole where
  apart := by
    intro i at_i j at_j other
    simp only [Function.onFun, same i at_i, same j at_j]
    exact tiles.apart at_i at_j other
  cover := by
    rw [← tiles.cover]
    exact Set.iUnion₂_congr same

end

end Tiles

/-! ## Parts laid one after the other -/

section Offsets
variable [DecidableEq ι] (size : ι → ℕ)

def offset : List ι → ι → ℕ
  | [], _ => 0
  | first :: rest, i => if i = first then 0 else size first + offset rest i

variable {size}

theorem offset_add_le : ∀ {order : List ι} {i : ι}, i ∈ order →
    offset size order i + size i ≤ (order.map size).sum
  | first :: rest, i, listed => by
      by_cases here : i = first
      · simp [offset, here]
      · have later : i ∈ rest := (List.mem_cons.mp listed).resolve_left here
        have ih := offset_add_le later
        simp only [offset, here, if_false, List.map_cons, List.sum_cons]
        omega

theorem tiles_from {order : List ι} (once : order.Nodup) : ∀ low : ℕ,
    Tiles {i | i ∈ order}
      (fun i => Set.Ico (low + offset size order i) (low + offset size order i + size i))
      (Set.Ico low (low + (order.map size).sum)) := by
  induction order with
  | nil =>
    intro low
    exact { apart := by simp, cover := by simp }
  | cons first rest ih =>
    intro low
    obtain ⟨new, once⟩ := List.nodup_cons.mp once
    have front : low + offset size (first :: rest) first = low := by simp [offset]
    -- the later parts are those of the rest, `size first` further on
    have moved : ∀ i ∈ rest, low + offset size (first :: rest) i =
        low + size first + offset size rest i := by
      intro i later
      have other : i ≠ first := fun same => new (same ▸ later)
      simp only [offset, other, if_false]
      omega
    have tiles : Tiles {i | i ∈ rest} (fun i => Set.Ico (low + offset size (first :: rest) i)
        (low + offset size (first :: rest) i + size i))
        (Set.Ico (low + size first) (low + size first + (rest.map size).sum)) := by
      apply (ih once (low + size first)).congr
      intro i later
      simp only [moved i later]
    have both : {i | i ∈ first :: rest} = insert first {i | i ∈ rest} := by
      ext i
      simp
    have whole : Set.Ico low (low + ((first :: rest).map size).sum) =
        Set.Ico low (low + size first) ∪
          Set.Ico (low + size first) (low + size first + (rest.map size).sum) := by
      rw [Set.Ico_union_Ico_eq_Ico (by omega) (by omega), List.map_cons, List.sum_cons,
        Nat.add_assoc]
    have added := tiles.insert (i := first) (by
      rw [front]
      exact Set.Ico_disjoint_Ico_same)
    rw [both, whole]
    simpa only [front] using added

theorem tiles_offsets {order : List ι} (once : order.Nodup) :
    Tiles {i | i ∈ order} (fun i => Set.Ico (offset size order i) (offset size order i + size i))
      (Set.Ico 0 (order.map size).sum) := by
  simpa using @tiles_from ι _ size order once 0

end Offsets

/-! ## Rings of addresses -/

section Ring
variable {w : ℕ}

/-- The `n` addresses from `a` on, around the end of the address space where they reach it. -/
def span (a n : BitVec w) : Set (BitVec w) := {x | (x - a).toNat < n.toNat}

@[simp] theorem span_zero (a : BitVec w) : span a 0 = ∅ := by
  simp [span]

theorem span_eq_image (base : BitVec w) (k : ℕ) (n : BitVec w) :
    span (base + BitVec.ofNat w k) n =
      (fun i => base + BitVec.ofNat w i) '' Set.Ico k (k + n.toNat) := by
  ext x
  simp only [span, Set.mem_ofPred_eq, Set.mem_image, Set.mem_Ico]
  constructor
  · intro inside
    let d := (x - (base + BitVec.ofNat w k)).toNat
    refine ⟨k + d, ⟨by omega, by omega⟩, ?_⟩
    rw [BitVec.ofNat_add, BitVec.ofNat_toNat, BitVec.setWidth_eq, ← add_assoc]
    exact add_sub_cancel _ x
  · rintro ⟨i, ⟨low, high⟩, rfl⟩
    obtain ⟨d, rfl⟩ := Nat.exists_eq_add_of_le low
    have distance : base + BitVec.ofNat w (k + d) - (base + BitVec.ofNat w k) =
        BitVec.ofNat w d := by
      rw [BitVec.ofNat_add, ← add_assoc]
      exact add_sub_cancel_left _ _
    rw [distance, BitVec.toNat_ofNat]
    exact Nat.lt_of_le_of_lt (Nat.mod_le _ _) (by omega)

theorem injOn_ring (base : BitVec w) {total : ℕ} (fits : total ≤ 2 ^ w) :
    Set.InjOn (fun i => base + BitVec.ofNat w i) (Set.Ico 0 total) := by
  intro i at_i j at_j same
  have words : BitVec.ofNat w i = BitVec.ofNat w j := add_left_cancel same
  have numbers := congrArg BitVec.toNat words
  simp only [Set.mem_Ico] at at_i at_j
  rwa [BitVec.toNat_ofNat, BitVec.toNat_ofNat, Nat.mod_eq_of_lt (by omega),
    Nat.mod_eq_of_lt (by omega)] at numbers

variable [DecidableEq ι] {size addr : ι → BitVec w} {order : List ι} {base total : BitVec w}

/-- The parts are laid in that order from the base on, and the sizes add up without a wrap. -/
structure Laid (order : List ι) (size addr : ι → BitVec w) (base total : BitVec w) : Prop where
  once : order.Nodup
  placed : ∀ i ∈ order, addr i = base + BitVec.ofNat w (offset (fun j => (size j).toNat) order i)
  total : total.toNat = (order.map fun j => (size j).toNat).sum

theorem Laid.tiles_spans (laid : Laid order size addr base total) :
    Tiles {i | i ∈ order} (fun i => span (addr i) (size i)) (span base total) := by
  have numbers := @tiles_offsets ι _ (fun j => (size j).toNat) order laid.once
  have fits : (order.map fun j => (size j).toNat).sum ≤ 2 ^ w := by
    rw [← laid.total]
    exact Nat.le_of_lt total.isLt
  have ring := numbers.image (injOn_ring base fits)
  have whole : (fun i => base + BitVec.ofNat w i) ''
      Set.Ico 0 (order.map fun j => (size j).toNat).sum = span base total := by
    have start := span_eq_image base 0 total
    rw [laid.total, Nat.zero_add] at start
    rw [← start]
    simp
  rw [whole] at ring
  apply ring.congr
  intro i listed
  rw [laid.placed i listed, span_eq_image]

theorem Laid.tiles_numbers (laid : Laid order size addr base total)
    (within : base.toNat + total.toNat ≤ 2 ^ w) :
    Tiles {i | i ∈ order} (fun i => Set.Ico (addr i).toNat ((addr i).toNat + (size i).toNat))
      (Set.Ico base.toNat (base.toNat + total.toNat)) := by
  have numbers := @tiles_from ι _ (fun j => (size j).toNat) order laid.once base.toNat
  rw [← laid.total] at numbers
  apply numbers.congr
  intro i listed
  have reach := @offset_add_le ι _ (fun j => (size j).toNat) _ _ listed
  rw [← laid.total] at reach
  by_cases none : (size i).toNat = 0
  · simp [none]
  · have start : (addr i).toNat =
        base.toNat + offset (fun j => (size j).toNat) order i := by
      rw [laid.placed i listed, BitVec.toNat_add, BitVec.toNat_ofNat, Nat.add_mod_mod,
        Nat.mod_eq_of_lt (by omega)]
    rw [start]

end Ring

end DisplayDrivers.Lib.Tiling
