import Mathlib.Data.Finset.Card
import Mathlib.Data.Finset.Dedup
import Mathlib.Data.List.Chain
import Mathlib.Order.Defs.LinearOrder

/-! # Lists whose equal keys stand together

In a list that is sorted by a key, the members with one key form a run.
-/

namespace DisplayDrivers.Lib.Grouped

variable {α κ : Type*} [LinearOrder κ] (key : α → κ)

def Sorted (l : List α) : Prop := l.Pairwise fun a b => key a ≤ key b

def tally (k : κ) (l : List α) : ℕ := l.countP (key · = k)

/-- No run is longer than `limit`, where `cnt` members with the key `last` have gone before. -/
def runsWithin (limit : ℕ) : Option κ → ℕ → List α → Bool
  | _, _, [] => true
  | last, cnt, a :: rest =>
    let cnt := if last = some (key a) then cnt else 0
    cnt < limit && runsWithin limit (some (key a)) (cnt + 1) rest

/-- The members with the number of their run, after one with the key `last` and the number `n`. -/
def renumber : (n : ℕ) → (last : κ) → List α → List (α × ℕ)
  | _, _, [] => []
  | n, last, a :: rest =>
    let n := if last ≠ key a then n + 1 else n
    (a, n) :: renumber n (key a) rest

def rank (l : List α) (k : κ) : ℕ := ((l.map key).toFinset.filter (· < k)).card

variable {key} {l : List α}

/-! ## Counting -/

theorem tally_cons (k : κ) (a : α) (rest : List α) :
    tally key k (a :: rest) = (if key a = k then 1 else 0) + tally key k rest := by
  rw [tally, tally, List.countP_cons, Nat.add_comm]
  simp

variable {a : α}

theorem tally_pos (member : a ∈ l) : 0 < tally key (key a) l :=
  List.countP_pos_iff.mpr ⟨a, member, by simp⟩

theorem tally_below {k : κ} (below : ∀ a ∈ l, k < key a) : tally key k l = 0 := by
  refine List.countP_eq_zero.mpr fun a member => ?_
  simpa using (below a member).ne'

theorem runsWithin_some {limit : ℕ} (sorted : Sorted key l) {last : κ}
    (after : ∀ a ∈ l, last ≤ key a) {cnt : ℕ} (start : cnt ≤ limit)
    (within : runsWithin key limit (some last) cnt l = true) :
    cnt + tally key last l ≤ limit ∧ ∀ k, k ≠ last → tally key k l ≤ limit := by
  induction l generalizing last cnt with
  | nil => exact ⟨start, fun _ _ => Nat.zero_le _⟩
  | cons a rest ih =>
    obtain ⟨next, sortedRest⟩ := List.pairwise_cons.mp sorted
    rw [runsWithin, Bool.and_eq_true, decide_eq_true_eq] at within
    obtain ⟨room, within⟩ := within
    by_cases same : last = key a
    · rw [if_pos (congrArg some same)] at room within
      obtain ⟨here, others⟩ := ih sortedRest next room within
      constructor
      · rw [tally_cons, if_pos same.symm, same]
        omega
      · intro k differs
        rw [tally_cons, if_neg (fun is_k => differs (is_k.symm.trans same.symm)), Nat.zero_add]
        exact others k (same ▸ differs)
    -- a new run begins, and the key of the one before does not come back
    · have new : some last ≠ some (key a) := fun eq => same (Option.some.inj eq)
      have below : last < key a := lt_of_le_of_ne (after a List.mem_cons_self) same
      rw [if_neg new] at room within
      obtain ⟨here, others⟩ := ih sortedRest next room within
      constructor
      · rw [tally_below]
        · exact start
        · intro b member
          cases member with
          | head => exact below
          | tail _ member => exact lt_of_lt_of_le below (next b member)
      · intro k differs
        rw [tally_cons]
        by_cases is_k : key a = k
        · rw [if_pos is_k, ← is_k]
          omega
        · rw [if_neg is_k, Nat.zero_add]
          exact others k (Ne.symm is_k)

theorem tally_le_of_runsWithin {limit : ℕ} (sorted : Sorted key l)
    (within : runsWithin key limit none 0 l = true) (k : κ) : tally key k l ≤ limit := by
  cases l with
  | nil => exact Nat.zero_le _
  | cons a rest =>
    obtain ⟨next, sortedRest⟩ := List.pairwise_cons.mp sorted
    rw [runsWithin, if_neg nofun, Bool.and_eq_true, decide_eq_true_eq] at within
    obtain ⟨here, others⟩ := runsWithin_some sortedRest next within.1 within.2
    rw [tally_cons]
    by_cases is_k : key a = k
    · rw [if_pos is_k, ← is_k]
      omega
    · rw [if_neg is_k, Nat.zero_add]
      exact others k (Ne.symm is_k)

/-! ## Neighbours -/

theorem pairwise_of_adjacent {R : α → α → Prop} (sorted : Sorted key l)
    (few : ∀ k, tally key k l ≤ 2) (adjacent : l.IsChain fun a b => key a = key b → R a b) :
    l.Pairwise fun a b => key a = key b → R a b := by
  induction l with
  | nil => exact .nil
  | cons a rest ih =>
    obtain ⟨next, sortedRest⟩ := List.pairwise_cons.mp sorted
    have fewRest : ∀ k, tally key k rest ≤ 2 := by
      intro k
      have all := few k
      rw [tally_cons] at all
      omega
    cases rest with
    | nil => exact List.pairwise_singleton _ _
    | cons b rest =>
      obtain ⟨here, adjacentRest⟩ := List.isChain_cons_cons.mp adjacent
      refine List.pairwise_cons.mpr ⟨fun c member same => ?_, ih sortedRest fewRest adjacentRest⟩
      cases member with
      | head => exact here same
      -- a member behind the neighbour makes three of the key
      | tail _ behind =>
        have at_b : key b = key a := by
          have up := next b List.mem_cons_self
          have down := (List.pairwise_cons.mp sortedRest).1 c behind
          rw [← same] at down
          exact le_antisymm down up
        have three := few (key a)
        rw [tally_cons, tally_cons, if_pos rfl, if_pos at_b, same] at three
        have third : 0 < tally key (key c) _ := tally_pos behind
        omega

/-! ## Numbering -/

section Rank

theorem rank_le (l : List α) {j k : κ} (le : j ≤ k) : rank key l j ≤ rank key l k := by
  refine Finset.card_le_card fun i member => ?_
  obtain ⟨occurs, below⟩ := Finset.mem_filter.mp member
  exact Finset.mem_filter.mpr ⟨occurs, lt_of_lt_of_le below le⟩

theorem rank_lt (member : a ∈ l) {k : κ} (lt : key a < k) : rank key l (key a) < rank key l k := by
  refine Finset.card_lt_card (Finset.ssubset_iff_of_subset ?_ |>.mpr ⟨key a, ?_, ?_⟩)
  · intro i member
    obtain ⟨occurs, below⟩ := Finset.mem_filter.mp member
    exact Finset.mem_filter.mpr ⟨occurs, lt_trans below lt⟩
  · exact Finset.mem_filter.mpr ⟨List.mem_toFinset.mpr (List.mem_map_of_mem member), lt⟩
  · exact fun member => lt_irrefl _ (Finset.mem_filter.mp member).2

theorem rank_lt_card (key : α → κ) (member : a ∈ l) :
    rank key l (key a) < (l.map key).toFinset.card := by
  have occurs : key a ∈ (l.map key).toFinset :=
    List.mem_toFinset.mpr (List.mem_map_of_mem member)
  refine Finset.card_lt_card (Finset.filter_ssubset.mpr ⟨key a, occurs, lt_irrefl _⟩)

theorem exists_rank (key : α → κ) (l : List α) {n : ℕ} (below : n < (l.map key).toFinset.card) :
    ∃ a ∈ l, rank key l (key a) = n := by
  have into : (l.map key).toFinset.image (rank key l) ⊆ Finset.range (l.map key).toFinset.card := by
    intro i member
    obtain ⟨k, occurs, rfl⟩ := Finset.mem_image.mp member
    obtain ⟨a, at_a, rfl⟩ := List.mem_map.mp (List.mem_toFinset.mp occurs)
    exact Finset.mem_range.mpr (rank_lt_card key at_a)
  have injective : Set.InjOn (rank key l) (l.map key).toFinset := by
    intro j at_j k at_k same
    obtain ⟨a, at_a, rfl⟩ := List.mem_map.mp (List.mem_toFinset.mp (Finset.mem_coe.mp at_j))
    obtain ⟨b, at_b, rfl⟩ := List.mem_map.mp (List.mem_toFinset.mp (Finset.mem_coe.mp at_k))
    obtain lt | eq | gt := lt_trichotomy (key a) (key b)
    · exact absurd same (rank_lt at_a lt).ne
    · exact eq
    · exact absurd same (rank_lt at_b gt).ne'
  -- as many ranks as keys, all below their number
  have all : (l.map key).toFinset.image (rank key l) = Finset.range (l.map key).toFinset.card := by
    refine Finset.eq_of_subset_of_card_le into ?_
    rw [Finset.card_range, Finset.card_image_of_injOn injective]
  obtain ⟨k, occurs, at_n⟩ := Finset.mem_image.mp (all ▸ Finset.mem_range.mpr below)
  obtain ⟨a, at_a, rfl⟩ := List.mem_map.mp (List.mem_toFinset.mp occurs)
  exact ⟨a, at_a, at_n⟩

theorem renumber_eq (sorted : Sorted key l) {last : κ} (after : ∀ a ∈ l, last ≤ key a) (n : ℕ) :
    renumber key n last l = l.map fun a =>
      (a, n + ((insert last (l.map key).toFinset).filter (· < key a)).card) := by
  induction l generalizing last n with
  | nil => rfl
  | cons a rest ih =>
    obtain ⟨next, sortedRest⟩ := List.pairwise_cons.mp sorted
    rw [renumber, List.map_cons, ih sortedRest next]
    by_cases same : last = key a
    · rw [if_neg (not_not.mpr same)]
      have none_below : (insert last ((a :: rest).map key).toFinset).filter (· < key a) = ∅ := by
        refine Finset.filter_eq_empty_iff.mpr fun i member => ?_
        rw [same] at member
        simp only [List.map_cons, List.toFinset_cons, Finset.insert_idem, Finset.mem_insert,
          List.mem_toFinset, List.mem_map] at member
        obtain rfl | ⟨b, at_b, rfl⟩ := member
        · exact lt_irrefl _
        · exact not_lt.mpr (next b at_b)
      rw [none_below, Finset.card_empty, Nat.add_zero, same]
      simp
    · rw [if_pos same]
      have below : last < key a := lt_of_le_of_ne (after a List.mem_cons_self) same
      have fresh : last ∉ ((a :: rest).map key).toFinset := by
        simp only [List.map_cons, List.toFinset_cons, Finset.mem_insert, List.mem_toFinset,
          List.mem_map, not_or]
        exact ⟨same, fun ⟨b, at_b, eq⟩ => absurd (next b at_b) (by rw [eq]; exact not_le.mpr below)⟩
      -- `last` itself is one key more below every key that is still to come
      have counts : ∀ k, last < k →
        ((insert last ((a :: rest).map key).toFinset).filter (· < k)).card =
          1 + (((a :: rest).map key).toFinset.filter (· < k)).card := by
        intro k lt
        rw [Finset.filter_insert, if_pos lt, Finset.card_insert_of_notMem, Nat.add_comm]
        exact fun member => fresh (Finset.mem_filter.mp member).1
      have none_below : (((a :: rest).map key).toFinset.filter (· < key a)) = ∅ := by
        refine Finset.filter_eq_empty_iff.mpr fun i member => ?_
        simp only [List.map_cons, List.toFinset_cons, Finset.mem_insert, List.mem_toFinset,
          List.mem_map] at member
        obtain rfl | ⟨b, at_b, rfl⟩ := member
        · exact lt_irrefl _
        · exact not_lt.mpr (next b at_b)
      rw [counts (key a) below, none_below, Finset.card_empty, Nat.add_zero]
      refine congrArg _ (List.map_congr_left fun b at_b => ?_)
      rw [counts (key b) (lt_of_lt_of_le below (next b at_b)), List.map_cons, List.toFinset_cons,
        Nat.add_assoc]

theorem renumber_rank {rest : List α} (sorted : Sorted key (a :: rest)) :
    renumber key 0 (key a) (a :: rest) = (a :: rest).map fun b =>
    (b, rank key (a :: rest) (key b)) := by
  have after : ∀ b ∈ a :: rest, key a ≤ key b := by
    intro b member
    cases member with
    | head => exact le_refl _
    | tail _ member => exact (List.pairwise_cons.mp sorted).1 b member
  rw [renumber_eq sorted after 0]
  simp only [List.map_cons, List.toFinset_cons, Finset.insert_idem, Nat.zero_add, rank]

end Rank

end DisplayDrivers.Lib.Grouped
