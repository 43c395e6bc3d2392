import Mathlib.Data.Nat.Basic
import Mathlib.Logic.Function.Basic
import Mathlib.Tactic.Common

/-! # Arrays of slots

An array with a fixed number of slots, each empty or with one item in it, that loops refill from the
front. Such a loop empties the slot it is at before it looks for the next item, and stops where
there is none.
-/

namespace DisplayDrivers.Lib.Slots

variable {α β : Type*}

abbrev SlotArray (α : Type*) := Nat → Option α

structure Holds (size : Nat) (slots : SlotArray α) (items : List α) : Prop where
  fits : items.length ≤ size
  slot : ∀ j < size, slots j = items[j]?

def occupied (size : Nat) (slots : SlotArray α) : Nat :=
  (List.range size).countP fun j => (slots j).isSome

/-! ## Filling from a list -/

def refill (slots : SlotArray α) (i : Nat) : (left : Nat) → (items : List α) → SlotArray α
  | 0, _ => slots
  | _ + 1, [] => Function.update slots i none
  | left + 1, item :: items =>
    refill (Function.update (Function.update slots i none) i (some item)) (i + 1) left items

theorem refill_apply (slots : SlotArray α) (i left : Nat) (items : List α) (j : Nat) :
    refill slots i left items j =
      if i ≤ j ∧ j < i + left ∧ j ≤ i + items.length then items[j - i]? else slots j := by
  induction left generalizing slots i items with
  | zero => rw [refill, if_neg (by omega)]
  | succ left ih =>
    cases items with
    | nil =>
      by_cases here : j = i
      · subst here
        simp [refill]
      · rw [refill, Function.update_of_ne here, if_neg]
        simp only [List.length_nil]
        omega
    | cons item items =>
      rw [refill, ih]
      by_cases here : j = i
      · subst here
        rw [if_neg (by omega), Function.update_self, if_pos ⟨by omega, by omega, by omega⟩,
          Nat.sub_self, List.getElem?_cons_zero]
      · rw [Function.update_of_ne here, Function.update_of_ne here, List.length_cons]
        by_cases inside : i + 1 ≤ j ∧ j < i + 1 + left ∧ j ≤ i + 1 + items.length
        · have shifted : j - i = j - (i + 1) + 1 := by omega
          rw [if_pos inside, if_pos (by omega), shifted, List.getElem?_cons_succ]
        · rw [if_neg inside, if_neg (by omega)]

variable {items : List α} {size : Nat}

theorem holds_refill_iff {slots : SlotArray α} : Holds size (refill slots 0 size items) items ↔
      items.length ≤ size ∧ ∀ j < size, items.length < j → slots j = none := by
  have slot : ∀ j < size, refill slots 0 size items j =
      if j ≤ items.length then items[j]? else slots j := by
    intro j inside
    rw [refill_apply, Nat.sub_zero, Nat.zero_add, Nat.zero_add]
    by_cases reached : j ≤ items.length
    · rw [if_pos ⟨Nat.zero_le j, inside, reached⟩, if_pos reached]
    · rw [if_neg fun found => reached found.2.2, if_neg reached]
  constructor
  · rintro ⟨fits, held⟩
    refine ⟨fits, fun j inside behind => ?_⟩
    have same := held j inside
    rw [slot j inside, if_neg (by omega), List.getElem?_eq_none (by omega)] at same
    exact same
  · rintro ⟨fits, clear⟩
    refine ⟨fits, fun j inside => ?_⟩
    rw [slot j inside]
    by_cases reached : j ≤ items.length
    · rw [if_pos reached]
    · rw [if_neg reached, clear j inside (by omega), List.getElem?_eq_none (by omega)]

theorem countP_flip {p q : α → Bool} {a : α} {xs : List α} (once : xs.Nodup) (listed : a ∈ xs)
    (was : p a = true) (now : q a = false) (others : ∀ b, b ≠ a → p b = q b) :
    xs.countP p = xs.countP q + 1 := by
  induction xs with
  | nil => exact nomatch listed
  | cons x rest ih =>
    obtain ⟨fresh, once⟩ := List.nodup_cons.mp once
    by_cases same : x = a
    · subst same
      have rest_same : rest.countP p = rest.countP q :=
        List.countP_congr fun b inside => by
          rw [others b fun same => fresh (same ▸ inside)]
      rw [List.countP_cons_of_pos was, List.countP_cons_of_neg (by simp [now]), rest_same]
    · have later := (List.mem_cons.mp listed).resolve_left (Ne.symm same)
      have before := ih once later
      rw [List.countP_cons, List.countP_cons, others x same]
      omega

theorem countP_range_lt (size n : Nat) :
    (List.range size).countP (fun j => decide (j < n)) = min size n := by
  induction size with
  | zero => simp
  | succ size ih =>
    rw [List.range_succ, List.countP_append, ih, List.countP_singleton]
    by_cases below : size < n
    · simp only [below, decide_true, if_true]
      omega
    · simp only [below, decide_false, Bool.false_eq_true, if_false]
      omega

theorem Holds.occupied_eq {slots : SlotArray α}
    (holds : Holds size slots items) : occupied size slots = items.length := by
  have used : ∀ j ∈ List.range size, (slots j).isSome = decide (j < items.length) := by
    intro j listed
    rw [holds.slot j (List.mem_range.mp listed), Bool.eq_iff_iff]
    simp
  rw [occupied, List.countP_congr fun j listed => by rw [used j listed], countP_range_lt]
  exact Nat.min_eq_right holds.fits

/-! ## Filling from another array -/

/-- Look every item of another array up.  An empty slot of it is passed over, the first item that
    is not found ends the loop. -/
def lookupAll (find : α → Option β) (source : SlotArray α) (slots : SlotArray β) (i : Nat) :
    (left : Nat) → SlotArray β
  | 0 => slots
  | left + 1 =>
    match source i with
    | none => lookupAll find source (Function.update slots i none) (i + 1) left
    | some item =>
      match find item with
      | none => Function.update slots i none
      | some found =>
        lookupAll find source (Function.update (Function.update slots i none) i (some found))
          (i + 1) left

/-- Every item of one array is found, and what was found for it stands in the same slot of the
    other. -/
def Paired (size : Nat) (find : α → Option β) (source : SlotArray α) (slots : SlotArray β) : Prop :=
  ∀ j < size, slots j = (source j).bind find ∧ ((source j).isSome → (slots j).isSome)

variable {find : α → Option β} {source : SlotArray α}

variable {slots : SlotArray β}

variable {i : Nat}

theorem lookupAll_empty (left : Nat) (empty : source i = none) :
    lookupAll find source slots i (left + 1) =
      lookupAll find source (Function.update slots i none) (i + 1) left := by
  simp [lookupAll, empty]

variable {item : α}

theorem lookupAll_missing (left : Nat) (at_i : source i = some item) (missing : find item = none) :
    lookupAll find source slots i (left + 1) = Function.update slots i none := by
  simp [lookupAll, at_i, missing]

theorem lookupAll_found (left : Nat) {b : β}
    (at_i : source i = some item) (found : find item = some b) :
    lookupAll find source slots i (left + 1) =
      lookupAll find source (Function.update slots i (some b)) (i + 1) left := by
  simp [lookupAll, at_i, found]

variable {j : Nat}

theorem lookupAll_below (slots : SlotArray β) (i left : Nat) (below : j < i) :
    lookupAll find source slots i left j = slots j := by
  induction left generalizing slots i with
  | zero => rfl
  | succ left ih =>
    have other : j ≠ i := by omega
    cases at_i : source i with
    | none => rw [lookupAll_empty left at_i, ih _ _ (by omega), Function.update_of_ne other]
    | some item =>
      cases found : find item with
      | none => rw [lookupAll_missing left at_i found, Function.update_of_ne other]
      | some b =>
        rw [lookupAll_found left at_i found, ih _ _ (by omega), Function.update_of_ne other]

theorem lookupAll_of_found (slots : SlotArray β) (i left : Nat)
    (found : ∀ j, i ≤ j → j < i + left → ∀ item, source j = some item → (find item).isSome)
    (from_i : i ≤ j) (to_left : j < i + left) :
    lookupAll find source slots i left j = (source j).bind find := by
  induction left generalizing slots i with
  | zero => omega
  | succ left ih =>
    have later : ∀ k, i + 1 ≤ k → k < i + 1 + left → ∀ item, source k = some item →
        (find item).isSome := fun k above below => found k (by omega) (by omega)
    cases at_i : source i with
    | none =>
      rw [lookupAll_empty left at_i]
      by_cases here : j = i
      · subst here
        rw [lookupAll_below _ _ _ (Nat.lt_succ_self j), Function.update_self, at_i,
          Option.bind_none]
      · exact ih _ _ later (by omega) (by omega)
    | some item =>
      obtain ⟨b, got⟩ := Option.isSome_iff_exists.mp (found i (Nat.le_refl i) (by omega) item at_i)
      rw [lookupAll_found left at_i got]
      by_cases here : j = i
      · subst here
        rw [lookupAll_below _ _ _ (Nat.lt_succ_self j), Function.update_self, at_i,
          Option.bind_some, got]
      · exact ih _ _ later (by omega) (by omega)

theorem found_of_lookupAll (slots : SlotArray β) (i left : Nat)
    (filled : ∀ j, i ≤ j → j < i + left → (source j).isSome →
      (lookupAll find source slots i left j).isSome)
    (from_i : i ≤ j) (to_left : j < i + left) (at_j : source j = some item) :
    (find item).isSome := by
  induction left generalizing slots i with
  | zero => omega
  | succ left ih =>
    cases at_i : source i with
    | none =>
      have other : j ≠ i := by
        rintro rfl
        simp [at_i] at at_j
      simp only [lookupAll_empty left at_i] at filled
      exact ih _ _ (fun k above below => filled k (by omega) (by omega)) (by omega) (by omega)
    | some first =>
      have here := filled i (Nat.le_refl i) (by omega) (by simp [at_i])
      cases got : find first with
      | none => simp [lookupAll_missing left at_i got] at here
      | some b =>
        by_cases same : j = i
        · subst same
          rw [at_i] at at_j
          rw [← Option.some.inj at_j, got, Option.isSome_some]
        · simp only [lookupAll_found left at_i got] at filled
          exact ih _ _ (fun k above below => filled k (by omega) (by omega)) (by omega) (by omega)

theorem paired_lookupAll_iff : Paired size find source (lookupAll find source slots 0 size) ↔
      ∀ j < size, ∀ item, source j = some item → (find item).isSome := by
  constructor
  · intro paired j inside item at_j
    refine found_of_lookupAll slots 0 size (fun k _ below => (paired k (by omega)).2)
      (Nat.zero_le j) (by omega) at_j
  · intro found j inside
    have same := lookupAll_of_found slots 0 size (fun k _ below => found k (by omega))
      (Nat.zero_le j) (by omega)
    refine ⟨same, fun used => ?_⟩
    obtain ⟨item, at_j⟩ := Option.isSome_iff_exists.mp used
    rw [same, at_j]
    exact found j inside item at_j

end DisplayDrivers.Lib.Slots
