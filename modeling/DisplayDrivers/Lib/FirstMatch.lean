import Mathlib.Data.List.Nodup
import Mathlib.Tactic.Common

/-! # The first match of a list

A loop that changes the first member it looks for and stops.
-/

namespace DisplayDrivers.Lib.FirstMatch

variable {α β : Type*}

def modifyFirst (p : α → Bool) (f : α → α) : List α → List α
  | [] => []
  | a :: as => if p a then f a :: as else a :: modifyFirst p f as

variable {p : α → Bool} {f : α → α} {l : List α}

theorem mem_modifyFirst {b : α} (member : b ∈ modifyFirst p f l) :
    b ∈ l ∨ ∃ a ∈ l, p a = true ∧ b = f a := by
  induction l with
  | nil => exact .inl member
  | cons a as ih =>
    rw [modifyFirst] at member
    by_cases here : p a = true
    · rw [if_pos here] at member
      cases member with
      | head => exact .inr ⟨a, List.mem_cons_self, here, rfl⟩
      | tail _ later => exact .inl (.tail a later)
    · rw [if_neg here] at member
      cases member with
      | head => exact .inl List.mem_cons_self
      | tail _ later =>
        obtain before | ⟨found, at_found, accepts, rfl⟩ := ih later
        · exact .inl (.tail a before)
        · exact .inr ⟨found, .tail a at_found, accepts, rfl⟩

theorem filterMap_modifyFirst {g : α → Option β} (keeps : ∀ a, g (f a) = g a) :
    (modifyFirst p f l).filterMap g = l.filterMap g := by
  induction l with
  | nil => rfl
  | cons a as ih =>
    rw [modifyFirst]
    split
    · rw [List.filterMap_cons, List.filterMap_cons, keeps]
    · rw [List.filterMap_cons, List.filterMap_cons, ih]

theorem map_modifyFirst {g : α → β} (keeps : ∀ a, g (f a) = g a) :
    (modifyFirst p f l).map g = l.map g := by
  induction l with
  | nil => rfl
  | cons a as ih =>
    rw [modifyFirst]
    split
    · rw [List.map_cons, List.map_cons, keeps]
    · rw [List.map_cons, List.map_cons, ih]

theorem nodup_modifyFirst {g : α → β} (distinct : (l.map g).Nodup)
    (fresh : ∀ a ∈ l, p a = true → g (f a) ∉ l.map g) : ((modifyFirst p f l).map g).Nodup := by
  induction l with
  | nil => exact .nil
  | cons a as ih =>
    rw [List.map_cons, List.nodup_cons] at distinct
    rw [modifyFirst]
    by_cases here : p a = true
    · rw [if_pos here, List.map_cons, List.nodup_cons]
      have new := fresh a List.mem_cons_self here
      rw [List.map_cons, List.mem_cons, not_or] at new
      exact ⟨new.2, distinct.2⟩
    · rw [if_neg here, List.map_cons, List.nodup_cons]
      have freshRest : ∀ b ∈ as, p b = true → g (f b) ∉ as.map g ∧ g (f b) ≠ g a := by
        intro b later accepts
        have new := fresh b (.tail a later) accepts
        rw [List.map_cons, List.mem_cons, not_or] at new
        exact ⟨new.2, new.1⟩
      refine ⟨fun occurs => ?_, ih distinct.2 fun b later accepts => (freshRest b later accepts).1⟩
      obtain ⟨c, member, same⟩ := List.mem_map.mp occurs
      obtain before | ⟨found, at_found, accepts, rfl⟩ := mem_modifyFirst member
      · exact distinct.1 (same ▸ List.mem_map_of_mem before)
      · exact (freshRest found at_found accepts).2 same

end DisplayDrivers.Lib.FirstMatch
