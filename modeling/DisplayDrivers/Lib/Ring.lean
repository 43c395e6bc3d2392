import Mathlib.Data.List.Basic
import Mathlib.Logic.Function.Basic

/-! # A ring that keeps the end of a history

The entry `k` of a history is written into slot `k % c`. `Retains` says what is still there: the
last `c` entries, and in the slots that were never written what they held at first.
-/

namespace DisplayDrivers.Lib.Ring

variable {α : Type*} {c : ℕ} {initial : α} {slots : ℕ → α} {history : List α}

def Keeps (c : ℕ) (slots : ℕ → α) (history : List α) : Prop :=
  ∀ k (inside : k < history.length), history.length ≤ k + c → slots (k % c) = history[k]

structure Retains (c : ℕ) (initial : α) (slots : ℕ → α) (history : List α) : Prop where
  kept : ∀ k (inside : k < history.length), history.length ≤ k + c → slots (k % c) = history[k]
  unwritten : ∀ j, history.length ≤ j → j < c → slots j = initial

theorem retains_nil (c : ℕ) (initial : α) : Retains c initial (fun _ => initial) [] :=
  ⟨fun _ inside => absurd inside (Nat.not_lt_zero _), fun _ _ _ => rfl⟩

theorem mod_ne_of_near {j k : ℕ} (before : j < k) (near : k < j + c) : j % c ≠ k % c := by
  intro same
  have gap : (k - j) % c = 0 := Nat.sub_mod_eq_zero_of_mod_eq same.symm
  rw [Nat.mod_eq_of_lt (by omega)] at gap
  omega

theorem Keeps.push (keeps : Keeps c slots history) (entry : α) :
    Keeps c (Function.update slots (history.length % c) entry) (history ++ [entry]) := by
  intro k inside near
  rw [List.length_append, List.length_singleton] at inside near
  by_cases last : k = history.length
  · subst last
    rw [Function.update_self, List.getElem_concat_length rfl]
  · have earlier : k < history.length := by omega
    rw [Function.update_of_ne (mod_ne_of_near earlier (by omega)), List.getElem_append_left earlier]
    exact keeps k earlier (by omega)

theorem Retains.push (retains : Retains c initial slots history) (entry : α) :
    Retains c initial (Function.update slots (history.length % c) entry) (history ++ [entry]) := by
  have keeps : Keeps c slots history := retains.kept
  refine ⟨keeps.push entry, fun j behind below => ?_⟩
  rw [List.length_append, List.length_singleton] at behind
  have other : j ≠ history.length % c := by
    rw [Nat.mod_eq_of_lt (by omega)]
    omega
  rw [Function.update_of_ne other]
  exact retains.unwritten j (by omega) below

end DisplayDrivers.Lib.Ring
