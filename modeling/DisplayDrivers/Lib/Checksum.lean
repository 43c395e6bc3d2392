import Mathlib.Data.List.Basic
import Mathlib.Tactic.Common

/-! # Checksums that lose no single change

A checksum goes through its input one bit at a time. Where a step keeps different remainders apart
under the same input, and different inputs apart at the same remainder, two inputs that differ in
one bit have different checksums.
-/

namespace DisplayDrivers.Lib.Checksum

variable {σ β : Type*} {step : σ → β → σ} {Inv : σ → Prop}

structure Separates (step : σ → β → σ) (Inv : σ → Prop) : Prop where
  keeps : ∀ s b, Inv s → Inv (step s b)
  remainder : ∀ s s' b, Inv s → Inv s' → step s b = step s' b → s = s'
  input : ∀ s b b', Inv s → step s b = step s b' → b = b'

namespace Separates

theorem foldl_keeps (separates : Separates step Inv) {s : σ} (inv : Inv s) (input : List β) :
    Inv (input.foldl step s) := by
  induction input generalizing s with
  | nil => exact inv
  | cons b rest ih => exact ih (separates.keeps s b inv)

theorem foldl_remainder (separates : Separates step Inv) {s s' : σ} (inv : Inv s) (inv' : Inv s')
    {input : List β} (same : input.foldl step s = input.foldl step s') : s = s' := by
  induction input generalizing s s' with
  | nil => exact same
  | cons b rest ih =>
    have next := ih (separates.keeps s b inv) (separates.keeps s' b inv') same
    exact separates.remainder s s' b inv inv' next

theorem foldl_input (separates : Separates step Inv) {s : σ} (inv : Inv s) {front back : List β}
    {b b' : β} (same : (front ++ b :: back).foldl step s = (front ++ b' :: back).foldl step s) :
    b = b' := by
  rw [List.foldl_append, List.foldl_append, List.foldl_cons, List.foldl_cons] at same
  have reached := separates.foldl_keeps inv front
  have next := separates.foldl_remainder (separates.keeps _ b reached)
    (separates.keeps _ b' reached) same
  exact separates.input _ b b' reached next

end Separates

end DisplayDrivers.Lib.Checksum
