import Mathlib.Data.List.Basic
import Mathlib.Data.List.Nodup
import Mathlib.Data.List.Infix
import Mathlib.Tactic.Common

/-! # The order of arrival in a queue

A queue seen at times `0, 1, 2, …`, where from one time to the next either something at its front
leaves or one new element arrives at its end.
-/

namespace DisplayDrivers.Lib.Arrival

variable {α : Type*}

def FifoStep (before after : List α) : Prop :=
  after <:+ before ∨ ∃ a, a ∉ before ∧ after = before ++ [a]

theorem FifoStep.refl (queue : List α) : FifoStep queue queue := .inl (List.suffix_refl queue)

/-- The element came to the queue between the times `k` and `k + 1` and was there ever since, up
    to the time `now`. -/
structure ArrivedAt (queue : Nat → List α) (now : Nat) (a : α) (k : Nat) : Prop where
  before : k < now
  absent : a ∉ queue k
  stays : ∀ j, k < j → j ≤ now → a ∈ queue j

variable {queue : Nat → List α}

theorem ArrivedAt.unique {now : Nat} {a : α} {k l : Nat}
    (first : ArrivedAt queue now a k) (second : ArrivedAt queue now a l) : k = l := by
  rcases Nat.lt_trichotomy k l with less | same | greater
  · exact absurd (first.stays l less (Nat.le_of_lt second.before)) second.absent
  · exact same
  · exact absurd (second.stays k greater (Nat.le_of_lt first.before)) first.absent

theorem arrival_order (empty : queue 0 = []) (now : Nat)
    (fifo : ∀ k < now, FifoStep (queue k) (queue (k + 1))) :
    (∀ a ∈ queue now, ∃ k, ArrivedAt queue now a k) ∧
      (queue now).Pairwise fun a b =>
        ∀ k l, ArrivedAt queue now a k → ArrivedAt queue now b l → k < l := by
  induction now with
  | zero => simp [empty]
  | succ now ih =>
    obtain ⟨arrived, ordered⟩ := ih fun k less => fifo k (Nat.lt_succ_of_lt less)
    -- an element that is still there keeps its arrival time
    have later : ∀ {a k}, ArrivedAt queue now a k → a ∈ queue (now + 1) →
        ArrivedAt queue (now + 1) a k := by
      intro a k atA member
      refine ⟨Nat.lt_succ_of_lt atA.before, atA.absent, fun j after upTo => ?_⟩
      rcases Nat.lt_or_eq_of_le upTo with less | rfl
      · exact atA.stays j after (Nat.le_of_lt_succ less)
      · exact member
    have sooner : ∀ a b, a ∈ queue now → b ∈ queue now → a ∈ queue (now + 1) →
        b ∈ queue (now + 1) →
        (∀ k l, ArrivedAt queue now a k → ArrivedAt queue now b l → k < l) →
        ∀ k l, ArrivedAt queue (now + 1) a k → ArrivedAt queue (now + 1) b l → k < l := by
      intro a b hereA hereB nextA nextB less k l atA atB
      obtain ⟨k', wasA⟩ := arrived a hereA
      obtain ⟨l', wasB⟩ := arrived b hereB
      rw [atA.unique (later wasA nextA), atB.unique (later wasB nextB)]
      exact less k' l' wasA wasB
    rcases fifo now (Nat.lt_succ_self now) with suffix | ⟨a, fresh, grown⟩
    · have within : ∀ b ∈ queue (now + 1), b ∈ queue now := fun b member => suffix.subset member
      refine ⟨fun b member => ?_, ?_⟩
      · obtain ⟨k, atA⟩ := arrived b (within b member)
        exact ⟨k, later atA member⟩
      · refine (ordered.sublist suffix.sublist).imp_of_mem fun {b c} hereB hereC less => ?_
        exact sooner b c (within b hereB) (within c hereC) hereB hereC less
    · have old : ∀ b ∈ queue now, b ∈ queue (now + 1) := by
        intro b member
        rw [grown]
        exact List.mem_append_left _ member
      have new : a ∈ queue (now + 1) := by
        rw [grown]
        exact List.mem_append_right _ (List.mem_singleton_self a)
      have arrives : ArrivedAt queue (now + 1) a now := by
        refine ⟨Nat.lt_succ_self now, fresh, fun j after upTo => ?_⟩
        rwa [Nat.le_antisymm upTo after]
      refine ⟨fun b member => ?_, ?_⟩
      · rw [grown] at member
        cases List.mem_append.mp member with
        | inl wasHere =>
          obtain ⟨k, atA⟩ := arrived b wasHere
          exact ⟨k, later atA (old b wasHere)⟩
        | inr isNew => exact ⟨now, List.mem_singleton.mp isNew ▸ arrives⟩
      · rw [grown]
        refine List.pairwise_append.mpr ⟨?_, List.pairwise_singleton _ _, ?_⟩
        · refine ordered.imp_of_mem fun {b c} hereB hereC less => ?_
          exact sooner b c hereB hereC (old b hereB) (old c hereC) less
        · intro b wasHere c isNew k l atB atC
          obtain rfl := List.mem_singleton.mp isNew
          obtain ⟨k', atA⟩ := arrived b wasHere
          rw [atB.unique (later atA (old b wasHere)), atC.unique arrives]
          exact atA.before

end DisplayDrivers.Lib.Arrival
