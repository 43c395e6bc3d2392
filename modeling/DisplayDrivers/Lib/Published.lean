import Mathlib.Order.Basic

/-! # Totals published from shares

For each key a state holds the shares of its contributors, and the total that was last published for
them.
-/

namespace DisplayDrivers.Lib.Published

structure Board (σ κ ι α β : Type*) where
  share : σ → κ → ι → β
  published : σ → κ → α
  total : (ι → β) → α

variable {σ κ ι α β ρ : Type*} (B : Board σ κ ι α β)

structure Publishes (P : κ → Prop) (s s' : σ) : Prop where
  inside : ∀ k, P k → B.published s' k = B.total (B.share s' k)
  shares : ∀ k, ¬ P k → B.share s' k = B.share s k
  others : ∀ k, ¬ P k → B.published s' k = B.published s k

variable {B} {P Q : κ → Prop} {s s' s'' : σ}

theorem Publishes.refl (s : σ) : Publishes B (fun _ => False) s s :=
  ⟨fun _ absurd => absurd.elim, fun _ _ => rfl, fun _ _ => rfl⟩

theorem Publishes.congr (publishes : Publishes B P s s') (same : ∀ k, P k ↔ Q k) :
    Publishes B Q s s' where
  inside k this := publishes.inside k ((same k).mpr this)
  shares k out := publishes.shares k (mt (same k).mp out)
  others k out := publishes.others k (mt (same k).mp out)

theorem Publishes.trans (first : Publishes B P s s') (second : Publishes B Q s' s'') :
    Publishes B (fun k => P k ∨ Q k) s s'' where
  inside k this := by
    by_cases again : Q k
    · exact second.inside k again
    · have once := first.inside k (this.resolve_right again)
      rw [second.others k again, second.shares k again, once]
  shares k out := by
    obtain ⟨notFirst, notSecond⟩ := not_or.mp out
    rw [second.shares k notSecond, first.shares k notFirst]
  others k out := by
    obtain ⟨notFirst, notSecond⟩ := not_or.mp out
    rw [second.others k notSecond, first.others k notFirst]

theorem publishes_foldl (Good : σ → Prop) {f : σ → ρ → σ} {R : ρ → κ → Prop}
    (keeps : ∀ s r, Good s → Good (f s r))
    (each : ∀ s r, Good s → Publishes B (R r) s (f s r)) (rounds : List ρ) {s : σ}
    (good : Good s) :
    Good (rounds.foldl f s) ∧
      Publishes B (fun k => ∃ r ∈ rounds, R r k) s (rounds.foldl f s) := by
  induction rounds generalizing s with
  | nil => exact ⟨good, (Publishes.refl s).congr fun k => by simp⟩
  | cons r rest ih =>
    obtain ⟨goodAfter, later⟩ := ih (keeps s r good)
    exact ⟨goodAfter, ((each s r good).trans later).congr fun k => by simp⟩

variable (B) in
/-- What was published last for a key is the total of what was counted then. The shares have sunk
    since at most, unless the key is `shifted`, and are the same unless it is `stale` or
    `shifted`. -/
structure Tracks [Preorder β] (s : σ) (counted : κ → ι → β) (stale shifted : κ → Prop) : Prop where
  published : ∀ k, B.published s k = B.total (counted k)
  covers : ∀ k, ¬ shifted k → ∀ i, B.share s k i ≤ counted k i
  exact_of_fresh : ∀ k, ¬ stale k → ¬ shifted k → counted k = B.share s k

theorem Tracks.update [Preorder β] {counted : κ → ι → β} {stale stale' shifted shifted' : κ → Prop}
    (tracks : Tracks B s counted stale shifted) [DecidablePred P]
    (unpublished : ∀ k, B.published s' k = B.published s k)
    (lowered : ∀ k, ¬ P k → ¬ shifted' k → ¬ shifted k ∧ ∀ i, B.share s' k i ≤ B.share s k i)
    (noted : ∀ k, ¬ P k → ¬ stale' k → ¬ shifted' k → ¬ stale k ∧ B.share s' k = B.share s k)
    (publishes : Publishes B P s' s'') :
    Tracks B s'' (fun k => if P k then B.share s'' k else counted k) stale' shifted' where
  published k := by
    by_cases this : P k
    · rw [if_pos this, publishes.inside k this]
    · rw [if_neg this, publishes.others k this, unpublished k, tracks.published k]
  covers k unshifted i := by
    by_cases this : P k
    · simp [this]
    · obtain ⟨wasUnshifted, sunk⟩ := lowered k this unshifted
      simp only [if_neg this, publishes.shares k this]
      exact (sunk i).trans (tracks.covers k wasUnshifted i)
  exact_of_fresh k fresh unshifted := by
    by_cases this : P k
    · rw [if_pos this]
    · obtain ⟨wasFresh, same⟩ := noted k this fresh unshifted
      have wasUnshifted := (lowered k this unshifted).1
      rw [if_neg this, publishes.shares k this, same,
        tracks.exact_of_fresh k wasFresh wasUnshifted]

theorem Tracks.idle [Preorder β] {counted : κ → ι → β} {stale shifted shifted' : κ → Prop}
    (tracks : Tracks B s counted stale shifted)
    (published : ∀ k, B.published s' k = B.published s k)
    (share : ∀ k, ¬ shifted' k → ¬ shifted k ∧ B.share s' k = B.share s k) :
    Tracks B s' counted stale shifted' where
  published k := (published k).trans (tracks.published k)
  covers k unshifted i := by
    obtain ⟨wasUnshifted, same⟩ := share k unshifted
    exact same.symm ▸ tracks.covers k wasUnshifted i
  exact_of_fresh k fresh unshifted := by
    obtain ⟨wasUnshifted, same⟩ := share k unshifted
    exact (tracks.exact_of_fresh k fresh wasUnshifted).trans same.symm

end DisplayDrivers.Lib.Published
