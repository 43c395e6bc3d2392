import DisplayDrivers.Blend.Staging
import Mathlib.Data.List.Forall2

/-! # Planes in the stage configurations

The loop counts the planes of each layout and stage again, in the order in which the planes come.
Where the counts start from zero, a plane finds the number of those before it in its slot, and so a
place that nothing else is written to.
-/

namespace DisplayDrivers.Blend

open DisplayDrivers.Ctl (StageCfg)

def PState.at (layout stage : ℕ) (pstate : PState) : Bool :=
  pstate.plane.layout = layout && pstate.sdeStage = stage

structure Holds (stageCfg : ℕ → StageCfg) (place : Place) (pstate : PState) : Prop where
  layout : place.layout = pstate.plane.layout
  stage : place.stage = pstate.sdeStage
  pipe : (stageCfg place.layout).stage place.stage place.index = pstate.plane.pipe
  rect : (stageCfg place.layout).multirectIndex place.stage place.index =
    pstate.plane.multirectIndex

/-- What the loop keeps, where `done` have been entered and the layouts of `zeroed` started from
    zero. -/
structure Entering (zeroed : ℕ → Prop) (done : List PState) (mixing : Mixing) : Prop where
  counts : ∀ layout, zeroed layout → ∀ stage,
    mixing.zposCnt layout stage = done.countP (PState.at layout stage)
  holds : List.Forall₂ (Holds mixing.stageCfg) mixing.written done
  below : ∀ place ∈ mixing.written, place.index < mixing.zposCnt place.layout place.stage
  nodup : mixing.written.Nodup

def Mixing.next (mixing : Mixing) (pstate : PState) : Place :=
  ⟨pstate.plane.layout, pstate.sdeStage, mixing.zposCnt pstate.plane.layout pstate.sdeStage⟩

variable {zeroed : ℕ → Prop} {done pstates : List PState} {mixing : Mixing} {pstate held : PState}
  {place : Place}

theorem Entering.unwritten (entering : Entering zeroed done mixing)
    (written : place ∈ mixing.written) :
    place ≠ mixing.next pstate := by
  intro same
  have below := entering.below place written
  rw [same] at below
  exact lt_irrefl _ below

theorem enter_holds (mixing : Mixing) (pstate : PState) :
    Holds (mixing.enter pstate).stageCfg (mixing.next pstate) pstate := by
  refine ⟨rfl, rfl, ?_, ?_⟩
  · simp [Mixing.enter, Mixing.next, StageCfg.write]
  · simp [Mixing.enter, Mixing.next, StageCfg.write]

theorem Holds.enter (holds : Holds mixing.stageCfg place held)
    (other : place ≠ mixing.next pstate) :
    Holds (mixing.enter pstate).stageCfg place held := by
  have elsewhere : place.layout = pstate.plane.layout → ¬(place.stage = pstate.sdeStage ∧
      place.index = mixing.zposCnt pstate.plane.layout pstate.sdeStage) := by
    intro layout same
    refine other ?_
    rw [Mixing.next, ← same.2, ← same.1, ← layout]
  refine ⟨holds.layout, holds.stage, ?_, ?_⟩
  · rw [← holds.pipe, Mixing.enter]
    dsimp only
    by_cases layout : place.layout = pstate.plane.layout
    · rw [if_pos layout]
      exact if_neg (elsewhere layout)
    · rw [if_neg layout]
  · rw [← holds.rect, Mixing.enter]
    dsimp only
    by_cases layout : place.layout = pstate.plane.layout
    · rw [if_pos layout]
      exact if_neg (elsewhere layout)
    · rw [if_neg layout]

theorem Entering.enter (entering : Entering zeroed done mixing) (pstate : PState) :
    Entering zeroed (done ++ [pstate]) (mixing.enter pstate) := by
  have holds : List.Forall₂ (Holds (mixing.enter pstate).stageCfg) mixing.written done := by
    refine List.forall₂_iff_zip.mpr ⟨entering.holds.length_eq, fun {place held} member => ?_⟩
    exact ((List.forall₂_iff_zip.mp entering.holds).2 member).enter
      (entering.unwritten (List.of_mem_zip member).1)
  refine ⟨fun layout zero stage => ?_, List.rel_append holds
    (.cons (enter_holds mixing pstate) .nil),
    fun place member => ?_, List.nodup_append.mpr ⟨entering.nodup, List.nodup_singleton _, ?_⟩⟩
  · rw [List.countP_append, List.countP_singleton,
      ← entering.counts layout zero stage, Mixing.enter]
    dsimp only
    by_cases here : layout = pstate.plane.layout ∧ stage = pstate.sdeStage
    · rw [if_pos here, if_pos (by simp [PState.at, here.1, here.2]), here.1, here.2]
    · rw [if_neg here, if_neg, Nat.add_zero]
      intro at_slot
      rw [PState.at, Bool.and_eq_true, decide_eq_true_eq, decide_eq_true_eq] at at_slot
      exact here ⟨at_slot.1.symm, at_slot.2.symm⟩
  · rw [Mixing.enter] at member ⊢
    dsimp only at member ⊢
    cases List.mem_append.mp member with
    | inl before =>
      have below := entering.below place before
      split
      next same =>
        rw [same.1, same.2] at below
        omega
      next => exact below
    | inr last =>
      rw [List.mem_singleton.mp last, if_pos ⟨rfl, rfl⟩]
      exact Nat.lt_succ_self _
  -- the place is new
  · intro place before last member same
    rw [List.mem_singleton.mp member] at same
    exact entering.unwritten before same

theorem Entering.foldl (entering : Entering zeroed done mixing) (pstates : List PState) :
    Entering zeroed (done ++ pstates) (pstates.foldl Mixing.enter mixing) := by
  induction pstates generalizing done mixing with
  | nil =>
    rw [List.append_nil]
    exact entering
  | cons pstate pstates ih =>
    have all := ih (entering.enter pstate)
    rw [List.append_assoc] at all
    exact all

def Zeroed (numMixers layout : ℕ) : Prop := numMixers > maxMixersPerLayout ∨ layout = 0

theorem cleared_zeroed {α : Type} {numMixers layout : ℕ} (zero : Zeroed numMixers layout) (none : α)
    (rows : ℕ → α) : cleared numMixers none rows layout = none := if_pos zero

theorem entering_blendSetupMixer (numMixers : ℕ) (stack : ℕ → ℕ → ℕ) (old : ℕ → StageCfg)
    (pstates : List PState) :
    Entering (Zeroed numMixers) pstates (blendSetupMixer numMixers stack old pstates) := by
  have start : Entering (Zeroed numMixers) []
      ⟨cleared numMixers (fun _ => 0) stack, cleared numMixers StageCfg.none old, []⟩ := by
    refine ⟨fun layout zero stage => ?_, .nil, fun place member => ?_, List.nodup_nil⟩
    · dsimp only
      rw [cleared_zeroed zero, List.countP_nil]
    · cases member
  exact start.foldl pstates

theorem Entering.exists_held (entering : Entering zeroed done mixing)
    (written : place ∈ mixing.written) :
    ∃ held ∈ done, Holds mixing.stageCfg place held := by
  obtain ⟨i, at_i, eq⟩ := List.getElem_of_mem written
  have at_i' : i < done.length := entering.holds.length_eq ▸ at_i
  have holds := (List.forall₂_iff_get.mp entering.holds).2 i at_i at_i'
  rw [List.get_eq_getElem, eq] at holds
  exact ⟨_, List.get_mem done _, holds⟩

theorem Entering.index_lt (entering : Entering zeroed done mixing)
    (start : ∀ pstate ∈ done, zeroed pstate.plane.layout)
    (few : ∀ layout stage, done.countP (PState.at layout stage) ≤ pipesPerStage)
    (written : place ∈ mixing.written) : place.index < pipesPerStage := by
  have below := entering.below place written
  obtain ⟨held, member, holds⟩ := entering.exists_held written
  rw [entering.counts place.layout (holds.layout ▸ start held member)] at below
  exact lt_of_lt_of_le below (few place.layout place.stage)

end DisplayDrivers.Blend
