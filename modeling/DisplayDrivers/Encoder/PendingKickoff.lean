import DisplayDrivers.Encoder.CombinedFlush
import DisplayDrivers.Encoder.PhysCmd
import DisplayDrivers.Lib.Run
import Mathlib.Logic.Function.Iterate

/-! # Pending kickoffs drain

A kickoff raises `pending_kickoff_cnt` of every enabled physical encoder.
-/

namespace DisplayDrivers.Encoder.Kickoff

open DisplayDrivers.Lib.Run

def Enc.raises (e : Enc) (i : ℕ) (phys : Phys) : Bool :=
  phys.hwPp && phys.splitRole ≠ .skip &&
    ((kickoffPhys e).2.any (fun t => t.phys = i && !t.combined) ||
      phys.leaves && (kickoffPhys e).2.any fun t => t.combined)

structure Sys where
  enc : Enc
  owed : ℕ → ℕ

inductive Input
  | kickoff (affectedDisplays : ℕ) (ctls : CtlFlushes)
  | ppDone (i : ℕ)

def Sys.frame (s : Sys) (affectedDisplays : ℕ) (ctls : CtlFlushes) : Enc :=
  updateMaster affectedDisplays { s.enc with ctls := ctls }

def Sys.step (s : Sys) : Input → Sys
  | .kickoff affectedDisplays ctls =>
    let e := s.frame affectedDisplays ctls
    { enc := (kickoffPhys e).1
      owed := fun i => s.owed i + if (e.physEncs[i]?).any (e.raises i) then 1 else 0 }
  | .ppDone i =>
    match s.enc.physEncs[i]? with
    | none => s
    | some phys =>
      if s.owed i = 0 then s
      else
        { enc := s.enc.setPhys i (ppTxDoneIrq phys).1
          owed := Function.update s.owed i (s.owed i - 1) }

def Sys.init (e : Enc) : Sys := ⟨{ e with physEncs := e.physEncs.map Phys.cmdInit }, fun _ => 0⟩

def Sys.delivered (s : Sys) (i : ℕ) (phys : Phys) : Phys :=
  (fun phys => (ppTxDoneIrq phys).1)^[s.owed i] phys

def Drains (s : Sys) : Prop :=
  ∀ i phys, s.enc.physEncs[i]? = some phys →
    (s.delivered i phys).pendingKickoffCnt = 0 ∧
      ∀ env, (waitForIdle env (s.delivered i phys)).2.2 ≠ etimedout

structure Phys.Served (combines : Bool) (phys : Phys) : Prop where
  ctl : phys.hwCtl.isSome = true
  pp : phys.hwPp = true
  role : phys.splitRole ≠ .skip
  flush : phys.needsSingleFlush = true → combines = true

def AllServed (s : Sys) : Input → Prop
  | .kickoff affectedDisplays ctls =>
    ∀ phys ∈ (s.frame affectedDisplays ctls).physEncs, phys.enabled = true →
      phys.Served (s.frame affectedDisplays ctls).combines
  | .ppDone _ => True

/-! ## What the counts depend on -/

structure Count where
  pending : ℕ
  hwPp : Bool
  enabled : Bool

def Phys.count (phys : Phys) : Count := ⟨phys.pendingKickoffCnt, phys.hwPp, phys.enabled⟩

def Count.raise (c : Count) : Count := { c with pending := c.pending + if c.enabled then 1 else 0 }

def Enc.counts (e : Enc) : List Count := e.physEncs.map Phys.count

theorem count_setBusy (phys : Phys) : phys.setBusy.count = phys.count := by
  rw [Phys.setBusy]
  split <;> rfl

theorem count_countRetire (phys : Phys) : phys.countRetire.count = phys.count := by
  rw [Phys.countRetire]
  split <;> rfl

theorem count_visited (phys : Phys) : phys.visited.count = phys.count := by
  rw [Phys.visited]
  split_ifs
  · rw [count_countRetire, count_setBusy]
  · exact count_setBusy phys
  · rfl

theorem count_raised (phys : Phys) : phys.raised.count = phys.count.raise := by
  rw [Phys.raised]
  cases enabled : phys.enabled with
  | true =>
    have raised : phys.incPending.enabled = true := enabled
    simp only [Phys.count, Count.raise, enabled, raised, if_true]
    rfl
  | false => simp [Phys.count, Count.raise, enabled]

theorem counts_kickoffPhys (e : Enc) : (kickoffPhys e).1.counts = e.counts.map Count.raise := by
  rw [Enc.counts, map_kickoffPhys count_countRetire, Enc.counts, List.map_map]
  refine List.map_congr_left fun phys _ => ?_
  rw [count_raised, count_visited]
  rfl

theorem counts_assignRoles (affectedDisplays numActivePhys i : ℕ) (master : Option ℕ)
    (physEncs : List Phys) :
    (assignRoles affectedDisplays numActivePhys i master physEncs).1.map Phys.count =
      physEncs.map Phys.count := by
  induction physEncs generalizing i master with
  | nil => rfl
  | cons phys physEncs ih =>
    rw [assignRoles]
    split
    · rw [List.map_cons, List.map_cons, ih]
    · rw [List.map_cons, List.map_cons, ih]
      rfl

theorem counts_swapIntf (affectedDisplays numActivePhys : ℕ) (e : Enc) :
    (swapIntf affectedDisplays numActivePhys e).1.counts = e.counts := by
  rw [swapIntf]
  cases e.curMaster.bind fun m => e.physEncs[m]? with
  | none => rfl
  | some master =>
    dsimp only
    split
    · rfl
    · dsimp only
      split
      · rfl
      · split
        next left right others physEncs =>
          rw [Enc.counts, Enc.counts, physEncs]
          rfl
        next => rfl

theorem counts_updateMaster (affectedDisplays : ℕ) (e : Enc) :
    (updateMaster affectedDisplays e).counts = e.counts := by
  rw [updateMaster]
  split
  · rfl
  · exact (counts_assignRoles _ _ _ _ _).trans (counts_swapIntf _ _ e)

theorem counts_frame (s : Sys) (affectedDisplays : ℕ) (ctls : CtlFlushes) :
    (s.frame affectedDisplays ctls).counts = s.enc.counts :=
  counts_updateMaster affectedDisplays _

/-! ## Who raises an interrupt -/

section Raises

variable {e : Enc} {i : ℕ} {phys : Phys}

theorem any_own (here : e.physEncs[i]? = some phys) :
    (kickoffPhys e).2.any (fun t => t.phys = i && !t.combined) = phys.flushesOwn := by
  have count := count_kickoff (e := e) i
  rw [here, Option.any_some] at count
  cases own : phys.flushesOwn with
  | true =>
    rw [own, if_pos rfl] at count
    have some_own : 0 < (kickoffPhys e).2.countP fun t => t.phys = i && !t.combined := by omega
    obtain ⟨t, sent, mine⟩ := List.countP_pos_iff.mp some_own
    exact List.any_eq_true.mpr ⟨t, sent, mine⟩
  | false =>
    rw [own, if_neg (by simp)] at count
    rw [List.any_eq_false]
    exact List.countP_eq_zero.mp count

theorem any_combined (e : Enc) : (kickoffPhys e).2.any (fun t => t.combined) = e.combines := by
  have own : (visitAll e.activeCfg e.physEncs e.ctls).flushes.any
    (fun t => t.combined) = false := by
    rw [List.any_eq_false]
    intro t sent
    simp [(own_of_mem sent).2.1]
  rw [kickoffPhys_flushes, List.any_append, own, Bool.false_or]
  rcases combined_eq e with ⟨none, off⟩ | ⟨m, master, main, -, -, -, on, one⟩
  · rw [none, off]
    rfl
  · rw [one, on]
    rfl

theorem raises_iff (here : e.physEncs[i]? = some phys) :
    e.raises i phys = true ↔ phys.enabled = true ∧ phys.Served e.combines := by
  rw [Enc.raises, any_own here, any_combined]
  constructor
  · intro raises
    simp only [Bool.and_eq_true, Bool.or_eq_true, decide_eq_true_eq] at raises
    obtain ⟨⟨pp, role⟩, flushed⟩ := raises
    cases flushed with
    | inl own =>
      simp only [Phys.flushesOwn, Phys.flushable, Bool.and_eq_true, Bool.not_eq_true'] at own
      exact ⟨own.1.1, own.2.1.2, pp, role, fun single => by rw [own.1.2] at single; cases single⟩
    | inr shared =>
      simp only [Phys.leaves, Bool.and_eq_true] at shared
      exact ⟨shared.1.1.1, shared.1.2, pp, role, fun _ => shared.2⟩
  · rintro ⟨enabled, ctl, pp, role, flush⟩
    cases single : phys.needsSingleFlush with
    | true => simp [pp, role, Phys.leaves, enabled, single, ctl, flush single]
    | false => simp [pp, role, Phys.flushesOwn, Phys.flushable, enabled, single, ctl]

end Raises

/-! ## Interrupts -/

theorem count_ppTxDoneIrq {phys : Phys} (pp : phys.hwPp = true) :
    (ppTxDoneIrq phys).1.count = { phys.count with pending := phys.pendingKickoffCnt - 1 } := by
  rw [ppTxDoneIrq, if_neg (not_not.mpr pp)]
  cases master : phys.isMaster with
  | true => rfl
  | false => rfl

theorem pending_iterate {phys : Phys} (n : ℕ) (pp : n ≠ 0 → phys.hwPp = true) :
    ((fun phys => (ppTxDoneIrq phys).1)^[n] phys).pendingKickoffCnt =
      phys.pendingKickoffCnt - n := by
  induction n generalizing phys with
  | zero => rfl
  | succ n ih =>
    have once := count_ppTxDoneIrq (pp (Nat.succ_ne_zero n))
    have pending : (ppTxDoneIrq phys).1.pendingKickoffCnt = phys.pendingKickoffCnt - 1 :=
      congrArg Count.pending once
    have kept : (ppTxDoneIrq phys).1.hwPp = phys.hwPp := congrArg Count.hwPp once
    rw [Function.iterate_succ_apply, ih fun _ => kept.trans (pp (Nat.succ_ne_zero n)), pending]
    omega

theorem waitForIdle_of_zero (env : WaitEnv) {phys : Phys} (zero : phys.pendingKickoffCnt = 0) :
    (waitForIdle env phys).2.2 ≠ etimedout := by
  have waited : (waitForIrq env phys.pendingKickoffCnt ppTxDoneIrq phys).2.2 ≠ etimedout := by
    rw [waitForIrq]
    split
    · simp [ewouldblock, etimedout]
    · rw [if_pos (.inr zero)]
      simp [etimedout]
  rw [waitForIdle]
  split
  · simp [etimedout]
  · dsimp only
    rw [if_neg waited]
    exact waited

/-! ## Runs -/

def Counted (s : Sys) : Prop :=
  ∀ i c, s.enc.counts[i]? = some c → s.owed i ≤ c.pending ∧ (s.owed i ≠ 0 → c.hwPp = true)

theorem counts_getElem? {e : Enc} {i : ℕ} {phys : Phys} (here : e.physEncs[i]? = some phys) :
    e.counts[i]? = some phys.count := by
  rw [Enc.counts, List.getElem?_map, here, Option.map_some]

theorem drains_iff {s : Sys} (counted : Counted s) :
    Drains s ↔ ∀ i c, s.enc.counts[i]? = some c → c.pending ≤ s.owed i := by
  have rest : ∀ i phys, s.enc.physEncs[i]? = some phys →
      (s.delivered i phys).pendingKickoffCnt = phys.pendingKickoffCnt - s.owed i :=
    fun i phys here => pending_iterate _ (counted i _ (counts_getElem? here)).2
  constructor
  · intro drains i c at_i
    rw [Enc.counts, List.getElem?_map] at at_i
    obtain ⟨phys, here, rfl⟩ := Option.map_eq_some_iff.mp at_i
    have none := (drains i phys here).1
    rw [rest i phys here] at none
    exact Nat.le_of_sub_eq_zero none
  · intro few i phys here
    have below : phys.pendingKickoffCnt ≤ s.owed i := few i _ (counts_getElem? here)
    have none : (s.delivered i phys).pendingKickoffCnt = 0 := by
      rw [rest i phys here]
      omega
    exact ⟨none, fun env => waitForIdle_of_zero env none⟩

section Step

variable {s : Sys} {affectedDisplays : ℕ} {ctls : CtlFlushes}

theorem kickoff_count {i : ℕ} {c : Count}
    (at_i : (s.step (.kickoff affectedDisplays ctls)).enc.counts[i]? = some c) :
    ∃ phys, (s.frame affectedDisplays ctls).physEncs[i]? = some phys ∧
      s.enc.counts[i]? = some phys.count ∧ c = phys.count.raise := by
  rw [Sys.step, counts_kickoffPhys, List.getElem?_map] at at_i
  obtain ⟨before, at_frame, rfl⟩ := Option.map_eq_some_iff.mp at_i
  have same := at_frame
  rw [counts_frame] at same
  rw [Enc.counts, List.getElem?_map] at at_frame
  obtain ⟨phys, here, rfl⟩ := Option.map_eq_some_iff.mp at_frame
  exact ⟨phys, here, same, rfl⟩

theorem kickoff_owed {i : ℕ} {phys : Phys}
    (here : (s.frame affectedDisplays ctls).physEncs[i]? = some phys) :
    (s.step (.kickoff affectedDisplays ctls)).owed i =
      s.owed i + if (s.frame affectedDisplays ctls).raises i phys then 1 else 0 := by
  rw [Sys.step]
  dsimp only
  rw [here, Option.any_some]

section

variable (counted : Counted s)

include counted

theorem counted_kickoff : Counted (s.step (.kickoff affectedDisplays ctls)) := by
  intro i c at_i
  obtain ⟨phys, here, before, rfl⟩ := kickoff_count at_i
  obtain ⟨below, pp⟩ := counted i _ before
  rw [kickoff_owed here]
  cases raises : (s.frame affectedDisplays ctls).raises i phys with
  | true =>
    obtain ⟨enabled, served⟩ := (raises_iff here).mp raises
    have raised : phys.count.enabled = true := enabled
    refine ⟨?_, fun _ => served.pp⟩
    simp only [Count.raise, raised, if_true]
    omega
  | false =>
    simp only [Bool.false_eq_true, if_false, Nat.add_zero]
    exact ⟨Nat.le_add_right_of_le below, pp⟩

theorem ppDone_count {i j : ℕ} {c : Count} (at_j : (s.step (.ppDone i)).enc.counts[j]? = some c) :
    ∃ before k, s.enc.counts[j]? = some before ∧
      c = { before with pending := before.pending - k } ∧
      (s.step (.ppDone i)).owed j = s.owed j - k := by
  rw [Sys.step] at at_j ⊢
  cases here : s.enc.physEncs[i]? with
  | none =>
    rw [here] at at_j
    exact ⟨c, 0, at_j, rfl, rfl⟩
  | some phys =>
    rw [here] at at_j
    dsimp only at at_j ⊢
    by_cases none_owed : s.owed i = 0
    · rw [if_pos none_owed] at at_j ⊢
      exact ⟨c, 0, at_j, rfl, rfl⟩
    · rw [if_neg none_owed] at at_j ⊢
      have pp := (counted i _ (counts_getElem? here)).2 none_owed
      rw [Enc.counts, Enc.setPhys, List.map_set, List.getElem?_set] at at_j
      by_cases same : i = j
      · subst same
        have inside := (List.getElem?_eq_some_iff.mp here).1
        rw [if_pos rfl, if_pos (by simpa using inside), count_ppTxDoneIrq pp] at at_j
        exact ⟨phys.count, 1, counts_getElem? here, (Option.some.inj at_j).symm,
          Function.update_self _ _ _⟩
      · rw [if_neg same] at at_j
        exact ⟨c, 0, at_j, rfl, Function.update_of_ne (Ne.symm same) _ _⟩

theorem counted_ppDone (i : ℕ) : Counted (s.step (.ppDone i)) := by
  intro j c at_j
  obtain ⟨before, k, at_before, rfl, owed⟩ := ppDone_count counted at_j
  obtain ⟨below, pp⟩ := counted j before at_before
  rw [owed]
  exact ⟨Nat.sub_le_sub_right below k, fun some_owed => pp (by omega)⟩

theorem counted_step (input : Input) : Counted (s.step input) := by
  cases input with
  | kickoff affectedDisplays ctls => exact counted_kickoff counted
  | ppDone i => exact counted_ppDone counted i

theorem drains_kickoff_iff (drains : Drains s) : Drains (s.step (.kickoff affectedDisplays ctls)) ↔
      AllServed s (.kickoff affectedDisplays ctls) := by
  have few := (drains_iff counted).mp drains
  rw [drains_iff (counted_kickoff counted)]
  constructor
  · intro after phys member enabled
    obtain ⟨i, here⟩ := List.mem_iff_getElem?.mp member
    have at_i : (s.step (.kickoff affectedDisplays ctls)).enc.counts[i]? =
        some phys.count.raise := by
      rw [Sys.step, counts_kickoffPhys, List.getElem?_map, counts_getElem? here, Option.map_some]
    have before : s.enc.counts[i]? = some phys.count := by
      rw [← counts_frame s affectedDisplays ctls]
      exact counts_getElem? here
    have raised : phys.count.enabled = true := enabled
    have now := after i _ at_i
    have still := (counted i _ before).1
    rw [kickoff_owed here] at now
    simp only [Count.raise, raised, if_true] at now
    have raises : (s.frame affectedDisplays ctls).raises i phys = true := by
      by_contra silent
      rw [if_neg silent] at now
      omega
    exact ((raises_iff here).mp raises).2
  · intro served i c at_i
    obtain ⟨phys, here, before, rfl⟩ := kickoff_count at_i
    have below := few i _ before
    rw [kickoff_owed here]
    cases enabled : phys.enabled with
    | true =>
      have raised : phys.count.enabled = true := enabled
      have raises := (raises_iff here).mpr
        ⟨enabled, served phys (List.mem_of_getElem? here) enabled⟩
      simp only [Count.raise, raised, raises, if_true]
      omega
    | false =>
      have kept : phys.count.enabled = false := enabled
      simp only [Count.raise, kept, Bool.false_eq_true, if_false]
      omega

theorem drains_ppDone (drains : Drains s) (i : ℕ) : Drains (s.step (.ppDone i)) := by
  have few := (drains_iff counted).mp drains
  rw [drains_iff (counted_ppDone counted i)]
  intro j c at_j
  obtain ⟨before, k, at_before, rfl, owed⟩ := ppDone_count counted at_j
  rw [owed]
  exact Nat.sub_le_sub_right (few j before at_before) k

theorem drains_step_iff (drains : Drains s) (input : Input) :
    Drains (s.step input) ↔ AllServed s input := by
  cases input with
  | kickoff affectedDisplays ctls => exact drains_kickoff_iff counted drains
  | ppDone i => exact iff_of_true (drains_ppDone counted drains i) trivial

end

end Step

theorem count_init {e : Enc} {i : ℕ} {c : Count} (at_i : (Sys.init e).enc.counts[i]? = some c) :
    c.pending = 0 := by
  rw [Sys.init, Enc.counts, List.map_map, List.getElem?_map] at at_i
  obtain ⟨phys, -, rfl⟩ := Option.map_eq_some_iff.mp at_i
  rfl

theorem counted_init (e : Enc) : Counted (Sys.init e) :=
  fun _ _ _ => ⟨Nat.zero_le _, fun owed => absurd rfl owed⟩

/-- Through all kickoffs of an encoder in command mode, for whichever displays and whatever is
    pending in the CTLs, and all interrupts in between: nothing stays pending throughout exactly
    when every kickoff serves every encoder whose count it raises. -/
theorem drains_iff_allServed (e : Enc) (inputs : List Input) :
    Throughout Sys.step Drains (Sys.init e) inputs ↔
      StepsMeet Sys.step AllServed (Sys.init e) inputs := by
  have start : Drains (Sys.init e) :=
    (drains_iff (counted_init e)).mpr fun i c at_i => Nat.le_of_eq (count_init at_i)
  exact throughout_iff_stepsMeet Counted (fun _ input counted => counted_step counted input)
    (fun _ input counted drains => drains_step_iff counted drains input) (counted_init e) start
    inputs

/-! ### The left half -/

/-- After an update of the left half the right encoder waits for an interrupt that never comes. -/
theorem not_drains_leftHalf :
    ¬∀ (e : Enc) (inputs : List Input), Throughout Sys.step Drains (Sys.init e) inputs := by
  intro always
  have throughout := always dualDsi [.kickoff 1 dualDsi.ctls, .ppDone 0]
  have last := throughout_iff_prefix.mp throughout _ [] (List.append_nil _).symm
  exact absurd (last 1 _ rfl).1 (by decide)

end DisplayDrivers.Encoder.Kickoff
