import Mathlib.Order.Monotone.Basic
import DisplayDrivers.Dp.Ctrl
import DisplayDrivers.Lib.Loop

/-! # Clock recovery (`msm/dp/dp_ctrl.c`, `msm/dp/dp_link.c`)

In the first phase of link training the source sends a pattern and reads from the sink whether it
has recovered the clock; if not, it takes over the levels the sink asks for and tries again.

The functions that take a link status apart come from a header of the kernel: they are a parameter.
-/

namespace DisplayDrivers.Dp

open DisplayDrivers.Lib.Loop

def EAGAIN : Int := 11
def ETIMEDOUT : Int := 110

def DP_LINK_VOLTAGE_MAX : ℕ := 2
def DP_LINK_PRE_EMPHASIS_LEVEL_1 : ℕ := 1
def DP_LINK_PRE_EMPHASIS_MAX : ℕ := 2
def DP_TRAIN_VOLTAGE_SWING_SHIFT : ℕ := 0
def DP_TRAIN_PRE_EMPHASIS_SHIFT : ℕ := 3
def DP_LINK_STATUS_SIZE : Int := 6
def DP_LINK_STATUS_UPDATED : BitVec 8 := 0x80

/-- The bytes from `DP_LANE0_1_STATUS` on. -/
abbrev LinkStatus := Fin 6 → BitVec 8

/-- `drm_dp_clock_recovery_ok` and the two functions for the levels a lane asks for. -/
structure DrmDp where
  clockRecoveryOk : LinkStatus → ℕ → Bool
  getAdjustRequestVoltage : LinkStatus → ℕ → BitVec 8
  getAdjustRequestPreEmphasis : LinkStatus → ℕ → BitVec 8

/-- `phy_params` of the link. -/
structure PhyParams where
  vLevel : ℕ
  pLevel : ℕ

/-! ## Levels -/

def laneMax (laneCount : ℕ) (data : ℕ → BitVec 8) : ℕ :=
  (List.range laneCount).foldl
    (fun max i => if max < (data i).toNat then (data i).toNat else max) 0

def dpLinkAdjustLevels (drm : DrmDp) (laneCount : ℕ) (linkStatus : LinkStatus) : PhyParams :=
  let v := laneMax laneCount fun i =>
    drm.getAdjustRequestVoltage linkStatus i >>> DP_TRAIN_VOLTAGE_SWING_SHIFT
  let p := laneMax laneCount fun i =>
    drm.getAdjustRequestPreEmphasis linkStatus i >>> DP_TRAIN_PRE_EMPHASIS_SHIFT
  let v := if v > DP_LINK_VOLTAGE_MAX then DP_LINK_VOLTAGE_MAX else v
  let p := if p > DP_LINK_PRE_EMPHASIS_MAX then DP_LINK_PRE_EMPHASIS_MAX else p
  { vLevel := v
    pLevel := if p > DP_LINK_PRE_EMPHASIS_LEVEL_1 ∧ v = DP_LINK_VOLTAGE_MAX then
      DP_LINK_PRE_EMPHASIS_LEVEL_1 else p }

/-- The byte `dp_ctrl_update_sink_vx_px` writes for each lane. -/
def sinkVxPx (phy : PhyParams) : BitVec 8 :=
  BitVec.ofNat 8 (phy.vLevel ||| phy.pLevel <<< 3 |||
    ((if phy.vLevel = DP_LINK_VOLTAGE_MAX then 1 <<< 2 else 0) |||
      (if phy.pLevel = DP_LINK_PRE_EMPHASIS_MAX then 1 <<< 5 else 0)))

/-! ## The sink and the loop -/

/-- What training meets with: an abort before a round, what the writes return, and what each read
    of the link status returns, with the bytes that are in the buffer after it. -/
structure TrainEnv where
  aborted : ℕ → Bool
  patternWrite : Int
  /-- The write of the levels before the first round, and at the end of each. -/
  levelWrite : ℕ → BitVec 8 → Int
  readLinkStatus : ℕ → Int × LinkStatus

structure StatusRead where
  ret : Int
  linkStatus : LinkStatus
  reads : ℕ

/-- The loop of `dp_ctrl_read_link_status`, with the retries left and the reads made before. -/
def readStatusLoop (env : TrainEnv) (linkStatus : LinkStatus) : ℕ → ℕ → StatusRead
  | 0, reads => { ret := 0, linkStatus, reads }
  | left + 1, reads =>
    let (len, linkStatus) := env.readLinkStatus reads
    if len ≠ DP_LINK_STATUS_SIZE then { ret := len, linkStatus, reads := reads + 1 }
    else if linkStatus 2 &&& DP_LINK_STATUS_UPDATED = 0 then
      { ret := 0, linkStatus, reads := reads + 1 }
    else readStatusLoop env linkStatus left (reads + 1)

def dpCtrlReadLinkStatus (env : TrainEnv) (reads : ℕ) : StatusRead :=
  readStatusLoop env (fun _ => 0) 99 reads

structure Training where
  phy : PhyParams
  tries : ℕ
  oldVLevel : ℕ
  round : ℕ
  reads : ℕ

structure TrainState where
  started : Bool
  failed : Bool
  succeeded : Bool

structure TrainResult where
  ret : Int
  phy : PhyParams
  state : TrainState

section Train
variable (drm : DrmDp) (laneCount : ℕ) (env : TrainEnv)

def Training.advance (train : Training) : Training :=
  let read := dpCtrlReadLinkStatus env train.reads
  { phy := dpLinkAdjustLevels drm laneCount read.linkStatus
    tries := if train.oldVLevel = train.phy.vLevel then train.tries + 1 else 0
    oldVLevel := train.phy.vLevel
    round := train.round + 1
    reads := read.reads }

def trainRound (train : Training) : Training ⊕ (Int × PhyParams) :=
  if env.aborted train.round then .inr (-EINVAL, train.phy)
  else
    let read := dpCtrlReadLinkStatus env train.reads
    if read.ret ≠ 0 then .inr (read.ret, train.phy)
    else if drm.clockRecoveryOk read.linkStatus laneCount then .inr (0, train.phy)
    -- at the highest swing there is nothing left to try
    else if train.phy.vLevel = DP_LINK_VOLTAGE_MAX then .inr (-EAGAIN, train.phy)
    else if train.oldVLevel = train.phy.vLevel ∧ train.tries + 1 ≥ 5 then
      .inr (-ETIMEDOUT, train.phy)
    else
      let next := train.advance drm laneCount env
      if env.levelWrite next.round (sinkVxPx next.phy) ≤ 0 then .inr (-EINVAL, next.phy)
      else .inl next

def Training.start (phy : PhyParams) : Training :=
  { phy, tries := 0, oldVLevel := phy.vLevel, round := 0, reads := 0 }

def trainEnd (ret : Int) (phy : PhyParams) : TrainResult :=
  { ret, phy, state := { started := false, failed := ret ≠ 0, succeeded := ret = 0 } }

/-- `dp_ctrl_link_train_1`, cut after `fuel` rounds. -/
def dpCtrlLinkTrain1 (fuel : ℕ) (phy : PhyParams) : Option TrainResult :=
  if env.patternWrite ≤ 0 then some (trainEnd (-EINVAL) phy)
  else if env.levelWrite 0 (sinkVxPx phy) ≤ 0 then some (trainEnd (-EINVAL) phy)
  else
    (loop (trainRound drm laneCount env) fuel (Training.start phy)).map
      fun result => trainEnd result.1 result.2

def StopsWithin (n : ℕ) (phy : PhyParams) : Prop :=
  (dpCtrlLinkTrain1 drm laneCount env n phy).isSome

/-! ## The levels the sink asks for -/

def readsBefore : ℕ → ℕ
  | 0 => 0
  | k + 1 => (dpCtrlReadLinkStatus env (readsBefore k)).reads

/-- The levels in use in round `k`: those of the start, then those of the reply before it. -/
def phyAt (phy : PhyParams) : ℕ → PhyParams
  | 0 => phy
  | k + 1 => dpLinkAdjustLevels drm laneCount
      (dpCtrlReadLinkStatus env (readsBefore env k)).linkStatus

def levelAt (phy : PhyParams) (k : ℕ) : ℕ := (phyAt drm laneCount env phy k).vLevel

/-- The replies leave nothing to try after round `k`: the highest swing, the fifth time the level
    at the start or the sixth time a later one, or levels the sink does not take. -/
def Exhausted (phy : PhyParams) (k : ℕ) : Prop :=
  levelAt drm laneCount env phy k = DP_LINK_VOLTAGE_MAX ∨
    (5 ≤ k + 1 ∧ ∀ j ≤ k, k ≤ j + 5 →
      levelAt drm laneCount env phy j = levelAt drm laneCount env phy k) ∨
    env.levelWrite (k + 1) (sinkVxPx (phyAt drm laneCount env phy (k + 1))) ≤ 0

def Refused (phy : PhyParams) : Prop :=
  env.patternWrite ≤ 0 ∨ env.levelWrite 0 (sinkVxPx phy) ≤ 0

structure Unrecovered : Prop where
  running : ∀ k, env.aborted k = false
  answered : ∀ i, (env.readLinkStatus i).1 = DP_LINK_STATUS_SIZE
  unlocked : ∀ i, drm.clockRecoveryOk (env.readLinkStatus i).2 laneCount = false

end Train

/-! ## Levels that stay the same -/

section Repeats
variable {α : Type*} [DecidableEq α]

/-- How often the value of round `k` was repeated; the first round counts as a repetition. -/
def repeats (v : ℕ → α) : ℕ → ℕ
  | 0 => 1
  | k + 1 => if v k = v (k + 1) then repeats v k + 1 else 0

theorem le_repeats_iff {v : ℕ → α} {k : ℕ} : ∀ {m : ℕ}, 0 < m →
    (m ≤ repeats v k ↔ m ≤ k + 1 ∧ ∀ j ≤ k, k ≤ j + m → v j = v k) := by
  induction k with
  | zero =>
    intro m _
    simp only [repeats, Nat.zero_add, iff_self_and]
    intro _ j first _
    rw [Nat.le_zero.mp first]
  | succ k ih =>
    intro m positive
    simp only [repeats]
    split
    case isFalse changed =>
      constructor
      · intro counted
        omega
      · rintro ⟨-, same⟩
        exact absurd (same k (by omega) (by omega)) changed
    case isTrue same =>
      by_cases one : m = 1
      · subst one
        constructor
        · intro _
          refine ⟨by omega, ?_⟩
          intro j below near
          by_cases last : j = k + 1
          · rw [last]
          · rw [show j = k by omega, same]
        · intro _
          omega
      · obtain ⟨n, rfl⟩ : ∃ n, m = n + 1 := ⟨m - 1, by omega⟩
        rw [Nat.add_le_add_iff_right, ih (m := n) (by omega), ← same]
        constructor
        · rintro ⟨long, equal⟩
          refine ⟨by omega, ?_⟩
          intro j below near
          by_cases last : j = k + 1
          · rw [last, same]
          · exact equal j (by omega) (by omega)
        · rintro ⟨long, equal⟩
          exact ⟨by omega, fun j below near => equal j (by omega) (by omega)⟩

end Repeats

section Rounds
variable {drm : DrmDp} {laneCount : ℕ} {env : TrainEnv} {phy : PhyParams}

theorem readStatusLoop_answered (answered : ∀ i, (env.readLinkStatus i).1 = DP_LINK_STATUS_SIZE)
    (left : ℕ) : ∀ (linkStatus : LinkStatus) (reads : ℕ),
      (readStatusLoop env linkStatus (left + 1) reads).ret = 0 ∧
        ∃ i, (readStatusLoop env linkStatus (left + 1) reads).linkStatus =
          (env.readLinkStatus i).2 := by
  induction left with
  | zero =>
    intro linkStatus reads
    simp only [readStatusLoop, answered, ne_eq, not_true_eq_false, if_false]
    split
    · exact ⟨rfl, reads, rfl⟩
    · exact ⟨rfl, reads, rfl⟩
  | succ left ih =>
    intro linkStatus reads
    rw [readStatusLoop]
    simp only [answered, ne_eq, not_true_eq_false, if_false]
    split
    · exact ⟨rfl, reads, rfl⟩
    · exact ih _ _

theorem readLinkStatus_unrecovered (unrecovered : Unrecovered drm laneCount env) (reads : ℕ) :
    (dpCtrlReadLinkStatus env reads).ret = 0 ∧
      drm.clockRecoveryOk (dpCtrlReadLinkStatus env reads).linkStatus laneCount = false := by
  obtain ⟨ret, i, reply⟩ := readStatusLoop_answered unrecovered.answered 98 (fun _ => 0) reads
  rw [dpCtrlReadLinkStatus, reply]
  exact ⟨ret, unrecovered.unlocked i⟩

def roundAt (drm : DrmDp) (laneCount : ℕ) (env : TrainEnv) (phy : PhyParams) : ℕ → Training
  | 0 => Training.start phy
  | k + 1 => (roundAt drm laneCount env phy k).advance drm laneCount env

variable (k : ℕ)

@[simp] theorem roundAt_succ : roundAt drm laneCount env phy (k + 1) =
    (roundAt drm laneCount env phy k).advance drm laneCount env := rfl

theorem roundAt_round : (roundAt drm laneCount env phy k).round = k := by
  induction k with
  | zero => rfl
  | succ k ih => simp [Training.advance, ih]

theorem roundAt_reads : (roundAt drm laneCount env phy k).reads = readsBefore env k := by
  induction k with
  | zero => rfl
  | succ k ih => simp [Training.advance, readsBefore, ih]

theorem roundAt_phy : (roundAt drm laneCount env phy k).phy = phyAt drm laneCount env phy k := by
  cases k with
  | zero => rfl
  | succ k => simp [Training.advance, phyAt, roundAt_reads]

theorem roundAt_vLevel :
    (roundAt drm laneCount env phy k).phy.vLevel = levelAt drm laneCount env phy k := by
  rw [roundAt_phy, levelAt]

theorem roundAt_tries :
    (if (roundAt drm laneCount env phy k).oldVLevel = (roundAt drm laneCount env phy k).phy.vLevel
      then (roundAt drm laneCount env phy k).tries + 1 else 0) =
      repeats (levelAt drm laneCount env phy) k := by
  induction k with
  | zero => simp [roundAt, Training.start, repeats]
  | succ k ih =>
    -- the counter and the level before are set at the end of round `k`, from its level
    have old : (roundAt drm laneCount env phy (k + 1)).oldVLevel =
        levelAt drm laneCount env phy k := roundAt_vLevel k
    have tries : (roundAt drm laneCount env phy (k + 1)).tries =
        repeats (levelAt drm laneCount env phy) k := ih
    rw [old, tries, roundAt_vLevel, repeats]

theorem timeout_iff :
    ((roundAt drm laneCount env phy k).oldVLevel = (roundAt drm laneCount env phy k).phy.vLevel ∧
        (roundAt drm laneCount env phy k).tries + 1 ≥ 5) ↔
      5 ≤ k + 1 ∧ ∀ j ≤ k, k ≤ j + 5 →
        levelAt drm laneCount env phy j = levelAt drm laneCount env phy k := by
  rw [← le_repeats_iff (by omega : 0 < 5), ← roundAt_tries]
  split <;> omega

theorem trainRound_unrecovered (unrecovered : Unrecovered drm laneCount env) (k : ℕ) :
    (¬ Exhausted drm laneCount env phy k ∧
        trainRound drm laneCount env (roundAt drm laneCount env phy k) =
          .inl (roundAt drm laneCount env phy (k + 1))) ∨
      (Exhausted drm laneCount env phy k ∧
        ∃ r, trainRound drm laneCount env (roundAt drm laneCount env phy k) = .inr r) := by
  obtain ⟨ret, unlocked⟩ :=
    readLinkStatus_unrecovered unrecovered (roundAt drm laneCount env phy k).reads
  have next : (roundAt drm laneCount env phy k).advance drm laneCount env =
      roundAt drm laneCount env phy (k + 1) := rfl
  have steady := @timeout_iff drm laneCount env phy k
  rw [roundAt_phy] at steady
  -- the three ways out of a round, in the order of the code
  simp only [trainRound, unrecovered.running, ret, unlocked, next, roundAt_round, roundAt_phy,
    Exhausted, ne_eq, not_true_eq_false, if_false, Bool.false_eq_true]
  split
  case isTrue highest => exact .inr ⟨.inl highest, _, rfl⟩
  case isFalse lower =>
    split
    case isTrue repeated => exact .inr ⟨.inr (.inl (steady.mp repeated)), _, rfl⟩
    case isFalse fresh =>
      split
      case isTrue refused => exact .inr ⟨.inr (.inr refused), _, rfl⟩
      case isFalse taken =>
        refine .inl ⟨?_, rfl⟩
        rintro (highest | repeated | refused)
        · exact lower highest
        · exact fresh (steady.mpr repeated)
        · exact taken refused

theorem rounds_leave_iff (unrecovered : Unrecovered drm laneCount env) (n : ℕ) :
    (loop (trainRound drm laneCount env) n (Training.start phy)).isSome ↔
      ∃ k < n, Exhausted drm laneCount env phy k := by
  have follows : ∀ k,
      trainRound drm laneCount env (roundAt drm laneCount env phy k) =
          .inl (roundAt drm laneCount env phy (k + 1)) ∨
        ∃ r, trainRound drm laneCount env (roundAt drm laneCount env phy k) = .inr r := by
    intro k
    cases @trainRound_unrecovered _ _ _ phy unrecovered k with
    | inl on => exact .inl on.2
    | inr ended => exact .inr ended.2
  have leaves : ∀ k,
      (∃ r, trainRound drm laneCount env (roundAt drm laneCount env phy k) = .inr r) ↔
        Exhausted drm laneCount env phy k := by
    intro k
    cases @trainRound_unrecovered _ _ _ phy unrecovered k with
    | inl on => simp [on.1, on.2]
    | inr ended => simp [ended.1, ended.2]
  have rounds := loop_isSome_iff follows n 0
  simp only [leaves, Nat.zero_le, true_and, Nat.zero_add] at rounds
  exact rounds

theorem stopsWithin_iff_rounds (n : ℕ) : StopsWithin drm laneCount env n phy ↔
    Refused env phy ∨ (loop (trainRound drm laneCount env) n (Training.start phy)).isSome := by
  unfold StopsWithin dpCtrlLinkTrain1 Refused
  split
  case isTrue unsent => simp [unsent]
  case isFalse sent =>
    split
    case isTrue refused => simp [refused]
    case isFalse taken => simp only [Option.isSome_map, sent, taken, false_or]

/-- Without clock recovery training stops in the rounds allowed exactly when one of them exhausts
    what the sink asks for. -/
theorem stopsWithin_iff (unrecovered : Unrecovered drm laneCount env) (n : ℕ) :
    StopsWithin drm laneCount env n phy ↔
      Refused env phy ∨ ∃ k < n, Exhausted drm laneCount env phy k := by
  rw [stopsWithin_iff_rounds, rounds_leave_iff unrecovered]

end Rounds

/-! ### A sink with one lane that asks for levels 1 and 0 in turn -/

def laneNibble (byte : BitVec 8) (lane : ℕ) : BitVec 8 := (byte >>> (4 * (lane % 2))) &&& 0xF

def kernelDrmDp : DrmDp where
  clockRecoveryOk linkStatus laneCount :=
    (List.range laneCount).all fun i => laneNibble (linkStatus (Fin.ofNat 6 (i / 2))) i &&& 1 ≠ 0
  getAdjustRequestVoltage linkStatus i :=
    laneNibble (linkStatus (Fin.ofNat 6 (4 + i / 2))) i &&& 3
  getAdjustRequestPreEmphasis linkStatus i :=
    (laneNibble (linkStatus (Fin.ofNat 6 (4 + i / 2))) i >>> 2 &&& 3) <<< 3

def asksFor (level : BitVec 8) : LinkStatus := fun byte => if byte = 4 then level else 0

def sinkOf (level : ℕ → BitVec 8) : TrainEnv where
  aborted _ := false
  patternWrite := 1
  levelWrite _ _ := 4
  readLinkStatus i := (6, asksFor (level i))

def alternating : TrainEnv := sinkOf fun i => if i % 2 = 0 then 1 else 0

variable (level : ℕ → BitVec 8)

theorem sinkOf_unrecovered : Unrecovered kernelDrmDp 1 (sinkOf level) where
  running _ := rfl
  answered _ := rfl
  unlocked i := by simp [sinkOf, asksFor, kernelDrmDp, laneNibble]

theorem sinkOf_read (reads : ℕ) : dpCtrlReadLinkStatus (sinkOf level) reads =
      { ret := 0, linkStatus := asksFor (level reads), reads := reads + 1 } := by
  simp [dpCtrlReadLinkStatus, readStatusLoop, sinkOf, asksFor, DP_LINK_STATUS_SIZE]

theorem sinkOf_readsBefore (k : ℕ) : readsBefore (sinkOf level) k = k := by
  induction k with
  | zero => rfl
  | succ k ih => rw [readsBefore, ih, sinkOf_read]

theorem adjustLevels_asksFor :
    (dpLinkAdjustLevels kernelDrmDp 1 (asksFor 1)).vLevel = 1 ∧
      (dpLinkAdjustLevels kernelDrmDp 1 (asksFor 0)).vLevel = 0 := by decide

theorem alternating_levelAt (k : ℕ) :
    levelAt kernelDrmDp 1 alternating { vLevel := 0, pLevel := 0 } k = k % 2 := by
  cases k with
  | zero => rfl
  | succ k =>
    rw [levelAt, phyAt, alternating, sinkOf_readsBefore, sinkOf_read]
    by_cases even : k % 2 = 0
    · have odd : (k + 1) % 2 = 1 := by omega
      rw [if_pos even, odd]
      exact adjustLevels_asksFor.1
    · have even' : (k + 1) % 2 = 0 := by omega
      rw [if_neg even, even']
      exact adjustLevels_asksFor.2

/-- A link at the highest swing already stops in the first round. -/
theorem stopsWithin_iff_highest :
    StopsWithin kernelDrmDp 1 alternating 1 { vLevel := 2, pLevel := 0 } ↔
      Refused alternating { vLevel := 2, pLevel := 0 } ∨
        ∃ k < 1, Exhausted kernelDrmDp 1 alternating { vLevel := 2, pLevel := 0 } k :=
  stopsWithin_iff (sinkOf_unrecovered _) 1

/-- No number of rounds is enough for every sink. -/
theorem not_stopsWithin_bounded :
    ¬ ∃ n, ∀ (drm : DrmDp) (laneCount : ℕ) (env : TrainEnv) (phy : PhyParams),
      Unrecovered drm laneCount env → StopsWithin drm laneCount env n phy := by
  rintro ⟨n, bounded⟩
  have unrecovered : Unrecovered kernelDrmDp 1 alternating := sinkOf_unrecovered _
  have stops := bounded kernelDrmDp 1 alternating { vLevel := 0, pLevel := 0 } unrecovered
  rw [stopsWithin_iff_rounds, rounds_leave_iff unrecovered] at stops
  cases stops with
  | inl refused => simp [Refused, alternating, sinkOf] at refused
  | inr exhausted =>
    obtain ⟨k, -, highest | repeated | unwritten⟩ := exhausted
    · rw [alternating_levelAt, DP_LINK_VOLTAGE_MAX] at highest
      omega
    · have last := repeated.2 (k - 1) (by omega) (by omega)
      rw [alternating_levelAt, alternating_levelAt] at last
      have long := repeated.1
      omega
    · revert unwritten
      simp [alternating, sinkOf]

end DisplayDrivers.Dp
