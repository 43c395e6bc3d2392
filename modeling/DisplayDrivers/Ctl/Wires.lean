import DisplayDrivers.Ctl.Blendstage
import DisplayDrivers.Lib.Fields

/-! # Wires of the blend stage registers

Every bit of a stage number goes to one bit of the `CTL_LAYER` registers. `wire` says to which one
by an entry of the kind of `sspp_reg_cfg_tbl`.
-/

namespace DisplayDrivers.Ctl

open Lib.Fields

def Layers.bit (layers : Layers) (at_ : ℕ × ℕ) : Bool := (layers.reg at_.1).getLsbD at_.2

def StageRegMap.wire (map : StageRegMap) (c : ℕ) : Option (ℕ × ℕ) :=
  if c < map.bits then some (map.ext, map.start + c)
  else if c = map.bits ∧ map.secBitMask ≠ 0#32 then some (1, map.secBitMask.toNat.log2)
  else none

def writtenMap (pipe : Sspp) (rect1 : Bool) : StageRegMap :=
  match pipe with
  | .cursor1 => ⟨1, 26, 4, 0#32⟩
  | .cursor0 => ssppRegCfgTbl .cursor0 false
  | .rgb0 => ssppRegCfgTbl .rgb0 false
  | .rgb1 => ssppRegCfgTbl .rgb1 false
  | .rgb2 => ssppRegCfgTbl .rgb2 false
  | .rgb3 => ssppRegCfgTbl .rgb3 false
  | pipe => ssppRegCfgTbl pipe rect1

def changesMix (pipe : Sspp) (rectIndex : Multirect) : Bool :=
  (pipe == .dma2 || pipe == .dma3) && rectIndex != .rect1

/-- A slot sets the register bit: by a bit of the stage number or, where an earlier slot of the
    stage has changed `mix`, by the fourth bit of `mix`, which runs out of a field of three. -/
def Sets (i : ℕ) (changed : Bool) (pipe : Sspp) (rectIndex : Multirect) (at_ : ℕ × ℕ) : Prop :=
  (∃ c < 4, (i + 1).testBit c ∧ (writtenMap pipe (rectIndex == .rect1)).wire c = some at_) ∨
    (changed = true ∧ 7 ≤ i ∧ (writtenMap pipe (rectIndex == .rect1)).bits = 3 ∧
      at_ = (0, (writtenMap pipe (rectIndex == .rect1)).start + 3))

/-! ## One slot -/

theorem getLsbD_shifted {x : Word} (short : ∀ c, 4 ≤ c → x.getLsbD c = false) {lo b : ℕ}
    (inside : b < 32) :
    (x <<< lo).getLsbD b = true ↔ ∃ c < 4, x.getLsbD c = true ∧ lo + c = b := by
  rw [BitVec.getLsbD_shiftLeft]
  constructor
  · intro set
    simp only [inside, decide_true, Bool.true_and, Bool.and_eq_true, Bool.not_eq_true',
      decide_eq_false_iff_not, Nat.not_lt] at set
    refine ⟨b - lo, ?_, set.2, by omega⟩
    by_contra long
    rw [short _ (Nat.not_lt.mp long)] at set
    exact nomatch set.2
  · rintro ⟨c, -, set, rfl⟩
    simp [inside, set]

structure MixOf (i : ℕ) (changed : Bool) (mix : Word) : Prop where
  low : ∀ c < 3, mix.getLsbD c = (i + 1).testBit c
  carry : mix.getLsbD 3 = (changed && (i + 1).testBit 3)
  short : ∀ c, 4 ≤ c → mix.getLsbD c = false

theorem getLsbD_number (i c : ℕ) (inside : c < 32) :
    (BitVec.ofNat 32 (i + 1) &&& 0xf#32).getLsbD c = ((i + 1).testBit c && decide (c < 4)) := by
  have ones : (0xf#32 : Word) = (BitVec.allOnes 4).setWidth 32 := by decide
  rw [BitVec.getLsbD_and, BitVec.getLsbD_ofNat, ones, BitVec.getLsbD_setWidth,
    BitVec.getLsbD_allOnes]
  simp [inside]

theorem mixOf_start (i : ℕ) : MixOf i false (BitVec.ofNat 32 (i + 1) &&& 0x7#32) := by
  have ones : (0x7#32 : Word) = (BitVec.allOnes 3).setWidth 32 := by decide
  have bits (c : ℕ) : (BitVec.ofNat 32 (i + 1) &&& 0x7#32 : Word).getLsbD c =
      (decide (c < 32) && (i + 1).testBit c && decide (c < 3)) := by
    rw [BitVec.getLsbD_and, BitVec.getLsbD_ofNat, ones, BitVec.getLsbD_setWidth,
      BitVec.getLsbD_allOnes]
    by_cases inside : c < 32
    · simp [inside]
    · simp [inside]
  refine ⟨fun c low => ?_, ?_, fun c high => ?_⟩
  · have inside : c < 32 := by omega
    rw [bits]
    simp [low, inside]
  · rw [bits]
    simp
  · have above : ¬c < 3 := by omega
    rw [bits]
    simp [above]

theorem getLsbD_number_short (i c : ℕ) (high : 4 ≤ c) :
    (BitVec.ofNat 32 (i + 1) &&& 0xf#32 : Word).getLsbD c = false := by
  by_cases inside : c < 32
  · rw [getLsbD_number i c inside]
    simp [high]
  · exact BitVec.getLsbD_of_ge _ c (Nat.not_lt.mp inside)

theorem MixOf.changed {i : ℕ} {changed : Bool} {mix : Word} (known : MixOf i changed mix) :
    MixOf i true (mix ||| (BitVec.ofNat 32 (i + 1) &&& 0xf#32)) := by
  refine ⟨fun c low => ?_, ?_, fun c high => ?_⟩
  · have inside : c < 32 := by omega
    have four : c < 4 := by omega
    rw [BitVec.getLsbD_or, getLsbD_number i c inside, known.low c low]
    simp [four]
  · rw [BitVec.getLsbD_or, getLsbD_number i 3 (by omega), known.carry]
    cases changed with
    | false => simp
    | true => simp
  · rw [BitVec.getLsbD_or, getLsbD_number_short i c high, known.short c high]
    rfl

theorem number_bits {i : ℕ} {x : Word} (known : ∀ c < 4, x.getLsbD c = (i + 1).testBit c)
    (short : ∀ c, 4 ≤ c → x.getLsbD c = false) {lo b : ℕ} (inside : b < 32) :
    (x <<< lo).getLsbD b = true ↔ ∃ c < 4, (i + 1).testBit c = true ∧ lo + c = b := by
  rw [getLsbD_shifted short inside]
  constructor
  · rintro ⟨c, low, set, position⟩
    exact ⟨c, low, by rw [← known c low, set], position⟩
  · rintro ⟨c, low, set, position⟩
    exact ⟨c, low, by rw [known c low, set], position⟩

theorem number_wires (ext start i k b : ℕ) :
    (∃ c < 4, (i + 1).testBit c ∧ (StageRegMap.mk ext start 4 0#32).wire c = some (k, b)) ↔
      ext = k ∧ ∃ c < 4, (i + 1).testBit c = true ∧ start + c = b := by
  constructor
  · rintro ⟨c, low, set, wired⟩
    simp only [StageRegMap.wire, low, if_true, Option.some.injEq, Prod.mk.injEq] at wired
    exact ⟨wired.1, c, low, set, wired.2⟩
  · rintro ⟨rfl, c, low, set, rfl⟩
    exact ⟨c, low, set, by simp only [StageRegMap.wire, low, if_true]⟩

theorem split_wires {sec : ℕ} (secInside : sec < 32) (start i k b : ℕ) :
    (∃ c < 4, (i + 1).testBit c ∧
        (StageRegMap.mk 0 start 3 (BitVec.twoPow 32 sec)).wire c = some (k, b)) ↔
      (k = 0 ∧ ∃ c < 3, (i + 1).testBit c = true ∧ start + c = b) ∨
        (k = 1 ∧ (i + 1).testBit 3 = true ∧ b = sec) := by
  have log : (BitVec.twoPow 32 sec).toNat.log2 = sec := by
    rw [BitVec.toNat_twoPow_of_lt secInside, Nat.log2_two_pow]
  have nonzero : BitVec.twoPow 32 sec ≠ 0#32 := twoPow_ne_zero secInside
  constructor
  · rintro ⟨c, four, set, wired⟩
    by_cases low : c < 3
    · simp only [StageRegMap.wire, low, if_true, Option.some.injEq, Prod.mk.injEq] at wired
      exact .inl ⟨wired.1.symm, c, low, set, wired.2⟩
    · obtain rfl : c = 3 := by omega
      simp only [StageRegMap.wire, log, nonzero, Nat.lt_irrefl, if_false, true_and, ne_eq,
        not_false_eq_true, if_true, Option.some.injEq, Prod.mk.injEq] at wired
      exact .inr ⟨wired.1.symm, set, wired.2.symm⟩
  · rintro (⟨rfl, c, low, set, rfl⟩ | ⟨rfl, set, rfl⟩)
    · exact ⟨c, by omega, set, by simp only [StageRegMap.wire, low, if_true]⟩
    · refine ⟨3, by omega, set, ?_⟩
      simp only [StageRegMap.wire, log, nonzero, Nat.lt_irrefl, if_false, true_and, ne_eq,
        not_false_eq_true, if_true]

/-! ### The cases of the switch -/

theorem testBit_three {i : ℕ} (small : i < 15) : (i + 1).testBit 3 = decide (7 ≤ i) := by
  have every : ∀ k : Fin 15, (k.val + 1).testBit 3 = decide (7 ≤ k.val) := by decide
  exact every ⟨i, small⟩

theorem bit_orCfg (b : Blend) (value : Word) (lo k p : ℕ) :
    (b.orCfg value lo).layers.bit (k, p) =
      (b.layers.bit (k, p) || k == 0 && (value <<< lo).getLsbD p) := by
  match k with
  | 0 => simp only [Layers.bit, Layers.reg, Blend.orCfg, BitVec.getLsbD_or, beq_self_eq_true,
      Bool.true_and]
  | 1 => exact (Bool.or_false _).symm
  | 2 => exact (Bool.or_false _).symm
  | k + 3 => exact (Bool.or_false _).symm

theorem bit_orExt (b : Blend) (value : Word) (lo k p : ℕ) :
    (b.orExt value lo).layers.bit (k, p) =
      (b.layers.bit (k, p) || k == 1 && (value <<< lo).getLsbD p) := by
  match k with
  | 0 => exact (Bool.or_false _).symm
  | 1 => simp only [Layers.bit, Layers.reg, Blend.orExt, BitVec.getLsbD_or, beq_self_eq_true,
      Bool.true_and]
  | 2 => exact (Bool.or_false _).symm
  | k + 3 => exact (Bool.or_false _).symm

theorem bit_orExt2 (b : Blend) (value : Word) (lo k p : ℕ) :
    (b.orExt2 value lo).layers.bit (k, p) =
      (b.layers.bit (k, p) || k == 2 && (value <<< lo).getLsbD p) := by
  match k with
  | 0 => exact (Bool.or_false _).symm
  | 1 => exact (Bool.or_false _).symm
  | 2 => simp only [Layers.bit, Layers.reg, Blend.orExt2, BitVec.getLsbD_or, beq_self_eq_true,
      Bool.true_and]
  | k + 3 => exact (Bool.or_false _).symm

theorem bit_orExt3 (b : Blend) (value : Word) (lo p : ℕ) {k : ℕ} (four : k < 4) :
    (b.orExt3 value lo).layers.bit (k, p) =
      (b.layers.bit (k, p) || k == 3 && (value <<< lo).getLsbD p) := by
  match k with
  | 0 => exact (Bool.or_false _).symm
  | 1 => exact (Bool.or_false _).symm
  | 2 => exact (Bool.or_false _).symm
  | 3 => simp only [Layers.bit, Layers.reg, Blend.orExt3, BitVec.getLsbD_or, beq_self_eq_true,
      Bool.true_and]

variable {i : ℕ} {changed : Bool} {b b' : Blend} {pipe : Sspp} {rectIndex : Multirect}

structure Wrote (i : ℕ) (changed : Bool) (pipe : Sspp) (rectIndex : Multirect) (b b' : Blend) :
    Prop where
  mix : MixOf i (changed || changesMix pipe rectIndex) b'.mix
  bits : ∀ k p, k < 4 → p < 32 →
    (b'.layers.bit (k, p) = true ↔ b.layers.bit (k, p) = true ∨
      Sets i changed pipe rectIndex (k, p))

variable {start : ℕ}

theorem wrote_whole {ext : ℕ} {value : Word}
    (map : writtenMap pipe (rectIndex == .rect1) = ⟨ext, start, 4, 0#32⟩)
    (known : ∀ c < 4, value.getLsbD c = (i + 1).testBit c)
    (short : ∀ c, 4 ≤ c → value.getLsbD c = false)
    (mix : MixOf i (changed || changesMix pipe rectIndex) b'.mix)
    (bits : ∀ k p, k < 4 → b'.layers.bit (k, p) =
      (b.layers.bit (k, p) || k == ext && (value <<< start).getLsbD p)) :
    Wrote i changed pipe rectIndex b b' where
  mix := mix
  bits := by
    intro k p four inside
    have wires := number_wires ext start i k p
    rw [bits k p four, Bool.or_eq_true, Bool.and_eq_true, beq_iff_eq,
      number_bits known short inside, Sets, map, wires]
    simp only [Nat.reduceEqDiff, false_and, and_false, or_false, eq_comm (a := k)]

theorem wrote_split {sec : ℕ} (small : i < 15) (secInside : sec < 32)
    (map : writtenMap pipe (rectIndex == .rect1) = ⟨0, start, 3, BitVec.twoPow 32 sec⟩)
    (unchanged : changesMix pipe rectIndex = false) (known : MixOf i changed b.mix) :
    Wrote i changed pipe rectIndex b
      ((b.orCfg b.mix start).orExt (if 7 ≤ i then 1#32 else 0#32) sec) where
  mix := by
    rw [unchanged, Bool.or_false]
    exact known
  bits := by
    intro k p four inside
    have main : (b.mix <<< start).getLsbD p = true ↔
        (∃ c < 3, (i + 1).testBit c = true ∧ start + c = p) ∨
          (changed = true ∧ 7 ≤ i ∧ p = start + 3) := by
      rw [getLsbD_shifted known.short inside]
      constructor
      · rintro ⟨c, below, set, position⟩
        by_cases low : c < 3
        · exact .inl ⟨c, low, by rw [← known.low c low, set], position⟩
        · obtain rfl : c = 3 := by omega
          rw [known.carry, testBit_three small, Bool.and_eq_true, decide_eq_true_eq] at set
          exact .inr ⟨set.1, set.2, position.symm⟩
      · rintro (⟨c, low, set, position⟩ | ⟨carried, high, rfl⟩)
        · exact ⟨c, by omega, by rw [known.low c low, set], position⟩
        · refine ⟨3, by omega, ?_, rfl⟩
          rw [known.carry, testBit_three small, carried]
          simp [high]
    have carry : ((if 7 ≤ i then 1#32 else 0#32) <<< sec : Word).getLsbD p = true ↔
        7 ≤ i ∧ p = sec := by
      by_cases high : 7 ≤ i
      · rw [if_pos high, ← BitVec.twoPow_eq, BitVec.getLsbD_twoPow]
        simp [high, secInside, eq_comm]
      · simp [high]
    have wires := split_wires secInside start i k p
    rw [bit_orExt, bit_orCfg, Bool.or_eq_true, Bool.or_eq_true, Bool.and_eq_true, Bool.and_eq_true,
      beq_iff_eq, beq_iff_eq, main, carry, Sets, map, wires, testBit_three small]
    simp only [decide_eq_true_eq, Prod.mk.injEq, true_and]
    constructor
    · rintro ((old | ⟨zero, low | ⟨carried, high, position⟩⟩) | ext)
      · exact .inl old
      · exact .inr (.inl (.inl ⟨zero, low⟩))
      · exact .inr (.inr ⟨carried, high, zero, position⟩)
      · exact .inr (.inl (.inr ext))
    · rintro (old | (⟨zero, low⟩ | ext) | ⟨carried, high, zero, position⟩)
      · exact .inl (.inl old)
      · exact .inl (.inr ⟨zero, .inl low⟩)
      · exact .inr ext
      · exact .inl (.inr ⟨zero, .inr ⟨carried, high, position⟩⟩)

theorem wrote_number {ext : ℕ} (map : writtenMap pipe (rectIndex == .rect1) = ⟨ext, start, 4, 0#32⟩)
    (unchanged : changesMix pipe rectIndex = false) (known : MixOf i changed b'.mix)
    (bits : ∀ k p, k < 4 → b'.layers.bit (k, p) = (b.layers.bit (k, p) ||
      k == ext && ((BitVec.ofNat 32 (i + 1) &&& 0xf#32 : Word) <<< start).getLsbD p)) :
    Wrote i changed pipe rectIndex b b' := by
  refine wrote_whole map (fun c low => ?_) (fun c => getLsbD_number_short i c) ?_ bits
  · rw [getLsbD_number i c (by omega)]
    simp [low]
  · rw [unchanged, Bool.or_false]
    exact known

theorem wrote_changed (map : writtenMap pipe (rectIndex == .rect1) = ⟨2, start, 4, 0#32⟩)
    (changes : changesMix pipe rectIndex = true) (known : MixOf i true b.mix) :
    Wrote i changed pipe rectIndex b (b.orExt2 b.mix start) := by
  refine wrote_whole map (fun c four => ?_) known.short ?_ fun k p _ => bit_orExt2 b b.mix start k p
  · by_cases low : c < 3
    · exact known.low c low
    · obtain rfl : c = 3 := by omega
      rw [known.carry, Bool.true_and]
  · rw [changes, Bool.or_true]
    exact known

theorem Wrote.layers {b₀ : Blend} (wrote : Wrote i changed pipe rectIndex b b')
    (same : b.layers = b₀.layers) : Wrote i changed pipe rectIndex b₀ b' where
  mix := wrote.mix
  bits := by
    rw [← same]
    exact wrote.bits

theorem wrote_stagePipe (small : i < 15) (known : MixOf i changed b.mix) (pipe : Sspp)
    (rectIndex : Multirect) : Wrote i changed pipe rectIndex b (stagePipe i b pipe rectIndex) := by
  cases pipe with
  | none =>
    refine ⟨by rw [show changesMix .none rectIndex = false from rfl,
      Bool.or_false]; exact known, ?_⟩
    intro k p _ _
    refine ⟨.inl, ?_⟩
    rintro (old | ⟨c, -, -, wired⟩ | ⟨-, -, three, -⟩)
    · exact old
    · cases c with
      | zero => simp [writtenMap, ssppRegCfgTbl, StageRegMap.wire] at wired
      | succ c => simp [writtenMap, ssppRegCfgTbl, StageRegMap.wire] at wired
    · exact nomatch three
  | rgb0 | rgb1 | rgb2 | rgb3 => exact wrote_split small (by omega) rfl rfl known
  | cursor0 => exact wrote_number rfl rfl known fun k p _ => bit_orExt b _ 20 k p
  | cursor1 => exact wrote_number rfl rfl known fun k p _ => bit_orExt b _ 26 k p
  | vig0 =>
    cases rectIndex with
    | rect1 => exact wrote_number rfl rfl known fun k p => bit_orExt3 b _ 0 p
    | rectSolo | rect0 => exact wrote_split small (by omega) rfl rfl known
  | vig1 =>
    cases rectIndex with
    | rect1 => exact wrote_number rfl rfl known fun k p => bit_orExt3 b _ 4 p
    | rectSolo | rect0 => exact wrote_split small (by omega) rfl rfl known
  | vig2 =>
    cases rectIndex with
    | rect1 => exact wrote_number rfl rfl known fun k p => bit_orExt3 b _ 8 p
    | rectSolo | rect0 => exact wrote_split small (by omega) rfl rfl known
  | vig3 =>
    cases rectIndex with
    | rect1 => exact wrote_number rfl rfl known fun k p => bit_orExt3 b _ 12 p
    | rectSolo | rect0 => exact wrote_split small (by omega) rfl rfl known
  | dma0 =>
    cases rectIndex with
    | rect1 => exact wrote_number rfl rfl known fun k p _ => bit_orExt2 b _ 8 k p
    | rectSolo | rect0 => exact wrote_split small (by omega) rfl rfl known
  | dma1 =>
    cases rectIndex with
    | rect1 => exact wrote_number rfl rfl known fun k p _ => bit_orExt2 b _ 12 k p
    | rectSolo | rect0 => exact wrote_split small (by omega) rfl rfl known
  | dma2 =>
    cases rectIndex with
    | rect1 => exact wrote_number rfl rfl known fun k p _ => bit_orExt2 b _ 16 k p
    | rectSolo | rect0 => exact (wrote_changed rfl rfl known.changed).layers rfl
  | dma3 =>
    cases rectIndex with
    | rect1 => exact wrote_number rfl rfl known fun k p _ => bit_orExt2 b _ 20 k p
    | rectSolo | rect0 => exact (wrote_changed rfl rfl known.changed).layers rfl

/-! ## The loops -/

def changedBefore (cfg : StageCfg) (i j : ℕ) : Bool :=
  (List.range j).any fun j' => changesMix (cfg.stage i j') (cfg.multirectIndex i j')

def SlotSets (cfg : StageCfg) (i j : ℕ) (at_ : ℕ × ℕ) : Prop :=
  Sets i (changedBefore cfg i j) (cfg.stage i j) (cfg.multirectIndex i j) at_

theorem changedBefore_succ (cfg : StageCfg) (i j : ℕ) :
    changedBefore cfg i (j + 1) =
      (changedBefore cfg i j || changesMix (cfg.stage i j) (cfg.multirectIndex i j)) := by
  simp [changedBefore, List.range_succ]

theorem row_spec (small : i < 15) (cfg : StageCfg) (known : MixOf i false b.mix) (count : ℕ) :
    let b' := (List.range count).foldl
      (fun b j => stagePipe i b (cfg.stage i j) (cfg.multirectIndex i j)) b
    MixOf i (changedBefore cfg i count) b'.mix ∧ ∀ k p, k < 4 → p < 32 →
      (b'.layers.bit (k, p) = true ↔
        b.layers.bit (k, p) = true ∨ ∃ j < count, SlotSets cfg i j (k, p)) := by
  induction count with
  | zero =>
    refine ⟨known, fun k p _ _ => ⟨.inl, ?_⟩⟩
    rintro (old | ⟨j, none, -⟩)
    · exact old
    · exact absurd none (Nat.not_lt_zero j)
  | succ count ih =>
    obtain ⟨mix, bits⟩ := ih
    have slot := wrote_stagePipe small mix (cfg.stage i count) (cfg.multirectIndex i count)
    simp only [List.range_succ, List.foldl_append, List.foldl_cons, List.foldl_nil]
    refine ⟨by rw [changedBefore_succ]; exact slot.mix, fun k p four inside => ?_⟩
    rw [slot.bits k p four inside, bits k p four inside, or_assoc]
    refine or_congr_right ⟨?_, ?_⟩
    · rintro (⟨j, before, sets⟩ | sets)
      · exact ⟨j, by omega, sets⟩
      · exact ⟨count, by omega, sets⟩
    · rintro ⟨j, before, sets⟩
      by_cases last : j = count
      · subst last
        exact .inr sets
      · exact .inl ⟨j, by omega, sets⟩

theorem bit_stageRow (small : i < 15) (cfg : StageCfg) (pipes : ℕ) (layers : Layers)
    {k p : ℕ} (four : k < 4) (inside : p < 32) :
    (stageRow cfg pipes layers i).bit (k, p) = true ↔
      layers.bit (k, p) = true ∨ ∃ j < pipes, SlotSets cfg i j (k, p) :=
  (row_spec small cfg (mixOf_start i) pipes).2 k p four inside

theorem bit_noLayers (at_ : ℕ × ℕ) : noLayers.bit at_ = false := by
  match at_ with
  | (0, p) => exact BitVec.getLsbD_zero
  | (1, p) => exact BitVec.getLsbD_zero
  | (2, p) => exact BitVec.getLsbD_zero
  | (k + 3, p) => exact BitVec.getLsbD_zero

theorem bit_stageRows {stages : ℕ} (small : stages ≤ 15) (cfg : StageCfg) (pipes : ℕ) {k p : ℕ}
    (four : k < 4) (inside : p < 32) :
    ((List.range stages).foldl (stageRow cfg pipes) noLayers).bit (k, p) = true ↔
      ∃ i < stages, ∃ j < pipes, SlotSets cfg i j (k, p) := by
  induction stages with
  | zero => simp [bit_noLayers]
  | succ stages ih =>
    simp only [List.range_succ, List.foldl_append, List.foldl_cons, List.foldl_nil]
    rw [bit_stageRow (by omega) cfg pipes _ four inside, ih (by omega)]
    constructor
    · rintro (⟨i, before, sets⟩ | sets)
      · exact ⟨i, by omega, sets⟩
      · exact ⟨stages, by omega, sets⟩
    · rintro ⟨i, before, sets⟩
      by_cases last : i = stages
      · subst last
        exact .inr sets
      · exact .inl ⟨i, by omega, sets⟩

end DisplayDrivers.Ctl
