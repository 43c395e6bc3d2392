import DisplayDrivers.Ctl.Wires
import Mathlib.Data.List.Nodup

/-! # Staged pipes read back

The field of a pipe, as `sspp_reg_cfg_tbl` describes it, reads as the stage number that the slots
have put there. Writer and reader agree on a stage configuration exactly under the conditions of
`Consistent`: the table has another place for CURSOR1 than the writer, a changed `mix` runs into the
next field, and there are rectangles and slots that the writer does not know.
-/

namespace DisplayDrivers.Ctl

open Lib.Fields

/-! ## Fields -/

def StageRegMap.value (map : StageRegMap) (layers : Layers) : Word :=
  (layers.reg map.ext &&& map.mask) >>> map.start |||
    (if layers.reg 1 &&& map.secBitMask != 0#32 then 1#32 <<< map.bits else 0#32)

structure StageRegMap.WellFormed (map : StageRegMap) : Prop where
  bits : map.bits ≤ 4
  inside : map.start + map.bits ≤ 32
  sec : map.secBitMask = 0#32 ∨ map.bits = 3 ∧ ∃ m < 32, map.secBitMask = BitVec.twoPow 32 m

theorem wellFormed_ssppRegCfgTbl (pipe : Sspp) (rect1 : Bool) :
    (ssppRegCfgTbl pipe rect1).WellFormed := by
  have whole (ext start : ℕ) (inside : start ≤ 28) : (StageRegMap.mk ext start 4 0#32).WellFormed :=
    ⟨Nat.le_refl 4, by simp only; omega, .inl rfl⟩
  have split (start m : ℕ) (inside : start ≤ 29) (low : m < 32) :
      (StageRegMap.mk 0 start 3 (BitVec.twoPow 32 m)).WellFormed :=
    ⟨by simp only; omega, by simp only; omega, .inr ⟨rfl, m, low, rfl⟩⟩
  have empty : (StageRegMap.mk 0 0 0 0#32).WellFormed := ⟨by simp, by simp, .inl rfl⟩
  cases rect1 with
  | false =>
    cases pipe with
    | none => exact empty
    | vig0 => exact split 0 0 (by omega) (by omega)
    | vig1 => exact split 3 2 (by omega) (by omega)
    | vig2 => exact split 6 4 (by omega) (by omega)
    | vig3 => exact split 26 6 (by omega) (by omega)
    | rgb0 => exact split 9 8 (by omega) (by omega)
    | rgb1 => exact split 12 10 (by omega) (by omega)
    | rgb2 => exact split 15 12 (by omega) (by omega)
    | rgb3 => exact split 29 14 (by omega) (by omega)
    | dma0 => exact split 18 16 (by omega) (by omega)
    | dma1 => exact split 21 18 (by omega) (by omega)
    | dma2 => exact whole 2 0 (by omega)
    | dma3 => exact whole 2 4 (by omega)
    | cursor0 => exact whole 1 20 (by omega)
    | cursor1 => exact whole 0 26 (by omega)
  | true =>
    cases pipe with
    | vig0 => exact whole 3 0 (by omega)
    | vig1 => exact whole 3 4 (by omega)
    | vig2 => exact whole 3 8 (by omega)
    | vig3 => exact whole 3 12 (by omega)
    | dma0 => exact whole 2 8 (by omega)
    | dma1 => exact whole 2 12 (by omega)
    | dma2 => exact whole 2 16 (by omega)
    | dma3 => exact whole 2 20 (by omega)
    | none | rgb0 | rgb1 | rgb2 | rgb3 | cursor0 | cursor1 => exact empty

variable {c : ℕ}

theorem getLsbD_ones {n : ℕ} (small : n ≤ 4) :
    ((1#32 <<< n) - 1#32 : Word).getLsbD c = decide (c < n) := by
  have ones : ∀ k : Fin 5, ((1#32 <<< k.val) - 1#32 : Word) =
    (BitVec.allOnes k.val).setWidth 32 := by
    decide
  have this_one : ((1#32 <<< n) - 1#32 : Word) = (BitVec.allOnes n).setWidth 32 :=
    ones ⟨n, by omega⟩
  rw [this_one, BitVec.getLsbD_setWidth, BitVec.getLsbD_allOnes]
  by_cases low : c < n
  · have inside : c < 32 := by omega
    simp [low, inside]
  · simp [low]

variable {map : StageRegMap}

theorem getLsbD_low (wf : map.WellFormed) (layers : Layers) (c : ℕ) :
    ((layers.reg map.ext &&& map.mask) >>> map.start).getLsbD c =
      (decide (c < map.bits) && layers.bit (map.ext, map.start + c)) := by
  have inside := wf.inside
  rw [BitVec.getLsbD_ushiftRight, BitVec.getLsbD_and, StageRegMap.mask, BitVec.getLsbD_shiftLeft,
    Nat.add_sub_cancel_left, getLsbD_ones wf.bits, Layers.bit]
  by_cases low : c < map.bits
  · have below : map.start + c < 32 := by omega
    simp [low, below]
  · simp [low]

theorem getLsbD_value (wf : map.WellFormed) (layers : Layers) (c : ℕ) :
    (map.value layers).getLsbD c = (map.wire c).any layers.bit := by
  rw [StageRegMap.value, BitVec.getLsbD_or, getLsbD_low wf, StageRegMap.wire]
  rcases wf.sec with none | ⟨three, m, low, sec⟩
  · simp only [none, BitVec.and_zero, bne_self_eq_false, Bool.false_eq_true, if_false,
      BitVec.getLsbD_zero, Bool.or_false, ne_eq, not_true_eq_false, and_false]
    by_cases field : c < map.bits
    · simp [field]
    · simp [field]
  · have nonzero : map.secBitMask ≠ 0#32 := by
      rw [sec]
      exact twoPow_ne_zero low
    have log : map.secBitMask.toNat.log2 = m := by
      rw [sec, BitVec.toNat_twoPow_of_lt low, Nat.log2_two_pow]
    have high : ((if layers.reg 1 &&& map.secBitMask != 0#32 then 1#32 <<< map.bits else 0#32) :
        Word).getLsbD c = (decide (c = map.bits) && layers.bit (1, m)) := by
      rw [sec, and_twoPow_bne _ low, Layers.bit, show layers.reg (1, m).1 = layers.reg 1 from rfl]
      cases set : (layers.reg 1).getLsbD m with
      | false => simp
      | true =>
        rw [if_pos rfl, ← BitVec.twoPow_eq, BitVec.getLsbD_twoPow]
        have fits : map.bits < 32 := by omega
        simp [fits, eq_comm]
    rw [high, log]
    by_cases field : c < map.bits
    · have other : c ≠ map.bits := by omega
      simp [field, other]
    · by_cases carry : c = map.bits
      · simp [carry, nonzero]
      · simp [field, carry]

theorem staged_iff (wf : map.WellFormed) (layers : Layers) :
    map.staged layers = true ↔ map.value layers ≠ 0#32 := by
  have low : layers.reg map.ext &&& map.mask = 0#32 ↔
      (layers.reg map.ext &&& map.mask) >>> map.start = 0#32 := by
    refine ⟨fun zero => by rw [zero, BitVec.zero_ushiftRight], fun shifted => ?_⟩
    apply BitVec.eq_of_getLsbD_eq
    intro b inside
    rw [BitVec.getLsbD_zero]
    by_cases below : b < map.start
    · rw [BitVec.getLsbD_and, StageRegMap.mask, BitVec.getLsbD_shiftLeft]
      simp [below]
    · have bit : ((layers.reg map.ext &&& map.mask) >>> map.start).getLsbD (b - map.start) =
          false := by rw [shifted, BitVec.getLsbD_zero]
      rw [BitVec.getLsbD_ushiftRight, Nat.add_sub_cancel' (Nat.not_lt.mp below)] at bit
      exact bit
  have bits : map.bits < 32 := Nat.lt_of_le_of_lt wf.bits (by omega)
  have carry : (1#32 <<< map.bits : Word) ≠ 0#32 := by
    rw [← BitVec.twoPow_eq]
    exact twoPow_ne_zero bits
  rw [StageRegMap.staged, StageRegMap.value, ne_eq, BitVec.or_eq_zero_iff, ← low, Bool.or_eq_true,
    bne_iff_ne]
  cases layers.reg 1 &&& map.secBitMask != 0#32 with
  | false => simp
  | true => simp [carry]

/-! ## Stage configurations -/

def StageCfg.rect (cfg : StageCfg) (i j : ℕ) : Sspp × Bool :=
  (cfg.stage i j, cfg.multirectIndex i j == .rect1)

def StagedAt (stages : ℕ) (stageCfg : Option StageCfg) (i : ℕ) (rect : Sspp × Bool) : Prop :=
  ∃ cfg ∈ stageCfg, i ≤ stages ∧ rect.1 ≠ .none ∧ ∃ j < pipesPerStage, cfg.rect i j = rect

def StagedOnce (stages : ℕ) (stageCfg : Option StageCfg) : Prop :=
  ∀ cfg ∈ stageCfg, ∀ i ≤ stages, ∀ j < pipesPerStage, ∀ i' ≤ stages, ∀ j' < pipesPerStage,
    cfg.stage i j ≠ .none → cfg.rect i j = cfg.rect i' j' → i = i' ∧ j = j'

def stageNumber (stages : ℕ) (stageCfg : Option StageCfg) (rect : Sspp × Bool) : ℕ :=
  match stageCfg with
  | none => 0
  | some cfg =>
    let holds (i : ℕ) : Bool := (List.range pipesPerStage).any fun j => cfg.rect i j == rect
    match (List.range (stages + 1)).find? holds with
    | none => 0
    | some i => i + 1

/-- After `sde_hw_ctl_setup_blendstage` the field of every staged rectangle holds its stage plus one
    and that of every other one zero, and `sde_hw_ctl_get_staged_sspp` returns the staged ones. -/
structure Agrees (ctx : HwCtl) (lm stages : ℕ) (stageCfg : Option StageCfg) (hw : ℕ → Word) :
    Prop where
  staged : ∀ i rect, StagedAt stages stageCfg i rect →
    (ssppRegCfgTbl rect.1 rect.2).value (readLayers lm (setupBlendstage ctx lm stageCfg hw)) =
      BitVec.ofNat 32 (i + 1)
  free : ∀ rect : Sspp × Bool, rect.1 ≠ .none → (∀ i, ¬StagedAt stages stageCfg i rect) →
    (ssppRegCfgTbl rect.1 rect.2).value (readLayers lm (setupBlendstage ctx lm stageCfg hw)) = 0#32
  returned : ∀ listed : List (Sspp × Bool), listed.Nodup →
    (∀ rect, rect ∈ listed ↔ ∃ i, StagedAt stages stageCfg i rect) → ∀ room, listed.length ≤ room →
      (getStagedSspp lm room (setupBlendstage ctx lm stageCfg hw)).Perm listed

def carriesInto : Sspp × Bool → Option (Sspp × Bool)
  | (.vig0, false) => some (.vig1, false)
  | (.vig1, false) => some (.vig2, false)
  | (.vig2, false) => some (.rgb0, false)
  | (.vig3, false) => some (.rgb3, false)
  | (.rgb0, _) => some (.rgb1, false)
  | (.rgb1, _) => some (.rgb2, false)
  | (.rgb2, _) => some (.dma0, false)
  | (.dma0, false) => some (.dma1, false)
  | _ => none

/-- When writer and reader agree.

    * a pipe without a second rectangle is not staged with it;
    * the slots that the mixers do not have hold nothing but CURSOR1;
    * from stage 7 on, a pipe behind the first rectangle of DMA2 or DMA3 in a stage has a neighbour
      whose number is odd;
    * the number of CURSOR1 is what VIG3 and RGB3 have in the four bits that the table has for it. -/
structure Consistent (ctx : HwCtl) (stages : ℕ) (stageCfg : Option StageCfg) : Prop where
  rectangles : ∀ i rect, StagedAt stages stageCfg i rect → (ssppRegCfgTbl rect.1 rect.2).bits ≠ 0
  slots : ∀ cfg ∈ stageCfg, ∀ i ≤ stages, ∀ j < pipesPerStage, ctx.pipesPerStage ≤ j →
    cfg.stage i j = .none ∨ cfg.stage i j = .cursor1
  carries : ∀ cfg ∈ stageCfg, ∀ i ≤ stages, ∀ j < ctx.pipesPerStage, 7 ≤ i →
    changedBefore cfg i j = true → ∀ next ∈ carriesInto (cfg.rect i j),
      stageNumber stages stageCfg next % 2 = 1
  cursor : stageNumber stages stageCfg (.cursor1, false) =
    stageNumber stages stageCfg (.vig3, false) % 8 +
      8 * (stageNumber stages stageCfg (.rgb3, false) % 2)

theorem stageNumber_cases (stages : ℕ) (stageCfg : Option StageCfg) {rect : Sspp × Bool}
    (pipe : rect.1 ≠ .none) :
    (stageNumber stages stageCfg rect = 0 ∧ ∀ i, ¬StagedAt stages stageCfg i rect) ∨
      ∃ i, stageNumber stages stageCfg rect = i + 1 ∧ StagedAt stages stageCfg i rect := by
  cases stageCfg with
  | none =>
    refine .inl ⟨rfl, ?_⟩
    rintro i ⟨cfg, absent, -⟩
    exact nomatch absent
  | some cfg =>
    have holds (i : ℕ) : ((List.range pipesPerStage).any fun j => cfg.rect i j == rect) = true ↔
        ∃ j < pipesPerStage, cfg.rect i j = rect := by
      simp [List.any_eq_true]
    rw [stageNumber]
    cases found : (List.range (stages + 1)).find?
      fun i => (List.range pipesPerStage).any fun j => cfg.rect i j == rect with
    | none =>
      refine .inl ⟨rfl, ?_⟩
      rintro i ⟨cfg', same, inside, -, slot⟩
      cases same
      rw [List.find?_eq_none] at found
      exact found i (List.mem_range.mpr (by omega)) ((holds i).mpr slot)
    | some i =>
      refine .inr ⟨i, rfl, cfg, rfl, ?_, pipe, (holds i).mp ?_⟩
      · have listed := List.mem_range.mp (List.mem_of_find?_eq_some found)
        omega
      · exact List.find?_some (p := fun i =>
          (List.range pipesPerStage).any fun j => cfg.rect i j == rect) found

variable {i : ℕ}

theorem StagedAt.number {stages : ℕ} {stageCfg : Option StageCfg}
    (once : StagedOnce stages stageCfg) {rect : Sspp × Bool}
    (staged : StagedAt stages stageCfg i rect) : stageNumber stages stageCfg rect = i + 1 := by
  obtain ⟨cfg, present, inside, pipe, j, slot, holds⟩ := staged
  rcases stageNumber_cases stages stageCfg pipe with ⟨-, absent⟩ | ⟨i', number, staged'⟩
  · exact absurd ⟨cfg, present, inside, pipe, j, slot, holds⟩ (absent i)
  · obtain ⟨cfg', present', inside', -, j', slot', holds'⟩ := staged'
    obtain rfl : cfg = cfg' := Option.mem_unique present present'
    rw [number]
    have stage : cfg.stage i' j' ≠ .none := by
      rw [← holds'] at pipe
      exact pipe
    rw [(once cfg present' i' inside' j' slot' i inside j slot stage (holds'.trans holds.symm)).1]

/-! ## The wires of the table -/

theorem mem_rects (rect : Sspp × Bool) : rect ∈ rects ↔ rect.1 ≠ .none := by
  obtain ⟨pipe, rect1⟩ := rect
  cases pipe with
  | _ => cases rect1 with
    | false => decide
    | true => decide

def tableWire (rect : Sspp × Bool) (c : ℕ) : Option (ℕ × ℕ) := (ssppRegCfgTbl rect.1 rect.2).wire c

theorem tableWire_high (rect : Sspp × Bool) (high : 4 ≤ c) : tableWire rect c = none := by
  have wf := wellFormed_ssppRegCfgTbl rect.1 rect.2
  have bits := wf.bits
  have above : ¬c < (ssppRegCfgTbl rect.1 rect.2).bits := by omega
  rw [tableWire, StageRegMap.wire, if_neg above, if_neg]
  rintro ⟨last, nonzero⟩
  rcases wf.sec with zero | ⟨three, -⟩
  · exact nonzero zero
  · omega

variable {at_ : ℕ × ℕ}

theorem tableWire_position {rect : Sspp × Bool} (listed : rect ∈ rects)
    (wired : tableWire rect c = some at_) : c < 4 ∧ at_.1 < 4 ∧ at_.2 < 32 ∧ at_ ≠ (0, 24) := by
  have every : (rects.all fun rect => (List.range 4).all fun c => (tableWire rect c).all fun at_ =>
      decide (at_.1 < 4 ∧ at_.2 < 32 ∧ at_ ≠ (0, 24))) = true := by decide
  have low : c < 4 := by
    by_contra high
    rw [tableWire_high rect (Nat.not_lt.mp high)] at wired
    exact nomatch wired
  have this_one := List.all_eq_true.mp (List.all_eq_true.mp every rect listed) c
    (List.mem_range.mpr low)
  rw [wired, Option.all_some, decide_eq_true_eq] at this_one
  exact ⟨low, this_one⟩

theorem writtenMap_eq {rect : Sspp × Bool} (known : (ssppRegCfgTbl rect.1 rect.2).bits ≠ 0)
    (other : rect.1 ≠ .cursor1) : writtenMap rect.1 rect.2 = ssppRegCfgTbl rect.1 rect.2 := by
  obtain ⟨pipe, rect1⟩ := rect
  cases rect1 with
  | false =>
    cases pipe with
    | cursor1 => exact absurd rfl other
    | _ => rfl
  | true =>
    cases pipe with
    | rgb0 => exact absurd rfl known
    | rgb1 => exact absurd rfl known
    | rgb2 => exact absurd rfl known
    | rgb3 => exact absurd rfl known
    | cursor0 => exact absurd rfl known
    | cursor1 => exact absurd rfl other
    | _ => rfl

theorem tableWire_unknown (rect : Sspp × Bool) (unknown : (ssppRegCfgTbl rect.1 rect.2).bits = 0)
    (c : ℕ) : tableWire rect c = none := by
  have sec : ¬(c = (ssppRegCfgTbl rect.1 rect.2).bits ∧
      (ssppRegCfgTbl rect.1 rect.2).secBitMask ≠ 0#32) := by
    rintro ⟨-, nonzero⟩
    rcases (wellFormed_ssppRegCfgTbl rect.1 rect.2).sec with zero | ⟨three, -⟩
    · exact nonzero zero
    · omega
  have low : ¬c < (ssppRegCfgTbl rect.1 rect.2).bits := by omega
  rw [tableWire, StageRegMap.wire, if_neg low, if_neg sec]

theorem carriesInto_wire {rect next : Sspp × Bool}
    (known : (ssppRegCfgTbl rect.1 rect.2).bits ≠ 0) (carries : carriesInto rect = some next) :
    (writtenMap rect.1 rect.2).bits = 3 ∧
      tableWire next 0 = some (0, (writtenMap rect.1 rect.2).start + 3) := by
  obtain ⟨pipe, rect1⟩ := rect
  cases rect1 with
  | false =>
    cases pipe with
    | vig0 | vig1 | vig2 | vig3 | rgb0 | rgb1 | rgb2 | dma0 =>
      cases carries
      exact ⟨rfl, rfl⟩
    | _ => simp [carriesInto] at carries
  | true =>
    cases pipe with
    | rgb0 | rgb1 | rgb2 => exact absurd rfl known
    | _ => simp [carriesInto] at carries

theorem carriesInto_known {rect next : Sspp × Bool} (carries : carriesInto rect = some next) :
    rect.1 ≠ .none ∧ next.1 ≠ .cursor1 ∧ (ssppRegCfgTbl next.1 next.2).bits ≠ 0 := by
  obtain ⟨pipe, rect1⟩ := rect
  cases rect1 with
  | false =>
    cases pipe with
    | vig0 | vig1 | vig2 | vig3 | rgb0 | rgb1 | rgb2 | dma0 =>
      cases carries
      simp [ssppRegCfgTbl]
    | _ => simp [carriesInto] at carries
  | true =>
    cases pipe with
    | rgb0 | rgb1 | rgb2 =>
      cases carries
      simp [ssppRegCfgTbl]
    | _ => simp [carriesInto] at carries

def tableWires : List ((Sspp × Bool) × ℕ) :=
  (rects.flatMap fun rect => (List.range 4).map fun c => (rect, c)).filter fun wire =>
    wire.1.1 != .cursor1 && (tableWire wire.1 wire.2).isSome

def wireBit (wire : (Sspp × Bool) × ℕ) : ℕ :=
  (tableWire wire.1 wire.2).elim 0 fun at_ => 32 * at_.1 + at_.2

theorem nodup_wireBit : (tableWires.map wireBit).Nodup := nodup_of_distinct (by decide)

theorem mem_tableWires {rect : Sspp × Bool} (listed : rect ∈ rects) (other : rect.1 ≠ .cursor1)
    (wired : tableWire rect c = some at_) : (rect, c) ∈ tableWires := by
  have low := (tableWire_position listed wired).1
  simp only [tableWires, List.mem_filter, List.mem_flatMap, List.mem_map, List.mem_range]
  exact ⟨⟨rect, listed, c, low, rfl⟩, by simp [other, wired]⟩

theorem tableWire_inj {rect rect' : Sspp × Bool} (listed : rect ∈ rects) (listed' : rect' ∈ rects)
    (other : rect.1 ≠ .cursor1) (other' : rect'.1 ≠ .cursor1) {c' : ℕ}
    (wired : tableWire rect c = some at_) (wired' : tableWire rect' c' = some at_) :
    rect = rect' ∧ c = c' := by
  have same : wireBit (rect, c) = wireBit (rect', c') := by simp [wireBit, wired, wired']
  exact Prod.mk.inj (List.inj_on_of_nodup_map nodup_wireBit (mem_tableWires listed other wired)
    (mem_tableWires listed' other' wired') same)

theorem cursor1_apart {rect : Sspp × Bool} (listed : rect ∈ rects) (other : rect.1 ≠ .cursor1)
    (wired : tableWire rect c = some at_) (rect1 : Bool) (c' : ℕ) :
    (writtenMap .cursor1 rect1).wire c' ≠ some at_ := by
  have every : (rects.all fun rect => (List.range 4).all fun c =>
      decide (rect.1 = .cursor1) || (tableWire rect c).all fun at_ =>
        decide (at_.1 ≠ 1 ∨ at_.2 < 26)) = true := by decide
  have low := (tableWire_position listed wired).1
  have this_one := List.all_eq_true.mp (List.all_eq_true.mp every rect listed) c
    (List.mem_range.mpr low)
  simp only [other, decide_false, Bool.false_or, wired, Option.all_some,
    decide_eq_true_eq] at this_one
  intro written
  by_cases inside : c' < 4
  · simp only [writtenMap, StageRegMap.wire, inside, if_true, Option.some.injEq] at written
    rw [← written] at this_one
    omega
  · simp [writtenMap, StageRegMap.wire, inside] at written

theorem carriesInto_none {rect : Sspp × Bool} (listed : rect ∈ rects)
    (known : (ssppRegCfgTbl rect.1 rect.2).bits ≠ 0)
    (three : (writtenMap rect.1 rect.2).bits = 3) (alone : carriesInto rect = none) :
    (writtenMap rect.1 rect.2).start = 21 ∨ (writtenMap rect.1 rect.2).start = 29 := by
  have every : ∀ rect ∈ rects, (ssppRegCfgTbl rect.1 rect.2).bits ≠ 0 →
      (writtenMap rect.1 rect.2).bits = 3 → (carriesInto rect).isNone →
        (writtenMap rect.1 rect.2).start = 21 ∨ (writtenMap rect.1 rect.2).start = 29 := by
    decide
  exact every rect listed known three (by rw [alone]; rfl)

theorem wires_apart {rect rect' : Sspp × Bool} (listed : rect ∈ rects) (listed' : rect' ∈ rects)
    (known : (ssppRegCfgTbl rect.1 rect.2).bits ≠ 0) (other : rect'.1 ≠ .cursor1)
    (wired : tableWire rect' c = some at_) :
    (∀ c' < 4, (writtenMap rect.1 rect.2).wire c' = some at_ → rect = rect' ∧ c' = c) ∧
      ((writtenMap rect.1 rect.2).bits = 3 → at_ = (0, (writtenMap rect.1 rect.2).start + 3) →
        carriesInto rect = some rect' ∧ c = 0) := by
  constructor
  · intro c' _ written
    by_cases cursor : rect.1 = .cursor1
    · rw [cursor] at written
      exact absurd written (cursor1_apart listed' other wired rect.2 c')
    · rw [writtenMap_eq known cursor] at written
      exact tableWire_inj listed listed' cursor other written wired
  · rintro three rfl
    cases carries : carriesInto rect with
    | some next =>
      -- the neighbour has that bit already
      obtain ⟨-, apart, field⟩ := carriesInto_known carries
      have next_listed : next ∈ rects := by
        rw [mem_rects]
        intro none
        rw [none] at field
        exact field rfl
      have first := (carriesInto_wire known carries).2
      obtain ⟨rfl, rfl⟩ := tableWire_inj next_listed listed' apart other first wired
      exact ⟨rfl, rfl⟩
    | none =>
      obtain ⟨-, -, inside, border⟩ := tableWire_position listed' wired
      rcases carriesInto_none listed known three carries with edge | end_
      · rw [edge] at border
        exact absurd rfl border
      · rw [end_] at inside
        exact absurd inside (by decide)

theorem isSome_tableWire {rect : Sspp × Bool} (known : (ssppRegCfgTbl rect.1 rect.2).bits ≠ 0)
    (low : c < 4) : ∃ at_, tableWire rect c = some at_ := by
  have every : (rects.all fun rect => (List.range 4).all fun c =>
      decide ((ssppRegCfgTbl rect.1 rect.2).bits = 0) || (tableWire rect c).isSome) = true := by
    decide
  have listed : rect ∈ rects := by
    rw [mem_rects]
    intro none
    rw [none] at known
    exact known rfl
  have this_one := List.all_eq_true.mp (List.all_eq_true.mp every rect listed) c
    (List.mem_range.mpr low)
  simp only [known, decide_false, Bool.false_or] at this_one
  exact Option.isSome_iff_exists.mp this_one

/-! ## Reading what was written -/

section Written

variable {ctx : HwCtl} {lm stages : ℕ} {stageCfg : Option StageCfg}

theorem readLayers_setupBlendstage (valid : lm < 8) (hw : ℕ → Word) :
    readLayers lm (setupBlendstage ctx lm stageCfg hw) = blendLayers ctx lm stageCfg := by
  have layer : ctlLayer lm < 0x40 := by
    rw [ctlLayer]
    split <;> omega
  have first : ctlLayer lm ≠ ctlLayerExt lm ∧ ctlLayer lm ≠ ctlLayerExt2 lm ∧
      ctlLayer lm ≠ ctlLayerExt3 lm := by
    simp only [ctlLayerExt, ctlLayerExt2, ctlLayerExt3]
    omega
  have others : ctlLayerExt lm ≠ ctlLayerExt2 lm ∧ ctlLayerExt lm ≠ ctlLayerExt3 lm ∧
      ctlLayerExt2 lm ≠ ctlLayerExt3 lm := by
    simp only [ctlLayerExt, ctlLayerExt2, ctlLayerExt3]
    omega
  simp only [readLayers, setupBlendstage, regWrite, first, others, if_true, if_false]

theorem stages_of_mixer (mixer : mixerStages ctx.mixerHwCaps lm = stages) :
    stages < stageMax ∧ (mixerStages ctx.mixerHwCaps lm % 256).toNat = stages := by
  have small : stages < stageMax := by
    rw [mixerStages] at mixer
    cases found : ctx.mixerHwCaps.find? (·.id == lm) with
    | none =>
      rw [found] at mixer
      simp only at mixer
      omega
    | some cap =>
      rw [found] at mixer
      simp only at mixer
      have fits := cap.fits
      omega
  rw [stageMax] at small
  exact ⟨small, by omega⟩

theorem bit_blendLayers (mixer : mixerStages ctx.mixerHwCaps lm = stages)
    (four : at_.1 < 4) (inside : at_.2 < 32) (border : at_ ≠ (0, 24)) :
    (blendLayers ctx lm stageCfg).bit at_ = true ↔
      ∃ cfg ∈ stageCfg, ∃ i ≤ stages, ∃ j < ctx.pipesPerStage, SlotSets cfg i j at_ := by
  obtain ⟨small, read⟩ := stages_of_mixer mixer
  have blend (layers : Layers) :
      ({ layers with cfg := layers.cfg ||| ctlMixerBorderOut } : Layers).bit at_ =
        layers.bit at_ := by
    obtain ⟨k, p⟩ := at_
    match k with
    | 0 =>
      have other : p ≠ 24 := fun same => border (by rw [same])
      simp only [Layers.bit, Layers.reg, BitVec.getLsbD_or, ctlMixerBorderOut,
        BitVec.getLsbD_twoPow]
      simp [eq_comm, other]
    | 1 => rfl
    | 2 => rfl
    | k + 3 => rfl
  have plain : (blendLayers ctx lm stageCfg).bit at_ =
      (stageLayers ctx.pipesPerStage stages stageCfg).bit at_ := by
    simp only [blendLayers, read]
    split
    · exact blend _
    · rfl
  rw [plain]
  cases stageCfg with
  | none => simp [stageLayers, bit_noLayers]
  | some cfg =>
    rw [stageMax] at small
    rw [stageLayers, bit_stageRows (by omega) cfg _ four inside]
    simp only [Nat.lt_succ_iff, Option.mem_def, Option.some.injEq, exists_eq_left']

def FieldsHold (stages : ℕ) (stageCfg : Option StageCfg) (layers : Layers) : Prop :=
  ∀ rect ∈ rects, ∀ c < 4,
    (tableWire rect c).any layers.bit = (stageNumber stages stageCfg rect).testBit c

theorem stageNumber_lt (small : stages < stageMax) {rect : Sspp × Bool} (listed : rect ∈ rects) :
    stageNumber stages stageCfg rect < 2 ^ 4 := by
  rw [stageMax] at small
  rcases stageNumber_cases stages stageCfg ((mem_rects rect).mp listed) with
    ⟨zero, -⟩ | ⟨i, number, _, -, inside, -⟩
  · omega
  · omega

theorem fieldsHold_iff (small : stages < stageMax) (layers : Layers) :
    FieldsHold stages stageCfg layers ↔ ∀ rect ∈ rects,
      (ssppRegCfgTbl rect.1 rect.2).value layers =
        BitVec.ofNat 32 (stageNumber stages stageCfg rect) := by
  constructor
  · intro holds rect listed
    apply BitVec.eq_of_getLsbD_eq
    intro c inside
    rw [getLsbD_value (wellFormed_ssppRegCfgTbl _ _) layers c, BitVec.getLsbD_ofNat]
    by_cases low : c < 4
    · rw [← holds rect listed c low, tableWire]
      simp [inside]
    · have high : 4 ≤ c := Nat.not_lt.mp low
      have zero : (stageNumber stages stageCfg rect).testBit c = false :=
        Nat.testBit_lt_two_pow (Nat.lt_of_lt_of_le (stageNumber_lt small listed)
          (Nat.pow_le_pow_right (by omega) high))
      have none := tableWire_high rect high
      rw [tableWire] at none
      rw [none, zero]
      simp
  · intro values rect listed c low
    have inside : c < 32 := by omega
    have bit := congrArg (·.getLsbD c) (values rect listed)
    simp only [getLsbD_value (wellFormed_ssppRegCfgTbl _ _) layers c, BitVec.getLsbD_ofNat,
      inside, decide_true, Bool.true_and] at bit
    exact bit

theorem SlotSets.pipe {cfg : StageCfg} {j : ℕ} (sets : SlotSets cfg i j at_) :
    cfg.stage i j ≠ .none := by
  intro empty
  rw [SlotSets, empty] at sets
  rcases sets with ⟨c, -, -, wired⟩ | ⟨-, -, three, -⟩
  · have unknown : (ssppRegCfgTbl .none (cfg.multirectIndex i j == .rect1)).bits = 0 := rfl
    exact nomatch wired.symm.trans (tableWire_unknown (.none, _) unknown c)
  · exact nomatch three

theorem pipesPerStage_cases (ctx : HwCtl) :
    ctx.pipesPerStage = pipesPerStage ∨ ctx.pipesPerStage = 1 := by
  rw [HwCtl.pipesPerStage]
  split
  · exact .inl rfl
  · exact .inr rfl

theorem pipesPerStage_le (ctx : HwCtl) : ctx.pipesPerStage ≤ pipesPerStage := by
  have six : pipesPerStage = 6 := rfl
  rcases pipesPerStage_cases ctx with split | single
  · omega
  · omega

theorem any_bit_iff (mixer : mixerStages ctx.mixerHwCaps lm = stages)
    (rectangles : ∀ i rect, StagedAt stages stageCfg i rect →
    (ssppRegCfgTbl rect.1 rect.2).bits ≠ 0)
    {rect : Sspp × Bool} (known : (ssppRegCfgTbl rect.1 rect.2).bits ≠ 0)
    (other : rect.1 ≠ .cursor1) (low : c < 4) :
    (tableWire rect c).any (blendLayers ctx lm stageCfg).bit = true ↔
      (∃ cfg ∈ stageCfg, ∃ i ≤ stages, ∃ j < ctx.pipesPerStage,
        cfg.rect i j = rect ∧ (i + 1).testBit c = true) ∨
      (c = 0 ∧ ∃ cfg ∈ stageCfg, ∃ i ≤ stages, ∃ j < ctx.pipesPerStage,
        7 ≤ i ∧ changedBefore cfg i j = true ∧ carriesInto (cfg.rect i j) = some rect) := by
  have listed : rect ∈ rects := by
    rw [mem_rects]
    intro none
    rw [none] at known
    exact known rfl
  obtain ⟨at_, wired⟩ := isSome_tableWire known low
  obtain ⟨-, four, inside, border⟩ := tableWire_position listed wired
  rw [wired, Option.any_some, bit_blendLayers mixer four inside border]
  have slots := pipesPerStage_le ctx
  constructor
  · rintro ⟨cfg, present, i, stage, j, slot, sets⟩
    have staged : StagedAt stages stageCfg i (cfg.rect i j) :=
      ⟨cfg, present, stage, sets.pipe, j, Nat.lt_of_lt_of_le slot slots, rfl⟩
    obtain ⟨own, carry⟩ := wires_apart ((mem_rects _).mpr sets.pipe) listed
      (rectangles i _ staged) other wired
    rcases sets with ⟨c', low', set, wire⟩ | ⟨changed, high, three, position⟩
    · obtain ⟨same, rfl⟩ := own c' low' wire
      exact .inl ⟨cfg, present, i, stage, j, slot, same, set⟩
    · obtain ⟨into, zero⟩ := carry three position
      exact .inr ⟨zero, cfg, present, i, stage, j, slot, high, changed, into⟩
  · rintro (⟨cfg, present, i, stage, j, slot, same, set⟩ |
      ⟨rfl, cfg, present, i, stage, j, slot, high, changed, into⟩)
    · refine ⟨cfg, present, i, stage, j, slot, .inl ⟨c, low, set, ?_⟩⟩
      have map : writtenMap rect.1 rect.2 = ssppRegCfgTbl rect.1 rect.2 := writtenMap_eq known other
      rw [← same] at map wired
      exact (congrArg (StageRegMap.wire · c) map).trans wired
    · have staged : StagedAt stages stageCfg i (cfg.rect i j) :=
        ⟨cfg, present, stage, (carriesInto_known into).1, j, Nat.lt_of_lt_of_le slot slots, rfl⟩
      obtain ⟨three, wire⟩ := carriesInto_wire (rectangles i _ staged) into
      rw [wired] at wire
      exact ⟨cfg, present, i, stage, j, slot, .inr ⟨changed, high, three, Option.some.inj wire⟩⟩

theorem testBit_stageNumber_high (small : stages < stageMax) {rect : Sspp × Bool}
    (listed : rect ∈ rects) (high : 4 ≤ c) :
    (stageNumber stages stageCfg rect).testBit c = false :=
  Nat.testBit_lt_two_pow (Nat.lt_of_lt_of_le (stageNumber_lt small listed)
    (Nat.pow_le_pow_right (by omega) high))

variable {layers : Layers}

theorem FieldsHold.rectangles (small : stages < stageMax) (once : StagedOnce stages stageCfg)
    (holds : FieldsHold stages stageCfg layers) {rect : Sspp × Bool}
    (staged : StagedAt stages stageCfg i rect) : (ssppRegCfgTbl rect.1 rect.2).bits ≠ 0 := by
  intro unknown
  have listed : rect ∈ rects := by
    obtain ⟨_, _, _, pipe, _⟩ := staged
    exact (mem_rects rect).mpr pipe
  have zero : stageNumber stages stageCfg rect = 0 := by
    apply Nat.eq_of_testBit_eq
    intro c
    rw [Nat.zero_testBit]
    by_cases low : c < 4
    · rw [← holds rect listed c low, tableWire_unknown _ unknown]
      rfl
    · exact testBit_stageNumber_high small listed (Nat.not_lt.mp low)
  have number := staged.number once
  omega

theorem tableWire_cursor1 (low : c < 4) : tableWire (.cursor1, false) c =
      if c < 3 then tableWire (.vig3, false) c else tableWire (.rgb3, false) 0 := by
  have every : ∀ c : Fin 4, tableWire (.cursor1, false) c.val =
      if c.val < 3 then tableWire (.vig3, false) c.val else tableWire (.rgb3, false) 0 := by decide
  exact every ⟨c, low⟩

theorem four_bits {a b r : ℕ} (small : a < 2 ^ 4) :
    (∀ c < 4, a.testBit c = if c < 3 then b.testBit c else r.testBit 0) ↔
      a = b % 8 + 8 * (r % 2) := by
  have low : (b % 8 + 8 * (r % 2)) = b % 2 ^ 3 + 2 ^ 3 * (r % 2) := by omega
  have bits (c : ℕ) (four : c < 4) : (b % 8 + 8 * (r % 2)).testBit c =
      if c < 3 then b.testBit c else r.testBit 0 := by
    rw [low, Nat.add_comm, Nat.testBit_two_pow_mul_add _ (Nat.mod_lt _ (by omega)),
      Nat.testBit_mod_two_pow]
    by_cases three : c < 3
    · simp [three]
    · obtain rfl : c = 3 := by omega
      simp [Nat.testBit_zero]
  constructor
  · intro same
    apply Nat.eq_of_testBit_eq
    intro c
    by_cases four : c < 4
    · rw [same c four, bits c four]
    · have high : 2 ^ 4 ≤ 2 ^ c := Nat.pow_le_pow_right (by omega) (Nat.not_lt.mp four)
      rw [Nat.testBit_lt_two_pow (Nat.lt_of_lt_of_le small high),
        Nat.testBit_lt_two_pow (Nat.lt_of_lt_of_le (by omega) high)]
  · rintro rfl c four
    exact bits c four

theorem exists_testBit_stageNumber (small : stages < stageMax) {rect : Sspp × Bool}
    (listed : rect ∈ rects) (nonzero : stageNumber stages stageCfg rect ≠ 0) :
    ∃ c < 4, (stageNumber stages stageCfg rect).testBit c = true := by
  by_contra none
  refine nonzero (Nat.eq_of_testBit_eq fun c => ?_)
  rw [Nat.zero_testBit]
  by_cases low : c < 4
  · rw [← Bool.not_eq_true]
    exact fun set => none ⟨c, low, set⟩
  · exact testBit_stageNumber_high small listed (Nat.not_lt.mp low)

section

variable (mixer : mixerStages ctx.mixerHwCaps lm = stages)

include mixer

theorem FieldsHold.slot_unused (once : StagedOnce stages stageCfg)
    (holds : FieldsHold stages stageCfg (blendLayers ctx lm stageCfg)) {cfg : StageCfg}
    (present : cfg ∈ stageCfg) {j : ℕ} (stage : i ≤ stages) (slot : j < pipesPerStage)
    (beyond : ctx.pipesPerStage ≤ j) : cfg.stage i j = .none ∨ cfg.stage i j = .cursor1 := by
  by_contra used
  obtain ⟨pipe, other⟩ := not_or.mp used
  have small := (stages_of_mixer mixer).1
  have staged : StagedAt stages stageCfg i (cfg.rect i j) :=
    ⟨cfg, present, stage, pipe, j, slot, rfl⟩
  have listed : cfg.rect i j ∈ rects := (mem_rects _).mpr pipe
  have known := holds.rectangles small once staged
  have number := staged.number once
  obtain ⟨c, low, set⟩ := exists_testBit_stageNumber small listed (by rw [number]; omega)
  -- the bit is set, but the slot has not been read
  have read := holds _ listed c low
  rw [set, any_bit_iff mixer (fun _ _ => holds.rectangles small once) known other low] at read
  rcases read with ⟨cfg', present', i', stage', j', slot', same, -⟩ |
    ⟨-, cfg', present', i', stage', j', slot', -, changed, -⟩
  · obtain rfl : cfg = cfg' := Option.mem_unique present present'
    have inside := Nat.lt_of_lt_of_le slot' (pipesPerStage_le ctx)
    have one := (once cfg present i stage j slot i' stage' j' inside pipe same.symm).2
    omega
  · rcases pipesPerStage_cases ctx with split | single
    · omega
    · obtain rfl : j' = 0 := by omega
      exact nomatch changed

theorem FieldsHold.consistent (once : StagedOnce stages stageCfg)
    (holds : FieldsHold stages stageCfg (blendLayers ctx lm stageCfg)) :
    Consistent ctx stages stageCfg where
  rectangles _ _ staged := holds.rectangles (stages_of_mixer mixer).1 once staged
  slots _ present _ stage _ slot beyond := holds.slot_unused mixer once present stage slot beyond
  carries := by
    intro cfg present i stage j slot high changed next into
    have small := (stages_of_mixer mixer).1
    obtain ⟨pipe, other, known⟩ := carriesInto_known into
    have listed : next ∈ rects := by
      rw [mem_rects]
      intro empty
      rw [empty] at known
      exact known rfl
    have read := (any_bit_iff mixer (fun _ _ => holds.rectangles small once) known other
      (by omega : 0 < 4)).mpr (.inr ⟨rfl, cfg, present, i, stage, j, slot, high, changed, into⟩)
    rw [holds next listed 0 (by omega), Nat.testBit_zero, decide_eq_true_eq] at read
    exact read
  cursor := by
    have small := (stages_of_mixer mixer).1
    rw [← four_bits (stageNumber_lt small ((mem_rects (.cursor1, false)).mpr (by simp)))]
    intro c low
    rw [← holds (.cursor1, false) ((mem_rects _).mpr (by simp)) c low, tableWire_cursor1 low]
    split
    · exact holds (.vig3, false) ((mem_rects _).mpr (by simp)) c low
    · exact holds (.rgb3, false) ((mem_rects _).mpr (by simp)) 0 (by omega)

theorem Consistent.field
    (once : StagedOnce stages stageCfg) (consistent : Consistent ctx stages stageCfg)
    {rect : Sspp × Bool} (listed : rect ∈ rects) (other : rect.1 ≠ .cursor1) (low : c < 4) :
    (tableWire rect c).any (blendLayers ctx lm stageCfg).bit =
      (stageNumber stages stageCfg rect).testBit c := by
  have cases := stageNumber_cases stages stageCfg ((mem_rects rect).mp listed)
  by_cases unknown : (ssppRegCfgTbl rect.1 rect.2).bits = 0
  · rcases cases with ⟨zero, -⟩ | ⟨i, -, staged⟩
    · rw [tableWire_unknown _ unknown, zero, Nat.zero_testBit]
      rfl
    · exact absurd unknown (consistent.rectangles i rect staged)
  rw [Bool.eq_iff_iff, any_bit_iff mixer consistent.rectangles unknown other low]
  constructor
  · rintro (⟨cfg, present, i, stage, j, slot, rfl, set⟩ |
      ⟨rfl, cfg, present, i, stage, j, slot, high, changed, into⟩)
    · have staged : StagedAt stages stageCfg i (cfg.rect i j) :=
        ⟨cfg, present, stage, (mem_rects _).mp listed, j,
          Nat.lt_of_lt_of_le slot (pipesPerStage_le ctx), rfl⟩
      rw [staged.number once, set]
    · rw [Nat.testBit_zero, decide_eq_true_eq]
      exact consistent.carries cfg present i stage j slot high changed rect into
  · intro set
    rcases cases with ⟨zero, -⟩ | ⟨i, number, cfg, present, stage, pipe, j, slot, rfl⟩
    · rw [zero, Nat.zero_testBit] at set
      exact nomatch set
    · rw [number] at set
      refine .inl ⟨cfg, present, i, stage, j, ?_, rfl, set⟩
      by_contra beyond
      rcases consistent.slots cfg present i stage j slot (Nat.not_lt.mp beyond) with none | cursor
      · exact pipe none
      · exact other cursor

theorem Consistent.fieldsHold
    (once : StagedOnce stages stageCfg) (consistent : Consistent ctx stages stageCfg) :
    FieldsHold stages stageCfg (blendLayers ctx lm stageCfg) := by
  have small := (stages_of_mixer mixer).1
  intro rect listed c low
  by_cases other : rect.1 = .cursor1
  · obtain ⟨pipe, rect1⟩ := rect
    obtain rfl : pipe = .cursor1 := other
    cases rect1 with
    | false =>
      have bits := (four_bits (stageNumber_lt small listed)).mpr consistent.cursor c low
      rw [bits, tableWire_cursor1 low]
      split
      · exact consistent.field mixer once ((mem_rects (.vig3, false)).mpr (by simp)) (by simp) low
      · exact consistent.field mixer once ((mem_rects (.rgb3, false)).mpr (by simp)) (by simp)
          (by omega)
    | true =>
      have unknown : (ssppRegCfgTbl .cursor1 true).bits = 0 := rfl
      rcases stageNumber_cases stages stageCfg ((mem_rects (.cursor1, true)).mp listed) with
        ⟨zero, -⟩ | ⟨i, -, staged⟩
      · rw [tableWire_unknown (.cursor1, true) unknown, zero, Nat.zero_testBit]
        rfl
      · exact absurd unknown (consistent.rectangles i _ staged)
  · exact consistent.field mixer once listed other low

end

/-! ## The reader -/

theorem stagedRects_eq_filter (layers : Layers) {listed : List (Sspp × Bool)} {room : ℕ}
    (found : Sspp × Bool → Bool)
    (reads : ∀ rect ∈ listed, found rect =
      (decide (¬((ssppRegCfgTbl rect.1 rect.2).bits = 0 ∨ 4 ≤ (ssppRegCfgTbl rect.1 rect.2).ext)) &&
        (ssppRegCfgTbl rect.1 rect.2).staged layers))
    (enough : (listed.filter found).length ≤ room) :
    stagedRects layers listed room = listed.filter found := by
  induction listed generalizing room with
  | nil => rfl
  | cons rect rest ih =>
    have this_one := reads rect List.mem_cons_self
    have later : ∀ rect' ∈ rest, found rect' = _ := fun rect' member => reads rect' (.tail _ member)
    cases is : found rect with
    | true =>
      rw [List.filter_cons_of_pos is, List.length_cons] at enough
      obtain ⟨room, rfl⟩ : ∃ less, room = less + 1 := ⟨room - 1, by omega⟩
      rw [is, eq_comm, Bool.and_eq_true, decide_eq_true_eq] at this_one
      rw [stagedRects, if_neg this_one.1, if_pos this_one.2, List.filter_cons_of_pos is,
        ih later (by omega)]
    | false =>
      have skip : ¬found rect = true := by simp [is]
      rw [List.filter_cons_of_neg skip] at enough ⊢
      cases room with
      | zero =>
        rw [List.length_eq_zero_iff.mp (Nat.le_zero.mp enough)]
        rfl
      | succ room =>
        rw [is, eq_comm, Bool.and_eq_false_iff, decide_eq_false_iff_not, Decidable.not_not]
          at this_one
        rw [stagedRects]
        split
        · exact ih later enough
        · next known =>
          have unstaged := this_one.resolve_left known
          rw [if_neg (by simp [unstaged])]
          exact ih later enough

theorem ext_lt (rect : Sspp × Bool) (listed : rect ∈ rects) :
    (ssppRegCfgTbl rect.1 rect.2).ext < 4 := by
  have every : (rects.all fun rect => decide ((ssppRegCfgTbl rect.1 rect.2).ext < 4)) = true := by
    decide
  exact of_decide_eq_true (List.all_eq_true.mp every rect listed)

theorem FieldsHold.found (small : stages < stageMax)
    (holds : FieldsHold stages stageCfg layers) {rect : Sspp × Bool} (listed : rect ∈ rects) :
    decide (stageNumber stages stageCfg rect ≠ 0) =
      (decide (¬((ssppRegCfgTbl rect.1 rect.2).bits = 0 ∨ 4 ≤ (ssppRegCfgTbl rect.1 rect.2).ext)) &&
        (ssppRegCfgTbl rect.1 rect.2).staged layers) := by
  have value := (fieldsHold_iff small layers).mp holds rect listed
  have bound : stageNumber stages stageCfg rect < 2 ^ 4 := stageNumber_lt small listed
  have zero : BitVec.ofNat 32 (stageNumber stages stageCfg rect) = 0#32 ↔
      stageNumber stages stageCfg rect = 0 := by
    rw [← BitVec.toNat_inj, BitVec.toNat_ofNat, Nat.mod_eq_of_lt (by omega)]
    rfl
  have inside := ext_lt rect listed
  rw [Bool.eq_iff_iff, Bool.and_eq_true, decide_eq_true_eq, decide_eq_true_eq,
    staged_iff (wellFormed_ssppRegCfgTbl _ _), value, ne_eq, ne_eq, zero]
  refine ⟨fun nonzero => ⟨?_, nonzero⟩, fun both => both.2⟩
  rintro (unknown | outside)
  · apply nonzero
    have bits (c : ℕ) (low : c < 4) : (stageNumber stages stageCfg rect).testBit c = false := by
      rw [← holds rect listed c low, tableWire_unknown _ unknown]
      rfl
    apply Nat.eq_of_testBit_eq
    intro c
    rw [Nat.zero_testBit]
    by_cases low : c < 4
    · exact bits c low
    · exact Nat.testBit_lt_two_pow (Nat.lt_of_lt_of_le bound
        (Nat.pow_le_pow_right (by omega) (Nat.not_lt.mp low)))
  · omega

theorem nodup_rects : rects.Nodup := by decide

theorem agrees_iff_fieldsHold (valid : lm < 8) (mixer : mixerStages ctx.mixerHwCaps lm = stages)
    (once : StagedOnce stages stageCfg) (hw : ℕ → Word) :
    Agrees ctx lm stages stageCfg hw ↔
      FieldsHold stages stageCfg (blendLayers ctx lm stageCfg) := by
  have small := (stages_of_mixer mixer).1
  have read : readLayers lm (setupBlendstage ctx lm stageCfg hw) = blendLayers ctx lm stageCfg :=
    readLayers_setupBlendstage valid hw
  constructor
  · intro agrees
    rw [fieldsHold_iff small]
    intro rect listed
    rcases stageNumber_cases stages stageCfg ((mem_rects rect).mp listed) with
      ⟨zero, absent⟩ | ⟨i, number, staged⟩
    · rw [zero, ← read]
      exact agrees.free rect ((mem_rects rect).mp listed) absent
    · rw [number, ← read]
      exact agrees.staged i rect staged
  · intro holds
    have values := (fieldsHold_iff small _).mp holds
    refine ⟨?_, ?_, ?_⟩
    · intro i rect staged
      obtain ⟨_, _, _, pipe, _⟩ := id staged
      rw [read, values rect ((mem_rects rect).mpr pipe), staged.number once]
    · intro rect pipe absent
      rcases stageNumber_cases stages stageCfg pipe with ⟨zero, -⟩ | ⟨i, -, staged⟩
      · rw [read, values rect ((mem_rects rect).mpr pipe), zero]
      · exact absurd staged (absent i)
    · intro listed nodup member room enough
      have same : (rects.filter fun rect => decide (stageNumber stages stageCfg rect ≠ 0)).Perm
          listed := by
        refine (List.perm_ext_iff_of_nodup (nodup_rects.filter _) nodup).mpr fun rect => ?_
        rw [List.mem_filter, decide_eq_true_eq, member rect]
        constructor
        · rintro ⟨known, number⟩
          rcases stageNumber_cases stages stageCfg ((mem_rects rect).mp known) with
            ⟨zero, -⟩ | ⟨i, -, staged⟩
          · exact absurd zero number
          · exact ⟨i, staged⟩
        · rintro ⟨i, staged⟩
          obtain ⟨_, _, _, pipe, _⟩ := id staged
          exact ⟨(mem_rects rect).mpr pipe, by rw [staged.number once]; omega⟩
      rw [getStagedSspp, if_neg (by omega), read, stagedRects_eq_filter _ _
        (fun rect known => holds.found small known) (same.length_eq ▸ enough)]
      exact same

end Written

/-- Writer and reader agree on a configuration that stages every rectangle at most once exactly when
    it is consistent. -/
theorem blendstage_agrees_iff (ctx : HwCtl) (lm stages : ℕ) (stageCfg : Option StageCfg)
    (hw : ℕ → Word) (valid : lm < 8) (mixer : mixerStages ctx.mixerHwCaps lm = stages)
    (once : StagedOnce stages stageCfg) :
    Agrees ctx lm stages stageCfg hw ↔ Consistent ctx stages stageCfg := by
  rw [agrees_iff_fieldsHold valid mixer once hw]
  exact ⟨fun holds => holds.consistent mixer once, fun consistent =>
    consistent.fieldsHold mixer once⟩

/-! ## Three pipes, and one at the base stage -/

def StageCfg.base (pipe : Sspp) : StageCfg where
  stage i j := if i = 0 ∧ j = 0 then pipe else .none
  multirectIndex _ _ := .rectSolo

def oneMixer : HwCtl where
  mixerHwCaps := [{ id := 1, maxblendstages := 11, sourcesplit := true, fits := by decide }]

theorem StageCfg.base_stage {pipe : Sspp} {j : ℕ} (used : (base pipe).stage i j ≠ .none) :
    i = 0 ∧ j = 0 := by
  by_contra other
  exact used (if_neg other)

theorem stagedOnce_base (stages : ℕ) (pipe : Sspp) (known : pipe ≠ .none) :
    StagedOnce stages (some (.base pipe)) := by
  rintro cfg ⟨⟩ i - j - i' - j' - used same
  obtain ⟨rfl, rfl⟩ := StageCfg.base_stage used
  have used' : (StageCfg.base pipe).stage i' j' ≠ .none := by
    rw [← (Prod.mk.inj same).1]
    exact known
  obtain ⟨rfl, rfl⟩ := StageCfg.base_stage used'
  exact ⟨rfl, rfl⟩

def twoHigh : StageCfg where
  stage i j :=
    if i = 0 ∧ j = 0 then .vig1
    else if i = 8 ∧ j = 0 then .dma2
    else if i = 8 ∧ j = 1 then .vig0
    else .none
  multirectIndex _ _ := .rectSolo

theorem twoHigh_stage {j : ℕ} (used : twoHigh.stage i j ≠ .none) :
    (i = 0 ∧ j = 0) ∨ (i = 8 ∧ j = 0) ∨ (i = 8 ∧ j = 1) := by
  simp only [twoHigh] at used
  split_ifs at used with base dma vig
  · exact .inl base
  · exact .inr (.inl dma)
  · exact .inr (.inr vig)
  · exact absurd rfl used

theorem stagedOnce_twoHigh : StagedOnce 11 (some twoHigh) := by
  rintro cfg ⟨⟩ i - j - i' - j' - used same
  have used' : twoHigh.stage i' j' ≠ .none := by
    rw [← (Prod.mk.inj same).1]
    exact used
  obtain ⟨rfl, rfl⟩ | ⟨rfl, rfl⟩ | ⟨rfl, rfl⟩ := twoHigh_stage used <;>
    obtain ⟨rfl, rfl⟩ | ⟨rfl, rfl⟩ | ⟨rfl, rfl⟩ := twoHigh_stage used' <;>
    simp_all [twoHigh, StageCfg.rect]

/-- VIG0 behind DMA2 in stage 8, and VIG1, into whose field the changed `mix` of VIG0 runs, with
    number 1. -/
theorem blendstage_agrees_twoHigh : Agrees oneMixer 1 11 (some twoHigh) fun _ => 0#32 := by
  refine (blendstage_agrees_iff oneMixer 1 11 _ _ (by omega) rfl stagedOnce_twoHigh).mpr
    ⟨?_, ?_, ?_, by decide⟩
  · rintro i rect ⟨cfg, ⟨⟩, -, pipe, j, -, rfl⟩
    obtain ⟨rfl, rfl⟩ | ⟨rfl, rfl⟩ | ⟨rfl, rfl⟩ := twoHigh_stage pipe <;> decide
  · rintro cfg ⟨⟩ i - j slot beyond
    exact absurd (Nat.lt_of_lt_of_le slot beyond) (Nat.lt_irrefl _)
  · rintro cfg ⟨⟩ i - j - high changed next into
    obtain ⟨rfl, rfl⟩ | ⟨rfl, rfl⟩ | ⟨rfl, rfl⟩ := twoHigh_stage (carriesInto_known into).1
    · omega
    · exact absurd changed (by decide)
    · cases into
      decide

/-- VIG3 alone at the base stage: the table has CURSOR1 on the bits of VIG3, so that the reader
    returns CURSOR1 as well. -/
theorem not_blendstage_agrees : ¬∀ (ctx : HwCtl) (lm stages : ℕ) (stageCfg : Option StageCfg)
    (hw : ℕ → Word), lm < 8 → mixerStages ctx.mixerHwCaps lm = stages →
      StagedOnce stages stageCfg → Agrees ctx lm stages stageCfg hw := by
  intro every
  have once := stagedOnce_base 11 .vig3 nofun
  have mixer : mixerStages oneMixer.mixerHwCaps 1 = (11 : ℕ) := rfl
  have agrees := every oneMixer 1 11 (some (.base .vig3)) (fun _ => 0#32) (by omega) mixer once
  have holds := (agrees_iff_fieldsHold (by omega) mixer once _).mp agrees
  exact absurd (holds.consistent mixer once).cursor (by decide)

end DisplayDrivers.Ctl
