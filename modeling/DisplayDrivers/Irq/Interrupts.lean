import DisplayDrivers.Lib.Fields
import Mathlib.Data.List.Nodup
import Mathlib.Logic.Function.Basic

/-! # The interrupt registers of the display controller

`sde_hw_interrupts.c` reaches an interrupt through `irq_idx`, an index of `sde_irq_map`: thirty-two
entries a register, each with the bit it has there.
-/

namespace DisplayDrivers.Irq

open Lib.Fields

abbrev Word := BitVec 32

def einval : Int := -22

/-! ## The interrupt map -/

def mdssIntrMax : Nat := 18

/-- `mdss_irqs` of the catalog. -/
abbrev MdssIrqs := BitVec mdssIntrMax

def bits (first count : Nat) : List (Option Nat) := (List.range' first count).map some

def reserved (count : Nat) : List (Option Nat) := List.replicate count none

/-- `irq_mask` of the entries of `sde_irq_map`, one register a line: the bit, `none` for a
    reserved entry, whose mask is zero. -/
def sdeIrqMap : List (Option Nat) :=
  bits 0 12 ++ reserved 8 ++ bits 20 12 ++
  -- the overflow of `CWB_1` and the read pointer of `PINGPONG_S0` have the same bit
  (bits 0 1 ++ reserved 3 ++ bits 4 1 ++ reserved 2 ++ bits 8 1 ++ bits 8 6 ++ bits 23 1 ++
    bits 14 9 ++ bits 24 5 ++ reserved 1 ++ bits 30 2) ++
  (bits 0 2 ++ reserved 2 ++ bits 4 2 ++ reserved 2 ++ bits 8 6 ++ reserved 2 ++ bits 16 2 ++
    reserved 2 ++ bits 20 4 ++ reserved 8) ++
  (List.replicate 5 (bits 0 9 ++ reserved 23)).flatten ++
  (List.replicate 2 (bits 0 1 ++ reserved 31)).flatten ++
  (List.replicate 2 (bits 0 3 ++ bits 4 1 ++ reserved 28)).flatten ++
  (List.replicate 6 (bits 0 4 ++ reserved 28)).flatten

/-- `irq_idx_tbl_size`, the number of entries of `sde_irq_map`. -/
def irqIdxTblSize : Int := 576

def InRange (irqIdx : Int) : Prop := 0 ≤ irqIdx ∧ irqIdx < irqIdxTblSize

instance (irqIdx : Int) : Decidable (InRange irqIdx) :=
  inferInstanceAs (Decidable (_ ∧ _))

def irqBit (irqIdx : Int) : Option Nat := (sdeIrqMap[irqIdx.toNat]?).join

def irqMask (irqIdx : Int) : Word :=
  match irqBit irqIdx with
  | some bit => BitVec.twoPow 32 bit
  | none => 0#32

/-- `sde_irq_idx` of the entries of `sde_irq_tbl`: the registers that the target has. -/
def sdeIrqTbl (mdssIrqs : MdssIrqs) : List Nat :=
  (List.range mdssIntrMax).filter mdssIrqs.getLsbD

def sdeIrqSize (mdssIrqs : MdssIrqs) : Int := (sdeIrqTbl mdssIrqs).length

/-- `reg_idx` of an entry of `sde_irq_map`, after `_sde_hw_intr_init_irq_tables`. -/
def regIdx (mdssIrqs : MdssIrqs) (irqIdx : Int) : Int :=
  if irqIdx.toNat / 32 ∈ sdeIrqTbl mdssIrqs then
    ((sdeIrqTbl mdssIrqs).idxOf (irqIdx.toNat / 32) : Nat)
  -- the initialiser of the second entry, of the write-back done of `WB_1`
  else if irqIdx = 1 then 0
  else -1

/-! ## The registers -/

structure HwIntr where
  status : Int → Word
  en : Int → Word
  cacheIrqMask : Int → Word
  saveIrqStatus : Int → Word

def HwIntr.writeClr (intr : HwIntr) (reg : Int) (mask : Word) : HwIntr :=
  { intr with status := Function.update intr.status reg (intr.status reg &&& ~~~mask) }

def HwIntr.writeEn (intr : HwIntr) (reg : Int) (mask : Word) : HwIntr :=
  { intr with en := Function.update intr.en reg mask }

def HwIntr.setCache (intr : HwIntr) (reg : Int) (mask : Word) : HwIntr :=
  { intr with cacheIrqMask := Function.update intr.cacheIrqMask reg mask }

/-- The checks that the operations make of `reg_idx`. -/
def HasReg (mdssIrqs : MdssIrqs) (irqIdx : Int) : Prop :=
  ¬(regIdx mdssIrqs irqIdx < 0 ∨ regIdx mdssIrqs irqIdx > sdeIrqSize mdssIrqs)

instance (mdssIrqs : MdssIrqs) (irqIdx : Int) : Decidable (HasReg mdssIrqs irqIdx) :=
  inferInstanceAs (Decidable (¬_))

section
variable (mdssIrqs : MdssIrqs) (irqIdx : Int) (intr : HwIntr)

def enableIrq : HwIntr × Int :=
  if ¬InRange irqIdx then (intr, einval)
  else if ¬HasReg mdssIrqs irqIdx then (intr, einval)
  else
    let reg := regIdx mdssIrqs irqIdx
    let cacheIrqMask := intr.cacheIrqMask reg
    -- "SDE IRQ already set"
    if cacheIrqMask &&& irqMask irqIdx ≠ 0#32 then (intr, 0)
    else
      let cacheIrqMask := cacheIrqMask ||| irqMask irqIdx
      (((intr.writeClr reg (irqMask irqIdx)).writeEn reg cacheIrqMask).setCache reg cacheIrqMask, 0)

def disableIrqNolock : HwIntr × Int :=
  if ¬InRange irqIdx then (intr, einval)
  else if ¬HasReg mdssIrqs irqIdx then (intr, einval)
  else
    let reg := regIdx mdssIrqs irqIdx
    let cacheIrqMask := intr.cacheIrqMask reg
    -- "SDE IRQ is already cleared"
    if cacheIrqMask &&& irqMask irqIdx = 0#32 then (intr, 0)
    else
      let cacheIrqMask := cacheIrqMask &&& ~~~irqMask irqIdx
      (((intr.writeEn reg cacheIrqMask).writeClr reg (irqMask irqIdx)).setCache reg cacheIrqMask, 0)

/-- `sde_hw_intr_disable_irq`, which does not look at what the operation returns. -/
def disableIrq : HwIntr × Int :=
  if ¬InRange irqIdx then (intr, einval)
  else ((disableIrqNolock mdssIrqs irqIdx intr).1, 0)

end

/-! ## Enable bits -/

structure Mapped (mdssIrqs : MdssIrqs) (irqIdx : Int) : Prop where
  inRange : InRange irqIdx
  hasReg : HasReg mdssIrqs irqIdx
  hasBit : irqBit irqIdx ≠ none

def Enabled (mdssIrqs : MdssIrqs) (intr : HwIntr) (irqIdx : Int) : Prop :=
  intr.en (regIdx mdssIrqs irqIdx) &&& irqMask irqIdx ≠ 0#32

instance (mdssIrqs : MdssIrqs) (intr : HwIntr) (irqIdx : Int) :
    Decidable (Enabled mdssIrqs intr irqIdx) := inferInstanceAs (Decidable (¬_))

def SameBit (mdssIrqs : MdssIrqs) (irqIdx other : Int) : Prop :=
  regIdx mdssIrqs irqIdx = regIdx mdssIrqs other ∧ irqBit irqIdx = irqBit other

def HwIntr.Mirrored (intr : HwIntr) : Prop := intr.cacheIrqMask = intr.en

variable {bit : Nat}

set_option maxRecDepth 4000 in
theorem irqBit_lt {irqIdx : Int} (has : irqBit irqIdx = some bit) : bit < 32 := by
  have every : ∀ entry ∈ sdeIrqMap, ∀ bit ∈ entry, bit < 32 := by decide
  rw [irqBit, Option.join_eq_some_iff] at has
  exact every _ (List.mem_of_getElem? has) bit rfl

/-! ## Shared bits -/

def irqPlace (entry : Option Nat × Nat) : Nat := 32 * (entry.2 / 32) + entry.1.getD 0

def irqPlaced : List (Option Nat × Nat) :=
  sdeIrqMap.zipIdx.filter fun entry => entry.1.isSome && entry.2 != 39

set_option maxRecDepth 4000 in
theorem nodup_irqPlace : (irqPlaced.map irqPlace).Nodup :=
  nodup_of_distinct_parts 192 3 (by decide) (by decide)

set_option maxRecDepth 4000 in
theorem irqPlace_shared : ∀ entry ∈ sdeIrqMap.zipIdx, entry.1.isSome →
    irqPlace entry = 40 → entry.2 = 39 ∨ entry.2 = 40 := by decide

theorem mem_zipIdx {irqIdx : Int} (has : irqBit irqIdx = some bit) :
    (some bit, irqIdx.toNat) ∈ sdeIrqMap.zipIdx := by
  rw [irqBit, Option.join_eq_some_iff] at has
  exact List.mk_mem_zipIdx_iff_getElem?.mpr has

theorem irqPlace_cwb {irqIdx : Int} (has : irqBit irqIdx = some bit)
    (here : irqIdx.toNat = 39) : irqPlace (some bit, irqIdx.toNat) = 40 := by
  have entry : sdeIrqMap[39]? = some (some 8) := rfl
  rw [irqBit, here, entry] at has
  rw [here, ← has]
  rfl

variable {other : Int}

theorem irqPlace_inj {irqIdx : Int} (has : irqBit irqIdx = some bit)
    (has' : irqBit other = some bit) (reg : irqIdx.toNat / 32 = other.toNat / 32) :
    irqIdx.toNat = other.toNat ∨ irqIdx.toNat = 39 ∧ other.toNat = 40 ∨
      irqIdx.toNat = 40 ∧ other.toNat = 39 := by
  have listed := mem_zipIdx has
  have listed' := mem_zipIdx has'
  have same : irqPlace (some bit, irqIdx.toNat) = irqPlace (some bit, other.toNat) := by
    rw [irqPlace, irqPlace, reg]
  by_cases shared : irqIdx.toNat = 39 ∨ other.toNat = 39
  · have place : irqPlace (some bit, irqIdx.toNat) = 40 := by
      cases shared with
      | inl here => exact irqPlace_cwb has here
      | inr there => exact same.trans (irqPlace_cwb has' there)
    have one := irqPlace_shared _ listed rfl place
    have two := irqPlace_shared _ listed' rfl (same.symm.trans place)
    dsimp only at one two
    omega
  · have placed : (some bit, irqIdx.toNat) ∈ irqPlaced := by
      simpa [irqPlaced, listed] using fun here => shared (.inl here)
    have placed' : (some bit, other.toNat) ∈ irqPlaced := by
      simpa [irqPlaced, listed'] using fun here => shared (.inr here)
    exact .inl (Prod.mk.inj (List.inj_on_of_nodup_map nodup_irqPlace placed placed' same)).2

section
variable {mdssIrqs : MdssIrqs} {irqIdx : Int} {intr : HwIntr}

theorem mem_sdeIrqTbl (top : mdssIrqs.getLsbD 0 = true) (hasReg : HasReg mdssIrqs irqIdx) :
    irqIdx.toNat / 32 ∈ sdeIrqTbl mdssIrqs := by
  rw [HasReg, regIdx] at hasReg
  split at hasReg
  next listed => exact listed
  next absent =>
    split at hasReg
    next second =>
      subst second
      refine absurd (List.mem_filter.mpr ⟨?_, top⟩) absent
      decide
    next => exact absurd (.inl (by decide)) hasReg

theorem SameBit.eq (top : mdssIrqs.getLsbD 0 = true)
    (mapped : Mapped mdssIrqs other) (mapped' : Mapped mdssIrqs irqIdx)
    (same : SameBit mdssIrqs other irqIdx) :
    other = irqIdx ∨ other = 39 ∧ irqIdx = 40 ∨ other = 40 ∧ irqIdx = 39 := by
  obtain ⟨nonneg, below⟩ := mapped.inRange
  obtain ⟨nonneg', below'⟩ := mapped'.inRange
  rw [irqIdxTblSize] at below below'
  have listed := mem_sdeIrqTbl top mapped.hasReg
  have listed' := mem_sdeIrqTbl top mapped'.hasReg
  have reg := same.1
  rw [regIdx, regIdx, if_pos listed, if_pos listed', Int.ofNat_inj,
    List.idxOf_inj listed] at reg
  obtain ⟨bit, has⟩ := Option.ne_none_iff_exists'.mp mapped.hasBit
  have has' : irqBit irqIdx = some bit := same.2.symm.trans has
  have places := irqPlace_inj has has' reg
  omega

/-! ## What the operations do to the enable bits -/

theorem irqMask_of_bit (has : irqBit irqIdx = some bit) :
    irqMask irqIdx = BitVec.twoPow 32 bit := by
  rw [irqMask, has]

theorem irqMask_of_reserved (none : irqBit irqIdx = none) : irqMask irqIdx = 0#32 := by
  rw [irqMask, none]

theorem and_irqMask (x : Word) :
    x &&& irqMask irqIdx ≠ 0#32 ↔ ∃ bit, irqBit irqIdx = some bit ∧ x.getLsbD bit = true := by
  cases has : irqBit irqIdx with
  | none => simp [irqMask_of_reserved has]
  | some bit =>
    rw [irqMask_of_bit has, and_twoPow_ne_zero x (irqBit_lt has)]
    simp

theorem getLsbD_irqMask (irqIdx : Int) {b : Nat} (inside : b < 32) :
    (irqMask irqIdx).getLsbD b = decide (irqBit irqIdx = some b) := by
  cases has : irqBit irqIdx with
  | none => simp [irqMask_of_reserved has]
  | some bit =>
    rw [irqMask_of_bit has, BitVec.getLsbD_twoPow]
    by_cases same : bit = b
    · simp [same, inside]
    · simp [same]

theorem enabled_writeEn (reg : Int) (mask : Word) (other : Int) :
    Enabled mdssIrqs (intr.writeEn reg mask) other ↔
      if regIdx mdssIrqs other = reg then mask &&& irqMask other ≠ 0#32
      else Enabled mdssIrqs intr other := by
  by_cases here : regIdx mdssIrqs other = reg
  · simp [Enabled, HwIntr.writeEn, here]
  · simp [Enabled, HwIntr.writeEn, here]

theorem enabled_writeEn_or (other : Int) :
    Enabled mdssIrqs (intr.writeEn (regIdx mdssIrqs irqIdx)
        (intr.en (regIdx mdssIrqs irqIdx) ||| irqMask irqIdx)) other ↔
      Enabled mdssIrqs intr other ∨ SameBit mdssIrqs other irqIdx ∧ irqBit other ≠ none := by
  rw [enabled_writeEn, SameBit]
  by_cases here : regIdx mdssIrqs other = regIdx mdssIrqs irqIdx
  · rw [if_pos here, Enabled, here, and_irqMask, and_irqMask]
    cases has : irqBit other with
    | none => simp
    | some bit =>
      have lit := getLsbD_irqMask irqIdx (irqBit_lt has)
      simp [lit, eq_comm (a := some bit)]
  · simp [here]

theorem enabled_writeEn_andNot (other : Int) :
    Enabled mdssIrqs (intr.writeEn (regIdx mdssIrqs irqIdx)
        (intr.en (regIdx mdssIrqs irqIdx) &&& ~~~irqMask irqIdx)) other ↔
      Enabled mdssIrqs intr other ∧ ¬SameBit mdssIrqs other irqIdx := by
  rw [enabled_writeEn, SameBit]
  by_cases here : regIdx mdssIrqs other = regIdx mdssIrqs irqIdx
  · rw [if_pos here, Enabled, here, and_irqMask, and_irqMask]
    cases has : irqBit other with
    | none => simp
    | some bit =>
      have lit := getLsbD_irqMask irqIdx (irqBit_lt has)
      have cleared : (~~~irqMask irqIdx).getLsbD bit = !(irqMask irqIdx).getLsbD bit := by
        rw [BitVec.getLsbD_not, decide_eq_true (irqBit_lt has), Bool.true_and]
      simp [-BitVec.getLsbD_not, cleared, lit, eq_comm (a := some bit)]
  · simp [here]

theorem mirrored_enableIrq (mirrored : intr.Mirrored) :
    (enableIrq mdssIrqs irqIdx intr).1.Mirrored := by
  rw [enableIrq]
  split
  next => exact mirrored
  next =>
    split
    next => exact mirrored
    next =>
      dsimp only
      split
      next => exact mirrored
      next => exact congrArg (Function.update · _ _) mirrored

theorem enableIrq_ret (inRange : InRange irqIdx) (hasReg : HasReg mdssIrqs irqIdx) :
    (enableIrq mdssIrqs irqIdx intr).2 = 0 := by
  rw [enableIrq, if_neg (not_not_intro inRange), if_neg (not_not_intro hasReg)]
  dsimp only
  split <;> rfl

theorem enabled_enableIrq (inRange : InRange irqIdx) (hasReg : HasReg mdssIrqs irqIdx)
    (mirrored : intr.Mirrored) (other : Int) :
    Enabled mdssIrqs (enableIrq mdssIrqs irqIdx intr).1 other ↔
      Enabled mdssIrqs intr other ∨ SameBit mdssIrqs other irqIdx ∧ irqBit other ≠ none := by
  rw [enableIrq, if_neg (not_not_intro inRange), if_neg (not_not_intro hasReg)]
  dsimp only
  rw [mirrored]
  split
  next already =>
    -- nothing is written, and the bit that would be is set
    have same : SameBit mdssIrqs other irqIdx → Enabled mdssIrqs intr other := by
      rintro ⟨reg, bit⟩
      rw [Enabled, reg, irqMask, bit]
      exact already
    constructor
    · exact .inl
    · rintro (before | ⟨shared, -⟩)
      · exact before
      · exact same shared
  next => exact enabled_writeEn_or other

theorem mirrored_disableIrqNolock (mirrored : intr.Mirrored) :
    (disableIrqNolock mdssIrqs irqIdx intr).1.Mirrored := by
  rw [disableIrqNolock]
  split
  next => exact mirrored
  next =>
    split
    next => exact mirrored
    next =>
      dsimp only
      split
      next => exact mirrored
      next => exact congrArg (Function.update · _ _) mirrored

theorem mirrored_disableIrq (mirrored : intr.Mirrored) :
    (disableIrq mdssIrqs irqIdx intr).1.Mirrored := by
  rw [disableIrq]
  split
  next => exact mirrored
  next => exact mirrored_disableIrqNolock mirrored

theorem disableIrq_ret (inRange : InRange irqIdx) :
    (disableIrq mdssIrqs irqIdx intr).2 = 0 := by
  rw [disableIrq, if_neg (not_not_intro inRange)]

theorem enabled_disableIrq (inRange : InRange irqIdx) (mirrored : intr.Mirrored)
    (mapped : Mapped mdssIrqs other) :
    Enabled mdssIrqs (disableIrq mdssIrqs irqIdx intr).1 other ↔
      Enabled mdssIrqs intr other ∧ ¬SameBit mdssIrqs other irqIdx := by
  rw [disableIrq, if_neg (not_not_intro inRange), disableIrqNolock, if_neg (not_not_intro inRange)]
  split
  next noReg =>
    -- without a register the interrupt shares its bit with none that is mapped
    have apart : ¬SameBit mdssIrqs other irqIdx := by
      rintro ⟨reg, -⟩
      refine noReg ?_
      rw [HasReg, ← reg]
      exact mapped.hasReg
    simp [apart]
  next =>
    dsimp only
    rw [mirrored]
    split
    next already =>
      have same : Enabled mdssIrqs intr other → ¬SameBit mdssIrqs other irqIdx := by
        rintro set ⟨reg, bit⟩
        rw [Enabled, reg, irqMask, bit] at set
        exact set already
      constructor
      · intro set
        exact ⟨set, same set⟩
      · exact And.left
    next => exact enabled_writeEn_andNot other

end

end DisplayDrivers.Irq
