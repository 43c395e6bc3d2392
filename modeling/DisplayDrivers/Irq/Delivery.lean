import DisplayDrivers.Irq.Interrupts
import DisplayDrivers.Lib.Fair
import Mathlib.Data.List.GetD
import Mathlib.Data.Prod.Lex

/-! # The interrupt handler

`sde_core_irq` first takes a snapshot of the status registers and clears what it has read, then it
looks for the entries of the interrupt map whose bits are in the snapshot.
-/

namespace DisplayDrivers.Irq

open Lib.Fair

/-- Where `sde_core_irq` is.  `scanning` is at the head of the loop over the thirty-two entries of
    a register, `calling` in the callback handler of entry `k`, with the callbacks still to run. -/
inductive Stage
  | idle
  | reading (reg : Nat)
  | clearing (reg : Nat)
  | scanning (reg k : Nat) (irqStatus : Word)
  | calling (reg k : Nat) (irqStatus : Word) (rest : List Nat)
deriving DecidableEq

structure Isr where
  stage : Stage
  intr : HwIntr

inductive Input
  | raise (irqIdx : Int)
  | go
  | wait

section
variable (mdssIrqs : MdssIrqs) (irqCbTbl : Int → List Nat)

def startIdx (reg : Nat) : Nat := 32 * (sdeIrqTbl mdssIrqs).getD reg 0

def irqIdxAt (reg k : Nat) : Int := (startIdx mdssIrqs reg + k : Nat)

/-- The head of the loop over the registers in `sde_hw_intr_dispatch_irq`. -/
def scanFrom (intr : HwIntr) (reg : Nat) : Stage :=
  if reg < (sdeIrqTbl mdssIrqs).length then .scanning reg 0 (intr.saveIrqStatus reg) else .idle

/-- The head of the loop in `sde_hw_intr_get_interrupt_statuses`. -/
def readFrom (intr : HwIntr) (reg : Nat) : Stage :=
  if reg < (sdeIrqTbl mdssIrqs).length then .reading reg else scanFrom mdssIrqs intr 0

def HwIntr.readStatus (intr : HwIntr) (reg : Nat) : HwIntr :=
  { intr with saveIrqStatus := Function.update intr.saveIrqStatus reg (intr.status reg) }

def HwIntr.clearSaved (intr : HwIntr) (reg : Nat) : HwIntr :=
  let save := intr.saveIrqStatus reg
  let cleared := if save ≠ 0#32 then intr.writeClr reg save else intr
  { cleared with saveIrqStatus := Function.update intr.saveIrqStatus reg (save &&& intr.en reg) }

def clearIntrStatusNolock (irqIdx : Int) (intr : HwIntr) : HwIntr :=
  if ¬HasReg mdssIrqs irqIdx then intr
  else intr.writeClr (regIdx mdssIrqs irqIdx) (irqMask irqIdx)

def scan (intr : HwIntr) (reg k : Nat) (irqStatus : Word) : Stage :=
  let irqIdx := irqIdxAt mdssIrqs reg k
  if irqIdxTblSize ≤ startIdx mdssIrqs reg ∨ irqIdxTblSize < startIdx mdssIrqs reg + 32 then
    scanFrom mdssIrqs intr (reg + 1)
  else if k < 32 ∧ irqStatus ≠ 0#32 then
    if irqStatus &&& irqMask irqIdx ≠ 0#32 ∧ regIdx mdssIrqs irqIdx = reg then
      .calling reg k irqStatus (irqCbTbl irqIdx)
    else .scanning reg (k + 1) irqStatus
  else scanFrom mdssIrqs intr (reg + 1)

def Isr.goFrom (s : Isr) : Stage → Isr
  | .idle => { s with stage := readFrom mdssIrqs s.intr 0 }
  | .reading reg => ⟨.clearing reg, s.intr.readStatus reg⟩
  | .clearing reg =>
    ⟨readFrom mdssIrqs (s.intr.clearSaved reg) (reg + 1), s.intr.clearSaved reg⟩
  | .scanning reg k irqStatus =>
    { s with stage := scan mdssIrqs irqCbTbl s.intr reg k irqStatus }
  -- `cb->func(cb->arg, irq_idx)`
  | .calling reg k irqStatus (_ :: rest) => { s with stage := .calling reg k irqStatus rest }
  | .calling reg k irqStatus [] =>
    let irqIdx := irqIdxAt mdssIrqs reg k
    ⟨.scanning reg (k + 1) (irqStatus &&& ~~~irqMask irqIdx),
      clearIntrStatusNolock mdssIrqs irqIdx s.intr⟩

def HwIntr.raise (intr : HwIntr) (irqIdx : Int) : HwIntr :=
  { intr with
    status := Function.update intr.status (regIdx mdssIrqs irqIdx)
      (intr.status (regIdx mdssIrqs irqIdx) ||| irqMask irqIdx) }

def Isr.step (s : Isr) : Input → Isr
  | .raise irqIdx => { s with intr := s.intr.raise mdssIrqs irqIdx }
  | .go => s.goFrom mdssIrqs irqCbTbl s.stage
  | .wait => s

def Starts (irqIdx : Int) (cb : Nat) (s : Isr) (input : Input) : Prop :=
  input = .go ∧ ∃ reg k irqStatus rest, s.stage = .calling reg k irqStatus (cb :: rest) ∧
    irqIdxAt mdssIrqs reg k = irqIdx

def Raised (intr : HwIntr) (irqIdx : Int) : Prop :=
  intr.status (regIdx mdssIrqs irqIdx) &&& irqMask irqIdx ≠ 0#32

end

/-! ## Raised interrupts reach their callbacks

A raise is remembered in the status register until the snapshot of an invocation takes it, and
from then on in the snapshot until the dispatcher comes to its entry.  `Due` says that the current
invocation will run the callback, `Waiting` that the bit is latched and no invocation is about to
clear it.

The dispatcher clears the bit a second time after the callbacks.  A raise that falls between the
start of a callback and this clear is neither `Due` nor `Waiting`; `Undisturbed` excludes it.
-/

/-! ## Entries of the map -/

section
variable {mdssIrqs : MdssIrqs} {intr : HwIntr} {reg k : Nat}

theorem nodup_sdeIrqTbl (mdssIrqs : MdssIrqs) : (sdeIrqTbl mdssIrqs).Nodup :=
  List.nodup_range.filter _

theorem startIdx_le (inside : reg < (sdeIrqTbl mdssIrqs).length) :
    startIdx mdssIrqs reg + 32 ≤ 576 := by
  have listed := List.getElem_mem inside
  have low := List.mem_range.mp (List.mem_of_mem_filter listed)
  rw [mdssIntrMax] at low
  rw [startIdx, List.getD_eq_getElem _ _ inside]
  omega

theorem toNat_irqIdxAt (mdssIrqs : MdssIrqs) (reg k : Nat) :
    (irqIdxAt mdssIrqs reg k).toNat = startIdx mdssIrqs reg + k := Int.toNat_natCast _

theorem block_irqIdxAt (mdssIrqs : MdssIrqs) (reg : Nat) (low : k < 32) :
    (irqIdxAt mdssIrqs reg k).toNat / 32 = (sdeIrqTbl mdssIrqs).getD reg 0 := by
  rw [toNat_irqIdxAt, startIdx]
  omega

theorem regIdx_irqIdxAt (inside : reg < (sdeIrqTbl mdssIrqs).length) (low : k < 32) :
    regIdx mdssIrqs (irqIdxAt mdssIrqs reg k) = reg := by
  have block := block_irqIdxAt mdssIrqs reg low
  rw [List.getD_eq_getElem _ _ inside] at block
  rw [regIdx, block, if_pos (List.getElem_mem inside),
    (nodup_sdeIrqTbl mdssIrqs).idxOf_getElem reg inside]

theorem hasReg_irqIdxAt (inside : reg < (sdeIrqTbl mdssIrqs).length) (low : k < 32) :
    HasReg mdssIrqs (irqIdxAt mdssIrqs reg k) := by
  rw [HasReg, regIdx_irqIdxAt inside low, sdeIrqSize]
  omega

structure Place (mdssIrqs : MdssIrqs) where
  reg : Nat
  pos : Nat
  bit : Nat
  inside : reg < (sdeIrqTbl mdssIrqs).length
  low : pos < 32
  hasBit : irqBit (irqIdxAt mdssIrqs reg pos) = some bit

namespace Place

variable (place : Place mdssIrqs)

def irqIdx : Int := irqIdxAt mdssIrqs place.reg place.pos

theorem regIdx_irqIdx : regIdx mdssIrqs place.irqIdx = place.reg :=
  regIdx_irqIdxAt place.inside place.low

theorem irqBit_irqIdx : irqBit place.irqIdx = some place.bit := place.hasBit

theorem earlier (first : place.irqIdx ≠ 40) (before : k < place.pos) :
    irqBit (irqIdxAt mdssIrqs place.reg k) ≠ some place.bit := by
  intro has
  have low := place.low
  have block : (irqIdxAt mdssIrqs place.reg k).toNat / 32 = place.irqIdx.toNat / 32 := by
    rw [irqIdx, block_irqIdxAt _ _ (by omega), block_irqIdxAt _ _ place.low]
  have places := irqPlace_inj has place.irqBit_irqIdx block
  rw [irqIdx, irqIdxAt] at first
  rw [irqIdx, toNat_irqIdxAt, toNat_irqIdxAt] at places
  omega

end Place

theorem exists_place {irqIdx : Int} (mapped : Mapped mdssIrqs irqIdx)
    (listed : irqIdx.toNat / 32 ∈ sdeIrqTbl mdssIrqs) :
    ∃ place : Place mdssIrqs, place.irqIdx = irqIdx := by
  obtain ⟨bit, hasBit⟩ := Option.ne_none_iff_exists'.mp mapped.hasBit
  obtain ⟨reg, inside, block⟩ := List.getElem_of_mem listed
  have nonneg := mapped.inRange.1
  have entry : irqIdxAt mdssIrqs reg (irqIdx.toNat % 32) = irqIdx := by
    rw [irqIdxAt, startIdx, List.getD_eq_getElem _ _ inside, block]
    omega
  have hasBit' : irqBit (irqIdxAt mdssIrqs reg (irqIdx.toNat % 32)) = some bit := by
    rw [entry]
    exact hasBit
  exact ⟨⟨reg, irqIdx.toNat % 32, bit, inside, by omega, hasBit'⟩, entry⟩

/-! ## Where a raise is remembered -/

variable (place : Place mdssIrqs)

def Latched (intr : HwIntr) : Prop := (intr.status place.reg).getLsbD place.bit = true

def Saved (intr : HwIntr) : Prop := (intr.saveIrqStatus place.reg).getLsbD place.bit = true

def Due (cb : Nat) (intr : HwIntr) : Stage → Prop
  | .idle => Latched place intr
  | .reading reg => if reg ≤ place.reg then Latched place intr else Saved place intr
  | .clearing reg => if reg < place.reg then Latched place intr else Saved place intr
  | .scanning reg k irqStatus => reg < place.reg ∧ Saved place intr ∨
      reg = place.reg ∧ k ≤ place.pos ∧ irqStatus.getLsbD place.bit = true
  | .calling reg k irqStatus rest => reg < place.reg ∧ Saved place intr ∨
      reg = place.reg ∧ (k < place.pos ∧ irqStatus.getLsbD place.bit = true ∨
        k = place.pos ∧ cb ∈ rest)

def InHandler : Stage → Prop
  | .calling reg k _ _ => reg = place.reg ∧ k = place.pos
  | _ => False

def StageInv (mdssIrqs : MdssIrqs) : Stage → Prop
  | .scanning reg k irqStatus => reg < (sdeIrqTbl mdssIrqs).length ∧
      ∀ j < k, irqStatus &&& irqMask (irqIdxAt mdssIrqs reg j) = 0#32
  | .calling reg k irqStatus _ => reg < (sdeIrqTbl mdssIrqs).length ∧ k < 32 ∧
      (∀ j < k, irqStatus &&& irqMask (irqIdxAt mdssIrqs reg j) = 0#32) ∧
      irqStatus &&& irqMask (irqIdxAt mdssIrqs reg k) ≠ 0#32
  | _ => True

def stageRank (mdssIrqs : MdssIrqs) : Stage → ℕ ×ₗ ℕ ×ₗ ℕ
  | .idle => toLex (3 * (sdeIrqTbl mdssIrqs).length + 3, toLex (0, 0))
  | .reading reg => toLex
      (2 * ((sdeIrqTbl mdssIrqs).length - reg) + (sdeIrqTbl mdssIrqs).length + 2, toLex (0, 0))
  | .clearing reg => toLex
      (2 * ((sdeIrqTbl mdssIrqs).length - reg) + (sdeIrqTbl mdssIrqs).length + 1, toLex (0, 0))
  | .scanning reg k _ => toLex ((sdeIrqTbl mdssIrqs).length - reg, toLex (2 * (32 - k) + 1, 0))
  | .calling reg k _ rest =>
      toLex ((sdeIrqTbl mdssIrqs).length - reg, toLex (2 * (32 - k), rest.length))

theorem lex_fst {β : Type} [LT β] {a b : ℕ} (less : a < b) (x y : β) :
    toLex (a, x) < toLex (b, y) :=
  Prod.Lex.toLex_lt_toLex.mpr (.inl less)

theorem lex_snd {b c : ℕ} (a : ℕ) (less : b < c) (x y : ℕ) :
    toLex (a, toLex (b, x)) < toLex (a, toLex (c, y)) :=
  Prod.Lex.toLex_lt_toLex.mpr (.inr ⟨rfl, lex_fst less _ _⟩)

/-! ## The registers -/

theorem getLsbD_mask_of_ne {other : Int} (apart : irqBit other ≠ some place.bit) :
    (irqMask other).getLsbD place.bit = false := by
  rw [getLsbD_irqMask other (irqBit_lt place.hasBit), decide_eq_false_iff_not]
  exact apart

theorem and_mask_place (x : Word) :
    x &&& irqMask place.irqIdx ≠ 0#32 ↔ x.getLsbD place.bit = true := by
  rw [and_irqMask, place.irqBit_irqIdx]
  simp

theorem getLsbD_andNot (x mask : Word) {b : Nat} (inside : b < 32) :
    (x &&& ~~~mask).getLsbD b = (x.getLsbD b && !mask.getLsbD b) := by
  rw [BitVec.getLsbD_and, BitVec.getLsbD_not, decide_eq_true inside, Bool.true_and]

variable (other : Nat)

theorem latched_writeClr (mask : Word) : Latched place (intr.writeClr other mask) ↔
      Latched place intr ∧ (other = place.reg → mask.getLsbD place.bit = false) := by
  by_cases here : other = place.reg
  · simp only [Latched, HwIntr.writeClr, here, Function.update_self,
      getLsbD_andNot _ _ (irqBit_lt place.hasBit), Bool.and_eq_true, Bool.not_eq_true',
      forall_const]
  · have apart : (place.reg : Int) ≠ other := by omega
    simp only [Latched, HwIntr.writeClr, Function.update_of_ne apart, here, false_implies,
      and_true]

theorem latched_readStatus : Latched place (intr.readStatus other) ↔ Latched place intr := Iff.rfl

theorem saved_readStatus : Saved place (intr.readStatus other) ↔
      if other = place.reg then Latched place intr else Saved place intr := by
  by_cases here : other = place.reg
  · simp only [Saved, HwIntr.readStatus, here, Function.update_self, if_true, Latched]
  · have apart : (place.reg : Int) ≠ other := by omega
    simp only [Saved, HwIntr.readStatus, Function.update_of_ne apart, here, if_false]

theorem latched_clearSaved : Latched place (intr.clearSaved other) ↔
      Latched place intr ∧ (other = place.reg → ¬Saved place intr) := by
  have cleared : Latched place (intr.clearSaved other) ↔
      Latched place (if intr.saveIrqStatus other ≠ 0#32 then
        intr.writeClr other (intr.saveIrqStatus other) else intr) := Iff.rfl
  rw [cleared]
  split
  next nonzero =>
    rw [latched_writeClr]
    refine and_congr_right fun _ => ?_
    by_cases here : other = place.reg
    · simp [here, Saved]
    · simp [here]
  next zero =>
    -- nothing was read, so there is nothing to clear
    have unsaved : other = place.reg → ¬Saved place intr := by
      rintro rfl saved
      rw [Saved, not_not.mp zero] at saved
      simp at saved
    exact (and_iff_left unsaved).symm

theorem saved_clearSaved (enabled : Enabled mdssIrqs intr place.irqIdx) :
    Saved place (intr.clearSaved other) ↔ Saved place intr := by
  rw [Enabled, place.regIdx_irqIdx, and_mask_place] at enabled
  by_cases here : other = place.reg
  · simp [Saved, HwIntr.clearSaved, here, enabled]
  · have apart : (place.reg : Int) ≠ other := by omega
    simp only [Saved, HwIntr.clearSaved, Function.update_of_ne apart]

theorem latched_clearIntrStatus (inside : reg < (sdeIrqTbl mdssIrqs).length) (low : k < 32)
    (apart : reg = place.reg → irqBit (irqIdxAt mdssIrqs reg k) ≠ some place.bit)
    (latched : Latched place intr) :
    Latched place (clearIntrStatusNolock mdssIrqs (irqIdxAt mdssIrqs reg k) intr) := by
  rw [clearIntrStatusNolock, if_neg (not_not_intro (hasReg_irqIdxAt inside low)),
    regIdx_irqIdxAt inside low, latched_writeClr]
  exact ⟨latched, fun here => getLsbD_mask_of_ne place (apart here)⟩

theorem saved_clearIntrStatus (other : Int) :
    Saved place (clearIntrStatusNolock mdssIrqs other intr) ↔ Saved place intr := by
  rw [clearIntrStatusNolock]
  split <;> rfl

theorem latched_raise (irqIdx : Int) (latched : Latched place intr) :
    Latched place (intr.raise mdssIrqs irqIdx) := by
  by_cases here : (place.reg : Int) = regIdx mdssIrqs irqIdx
  · rw [Latched, here] at latched
    simp [Latched, HwIntr.raise, here, latched]
  · simpa only [Latched, HwIntr.raise, Function.update_of_ne here] using latched

theorem latched_raise_self : Latched place (intr.raise mdssIrqs place.irqIdx) := by
  have lit : (irqMask place.irqIdx).getLsbD place.bit = true := by
    rw [getLsbD_irqMask _ (irqBit_lt place.hasBit), place.irqBit_irqIdx]
    simp
  rw [Latched, HwIntr.raise, place.regIdx_irqIdx]
  simp [lit]

/-! ## Steps of the handler -/

variable {cb : Nat} {irqCbTbl : Int → List Nat} {irqStatus : Word}

theorem scan_cases (inside : reg < (sdeIrqTbl mdssIrqs).length) :
    (k < 32 ∧ irqStatus &&& irqMask (irqIdxAt mdssIrqs reg k) ≠ 0#32 ∧
      scan mdssIrqs irqCbTbl intr reg k irqStatus =
        .calling reg k irqStatus (irqCbTbl (irqIdxAt mdssIrqs reg k))) ∨
    (k < 32 ∧ irqStatus &&& irqMask (irqIdxAt mdssIrqs reg k) = 0#32 ∧
      scan mdssIrqs irqCbTbl intr reg k irqStatus = .scanning reg (k + 1) irqStatus) ∨
    (¬(k < 32 ∧ irqStatus ≠ 0#32) ∧
      scan mdssIrqs irqCbTbl intr reg k irqStatus = scanFrom mdssIrqs intr (reg + 1)) := by
  have bound := startIdx_le inside
  have fits : ¬(irqIdxTblSize ≤ startIdx mdssIrqs reg ∨
      irqIdxTblSize < startIdx mdssIrqs reg + 32) := by
    rw [irqIdxTblSize]
    omega
  rw [scan, if_neg fits]
  by_cases loop : k < 32 ∧ irqStatus ≠ 0#32
  · rw [if_pos loop, regIdx_irqIdxAt inside loop.1]
    by_cases found : irqStatus &&& irqMask (irqIdxAt mdssIrqs reg k) ≠ 0#32
    · exact .inl ⟨loop.1, found, if_pos ⟨found, rfl⟩⟩
    · exact .inr (.inl ⟨loop.1, not_not.mp found, if_neg fun both => found both.1⟩)
  · exact .inr (.inr ⟨loop, if_neg loop⟩)

theorem stageInv_scanFrom (reg : Nat) : StageInv mdssIrqs (scanFrom mdssIrqs intr reg) := by
  rw [scanFrom]
  split
  next inside => exact ⟨inside, nofun⟩
  next => trivial

theorem stageInv_readFrom (reg : Nat) : StageInv mdssIrqs (readFrom mdssIrqs intr reg) := by
  rw [readFrom]
  split
  next => trivial
  next => exact stageInv_scanFrom 0

theorem stageInv_step (s : Isr) (input : Input) (inv : StageInv mdssIrqs s.stage) :
    StageInv mdssIrqs (s.step mdssIrqs irqCbTbl input).stage := by
  cases input with
  | raise irqIdx => exact inv
  | wait => exact inv
  | go =>
    rw [Isr.step]
    cases stage : s.stage with
    | idle => exact stageInv_readFrom 0
    | reading reg => trivial
    | clearing reg => exact stageInv_readFrom (reg + 1)
    | scanning reg k irqStatus =>
      rw [stage] at inv
      obtain ⟨inside, done⟩ := inv
      rw [Isr.goFrom]
      rcases scan_cases inside with ⟨low, found, eq⟩ | ⟨low, none, eq⟩ | ⟨-, eq⟩
      · rw [eq]
        exact ⟨inside, low, done, found⟩
      · rw [eq]
        refine ⟨inside, fun j before => ?_⟩
        cases Nat.lt_succ_iff_lt_or_eq.mp before with
        | inl earlier => exact done j earlier
        | inr here => exact here ▸ none
      · rw [eq]
        exact stageInv_scanFrom (reg + 1)
    | calling reg k irqStatus rest =>
      rw [stage] at inv
      cases rest with
      | cons cb rest => exact inv
      | nil =>
        obtain ⟨inside, low, done, -⟩ := inv
        refine ⟨inside, fun j before => ?_⟩
        rw [BitVec.and_assoc, BitVec.and_comm _ (irqMask _), ← BitVec.and_assoc]
        cases Nat.lt_succ_iff_lt_or_eq.mp before with
        | inl earlier => rw [done j earlier, BitVec.zero_and]
        | inr here => simp [here, BitVec.and_assoc]

theorem rank_scanFrom (inside : reg + 1 < (sdeIrqTbl mdssIrqs).length) (k : Nat)
    (irqStatus : Word) : stageRank mdssIrqs (scanFrom mdssIrqs intr (reg + 1)) <
      stageRank mdssIrqs (.scanning reg k irqStatus) := by
  rw [scanFrom, if_pos inside]
  exact lex_fst (by omega) _ _

theorem rank_readFrom (some : 0 < (sdeIrqTbl mdssIrqs).length) (reg : Nat) :
    stageRank mdssIrqs (readFrom mdssIrqs intr (reg + 1)) < stageRank mdssIrqs (.clearing reg) := by
  rw [readFrom]
  split
  next => exact lex_fst (by omega) _ _
  next =>
    rw [scanFrom, if_pos some]
    exact lex_fst (by omega) _ _

theorem rank_calling {next : Nat} {rest : List Nat} :
    stageRank mdssIrqs (.calling reg k irqStatus rest) <
      stageRank mdssIrqs (.calling reg k irqStatus (next :: rest)) :=
  Prod.Lex.toLex_lt_toLex.mpr (.inr ⟨rfl, Prod.Lex.toLex_lt_toLex.mpr
    (.inr ⟨rfl, Nat.lt_succ_self _⟩)⟩)

theorem due_scanFrom (saved : Saved place intr) (before : reg ≤ place.reg) :
    Due place cb intr (scanFrom mdssIrqs intr reg) := by
  have inside : reg < (sdeIrqTbl mdssIrqs).length := lt_of_le_of_lt before place.inside
  rw [scanFrom, if_pos inside]
  cases Nat.lt_or_eq_of_le before with
  | inl earlier => exact .inl ⟨earlier, saved⟩
  | inr here =>
    subst here
    exact .inr ⟨rfl, Nat.zero_le _, saved⟩

theorem due_readFrom (kept : if reg ≤ place.reg then Latched place intr else Saved place intr) :
    Due place cb intr (readFrom mdssIrqs intr reg) := by
  have inside := place.inside
  rw [readFrom]
  split
  next => exact kept
  next beyond =>
    rw [if_neg (by omega)] at kept
    exact due_scanFrom place kept (Nat.zero_le _)

theorem outside_scanFrom (reg : Nat) : ¬InHandler place (scanFrom mdssIrqs intr reg) := by
  rw [scanFrom]
  split
  next => exact id
  next => exact id

theorem outside_readFrom (reg : Nat) : ¬InHandler place (readFrom mdssIrqs intr reg) := by
  rw [readFrom]
  split
  next => exact id
  next => exact outside_scanFrom place 0

theorem due_scan (registered : cb ∈ irqCbTbl place.irqIdx)
    (inside : reg < (sdeIrqTbl mdssIrqs).length)
    (due : Due place cb intr (.scanning reg k irqStatus)) :
    Due place cb intr (scan mdssIrqs irqCbTbl intr reg k irqStatus) ∧
      stageRank mdssIrqs (scan mdssIrqs irqCbTbl intr reg k irqStatus) <
        stageRank mdssIrqs (.scanning reg k irqStatus) := by
  have insidePlace := place.inside
  rcases due with ⟨before, saved⟩ | ⟨rfl, notPast, lit⟩
  · rcases scan_cases inside with ⟨low, -, eq⟩ | ⟨low, -, eq⟩ | ⟨-, eq⟩
    · rw [eq]
      exact ⟨.inl ⟨before, saved⟩, lex_snd _ (by omega) _ _⟩
    · rw [eq]
      exact ⟨.inl ⟨before, saved⟩, lex_snd _ (by omega) _ _⟩
    · rw [eq]
      exact ⟨due_scanFrom place saved before, rank_scanFrom (by omega) k irqStatus⟩
  · rcases scan_cases inside with ⟨low, -, eq⟩ | ⟨low, none, eq⟩ | ⟨ended, -⟩
    · rw [eq]
      refine ⟨.inr ⟨rfl, ?_⟩, lex_snd _ (by omega) _ _⟩
      cases Nat.lt_or_eq_of_le notPast with
      | inl earlier => exact .inl ⟨earlier, lit⟩
      | inr here =>
        subst here
        exact .inr ⟨rfl, registered⟩
    · rw [eq]
      refine ⟨.inr ⟨rfl, ?_, lit⟩, lex_snd _ (by omega) _ _⟩
      -- the entry of the place itself would have been found
      have notHere : k ≠ place.pos := by
        rintro rfl
        exact (and_mask_place place irqStatus).mpr lit none
      omega
    · have low := place.low
      have nonzero : irqStatus ≠ 0#32 := by
        rintro rfl
        simp at lit
      exact absurd ⟨by omega, nonzero⟩ ended

theorem due_called (first : place.irqIdx ≠ 40)
    (due : Due place cb intr (.calling reg k irqStatus [])) :
    Due place cb (clearIntrStatusNolock mdssIrqs (irqIdxAt mdssIrqs reg k) intr)
      (.scanning reg (k + 1) (irqStatus &&& ~~~irqMask (irqIdxAt mdssIrqs reg k))) := by
  rw [Due, saved_clearIntrStatus]
  rcases due with saved | ⟨rfl, ⟨before, lit⟩ | ⟨rfl, left⟩⟩
  · exact .inl saved
  · have apart := getLsbD_mask_of_ne place (place.earlier first before)
    refine .inr ⟨rfl, before, ?_⟩
    rw [getLsbD_andNot _ _ (irqBit_lt place.hasBit), lit, apart]
    rfl
  · exact nomatch left

theorem due_go {s : Isr} (first : place.irqIdx ≠ 40)
    (enabled : Enabled mdssIrqs s.intr place.irqIdx) (registered : cb ∈ irqCbTbl place.irqIdx)
    (inv : StageInv mdssIrqs s.stage) (due : Due place cb s.intr s.stage) :
    Starts mdssIrqs place.irqIdx cb s .go ∨
      Due place cb (s.step mdssIrqs irqCbTbl .go).intr (s.step mdssIrqs irqCbTbl .go).stage ∧
        stageRank mdssIrqs (s.step mdssIrqs irqCbTbl .go).stage <
          stageRank mdssIrqs s.stage := by
  have insidePlace := place.inside
  rw [Isr.step]
  cases stage : s.stage with
  | idle =>
    rw [stage] at due
    refine .inr ⟨due_readFrom place due, ?_⟩
    rw [Isr.goFrom, readFrom, if_pos (by omega)]
    exact lex_fst (by omega) _ _
  | reading reg =>
    rw [stage] at due
    refine .inr ⟨?_, lex_fst (by omega) _ _⟩
    rw [Due] at due
    rw [Isr.goFrom, Due, saved_readStatus, latched_readStatus]
    rcases Nat.lt_trichotomy reg place.reg with before | here | after
    · rw [if_pos before.le] at due
      rwa [if_pos before]
    · rw [if_pos here.le] at due
      rwa [if_neg (by omega), if_pos here]
    · rw [if_neg (by omega)] at due
      rwa [if_neg (by omega), if_neg (by omega)]
  | clearing reg =>
    rw [stage] at due
    refine .inr ⟨due_readFrom place ?_, rank_readFrom (by omega) reg⟩
    rw [Due] at due
    rw [Isr.goFrom, latched_clearSaved, saved_clearSaved place reg enabled]
    by_cases before : reg < place.reg
    · rw [if_pos before] at due
      rw [if_pos (by omega)]
      exact ⟨due, fun here => absurd here (by omega)⟩
    · rw [if_neg before] at due
      rwa [if_neg (by omega)]
  | scanning reg k irqStatus =>
    rw [stage] at due inv
    exact .inr (due_scan place registered inv.1 due)
  | calling reg k irqStatus rest =>
    rw [stage] at due inv
    obtain ⟨inside, low, -, -⟩ := inv
    cases rest with
    | cons next rest =>
      rcases due with saved | ⟨rfl, earlier | ⟨rfl, left⟩⟩
      · exact .inr ⟨.inl saved, rank_calling⟩
      · exact .inr ⟨.inr ⟨rfl, .inl earlier⟩, rank_calling⟩
      · cases List.mem_cons.mp left with
        | inl now => exact .inl ⟨rfl, _, _, _, _, now ▸ stage, rfl⟩
        | inr later => exact .inr ⟨.inr ⟨rfl, .inr ⟨rfl, later⟩⟩, rank_calling⟩
    | nil => exact .inr ⟨due_called place first due, lex_snd _ (by omega) _ _⟩

theorem latched_called (first : place.irqIdx ≠ 40)
    (inv : StageInv mdssIrqs (.calling reg k irqStatus [])) (latched : Latched place intr)
    (outside : ¬InHandler place (.calling reg k irqStatus [])) :
    Latched place (clearIntrStatusNolock mdssIrqs (irqIdxAt mdssIrqs reg k) intr) := by
  obtain ⟨inside, low, done, found⟩ := inv
  refine latched_clearIntrStatus place inside low ?_ latched
  rintro rfl same
  rcases Nat.lt_trichotomy k place.pos with before | here | after
  · exact place.earlier first before same
  · exact outside ⟨rfl, here⟩
  -- the entry of the place has been dealt with, so its bit is not left
  · have left : irqStatus.getLsbD place.bit = true := by
      obtain ⟨bit, has, lit⟩ := (and_irqMask irqStatus).mp found
      rw [same] at has
      exact Option.some.inj has ▸ lit
    exact (and_mask_place place irqStatus).mpr left (done place.pos after)

theorem latched_go {s : Isr} (first : place.irqIdx ≠ 40)
    (enabled : Enabled mdssIrqs s.intr place.irqIdx) (registered : cb ∈ irqCbTbl place.irqIdx)
    (inv : StageInv mdssIrqs s.stage) (latched : Latched place s.intr)
    (outside : ¬InHandler place s.stage) :
    Due place cb (s.step mdssIrqs irqCbTbl .go).intr (s.step mdssIrqs irqCbTbl .go).stage ∨
      (Latched place (s.step mdssIrqs irqCbTbl .go).intr ∧
        ¬InHandler place (s.step mdssIrqs irqCbTbl .go).stage) ∧
        stageRank mdssIrqs (s.step mdssIrqs irqCbTbl .go).stage <
          stageRank mdssIrqs s.stage := by
  have insidePlace := place.inside
  rw [Isr.step]
  cases stage : s.stage with
  | idle => exact .inl (due_readFrom place latched)
  | reading reg => exact .inr ⟨⟨latched, id⟩, lex_fst (by omega) _ _⟩
  | clearing reg =>
    rw [Isr.goFrom]
    by_cases saved : Saved place s.intr
    · refine .inl (due_readFrom place ?_)
      rw [latched_clearSaved, saved_clearSaved place reg enabled]
      split
      next before => exact ⟨latched, fun here => absurd here (by omega)⟩
      next => exact saved
    · refine .inr ⟨⟨?_, ?_⟩, rank_readFrom (by omega) reg⟩
      · rw [latched_clearSaved]
        exact ⟨latched, fun _ => saved⟩
      · exact outside_readFrom place (reg + 1)
  | scanning reg k irqStatus =>
    rw [stage] at inv
    obtain ⟨inside, -⟩ := inv
    rw [Isr.goFrom]
    rcases scan_cases inside with ⟨low, -, eq⟩ | ⟨low, -, eq⟩ | ⟨-, eq⟩
    · rw [eq]
      by_cases here : reg = place.reg ∧ k = place.pos
      · obtain ⟨rfl, rfl⟩ := here
        exact .inl (.inr ⟨rfl, .inr ⟨rfl, registered⟩⟩)
      · exact .inr ⟨⟨latched, here⟩, lex_snd _ (by omega) _ _⟩
    · rw [eq]
      exact .inr ⟨⟨latched, id⟩, lex_snd _ (by omega) _ _⟩
    · rw [eq]
      by_cases last : reg + 1 < (sdeIrqTbl mdssIrqs).length
      · exact .inr ⟨⟨latched, outside_scanFrom place (reg + 1)⟩, rank_scanFrom last k irqStatus⟩
      · rw [scanFrom, if_neg last]
        exact .inl latched
  | calling reg k irqStatus rest =>
    rw [stage] at inv outside
    cases rest with
    | cons next rest => exact .inr ⟨⟨latched, outside⟩, rank_calling⟩
    | nil =>
      have low : k < 32 := inv.2.1
      have kept := latched_called place first inv latched outside
      exact .inr ⟨⟨kept, id⟩, lex_snd _ (by omega) _ _⟩

/-! ## Schedules -/

variable {start : Isr} {inputs : ℕ → Input}

theorem due_raise (irqIdx : Int) {stage : Stage} (due : Due place cb intr stage) :
    Due place cb (intr.raise mdssIrqs irqIdx) stage := by
  cases stage with
  | idle => exact latched_raise place irqIdx due
  | reading reg =>
    rw [Due] at due ⊢
    split at due
    next before =>
      rw [if_pos before]
      exact latched_raise place irqIdx due
    next after =>
      rw [if_neg after]
      exact due
  | clearing reg =>
    rw [Due] at due ⊢
    split at due
    next before =>
      rw [if_pos before]
      exact latched_raise place irqIdx due
    next after =>
      rw [if_neg after]
      exact due
  | scanning reg k irqStatus => exact due
  | calling reg k irqStatus rest => exact due

theorem en_step (s : Isr) (input : Input) :
    (s.step mdssIrqs irqCbTbl input).intr.en = s.intr.en := by
  cases input with
  | raise irqIdx => rfl
  | wait => rfl
  | go =>
    rw [Isr.step]
    cases s.stage with
    | idle => rfl
    | reading reg => rfl
    | clearing reg =>
      simp only [Isr.goFrom, HwIntr.clearSaved]
      split <;> rfl
    | scanning reg k irqStatus => rfl
    | calling reg k irqStatus rest =>
      cases rest with
      | cons next rest => rfl
      | nil =>
        simp only [Isr.goFrom, clearIntrStatusNolock]
        split <;> rfl

end

section
variable (mdssIrqs : MdssIrqs) (irqCbTbl : Int → List Nat)

abbrev isrAt (start : Isr) (inputs : ℕ → Input) (n : ℕ) : Isr :=
  stateAt (Isr.step mdssIrqs irqCbTbl) start inputs n

/-- `sde_core_irq` goes on once invoked, and is invoked whenever an enabled status bit is set. -/
def Invoked (start : Isr) (inputs : ℕ → Input) : Prop :=
  ∀ n, ((isrAt mdssIrqs irqCbTbl start inputs n).stage ≠ .idle ∨
      ∃ irqIdx, Enabled mdssIrqs (isrAt mdssIrqs irqCbTbl start inputs n).intr irqIdx ∧
        Raised mdssIrqs (isrAt mdssIrqs irqCbTbl start inputs n).intr irqIdx) →
    ∃ m, n ≤ m ∧ inputs m = .go

def NoneSwallowed (start : Isr) (inputs : ℕ → Input) : Prop :=
  ∀ n irqIdx cb, inputs n = .raise irqIdx → Mapped mdssIrqs irqIdx →
    Enabled mdssIrqs (isrAt mdssIrqs irqCbTbl start inputs n).intr irqIdx →
    cb ∈ irqCbTbl irqIdx →
      ∃ m, n < m ∧ Starts mdssIrqs irqIdx cb
        (isrAt mdssIrqs irqCbTbl start inputs m) (inputs m)

/-- The interrupt is not raised between the start of one of its callbacks and the clear that follows
    them; and the dispatcher can find it, which it cannot where another entry before it has the same
    bit, or where the target has no register with its entry. -/
def Undisturbed (s : Isr) : Input → Prop
  | .raise irqIdx => Mapped mdssIrqs irqIdx → Enabled mdssIrqs s.intr irqIdx →
      ∀ cb ∈ irqCbTbl irqIdx,
        irqIdx ≠ 40 ∧ irqIdx.toNat / 32 ∈ sdeIrqTbl mdssIrqs ∧
          ∀ reg k irqStatus rest, s.stage = .calling reg k irqStatus rest →
            irqIdxAt mdssIrqs reg k = irqIdx → cb ∈ rest
  | .go => True
  | .wait => True

end

section
variable {mdssIrqs : MdssIrqs} {irqCbTbl : Int → List Nat} {start : Isr} {inputs : ℕ → Input}
  {place : Place mdssIrqs} {cb : Nat}

theorem starts_of_due (invoked : Invoked mdssIrqs irqCbTbl start inputs)
    (first : place.irqIdx ≠ 40) (registered : cb ∈ irqCbTbl place.irqIdx)
    (enabled : ∀ n, Enabled mdssIrqs
      (isrAt mdssIrqs irqCbTbl start inputs n).intr place.irqIdx)
    (inv : ∀ n, StageInv mdssIrqs (isrAt mdssIrqs irqCbTbl start inputs n).stage)
    {n : ℕ} (due : Due place cb (isrAt mdssIrqs irqCbTbl start inputs n).intr
      (isrAt mdssIrqs irqCbTbl start inputs n).stage) :
    ∃ m, n ≤ m ∧ Starts mdssIrqs place.irqIdx cb
      (isrAt mdssIrqs irqCbTbl start inputs m) (inputs m) := by
  refine eventually_of_rank (fun s : Isr => stageRank mdssIrqs s.stage)
    (fun s => Due place cb s.intr s.stage) (Starts mdssIrqs place.irqIdx cb) (· = .go) ?_ ?_ due
  · intro n due
    rw [stateAt]
    cases input : inputs n with
    | raise irqIdx =>
      exact .inr ⟨due_raise place irqIdx due, le_refl _, fun going => by cases going⟩
    | wait => exact .inr ⟨due, le_refl _, fun going => by cases going⟩
    | go =>
      cases due_go place first (enabled n) registered (inv n) due with
      | inl starts => exact .inl starts
      | inr closer => exact .inr ⟨closer.1, closer.2.le, fun _ => closer.2⟩
  · intro n due
    refine invoked n ?_
    by_cases idle : (isrAt mdssIrqs irqCbTbl start inputs n).stage = .idle
    · rw [idle] at due
      refine .inr ⟨place.irqIdx, enabled n, ?_⟩
      rw [Raised, place.regIdx_irqIdx, and_mask_place]
      exact due
    · exact .inl idle

theorem due_of_latched (invoked : Invoked mdssIrqs irqCbTbl start inputs)
    (first : place.irqIdx ≠ 40) (registered : cb ∈ irqCbTbl place.irqIdx)
    (enabled : ∀ n, Enabled mdssIrqs
      (isrAt mdssIrqs irqCbTbl start inputs n).intr place.irqIdx)
    (inv : ∀ n, StageInv mdssIrqs (isrAt mdssIrqs irqCbTbl start inputs n).stage)
    {n : ℕ} (latched : Latched place (isrAt mdssIrqs irqCbTbl start inputs n).intr)
    (outside : ¬InHandler place (isrAt mdssIrqs irqCbTbl start inputs n).stage) :
    ∃ m, n < m ∧ Due place cb (isrAt mdssIrqs irqCbTbl start inputs m).intr
      (isrAt mdssIrqs irqCbTbl start inputs m).stage := by
  have comes : ∃ m, n ≤ m ∧ Due place cb
      ((isrAt mdssIrqs irqCbTbl start inputs m).step mdssIrqs irqCbTbl (inputs m)).intr
      ((isrAt mdssIrqs irqCbTbl start inputs m).step mdssIrqs irqCbTbl
        (inputs m)).stage := by
    refine eventually_of_rank (fun s : Isr => stageRank mdssIrqs s.stage)
      (fun s : Isr => Latched place s.intr ∧ ¬InHandler place s.stage)
      (fun (s : Isr) input => Due place cb (s.step mdssIrqs irqCbTbl input).intr
        (s.step mdssIrqs irqCbTbl input).stage) (· = .go) ?_ ?_ ⟨latched, outside⟩
    · rintro n ⟨latched, outside⟩
      rw [stateAt]
      cases input : inputs n with
      | raise irqIdx =>
        exact .inr ⟨⟨latched_raise place irqIdx latched, outside⟩, le_refl _,
          fun going => by cases going⟩
      | wait => exact .inr ⟨⟨latched, outside⟩, le_refl _, fun going => by cases going⟩
      | go =>
        cases latched_go place first (enabled n) registered (inv n) latched outside with
        | inl due => exact .inl due
        | inr closer => exact .inr ⟨closer.1, closer.2.le, fun _ => closer.2⟩
    · rintro n ⟨latched, -⟩
      refine invoked n (.inr ⟨place.irqIdx, enabled n, ?_⟩)
      rw [Raised, place.regIdx_irqIdx, and_mask_place]
      exact latched
  obtain ⟨m, later, due⟩ := comes
  exact ⟨m + 1, by omega, due⟩

/-- Whenever the hardware raises its interrupts: where it does not disturb a running handler, every
    raise reaches its callbacks. -/
theorem noneSwallowed_of_undisturbed (mdssIrqs : MdssIrqs) (irqCbTbl : Int → List Nat)
    (intr : HwIntr) (inputs : ℕ → Input) (invoked : Invoked mdssIrqs irqCbTbl ⟨.idle, intr⟩ inputs)
    (undisturbed : ∀ n, Undisturbed mdssIrqs irqCbTbl
      (isrAt mdssIrqs irqCbTbl ⟨.idle, intr⟩ inputs n) (inputs n)) :
    NoneSwallowed mdssIrqs irqCbTbl ⟨.idle, intr⟩ inputs := by
  intro n irqIdx cb raised mapped enabledThen registered
  have calm := undisturbed n
  rw [raised] at calm
  obtain ⟨first, listed, unstarted⟩ := calm mapped enabledThen cb registered
  obtain ⟨place, rfl⟩ := exists_place mapped listed
  have inv : ∀ m, StageInv mdssIrqs (isrAt mdssIrqs irqCbTbl ⟨.idle, intr⟩ inputs m).stage :=
    stateAt_invariant (fun s : Isr => StageInv mdssIrqs s.stage)
      (fun s input inv => stageInv_step s input inv) trivial
  have en : ∀ m, (isrAt mdssIrqs irqCbTbl ⟨.idle, intr⟩ inputs m).intr.en = intr.en :=
    stateAt_invariant (fun s : Isr => s.intr.en = intr.en)
      (fun s input same => (en_step s input).trans same) rfl
  have enabled : ∀ m, Enabled mdssIrqs
      (isrAt mdssIrqs irqCbTbl ⟨.idle, intr⟩ inputs m).intr place.irqIdx := by
    intro m
    rw [Enabled, en] at enabledThen ⊢
    exact enabledThen
  have next : isrAt mdssIrqs irqCbTbl ⟨.idle, intr⟩ inputs (n + 1) =
      { isrAt mdssIrqs irqCbTbl ⟨.idle, intr⟩ inputs n with
        intr := (isrAt mdssIrqs irqCbTbl ⟨.idle, intr⟩ inputs n).intr.raise mdssIrqs
          place.irqIdx } := by
    rw [isrAt, stateAt, raised]
    rfl
  have due : ∃ m, n < m ∧ Due place cb (isrAt mdssIrqs irqCbTbl ⟨.idle, intr⟩ inputs m).intr
      (isrAt mdssIrqs irqCbTbl ⟨.idle, intr⟩ inputs m).stage := by
    by_cases inside : InHandler place (isrAt mdssIrqs irqCbTbl ⟨.idle, intr⟩ inputs n).stage
    -- the handler has not started the callback yet
    · refine ⟨n + 1, Nat.lt_succ_self n, ?_⟩
      rw [next]
      dsimp only
      cases stage : (isrAt mdssIrqs irqCbTbl ⟨.idle, intr⟩ inputs n).stage with
      | calling reg k irqStatus rest =>
        rw [stage] at inside
        obtain ⟨rfl, rfl⟩ := inside
        exact .inr ⟨rfl, .inr ⟨rfl, unstarted _ _ _ _ stage rfl⟩⟩
      | idle | reading | clearing | scanning =>
        rw [stage] at inside
        exact inside.elim
    · have latched : Latched place (isrAt mdssIrqs irqCbTbl ⟨.idle, intr⟩ inputs (n + 1)).intr := by
        rw [next]
        exact latched_raise_self place
      have outside : ¬InHandler place
          (isrAt mdssIrqs irqCbTbl ⟨.idle, intr⟩ inputs (n + 1)).stage := by
        rw [next]
        exact inside
      obtain ⟨m, later, due⟩ := due_of_latched invoked first registered enabled inv latched outside
      exact ⟨m, by omega, due⟩
  obtain ⟨m, later, due⟩ := due
  obtain ⟨l, after, starts⟩ := starts_of_due invoked first registered enabled inv due
  exact ⟨l, by omega, starts⟩

end

/-! ## A raise during a callback -/

def schedule (front : List Input) (n : ℕ) : Input := front.getD n .wait

def topOnly : MdssIrqs := 1#18

def oneCallback (irqIdx : Int) : List Nat := if irqIdx = 0 then [7] else []

def oneEnabled : HwIntr where
  status := fun _ => 0#32
  en := Function.update (fun _ => 0#32) 0 1#32
  cacheIrqMask := Function.update (fun _ => 0#32) 0 1#32
  saveIrqStatus := fun _ => 0#32

theorem mapped_first : Mapped topOnly 0 := by
  refine ⟨?_, ?_, ?_⟩ <;> decide

abbrev oneAt (front : List Input) (n : ℕ) : Isr :=
  isrAt topOnly oneCallback ⟨.idle, oneEnabled⟩ (schedule front) n

variable {front : List Input}

theorem oneAt_after {n : ℕ} (beyond : front.length ≤ n) :
    oneAt front n = oneAt front front.length := by
  refine stateAt_of_stutter (fun m later => ?_) beyond
  rw [schedule, List.getD_eq_default _ _ later]
  rfl

theorem invoked_schedule (last : ∀ n < front.length, ∃ m, n ≤ m ∧ schedule front m = .go)
    (idle : (oneAt front front.length).stage = .idle)
    (cleared : (oneAt front front.length).intr.status 0 = 0#32) :
    Invoked topOnly oneCallback ⟨.idle, oneEnabled⟩ (schedule front) := by
  intro n needed
  by_cases inside : n < front.length
  · exact last n inside
  · have en : (oneAt front front.length).intr.en = oneEnabled.en :=
      stateAt_invariant (fun s : Isr => s.intr.en = oneEnabled.en)
        (fun s input same => (en_step s input).trans same) rfl _
    change (oneAt front n).stage ≠ .idle ∨ ∃ irqIdx, Enabled topOnly (oneAt front n).intr irqIdx ∧
      Raised topOnly (oneAt front n).intr irqIdx at needed
    rw [oneAt_after (Nat.not_lt.mp inside)] at needed
    rcases needed with busy | ⟨irqIdx, enabled, raised⟩
    · exact absurd idle busy
    · rw [Enabled, en] at enabled
      rw [Raised] at raised
      by_cases first : regIdx topOnly irqIdx = 0
      · rw [first, cleared] at raised
        exact absurd BitVec.zero_and raised
      · simp only [oneEnabled, Function.update_of_ne first] at enabled
        exact absurd BitVec.zero_and enabled

def served : List Input := [.raise 0, .go, .go, .go, .go, .go, .go, .go]

theorem noneSwallowed_served :
    NoneSwallowed topOnly oneCallback ⟨.idle, oneEnabled⟩ (schedule served) := by
  refine noneSwallowed_of_undisturbed topOnly oneCallback oneEnabled (schedule served) ?_ ?_
  · exact invoked_schedule (fun n inside => ⟨7, Nat.le_of_lt_succ inside, rfl⟩) (by decide)
      (by decide)
  · intro n
    match n with
    | 0 => exact fun _ _ _ _ => ⟨by decide, by decide, nofun⟩
    | 1 | 2 | 3 | 4 | 5 | 6 | 7 => exact trivial
    | n + 8 => exact trivial

def disturbed : List Input :=
  [.raise 0, .go, .go, .go, .go, .go, .raise 0, .go, .go]

/-- The second raise is cleared with the first. -/
theorem not_noneSwallowed_disturbed :
    ¬∀ (mdssIrqs : MdssIrqs) (irqCbTbl : Int → List Nat) (intr : HwIntr) (inputs : ℕ → Input),
      Invoked mdssIrqs irqCbTbl ⟨.idle, intr⟩ inputs →
        NoneSwallowed mdssIrqs irqCbTbl ⟨.idle, intr⟩ inputs := by
  intro always
  have invoked : Invoked topOnly oneCallback ⟨.idle, oneEnabled⟩ (schedule disturbed) :=
    invoked_schedule (fun n inside => ⟨8, Nat.le_of_lt_succ inside, rfl⟩) (by decide) (by decide)
  obtain ⟨m, later, go, reg, k, irqStatus, rest, stage, -⟩ :=
    always topOnly oneCallback oneEnabled (schedule disturbed) invoked 6 0 7 rfl mapped_first
      (by decide) (by decide)
  match m with
  | 0 | 1 | 2 | 3 | 4 | 5 | 6 => omega
  | 7 => exact nomatch stage
  | 8 => exact nomatch stage
  | m + 9 => exact nomatch go

end DisplayDrivers.Irq
