import DisplayDrivers.RegDma.Model
import DisplayDrivers.Lib.Fields
import DisplayDrivers.Lib.PrefixCode

/-! # Commands of a register DMA stream

`readCommand` is the grammar of the stream: the first header word of a command holds its opcode in
the upper twelve bits and the register offset in the lower twenty; what the second one holds depends
on the opcode.
-/

namespace DisplayDrivers.RegDma

open DisplayDrivers.Lib.Fields
open DisplayDrivers.Lib.PrefixCode (Delimits)

inductive Command
  | blkSelect (blk : Word)
  | singleWrite (offset value : Word)
  | singleModify (offset mask value : Word)
  | blkWriteSingle (offset : Word) (data : List Word)
  | blkWriteInc (offset : Word) (data : List Word)
  | blkWriteMultiple (offset : Word) (inc : Bool) (wrap : Word) (data : List Word)
deriving DecidableEq

/-! ## Reading -/

def addBlock (sel blk : Word) (i : ℕ) : Word :=
  match decodeBit i with
  | some j => if sel.getLsbD j then blk ||| BitVec.twoPow 32 i else blk
  | none => blk

def blocksOf (sel : Word) : Word := (List.range 31).foldl (addBlock sel) 0#32

def takeData (count : ℕ) (rest : List Word) (command : List Word → Command) :
    Option (Command × List Word) :=
  if count ≤ rest.length then some (command (rest.take count), rest.drop count) else none

def readCommand (version : Version) : List Word → Option (Command × List Word)
  | header :: word :: rest =>
    let opcode := header.extractLsb' 20 12
    let offset := (header.extractLsb' 0 20).setWidth 32
    if header = decodeSel version then some (.blkSelect (blocksOf word), rest)
    else if opcode = 0x100#12 then some (.singleWrite offset word, rest)
    else if opcode = 0x200#12 then
      match rest with
      | [] => none
      | value :: rest => some (.singleModify offset word value, rest)
    else if opcode = 0x300#12 then takeData word.toNat rest (.blkWriteInc offset)
    else if opcode = 0x400#12 then takeData word.toNat rest (.blkWriteSingle offset)
    else if opcode = 0x500#12 then
      takeData (word.extractLsb' 0 14).toNat rest
        (.blkWriteMultiple offset (word.extractLsb' 31 1 == 0#1)
          ((word.extractLsb' 16 4).setWidth 32))
    else none
  | _ => none

def selectableBlks : Word := 0x3ff0f#32

/-- The command that a configuration asks for; a block select asks for `blocks cfg.blk`. -/
def commandOf (blocks : Word → Word) (op : SetupOp) (cfg : SetupOpsCfg) : Command :=
  match op with
  | .hwBlkSelect => .blkSelect (blocks cfg.blk)
  | .regSingleWrite => .singleWrite cfg.blkOffset (cfg.dataWord 0)
  | .regSingleModify => .singleModify cfg.blkOffset cfg.mask (cfg.dataWord 0)
  | .regBlkWriteSingle => .blkWriteSingle cfg.blkOffset cfg.payload
  | .regBlkWriteInc => .blkWriteInc cfg.blkOffset cfg.payload
  | .regBlkWriteMultiple =>
    .blkWriteMultiple cfg.blkOffset (cfg.inc != 0#32) cfg.wrapSize cfg.payload

/-! ## Block masks -/

theorem decodeBit_injective {i i' j : ℕ} (one : decodeBit i = some j)
    (other : decodeBit i' = some j) :
    i = i' := by
  revert other
  revert one
  unfold decodeBit
  split <;> split <;> grind

theorem getLsbD_addDecodeBits (blk : Word) (indices : List ℕ) (sel : Word) (j : ℕ)
    (inside : j < 32) :
    (indices.foldl (addDecodeBit blk) sel).getLsbD j =
      (sel.getLsbD j || indices.any fun i => blk.getLsbD i && decodeBit i == some j) := by
  induction indices generalizing sel with
  | nil => simp
  | cons i indices ih =>
    rw [List.foldl_cons, ih, List.any_cons, ← Bool.or_assoc]
    congr 1
    rw [addDecodeBit]
    cases asked : blk.getLsbD i with
    | false => simp
    | true =>
      cases place : decodeBit i with
      | none => simp
      | some k =>
        have single : (BitVec.twoPow 32 k).getLsbD j = (some k == some j) := by
          rw [BitVec.getLsbD_twoPow]
          by_cases same : k = j
          · simp [same, inside]
          · simp [same]
        simp only [if_true, Bool.true_and, BitVec.getLsbD_or, single]

theorem getLsbD_getDecodeSel (blk : Word) {j : ℕ} (inside : j < 32) :
    (getDecodeSel blk).getLsbD j =
      (List.range 31).any fun i => blk.getLsbD i && decodeBit i == some j := by
  rw [getDecodeSel, getLsbD_addDecodeBits blk _ _ j inside]
  simp

theorem getLsbD_addBlocks (sel : Word) (indices : List ℕ) (blk : Word) (i : ℕ) (inside : i < 32) :
    (indices.foldl (addBlock sel) blk).getLsbD i =
      (blk.getLsbD i || indices.any fun i' => i' == i && (decodeBit i').any sel.getLsbD) := by
  induction indices generalizing blk with
  | nil => simp
  | cons i' indices ih =>
    rw [List.foldl_cons, ih, List.any_cons, ← Bool.or_assoc]
    congr 1
    rw [addBlock]
    cases place : decodeBit i' with
    | none => simp
    | some j =>
      cases selected : sel.getLsbD j with
      | false => simp [selected]
      | true =>
        have single : (BitVec.twoPow 32 i').getLsbD i = (i' == i) := by
          rw [BitVec.getLsbD_twoPow]
          by_cases same : i' = i
          · simp [same, inside]
          · simp [same]
        simp only [selected, if_true, BitVec.getLsbD_or, single, Option.any_some, Bool.and_true]

theorem isSome_decodeBit {i : ℕ} (inside : i < 32) :
    (decodeBit i).isSome = selectableBlks.getLsbD i := by
  have every : ∀ k : Fin 32, (decodeBit k).isSome = selectableBlks.getLsbD k := by decide
  exact every ⟨i, inside⟩

theorem decodeBit_lt {i j : ℕ} (place : decodeBit i = some j) : i < 31 ∧ j < 32 := by
  unfold decodeBit at place
  split at place <;> grind

theorem blocksOf_getDecodeSel (blk : Word) :
    blocksOf (getDecodeSel blk) = blk &&& selectableBlks := by
  apply BitVec.eq_of_getLsbD_eq
  intro i inside
  rw [blocksOf, getLsbD_addBlocks _ _ _ _ inside, BitVec.getLsbD_and, ← isSome_decodeBit inside,
    BitVec.getLsbD_zero, Bool.false_or, Bool.eq_iff_iff, List.any_eq_true]
  cases place : decodeBit i with
  | none =>
    simp only [Option.isSome_none, Bool.and_false, Bool.false_eq_true, iff_false]
    rintro ⟨i', -, same⟩
    simp only [Bool.and_eq_true, beq_iff_eq] at same
    obtain ⟨rfl, found⟩ := same
    simp [place] at found
  | some j =>
    obtain ⟨low, fits⟩ := decodeBit_lt place
    simp only [Option.isSome_some, Bool.and_true]
    constructor
    · rintro ⟨i', -, same⟩
      simp only [Bool.and_eq_true, beq_iff_eq] at same
      obtain ⟨rfl, found⟩ := same
      rw [place, Option.any_some, getLsbD_getDecodeSel _ fits, List.any_eq_true] at found
      obtain ⟨source, -, asked⟩ := found
      simp only [Bool.and_eq_true, beq_iff_eq] at asked
      rw [decodeBit_injective place asked.2]
      exact asked.1
    · intro asked
      refine ⟨i, List.mem_range.mpr low, ?_⟩
      rw [place, Option.any_some, getLsbD_getDecodeSel _ fits, beq_self_eq_true, Bool.true_and,
        List.any_eq_true]
      exact ⟨i, List.mem_range.mpr low, by simp [asked, place]⟩

/-! ## Header words -/

structure Encodable (op : SetupOp) (cfg : SetupOpsCfg) : Prop where
  offset : op ≠ .hwBlkSelect → cfg.blkOffset.toNat < 2 ^ 20
  size : op ≠ .hwBlkSelect → cfg.dataSize.toNat / 4 < 2 ^ 14
  wrap : op = .regBlkWriteMultiple → cfg.wrapSize.toNat < 2 ^ 4

def wordsOf (version : Version) (op : SetupOp) (cfg : SetupOpsCfg) : List Word :=
  let offset := cfg.blkOffset &&& maxRelativeOff
  match op with
  | .hwBlkSelect => [decodeSel version, getDecodeSel cfg.blk]
  | .regSingleWrite => [singleRegWriteOpcode ||| offset, cfg.dataWord 0]
  | .regSingleModify => [singleRegModifyOpcode ||| offset, cfg.mask, cfg.dataWord 0]
  | .regBlkWriteSingle =>
    [autoIncRegWriteOpcode ||| offset, sizeDword cfg.dataSize] ++ cfg.payload
  | .regBlkWriteInc => [hwIndexRegWriteOpcode ||| offset, sizeDword cfg.dataSize] ++ cfg.payload
  | .regBlkWriteMultiple => [blkRegWriteOpcode ||| offset, lutParams cfg] ++ cfg.payload

theorem mask_ones :
    maxRelativeOff = (BitVec.allOnes 20).setWidth 32 ∧
      wrapMaxSize = (BitVec.allOnes 4).setWidth 32 ∧
      maxDwordsSz = (BitVec.allOnes 14).setWidth 32 := by decide

theorem masked_offset (offset : Word) :
    offset &&& maxRelativeOff = place 32 0 (offset.setWidth 20) :=
  and_mask mask_ones.1 offset

variable {offset : Word} {opcode : BitVec 12}

theorem header_opcode (offset : Word) (opcode : BitVec 12) :
    (place 32 20 opcode ||| (offset &&& maxRelativeOff)).extractLsb' 20 12 = opcode := by
  have fits : 20 + 12 ≤ 32 := by omega
  have apart : 0 + 20 ≤ 20 ∨ 20 + 12 ≤ 0 := by omega
  rw [masked_offset, BitVec.extractLsb'_or, extract_place_self opcode fits,
    extract_place_apart _ apart, BitVec.or_zero]

theorem header_offset (bounded : offset.toNat < 2 ^ 20) :
    ((place 32 20 opcode ||| (offset &&& maxRelativeOff)).extractLsb' 0 20).setWidth 32 =
      offset := by
  have fits : 0 + 20 ≤ 32 := by omega
  have apart : 20 + 12 ≤ 0 ∨ 0 + 20 ≤ 20 := by omega
  rw [masked_offset, BitVec.extractLsb'_or, extract_place_apart _ apart,
    extract_place_self _ fits, BitVec.zero_or, setWidth_setWidth_of_lt bounded]

theorem header_ne_decodeSel (version : Version) (offset : Word) (other : opcode ≠ 0x180#12) :
    place 32 20 opcode ||| (offset &&& maxRelativeOff) ≠ decodeSel version := by
  intro same
  have field : _ = opcode := header_opcode offset opcode
  rw [same] at field
  cases version with
  | v1 => exact other field.symm
  | v11 => exact other field.symm

theorem toNat_sizeDword (x : Word) : (sizeDword x).toNat = x.toNat / 4 := by
  rw [sizeDword, BitVec.toNat_udiv]
  rfl

theorem length_payload (cfg : SetupOpsCfg) : cfg.payload.length = cfg.dataSize.toNat / 4 := by
  simp [SetupOpsCfg.payload]

theorem takeData_payload (cfg : SetupOpsCfg) {count : ℕ} (counted : count = cfg.dataSize.toNat / 4)
    (rest : List Word) (command : List Word → Command) :
    takeData count (cfg.payload ++ rest) command = some (command cfg.payload, rest) := by
  have size : count = cfg.payload.length := by rw [length_payload, counted]
  have enough : count ≤ (cfg.payload ++ rest).length := by simp [size]
  rw [takeData, if_pos enough, size, List.take_left, List.drop_left]

/-! ### The parameters of a table write -/

theorem lutParams_eq (cfg : SetupOpsCfg) :
    lutParams cfg =
      place 32 31 (if cfg.inc != 0#32 then 0#1 else 1#1) |||
        place 32 16 (cfg.wrapSize.setWidth 4) |||
        place 32 0 ((sizeDword cfg.dataSize).setWidth 14) := by
  have direction : (if cfg.inc != 0#32 then 0#32 else 0x80000000#32) =
      place 32 31 (if cfg.inc != 0#32 then 0#1 else 1#1) := by
    cases cfg.inc != 0#32 with
    | false => rfl
    | true => rfl
  have wrap : (cfg.wrapSize &&& wrapMaxSize) <<< 16 = place 32 16 (cfg.wrapSize.setWidth 4) :=
    and_mask_shiftLeft mask_ones.2.1 cfg.wrapSize 16
  have size : sizeDword cfg.dataSize &&& maxDwordsSz =
      place 32 0 ((sizeDword cfg.dataSize).setWidth 14) :=
    and_mask mask_ones.2.2 _
  rw [lutParams, direction, wrap, size]

theorem lutParams_direction (cfg : SetupOpsCfg) :
    ((lutParams cfg).extractLsb' 31 1 == 0#1) = (cfg.inc != 0#32) := by
  have fits : 31 + 1 ≤ 32 := by omega
  have wrap : 16 + 4 ≤ 31 ∨ 31 + 1 ≤ 16 := by omega
  have size : 0 + 14 ≤ 31 ∨ 31 + 1 ≤ 0 := by omega
  rw [lutParams_eq, BitVec.extractLsb'_or, BitVec.extractLsb'_or, extract_place_self _ fits,
    extract_place_apart _ wrap, extract_place_apart _ size]
  cases cfg.inc != 0#32 with
  | false => rfl
  | true => rfl

variable {cfg : SetupOpsCfg}

theorem lutParams_wrap (bounded : cfg.wrapSize.toNat < 2 ^ 4) :
    ((lutParams cfg).extractLsb' 16 4).setWidth 32 = cfg.wrapSize := by
  have fits : 16 + 4 ≤ 32 := by omega
  have direction : 31 + 1 ≤ 16 ∨ 16 + 4 ≤ 31 := by omega
  have size : 0 + 14 ≤ 16 ∨ 16 + 4 ≤ 0 := by omega
  rw [lutParams_eq, BitVec.extractLsb'_or, BitVec.extractLsb'_or, extract_place_self _ fits,
    extract_place_apart _ direction, extract_place_apart _ size, BitVec.zero_or, BitVec.or_zero,
    setWidth_setWidth_of_lt bounded]

theorem lutParams_count (bounded : cfg.dataSize.toNat / 4 < 2 ^ 14) :
    ((lutParams cfg).extractLsb' 0 14).toNat = cfg.dataSize.toNat / 4 := by
  have fits : 0 + 14 ≤ 32 := by omega
  have direction : 31 + 1 ≤ 0 ∨ 0 + 14 ≤ 31 := by omega
  have wrap : 16 + 4 ≤ 0 ∨ 0 + 14 ≤ 16 := by omega
  rw [lutParams_eq, BitVec.extractLsb'_or, BitVec.extractLsb'_or, extract_place_self _ fits,
    extract_place_apart _ direction, extract_place_apart _ wrap, BitVec.zero_or, BitVec.zero_or,
    BitVec.toNat_setWidth, toNat_sizeDword, Nat.mod_eq_of_lt bounded]

/-! ## A command is read back -/

theorem opcode_places :
    singleRegWriteOpcode = place 32 20 0x100#12 ∧ singleRegModifyOpcode = place 32 20 0x200#12 ∧
      hwIndexRegWriteOpcode = place 32 20 0x300#12 ∧
      autoIncRegWriteOpcode = place 32 20 0x400#12 ∧ blkRegWriteOpcode = place 32 20 0x500#12 :=
  ⟨rfl, rfl, rfl, rfl, rfl⟩

theorem readCommand_wordsOf (version : Version) {op : SetupOp}
    (encodable : Encodable op cfg) (rest : List Word) :
    readCommand version (wordsOf version op cfg ++ rest) =
      some (commandOf (· &&& selectableBlks) op cfg, rest) := by
  obtain ⟨write, modify, index, auto, table⟩ := opcode_places
  cases op with
  | hwBlkSelect =>
    simp only [wordsOf, List.cons_append, List.nil_append, readCommand, if_true,
      blocksOf_getDecodeSel, commandOf]
  | regSingleWrite =>
    have bounded := encodable.offset nofun
    have known : 0x100#12 ≠ 0x180#12 := by decide
    have other := header_ne_decodeSel version cfg.blkOffset known
    simp only [wordsOf, List.cons_append, List.nil_append, readCommand, write, if_neg other,
      header_opcode, header_offset bounded, if_true, commandOf]
  | regSingleModify =>
    have bounded := encodable.offset nofun
    have known : 0x200#12 ≠ 0x180#12 := by decide
    have other := header_ne_decodeSel version cfg.blkOffset known
    simp only [wordsOf, List.cons_append, List.nil_append, readCommand, modify, if_neg other,
      header_opcode, header_offset bounded, if_true, commandOf]
    rfl
  | regBlkWriteInc =>
    have bounded := encodable.offset nofun
    have known : 0x300#12 ≠ 0x180#12 := by decide
    have other := header_ne_decodeSel version cfg.blkOffset known
    simp only [wordsOf, List.cons_append, List.nil_append, readCommand, index, if_neg other,
      header_opcode, header_offset bounded, if_true, commandOf]
    exact takeData_payload cfg (toNat_sizeDword _) rest _
  | regBlkWriteSingle =>
    have bounded := encodable.offset nofun
    have known : 0x400#12 ≠ 0x180#12 := by decide
    have other := header_ne_decodeSel version cfg.blkOffset known
    simp only [wordsOf, List.cons_append, List.nil_append, readCommand, auto, if_neg other,
      header_opcode, header_offset bounded, if_true, commandOf]
    exact takeData_payload cfg (toNat_sizeDword _) rest _
  | regBlkWriteMultiple =>
    have bounded := encodable.offset nofun
    have known : 0x500#12 ≠ 0x180#12 := by decide
    have other := header_ne_decodeSel version cfg.blkOffset known
    simp only [wordsOf, List.cons_append, List.nil_append, readCommand, table, if_neg other,
      header_opcode, header_offset bounded, if_true, commandOf, lutParams_direction,
      lutParams_wrap (encodable.wrap rfl)]
    exact takeData_payload cfg (lutParams_count (encodable.size nofun)) rest _

theorem delimits (version : Version) {op : SetupOp} (encodable : Encodable op cfg) :
    Delimits (fun call : SetupOp × SetupOpsCfg => wordsOf version call.1 call.2)
      (readCommand version) (fun call => commandOf (· &&& selectableBlks) call.1 call.2)
      (op, cfg) where
  nonempty := by
    cases op with
    | hwBlkSelect => nofun
    | regSingleWrite => nofun
    | regBlkWriteSingle => nofun
    | regBlkWriteInc => nofun
    | regBlkWriteMultiple => nofun
    | regSingleModify => nofun
  reads := readCommand_wordsOf version encodable

end DisplayDrivers.RegDma
