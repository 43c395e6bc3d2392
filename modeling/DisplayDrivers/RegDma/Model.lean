import Mathlib.Algebra.Group.Nat.Defs
import Mathlib.Data.List.Basic
import Mathlib.Tactic.Common

/-! # Register DMA buffers

`setup_payload_v1` checks one operation and appends its command to a register DMA buffer: two header
words (three for a modify), followed for the block writes by the data words.
-/

namespace DisplayDrivers.RegDma

abbrev Word := BitVec 32

/-- The two initialisations, `init_v1` and `init_v11`. -/
inductive Version
  | v1
  | v11

inductive Feature
  | qseed
  | gamut
  | igc
  | pcc
  | vlut
  | memcSkin
  | memcSky
  | memcFoliage
  | memcProt
  | sixZone
  | hsic
  | gc

inductive SetupOp
  | hwBlkSelect
  | regSingleWrite
  | regBlkWriteSingle
  | regBlkWriteInc
  | regBlkWriteMultiple
  | regSingleModify
deriving DecidableEq

/-- The features below `REG_DMA_FEATURES_MAX`, in the order of the enumeration. -/
def features : List Feature :=
  [.qseed, .gamut, .igc, .pcc, .vlut, .memcSkin, .memcSky, .memcFoliage, .memcProt, .sixZone, .hsic,
    .gc]

/-- The operations below `REG_DMA_SETUP_OPS_MAX`, in the order of the enumeration. -/
def setupOps : List SetupOp :=
  [.hwBlkSelect, .regSingleWrite, .regBlkWriteSingle, .regBlkWriteInc, .regBlkWriteMultiple,
    .regSingleModify]

/-! ## Constants -/

def maxRelativeOff : Word := 0xfffff#32
def wrapMinSize : Word := 2#32
def wrapMaxSize : Word := 0xf#32
def maxDwordsSz : Word := 0x3fff#32
def guardBytes : BitVec 64 := 0xff#64

def singleRegWriteOpcode : Word := 0x10000000#32
def singleRegModifyOpcode : Word := 0x20000000#32
def hwIndexRegWriteOpcode : Word := 0x30000000#32
def autoIncRegWriteOpcode : Word := 0x40000000#32
def blkRegWriteOpcode : Word := 0x50000000#32

def decodeSelOp : Word := 0x01#32
def regWriteOp : Word := 0x3e#32

def grpVigHwBlkSelect : Word := 0x000f#32
def grpDsppHwBlkSelect : Word := 0x0f00#32
def grpDmaHwBlkSelect : Word := 0xf000#32
def dsppIgc : Word := 0x20000#32
def mdss : Word := 0x80000000#32

def SetupOp.bit : SetupOp → Word
  | .hwBlkSelect => 0x01#32
  | .regSingleWrite => 0x02#32
  | .regBlkWriteSingle => 0x04#32
  | .regBlkWriteInc => 0x08#32
  | .regBlkWriteMultiple => 0x10#32
  | .regSingleModify => 0x20#32

def SetupOp.memSize : SetupOp → Word
  | .regSingleModify => 12#32
  | _ => 8#32

def decodeSel : Version → Word
  | .v1 => 0x180ac060#32
  | .v11 => 0x180ac114#32

/-- `v1_supported`, which `init_v11` overwrites in part. -/
def v1Supported : Version → Feature → Word
  | _, .gamut => grpVigHwBlkSelect ||| grpDsppHwBlkSelect
  | _, .vlut => grpDsppHwBlkSelect
  | _, .pcc => grpDsppHwBlkSelect
  | .v1, .gc => grpDsppHwBlkSelect
  | .v1, .igc => dsppIgc ||| grpDsppHwBlkSelect
  | .v1, _ => 0#32
  | .v11, .igc => dsppIgc ||| grpDsppHwBlkSelect ||| grpVigHwBlkSelect ||| grpDmaHwBlkSelect
  | .v11, .gc => grpDmaHwBlkSelect ||| grpDsppHwBlkSelect
  | .v11, .qseed => grpVigHwBlkSelect
  | .v11, _ => grpDsppHwBlkSelect

/-! ## Data -/

/-- `struct sde_reg_dma_buffer`.  `vaddr` is the memory that the pointer leads to, word by word, and
    `none` for a NULL pointer. -/
structure RegDmaBuffer where
  bufferSize : Word
  index : Word
  iova : BitVec 64
  vaddr : Option (ℕ → Word)
  nextOpAllowed : Word
  opsCompleted : Word

/-- `struct sde_reg_dma_setup_ops_cfg` less the buffer.  `data` is what the pointer leads to, and
    `none` for a NULL pointer. -/
structure SetupOpsCfg where
  ops : Word
  blk : Word
  feature : Word
  wrapSize : Word
  inc : Word
  blkOffset : Word
  data : Option (ℕ → Word)
  mask : Word
  dataSize : Word

/-- `*cfg->data` and the words after it.  `validate_write_reg` refuses a NULL pointer before any
    writer reads it. -/
def SetupOpsCfg.dataWord (cfg : SetupOpsCfg) (k : ℕ) : Word :=
  match cfg.data with
  | none => 0#32
  | some words => words k

/-- The `data_size` bytes that `write_multi_reg` copies; the size has been checked to be a multiple
    of the word size. -/
def SetupOpsCfg.payload (cfg : SetupOpsCfg) : List Word :=
  (List.range (cfg.dataSize.toNat / 4)).map cfg.dataWord

inductive Errno
  | einval

def sizeDword (x : Word) : Word := x / 4#32

def notWordAligned (x : Word) : Bool := x &&& 3#32 != 0#32

def bufferSpaceLeft (buf : RegDmaBuffer) : Word := buf.bufferSize - buf.index

def resetRegDmaBufferV1 (buf : RegDmaBuffer) : RegDmaBuffer :=
  { buf with index := 0#32, opsCompleted := 0#32, nextOpAllowed := decodeSelOp }

/-! ## Checks -/

def checkSupportV1 (version : Version) (feature blk : Word) : Bool :=
  match features[feature.toNat]? with
  | none => false
  | some known => if mdss ≤ blk then false else blk &&& v1Supported version known != 0#32

/-- `validate_dma_cfg`; it also finds the entry of the two tables of operations. -/
def validateDmaCfg (version : Version) (buf : RegDmaBuffer) (cfg : SetupOpsCfg) :
    Except Errno SetupOp :=
  match setupOps[cfg.ops.toNat]? with
  | none => .error .einval
  | some op =>
    if !checkSupportV1 version cfg.feature cfg.blk then .error .einval
    else if buf.bufferSize ≤ buf.index || notWordAligned buf.index then .error .einval
    else if buf.iova &&& guardBytes != 0#64 || buf.vaddr.isNone then .error .einval
    else if op.bit &&& buf.nextOpAllowed == 0#32 then .error .einval
    else .ok op

/-- `write_len` is a sum of 32-bit numbers and may wrap. -/
def validateWriteReg (op : SetupOp) (buf : RegDmaBuffer) (cfg : SetupOpsCfg) : Except Errno Unit :=
  let writeLen := op.memSize + cfg.dataSize
  if bufferSpaceLeft buf < writeLen then .error .einval
  else if cfg.data.isNone then .error .einval
  else if maxDwordsSz < sizeDword cfg.dataSize || notWordAligned cfg.dataSize then .error .einval
  else if maxRelativeOff < cfg.blkOffset || notWordAligned cfg.blkOffset then .error .einval
  else .ok ()

def validateWriteMultiLutReg (op : SetupOp) (buf : RegDmaBuffer) (cfg : SetupOpsCfg) :
    Except Errno Unit :=
  match validateWriteReg op buf cfg with
  | .error rc => .error rc
  | .ok () =>
    if cfg.wrapSize < wrapMinSize || wrapMaxSize < cfg.wrapSize then .error .einval else .ok ()

def validateWriteDecodeSel (buf : RegDmaBuffer) (cfg : SetupOpsCfg) : Except Errno Unit :=
  let vig := cfg.blk &&& grpVigHwBlkSelect != 0#32
  let dma := cfg.blk &&& grpDmaHwBlkSelect != 0#32
  let dspp := cfg.blk &&& grpDsppHwBlkSelect != 0#32
  if bufferSpaceLeft buf < SetupOp.hwBlkSelect.memSize then .error .einval
  else if cfg.blk == 0#32 then .error .einval
  -- VIG, DMA and DSPP can't be combined
  else if vig && dspp || dma && dspp || vig && dma then .error .einval
  else .ok ()

def validateDmaOpParams : SetupOp → RegDmaBuffer → SetupOpsCfg → Except Errno Unit
  | .hwBlkSelect => validateWriteDecodeSel
  | .regBlkWriteMultiple => validateWriteMultiLutReg .regBlkWriteMultiple
  | op => validateWriteReg op

/-! ## Writers -/

def RegDmaBuffer.store (buf : RegDmaBuffer) (words : List Word) : RegDmaBuffer :=
  let loc := buf.index.toNat / 4
  { buf with
    vaddr := buf.vaddr.map fun memory w =>
      if loc ≤ w then (words[w - loc]?).getD (memory w) else memory w }

def RegDmaBuffer.advance (buf : RegDmaBuffer) (size : Word) : RegDmaBuffer :=
  { buf with index := buf.index + size }

def RegDmaBuffer.wroteReg (buf : RegDmaBuffer) : RegDmaBuffer :=
  { buf with
    nextOpAllowed := regWriteOp ||| decodeSelOp
    opsCompleted := buf.opsCompleted ||| regWriteOp }

/-- The bit of the select word for bit `i` of a block mask; `none` is the default case, which prints
    "block not supported". -/
def decodeBit : ℕ → Option ℕ
  | 0 => some 0
  | 1 => some 1
  | 2 => some 2
  | 3 => some 3
  | 12 => some 5
  | 13 => some 6
  | 14 => some 7
  | 15 => some 8
  | 8 => some 17
  | 9 => some 18
  | 10 => some 19
  | 11 => some 20
  | 16 => some 4
  | 17 => some 21
  | _ => none

/-- One round of the loop of `get_decode_sel`. -/
def addDecodeBit (blk sel : Word) (i : ℕ) : Word :=
  if blk.getLsbD i then
    match decodeBit i with
    | some j => sel ||| BitVec.twoPow 32 j
    | none => sel
  else sel

def getDecodeSel (blk : Word) : Word := (List.range 31).foldl (addDecodeBit blk) 0#32

def writeMultiReg (buf : RegDmaBuffer) (cfg : SetupOpsCfg) : RegDmaBuffer :=
  ((buf.store cfg.payload).advance cfg.dataSize).wroteReg

def writeMultiRegIndex (buf : RegDmaBuffer) (cfg : SetupOpsCfg) : RegDmaBuffer :=
  let header := hwIndexRegWriteOpcode ||| (cfg.blkOffset &&& maxRelativeOff)
  let buf := buf.store [header, sizeDword cfg.dataSize]
  writeMultiReg (buf.advance SetupOp.regBlkWriteInc.memSize) cfg

def writeMultiRegInc (buf : RegDmaBuffer) (cfg : SetupOpsCfg) : RegDmaBuffer :=
  let header := autoIncRegWriteOpcode ||| (cfg.blkOffset &&& maxRelativeOff)
  let buf := buf.store [header, sizeDword cfg.dataSize]
  writeMultiReg (buf.advance SetupOp.regBlkWriteSingle.memSize) cfg

/-- The second header word of `write_multi_lut_reg`. -/
def lutParams (cfg : SetupOpsCfg) : Word :=
  (if cfg.inc != 0#32 then 0#32 else 0x80000000#32) ||| (cfg.wrapSize &&& wrapMaxSize) <<< 16 |||
    (sizeDword cfg.dataSize &&& maxDwordsSz)

def writeMultiLutReg (buf : RegDmaBuffer) (cfg : SetupOpsCfg) : RegDmaBuffer :=
  let header := blkRegWriteOpcode ||| (cfg.blkOffset &&& maxRelativeOff)
  let buf := { buf.store [header, lutParams cfg] with nextOpAllowed := regWriteOp }
  writeMultiReg (buf.advance SetupOp.regBlkWriteMultiple.memSize) cfg

def writeSingleReg (buf : RegDmaBuffer) (cfg : SetupOpsCfg) : RegDmaBuffer :=
  let header := singleRegWriteOpcode ||| (cfg.blkOffset &&& maxRelativeOff)
  let buf := buf.store [header, cfg.dataWord 0]
  (buf.advance SetupOp.regSingleWrite.memSize).wroteReg

def writeSingleModify (buf : RegDmaBuffer) (cfg : SetupOpsCfg) : RegDmaBuffer :=
  let header := singleRegModifyOpcode ||| (cfg.blkOffset &&& maxRelativeOff)
  let buf := buf.store [header, cfg.mask, cfg.dataWord 0]
  (buf.advance SetupOp.regSingleModify.memSize).wroteReg

def writeDecodeSel (version : Version) (buf : RegDmaBuffer) (cfg : SetupOpsCfg) : RegDmaBuffer :=
  let buf := buf.store [decodeSel version, getDecodeSel cfg.blk]
  { buf.advance SetupOp.hwBlkSelect.memSize with
    opsCompleted := buf.opsCompleted ||| decodeSelOp
    nextOpAllowed := regWriteOp }

def writeDmaOpParams (version : Version) : SetupOp → RegDmaBuffer → SetupOpsCfg → RegDmaBuffer
  | .hwBlkSelect => writeDecodeSel version
  | .regSingleWrite => writeSingleReg
  | .regBlkWriteSingle => writeMultiRegInc
  | .regBlkWriteInc => writeMultiRegIndex
  | .regBlkWriteMultiple => writeMultiLutReg
  | .regSingleModify => writeSingleModify

def setupPayloadV1 (version : Version) (buf : RegDmaBuffer) (cfg : SetupOpsCfg) :
    Except Errno Unit × RegDmaBuffer :=
  match validateDmaCfg version buf cfg with
  | .error rc => (.error rc, buf)
  | .ok op =>
    match validateDmaOpParams op buf cfg with
    | .error rc => (.error rc, buf)
    | .ok () => (.ok (), writeDmaOpParams version op buf cfg)

end DisplayDrivers.RegDma
