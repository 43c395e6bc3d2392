import DisplayDrivers.Ctl.Blendstage
import DisplayDrivers.Format.Formats
import DisplayDrivers.Lib.RegProgram
import DisplayDrivers.Multirect.Planes

/-! # The registers of a source pipe (`msm/sde/sde_hw_sspp.c`, `msm/sde/sde_hw_util.c`)

Each of the operations of `struct sde_hw_sspp_ops` that an update of a plane calls is a program of
register writes.

The scaler of QSEED3 is programmed by the CPU, or through a reg DMA buffer by an operation that is a
parameter (`regDmaSetupVigQseed3`).
-/

namespace DisplayDrivers.Sspp

open DisplayDrivers.Ctl (Multirect)
open DisplayDrivers.Format (SdeFormat)
open DisplayDrivers.Lib.RegProgram
open DisplayDrivers.Multirect (MultirectMode)

abbrev U8 := BitVec 8
abbrev U16 := BitVec 16
abbrev U32 := BitVec 32
abbrev U64 := BitVec 64

def BIT (n : ℕ) : U32 := 1#32 <<< n

/-! ## Data -/

/-- `struct sde_format` -/
structure PipeFormat extends SdeFormat where
  element : ℕ → U8
  bits : ℕ → U8
  unpackAlignMsb : U8
  unpackCount : U8
  alphaEnable : Bool

/-- `struct sde_rect` -/
structure SdeRect where
  x : U16 := 0
  y : U16 := 0
  w : U16 := 0
  h : U16 := 0
deriving DecidableEq

/-- `struct sde_hw_pixel_ext`; a new one is all zero. -/
structure PixelExt where
  initPhaseX : ℕ → U32 := fun _ => 0
  phaseStepX : ℕ → U32 := fun _ => 0
  initPhaseY : ℕ → U32 := fun _ => 0
  phaseStepY : ℕ → U32 := fun _ => 0
  numExtPxlsLeft : ℕ → U32 := fun _ => 0
  numExtPxlsRight : ℕ → U32 := fun _ => 0
  numExtPxlsTop : ℕ → U32 := fun _ => 0
  numExtPxlsBtm : ℕ → U32 := fun _ => 0
  leftFtch : ℕ → U32 := fun _ => 0
  rightFtch : ℕ → U32 := fun _ => 0
  topFtch : ℕ → U32 := fun _ => 0
  btmFtch : ℕ → U32 := fun _ => 0
  leftRpt : ℕ → U32 := fun _ => 0
  rightRpt : ℕ → U32 := fun _ => 0
  topRpt : ℕ → U32 := fun _ => 0
  btmRpt : ℕ → U32 := fun _ => 0
  roiW : ℕ → U32 := fun _ => 0
  roiH : ℕ → U32 := fun _ => 0
  horzFilter : ℕ → U32 := fun _ => 0
  vertFilter : ℕ → U32 := fun _ => 0

structure Lut where
  word : ℕ → U32
  len : ℕ

/-- `struct sde_hw_scaler3_de_cfg` -/
structure Scaler3DeCfg where
  enable : U32 := 0
  sharpenLevel1 : U16 := 0
  sharpenLevel2 : U16 := 0
  clip : U16 := 0
  limit : U16 := 0
  thrQuiet : U16 := 0
  thrDieout : U16 := 0
  thrLow : U16 := 0
  thrHigh : U16 := 0
  precShift : U16 := 0
  adjustA : ℕ → U16 := fun _ => 0
  adjustB : ℕ → U16 := fun _ => 0
  adjustC : ℕ → U16 := fun _ => 0
  blend : U32 := 0

/-- `struct sde_hw_scaler3_cfg`; a new one is all zero. -/
structure Scaler3Cfg where
  enable : U32 := 0
  dirEn : U32 := 0
  initPhaseX : ℕ → U32 := fun _ => 0
  phaseStepX : ℕ → U32 := fun _ => 0
  initPhaseY : ℕ → U32 := fun _ => 0
  phaseStepY : ℕ → U32 := fun _ => 0
  preloadX : ℕ → U32 := fun _ => 0
  preloadY : ℕ → U32 := fun _ => 0
  srcWidth : ℕ → U32 := fun _ => 0
  srcHeight : ℕ → U32 := fun _ => 0
  dstWidth : U32 := 0
  dstHeight : U32 := 0
  yRgbFilterCfg : U32 := 0
  uvFilterCfg : U32 := 0
  alphaFilterCfg : U32 := 0
  blendCfg : U32 := 0
  lutFlag : U32 := 0
  yRgbCirLutIdx : U32 := 0
  uvCirLutIdx : U32 := 0
  yRgbSepLutIdx : U32 := 0
  uvSepLutIdx : U32 := 0
  dirLut : Option Lut := none
  cirLut : Option Lut := none
  sepLut : Option Lut := none
  de : Scaler3DeCfg := {}
  dirWeight : U32 := 0
  dynExpDisabled : U32 := 0

/-- `struct sde_hw_pipe_cfg`, with the pitches of its layout. -/
structure PipeCfg where
  planePitch : ℕ → U32
  srcRect : SdeRect
  dstRect : SdeRect
  horzDecimation : U8
  vertDecimation : U8

/-- `struct sde_hw_pipe_cdp_cfg` -/
structure CdpCfg where
  enable : Bool
  ubwcMetaEnable : Bool
  tileAmortizeEnable : Bool
  preloadAhead64 : Bool

/-- `SDE_PIPE_SC_OP_MODE_*`, by their values. -/
def scOpModeOffline : U32 := 0
def scOpModeInlineSingle : U32 := 1
def scOpModeInlineLeft : U32 := 2
def scOpModeInlineRight : U32 := 3

/-- `struct sde_hw_pipe_sc_cfg` -/
structure ScCfg where
  opMode : U32
  rdEn : Bool
  rdScid : U32
  rdNoallocate : Bool
  /-- `SDE_PIPE_SC_RD_OP_TYPE_CACHEABLE` is 0. -/
  rdOpType : U32 := 0

/-- `struct sde_hw_pipe_line_insertion_cfg`; a new one is all zero. -/
structure LineInsertionCfg where
  enable : Bool := false
  dummyLines : U32 := 0
  firstActiveLines : U32 := 0
  activeLines : U32 := 0
  dstH : U32 := 0

/-- `struct sde_csc_cfg`, with its matrix. -/
structure CscCfg where
  cscMv : ℕ → U32

/-- The `SDE_SSPP_*` flags of `setup_format`. -/
structure SrcFlags where
  flipLr : Bool := false
  flipUd : Bool := false
  sourceRotated90 : Bool := false
  rot90 : Bool := false
  solidFill : Bool := false

/-! ## The pipe -/

/-- The `SDE_SSPP_*` features that the operations ask for. -/
inductive Feature
  | scalerQseed2 | scalerQseed3 | scalerQseed3lite | scalerRgb
  | csc | csc10bit | exclRect | smartDmaV1 | smartDmaV2 | smartDmaV2p5 | sbuf | cdp
  | inversePma | dgmInversePma | dgmCsc | lineInsertion

/-- `SDE_HW_UBWC_VER_*` -/
inductive UbwcVersion
  | ver10 | ver20 | ver30 | other

inductive Rec
  | rec0 | rec1
deriving DecidableEq

/-- The words of a colour component in `SSPP_SW_PIX_EXT_*`. -/
inductive PixExtWord
  | lr | tb | reqPixels
deriving DecidableEq

inductive Qseed2Reg
  | scaleConfig
  | comp03InitPhaseX | comp03InitPhaseY | comp03PhaseStepX | comp03PhaseStepY
  | comp12InitPhaseX | comp12InitPhaseY | comp12PhaseStepX | comp12PhaseStepY
deriving DecidableEq

/-- The registers of the QSEED3 scaler; `coefLut` are the words from `QSEED3_COEF_LUT_OFF` on. -/
inductive Qseed3Reg
  | opMode | phaseInit | phaseStepYH | phaseStepYV | phaseStepUvH | phaseStepUvV | preload
  | deSharpen | deSharpenCtl | deShapeCtl | deThreshold | deAdjustData (i : ℕ)
  | srcSizeYRgbA | srcSizeUv | dstSize | coefLutCtrl | dirFilterWeight
  | phaseInitYH | phaseInitYV | phaseInitUvH | phaseInitUvV | coefLut (offset : ℕ)
deriving DecidableEq

inductive Reg
  | srcSize (r : Rec) | srcXy (r : Rec) | outSize (r : Rec) | outXy (r : Rec)
  | ystride0 | ystride1 | decimationConfig
  | swPixExt (component : ℕ) (word : PixExtWord)
  | qseed2 (reg : Qseed2Reg) | qseed3 (reg : Qseed3Reg)
  | exclRecSize (r : Rec) | exclRecXy (r : Rec) | exclRecCtl
  | multirectOpmode
  | lineInsertionCtrl (r : Rec) | lineInsertionOutSize (r : Rec)
  | srcFormat (r : Rec) | srcUnpackPattern (r : Rec) | srcOpMode (r : Rec)
  | fetchConfig | ubwcStaticCtrl | ubwcErrorStatus
  | vigOpMode | vigCsc10OpMode
  | cdpCntl (r : Rec) | sysCacheMode | gamutUnmultMode | dgmOpMode (r : Rec)
  | dgmCscOpMode (r : Rec) | dgmCscMatrix (r : Rec) (i : ℕ)
  | srcAddrSwStatus
deriving DecidableEq

abbrev PipeProgram := Program Reg 32

/-- `struct sde_hw_pipe` with what its operations use of the catalog. -/
structure HwPipe where
  features : Feature → Bool
  highestBankBit : U32
  ubwcSwizzle : U32
  ubwcVersion : UbwcVersion
  scalerVersion : ℕ
  /-- `ops.setup_scaler`, where the reg DMA can be used for the QSEED3 scaler. -/
  regDmaSetupVigQseed3 : Option (Scaler3Cfg → PipeFormat → Program Qseed3Reg 32)

/-- The registers of a rectangle: those of `SDE_SSPP_RECT_SOLO` are those of the first one. -/
def recOf : Multirect → Rec
  | .rectSolo | .rect0 => .rec0
  | .rect1 => .rec1

def indexValue : Multirect → U32
  | .rectSolo => 0
  | .rect0 => 1
  | .rect1 => 2

namespace HwPipe

def multirectEnabled (pipe : HwPipe) : Bool :=
  pipe.features .smartDmaV1 || pipe.features .smartDmaV2 || pipe.features .smartDmaV2p5

def hasScaler (pipe : HwPipe) : Bool :=
  pipe.features .scalerRgb || pipe.features .scalerQseed2 || pipe.features .scalerQseed3 ||
    pipe.features .scalerQseed3lite

def qseed3 (pipe : HwPipe) : Bool := pipe.features .scalerQseed3 || pipe.features .scalerQseed3lite

end HwPipe

/-! ## Secure flag and rectangles -/

def setupSecure (rectMode : Multirect) (enable : Bool) : PipeProgram :=
  let secureBitMask : U32 :=
    match rectMode with
    | .rectSolo => 0xF
    | .rect0 => 0x5
    | .rect1 => 0xA
  [.putBits .srcAddrSwStatus secureBitMask enable]

def xyWord (x y : U16) : U32 := y.setWidth 32 <<< 16 ||| x.setWidth 32

/-- A field of a `YSTRIDE` word; the other one is kept. -/
def stride (reg : Reg) (rectIndex : Multirect) (pitch : U32) : Write Reg 32 :=
  match rectIndex with
  | .rect1 => ⟨reg, 0xFFFF0000, pitch <<< 16 &&& 0xFFFF0000⟩
  | _ => ⟨reg, 0x0000FFFF, pitch &&& 0x0000FFFF⟩

def setupRects (pipe : HwPipe) (cfg : PipeCfg) (rectIndex : Multirect) : PipeProgram :=
  let r := recOf rectIndex
  let decimation : U32 :=
    if pipe.hasScaler then
      (1#32 <<< cfg.horzDecimation.toNat - 1) <<< 8 ||| (1#32 <<< cfg.vertDecimation.toNat - 1)
    else 0
  [.all (.srcSize r) (xyWord cfg.srcRect.w cfg.srcRect.h),
    .all (.srcXy r) (xyWord cfg.srcRect.x cfg.srcRect.y),
    .all (.outSize r) (xyWord cfg.dstRect.w cfg.dstRect.h),
    .all (.outXy r) (xyWord cfg.dstRect.x cfg.dstRect.y)] ++
  (if rectIndex = .rectSolo then
    [.all .ystride0 (cfg.planePitch 0 ||| cfg.planePitch 1 <<< 16),
      .all .ystride1 (cfg.planePitch 2 ||| cfg.planePitch 3 <<< 16)]
  else
    [stride .ystride0 rectIndex (cfg.planePitch 0), stride .ystride1 rectIndex (cfg.planePitch 2)])
      ++
  [.all .decimationConfig decimation]

def setupExclRect (exclRect : SdeRect) (rectIndex : Multirect) : PipeProgram :=
  let r := recOf rectIndex
  let enableBit := match r with
    | .rec0 => BIT 0
    | .rec1 => BIT 1
  let size := xyWord exclRect.w exclRect.h
  -- the word is read back only where the pipe is shared
  let ctl (en : Bool) : Write Reg 32 :=
    if rectIndex = .rectSolo then
      .all .exclRecCtl (if en then BIT 0 ||| enableBit else BIT 0 &&& ~~~enableBit)
    else .putBits .exclRecCtl enableBit en
  if size = 0 then [ctl false]
  else
    [ctl true, .all (.exclRecSize r) size, .all (.exclRecXy r) (xyWord exclRect.x exclRect.y)]

def setupMultirect (index : Multirect) (mode : MultirectMode) : PipeProgram :=
  if index = .rectSolo then [.all .multirectOpmode 0]
  else
    -- `SDE_SSPP_RECT_MAX` is 3
    [.setBits .multirectOpmode (if mode = .none then indexValue index else 3),
      .putBits .multirectOpmode (BIT 2) (mode = .timeMx)]

def setupLineInsertion (rectIndex : Multirect) (cfg : LineInsertionCfg) : PipeProgram :=
  let r := recOf rectIndex
  let ctlVal :=
    if cfg.enable then
      BIT 31 ||| cfg.dummyLines <<< 16 ||| cfg.firstActiveLines <<< 8 ||| cfg.activeLines
    else 0
  [.all (.lineInsertionCtrl r) ctlVal, .all (.lineInsertionOutSize r) (cfg.dstH <<< 16)]

/-! ## Pixel extension and scaler -/

def setupPeConfig (pe : PixelExt) : PipeProgram :=
  let lrPe (color : ℕ) : U32 :=
    (pe.rightFtch color &&& 0xff) <<< 24 ||| (pe.rightRpt color &&& 0xff) <<< 16 |||
      (pe.leftFtch color &&& 0xff) <<< 8 ||| (pe.leftRpt color &&& 0xff)
  let tbPe (color : ℕ) : U32 :=
    (pe.btmFtch color &&& 0xff) <<< 24 ||| (pe.btmRpt color &&& 0xff) <<< 16 |||
      (pe.topFtch color &&& 0xff) <<< 8 ||| (pe.topRpt color &&& 0xff)
  let totReqPixels (color : ℕ) : U32 :=
    (pe.roiH color + pe.numExtPxlsTop color + pe.numExtPxlsBtm color &&& 0xffff) <<< 16 |||
      (pe.roiW color + pe.numExtPxlsLeft color + pe.numExtPxlsRight color &&& 0xffff)
  [.all (.swPixExt 0 .lr) (lrPe 0), .all (.swPixExt 0 .tb) (tbPe 0),
    .all (.swPixExt 0 .reqPixels) (totReqPixels 0),
    .all (.swPixExt 1 .lr) (lrPe 1), .all (.swPixExt 1 .tb) (tbPe 1),
    .all (.swPixExt 1 .reqPixels) (totReqPixels 1),
    -- the source writes `lr_pe` to both words of component 3
    .all (.swPixExt 3 .lr) (lrPe 3), .all (.swPixExt 3 .tb) (lrPe 3),
    .all (.swPixExt 3 .reqPixels) (totReqPixels 3)]

def scaleFilterMax : U32 := 4

/-- The filters of a direction in `SCALE_CONFIG`, from bit `lo` on, and the bit that turns it on. -/
def filterConfig (filter : ℕ → U32) (lo on : ℕ) : U32 :=
  let field (component shift : ℕ) : U32 :=
    if filter component < scaleFilterMax then filter component <<< shift else 0
  let config := field 0 lo ||| field 1 (lo + 4) ||| field 3 (lo + 8)
  if config ≠ 0 then config ||| BIT on else config

def setupScaler (pe : PixelExt) : Program Qseed2Reg 32 :=
  [.all .scaleConfig (filterConfig pe.horzFilter 8 0 ||| filterConfig pe.vertFilter 10 1),
    .all .comp03InitPhaseX (pe.initPhaseX 0), .all .comp03InitPhaseY (pe.initPhaseY 0),
    .all .comp03PhaseStepX (pe.phaseStepX 0), .all .comp03PhaseStepY (pe.phaseStepY 0),
    .all .comp12InitPhaseX (pe.initPhaseX 1), .all .comp12InitPhaseY (pe.initPhaseY 1),
    .all .comp12PhaseStepX (pe.phaseStepX 1), .all .comp12PhaseStepY (pe.phaseStepY 1)]

def setupScaler3De (de : Scaler3DeCfg) : Program Qseed3Reg 32 :=
  let word (x : U16) : U32 := x.signExtend 32
  let adjust (curve : ℕ → U16) : U32 :=
    (word (curve 0) &&& 0x3FF) ||| (word (curve 1) &&& 0x3FF) <<< 10 |||
      (word (curve 2) &&& 0x3FF) <<< 20
  [.all .deSharpen ((word de.sharpenLevel1 &&& 0x1FF) ||| (word de.sharpenLevel2 &&& 0x1FF) <<< 16),
    .all .deSharpenCtl ((word de.limit &&& 0xF) <<< 9 ||| (word de.precShift &&& 0x7) <<< 13 |||
      (word de.clip &&& 0x7) <<< 16 ||| (de.blend &&& 0xF) <<< 20),
    .all .deShapeCtl ((word de.thrQuiet &&& 0xFF) ||| (word de.thrDieout &&& 0x3FF) <<< 16),
    .all .deThreshold ((word de.thrLow &&& 0x3FF) ||| (word de.thrHigh &&& 0x3FF) <<< 16),
    .all (.deAdjustData 0) (adjust de.adjustA), .all (.deAdjustData 1) (adjust de.adjustB),
    .all (.deAdjustData 2) (adjust de.adjustC)]

/-- The words of a coefficient table from `start` on, put to the regions of `off_tbl`: the number of
    words of a region over four, and its offset. -/
def lutRegions (word : ℕ → U32) : ℕ → List (ℕ × ℕ) → Program Qseed3Reg 32
  | _, [] => []
  | start, (quarter, offset) :: rest =>
    (List.range (quarter <<< 2)).map
    (fun j => .all (.coefLut (offset + 4 * j)) (word (start + j))) ++
      lutRegions word (start + quarter <<< 2) rest

def lutFilter (asked : Bool) (index count words : ℕ) (table : Option Lut) (regions : List (ℕ × ℕ)) :
    Program Qseed3Reg 32 :=
  match table with
  | some lut =>
    when (asked && index < count && lut.len == words * count * 4)
      (lutRegions (fun i => lut.word (index * words + i)) 0 regions)
  | none => []

def setupScaler3Lut (cfg : Scaler3Cfg) : Program Qseed3Reg 32 :=
  let flag := cfg.lutFlag.getLsbD
  lutFilter (flag 1) 0 1 200 cfg.dirLut [(18, 0x000), (12, 0x120), (12, 0x1E0), (8, 0x2A0)] ++
  lutFilter (flag 2) cfg.yRgbCirLutIdx.toNat 9 60 cfg.cirLut
    [(6, 0x320), (3, 0x3E0), (3, 0x440), (3, 0x4A0)] ++
  lutFilter (flag 3) cfg.uvCirLutIdx.toNat 9 60 cfg.cirLut
    [(6, 0x500), (3, 0x5c0), (3, 0x620), (3, 0x680)] ++
  lutFilter (flag 4) cfg.yRgbSepLutIdx.toNat 10 60 cfg.sepLut
    [(6, 0x380), (3, 0x410), (3, 0x470), (3, 0x4d0)] ++
  lutFilter (flag 5) cfg.uvSepLutIdx.toNat 10 60 cfg.sepLut
    [(6, 0x560), (3, 0x5f0), (3, 0x650), (3, 0x6b0)] ++
  when (flag 0) [.all .coefLutCtrl (BIT 0)]

def liteFilter (asked : Bool) (index : ℕ) (lut : Lut) (offset : ℕ) : Program Qseed3Reg 32 :=
  when (asked && index < 10 && lut.len == 33 * 10 * 4)
    ((List.range 33).map fun i => .all (.coefLut (offset + 4 * i)) (lut.word (index * 33 + i)))

def setupScaler3liteLut (cfg : Scaler3Cfg) : Program Qseed3Reg 32 :=
  .all .dirFilterWeight (cfg.dirWeight &&& 0xFF) ::
    match cfg.sepLut with
    | none => []
    | some lut =>
      liteFilter (cfg.lutFlag.getLsbD 4) cfg.yRgbSepLutIdx.toNat lut 0x000 ++
      liteFilter (cfg.lutFlag.getLsbD 5) cfg.uvSepLutIdx.toNat lut 0x200 ++
      when (cfg.lutFlag.getLsbD 0) [.all .coefLutCtrl (BIT 0)]

/-- What `sde_hw_setup_scaler3` writes only where the scaler is enabled. -/
def setupScaler3Enabled (version : ℕ) (cfg : Scaler3Cfg) : Program Qseed3Reg 32 :=
  let pair (x y : U32) : U32 := (x &&& 0x1FFFF) ||| (y &&& 0x1FFFF) <<< 16
  let four (x y : ℕ → U32) (mask : U32) : U32 :=
    (x 0 &&& mask) ||| (y 0 &&& mask) <<< 8 ||| (x 1 &&& mask) <<< 16 ||| (y 1 &&& mask) <<< 24
  when (cfg.de.enable != 0) (setupScaler3De cfg.de) ++
  -- `get_scaler_lut`: `QSEED3LITE_SCALER_VERSION` is 0x2004
  when (cfg.lutFlag != 0)
    (if version < 0x2004 then setupScaler3Lut cfg else setupScaler3liteLut cfg) ++
  (if version = 0x1002 then [.all .phaseInit (four cfg.initPhaseX cfg.initPhaseY 0x3F)]
  else
    [.all .phaseInitYH (cfg.initPhaseX 0 &&& 0x1FFFFF), .all .phaseInitYV
      (cfg.initPhaseY 0 &&& 0x1FFFFF),
      .all .phaseInitUvH (cfg.initPhaseX 1 &&& 0x1FFFFF),
      .all .phaseInitUvV (cfg.initPhaseY 1 &&& 0x1FFFFF)]) ++
  [.all .phaseStepYH (cfg.phaseStepX 0 &&& 0xFFFFFF), .all .phaseStepYV
    (cfg.phaseStepY 0 &&& 0xFFFFFF),
    .all .phaseStepUvH (cfg.phaseStepX 1 &&& 0xFFFFFF),
    .all .phaseStepUvV (cfg.phaseStepY 1 &&& 0xFFFFFF),
    .all .preload (four cfg.preloadX cfg.preloadY 0x7F),
    .all .srcSizeYRgbA (pair (cfg.srcWidth 0) (cfg.srcHeight 0)),
    .all .srcSizeUv (pair (cfg.srcWidth 1) (cfg.srcHeight 1)),
    .all .dstSize (pair cfg.dstWidth cfg.dstHeight)]

def setupScaler3 (version : ℕ) (cfg : Scaler3Cfg) (format : PipeFormat) : Program Qseed3Reg 32 :=
  let set (cond : Bool) (bits : U32) : U32 := if cond then bits else 0
  let enabled : U32 :=
    BIT 0 ||| (cfg.yRgbFilterCfg &&& 0x3) <<< 16 |||
    set format.isYuv (BIT 12 ||| (cfg.uvFilterCfg &&& 0x3) <<< 24) |||
    (cfg.blendCfg &&& 1) <<< 31 ||| set (cfg.dirEn != 0) (BIT 4) |||
    set (cfg.dynExpDisabled != 0) (BIT 13) ||| set (cfg.de.enable != 0) (BIT 8)
  let alphaFilter : U32 :=
    if version = 0x1002 then (cfg.alphaFilterCfg &&& 0x1) <<< 30
      else (cfg.alphaFilterCfg &&& 0x3) <<< 29
  when (cfg.enable != 0) (setupScaler3Enabled version cfg) ++
    [.all .opMode (set (cfg.enable != 0) enabled ||| set (!format.isDx) (BIT 14) |||
      set format.alphaEnable (BIT 10 ||| alphaFilter))]

/-! ## Format -/

/-- `SDE_CHROMA_*`, by their values; the flag for a rotated source swaps the two directions. -/
def chromaSamp (fmt : PipeFormat) (flags : SrcFlags) : U32 :=
  match fmt.chromaSample with
  | .rgb => 0
  | .h2v1 => if flags.sourceRotated90 then 2 else 1
  | .h1v2 => if flags.sourceRotated90 then 1 else 2
  | .c420 => 3

/-- `SDE_PLANE_*`, by their values. -/
def fetchPlanes (fmt : PipeFormat) : U32 :=
  match fmt.fetchPlanes with
  | .interleaved => 0
  | .planar => 1
  | .pseudoPlanar => 2

/-- `SDE_FETCH_*`, by their values. -/
def fetchMode (fmt : PipeFormat) : U32 :=
  match fmt.fetchMode with
  | .linear => 0
  | .tile => 1
  | .ubwc => 2

def srcFormatWord (fmt : PipeFormat) (flags : SrcFlags) : U32 :=
  let set (cond : Bool) (bits : U32) : U32 := if cond then bits else 0
  let bits (i : ℕ) : U32 := (fmt.bits i).setWidth 32
  chromaSamp fmt flags <<< 23 ||| fetchPlanes fmt <<< 19 |||
    bits 3 <<< 6 ||| bits 2 <<< 4 ||| bits 1 <<< 2 ||| bits 0 |||
    set flags.rot90 (BIT 11) ||| set (fmt.alphaEnable && fmt.fetchPlanes = .interleaved) (BIT 8) |||
    set flags.solidFill (BIT 22) |||
    (fmt.unpackCount.setWidth 32 - 1) <<< 12 ||| set fmt.unpackTight (BIT 17) |||
    fmt.unpackAlignMsb.setWidth 32 <<< 18 ||| (fmt.bpp - 1) <<< 9 |||
    set (!fmt.isLinear) ((fetchMode fmt &&& 3) <<< 30) |||
    set fmt.isYuv (BIT 15) ||| set fmt.isDx (BIT 14)

def unpackWord (fmt : PipeFormat) : U32 :=
  let element (i : ℕ) : U32 := (fmt.element i).setWidth 32
  element 3 <<< 24 ||| element 2 <<< 16 ||| element 1 <<< 8 ||| element 0

/-- `MDSS_MDP_OP_*` -/
def opFlipUd : U32 := BIT 14
def opFlipLr : U32 := BIT 13
def opBwcEn : U32 := BIT 0
def opPeOverride : U32 := BIT 31

/-- `SSPP_UBWC_STATIC_CTRL`, where the version has it. -/
def ubwcStaticCtrl (pipe : HwPipe) (constAlphaEn : Bool) : PipeProgram :=
  let alphaEnMask : U32 := if constAlphaEn then BIT 31 else 0
  match pipe.ubwcVersion with
  | .ver10 => [.all .ubwcStaticCtrl
      (alphaEnMask ||| (pipe.ubwcSwizzle &&& 0x1) ||| BIT 8 ||| pipe.highestBankBit <<< 4)]
  | .ver20 =>
    [.all .ubwcStaticCtrl (alphaEnMask ||| pipe.ubwcSwizzle ||| pipe.highestBankBit <<< 4)]
  | .ver30 => [.all .ubwcStaticCtrl (BIT 30 ||| pipe.ubwcSwizzle ||| pipe.highestBankBit <<< 4)]
  | .other => []

/-- `_sspp_setup_opmode` and `_sspp_setup_csc10_opmode`, by the feature. -/
def setupCscOpmode (pipe : HwPipe) (fmt : PipeFormat) : PipeProgram :=
  if pipe.features .csc then
    when (pipe.features .scalerQseed2) [.putBits .vigOpMode (BIT 17 ||| BIT 18) fmt.isYuv]
  else if pipe.features .csc10bit then [.putBits .vigCsc10OpMode (BIT 0 ||| BIT 1) fmt.isYuv]
  else []

def setupFormat (pipe : HwPipe) (fmt : PipeFormat) (constAlphaEn : Bool) (flags : SrcFlags)
    (rectMode : Multirect) : PipeProgram :=
  let r := recOf rectMode
  let set (cond : Bool) (bits : U32) : U32 := if cond then bits else 0
  when (!fmt.isLinear)
    (.all .fetchConfig ((0x87 : U32) ||| pipe.highestBankBit <<< 18) :: ubwcStaticCtrl pipe
      constAlphaEn) ++
  setupCscOpmode pipe fmt ++
  [.all (.srcFormat r) (srcFormatWord fmt flags), .all (.srcUnpackPattern r) (unpackWord fmt),
    ⟨.srcOpMode r, opFlipLr ||| opFlipUd ||| opBwcEn ||| opPeOverride,
      set flags.flipLr opFlipLr ||| set flags.flipUd opFlipUd |||
      set (!fmt.isLinear && fmt.isUbwc) opBwcEn ||| opPeOverride⟩,
    .all .ubwcErrorStatus (BIT 31)]

def setupCdp (cfg : CdpCfg) (index : Multirect) : PipeProgram :=
  let set (cond : Bool) (bits : U32) : U32 := if cond then bits else 0
  [.all (.cdpCntl (recOf index)) (set cfg.enable (BIT 0) ||| set cfg.ubwcMetaEnable (BIT 1) |||
    set cfg.tileAmortizeEnable (BIT 2) ||| set cfg.preloadAhead64 (BIT 3))]

def setupSysCache (cfg : ScCfg) : PipeProgram :=
  let set (cond : Bool) (bits : U32) : U32 := if cond then bits else 0
  [.all .sysCacheMode ((cfg.opMode &&& 0x3) <<< 18 ||| set cfg.rdEn (BIT 15) |||
    (cfg.rdScid &&& 0x1f) <<< 8 ||| set cfg.rdNoallocate (BIT 4) ||| (cfg.rdOpType &&& 0xf))]

/-- `setup_inverse_pma`: the operation of the pipe, by the feature. -/
def setupInversePma (pipe : HwPipe) (index : Multirect) (enable : U32) : PipeProgram :=
  if pipe.features .dgmInversePma then [.putBits (.dgmOpMode (recOf index)) (BIT 0) (enable != 0)]
  else if pipe.features .inversePma then
    when (index != .rect1) [.all .gamutUnmultMode (if enable ≠ 0 then BIT 0 else 0)]
  else []

/-- `sde_hw_csc_matrix_coeff_setup` with `DGM_CSC_MATRIX_SHIFT`, which is 0. -/
def cscMatrixCoeffSetup (r : Rec) (data : CscCfg) : PipeProgram :=
  let pair (i : ℕ) : U32 := (data.cscMv i &&& 0x1FFF) ||| (data.cscMv (i + 1) &&& 0x1FFF) <<< 16
  [.all (.dgmCscMatrix r 0) (pair 0), .all (.dgmCscMatrix r 1) (pair 2),
    .all (.dgmCscMatrix r 2) (pair 4), .all (.dgmCscMatrix r 3) (pair 6),
    .all (.dgmCscMatrix r 4) (data.cscMv 8 &&& 0x1FFF)]

def setupDgmCsc (index : Multirect) (data : Option CscCfg) : PipeProgram :=
  let r := recOf index
  match data with
  | some csc => cscMatrixCoeffSetup r csc ++ [.all (.dgmCscOpMode r) (BIT 0)]
  | none => [.all (.dgmCscOpMode r) 0]

end DisplayDrivers.Sspp
