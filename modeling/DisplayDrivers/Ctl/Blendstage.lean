import Mathlib.Algebra.Group.Nat.Defs
import Mathlib.Data.List.Basic
import Mathlib.Tactic.Common

/-! # Blend stages of a CTL

`sde_hw_ctl_setup_blendstage` writes for every pipe of a layer mixer the stage it is blended at,
plus one, into the four `CTL_LAYER` registers of the mixer.
-/

namespace DisplayDrivers.Ctl

abbrev Word := BitVec 32

inductive Sspp
  | none
  | vig0
  | vig1
  | vig2
  | vig3
  | rgb0
  | rgb1
  | rgb2
  | rgb3
  | dma0
  | dma1
  | dma2
  | dma3
  | cursor0
  | cursor1
deriving DecidableEq

/-- `enum sde_sspp_multirect_index` -/
inductive Multirect
  | rectSolo
  | rect0
  | rect1
deriving DecidableEq

def stageMax : ℕ := 12
def pipesPerStage : ℕ := 6

structure StageCfg where
  stage : ℕ → ℕ → Sspp
  multirectIndex : ℕ → ℕ → Multirect

/-- What the two functions read of `struct sde_lm_cfg`.  The catalogue counts the stages in
    `enum sde_stage`, so that every stage of a mixer is a row of the stage configuration. -/
structure LmCfg where
  id : ℕ
  maxblendstages : ℕ
  sourcesplit : Bool
  fits : maxblendstages < stageMax

structure HwCtl where
  mixerHwCaps : List LmCfg

/-- `mixercfg`, `mixercfg_ext`, `mixercfg_ext2` and `mixercfg_ext3`. -/
structure Layers where
  cfg : Word
  ext : Word
  ext2 : Word
  ext3 : Word
deriving DecidableEq

/-! ## Registers -/

def ctlLayer (lm : ℕ) : ℕ := if lm = 6 then 0x024 else (lm - 1) * 0x004
def ctlLayerExt (lm : ℕ) : ℕ := 0x40 + (lm - 1) * 0x004
def ctlLayerExt2 (lm : ℕ) : ℕ := 0x70 + (lm - 1) * 0x004
def ctlLayerExt3 (lm : ℕ) : ℕ := 0xa0 + (lm - 1) * 0x004

def regWrite (hw : ℕ → Word) (offset : ℕ) (value : Word) : ℕ → Word :=
  fun other => if other = offset then value else hw other

def ctlMixerBorderOut : Word := BitVec.twoPow 32 24

/-! ## Writing -/

def mixerStages (mixers : List LmCfg) (lm : ℕ) : Int :=
  match mixers.find? (·.id == lm) with
  | none => -22
  | some mixer => mixer.maxblendstages

/-- The registers so far and `mix`, which some cases of the switch change for the slots that
    follow. -/
structure Blend where
  layers : Layers
  mix : Word

def Blend.orCfg (b : Blend) (value : Word) (lo : ℕ) : Blend :=
  { b with layers := { b.layers with cfg := b.layers.cfg ||| value <<< lo } }

def Blend.orExt (b : Blend) (value : Word) (lo : ℕ) : Blend :=
  { b with layers := { b.layers with ext := b.layers.ext ||| value <<< lo } }

def Blend.orExt2 (b : Blend) (value : Word) (lo : ℕ) : Blend :=
  { b with layers := { b.layers with ext2 := b.layers.ext2 ||| value <<< lo } }

def Blend.orExt3 (b : Blend) (value : Word) (lo : ℕ) : Blend :=
  { b with layers := { b.layers with ext3 := b.layers.ext3 ||| value <<< lo } }

def stagePipe (i : ℕ) (b : Blend) (pipe : Sspp) (rectIndex : Multirect) : Blend :=
  let number : Word := BitVec.ofNat 32 (i + 1) &&& 0xf#32
  let ext : Word := if 7 ≤ i then 1#32 else 0#32
  match pipe with
  | .vig0 =>
    if rectIndex = .rect1 then b.orExt3 number 0 else (b.orCfg b.mix 0).orExt ext 0
  | .vig1 =>
    if rectIndex = .rect1 then b.orExt3 number 4 else (b.orCfg b.mix 3).orExt ext 2
  | .vig2 =>
    if rectIndex = .rect1 then b.orExt3 number 8 else (b.orCfg b.mix 6).orExt ext 4
  | .vig3 =>
    if rectIndex = .rect1 then b.orExt3 number 12 else (b.orCfg b.mix 26).orExt ext 6
  | .rgb0 => (b.orCfg b.mix 9).orExt ext 8
  | .rgb1 => (b.orCfg b.mix 12).orExt ext 10
  | .rgb2 => (b.orCfg b.mix 15).orExt ext 12
  | .rgb3 => (b.orCfg b.mix 29).orExt ext 14
  | .dma0 =>
    if rectIndex = .rect1 then b.orExt2 number 8 else (b.orCfg b.mix 18).orExt ext 16
  | .dma1 =>
    if rectIndex = .rect1 then b.orExt2 number 12 else (b.orCfg b.mix 21).orExt ext 18
  | .dma2 =>
    if rectIndex = .rect1 then b.orExt2 number 16
    else
      let b := { b with mix := b.mix ||| number }
      b.orExt2 b.mix 0
  | .dma3 =>
    if rectIndex = .rect1 then b.orExt2 number 20
    else
      let b := { b with mix := b.mix ||| number }
      b.orExt2 b.mix 4
  | .cursor0 => b.orExt number 20
  | .cursor1 => b.orExt number 26
  | .none => b

def stageRow (cfg : StageCfg) (pipesPerStage : ℕ) (layers : Layers) (i : ℕ) : Layers :=
  let start : Blend := { layers := layers, mix := BitVec.ofNat 32 (i + 1) &&& 0x7#32 }
  ((List.range pipesPerStage).foldl
    (fun b j => stagePipe i b (cfg.stage i j) (cfg.multirectIndex i j)) start).layers

def noLayers : Layers := { cfg := 0#32, ext := 0#32, ext2 := 0#32, ext3 := 0#32 }

def HwCtl.pipesPerStage (ctx : HwCtl) : ℕ :=
  if ctx.mixerHwCaps.head?.any (·.sourcesplit) then Ctl.pipesPerStage else 1

def stageLayers (pipesPerStage stages : ℕ) : Option StageCfg → Layers
  | none => noLayers
  | some cfg => (List.range (stages + 1)).foldl (stageRow cfg pipesPerStage) noLayers

def blendLayers (ctx : HwCtl) (lm : ℕ) (stageCfg : Option StageCfg) : Layers :=
  let stages := (mixerStages ctx.mixerHwCaps lm % 256).toNat
  let layers := stageLayers ctx.pipesPerStage stages stageCfg
  let border := layers == noLayers || stageCfg.any fun cfg => cfg.stage 0 0 == .none
  if border then { layers with cfg := layers.cfg ||| ctlMixerBorderOut } else layers

def setupBlendstage (ctx : HwCtl) (lm : ℕ) (stageCfg : Option StageCfg) (hw : ℕ → Word) :
    ℕ → Word :=
  let layers := blendLayers ctx lm stageCfg
  let hw := regWrite hw (ctlLayer lm) layers.cfg
  let hw := regWrite hw (ctlLayerExt lm) layers.ext
  let hw := regWrite hw (ctlLayerExt2 lm) layers.ext2
  regWrite hw (ctlLayerExt3 lm) layers.ext3

/-! ## Reading -/

/-- `struct ctl_sspp_stage_reg_map` -/
structure StageRegMap where
  ext : ℕ
  start : ℕ
  bits : ℕ
  secBitMask : Word

/-- `sspp_reg_cfg_tbl`, by pipe and whether it is the second rectangle. -/
def ssppRegCfgTbl : Sspp → Bool → StageRegMap
  | .vig0, false => ⟨0, 0, 3, BitVec.twoPow 32 0⟩
  | .vig0, true => ⟨3, 0, 4, 0#32⟩
  | .vig1, false => ⟨0, 3, 3, BitVec.twoPow 32 2⟩
  | .vig1, true => ⟨3, 4, 4, 0#32⟩
  | .vig2, false => ⟨0, 6, 3, BitVec.twoPow 32 4⟩
  | .vig2, true => ⟨3, 8, 4, 0#32⟩
  | .vig3, false => ⟨0, 26, 3, BitVec.twoPow 32 6⟩
  | .vig3, true => ⟨3, 12, 4, 0#32⟩
  | .rgb0, false => ⟨0, 9, 3, BitVec.twoPow 32 8⟩
  | .rgb1, false => ⟨0, 12, 3, BitVec.twoPow 32 10⟩
  | .rgb2, false => ⟨0, 15, 3, BitVec.twoPow 32 12⟩
  | .rgb3, false => ⟨0, 29, 3, BitVec.twoPow 32 14⟩
  | .dma0, false => ⟨0, 18, 3, BitVec.twoPow 32 16⟩
  | .dma0, true => ⟨2, 8, 4, 0#32⟩
  | .dma1, false => ⟨0, 21, 3, BitVec.twoPow 32 18⟩
  | .dma1, true => ⟨2, 12, 4, 0#32⟩
  | .dma2, false => ⟨2, 0, 4, 0#32⟩
  | .dma2, true => ⟨2, 16, 4, 0#32⟩
  | .dma3, false => ⟨2, 4, 4, 0#32⟩
  | .dma3, true => ⟨2, 20, 4, 0#32⟩
  | .cursor0, false => ⟨1, 20, 4, 0#32⟩
  | .cursor1, false => ⟨0, 26, 4, 0#32⟩
  | _, _ => ⟨0, 0, 0, 0#32⟩

def Layers.reg (layers : Layers) : ℕ → Word
  | 0 => layers.cfg
  | 1 => layers.ext
  | 2 => layers.ext2
  | _ => layers.ext3

def readLayers (lm : ℕ) (hw : ℕ → Word) : Layers where
  cfg := hw (ctlLayer lm)
  ext := hw (ctlLayerExt lm)
  ext2 := hw (ctlLayerExt2 lm)
  ext3 := hw (ctlLayerExt3 lm)

def StageRegMap.mask (map : StageRegMap) : Word :=
  ((1#32 <<< map.bits) - 1#32) <<< map.start

def StageRegMap.staged (map : StageRegMap) (layers : Layers) : Bool :=
  layers.reg map.ext &&& map.mask != 0#32 || layers.reg 1 &&& map.secBitMask != 0#32

/-- The pipes from `SSPP_VIG0` on, with their two rectangles. -/
def rects : List (Sspp × Bool) :=
  [.vig0, .vig1, .vig2, .vig3, .rgb0, .rgb1, .rgb2, .rgb3, .dma0, .dma1, .dma2, .dma3, .cursor0,
    .cursor1].flatMap fun pipe => [(pipe, false), (pipe, true)]

def stagedRects (layers : Layers) : List (Sspp × Bool) → ℕ → List (Sspp × Bool)
  | [], _ => []
  | _ :: _, 0 => []
  | rect :: rest, room + 1 =>
    let map := ssppRegCfgTbl rect.1 rect.2
    if map.bits = 0 ∨ 4 ≤ map.ext then stagedRects layers rest (room + 1)
    else if map.staged layers then rect :: stagedRects layers rest room
    else stagedRects layers rest (room + 1)

def getStagedSspp (lm : ℕ) (infoMaxCnt : ℕ) (hw : ℕ → Word) : List (Sspp × Bool) :=
  if 8 ≤ lm then [] else stagedRects (readLayers lm hw) rects infoMaxCnt

end DisplayDrivers.Ctl
