import DisplayDrivers.Lib.Run
import Mathlib.Data.BitVec
import Mathlib.Logic.Function.Basic

/-! # Continuous splash memory (`msm/sde/sde_kms.c`)

The boot loader leaves the displays fetching from splash memory.
-/

namespace DisplayDrivers.Splash

abbrev U32 := BitVec 32

abbrev ULong := BitVec 64

def maxDsiDisplays : ℕ := 2

def eInval : Int := -22

def pageShift : ℕ := 12

/-- `struct sde_splash_mem` -/
structure SplashMem where
  splashBufSize : U32 := 0
  splashBufBase : ULong := 0
  ramdumpSize : U32 := 0
  ramdumpBase : ULong := 0
  refCnt : U32 := 0

/-- `struct sde_splash_display`, without the hardware blocks of the display. -/
structure SplashDisplay where
  contSplashEnabled : Bool := false
  encoder : Option ℕ := none
  splash : Option ℕ := none

inductive Phase
  | attached
  | up
  | failed
  | down
deriving DecidableEq

/-- What the driver needs of `struct sde_kms`, and what has become of each region, of the vote and
    of the displays. -/
structure SdeKms where
  numSplashRegions : ℕ
  numSplashDisplays : ℕ
  splashMem : ℕ → SplashMem
  splashDisplay : ℕ → SplashDisplay
  aspace : Bool := true
  phase : Phase := .attached
  mapped : ℕ → Bool := fun _ => false
  unmaps : ℕ → ℕ := fun _ => 0
  freed : ℕ → List (List ℕ) := fun _ => []
  voteDrops : ℕ := 0
  handedOff : ℕ → Bool := fun _ => false

/-! ## One region -/

/-- `_sde_kms_release_splash_buffer`, with the frames of the pages that it frees; `memblockFree` is
    the answer of `memblock_free`. -/
def releaseSplashBuffer (memblockFree : Int)
    (memAddr splashBufferSize ramdumpBase ramdumpBufferSize : U32) :
    Int × List ℕ :=
  if memAddr = 0 ∨ splashBufferSize = 0 then (eInval, [])
  else
    -- leave ramdump memory only if base address matches
    let leave := ramdumpBase = memAddr ∧ ramdumpBufferSize ≤ splashBufferSize
    let memAddr := if leave then memAddr + ramdumpBufferSize else memAddr
    let splashBufferSize := if leave then splashBufferSize - ramdumpBufferSize else splashBufferSize
    let pfnStart := (memAddr >>> pageShift).toNat
    let pfnEnd := ((memAddr + splashBufferSize) >>> pageShift).toNat
    if memblockFree ≠ 0 then (memblockFree, [])
    else (memblockFree, List.range' pfnStart (pfnEnd - pfnStart))

/-- `_sde_kms_splash_mem_get`; `oneToOneMap` is the answer of the SMMU for each region. -/
def SdeKms.splashMemGet (s : SdeKms) (oneToOneMap : ℕ → Int) : Option ℕ → SdeKms × Int
  | none => (s, eInval)
  | some r =>
    if !s.aspace then (s, eInval)
    else
      let splash := s.splashMem r
      let ret := if splash.refCnt = 0 then oneToOneMap r else 0
      ({ s with
          splashMem := Function.update s.splashMem r { splash with refCnt := splash.refCnt + 1 }
          mapped :=
            Function.update s.mapped r (s.mapped r || (splash.refCnt = 0 && ret = 0)) }, ret)

def SdeKms.splashMemPut (s : SdeKms) (memblockFree : ℕ → Int) : Option ℕ → SdeKms × Int
  | none => (s, eInval)
  | some r =>
    if !s.aspace then (s, eInval)
    else
      let splash : SplashMem := { s.splashMem r with refCnt := (s.splashMem r).refCnt - 1 }
      if splash.refCnt = 0 then
        let (rc, pages) := releaseSplashBuffer (memblockFree r) (splash.splashBufBase.setWidth 32)
          splash.splashBufSize (splash.ramdumpBase.setWidth 32) splash.ramdumpSize
        ({ s with
            splashMem :=
              Function.update s.splashMem r { splash with splashBufBase := 0, splashBufSize := 0 }
            mapped := Function.update s.mapped r false
            unmaps := Function.update s.unmaps r (s.unmaps r + 1)
            freed := Function.update s.freed r (s.freed r ++ [pages]) }, rc)
      else ({ s with splashMem := Function.update s.splashMem r splash }, 0)

/-! ## All displays -/

def forDisplays (body : SdeKms → Option ℕ → SdeKms × Int) (s : SdeKms) : List ℕ → SdeKms × Int
  | [] => (s, 0)
  | i :: rest =>
    let (s, ret) := body s (s.splashDisplay i).splash
    if ret ≠ 0 then (s, ret) else forDisplays body s rest

def SdeKms.mapAllSplashRegions (s : SdeKms) (oneToOneMap : ℕ → Int) : SdeKms × Int :=
  forDisplays (·.splashMemGet oneToOneMap) s (List.range s.numSplashDisplays)

def SdeKms.unmapAllSplashRegions (s : SdeKms) (memblockFree : ℕ → Int) : SdeKms :=
  (forDisplays (·.splashMemPut memblockFree) s (List.range s.numSplashDisplays)).1

/-! ## The life of the driver -/

/-- `_sde_kms_hw_destroy`: first the regions and then the address spaces. -/
def SdeKms.hwDestroy (s : SdeKms) (memblockFree : ℕ → Int) (phase : Phase) : SdeKms :=
  { s.unmapAllSplashRegions memblockFree with aspace := false, phase }

/-- `fail` in `_sde_kms_mmu_init`, which takes the address spaces away, and the end of
    `sde_kms_hw_init` after it. -/
def SdeKms.mmuInitFail (s : SdeKms) (memblockFree : ℕ → Int) : SdeKms :=
  { s with aspace := false }.hwDestroy memblockFree .failed

/-- `sde_kms_hw_init` where it looks for the displays; `resInit` says that
    `sde_rm_cont_splash_res_init` has found all of them. -/
def SdeKms.contSplashResInit (s : SdeKms) (resInit : Bool) (memblockFree : ℕ → Int) : SdeKms :=
  if s.numSplashRegions = 0 then s
  else if resInit then
    { s with splashDisplay := fun i => if i < s.numSplashDisplays
        then { s.splashDisplay i with contSplashEnabled := true } else s.splashDisplay i }
  else
    { s.unmapAllSplashRegions memblockFree with
      numSplashRegions := 0
      numSplashDisplays := 0
      splashMem := fun _ => {}
      splashDisplay := fun _ => {}
      handedOff := fun _ => true }

/-- The end of `sde_kms_hw_init`. -/
def SdeKms.hwInitDone (s : SdeKms) : SdeKms :=
  { s with phase := .up, voteDrops := s.voteDrops + if s.numSplashDisplays = 0 then 1 else 0 }

/-- `sde_kms_hw_init` from the mapping on; `setAttribute` is the answer to turning early map off. -/
def SdeKms.hwInit (s : SdeKms) (oneToOneMap : ℕ → Int) (setAttribute : Int) (resInit : Bool)
    (memblockFree : ℕ → Int) : SdeKms :=
  let (s, ret) := if s.numSplashRegions ≠ 0 then s.mapAllSplashRegions oneToOneMap else (s, 0)
  if ret ≠ 0 then s.mmuInitFail memblockFree
  else if setAttribute ≠ 0 then (s.unmapAllSplashRegions memblockFree).mmuInitFail memblockFree
  else (s.contSplashResInit resInit memblockFree).hwInitDone

/-- `sde_kms_cont_splash_config` for one display. -/
def SdeKms.contSplashConfig (s : SdeKms) (i encoder : ℕ) : SdeKms :=
  if (s.splashDisplay i).contSplashEnabled then
    let display : SplashDisplay := { s.splashDisplay i with encoder := some encoder }
    { s with splashDisplay := Function.update s.splashDisplay i display }
  else s

/-- `sde_kms_release_splash_resource`, when a commit on a CRTC is complete; `crtcOf` has the CRTCs
    of the encoders. -/
def SdeKms.releaseSplashResource (s : SdeKms) (crtcOf : ℕ → Option ℕ) (crtc : ℕ) (active : Bool)
    (memblockFree : ℕ → Int) : SdeKms :=
  if !active || s.numSplashDisplays = 0 then s
  else match (List.range maxDsiDisplays).find? fun i => (s.splashDisplay i).encoder.any
    (crtcOf · == some crtc) with
    | none => s
    | some i =>
      let display := s.splashDisplay i
      let s := (s.splashMemPut memblockFree display.splash).1
      let s : SdeKms :=
        if display.contSplashEnabled then
          { s with
            numSplashDisplays := s.numSplashDisplays - 1
            splashDisplay := Function.update s.splashDisplay i {}
            handedOff := Function.update s.handedOff i true }
        else s
      -- remove the votes if all displays are done with splash
      { s with voteDrops := s.voteDrops + if s.numSplashDisplays = 0 then 1 else 0 }

inductive Input
  | hwInit (oneToOneMap : ℕ → Int) (setAttribute : Int) (resInit : Bool) (memblockFree : ℕ → Int)
  | contSplashConfig (i encoder : ℕ)
  | completeCommit (crtcOf : ℕ → Option ℕ) (crtc : ℕ) (active : Bool) (memblockFree : ℕ → Int)
  | destroy (memblockFree : ℕ → Int)

def step (s : SdeKms) : Input → SdeKms
  | .hwInit oneToOneMap setAttribute resInit memblockFree =>
    if s.phase = .attached then s.hwInit oneToOneMap setAttribute resInit memblockFree else s
  | .contSplashConfig i encoder =>
    if s.phase = .up ∧ i < maxDsiDisplays then s.contSplashConfig i encoder else s
  | .completeCommit crtcOf crtc active memblockFree =>
    if s.phase = .up then s.releaseSplashResource crtcOf crtc active memblockFree else s
  | .destroy memblockFree => if s.phase = .up then s.hwDestroy memblockFree .down else s

/-! ## What the device tree says -/

structure Setup where
  regions : ℕ
  displays : ℕ
  region : ℕ → ℕ
  mem : ℕ → SplashMem
  room : displays ≤ maxDsiDisplays
  some_region : 0 < displays → 0 < regions
  unused : ∀ r, (mem r).refCnt = 0

def Setup.boot (setup : Setup) : SdeKms where
  numSplashRegions := setup.regions
  numSplashDisplays := setup.displays
  splashMem := setup.mem
  splashDisplay i := if i < setup.displays then { splash := some (setup.region i) } else {}

def SplashMem.pages (mem : SplashMem) : List ℕ :=
  let leave := if mem.ramdumpBase = mem.splashBufBase ∧ mem.ramdumpSize ≤ mem.splashBufSize
    then mem.ramdumpSize.toNat else 0
  let first := (mem.splashBufBase.toNat + leave) >>> pageShift
  List.range' first ((mem.splashBufBase.toNat + mem.splashBufSize.toNat) >>> pageShift - first)

end DisplayDrivers.Splash
