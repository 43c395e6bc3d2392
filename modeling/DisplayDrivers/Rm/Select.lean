import DisplayDrivers.Lib.PairSearch
import DisplayDrivers.Rm.Blocks

/-! # The allocators: `_sde_rm_reserve_lms` … `_sde_rm_reserve_intf_related_hw`

An allocator walks the block lists with `_sde_rm_get_hw_locked`, reads ids, capabilities and
`RESERVED_BY_OTHER`, and writes `rsvp_nxt`, which none of them reads. So each is given here as a
function of what it can see (`View`) to its `Answer`: the value it returns and the blocks whose
`rsvp_nxt` it sets.
-/

namespace DisplayDrivers.Rm

open DisplayDrivers.Lib.PairSearch

/-! ## What an allocator sees -/

structure IterBlk (t : HwBlkType) where
  pos : Nat
  id : Nat
  caps : Caps t
  reservedByOther : Bool

def IterBlk.ref {t : HwBlkType} (b : IterBlk t) : BlkRef := (t, b.pos)

abbrev View := (t : HwBlkType) → List (IterBlk t)

def SdeRm.view (rm : SdeRm) (encId : Nat) : View := fun t =>
  (rm.hwBlks t).mapIdx fun i b => ⟨i, b.id, b.caps, b.reservedByOther encId⟩

abbrev Answer := Int × List BlkRef

def Answer.andThen (a b : Answer) : Answer := if a.1 ≠ 0 then a else (b.1, a.2 ++ b.2)

def eNavail : Int := -119
def eInval : Int := -22
def eNomem : Int := -12
def eNoent : Int := -2

/-! ## Requirements -/

/-- `struct msm_display_topology` -/
structure DisplayTopology where
  numLm : Nat
  numEnc : Nat
  numIntf : Nat

/-- `enum sde_intf_mode` -/
inductive IntfMode
  | none | cmd | video | wbBlock | wbLine
  deriving DecidableEq

/-- `struct sde_encoder_hw_resources` -/
structure HwResources where
  intfs : List IntfMode
  wbs : List IntfMode
  needsCdm : Bool
  isPrimary : Bool
  topology : DisplayTopology

/-- `struct sde_rm_requirements` -/
structure Requirements where
  topCtrl : Nat
  topology : TopologyDef
  hwRes : HwResources

/-- `reqs->top_ctrl & BIT(bit)` -/
def Requirements.rq (reqs : Requirements) (bit : Nat) : Bool := reqs.topCtrl.testBit bit

def Requirements.add (reqs : Requirements) (bit : Nat) : Requirements :=
  { reqs with topCtrl := reqs.topCtrl ||| 1 <<< bit }

theorem Requirements.rq_add (reqs : Requirements) (bit k : Nat) :
    (reqs.add bit).rq k = (reqs.rq k || decide (bit = k)) := by
  rw [rq, add, Nat.testBit_or, Nat.one_shiftLeft, Nat.testBit_two_pow]
  rfl

/-- The bits of `top_ctrl`, `SDE_RM_TOPCTL_RESERVE_LOCK` to `SDE_RM_TOPCTL_CWB`. -/
def topctlReserveLock : Nat := 0
def topctlReserveClear : Nat := 1
def topctlDspp : Nat := 2
def topctlDs : Nat := 3
def topctlCwb : Nat := 4

/-- `RM_RQ_LOCK` to `RM_RQ_CWB`, one for each bit. -/
def Requirements.rqLock (reqs : Requirements) : Bool := reqs.rq topctlReserveLock
def Requirements.rqClear (reqs : Requirements) : Bool := reqs.rq topctlReserveClear
def Requirements.rqDspp (reqs : Requirements) : Bool := reqs.rq topctlDspp
def Requirements.rqDs (reqs : Requirements) : Bool := reqs.rq topctlDs
def Requirements.rqCwb (reqs : Requirements) : Bool := reqs.rq topctlCwb

/-- `struct sde_splash_display`.  The id arrays are the memory they start at. -/
structure SplashDisplay where
  encoder : Option Nat
  contSplashEnabled : Bool
  ctlIds : Nat → Nat
  lmIds : Nat → Nat
  dscIds : Nat → Nat

/-- What the allocators read of `struct sde_kms` and its catalog. -/
structure SdeKms where
  hasRoiMisr : Bool
  qdssCount : Nat
  splashDisplay : List SplashDisplay

def idMatches (ids : Option (Nat → Nat)) (n id : Nat) : Bool :=
  match ids with
  | none => true
  | some ids => id == ids n

/-! ## Layer mixers -/

/-- The blocks that go with a chosen mixer: `lm[i]`, `dspp[i]`, `ds[i]`, `pp[i]`, `roi_misr[i]`
    and `dsc[i]`. -/
structure Mixer where
  lm : IterBlk .lm
  dspp : Option (IterBlk .dspp)
  ds : Option (IterBlk .ds)
  pp : IterBlk .pingpong
  roiMisr : Option (IterBlk .roiMisr)
  dsc : Option (IterBlk .dsc)

def connectedBlk {t : HwBlkType} (blks : List (IterBlk t)) (id : Nat) : Option (IterBlk t) :=
  (blks.find? fun b => b.id == id).filter fun b => !b.reservedByOther

def connectedBlkIf {t : HwBlkType} (needed : Bool) (blks : List (IterBlk t)) (id : Nat) :
    Option (Option (IterBlk t)) :=
  if needed then (connectedBlk blks id).map some else some none

/-- The part of `_sde_rm_check_lm_and_get_connected_blks` about what the mixer is made for. -/
def meetsPreference (reqs : Requirements) (lmCfg : LmCfg) : Bool :=
  let displayPref := lmCfg.features.testBit dispPrimaryPref
  let cwbPref := lmCfg.features.testBit dispCwbPref
  if !displayPref then
    let isValidDspp := lmCfg.dspp != dsppMax
    let isValidDs := lmCfg.ds != dsMax
    let ret :=
      if reqs.rqDspp && reqs.rqDs then isValidDspp && isValidDs
      else if reqs.rqDspp then isValidDspp && !isValidDs
      else if reqs.rqDs then !isValidDspp && isValidDs
      else !(isValidDspp || isValidDs)
    -- concurrent writeback takes mixers with that preference only
    ret && !(reqs.rqCwb && !cwbPref)
  else reqs.hwRes.isPrimary && displayPref

def checkLmAndGetConnectedBlks (view : View) (kms : SdeKms) (reqs : Requirements)
    (lm : IterBlk .lm) (primaryLm : Option (IterBlk .lm)) : Option Mixer := do
  let lmCfg : LmCfg := lm.caps
  guard (primaryLm.all fun primary => primary.caps.lmPairMask.testBit lmCfg.id)
  guard (meetsPreference reqs lmCfg)
  guard (!lm.reservedByOther)
  let dspp ← connectedBlkIf (lmCfg.dspp != dsppMax) (view .dspp) lmCfg.dspp
  let ds ← connectedBlkIf (lmCfg.ds != dsMax) (view .ds) lmCfg.ds
  let pp ← connectedBlk (view .pingpong) lmCfg.pingpong
  let roiMisr ← connectedBlkIf (lmCfg.roiMisr != roiMisrMax) (view .roiMisr) lmCfg.roiMisr
  -- in the 3DMux case only the primary's roi misr is in the control path
  let roiMisr :=
    if primaryLm.isSome && sdeRmIs3dmuxCase reqs.topology.topName then none else roiMisr
  let dsc ← connectedBlkIf (reqs.topology.numCompEnc != 0 && kms.hasRoiMisr) (view .dsc)
    lmCfg.roiMisr
  guard (!(reqs.topology.topName = .ppsplit && !pp.caps.features.testBit pingpongSplit))
  return ⟨lm, dspp, ds, pp, roiMisr, dsc⟩

/-- The requirements in each walk over the mixers: the list is walked again for mixers with
    DSPPs, then for mixers with DSPPs and DSs, where these were not asked for. -/
def lmWalks (reqs : Requirements) : List Requirements :=
  -- the bits set for a walk stay set for the next one
  if !reqs.rqDspp then
    if !reqs.rqDs then [reqs, reqs.add topctlDspp, (reqs.add topctlDspp).add topctlDs]
    else [reqs, reqs.add topctlDspp]
  else if !reqs.rqDs then [reqs, reqs.add topctlDs]
  else [reqs]

def primaryMixer (view : View) (kms : SdeKms) (reqs : Requirements) (lmIds : Option (Nat → Nat))
    (n : Nat) (lm : IterBlk .lm) : Option Mixer :=
  if idMatches lmIds n lm.id then checkLmAndGetConnectedBlks view kms reqs lm none else none

def peerMixer (view : View) (kms : SdeKms) (reqs : Requirements) (lmIds : Option (Nat → Nat))
    (n : Nat) (primary lm : IterBlk .lm) : Option Mixer :=
  (checkLmAndGetConnectedBlks view kms reqs lm (some primary)).filter fun _ =>
    idMatches lmIds n lm.id

/-- The search loop of `_sde_rm_reserve_lms`. -/
def findMixers (view : View) (kms : SdeKms) (reqs : Requirements) (lmIds : Option (Nat → Nat)) :
    List Mixer :=
  ((lmWalks reqs).foldl (fun s walk =>
    pass reqs.topology.numLm (·.id) (primaryMixer view kms walk lmIds)
      (peerMixer view kms walk lmIds) (view .lm) s) Search.start).found

def Mixer.refs (m : Mixer) : List BlkRef :=
  [m.lm.ref, m.pp.ref] ++ (m.dspp.map (·.ref)).toList ++ (m.ds.map (·.ref)).toList ++
    (m.roiMisr.map (·.ref)).toList ++ (m.dsc.map (·.ref)).toList

def isFreeSlave (pp : IterBlk .pingpong) : Bool :=
  pp.caps.features.testBit pingpongSlave && !pp.reservedByOther

def reserveLms (view : View) (kms : SdeKms) (reqs : Requirements) (lmIds : Option (Nat → Nat)) :
    Answer :=
  if reqs.topology.numLm = 0 then (0, [])
  else
    let lm := findMixers view kms reqs lmIds
    if lm.length ≠ reqs.topology.numLm then (eNavail, [])
    else
      let tagged := lm.flatMap Mixer.refs
      -- a missing slave fails the call after the mixers were tagged
      if reqs.topology.topName = .ppsplit then
        match (view .pingpong).find? isFreeSlave with
        | none => (eNavail, tagged)
        | some slave => (0, tagged ++ [slave.ref])
      else (0, tagged)

/-! ## Control paths -/

/-- The checks of `_sde_rm_reserve_ctls` on a control path before its id is looked at. -/
def ctlSuits (reqs : Requirements) (top : TopologyDef) (preset : Bool) (ctl : IterBlk .ctl) :
    Bool :=
  let features := ctl.caps.features
  let hasSplitDisplay := features.testBit ctlSplitDisplay
  let hasPpsplit := features.testBit ctlPingpongSplit
  let primaryPref := features.testBit ctlPrimaryPref
  !ctl.reservedByOther &&
    if !primaryPref && !preset then
      top.needsSplitDisplay == hasSplitDisplay && !(top.topName = .ppsplit && !hasPpsplit)
    else reqs.hwRes.isPrimary && primaryPref || preset

def reserveCtls (view : View) (reqs : Requirements) (top : TopologyDef)
    (ctlIds : Option (Nat → Nat)) : Answer :=
  if top.numCtl = 0 then (0, [])
  else
    let ctls := pick top.numCtl
      (fun i ctl => ctlSuits reqs top ctlIds.isSome ctl && idMatches ctlIds i ctl.id) (view .ctl)
    if ctls.length ≠ top.numCtl then (eNavail, []) else (0, ctls.map (·.ref))

/-! ## Compression -/

def checkDsc (dsc : IterBlk .dsc) (pairedDsc : Option (IterBlk .dsc)) : Bool :=
  !dsc.reservedByOther &&
    pairedDsc.all fun paired => paired.caps.dscPairMask.testBit dsc.caps.id

def offeredDsc (dscIds : Option (Nat → Nat)) (pairedDsc : Option (IterBlk .dsc)) (n : Nat)
    (dsc : IterBlk .dsc) : Option (IterBlk .dsc) :=
  if idMatches dscIds n dsc.id && checkDsc dsc pairedDsc then some dsc else none

def reserveDsc (view : View) (kms : SdeKms) (top : TopologyDef) (dscIds : Option (Nat → Nat)) :
    Answer :=
  if top.numCompEnc = 0 then (0, [])
  -- the DSCs came with the mixers
  else if kms.hasRoiMisr then (0, [])
  else
    let dsc := (pass top.numCompEnc (·.id) (offeredDsc dscIds none)
      (fun n primary => offeredDsc dscIds (some primary) n) (view .dsc) Search.start).found
    if dsc.length ≠ top.numCompEnc then (eNavail, []) else (0, dsc.map (·.ref))

/-! ## Trace, chroma down, interfaces -/

def reserveQdss (view : View) (kms : SdeKms) : Answer :=
  match (view .qdss).find? fun b => !b.reservedByOther with
  | some b => (0, [b.ref])
  | none => if kms.qdssCount ≠ 0 then (eNavail, []) else (0, [])

def reserveCdm (view : View) (id : Nat) (type : HwBlkType) : Answer :=
  let connects (cdm : IterBlk .cdm) : Bool :=
    if type = .intf && id != intfMax then cdm.caps.intfConnect.testBit id
    else if type = .wb && id != wbMax then cdm.caps.wbConnect.testBit id
    else false
  match (view .cdm).find? fun b => !b.reservedByOther && connects b with
  | some b => (0, [b.ref])
  | none => (eNavail, [])

def reserveIntfOrWb (view : View) (id : Nat) (type : HwBlkType) (needsCdm : Bool) : Answer :=
  match (view type).find? fun b => b.id == id with
  | none => (eInval, [])
  | some b =>
    if b.reservedByOther then (eNavail, [])
    else Answer.andThen (0, [b.ref]) (if needsCdm then reserveCdm view id type else (0, []))

def HwResources.requested (hwRes : HwResources) : List (Nat × HwBlkType) :=
  ((hwRes.intfs.zipIdx.filter fun m => m.1 ≠ .none).map fun m => (m.2 + intf0, .intf)) ++
    (hwRes.wbs.zipIdx.filter fun m => m.1 ≠ .none).map fun m => (m.2 + wb0, .wb)

def reserveIntfRelatedHw (view : View) (hwRes : HwResources) : Answer :=
  hwRes.requested.foldr
    (fun r rest => (reserveIntfOrWb view r.1 r.2 hwRes.needsCdm).andThen rest) (0, [])

end DisplayDrivers.Rm
