import DisplayDrivers.Rm.Select

/-! # The calls: `sde_rm_reserve`, `sde_rm_release`, `sde_rm_ext_blk_create_reserve`,

`sde_rm_ext_blk_destroy`

Each call runs under `rm_lock`, so it is one step.
-/

namespace DisplayDrivers.Rm

/-- A call of `sde_rm_reserve` and what its helpers read. -/
structure ReserveCall where
  enc : Nat
  needsModeset : Bool
  topologyControl : Nat
  hwRes : HwResources
  connectorIsDsi : Bool
  isPrimaryDisplay : Bool
  inCloneMode : Bool
  numDatapath : Nat
  kms : SdeKms
  testOnly : Bool

/-- `sde_rm_is_display_in_cont_splash`: the first display of the encoder counts. -/
def sdeRmIsDisplayInContSplash (kms : SdeKms) (enc : Nat) : Bool :=
  match kms.splashDisplay.find? fun d => d.encoder == some enc with
  | some d => d.contSplashEnabled
  | none => false

def isTopologyMatch (t : TopologyDef) (r : DisplayTopology) : Bool :=
  t.numLm == r.numLm && t.numCompEnc == r.numEnc && t.numIntf == r.numIntf

/-- `_sde_rm_populate_requirements` for DSI displays: DSPP for all, DS for the primary one. -/
def selectForDsi (rm : SdeRm) (call : ReserveCall) (reqs : Requirements) : Requirements :=
  if call.connectorIsDsi then
    let reqs := if !reqs.rqDspp then reqs.add topctlDspp else reqs
    if !reqs.rqDs && rm.hasDestScaler && call.isPrimaryDisplay then reqs.add topctlDs else reqs
  else reqs

/-- `_sde_rm_populate_requirements` for concurrent writeback, which overrides the topology by the
    entries `SDE_RM_TOPOLOGY_DUALPIPE_3DMERGE` and `SDE_RM_TOPOLOGY_SINGLEPIPE` of the table. -/
def selectForCwb (rm : SdeRm) (call : ReserveCall) (reqs : Requirements) : Requirements :=
  if !reqs.rqCwb && call.inCloneMode then
    let topology := if call.numDatapath = 1 then rm.topologyTbl 1 else rm.topologyTbl 5
    { reqs.add topctlCwb with topology := topology }
  else reqs

/-- `_sde_rm_populate_requirements`, where none stands for `-EINVAL` -/
def populateRequirements (rm : SdeRm) (call : ReserveCall) : Option Requirements :=
  match (List.range topologyMax).find?
      fun i => isTopologyMatch (rm.topologyTbl i) call.hwRes.topology with
  | none => none
  | some i =>
    let reqs : Requirements := ⟨call.topologyControl, rm.topologyTbl i, call.hwRes⟩
    some (selectForCwb rm call (selectForDsi rm call reqs))

namespace SdeRm

def alloc (rm : SdeRm) (rsvp : Rsvp) (allocator : View → Answer) : Int × SdeRm :=
  let answer := allocator (rm.view rsvp.encId)
  (answer.1, rm.propose rsvp answer.2)

/-- The reservation object of a call, as `_sde_rm_make_next_rsvp` fills it in. -/
def newRsvp (rm : SdeRm) (addr enc : Nat) (topology : TopologyName) : Rsvp :=
  ⟨addr, rm.rsvpNextSeq + 1, enc, topology⟩

/-- `rsvp->seq = ++rm->rsvp_next_seq` and `list_add_tail` -/
def addRsvp (rm : SdeRm) (rsvp : Rsvp) : SdeRm :=
  { rm with rsvpNextSeq := rsvp.seq, rsvps := rm.rsvps ++ [rsvp] }

end SdeRm

def andAlloc (sofar : Int × SdeRm) (rsvp : Rsvp) (allocator : View → Answer) : Int × SdeRm :=
  if sofar.1 ≠ 0 then sofar else sofar.2.alloc rsvp allocator

def singleCtl : Nat := 1

/-- What follows the mixers in `_sde_rm_make_next_rsvp` and in its continuous splash variant;
    `sofar` is `ret` and the lists after the mixers.  What `_sde_rm_reserve_ctls` returns is not
    looked at: `ret` is still 0 where it is tested again. -/
def reserveAfterLms (sofar : Int × SdeRm) (kms : SdeKms) (rsvp : Rsvp) (reqs : Requirements)
    (ctlIds dscIds : Option (Nat → Nat)) (retryCtls : Bool) : Int × SdeRm :=
  let (ret, rm) := sofar
  if ret ≠ 0 then (ret, rm)
  else
    -- the fall-back and the second test look at the `ret` of the mixers, which is 0 by now
    let (_, rm) := rm.alloc rsvp fun view => reserveCtls view reqs reqs.topology ctlIds
    let rm :=
      if ret ≠ 0 ∧ !reqs.topology.needsSplitDisplay ∧ retryCtls then
        (rm.alloc rsvp fun view =>
          reserveCtls view reqs { reqs.topology with needsSplitDisplay := true } ctlIds).2
      else rm
    if ret ≠ 0 then (ret, rm)
    else
      let next := rm.alloc rsvp fun view => reserveIntfRelatedHw view reqs.hwRes
      let next := andAlloc next rsvp fun view => reserveDsc view kms reqs.topology dscIds
      andAlloc next rsvp fun view => reserveQdss view kms

def makeNextRsvp (rm : SdeRm) (kms : SdeKms) (rsvp : Rsvp) (reqs : Requirements) : Int × SdeRm :=
  let lms := (rm.addRsvp rsvp).alloc rsvp fun view => reserveLms view kms reqs none
  reserveAfterLms lms kms rsvp reqs none none (reqs.topology.numCtl > singleCtl)

/-- `_sde_rm_make_next_rsvp_for_cont_splash`: the last display of the encoder counts.  Without
    one the object is not filled in and reaches no list. -/
def makeNextRsvpForContSplash (rm : SdeRm) (kms : SdeKms) (rsvp : Rsvp) (reqs : Requirements) :
    Int × SdeRm :=
  match kms.splashDisplay.reverse.find? fun d => d.encoder == some rsvp.encId with
  | none => (eInval, rm)
  | some d =>
    let lms := (rm.addRsvp rsvp).alloc rsvp fun view => reserveLms view kms reqs (some d.lmIds)
    if lms.1 ≠ 0 ∧ !reqs.rqDspp then
      let lms := lms.2.alloc rsvp fun view =>
        reserveLms view kms (reqs.add topctlDspp) (some d.lmIds)
      reserveAfterLms lms kms rsvp (reqs.add topctlDspp) (some d.ctlIds) (some d.dscIds) true
    else reserveAfterLms lms kms rsvp reqs (some d.ctlIds) (some d.dscIds) true

/-- A call of `sde_rm_reserve` at `SDE_RM_STAGE_AFTER_RSVPNEXT`. -/
structure Stage where
  ret : Int
  rm : SdeRm
  cur : Option Rsvp
  nxt : Rsvp
  reqs : Requirements

/-- `sde_rm_reserve` up to `SDE_RM_STAGE_AFTER_RSVPNEXT`; `mem` is `kzalloc`'s answer.  The
    returns before that stage leave the manager as it is. -/
def sdeRmReserveNext (rm : SdeRm) (call : ReserveCall) (mem : Option Nat) : Except Int Stage :=
  if !sdeRmIsDisplayInContSplash call.kms call.enc && !call.needsModeset then .error 0
  else
    match populateRequirements rm call with
    | none => .error eInval
    | some reqs =>
      match rm.kzalloc mem with
      | none => .error eNomem
      | some addr =>
        -- a test with CLEAR releases the reservation in force before it proposes anything
        let cur := rm.getRsvp call.enc
        let clear := call.testOnly && reqs.rqClear
        let rm := if clear then rm.release cur else rm
        let cur := if clear then none else cur
        let nxt := rm.newRsvp addr call.enc reqs.topology.topName
        let (ret, rm) :=
          if sdeRmIsDisplayInContSplash call.kms call.enc then
            makeNextRsvpForContSplash rm call.kms nxt reqs
          else makeNextRsvp rm call.kms nxt reqs
        .ok ⟨ret, rm, cur, nxt, reqs⟩

/-- `sde_rm_reserve` from `SDE_RM_STAGE_AFTER_RSVPNEXT` on. -/
def Stage.finish (s : Stage) (testOnly : Bool) : Int × SdeRm :=
  if s.ret ≠ 0 then (s.ret, s.rm.releaseRsvp s.nxt)
  else if testOnly && !s.reqs.rqLock then (s.ret, s.rm.releaseRsvp s.nxt)
  -- the old reservation goes before the new one comes into force
  else (0, (s.rm.release s.cur).commitRsvp)

def sdeRmReserve (rm : SdeRm) (call : ReserveCall) (mem : Option Nat) : Int × SdeRm :=
  match sdeRmReserveNext rm call mem with
  | .error ret => (ret, rm)
  | .ok stage => stage.finish call.testOnly

/-- `sde_rm_release`; `connector` is the topology control property of the encoder's connector, if
    it has one. -/
def sdeRmRelease (rm : SdeRm) (enc : Nat) (connector : Option Nat) : SdeRm :=
  match rm.getRsvp enc with
  | none => rm
  | some rsvp =>
    match connector with
    | none => rm
    | some topCtrl => if topCtrl.testBit topctlReserveLock then rm else rm.releaseRsvp rsvp

/-- A block handed to `sde_rm_ext_blk_create_reserve`. -/
structure ExtHw where
  type : HwBlkType
  id : Nat
  caps : Caps type

/-- The reservation `sde_rm_ext_blk_create_reserve` works with: the encoder's, or a new one. -/
def extRsvp (rm : SdeRm) (enc : Nat) (mem : Option Nat) : Option (Rsvp × SdeRm) :=
  match rm.getRsvp enc with
  | some rsvp => some (rsvp, rm)
  | none =>
    match rm.kzalloc mem with
    | none => none
    | some addr =>
      let rsvp := rm.newRsvp addr enc .none
      some (rsvp, rm.addRsvp rsvp)

/-- `sde_rm_ext_blk_create_reserve`; `mem` answers the `kzalloc` of the reservation and
    `blkMem` says whether there is memory for the block. -/
def sdeRmExtBlkCreateReserve (rm : SdeRm) (hw : ExtHw) (enc : Nat) (mem : Option Nat)
    (blkMem : Bool) : Int × SdeRm :=
  match extRsvp rm enc mem with
  | none => (eNomem, rm)
  | some (rsvp, rm) =>
    if !blkMem then (eNomem, rm)
    else
      let blk : HwBlk hw.type := ⟨hw.id, hw.caps, some rsvp, none, some enc⟩
      (0, { rm with hwBlks := Function.update rm.hwBlks hw.type (rm.hwBlks hw.type ++ [blk]) })

def sdeRmExtBlkDestroy (rm : SdeRm) (enc : Nat) : Int × SdeRm :=
  match rm.getRsvp enc with
  | none => (eNoent, rm)
  | some rsvp =>
    (0, { rm with
      hwBlks := fun t => (rm.hwBlks t).filter fun b => b.rsvp ≠ some rsvp
      rsvps := rm.rsvps.erase rsvp })

end DisplayDrivers.Rm
