import DisplayDrivers.Lib.TwoLevel

/-! # Pending flushes of a CTL

`struct sde_ctl_flush_cfg` collects the flushes that wait for the next trigger.
-/

namespace DisplayDrivers.Ctl

open DisplayDrivers.Lib.TwoLevel

inductive Group
  | wb
  | dsc
  | merge3d
  | cdm
  | cwb
  | intf
  | periph
deriving DecidableEq

/-- `struct sde_ctl_flush_cfg`: `summary` is `pending_flush_mask`, `group` the seven others. -/
abbrev FlushCfg := Masks Group 32

/-- `WB_IDX` and its siblings, the bits of the groups in `pending_flush_mask`. -/
def Group.idx : Group → ℕ
  | .wb => 16
  | .dsc => 22
  | .merge3d => 23
  | .cdm => 26
  | .cwb => 28
  | .periph => 30
  | .intf => 31

inductive Errno
  | einval

/-! ## Tables -/

def ssppTbl : List ℕ := [0, 0, 1, 2, 18, 3, 4, 5, 19, 11, 12, 24, 25, 0, 0]
def mixerTbl : List ℕ := [0, 6, 7, 8, 9, 10, 20, 0]
def dsppTbl : List ℕ := [0, 13, 14, 15, 21]
def dsppPavTbl : List ℕ := [0, 3, 4, 5, 19]
def rotTbl : List ℕ := [0, 27]
def wbFlushTbl : List ℕ := [0, 0, 0, 2, 0]
def intfFlushTbl : List ℕ := [0, 0, 1, 2, 3, 4, 5, 0]
def dscFlushTbl : List ℕ := [0, 0, 1, 2, 3, 4, 5]
def merge3dTbl : List ℕ := [0, 0, 1, 2]
def cdmFlushTbl : List ℕ := [0, 0, 0]
def cwbFlushTbl : List ℕ := [0, 0, 1, 2, 3, 4, 5]

def ctlFlushMaskCtl : ℕ := 17
def ctlFlushMaskRot : ℕ := 27

/-! ## Blocks that the summary flushes -/

/-- An update of a bit of `pending_flush_mask` for a block of an enumeration with values below
    `table.length`. -/
def updatePlain (table : List ℕ) (block : ℕ) (enable : Bool) (flush : FlushCfg) :
    Except Errno FlushCfg :=
  if block = 0 ∨ table.length ≤ block then .error .einval
  else .ok (flush.mark (table.getD block 0) enable)

def updateBitmaskSspp (sspp : ℕ) (enable : Bool) (flush : FlushCfg) : Except Errno FlushCfg :=
  updatePlain ssppTbl sspp enable flush

def updateBitmaskMixer (lm : ℕ) (enable : Bool) (flush : FlushCfg) : Except Errno FlushCfg :=
  (updatePlain mixerTbl lm enable flush).map fun flush => flush.mark ctlFlushMaskCtl true

def updateBitmaskDspp (dspp : ℕ) (enable : Bool) (flush : FlushCfg) : Except Errno FlushCfg :=
  updatePlain dsppTbl dspp enable flush

def updateBitmaskDsppPavlut (dspp : ℕ) (enable : Bool) (flush : FlushCfg) :
    Except Errno FlushCfg :=
  updatePlain dsppPavTbl dspp enable flush

def updateBitmaskRot (rot : ℕ) (enable : Bool) (flush : FlushCfg) : Except Errno FlushCfg :=
  updatePlain rotTbl rot enable flush

/-! ## Blocks with a flush register of their own -/

def updateGroup (g : Group) (bit : ℕ) (enable : Bool) (flush : FlushCfg) : FlushCfg :=
  let flush := flush.setGroup g (setBit (flush.group g) bit enable)
  if flush.group g != 0#32 then flush.mark g.idx true else flush.mark g.idx false

def updateBitmaskWbV1 (wb : ℕ) (enable : Bool) (flush : FlushCfg) : Except Errno FlushCfg :=
  if wb ≠ 3 then .error .einval else .ok (updateGroup .wb (wbFlushTbl.getD wb 0) enable flush)

def updateBitmaskIntfV1 (intf : ℕ) (enable : Bool) (flush : FlushCfg) : Except Errno FlushCfg :=
  if intf = 0 ∨ 8 ≤ intf then .error .einval
  else .ok (updateGroup .intf (intfFlushTbl.getD intf 0) enable flush)

def updateBitmaskPeriphV1 (intf : ℕ) (enable : Bool) (flush : FlushCfg) : Except Errno FlushCfg :=
  if intf = 0 ∨ 8 ≤ intf then .error .einval
  else .ok (updateGroup .periph (intfFlushTbl.getD intf 0) enable flush)

def updateBitmaskDscV1 (dsc : ℕ) (enable : Bool) (flush : FlushCfg) : Except Errno FlushCfg :=
  if dsc = 0 ∨ 7 ≤ dsc then .error .einval
  else .ok (updateGroup .dsc (dscFlushTbl.getD dsc 0) enable flush)

def updateBitmaskMerge3dV1 (merge3d : ℕ) (enable : Bool) (flush : FlushCfg) :
    Except Errno FlushCfg :=
  if merge3d = 0 ∨ 4 ≤ merge3d then .error .einval
  else .ok (updateGroup .merge3d (merge3dTbl.getD merge3d 0) enable flush)

def updateBitmaskCdmV1 (cdm : ℕ) (enable : Bool) (flush : FlushCfg) : Except Errno FlushCfg :=
  if cdm ≠ 1 then .error .einval else .ok (updateGroup .cdm (cdmFlushTbl.getD cdm 0) enable flush)

def updateBitmaskCwbV1 (cwb : ℕ) (enable : Bool) (flush : FlushCfg) : Except Errno FlushCfg :=
  if cwb < 2 ∨ 7 ≤ cwb then .error .einval
  else .ok (updateGroup .cwb (cwbFlushTbl.getD cwb 0) enable flush)

/-! ## Whole configurations -/

/-- `sde_hw_ctl_update_pending_flush`, for a CTL with one level. -/
def updatePendingFlush (flush cfg : FlushCfg) : FlushCfg :=
  { flush with summary := flush.summary ||| cfg.summary }

def updatePendingFlushV1 (flush cfg : FlushCfg) : FlushCfg := flush.union cfg

def clearPendingFlush : FlushCfg := Masks.empty

/-- What `sde_hw_ctl_reset_post_disable` reads of `struct sde_hw_intf_cfg_v1`: the arrays up to
    their counts, whose entries are values of the enumerations or zero. -/
structure IntfCfgV1 where
  intf : List ℕ
  wb : List ℕ
  intf_valid : ∀ id ∈ intf, id < 8
  wb_valid : ∀ id ∈ wb, id < 5

def flushBits (blocks : List ℕ) : BitVec 32 :=
  blocks.foldl (fun mask id => if id ≠ 0 then mask ||| BitVec.twoPow 32 (id - 1) else mask) 0#32

/-- `sde_hw_ctl_reset_post_disable`, as far as the pending flushes go; `merge3dIdx` is a value of
    `enum sde_merge_3d` or zero. -/
def resetPostDisable (cfg : IntfCfgV1) (merge3dIdx : Fin 4) (flush : FlushCfg) : FlushCfg :=
  let flush :=
    if merge3dIdx.val ≠ 0 then flush.setGroup .merge3d (BitVec.twoPow 32 (merge3dIdx.val - 1))
    else flush
  let flush :=
    if cfg.intf.length ≠ 0 then
      (flush.setGroup .intf (flushBits cfg.intf)).mark Group.intf.idx true
    else flush
  if cfg.wb.length ≠ 0 then (flush.setGroup .wb (flushBits cfg.wb)).mark Group.wb.idx true
  else flush

/-! ## Triggers -/

inductive FlushReg
  | flush
  | group (g : Group)
deriving DecidableEq

def triggerFlush (flush : FlushCfg) : List (FlushReg × BitVec 32) := [(.flush, flush.summary)]

def groups : List Group := [.wb, .dsc, .merge3d, .cdm, .cwb, .intf, .periph]

/-- `sde_hw_ctl_trigger_flush_v1`: the groups whose bit is set, then the summary. -/
def triggerFlushV1 (flush : FlushCfg) : List (FlushReg × BitVec 32) :=
  (groups.filter fun g => flush.summary.getLsbD g.idx).map (fun g => (.group g, flush.group g)) ++
    [(.flush, flush.summary)]

/-- `sde_hw_ctl_trigger_rot_start` takes the rotator out of the pending flushes. -/
def triggerRotStart (flush : FlushCfg) : FlushCfg :=
  if flush.summary.getLsbD ctlFlushMaskRot then flush.mark ctlFlushMaskRot false else flush

end DisplayDrivers.Ctl
