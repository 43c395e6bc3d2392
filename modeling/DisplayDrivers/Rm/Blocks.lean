import DisplayDrivers.Lib.Ownership

/-! # The resource manager's state: `struct sde_rm`

Hardware blocks are kept on one list per block type. A block is reserved by pointing to a
reservation.
-/

namespace DisplayDrivers.Rm

open DisplayDrivers.Lib.Ownership

/-! ## Topologies -/

/-- `enum sde_rm_topology_name` -/
inductive TopologyName
  | none | singlepipe | singlepipeDsc | dualpipe | dualpipeDsc | dualpipe3dmerge
  | dualpipe3dmergeDsc | dualpipeDscmerge | ppsplit | triplepipe | triplepipeDsc
  | quadpipe3dmerge | quadpipeDscmerge | quadpipe3dmergeDsc | sixpipe3dmerge | sixpipeDscmerge
  deriving DecidableEq

def topologyMax : Nat := 16

/-- `struct sde_rm_topology_def` -/
structure TopologyDef where
  topName : TopologyName
  numLm : Nat
  numCompEnc : Nat
  numIntf : Nat
  numCtl : Nat
  needsSplitDisplay : Bool
  deriving DecidableEq

def gTopTable : List TopologyDef :=
  [⟨.none, 0, 0, 0, 0, false⟩,
   ⟨.singlepipe, 1, 0, 1, 1, false⟩,
   ⟨.singlepipeDsc, 1, 1, 1, 1, false⟩,
   ⟨.dualpipe, 2, 0, 2, 2, true⟩,
   ⟨.dualpipeDsc, 2, 2, 2, 2, true⟩,
   ⟨.dualpipe3dmerge, 2, 0, 1, 1, false⟩,
   ⟨.dualpipe3dmergeDsc, 2, 1, 1, 1, false⟩,
   ⟨.dualpipeDscmerge, 2, 2, 1, 1, false⟩,
   ⟨.ppsplit, 1, 0, 2, 1, true⟩]

def gCtlVer1TopTable : List TopologyDef :=
  [⟨.none, 0, 0, 0, 0, false⟩,
   ⟨.singlepipe, 1, 0, 1, 1, false⟩,
   ⟨.singlepipeDsc, 1, 1, 1, 1, false⟩,
   ⟨.dualpipe, 2, 0, 2, 1, false⟩,
   ⟨.dualpipeDsc, 2, 2, 2, 1, false⟩,
   ⟨.dualpipe3dmerge, 2, 0, 1, 1, false⟩,
   ⟨.dualpipe3dmergeDsc, 2, 1, 1, 1, false⟩,
   ⟨.dualpipeDscmerge, 2, 2, 1, 1, false⟩,
   ⟨.ppsplit, 1, 0, 2, 1, false⟩,
   ⟨.triplepipe, 3, 0, 3, 1, false⟩,
   ⟨.triplepipeDsc, 3, 3, 3, 1, false⟩,
   ⟨.quadpipe3dmerge, 4, 0, 2, 1, false⟩,
   ⟨.quadpipe3dmergeDsc, 4, 3, 2, 1, false⟩,
   ⟨.quadpipeDscmerge, 4, 4, 2, 1, false⟩,
   ⟨.sixpipe3dmerge, 6, 0, 3, 1, false⟩,
   ⟨.sixpipeDscmerge, 6, 6, 3, 1, false⟩]

def sdeRmIs3dmuxCase (topName : TopologyName) : Bool :=
  topName = .dualpipe3dmerge || topName = .dualpipe3dmergeDsc || topName = .quadpipe3dmerge ||
    topName = .quadpipe3dmergeDsc || topName = .sixpipe3dmerge

/-! ## Blocks -/

/-- `enum sde_hw_blk_type` -/
inductive HwBlkType
  | top | sspp | lm | dspp | ds | ctl | cdm | pingpong | intf | wb | dsc | roiMisr | rot
  | merge3d | qdss
  deriving DecidableEq

/-- The types below `SDE_HW_BLK_MAX`, in order. -/
def hwBlkTypes : List HwBlkType :=
  [.top, .sspp, .lm, .dspp, .ds, .ctl, .cdm, .pingpong, .intf, .wb, .dsc, .roiMisr, .rot,
   .merge3d, .qdss]

theorem mem_hwBlkTypes (t : HwBlkType) : t ∈ hwBlkTypes := by cases t <;> decide

/-- `struct sde_lm_cfg` -/
structure LmCfg where
  id : Nat
  features : Nat
  dspp : Nat
  pingpong : Nat
  ds : Nat
  roiMisr : Nat
  lmPairMask : Nat

/-- `struct sde_pingpong_cfg` -/
structure PingpongCfg where
  features : Nat

/-- `struct sde_ctl_cfg` -/
structure CtlCfg where
  features : Nat

/-- `struct sde_dsc_cfg` -/
structure DscCfg where
  id : Nat
  dscPairMask : Nat

/-- `struct sde_cdm_cfg` -/
structure CdmCfg where
  intfConnect : Nat
  wbConnect : Nat

/-- What the allocators read of a block's hardware driver, `to_sde_hw_…(blk->hw)->caps`. -/
abbrev Caps : HwBlkType → Type
  | .lm => LmCfg
  | .pingpong => PingpongCfg
  | .ctl => CtlCfg
  | .dsc => DscCfg
  | .cdm => CdmCfg
  | _ => Unit

/-- The feature bits the allocators test, `SDE_DISP_PRIMARY_PREF` to `SDE_CTL_PRIMARY_PREF`. -/
def dispPrimaryPref : Nat := 5
def dispCwbPref : Nat := 6
def pingpongSplit : Nat := 3
def pingpongSlave : Nat := 4
def ctlSplitDisplay : Nat := 1
def ctlPingpongSplit : Nat := 2
def ctlPrimaryPref : Nat := 4

/-- The first and the last ids of the block enumerations, `DSPP_MAX` to `WB_MAX`. -/
def dsppMax : Nat := 5
def dsMax : Nat := 3
def roiMisrMax : Nat := 7
def intf0 : Nat := 1
def intfMax : Nat := 8
def wb0 : Nat := 1
def wbMax : Nat := 5

/-- `struct sde_rm_rsvp` -/
structure Rsvp where
  addr : Nat
  seq : BitVec 32
  encId : Nat
  topology : TopologyName
  deriving DecidableEq

/-- `struct sde_rm_hw_blk`.  `createdFor` is a ghost: the encoder for which
    `sde_rm_ext_blk_create_reserve` put the block on its list, and none for `sde_rm_init`'s. -/
structure HwBlk (t : HwBlkType) where
  id : Nat
  caps : Caps t
  rsvp : Option Rsvp
  rsvpNxt : Option Rsvp
  createdFor : Option Nat

def HwBlk.reservedByOther {t : HwBlkType} (h : HwBlk t) (encId : Nat) : Bool :=
  match h.rsvp with
  | none => false
  | some r => r.encId != encId

/-- `struct sde_rm`.  `topologyTbl` is the memory from `topology_tbl` on, with what lies behind
    the installed table. -/
@[ext]
structure SdeRm where
  rsvps : List Rsvp
  hwBlks : (t : HwBlkType) → List (HwBlk t)
  rsvpNextSeq : BitVec 32
  topologyTbl : Nat → TopologyDef
  hasDestScaler : Bool

abbrev BlkRef := HwBlkType × Nat

namespace SdeRm

/-- `sde_rm_init`: the catalog's blocks, nothing reserved. -/
def sdeRmInit (catalog : (t : HwBlkType) → List (Nat × Caps t)) (topologyTbl : Nat → TopologyDef)
    (hasDestScaler : Bool) : SdeRm where
  rsvps := []
  hwBlks t := (catalog t).map fun hw => ⟨hw.1, hw.2, none, none, none⟩
  rsvpNextSeq := 0
  topologyTbl := topologyTbl
  hasDestScaler := hasDestScaler

def blk (rm : SdeRm) (t : HwBlkType) (i : Nat) : Option (HwBlk t) := (rm.hwBlks t)[i]?

def tag (rm : SdeRm) (ref : BlkRef) : Option Rsvp := (rm.blk ref.1 ref.2).bind (·.rsvp)

def tagNxt (rm : SdeRm) (ref : BlkRef) : Option Rsvp := (rm.blk ref.1 ref.2).bind (·.rsvpNxt)

def owner (rm : SdeRm) : Table BlkRef Nat := fun ref => (rm.tag ref).map (·.encId)

def mapBlks (rm : SdeRm) (f : (t : HwBlkType) → Nat → HwBlk t → HwBlk t) : SdeRm :=
  { rm with hwBlks := fun t => (rm.hwBlks t).mapIdx (f t) }

@[simp] theorem blk_mapBlks (rm : SdeRm) (f) (t : HwBlkType) (i : Nat) :
    (rm.mapBlks f).blk t i = (rm.blk t i).map (f t i) := by
  simp [blk, mapBlks]

variable {rm : SdeRm}

theorem mem_blk {t : HwBlkType} {b : HwBlk t} (member : b ∈ rm.hwBlks t) :
    ∃ i, rm.blk t i = some b :=
  List.mem_iff_getElem?.mp member

theorem blk_mem {t : HwBlkType} {i : Nat} {b : HwBlk t} (at_i : rm.blk t i = some b) :
    b ∈ rm.hwBlks t :=
  List.mem_of_getElem? at_i

/-! ## Reservations -/

def propose (rm : SdeRm) (rsvp : Rsvp) (refs : List BlkRef) : SdeRm :=
  rm.mapBlks fun t i b => if (t, i) ∈ refs then { b with rsvpNxt := some rsvp } else b

/-- `_sde_rm_release_rsvp` of a reservation that is not `NULL`. -/
def releaseRsvp (rm : SdeRm) (rsvp : Rsvp) : SdeRm :=
  { rm with rsvps := rm.rsvps.erase rsvp }.mapBlks fun _ _ b =>
    { b with
      rsvp := if b.rsvp = some rsvp then none else b.rsvp
      rsvpNxt := if b.rsvpNxt = some rsvp then none else b.rsvpNxt }

/-- `_sde_rm_release_rsvp` -/
def release (rm : SdeRm) : Option Rsvp → SdeRm
  | none => rm
  | some rsvp => rm.releaseRsvp rsvp

def commitRsvp (rm : SdeRm) : SdeRm :=
  rm.mapBlks fun _ _ b =>
    match b.rsvpNxt with
    | some nxt => { b with rsvp := some nxt, rsvpNxt := none }
    | none => b

def getRsvp (rm : SdeRm) (enc : Nat) : Option Rsvp := rm.rsvps.find? fun i => i.encId == enc

/-! ## Memory -/

def liveAddrs (rm : SdeRm) : List Nat :=
  rm.rsvps.map (·.addr) ++ hwBlkTypes.flatMap fun t =>
    (rm.hwBlks t).flatMap fun b => (b.rsvp.toList ++ b.rsvpNxt.toList).map (·.addr)

def kzalloc (rm : SdeRm) (answer : Option Nat) : Option Nat :=
  answer.filter fun addr => addr ∉ rm.liveAddrs

structure Fresh (rm : SdeRm) (r : Rsvp) : Prop where
  unlisted : r ∉ rm.rsvps
  untagged : ∀ ref, rm.tag ref ≠ some r
  unproposed : ∀ ref, rm.tagNxt ref ≠ some r

theorem fresh_of_kzalloc {answer : Option Nat} {r : Rsvp}
    (got : rm.kzalloc answer = some r.addr) : rm.Fresh r := by
  have dead : r.addr ∉ rm.liveAddrs := by simpa using (Option.filter_eq_some_iff.mp got).2
  have dead_blk : ∀ t i b, rm.blk t i = some b →
      r.addr ∉ (b.rsvp.toList ++ b.rsvpNxt.toList).map (·.addr) := by
    intro t i b at_i member
    refine dead (List.mem_append_right _ (List.mem_flatMap.mpr ⟨t, mem_hwBlkTypes t, ?_⟩))
    exact List.mem_flatMap.mpr ⟨b, blk_mem at_i, member⟩
  -- each pointer to the reservation would make its address live
  refine ⟨fun member => ?_, fun ref tagged => ?_, fun ref tagged => ?_⟩
  · exact dead (List.mem_append_left _ (List.mem_map_of_mem member))
  · obtain ⟨b, at_i, own⟩ := Option.bind_eq_some_iff.mp tagged
    exact dead_blk _ _ b at_i (by simp [own])
  · obtain ⟨b, at_i, own⟩ := Option.bind_eq_some_iff.mp tagged
    exact dead_blk _ _ b at_i (by simp [own])

end SdeRm

end DisplayDrivers.Rm
