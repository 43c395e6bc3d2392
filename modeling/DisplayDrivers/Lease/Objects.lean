import Mathlib.Data.List.Nodup
import Mathlib.Logic.Function.Basic
import DisplayDrivers.Lib.Run

/-! # The objects of DRM leases (`msm-lease/msm_lease_drv.c`)

A lease is a device node that names planes and connectors.
-/

namespace DisplayDrivers.Lease

abbrev U32 := BitVec 32

def maxLeaseObjectCount : ℕ := 64

/-! ## The KMS objects -/

structure Plane where
  id : ℕ
  name : String

/-- A connector; `encoder` is `encoder_ids[0]`. -/
structure Connector where
  id : ℕ
  name : String
  encoder : ℕ

structure Crtc where
  id : ℕ
  index : ℕ
deriving DecidableEq

def crtcMask (crtc : Crtc) : U32 := 1#32 <<< crtc.index

structure Kms where
  planes : List Plane
  connectors : List Connector
  crtcs : List Crtc
  encoders : List ℕ
  unique : (planes.map Plane.id ++ connectors.map Connector.id ++ crtcs.map Crtc.id).Nodup
  positions : (crtcs.map Crtc.index).Nodup
  bounded : ∀ crtc ∈ crtcs, crtc.index < 32

/-! ## The leases -/

/-- The properties `qcom,lease-planes` and `qcom,lease-connectors`; a property that is missing
    has no names. -/
structure LeaseNode where
  leasePlanes : List String
  leaseConnectors : List String

/-- `struct msm_lease`: whether it has its minor, and `object_ids` up to `obj_cnt`. -/
structure MsmLease where
  node : LeaseNode
  minor : Bool
  objectIds : List ℕ

/-- `g_lease_list`, and `possible_crtcs` of every encoder. -/
structure World where
  leases : List MsmLease
  possibleCrtcs : ℕ → U32

structure Building where
  objectIds : List ℕ
  possibleCrtcs : ℕ → U32

inductive Errno
  | inval
  | noent
  | busy

def findObjId (id : ℕ) (objectIds : List ℕ) : Bool := objectIds.contains id

def objIsLeased (leases : List MsmLease) (id : ℕ) (objectIds : List ℕ) : Bool :=
  leases.any (fun lease => findObjId id lease.objectIds) || findObjId id objectIds

/-- The encoder with these `possible_crtcs` can drive the CRTC. -/
def Drives (possibleCrtcs : U32) (crtc : Crtc) : Prop := possibleCrtcs &&& crtcMask crtc ≠ 0

instance (possibleCrtcs : U32) (crtc : Crtc) : Decidable (Drives possibleCrtcs crtc) :=
  inferInstanceAs (Decidable (_ ≠ _))

def addConnector (kms : Kms) (leases : List MsmLease) (name : String) (building : Building) :
    Except Errno Building :=
  if maxLeaseObjectCount - 1 ≤ building.objectIds.length then .error .inval
  else match kms.connectors.find? (·.name = name) with
  | none => .error .noent
  | some connector =>
    if objIsLeased leases connector.id building.objectIds then .error .busy
    else if connector.encoder ∉ kms.encoders then .error .noent
    else
      let free (crtc : Crtc) : Bool :=
        Drives (building.possibleCrtcs connector.encoder) crtc &&
          !objIsLeased leases crtc.id building.objectIds
      match kms.crtcs.find? free with
      | none => .error .noent
      | some crtc =>
        .ok
          { objectIds := building.objectIds ++ [connector.id, crtc.id]
            possibleCrtcs :=
              Function.update building.possibleCrtcs connector.encoder (crtcMask crtc) }

/-- `msm_lease_add_plane`; no object has the id -1 that stands for a plane it did not find. -/
def addPlane (kms : Kms) (leases : List MsmLease) (name : String) (building : Building) :
    Except Errno Building :=
  if maxLeaseObjectCount ≤ building.objectIds.length then .error .inval
  else match kms.planes.find? (·.name = name) with
  | none => .error .noent
  | some plane =>
    if objIsLeased leases plane.id building.objectIds then .error .busy
    else .ok { building with objectIds := building.objectIds ++ [plane.id] }

def addAll (add : String → Building → Except Errno Building) :
    List String → Building → Building × Option Errno
  | [], building => (building, none)
  | name :: rest, building =>
    match add name building with
    | .error e => (building, some e)
    | .ok next => addAll add rest next

def parseObjs (kms : Kms) (leases : List MsmLease) (node : LeaseNode) (building : Building) :
    Building × Option Errno :=
  if node.leasePlanes = [] then (building, none)
  else match addAll (addPlane kms leases) node.leasePlanes building with
  | (planes, some e) => (planes, some e)
  | (planes, none) =>
    if node.leaseConnectors = [] then ({ planes with objectIds := [] }, none)
    else if planes.objectIds.length < node.leaseConnectors.length then (planes, some .inval)
    else addAll (addConnector kms leases) node.leaseConnectors planes

def takeRest (leases : List MsmLease) : List ℕ → Building → Building
  | [], building => building
  | id :: rest, building =>
    if maxLeaseObjectCount ≤ building.objectIds.length then building
    else if objIsLeased leases id building.objectIds then takeRest leases rest building
    else takeRest leases rest { building with objectIds := building.objectIds ++ [id] }

def remainTarget (leases : List MsmLease) : Option (MsmLease × ℕ) :=
  if leases.all (·.minor) then leases.zipIdx.reverse.find? (·.1.objectIds.isEmpty) else none

def remainPlanes (kms : Kms) (leases : List MsmLease) (node : LeaseNode) (building : Building) :
    Building :=
  if node.leasePlanes = [] then takeRest leases (kms.planes.map Plane.id) building
  else (addAll (addPlane kms leases) node.leasePlanes building).1

def remainConnectors (kms : Kms) (leases : List MsmLease) (node : LeaseNode) (building : Building) :
    Building :=
  if node.leaseConnectors = [] then
    takeRest leases (kms.crtcs.map Crtc.id)
      (takeRest leases (kms.connectors.map Connector.id) building)
  else (addAll (addConnector kms leases) node.leaseConnectors building).1

def World.record (world : World) (position : ℕ) (lease : MsmLease) (building : Building) : World :=
  { leases := world.leases.set position { lease with objectIds := building.objectIds }
    possibleCrtcs := building.possibleCrtcs }

def parseRemainObjs (kms : Kms) (world : World) : World :=
  match remainTarget world.leases with
  | none => world
  | some (target, position) =>
    world.record position target
      (remainConnectors kms world.leases target.node
        (remainPlanes kms world.leases target.node ⟨[], world.possibleCrtcs⟩))

structure Answers where
  allocated : Bool
  registered : Bool

/-- `msm_lease_notifier` of the lease at a position of the list. -/
def notifier (kms : Kms) (position : ℕ) (answers : Answers) (world : World) : World :=
  match world.leases[position]? with
  | none => world
  | some lease =>
    match parseObjs kms world.leases lease.node ⟨[], world.possibleCrtcs⟩ with
    | (building, some _) => { world with possibleCrtcs := building.possibleCrtcs }
    | (building, none) =>
      if !answers.allocated then { world with possibleCrtcs := building.possibleCrtcs }
      else
        let recorded := world.record position { lease with minor := true } building
        if !answers.registered then recorded else parseRemainObjs kms recorded

inductive Input
  | probe (node : LeaseNode)
  | notify (position : ℕ) (answers : Answers)

def step (kms : Kms) (world : World) : Input → World
  | .probe node => { world with leases := world.leases ++ [⟨node, false, []⟩] }
  | .notify position answers => notifier kms position answers world

def World.initial (possibleCrtcs : ℕ → U32) : World := ⟨[], possibleCrtcs⟩

end DisplayDrivers.Lease
