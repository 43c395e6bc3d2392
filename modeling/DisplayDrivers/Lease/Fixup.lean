import DisplayDrivers.Lease.Disjoint
import DisplayDrivers.Lib.Slots

/-! # The primary planes of leased CRTCs (`msm-lease/msm_lease_drv.c`)

A leased CRTC has to have a leased plane as its primary.

Whether there are as many leased planes as leased CRTCs is only asked where both are named.
-/

namespace DisplayDrivers.Lease

open DisplayDrivers.Lib

def Kms.planeIds (kms : Kms) : List ℕ := kms.planes.map Plane.id

def Kms.crtcIds (kms : Kms) : List ℕ := kms.crtcs.map Crtc.id

/-- `enum drm_plane_type` -/
inductive DrmPlaneType
  | overlay
  | primary
  | cursor
deriving DecidableEq

/-- What the fix-up uses of the device, by the ids of the objects: `plane->type`, `plane->crtc`,
    `crtc->primary` and `num_overlay_plane`. -/
structure Device where
  type : ℕ → DrmPlaneType
  crtc : ℕ → Option ℕ
  primary : ℕ → Option ℕ
  numOverlayPlane : Int

def Device.demote (dev : Device) (plane : ℕ) : Device :=
  { dev with
    type := Function.update dev.type plane .overlay
    numOverlayPlane := dev.numOverlayPlane + 1 }

def Device.detach (dev : Device) (crtc plane : ℕ) : Device :=
  { dev with
    primary := Function.update dev.primary crtc none
    crtc := Function.update dev.crtc plane none }

def Device.attach (dev : Device) (crtc plane : ℕ) : Device where
  primary := Function.update dev.primary crtc (some plane)
  crtc := Function.update dev.crtc plane (some crtc)
  type := Function.update dev.type plane .primary
  numOverlayPlane := dev.numOverlayPlane - 1

def resetPrimary (kms : Kms) (dev : Device) (plane : ℕ) : Device :=
  if dev.type plane = .primary then
    match kms.crtcIds.find? fun crtc => dev.primary crtc = some plane with
    | none => dev.demote plane
    | some crtc => (dev.detach crtc plane).demote plane
  else dev

def setupPrimary (dev : Device) (crtc plane : ℕ) : Device :=
  match dev.primary crtc with
  | none => dev.attach crtc plane
  | some old => (dev.demote old).attach crtc plane

def setupPrimaries : (crtcs planes : List ℕ) → Device → Option Device
  | [], _, dev => some dev
  | _ :: _, [], _ => none
  | crtc :: crtcs, plane :: planes, dev => setupPrimaries crtcs planes (setupPrimary dev crtc plane)

def assignPrimary (kms : Kms) (dev : Device) (crtc : ℕ) : Device :=
  match dev.primary crtc with
  | some _ => dev
  | none =>
    match kms.planeIds.find? fun plane => dev.type plane = .overlay with
    | none => dev
    | some plane => dev.attach crtc plane

def leasedPlanes (kms : Kms) (objectIds : List ℕ) : List ℕ := objectIds.filter (· ∈ kms.planeIds)

def leasedCrtcs (kms : Kms) (objectIds : List ℕ) : List ℕ := objectIds.filter (· ∈ kms.crtcIds)

def fixupCrtcPrimary (kms : Kms) (objectIds : List ℕ) (dev : Device) : Option Device :=
  if objectIds = [] then some dev
  else
    let reset := (leasedPlanes kms objectIds).foldl (resetPrimary kms) dev
    (setupPrimaries (leasedCrtcs kms objectIds) (leasedPlanes kms objectIds) reset).map
      (kms.crtcIds.foldl (assignPrimary kms))

inductive HandedOver (kms : Kms) : List ℕ → Prop
  | parsed {leases : List MsmLease} {node : LeaseNode} {possibleCrtcs : ℕ → U32}
    {building : Building}
      (ok : parseObjs kms leases node ⟨[], possibleCrtcs⟩ = (building, none)) :
      HandedOver kms building.objectIds
  | remaining (leases : List MsmLease) (node : LeaseNode) (possibleCrtcs : ℕ → U32) :
      HandedOver kms
        (remainConnectors kms leases node
          (remainPlanes kms leases node ⟨[], possibleCrtcs⟩)).objectIds

/-! ## Primaries after the fix-up

Each pass keeps the primaries apart and of their type, and the number of overlay planes right: a
plane is only demoted when no CRTC has it, and only attached when it is no primary.  What the number
misses are the cursor planes among those attached, and where the planes run out the fix-up reads
what it has not collected.
-/

/-! ## What is asked of it -/

/-- The primaries of distinct CRTCs are distinct and of type `PRIMARY`, and the overlay planes are
    counted. -/
structure Consistent (kms : Kms) (dev : Device) : Prop where
  known : ∀ crtc ∈ kms.crtcIds, ∀ plane, dev.primary crtc = some plane →
    plane ∈ kms.planeIds ∧ dev.type plane = .primary
  distinct : ∀ crtc ∈ kms.crtcIds, ∀ other ∈ kms.crtcIds, ∀ plane, dev.primary crtc = some plane →
    dev.primary other = some plane → crtc = other
  count : dev.numOverlayPlane = (kms.planeIds.countP fun plane => dev.type plane = .overlay : ℕ)

def PointBack (kms : Kms) (before dev : Device) : Prop :=
  ∀ crtc ∈ kms.crtcIds, ∀ plane, dev.primary crtc = some plane →
    dev.crtc plane = some crtc ∨ before.primary crtc = some plane ∧ before.crtc plane ≠ some crtc

structure FixedUp (kms : Kms) (objectIds : List ℕ) (before dev : Device) : Prop where
  consistent : Consistent kms dev
  pointBack : PointBack kms before dev
  leased : ∀ crtc ∈ leasedCrtcs kms objectIds, ∃ plane ∈ leasedPlanes kms objectIds,
    dev.primary crtc = some plane ∧ dev.crtc plane = some crtc

/-! ## The object lists -/

section Lists

variable {kms : Kms} {leases : List MsmLease} {building next : Building}

theorem addPlane_nodup (name : String) {building next : Building}
    (added : addPlane kms leases name building = .ok next) (once : building.objectIds.Nodup) :
    next.objectIds.Nodup := by
  obtain ⟨plane, -, free, -, rfl⟩ := addPlane_ok added
  refine once.append (List.nodup_singleton _) (List.disjoint_singleton.mpr fun inside => free ?_)
  exact List.mem_append_right _ inside

theorem addConnector_nodup (name : String) {building next : Building}
    (added : addConnector kms leases name building = .ok next) (once : building.objectIds.Nodup) :
    next.objectIds.Nodup := by
  obtain ⟨connector, known, crtc, among, freeConnector, freeCrtc, -, -, rfl⟩ :=
    addConnector_ok added
  have both : [connector.id, crtc.id].Nodup := by simpa using crtc_ne_connector among known
  refine once.append both fun id inside new => ?_
  rw [List.mem_cons, List.mem_singleton] at new
  cases new with
  | inl own => exact freeConnector (List.mem_append_right _ (own ▸ inside))
  | inr own => exact freeCrtc (List.mem_append_right _ (own ▸ inside))

theorem takeRest_nodup (ids : List ℕ) (once : building.objectIds.Nodup) :
    (takeRest leases ids building).objectIds.Nodup := by
  refine takeRest_keeps (P := fun building => building.objectIds.Nodup) ?_ once
  intro id _ before free _ once
  refine once.append (List.nodup_singleton _) (List.disjoint_singleton.mpr fun inside => free ?_)
  exact List.mem_append_right _ inside

theorem parseObjs_nodup {node : LeaseNode} {possibleCrtcs : ℕ → U32}
    (ok : parseObjs kms leases node ⟨[], possibleCrtcs⟩ = (building, none)) :
    building.objectIds.Nodup := by
  have planes : (addAll (addPlane kms leases) node.leasePlanes
    ⟨[], possibleCrtcs⟩).1.objectIds.Nodup :=
    addAll_keeps addPlane_nodup node.leasePlanes List.nodup_nil
  have result := congrArg Prod.fst ok
  dsimp only at result
  rw [← result, parseObjs]
  split
  · exact List.nodup_nil
  · split
    next taken e failed =>
      rw [failed] at planes
      exact planes
    next taken passed =>
      rw [passed] at planes
      split
      · exact List.nodup_nil
      · split
        · exact planes
        · exact addAll_keeps addConnector_nodup node.leaseConnectors planes

theorem HandedOver.nodup {objectIds : List ℕ} (handed : HandedOver kms objectIds) :
    objectIds.Nodup := by
  cases handed with
  | parsed ok => exact parseObjs_nodup ok
  | remaining leases node possibleCrtcs =>
    have planes : (remainPlanes kms leases node ⟨[], possibleCrtcs⟩).objectIds.Nodup := by
      rw [remainPlanes]
      split
      · exact takeRest_nodup _ List.nodup_nil
      · exact addAll_keeps addPlane_nodup node.leasePlanes List.nodup_nil
    rw [remainConnectors]
    split
    · exact takeRest_nodup _ (takeRest_nodup _ planes)
    · exact addAll_keeps addConnector_nodup node.leaseConnectors planes

theorem Kms.planeIds_nodup (kms : Kms) : kms.planeIds.Nodup :=
  (List.nodup_append'.mp (List.nodup_append'.mp kms.unique).1).1

end Lists

/-! ## The steps -/

def Device.forget (dev : Device) (crtc : ℕ) : Device :=
  { dev with primary := Function.update dev.primary crtc none }

section Fields

variable (dev : Device) {crtc plane other : ℕ}

@[simp] theorem Device.type_demote_self : (dev.demote plane).type plane = .overlay :=
  Function.update_self ..

theorem Device.type_demote (differ : other ≠ plane) :
    (dev.demote plane).type other = dev.type other :=
  Function.update_of_ne differ ..

@[simp] theorem Device.type_attach_self : (dev.attach crtc plane).type plane = .primary :=
  Function.update_self ..

theorem Device.type_attach (differ : other ≠ plane) :
    (dev.attach crtc plane).type other = dev.type other :=
  Function.update_of_ne differ ..

@[simp] theorem Device.crtc_attach_self : (dev.attach crtc plane).crtc plane = some crtc :=
  Function.update_self ..

theorem Device.crtc_attach (differ : other ≠ plane) :
    (dev.attach crtc plane).crtc other = dev.crtc other :=
  Function.update_of_ne differ ..

@[simp] theorem Device.primary_attach_self : (dev.attach crtc plane).primary crtc = some plane :=
  Function.update_self ..

theorem Device.primary_attach (differ : other ≠ crtc) :
    (dev.attach crtc plane).primary other = dev.primary other := Function.update_of_ne differ ..

theorem Device.primary_forget_some {its : ℕ}
    (at_other : (dev.forget crtc).primary other = some its) :
    other ≠ crtc ∧ dev.primary other = some its := by
  by_cases same : other = crtc
  · have none : (dev.forget crtc).primary crtc = none := Function.update_self ..
    rw [same, none] at at_other
    cases at_other
  · rw [Device.forget] at at_other
    dsimp only at at_other
    rw [Function.update_of_ne same] at at_other
    exact ⟨same, at_other⟩

theorem Device.attach_forget (old : ℕ) :
    ((dev.forget crtc).demote old).attach crtc plane = (dev.demote old).attach crtc plane := by
  simp [Device.attach, Device.forget, Device.demote]

theorem Device.primary_attach_some {its : ℕ}
    (at_other : (dev.attach crtc plane).primary other = some its) :
    other = crtc ∧ its = plane ∨ other ≠ crtc ∧ dev.primary other = some its := by
  by_cases same : other = crtc
  · rw [same, dev.primary_attach_self] at at_other
    exact .inl ⟨same, (Option.some.inj at_other).symm⟩
  · rw [dev.primary_attach same] at at_other
    exact .inr ⟨same, at_other⟩

end Fields

structure Held (kms : Kms) (before : Device) (missed : ℕ) (dev : Device) : Prop where
  known : ∀ crtc ∈ kms.crtcIds, ∀ plane, dev.primary crtc = some plane →
    plane ∈ kms.planeIds ∧ dev.type plane = .primary
  distinct : ∀ crtc ∈ kms.crtcIds, ∀ other ∈ kms.crtcIds, ∀ plane, dev.primary crtc = some plane →
    dev.primary other = some plane → crtc = other
  pointBack : PointBack kms before dev
  count : dev.numOverlayPlane + missed =
    (kms.planeIds.countP fun plane => dev.type plane = .overlay : ℕ)

section Steps

variable {kms : Kms} {before dev : Device} {missed crtc plane : ℕ}

theorem Consistent.held (consistent : Consistent kms dev) : Held kms dev 0 dev where
  known := consistent.known
  distinct := consistent.distinct
  pointBack crtc _ plane at_crtc := by
    by_cases points : dev.crtc plane = some crtc
    · exact .inl points
    · exact .inr ⟨at_crtc, points⟩
  count := by simpa using consistent.count

section

variable (held : Held kms before missed dev)

include held

theorem Held.free (other : dev.type plane ≠ .primary) :
    ∀ crtc ∈ kms.crtcIds, dev.primary crtc ≠ some plane := fun crtc listed at_crtc =>
  other (held.known crtc listed plane at_crtc).2

theorem Held.forget (crtc : ℕ) : Held kms before missed (dev.forget crtc) where
  known other its plane at_other := held.known other its plane (dev.primary_forget_some at_other).2
  distinct one at_one other at_other plane first second :=
    held.distinct one at_one other at_other plane (dev.primary_forget_some first).2
      (dev.primary_forget_some second).2
  pointBack other its plane at_other :=
    held.pointBack other its plane (dev.primary_forget_some at_other).2
  count := held.count

theorem Held.forgotten (listed : crtc ∈ kms.crtcIds) (at_crtc : dev.primary crtc = some plane) :
    ∀ other ∈ kms.crtcIds, (dev.forget crtc).primary other ≠ some plane := by
  intro other its at_other
  obtain ⟨apart, at_other⟩ := dev.primary_forget_some at_other
  exact apart (held.distinct other its crtc listed plane at_other at_crtc)

theorem Held.detach (listed : crtc ∈ kms.crtcIds)
    (at_crtc : dev.primary crtc = some plane) : Held kms before missed (dev.detach crtc plane) where
  known := (held.forget crtc).known
  distinct := (held.forget crtc).distinct
  pointBack other its plane' at_other := by
    have differ : plane' ≠ plane := fun same =>
      held.forgotten listed at_crtc other its (same ▸ at_other)
    have kept : (dev.detach crtc plane).crtc plane' = dev.crtc plane' :=
      Function.update_of_ne differ ..
    rw [kept]
    exact (held.forget crtc).pointBack other its plane' at_other
  count := held.count

theorem Held.demote (listed : plane ∈ kms.planeIds)
    (was : dev.type plane = .primary) (free : ∀ crtc ∈ kms.crtcIds, dev.primary crtc ≠ some plane) :
    Held kms before missed (dev.demote plane) where
  known other its plane' at_other := by
    have differ : plane' ≠ plane := fun same => free other its (same ▸ at_other)
    rw [dev.type_demote differ]
    exact held.known other its plane' at_other
  distinct := held.distinct
  pointBack := held.pointBack
  count := by
    have more :=
      Slots.countP_flip (p := fun other => decide ((dev.demote plane).type other = .overlay))
      (q := fun other => decide (dev.type other = .overlay)) kms.planeIds_nodup listed (by simp)
      (by simp [was]) fun other differ => by simp [dev.type_demote differ]
    have count := held.count
    rw [more]
    simp only [Device.demote]
    omega

theorem Held.attach (listed : plane ∈ kms.planeIds) (other : dev.type plane ≠ .primary) :
    Held kms before (missed + if dev.type plane = .cursor then 1 else 0)
    (dev.attach crtc plane) := by
  have free := held.free other
  have apart {one its : ℕ} (at_one : one ∈ kms.crtcIds) (at_its : dev.primary one = some its) :
      its ≠ plane := fun same => free one at_one (same ▸ at_its)
  refine ⟨fun one at_one its at_its => ?_, fun one at_one two at_two its first second => ?_,
    fun one at_one its at_its => ?_, ?_⟩
  · obtain ⟨-, rfl⟩ | ⟨-, at_its⟩ := dev.primary_attach_some at_its
    · exact ⟨listed, dev.type_attach_self⟩
    · rw [dev.type_attach (apart at_one at_its)]
      exact held.known one at_one its at_its
  · obtain ⟨own, new⟩ | ⟨-, kept⟩ := dev.primary_attach_some first
    · obtain ⟨own', -⟩ | ⟨-, kept'⟩ := dev.primary_attach_some second
      · exact own.trans own'.symm
      · exact absurd new (apart at_two kept')
    · obtain ⟨-, new⟩ | ⟨-, kept'⟩ := dev.primary_attach_some second
      · exact absurd new (apart at_one kept)
      · exact held.distinct one at_one two at_two its kept kept'
  · obtain ⟨rfl, rfl⟩ | ⟨-, at_its⟩ := dev.primary_attach_some at_its
    · exact .inl dev.crtc_attach_self
    · rw [dev.crtc_attach (apart at_one at_its)]
      exact held.pointBack one at_one its at_its
  · have count := held.count
    cases type : dev.type plane with
    | primary => exact absurd type other
    | overlay =>
      have fewer := Slots.countP_flip (p := fun one => decide (dev.type one = .overlay))
        (q := fun one => decide ((dev.attach crtc plane).type one = .overlay))
          kms.planeIds_nodup listed
        (by simp [type]) (by simp) fun one differ => by simp [dev.type_attach differ]
      rw [fewer] at count
      simp only [Device.attach, reduceCtorEq, if_false] at count ⊢
      omega
    | cursor =>
      have same : (kms.planeIds.countP fun one =>
        decide ((dev.attach crtc plane).type one = .overlay)) =
          kms.planeIds.countP fun one => decide (dev.type one = .overlay) := by
        refine List.countP_congr fun one _ => ?_
        by_cases own : one = plane
        · subst own
          simp [type]
        · rw [dev.type_attach own]
      rw [same, ← count]
      simp only [Device.attach, if_true]
      omega

end

end Steps

/-! ## The passes -/

section Passes

variable {kms : Kms} {before dev : Device} {missed : ℕ}

theorem type_resetPrimary (kms : Kms) (dev : Device) (plane : ℕ) :
    (resetPrimary kms dev plane).type =
      if dev.type plane = .primary then Function.update dev.type plane .overlay else dev.type := by
  rw [resetPrimary]
  split
  · split <;> rfl
  · rfl

theorem Held.resetPrimary {plane : ℕ} (held : Held kms before missed dev)
    (listed : plane ∈ kms.planeIds) :
    Held kms before missed (resetPrimary kms dev plane) := by
  rw [Lease.resetPrimary]
  by_cases was : dev.type plane = .primary
  · rw [if_pos was]
    cases found : kms.crtcIds.find? fun crtc => dev.primary crtc = some plane with
    | none =>
      refine held.demote listed was fun crtc at_crtc own => ?_
      have other := List.find?_eq_none.mp found crtc at_crtc
      exact other (decide_eq_true own)
    | some crtc =>
      have at_crtc := List.mem_of_find?_eq_some found
      have own : dev.primary crtc = some plane := by simpa using List.find?_some found
      exact (held.detach at_crtc own).demote listed was (held.forgotten at_crtc own)
  · rwa [if_neg was]

theorem Held.reset {planes : List ℕ} (held : Held kms before missed dev)
    (listed : ∀ plane ∈ planes, plane ∈ kms.planeIds) :
    Held kms before missed (planes.foldl (Lease.resetPrimary kms) dev) ∧
      (∀ plane, plane ∈ planes ∨ dev.type plane ≠ .primary →
        (planes.foldl (Lease.resetPrimary kms) dev).type plane ≠ .primary) ∧
      ∀ plane, (planes.foldl (Lease.resetPrimary kms) dev).type plane = .cursor ↔
        dev.type plane = .cursor := by
  induction planes generalizing dev with
  | nil => exact ⟨held, fun plane other => other.resolve_left List.not_mem_nil, fun _ => Iff.rfl⟩
  | cons first planes ih =>
    have type := type_resetPrimary kms dev first
    obtain ⟨kept, others, cursors⟩ :=
      ih (held.resetPrimary (listed first List.mem_cons_self)) fun plane later => listed plane
        (.tail _ later)
    refine ⟨kept, fun plane either => others plane ?_, fun plane => (cursors plane).trans ?_⟩
    · rw [type, List.mem_cons] at *
      by_cases own : plane = first
      · subst own
        right
        split
        next => simp
        next other => exact other
      · refine (either.imp_left fun inside => inside.resolve_left own).imp_right fun other => ?_
        split
        · rwa [Function.update_of_ne own]
        · exact other
    · rw [type]
      split
      next was =>
        by_cases own : plane = first
        · subst own
          simp [was]
        · rw [Function.update_of_ne own]
      next => exact Iff.rfl

theorem Held.setupPrimary {crtc plane : ℕ} (held : Held kms before missed dev)
    (at_crtc : crtc ∈ kms.crtcIds)
    (listed : plane ∈ kms.planeIds) (other : dev.type plane ≠ .primary) :
    Held kms before (missed + if dev.type plane = .cursor then 1 else 0)
    (setupPrimary dev crtc plane) := by
  rw [Lease.setupPrimary]
  cases own : dev.primary crtc with
  | none => exact held.attach listed other
  | some old =>
    obtain ⟨known, was⟩ := held.known crtc at_crtc old own
    have differ : plane ≠ old := fun same => other (same ▸ was)
    have type : ((dev.forget crtc).demote old).type plane = dev.type plane :=
      (dev.forget crtc).type_demote differ
    have demoted := (held.forget crtc).demote known was (held.forgotten at_crtc own)
    have attached : Held kms before _ (((dev.forget crtc).demote old).attach crtc plane) :=
      demoted.attach listed (by rwa [type])
    rwa [type, dev.attach_forget old] at attached

theorem primary_setupPrimary (dev : Device) (crtc plane : ℕ) :
    (setupPrimary dev crtc plane).primary = Function.update dev.primary crtc (some plane) := by
  rw [setupPrimary]
  split <;> rfl

theorem Held.type_setupPrimary {crtc plane other : ℕ} (held : Held kms before missed dev)
    (at_crtc : crtc ∈ kms.crtcIds) (differ : other ≠ plane) (type : dev.type other ≠ .primary) :
    (Lease.setupPrimary dev crtc plane).type other = dev.type other := by
  rw [Lease.setupPrimary]
  cases own : dev.primary crtc with
  | none => exact dev.type_attach differ
  | some old =>
    have apart : other ≠ old := fun same => type (same ▸ (held.known crtc at_crtc old own).2)
    exact ((dev.demote old).type_attach differ).trans (dev.type_demote apart)

variable {crtcs : List ℕ}

theorem setupPrimaries_short {planes : List ℕ} (short : planes.length < crtcs.length)
    (dev : Device) :
    setupPrimaries crtcs planes dev = none := by
  induction crtcs generalizing planes dev with
  | nil => exact absurd short (Nat.not_lt_zero _)
  | cons crtc crtcs ih =>
    cases planes with
    | nil => rfl
    | cons plane planes => exact ih (Nat.lt_of_succ_lt_succ short) _

def cursorsUsed (dev : Device) (crtcs planes : List ℕ) : ℕ :=
  (planes.take crtcs.length).countP fun plane => dev.type plane = .cursor

theorem setupPrimaries_enough {planes : List ℕ} {base : Device}
    (at_crtcs : ∀ crtc ∈ crtcs, crtc ∈ kms.crtcIds)
    (listed : ∀ plane ∈ planes, plane ∈ kms.planeIds) (once : crtcs.Nodup) (onceEach : planes.Nodup)
    (others : ∀ plane ∈ planes, dev.type plane ≠ .primary) (enough : crtcs.length ≤ planes.length)
    (held : Held kms before missed dev) (heldBase : Held kms base missed dev) :
    ∃ after, setupPrimaries crtcs planes dev = some after ∧
      Held kms before (missed + cursorsUsed dev crtcs planes) after ∧
      Held kms base (missed + cursorsUsed dev crtcs planes) after ∧
      (∀ crtc ∈ crtcs, ∃ plane ∈ planes, after.primary crtc = some plane) ∧
      ∀ crtc ∉ crtcs, after.primary crtc = dev.primary crtc := by
  induction crtcs generalizing planes dev missed with
  | nil =>
    refine ⟨dev, rfl, ?_, ?_, List.forall_mem_nil _, fun _ _ => rfl⟩
    · simpa [cursorsUsed] using held
    · simpa [cursorsUsed] using heldBase
  | cons crtc crtcs ih =>
    cases planes with
    | nil => exact absurd enough (Nat.not_succ_le_zero _)
    | cons plane planes =>
      obtain ⟨fresh, once⟩ := List.nodup_cons.mp once
      obtain ⟨freshPlane, onceEach⟩ := List.nodup_cons.mp onceEach
      have at_crtc := at_crtcs crtc List.mem_cons_self
      have other := others plane List.mem_cons_self
      have type : ∀ one ∈ planes, (setupPrimary dev crtc plane).type one = dev.type one :=
        fun one later =>
        held.type_setupPrimary at_crtc (fun same => freshPlane (same ▸ later))
          (others one (.tail _ later))
      obtain ⟨after, done, kept, keptBase, given, untouched⟩ := ih
        (fun one later => at_crtcs one (.tail _ later))
          (fun one later => listed one (.tail _ later)) once onceEach
        (fun one later => by rw [type one later]; exact others one (.tail _ later))
        (Nat.le_of_succ_le_succ enough)
          (held.setupPrimary at_crtc (listed plane List.mem_cons_self) other)
        (heldBase.setupPrimary at_crtc (listed plane List.mem_cons_self) other)
      have used : missed + cursorsUsed dev (crtc :: crtcs) (plane :: planes) =
          missed + (if dev.type plane = .cursor then 1 else 0) +
            cursorsUsed (setupPrimary dev crtc plane) crtcs planes := by
        have same : cursorsUsed (setupPrimary dev crtc plane) crtcs planes =
          cursorsUsed dev crtcs planes :=
          List.countP_congr fun one later => by rw [type one (List.mem_of_mem_take later)]
        rw [same]
        simp only [cursorsUsed, List.length_cons, List.take_succ_cons, List.countP_cons,
          decide_eq_true_eq]
        omega
      refine ⟨after, done, used ▸ kept, used ▸ keptBase, List.forall_mem_cons.mpr
        ⟨?_, fun one later => ?_⟩,
        fun one outside => ?_⟩
      · refine ⟨plane, List.mem_cons_self, ?_⟩
        rw [untouched crtc fresh, primary_setupPrimary, Function.update_self]
      · obtain ⟨its, inside, at_one⟩ := given one later
        exact ⟨its, .tail _ inside, at_one⟩
      · obtain ⟨differ, outside⟩ := not_or.mp (mt List.mem_cons.mpr outside)
        rw [untouched one outside, primary_setupPrimary, Function.update_of_ne differ]

theorem Held.assignPrimary (held : Held kms before missed dev) (crtc : ℕ) :
    Held kms before missed (assignPrimary kms dev crtc) := by
  rw [Lease.assignPrimary]
  cases own : dev.primary crtc with
  | some plane => exact held
  | none =>
    cases found : kms.planeIds.find? fun plane => dev.type plane = .overlay with
    | none => exact held
    | some plane =>
      have type : dev.type plane = .overlay := by simpa using List.find?_some found
      have attached : Held kms before (missed + 0) (dev.attach crtc plane) := by
        simpa [type] using held.attach (List.mem_of_find?_eq_some found) (by simp [type])
      exact attached

theorem primary_assignPrimary {crtc other plane : ℕ} (at_other : dev.primary other = some plane) :
    (assignPrimary kms dev crtc).primary other = some plane := by
  rw [assignPrimary]
  cases own : dev.primary crtc with
  | some _ => exact at_other
  | none =>
    have differ : other ≠ crtc := by
      rintro rfl
      rw [own] at at_other
      cases at_other
    cases kms.planeIds.find? fun plane => dev.type plane = .overlay with
    | none => exact at_other
    | some new => exact (dev.primary_attach differ).trans at_other

theorem Held.assign (held : Held kms before missed dev) :
    Held kms before missed (crtcs.foldl (Lease.assignPrimary kms) dev) := by
  induction crtcs generalizing dev with
  | nil => exact held
  | cons crtc crtcs ih => exact ih (held.assignPrimary crtc)

theorem primary_assign {other plane : ℕ} (at_other : dev.primary other = some plane) :
    (crtcs.foldl (assignPrimary kms) dev).primary other = some plane := by
  induction crtcs generalizing dev with
  | nil => exact at_other
  | cons crtc crtcs ih => exact ih (primary_assignPrimary at_other)

end Passes

/-! ## The fix-up -/

section Fixup

variable {kms : Kms} {dev : Device} {objectIds : List ℕ}

theorem Held.consistent_iff {before : Device} {missed : ℕ} (held : Held kms before missed dev) :
    Consistent kms dev ↔ missed = 0 := by
  have count := held.count
  constructor
  · intro consistent
    have exact := consistent.count
    omega
  · intro none
    exact ⟨held.known, held.distinct, by omega⟩

theorem mem_leasedPlanes {plane : ℕ} (inside : plane ∈ leasedPlanes kms objectIds) :
    plane ∈ kms.planeIds := by
  simpa using (List.mem_filter.mp inside).2

theorem mem_leasedCrtcs {crtc : ℕ} (inside : crtc ∈ leasedCrtcs kms objectIds) :
    crtc ∈ kms.crtcIds := by
  simpa using (List.mem_filter.mp inside).2

theorem fixupCrtcPrimary_enough (once : objectIds.Nodup) (consistent : Consistent kms dev)
    (enough : (leasedCrtcs kms objectIds).length ≤ (leasedPlanes kms objectIds).length) :
    ∃ after, fixupCrtcPrimary kms objectIds dev = some after ∧
      Held kms dev (cursorsUsed dev (leasedCrtcs kms objectIds) (leasedPlanes kms objectIds)) after
        ∧
      ∀ crtc ∈ leasedCrtcs kms objectIds, ∃ plane ∈ leasedPlanes kms objectIds,
        after.primary crtc = some plane ∧ after.crtc plane = some crtc := by
  by_cases empty : objectIds = []
  · subst empty
    exact ⟨dev, rfl, consistent.held, List.forall_mem_nil _⟩
  · have listed : ∀ plane ∈ leasedPlanes kms objectIds, plane ∈ kms.planeIds :=
      fun _ => mem_leasedPlanes
    obtain ⟨reset, others, cursors⟩ := consistent.held.reset listed
    have base := (reset.consistent_iff.mpr rfl).held
    obtain ⟨set, done, kept, keptBase, given, -⟩ := setupPrimaries_enough (fun _ => mem_leasedCrtcs)
      (fun _ => mem_leasedPlanes) (once.filter _) (once.filter _)
        (fun plane inside => others plane (.inl inside))
      enough reset base
    have used : cursorsUsed ((leasedPlanes kms objectIds).foldl (resetPrimary kms) dev)
        (leasedCrtcs kms objectIds) (leasedPlanes kms objectIds) =
          cursorsUsed dev (leasedCrtcs kms objectIds) (leasedPlanes kms objectIds) :=
      List.countP_congr fun plane _ => by
        rw [decide_eq_true_eq, decide_eq_true_eq]
        exact cursors plane
    rw [Nat.zero_add, used] at kept
    refine ⟨kms.crtcIds.foldl (assignPrimary kms) set, ?_, kept.assign, fun crtc inside => ?_⟩
    · rw [fixupCrtcPrimary, if_neg empty]
      dsimp only
      rw [done]
      rfl
    · obtain ⟨plane, listed, at_crtc⟩ := given crtc inside
      have at_last : (kms.crtcIds.foldl (assignPrimary kms) set).primary crtc = some plane :=
        primary_assign at_crtc
      refine ⟨plane, listed, at_last, ?_⟩
      -- after the reset the plane was nobody's
      have points := keptBase.assign.pointBack crtc (mem_leasedCrtcs inside) plane at_last
      exact points.resolve_right fun old =>
        base.free (others plane (.inl listed)) crtc (mem_leasedCrtcs inside) old.1

/-- For every list that the fix-up is called with, it only reads planes that it has collected and
    leaves the device as it should, if and only if there are as many leased planes as leased CRTCs,
    and none of those it gives to CRTCs is a cursor plane. -/
theorem fixupCrtcPrimary_iff (handed : HandedOver kms objectIds) (consistent : Consistent kms dev) :
    (∃ after, fixupCrtcPrimary kms objectIds dev = some after ∧ FixedUp kms objectIds dev after) ↔
      (leasedCrtcs kms objectIds).length ≤ (leasedPlanes kms objectIds).length ∧
        ∀ plane ∈ (leasedPlanes kms objectIds).take (leasedCrtcs kms objectIds).length,
          dev.type plane ≠ .cursor := by
  have once := handed.nodup
  by_cases enough : (leasedCrtcs kms objectIds).length ≤ (leasedPlanes kms objectIds).length
  · obtain ⟨after, done, held, leased⟩ := fixupCrtcPrimary_enough once consistent enough
    have noCursor : cursorsUsed dev (leasedCrtcs kms objectIds) (leasedPlanes kms objectIds) = 0 ↔
        ∀ plane ∈ (leasedPlanes kms objectIds).take (leasedCrtcs kms objectIds).length,
          dev.type plane ≠ .cursor := by
      simp [cursorsUsed, List.countP_eq_zero]
    rw [and_iff_right enough, ← noCursor, ← held.consistent_iff]
    constructor
    · rintro ⟨other, done', fixed⟩
      obtain rfl := Option.some.inj (done.symm.trans done')
      exact fixed.consistent
    · intro counted
      exact ⟨after, done, counted, held.pointBack, leased⟩
  · refine iff_of_false ?_ fun both => enough both.1
    rintro ⟨after, done, -⟩
    rw [fixupCrtcPrimary] at done
    split at done
    next empty =>
      subst empty
      exact enough (Nat.le_refl _)
    next =>
      dsimp only at done
      rw [setupPrimaries_short (by omega)] at done
      cases done

end Fixup

/-! ### Two CRTCs, and a lease that takes both planes -/

def twoCrtcs : Kms where
  planes := [⟨1, "plane-0"⟩, ⟨2, "plane-1"⟩]
  connectors := [⟨10, "DSI-1", 20⟩, ⟨11, "DP-1", 21⟩]
  crtcs := [⟨30, 0⟩, ⟨31, 1⟩]
  encoders := [20, 21]
  unique := by decide
  positions := by decide
  bounded := by decide

def eachPrimary : Device where
  type _ := .primary
  crtc plane := if plane = 1 then some 30 else some 31
  primary crtc := if crtc = 30 then some 1 else some 2
  numOverlayPlane := 0

theorem eachPrimary_consistent : Consistent twoCrtcs eachPrimary where
  known crtc listed plane at_crtc := by
    have either : crtc = 30 ∨ crtc = 31 := by simpa [twoCrtcs, Kms.crtcIds] using listed
    obtain rfl | rfl := either
    · cases at_crtc
      decide
    · cases at_crtc
      decide
  distinct crtc listed other listed' plane first second := by
    have either : crtc = 30 ∨ crtc = 31 := by simpa [twoCrtcs, Kms.crtcIds] using listed
    have either' : other = 30 ∨ other = 31 := by simpa [twoCrtcs, Kms.crtcIds] using listed'
    obtain rfl | rfl := either
    · obtain rfl | rfl := either'
      · rfl
      · exact absurd (first.trans second.symm) (by decide)
    · obtain rfl | rfl := either'
      · exact absurd (first.trans second.symm) (by decide)
      · rfl
  count := by decide

def bothPlanes : LeaseNode := ⟨["plane-0", "plane-1"], ["DSI-1"]⟩

def takenLeases : List MsmLease := [⟨bothPlanes, true, [1, 2, 10, 30]⟩, ⟨⟨[], []⟩, true, []⟩]

theorem handedOver_bothPlanes : HandedOver twoCrtcs [1, 2, 10, 30] := by
  have ok : parseObjs twoCrtcs [] bothPlanes ⟨[], fun _ => 3#32⟩ =
      (⟨[1, 2, 10, 30], Function.update (fun _ => 3#32) 20 1#32⟩, none) := rfl
  exact .parsed ok

theorem handedOver_rest : HandedOver twoCrtcs [11, 31] :=
  .remaining takenLeases ⟨[], []⟩ fun _ => 3#32

theorem fixupCrtcPrimary_iff_bothPlanes :
    (∃ after, fixupCrtcPrimary twoCrtcs [1, 2, 10, 30] eachPrimary = some after ∧
        FixedUp twoCrtcs [1, 2, 10, 30] eachPrimary after) ↔
      (leasedCrtcs twoCrtcs [1, 2, 10, 30]).length ≤ (leasedPlanes twoCrtcs [1, 2, 10, 30]).length ∧
        ∀ plane ∈ (leasedPlanes twoCrtcs [1, 2, 10, 30]).take
          (leasedCrtcs twoCrtcs [1, 2, 10, 30]).length,
          eachPrimary.type plane ≠ .cursor :=
  fixupCrtcPrimary_iff handedOver_bothPlanes eachPrimary_consistent

/-- No plane remains for the CRTC that does, and the fix-up reads one that it has not collected. -/
theorem not_fixedUp_rest :
    HandedOver twoCrtcs [11, 31] ∧ Consistent twoCrtcs eachPrimary ∧
      fixupCrtcPrimary twoCrtcs [11, 31] eachPrimary = none :=
  ⟨handedOver_rest, eachPrimary_consistent, rfl⟩

end DisplayDrivers.Lease
