import Mathlib.Data.List.Flatten
import Mathlib.Tactic.Common
import DisplayDrivers.Lease.Objects

/-! # Leases have no object in common

Every routine that puts a list of ids together asks for each object whether it is in a lease or in
the list already, so that the leases and the list stay disjoint (`Fits`).
-/

namespace DisplayDrivers.Lease

open DisplayDrivers.Lib.Run

def Driven (kms : Kms) (possibleCrtcs : ℕ → U32) (objectIds : List ℕ) : Prop :=
  ∀ connector ∈ kms.connectors, connector.id ∈ objectIds →
    ∃ crtc ∈ kms.crtcs, crtc.id ∈ objectIds ∧ Drives (possibleCrtcs connector.encoder) crtc

structure Exclusive (kms : Kms) (world : World) : Prop where
  apart : world.leases.Pairwise fun one other => one.objectIds.Disjoint other.objectIds
  once : ∀ lease ∈ world.leases, lease.objectIds.Nodup
  bounded : ∀ lease ∈ world.leases, lease.objectIds.length ≤ maxLeaseObjectCount
  driven : ∀ lease ∈ world.leases, lease.node.leaseConnectors ≠ [] →
    Driven kms world.possibleCrtcs lease.objectIds

/-! ## Ids in several lists -/

section Lists
variable {α β : Type*} {f : α → List β}

theorem mem_flatMap_set {b : β} {a : α} {xs : List α} {i : ℕ}
    (listed : b ∈ (xs.set i a).flatMap f) :
    b ∈ xs.flatMap f ∨ b ∈ f a := by
  obtain ⟨x, member, inside⟩ := List.mem_flatMap.mp listed
  cases List.mem_or_eq_of_mem_set member with
  | inl old => exact .inl (List.mem_flatMap.mpr ⟨x, old, inside⟩)
  | inr new => exact .inr (new ▸ inside)

theorem nodup_flatMap_set {a : α} {xs : List α} (apart : (xs.flatMap f ++ f a).Nodup) (i : ℕ) :
    ((xs.set i a).flatMap f).Nodup := by
  induction xs generalizing i with
  | nil => exact List.nodup_nil
  | cons x rest ih =>
    rw [List.flatMap_cons, List.append_assoc, List.nodup_append'] at apart
    obtain ⟨first, later, between⟩ := apart
    cases i with
    | zero =>
      rw [List.set_cons_zero, List.flatMap_cons]
      exact (List.nodup_append_comm).mp later
    | succ i =>
      rw [List.set_cons_succ, List.flatMap_cons, List.nodup_append']
      refine ⟨first, ih later i, fun b inFirst inRest => between inFirst ?_⟩
      rw [List.mem_append]
      exact mem_flatMap_set inRest

end Lists

def leasedIds (leases : List MsmLease) : List ℕ := leases.flatMap MsmLease.objectIds

variable {objectIds : List ℕ}

theorem objIsLeased_iff {leases : List MsmLease} {id : ℕ} :
    objIsLeased leases id objectIds = true ↔ id ∈ leasedIds leases ++ objectIds := by
  simp [objIsLeased, findObjId, leasedIds]

/-! ## Encoders -/

variable {kms : Kms} {leases : List MsmLease}

def Narrowed (kms : Kms) (possibleCrtcs : ℕ → U32) (objectIds : List ℕ) : Prop :=
  ∀ connector ∈ kms.connectors, connector.id ∈ objectIds →
    ∃ crtc ∈ kms.crtcs, crtc.id ∈ objectIds ∧ possibleCrtcs connector.encoder = crtcMask crtc

theorem getLsbD_crtcMask (crtc : Crtc) {bit : ℕ} (small : bit < 32) :
    (crtcMask crtc).getLsbD bit = decide (bit = crtc.index) := by
  rw [crtcMask, ← BitVec.twoPow_eq, BitVec.getLsbD_twoPow]
  by_cases same : bit = crtc.index
  · subst same
    simp [small]
  · simp [same, Ne.symm same]

theorem drives_crtcMask_iff {one other : Crtc} (first : one ∈ kms.crtcs)
    (second : other ∈ kms.crtcs) :
    Drives (crtcMask one) other ↔ one = other := by
  have small := kms.bounded one first
  constructor
  · intro drives
    by_contra different
    have apart : one.index ≠ other.index := fun same =>
      different (List.inj_on_of_nodup_map kms.positions first second same)
    apply drives
    apply BitVec.eq_of_getLsbD_eq
    intro bit inside
    rw [BitVec.getLsbD_and, getLsbD_crtcMask one inside, getLsbD_crtcMask other inside]
    by_cases own : bit = one.index
    · subst own
      simp [apart]
    · simp [own]
  · intro same none
    subst same
    have bit : (crtcMask one &&& crtcMask one).getLsbD one.index = true := by
      rw [BitVec.and_self, getLsbD_crtcMask one small]
      simp
    rw [none] at bit
    simp at bit

variable {possibleCrtcs : ℕ → U32}

theorem Narrowed.driven
    (narrowed : Narrowed kms possibleCrtcs objectIds) : Driven kms possibleCrtcs objectIds := by
  intro connector listed inside
  obtain ⟨crtc, known, along, mask⟩ := narrowed connector listed inside
  exact ⟨crtc, known, along, mask ▸ (drives_crtcMask_iff known known).mpr rfl⟩

theorem Narrowed.update {crtc : Crtc} {encoder : ℕ}
    (narrowed : Narrowed kms possibleCrtcs objectIds) (known : crtc ∈ kms.crtcs)
    (drives : Drives (possibleCrtcs encoder) crtc) (fresh : crtc.id ∉ objectIds) :
    Narrowed kms (Function.update possibleCrtcs encoder (crtcMask crtc)) objectIds := by
  intro connector listed inside
  obtain ⟨own, among, along, mask⟩ := narrowed connector listed inside
  have other : connector.encoder ≠ encoder := by
    intro same
    rw [← same, mask] at drives
    have equal := (drives_crtcMask_iff among known).mp drives
    exact fresh (equal ▸ along)
  exact ⟨own, among, along, by rw [Function.update_of_ne other, mask]⟩

/-! ## Building a list -/

structure Fits (kms : Kms) (leases : List MsmLease) (building : Building) : Prop where
  fresh : (leasedIds leases ++ building.objectIds).Nodup
  room : building.objectIds.length ≤ maxLeaseObjectCount
  narrowed : ∀ lease ∈ leases, lease.node.leaseConnectors ≠ [] →
    Narrowed kms building.possibleCrtcs lease.objectIds

variable {building next : Building}

theorem Fits.add {id : ℕ} (fits : Fits kms leases building)
    (free : id ∉ leasedIds leases ++ building.objectIds)
    (room : building.objectIds.length < maxLeaseObjectCount) :
    Fits kms leases { building with objectIds := building.objectIds ++ [id] } where
  fresh := by
    rw [← List.append_assoc]
    exact fits.fresh.append (List.nodup_singleton id) (List.disjoint_singleton.mpr free)
  room := by
    rw [List.length_append, List.length_singleton]
    omega
  narrowed := fits.narrowed

theorem addPlane_ok {name : String} (added : addPlane kms leases name building = .ok next) :
    ∃ plane ∈ kms.planes, plane.id ∉ leasedIds leases ++ building.objectIds ∧
      building.objectIds.length < maxLeaseObjectCount ∧
      next = { building with objectIds := building.objectIds ++ [plane.id] } := by
  unfold addPlane at added
  split at added
  case isTrue => exact nomatch added
  case isFalse room =>
    split at added
    · exact nomatch added
    · rename_i plane found
      split at added
      case isTrue => exact nomatch added
      case isFalse free =>
        rw [objIsLeased_iff] at free
        exact ⟨plane, List.mem_of_find?_eq_some found, free, by omega, (Except.ok.inj added).symm⟩

theorem addConnector_ok {name : String} (added : addConnector kms leases name building = .ok next) :
    ∃ connector ∈ kms.connectors, ∃ crtc ∈ kms.crtcs,
      connector.id ∉ leasedIds leases ++ building.objectIds ∧
      crtc.id ∉ leasedIds leases ++ building.objectIds ∧
      building.objectIds.length + 1 < maxLeaseObjectCount ∧
      Drives (building.possibleCrtcs connector.encoder) crtc ∧
      next =
        { objectIds := building.objectIds ++ [connector.id, crtc.id]
          possibleCrtcs :=
            Function.update building.possibleCrtcs connector.encoder (crtcMask crtc) } := by
  unfold addConnector at added
  split at added
  case isTrue => exact nomatch added
  case isFalse room =>
    split at added
    · exact nomatch added
    · rename_i connector found
      split at added
      case isTrue => exact nomatch added
      case isFalse free =>
        split at added
        case isTrue => exact nomatch added
        case isFalse =>
          simp only at added
          split at added
          · exact nomatch added
          · rename_i crtc chosen
            have fits := List.find?_some chosen
            simp only [Bool.and_eq_true, decide_eq_true_eq, Bool.not_eq_true',
              ← Bool.not_eq_true, objIsLeased_iff] at fits
            rw [objIsLeased_iff] at free
            exact ⟨connector, List.mem_of_find?_eq_some found, crtc,
              List.mem_of_find?_eq_some chosen, free, fits.2, by omega, fits.1,
              (Except.ok.inj added).symm⟩

structure FitsNamed (kms : Kms) (leases : List MsmLease) (building : Building) : Prop where
  fits : Fits kms leases building
  narrowed : Narrowed kms building.possibleCrtcs building.objectIds

variable {connector : Connector}

theorem plane_ne_connector {plane : Plane} (first : plane ∈ kms.planes)
    (second : connector ∈ kms.connectors) : connector.id ≠ plane.id := by
  have apart := List.disjoint_of_nodup_append (List.nodup_append'.mp kms.unique).1
  intro same
  exact apart (List.mem_map_of_mem first) (same ▸ List.mem_map_of_mem second)

theorem crtc_ne_connector {crtc : Crtc} (first : crtc ∈ kms.crtcs)
    (second : connector ∈ kms.connectors) : connector.id ≠ crtc.id := by
  have apart := List.disjoint_of_nodup_append kms.unique
  intro same
  apply apart _ (List.mem_map_of_mem first)
  rw [← same, List.mem_append]
  exact .inr (List.mem_map_of_mem second)

theorem same_connector {one other : Connector} (first : one ∈ kms.connectors)
    (second : other ∈ kms.connectors) (same : one.id = other.id) : one = other := by
  have once := (List.nodup_append'.mp (List.nodup_append'.mp kms.unique).1).2.1
  exact List.inj_on_of_nodup_map once first second same

theorem FitsNamed.addPlane {plane : Plane} (named : FitsNamed kms leases building)
    (known : plane ∈ kms.planes) (free : plane.id ∉ leasedIds leases ++ building.objectIds)
    (room : building.objectIds.length < maxLeaseObjectCount) :
    FitsNamed kms leases { building with objectIds := building.objectIds ++ [plane.id] } := by
  constructor
  · exact named.fits.add free room
  · intro connector listed inside
    cases List.mem_append.mp inside with
    | inl old =>
      obtain ⟨crtc, among, along, mask⟩ := named.narrowed connector listed old
      exact ⟨crtc, among, List.mem_append.mpr (.inl along), mask⟩
    | inr new =>
      exact absurd (List.mem_singleton.mp new) (plane_ne_connector known listed)

theorem addPlane_named (name : String) {building next : Building}
    (added : addPlane kms leases name building = .ok next)
    (named : FitsNamed kms leases building) : FitsNamed kms leases next := by
  obtain ⟨plane, known, free, room, rfl⟩ := addPlane_ok added
  exact named.addPlane known free room

theorem addConnector_named (name : String) {building next : Building}
    (added : addConnector kms leases name building = .ok next)
    (named : FitsNamed kms leases building) : FitsNamed kms leases next := by
  obtain ⟨connector, known, crtc, among, freeConnector, freeCrtc, room, drives, rfl⟩ :=
    addConnector_ok added
  have different := crtc_ne_connector among known
  have one := named.fits.add freeConnector (by omega)
  have free : crtc.id ∉ leasedIds leases ++ (building.objectIds ++ [connector.id]) := by
    rw [← List.append_assoc, List.mem_append, List.mem_singleton]
    intro either
    exact either.elim freeCrtc different.symm
  have two := one.add free (by simp; omega)
  simp only [List.append_assoc, List.cons_append, List.nil_append] at two
  constructor
  · constructor
    · exact two.fresh
    · exact two.room
    · intro lease listed names
      apply (named.fits.narrowed lease listed names).update among drives
      intro inside
      exact freeCrtc (List.mem_append.mpr (.inl (List.mem_flatMap.mpr ⟨lease, listed, inside⟩)))
  · intro other listed inside
    have kept := named.narrowed.update among drives fun inside =>
      freeCrtc (List.mem_append.mpr (.inr inside))
    simp only [List.mem_append, List.mem_cons, List.not_mem_nil, or_false] at inside
    rcases inside with old | own | new
    · obtain ⟨its, known, along, mask⟩ := kept other listed old
      exact ⟨its, known, List.mem_append.mpr (.inl along), mask⟩
    · obtain rfl := same_connector listed known own
      exact ⟨crtc, among, by simp, Function.update_self ..⟩
    · exact absurd new (crtc_ne_connector among listed)

variable {P : Building → Prop}

theorem addAll_keeps {add : String → Building → Except Errno Building}
    (keeps : ∀ name {before after}, add name before = .ok after → P before → P after)
    (names : List String) {start : Building} (holds : P start) : P (addAll add names start).1 := by
  induction names generalizing start with
  | nil => exact holds
  | cons name rest ih =>
    simp only [addAll]
    split
    · exact holds
    · rename_i after added
      exact ih (keeps name added holds)

theorem takeRest_keeps {ids : List ℕ}
    (keeps : ∀ id ∈ ids, ∀ before, id ∉ leasedIds leases ++ before.objectIds →
      before.objectIds.length < maxLeaseObjectCount → P before →
      P { before with objectIds := before.objectIds ++ [id] })
    (holds : P building) : P (takeRest leases ids building) := by
  induction ids generalizing building with
  | nil => exact holds
  | cons id rest ih =>
    have later := fun other listed => keeps other (.tail _ listed)
    simp only [takeRest]
    split
    case isTrue => exact holds
    case isFalse room =>
      split
      case isTrue => exact ih later holds
      case isFalse free =>
        rw [objIsLeased_iff] at free
        exact ih later (keeps id List.mem_cons_self building free (by omega) holds)

theorem takeRest_fits (ids : List ℕ) (fits : Fits kms leases building) :
    Fits kms leases (takeRest leases ids building) :=
  takeRest_keeps (fun _ _ _ free room fits => fits.add free room) fits

theorem parseObjs_named (node : LeaseNode) (named : FitsNamed kms leases building) :
    FitsNamed kms leases (parseObjs kms leases node building).1 := by
  have planes := addAll_keeps addPlane_named node.leasePlanes named
  unfold parseObjs
  split
  · exact named
  · split
    · rename_i taken e result
      rw [result] at planes
      exact planes
    · rename_i taken result
      rw [result] at planes
      split
      · constructor
        · constructor
          · simpa using (List.nodup_append'.mp planes.fits.fresh).1
          · exact Nat.zero_le _
          · exact planes.fits.narrowed
        · intro connector _ inside
          exact nomatch inside
      · split
        · exact planes
        · exact addAll_keeps addConnector_named node.leaseConnectors planes

theorem remainPlanes_named (node : LeaseNode) (named : FitsNamed kms leases building) :
    FitsNamed kms leases (remainPlanes kms leases node building) := by
  unfold remainPlanes
  split
  · apply takeRest_keeps _ named
    intro id listed before free room kept
    obtain ⟨plane, known, rfl⟩ := List.mem_map.mp listed
    exact kept.addPlane known free room
  · exact addAll_keeps addPlane_named node.leasePlanes named

theorem remainConnectors_fits (node : LeaseNode) (named : FitsNamed kms leases building) :
    Fits kms leases (remainConnectors kms leases node building) ∧
      (node.leaseConnectors ≠ [] →
        Narrowed kms (remainConnectors kms leases node building).possibleCrtcs
          (remainConnectors kms leases node building).objectIds) := by
  unfold remainConnectors
  split
  case isTrue unnamed =>
    exact ⟨takeRest_fits _ (takeRest_fits _ named.fits), fun names => absurd unnamed names⟩
  case isFalse =>
    have taken := addAll_keeps addConnector_named node.leaseConnectors named
    exact ⟨taken.fits, fun _ => taken.narrowed⟩

/-! ## Runs -/

structure Sound (kms : Kms) (world : World) : Prop where
  fresh : (leasedIds world.leases).Nodup
  bounded : ∀ lease ∈ world.leases, lease.objectIds.length ≤ maxLeaseObjectCount
  narrowed : ∀ lease ∈ world.leases, lease.node.leaseConnectors ≠ [] →
    Narrowed kms world.possibleCrtcs lease.objectIds

variable {world : World}

theorem Sound.exclusive (sound : Sound kms world) : Exclusive kms world := by
  obtain ⟨once, apart⟩ := List.nodup_flatMap.mp sound.fresh
  constructor
  · exact apart
  · exact once
  · exact sound.bounded
  · intro lease listed names
    exact (sound.narrowed lease listed names).driven

theorem Sound.begin (sound : Sound kms world) :
    FitsNamed kms world.leases ⟨[], world.possibleCrtcs⟩ := by
  constructor
  · constructor
    · simpa using sound.fresh
    · exact Nat.zero_le _
    · exact sound.narrowed
  · intro connector _ inside
    exact nomatch inside

theorem Sound.abandon (sound : Sound kms world) (fits : Fits kms world.leases building) :
    Sound kms { world with possibleCrtcs := building.possibleCrtcs } :=
  ⟨sound.fresh, sound.bounded, fits.narrowed⟩

theorem Sound.record (sound : Sound kms world) (position : ℕ) {lease : MsmLease}
    (fits : Fits kms world.leases building)
    (narrowed : lease.node.leaseConnectors ≠ [] →
      Narrowed kms building.possibleCrtcs building.objectIds) :
    Sound kms (world.record position lease building) := by
  constructor
  · exact nodup_flatMap_set fits.fresh position
  · intro other listed
    cases List.mem_or_eq_of_mem_set listed with
    | inl old => exact sound.bounded other old
    | inr new => exact new ▸ fits.room
  · intro other listed names
    cases List.mem_or_eq_of_mem_set listed with
    | inl old => exact fits.narrowed other old names
    | inr new =>
      subst new
      exact narrowed names

theorem parseRemainObjs_sound (sound : Sound kms world) :
    Sound kms (parseRemainObjs kms world) := by
  unfold parseRemainObjs
  split
  · exact sound
  · rename_i target position chosen
    obtain ⟨fits, narrowed⟩ :=
      remainConnectors_fits target.node (remainPlanes_named target.node sound.begin)
    exact sound.record position fits narrowed

theorem notifier_sound (position : ℕ) (answers : Answers) (sound : Sound kms world) :
    Sound kms (notifier kms position answers world) := by
  unfold notifier
  split
  · exact sound
  · rename_i lease _
    have parsed := parseObjs_named lease.node sound.begin
    split
    · rename_i building e result
      rw [result] at parsed
      exact sound.abandon parsed.fits
    · rename_i building result
      rw [result] at parsed
      split
      · exact sound.abandon parsed.fits
      · have recorded : Sound kms (world.record position { lease with minor := true } building) :=
          sound.record position parsed.fits fun _ => parsed.narrowed
        simp only
        split
        · exact recorded
        · exact parseRemainObjs_sound recorded

theorem step_sound (input : Input) (sound : Sound kms world) :
    Sound kms (step kms world input) := by
  cases input with
  | notify position answers => exact notifier_sound position answers sound
  | probe node =>
    constructor
    · simpa [step, leasedIds] using sound.fresh
    · intro lease listed
      cases List.mem_append.mp listed with
      | inl old => exact sound.bounded lease old
      | inr new =>
        rw [List.mem_singleton.mp new]
        exact Nat.zero_le _
    · intro lease listed names connector known inside
      cases List.mem_append.mp listed with
      | inl old => exact sound.narrowed lease old names connector known inside
      | inr new =>
        rw [List.mem_singleton.mp new] at inside
        exact nomatch inside

/-- Whatever devices are probed and in whatever order their notifiers run, the leases have no
    object in common. -/
theorem leases_exclusive (kms : Kms) (possibleCrtcs : ℕ → U32) (inputs : List Input) :
    Throughout (step kms) (Exclusive kms) (.initial possibleCrtcs) inputs := by
  apply throughout_of_invariant (Sound kms)
  · intro world input sound
    exact step_sound input sound
  · intro world sound
    exact sound.exclusive
  · exact ⟨List.nodup_nil, fun _ listed => (nomatch listed), fun _ listed => nomatch listed⟩

end DisplayDrivers.Lease
