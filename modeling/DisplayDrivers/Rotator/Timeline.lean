import DisplayDrivers.Lib.Run
import DisplayDrivers.Lib.Serial
import Mathlib.Data.List.Nodup

/-! # The sync timeline of the rotator (`rotator/sde_rotator_sync.c`)

One timeline with its two free-running 32-bit counters and its list of outstanding fences.
-/

namespace DisplayDrivers.Rotator

open DisplayDrivers.Lib.Serial

abbrev U32 := BitVec 32

/-- How far a fence is with its references: somebody has one; the last one is gone, and
    `sde_rot_fence_release` has left the lock; there is no such fence. -/
inductive Life
  | live
  | releasing
  | freed
deriving DecidableEq

/-- `struct sde_rot_fence`; `signaled` is the flag in the `struct dma_fence`. -/
structure RotFence where
  seqno : U32 := 0
  signaled : Bool := false
  life : Life := .freed

/-- `struct sde_rot_timeline`, the fences made on it, and whether its owner still has it. -/
structure RotTimeline where
  kref : ℕ := 1
  nextValue : U32 := 0
  currValue : U32 := 0
  fenceListHead : List ℕ := []
  fence : ℕ → RotFence := fun _ => {}
  made : ℕ := 0
  owner : Bool := true
  freed : Bool := false

def createTimeline : RotTimeline := {}

/-- `sde_rotator_put_timeline`: the last put frees the timeline. -/
def RotTimeline.putTimeline (tl : RotTimeline) : RotTimeline :=
  { tl with kref := tl.kref - 1, freed := tl.freed || tl.kref == 1 }

/-- `sde_rot_fence_signaled`: `(s32)(curr_value - seqno) >= 0`. -/
def RotTimeline.fenceSignaled (tl : RotTimeline) (id : ℕ) : Bool :=
  0 ≤ ahead tl.currValue (tl.fence id).seqno

/-- What `dma_fence_is_signaled` answers about a fence. -/
def RotTimeline.isSignaled (tl : RotTimeline) (id : ℕ) : Bool :=
  (tl.fence id).signaled || tl.fenceSignaled id

/-- One turn of the walk: `dma_fence_is_signaled_locked` sets the flag of a fence that is due, and
    a signalled fence leaves the list. -/
def RotTimeline.visit (tl : RotTimeline) (id : ℕ) : RotTimeline :=
  if tl.isSignaled id then
    { tl with
      fence := Function.update tl.fence id { tl.fence id with signaled := true }
      fenceListHead := tl.fenceListHead.erase id }
  else tl

def RotTimeline.incTimelineLocked (tl : RotTimeline) (increment : U32) : RotTimeline :=
  tl.fenceListHead.foldl RotTimeline.visit { tl with currValue := tl.currValue + increment }

def RotTimeline.resyncTimeline (tl : RotTimeline) : RotTimeline :=
  if 0 < ahead tl.nextValue tl.currValue then
    tl.incTimelineLocked (BitVec.ofInt 32 (ahead tl.nextValue tl.currValue))
  else tl

/-- `sde_rotator_get_sync_fence`; nothing happens without memory for the fence. -/
def RotTimeline.getSyncFence (tl : RotTimeline) (allocated : Bool) : RotTimeline :=
  if allocated then
    { tl with
      nextValue := tl.nextValue + 1
      fence := Function.update tl.fence tl.made { seqno := tl.nextValue + 1, life := .live }
      fenceListHead := tl.fenceListHead ++ [tl.made]
      kref := tl.kref + 1
      made := tl.made + 1 }
  else tl

/-- `sde_rot_fence_release` under the lock: a fence that is still on the list leaves it. -/
def RotTimeline.releaseFence (tl : RotTimeline) (id : ℕ) : RotTimeline :=
  { tl with
    fence := Function.update tl.fence id { tl.fence id with life := .releasing }
    fenceListHead := tl.fenceListHead.erase id }

/-- `sde_rot_fence_release` after it. -/
def RotTimeline.dropFence (tl : RotTimeline) (id : ℕ) : RotTimeline :=
  { tl with fence := Function.update tl.fence id { tl.fence id with life := .freed } }.putTimeline

/-- `sde_rotator_destroy_timeline`, by the owner. -/
def RotTimeline.destroyTimeline (tl : RotTimeline) : RotTimeline :=
  { tl with owner := false }.putTimeline

inductive Input
  | getSyncFence (allocated : Bool)
  | incTimeline (increment : ℕ)
  | resyncTimeline
  /-- The last reference of a fence is put. -/
  | releaseFence (id : ℕ)
  /-- A release goes on after its critical section. -/
  | dropFence (id : ℕ)
  | destroyTimeline

def step (tl : RotTimeline) : Input → RotTimeline
  | .getSyncFence allocated => tl.getSyncFence allocated
  | .incTimeline increment => tl.incTimelineLocked (BitVec.ofNat 32 increment)
  | .resyncTimeline => tl.resyncTimeline
  | .releaseFence id => tl.releaseFence id
  | .dropFence id => tl.dropFence id
  | .destroyTimeline => tl.destroyTimeline

/-- Who calls has a reference of what it calls with, and an increment is an `int` that is not
    negative. -/
def Allowed (tl : RotTimeline) : Input → Prop
  | .getSyncFence _ | .resyncTimeline | .destroyTimeline => tl.owner = true
  | .incTimeline increment => tl.owner = true ∧ increment < 2 ^ 31
  | .releaseFence id => (tl.fence id).life = .live
  | .dropFence id => (tl.fence id).life = .releasing

instance (tl : RotTimeline) (input : Input) : Decidable (Allowed tl input) := by
  cases input <;> unfold Allowed <;> infer_instance

/-! ## What the walk leaves behind -/

def RotFence.signalWhen (f : RotFence) (due : Bool) : RotFence :=
  { f with signaled := f.signaled || due }

@[simp] theorem RotFence.signalWhen_life (f : RotFence) (due : Bool) :
    (f.signalWhen due).life = f.life := rfl
@[simp] theorem RotFence.signalWhen_signaled (f : RotFence) (due : Bool) :
    (f.signalWhen due).signaled = (f.signaled || due) := rfl
@[simp] theorem RotFence.signalWhen_false (f : RotFence) : f.signalWhen false = f := by
  simp [RotFence.signalWhen]

def RotTimeline.walked (tl : RotTimeline) (part : List ℕ) : RotTimeline :=
  { tl with
    fence := fun id => (tl.fence id).signalWhen (part.contains id && tl.isSignaled id)
    fenceListHead := tl.fenceListHead.filter fun id => !(part.contains id && tl.isSignaled id) }

theorem walked_isSignaled (tl : RotTimeline) (part : List ℕ) (id : ℕ) :
    (tl.walked part).isSignaled id = tl.isSignaled id := by
  have value : (tl.walked part).fenceSignaled id = tl.fenceSignaled id := rfl
  rw [RotTimeline.isSignaled, value]
  change ((tl.fence id).signaled || part.contains id && tl.isSignaled id || tl.fenceSignaled id) = _
  unfold RotTimeline.isSignaled
  cases (tl.fence id).signaled <;> cases part.contains id <;> simp

variable {tl : RotTimeline}

theorem visit_eq (apart : tl.fenceListHead.Nodup) (id : ℕ) : tl.visit id = tl.walked [id] := by
  unfold RotTimeline.visit RotTimeline.walked
  by_cases due : tl.isSignaled id = true
  · rw [if_pos due, apart.erase_eq_filter]
    simp only [RotTimeline.mk.injEq, true_and, and_true]
    constructor
    · refine List.filter_congr fun other _ => ?_
      by_cases same : other = id
      · simp [same, due]
      · simp [same]
    · funext other
      by_cases same : other = id
      · simp [same, due, RotFence.signalWhen]
      · simp [same]
  · rw [if_neg due]
    have never : ∀ other, (([id] : List ℕ).contains other && tl.isSignaled other) = false := by
      intro other
      by_cases same : other = id
      · simp [same, due]
      · simp [same]
    simp only [never, Bool.not_false, List.filter_true, RotFence.signalWhen_false]

theorem walked_cons (tl : RotTimeline) (first : ℕ) (part : List ℕ) :
    (tl.walked [first]).walked part = tl.walked (first :: part) := by
  rw [RotTimeline.walked]
  simp only [walked_isSignaled]
  simp only [RotTimeline.walked, List.filter_filter, RotTimeline.mk.injEq, true_and, and_true]
  constructor
  · refine List.filter_congr fun id _ => ?_
    by_cases same : id = first
    · subst same
      cases tl.isSignaled id <;> simp
    · simp [same]
  · funext id
    by_cases same : id = first
    · subst same
      cases tl.isSignaled id <;> simp [RotFence.signalWhen]
    · simp [same]

theorem foldl_visit (part : List ℕ) : ∀ {tl : RotTimeline}, tl.fenceListHead.Nodup →
    part.foldl RotTimeline.visit tl = tl.walked part := by
  induction part with
  | nil =>
    intro tl _
    simp [RotTimeline.walked]
  | cons first part ih =>
    intro tl apart
    rw [List.foldl_cons, visit_eq apart, ih (apart.filter _), walked_cons]

def RotTimeline.moveOn (tl : RotTimeline) (increment : U32) : RotTimeline :=
  { tl with currValue := tl.currValue + increment }

theorem incTimelineLocked_eq (apart : tl.fenceListHead.Nodup) (increment : U32) :
    tl.incTimelineLocked increment =
      { tl.moveOn increment with
        fence := fun id => (tl.fence id).signalWhen
          (tl.fenceListHead.contains id && (tl.moveOn increment).isSignaled id)
        fenceListHead :=
          tl.fenceListHead.filter fun id => !(tl.moveOn increment).isSignaled id } := by
  have moved : (tl.moveOn increment).fenceListHead.Nodup := apart
  rw [RotTimeline.incTimelineLocked]
  refine (foldl_visit tl.fenceListHead moved).trans ?_
  simp only [RotTimeline.walked, RotTimeline.mk.injEq, true_and, and_true]
  refine ⟨List.filter_congr fun id listed => ?_, rfl⟩
  have listed : tl.fenceListHead.contains id = true := List.contains_iff_mem.mpr listed
  rw [listed, Bool.true_and]

end DisplayDrivers.Rotator
