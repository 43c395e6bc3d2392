import DisplayDrivers.Lib.WorkQueue
import Mathlib.Logic.Function.Basic

/-! # Atomic commits

A call of `msm_atomic_commit` waits until none of its CRTCs and planes is pending, marks them as
pending, and hands the commit to the display thread of its CRTC, or completes it itself when there
is none. A nonblocking commit is freed where it is completed; a blocking one by its caller, after
the work has run.
-/

namespace DisplayDrivers.Atomic

open DisplayDrivers.Lib

structure Crtc where
  id : ℕ
  /-- `drm_crtc_index` -/
  index : ℕ

/-- The CRTCs and the planes (by `drm_plane_index`) of a state. -/
structure AtomicState where
  crtcs : List Crtc
  planes : List ℕ

inductive Event
  | started
  | completed
  | released
  | freed
deriving DecidableEq

/-- What `complete_commit` has still to do: the display hardware, `end_atomic`, and the free of a
    nonblocking commit. -/
inductive Stage
  | hardware
  | ending
  | freeing
deriving DecidableEq

def Stage.next : Stage → Option Stage
  | .hardware => some .ending
  | .ending => some .freeing
  | .freeing => none

/-- Where a call of `msm_atomic_commit` is.  In `msm_atomic_commit_dispatch` it keeps `nonblock`,
    because the work may free the commit. -/
inductive Caller
  | waiting
  | dispatching
  | completing (nonblock : Bool) (stage : Stage)
  | flushing
  | freeing
  | returned (ret : Int)

/-- `struct msm_commit`, and the call that allocated it; `worker` is where its work was queued. -/
structure Commit where
  state : AtomicState
  crtcMask : BitVec 32
  planeMask : BitVec 32
  nonblock : Bool
  worker : Option ℕ
  caller : Caller
  history : List Event

/-- An entry of `disp_thread`. -/
structure DispThread where
  crtcId : ℕ
  thread : Bool

structure Worker where
  queue : WorkQueue ℕ
  current : Option (ℕ × Stage)

structure Priv where
  pendingCrtcs : BitVec 32
  pendingPlanes : BitVec 32
  /-- Every commit ever allocated. -/
  commits : List Commit
  workers : ℕ → Worker

def Priv.initial : Priv := ⟨0, 0, [], fun _ => ⟨.empty, none⟩⟩

def EINVAL : Int := 22
def ENOMEM : Int := 12
def ERESTARTSYS : Int := 512

def commitInit (state : AtomicState) (nonblock : Bool) : Commit where
  state := state
  crtcMask := 0
  planeMask := 0
  nonblock := nonblock
  worker := none
  caller := .waiting
  history := []

/-- What a call finds: the shutdown flag, the result of `drm_atomic_helper_prepare_planes` and
    whether the allocation of the commit succeeds. -/
structure Answers where
  shutdown : Bool
  prepared : Int
  allocated : Bool

/-- `msm_atomic_commit` before `start_atomic`. -/
def atomicCommit (answers : Answers) (state : AtomicState) (nonblock : Bool) :
    Except Int Commit :=
  if answers.shutdown then .error (-EINVAL)
  else if answers.prepared ≠ 0 then .error answers.prepared
  else if !answers.allocated then .error (-ENOMEM)
  else
    let c := commitInit state nonblock
    .ok { c with
      crtcMask := state.crtcs.foldl (fun mask crtc => mask ||| 1#32 <<< crtc.index) c.crtcMask
      planeMask := state.planes.foldl (fun mask plane => mask ||| 1#32 <<< plane) c.planeMask }

def Commit.note (c : Commit) (e : Event) : Commit := { c with history := c.history ++ [e] }

def Priv.put (s : Priv) (i : ℕ) (c : Commit) : Priv := { s with commits := s.commits.set i c }

def Priv.setWorker (s : Priv) (j : ℕ) (w : Worker) : Priv :=
  { s with workers := Function.update s.workers j w }

/-- `start_atomic`: the condition is evaluated, and the masks are set, under the lock; a signal
    counts only while the condition is false. -/
def startAtomic (s : Priv) (crtcMask planeMask : BitVec 32) : Option Priv :=
  if s.pendingCrtcs &&& crtcMask = 0 ∧ s.pendingPlanes &&& planeMask = 0 then
    some { s with
      pendingCrtcs := s.pendingCrtcs ||| crtcMask
      pendingPlanes := s.pendingPlanes ||| planeMask }
  else none

def endAtomic (s : Priv) (crtcMask planeMask : BitVec 32) : Priv :=
  { s with
    pendingCrtcs := s.pendingCrtcs &&& ~~~crtcMask
    pendingPlanes := s.pendingPlanes &&& ~~~planeMask }

/-- One stage of `complete_commit`, the last two of which are `commit_destroy`. -/
def completeCommit (s : Priv) (c : Commit) : Stage → Priv × Commit
  | .hardware => (s, c.note .completed)
  | .ending => (endAtomic s c.crtcMask c.planeMask, c.note .released)
  | .freeing => (s, if c.nonblock then c.note .freed else c)

/-- The loops of `msm_atomic_commit_dispatch`: the display thread that gets the work, if any.  The
    first CRTC that has an entry ends the search, also when its thread is missing. -/
def dispatchTarget (threads : List DispThread) : List Crtc → Option ℕ
  | [] => none
  | crtc :: rest =>
    match threads.findIdx? fun entry => entry.crtcId = crtc.id with
    | some j => if threads[j]?.any (·.thread) then some j else none
    | none => dispatchTarget threads rest

def Worker.Has (w : Worker) (i : ℕ) : Prop :=
  w.queue.Pending i ∨ w.current.map Prod.fst = some i

instance (w : Worker) (i : ℕ) : Decidable (w.Has i) :=
  inferInstanceAs (Decidable (_ ∨ _))

/-- The next section of the call that allocated commit `i`; `signal` says whether a signal is
    pending. -/
def callerStep (threads : List DispThread) (s : Priv) (i : ℕ) (c : Commit) (signal : Bool) : Priv :=
  match c.caller with
  | .waiting =>
    match startAtomic s c.crtcMask c.planeMask with
    | some marked => marked.put i { c.note .started with caller := .dispatching }
    | none =>
      if signal then s.put i { c.note .freed with caller := .returned (-ERESTARTSYS) } else s
  | .dispatching =>
    match dispatchTarget threads c.state.crtcs with
    | some j =>
      let w := s.workers j
      let queued := s.setWorker j { w with queue := w.queue.queue i }
      queued.put i { c with
        worker := some j
        caller := if c.nonblock then .returned 0 else .flushing }
    | none => s.put i { c with caller := .completing c.nonblock .hardware }
  | .completing nonblock stage =>
    let (next, done) := completeCommit s c stage
    next.put i { done with
      caller := match stage.next with
        | some later => .completing nonblock later
        | none => if nonblock then .returned 0 else .freeing }
  | .flushing =>
    -- `kthread_flush_work` returns when the work is neither queued nor running
    if ∃ j ∈ c.worker, (s.workers j).Has i then s else s.put i { c with caller := .freeing }
  | .freeing => s.put i { c.note .freed with caller := .returned 0 }
  | .returned _ => s

def workerStep (s : Priv) (j : ℕ) : Priv :=
  let w := s.workers j
  match w.current with
  | some (i, stage) =>
    match s.commits[i]? with
    | some c =>
      let (next, done) := completeCommit s c stage
      (next.put i done).setWorker j { w with current := stage.next.map fun later => (i, later) }
    | none => s
  | none =>
    match w.queue.next with
    | some (i, rest) => s.setWorker j ⟨rest, some (i, .hardware)⟩
    | none => s

inductive Input
  | call (answers : Answers) (state : AtomicState) (nonblock : Bool)
  | caller (i : ℕ) (signal : Bool)
  | worker (j : ℕ)

def step (threads : List DispThread) (s : Priv) : Input → Priv
  | .call answers state nonblock =>
    match atomicCommit answers state nonblock with
    | .ok c => { s with commits := s.commits ++ [c] }
    | .error _ => s
  | .caller i signal =>
    match s.commits[i]? with
    | some c => callerStep threads s i c signal
    | none => s
  | .worker j => workerStep s j

def Quiet (threads : List DispThread) (s : Priv) : Prop :=
  (∀ i, step threads s (.caller i false) = s) ∧ ∀ j, step threads s (.worker j) = s

/-- Between `start_atomic` and `end_atomic`. -/
def Commit.Busy (c : Commit) : Prop := .started ∈ c.history ∧ .released ∉ c.history

instance (c : Commit) : Decidable c.Busy := inferInstanceAs (Decidable (_ ∧ _))

def lifetime : List Event := [.started, .completed, .released, .freed]

variable (s : Priv)

@[simp] theorem put_pendingCrtcs (i : ℕ) (c : Commit) :
    (s.put i c).pendingCrtcs = s.pendingCrtcs := rfl

@[simp] theorem put_pendingPlanes (i : ℕ) (c : Commit) :
    (s.put i c).pendingPlanes = s.pendingPlanes := rfl

@[simp] theorem put_commits (i : ℕ) (c : Commit) : (s.put i c).commits = s.commits.set i c := rfl

@[simp] theorem put_workers (i : ℕ) (c : Commit) : (s.put i c).workers = s.workers := rfl

@[simp] theorem setWorker_commits (j : ℕ) (w : Worker) :
    (s.setWorker j w).commits = s.commits := rfl

@[simp] theorem setWorker_workers (j : ℕ) (w : Worker) :
    (s.setWorker j w).workers = Function.update s.workers j w := rfl

theorem startAtomic_some {s marked : Priv} {crtcMask planeMask : BitVec 32}
    (starts : startAtomic s crtcMask planeMask = some marked) :
    (s.pendingCrtcs &&& crtcMask = 0 ∧ s.pendingPlanes &&& planeMask = 0) ∧
      marked.pendingCrtcs = s.pendingCrtcs ||| crtcMask ∧
      marked.pendingPlanes = s.pendingPlanes ||| planeMask ∧
      marked.commits = s.commits ∧ marked.workers = s.workers := by
  unfold startAtomic at starts
  split at starts
  case isFalse => cases starts
  case isTrue free =>
    obtain rfl := Option.some.inj starts
    exact ⟨free, rfl, rfl, rfl, rfl⟩

@[simp] theorem completeCommit_commits (c : Commit) (stage : Stage) :
    (completeCommit s c stage).1.commits = s.commits := by
  cases stage with
  | hardware => rfl
  | ending => rfl
  | freeing => rfl

@[simp] theorem completeCommit_workers (c : Commit) (stage : Stage) :
    (completeCommit s c stage).1.workers = s.workers := by
  cases stage with
  | hardware => rfl
  | ending => rfl
  | freeing => rfl

theorem completeCommit_frame (c : Commit) (stage : Stage) :
    (completeCommit s c stage).2 = { c with history := (completeCommit s c stage).2.history } := by
  cases stage with
  | hardware => rfl
  | ending => rfl
  | freeing =>
    simp only [completeCommit]
    split
    · rfl
    · rfl

end DisplayDrivers.Atomic
