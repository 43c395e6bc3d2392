import DisplayDrivers.Lib.Serial

/-! # The fence context (`msm/sde/sde_fence.c`)

One `struct sde_fence_context` per CRTC or connector: two free-running 32-bit counters and the list
of fences that have not been signalled yet.

What the kernel decides for the driver (does `kzalloc` succeed, is there a file descriptor) is the
argument `FdOutcome`.
-/

namespace DisplayDrivers.Fence

open DisplayDrivers.Lib.Serial

abbrev U32 := BitVec 32

/-- `struct sde_fence` and the fields of its `struct dma_fence` that the driver touches.  `id`
    numbers the fences in the order of `dma_fence_init`; `puts` counts the driver's own
    `dma_fence_put` calls on the fence. -/
structure SdeFence where
  id : Nat
  seqno : U32
  error : Int := 0
  timestamp : Int := 0
  signaled : Bool := false
  puts : Nat := 0
deriving DecidableEq

/-- `struct sde_fence_context`. -/
structure SdeFenceContext where
  commitCount : U32 := 0
  doneCount : U32 := 0
  fenceListHead : List SdeFence := []

/-- `enum sde_fence_event`. -/
inductive FenceEvent
  | signal
  | resetTimeline
  | signalError
deriving DecidableEq

/-- How the kernel answers `_sde_fence_create_fd`: no memory for the fence, no free descriptor
    (with the negative code that `get_unused_fd_flags` returned), no `sync_file`, or a file. -/
inductive FdOutcome
  | noMemory
  | noFd (code : Nat)
  | noSyncFile
  | ok (fd : Nat)
deriving DecidableEq

def EBUSY : Int := 16
def ENOMEM : Int := 12
def EINVAL : Int := 22

/-! ## One fence -/

/-- `sde_fence_signaled`: the sequence number is not ahead of the timeline. -/
def sdeFenceSignaled (doneCount : U32) (fence : SdeFence) : Bool :=
  ahead (w := 31) fence.seqno doneCount ≤ 0

/-- `dma_fence_is_signaled_locked`: the flag, else the driver's `.signaled`, which on success
    sets the flag. -/
def dmaFenceIsSignaledLocked (doneCount : U32) (fence : SdeFence) : Bool × SdeFence :=
  if fence.signaled then (true, fence)
  else if sdeFenceSignaled doneCount fence then (true, { fence with signaled := true })
  else (false, fence)

def SdeFence.put (fence : SdeFence) : SdeFence := { fence with puts := fence.puts + 1 }

/-- The two stores of `_sde_fence_trigger` before it asks whether the fence is signalled. -/
def SdeFence.stamp (ts : Int) (error : Bool) (fence : SdeFence) : SdeFence :=
  { fence with error := if error then -EBUSY else 0, timestamp := ts }

@[simp] theorem SdeFence.stamp_id (ts : Int) (error : Bool) (fence : SdeFence) :
    (fence.stamp ts error).id = fence.id := rfl
@[simp] theorem SdeFence.stamp_seqno (ts : Int) (error : Bool) (fence : SdeFence) :
    (fence.stamp ts error).seqno = fence.seqno := rfl

/-! ## `_sde_fence_trigger` -/

/-- The first loop: every fence is `list_move`d to the head of the local list. -/
def moveToLocal (fences : List SdeFence) : List SdeFence :=
  fences.foldl (fun localHead fc => fc :: localHead) []

/-- The second loop, over the local list: a signalled fence is dropped and put, any other is
    `list_move`d back to the head of the context's list.  Returns that list and the fences put. -/
def triggerLoop (doneCount : U32) (ts : Int) (error : Bool) :
    List SdeFence → List SdeFence → List SdeFence × List SdeFence
  | [], head => (head, [])
  | fc :: next, head =>
    match dmaFenceIsSignaledLocked doneCount (fc.stamp ts error) with
    | (true, fc) =>
      let rest := triggerLoop doneCount ts error next head
      (rest.1, fc.put :: rest.2)
    | (false, fc) => triggerLoop doneCount ts error next (fc :: head)

/-- `_sde_fence_trigger`; the second component are the fences it put. -/
def sdeFenceTrigger (ctx : SdeFenceContext) (ts : Int) (error : Bool) :
    SdeFenceContext × List SdeFence :=
  if ctx.fenceListHead.isEmpty then (ctx, [])
  else
    let done := triggerLoop ctx.doneCount ts error (moveToLocal ctx.fenceListHead) []
    ({ ctx with fenceListHead := done.1 }, done.2)

/-! ## The driver's entry points -/

/-- A context and what has become of the fences that left it: `retired` were put after they were
    signalled, `dropped` were put because their descriptor could not be created, and `made`
    counts the `dma_fence_init` calls. -/
structure Timeline where
  ctx : SdeFenceContext := {}
  retired : List SdeFence := []
  dropped : List SdeFence := []
  made : Nat := 0

def sdeFencePrepare (t : Timeline) : Timeline :=
  { t with ctx := { t.ctx with commitCount := t.ctx.commitCount + 1 } }

/-- `_sde_fence_create_fd`: the fence for timeline value `val`, on the context's list when the
    descriptor is installed, put otherwise. -/
def sdeFenceCreateFd (t : Timeline) (val : U32) : FdOutcome → Timeline × Int
  | .noMemory => (t, -ENOMEM)
  -- both failures put the fence, which nobody else refers to
  | .noFd code =>
    ({ t with dropped := { id := t.made, seqno := val, puts := 1 } :: t.dropped,
              made := t.made + 1 }, Int.negSucc code)
  | .noSyncFile =>
    ({ t with dropped := { id := t.made, seqno := val, puts := 1 } :: t.dropped,
              made := t.made + 1 }, -EINVAL)
  -- the list keeps the reference of `dma_fence_init`
  | .ok fd =>
    ({ t with ctx := { t.ctx with
                fenceListHead := t.ctx.fenceListHead ++ [{ id := t.made, seqno := val }] },
              made := t.made + 1 }, fd)

/-- `_sde_fence_trigger` on a timeline; the fence put last is the first of `retired`. -/
def trigger (t : Timeline) (ts : Int) (error : Bool) : Timeline :=
  let done := sdeFenceTrigger t.ctx ts error
  { t with ctx := done.1, retired := done.2.reverse ++ t.retired }

/-- `sde_fence_create`: the timeline, `*val` and the return code. -/
def sdeFenceCreate (t : Timeline) (offset : U32) (outcome : FdOutcome) (now : Int) :
    Timeline × Int × Int :=
  let triggerValue := t.ctx.commitCount + offset
  let (t, fd) := sdeFenceCreateFd t triggerValue outcome
  if fd ≥ 0 then (trigger t now false, fd, 0) else (t, fd, fd)

/-- The `ctx->lock` section of `sde_fence_signal`; `none` where the function returns from it. -/
def advance (ctx : SdeFenceContext) (event : FenceEvent) : Option SdeFenceContext :=
  if event = .resetTimeline then
    -- a reset with nothing outstanding returns without a trigger, as an extra signal does
    if ahead (w := 31) ctx.doneCount ctx.commitCount < 0 then
      some { ctx with doneCount := ctx.commitCount }
    else none
  else if ahead (w := 31) ctx.doneCount ctx.commitCount < 0 then
    some { ctx with doneCount := ctx.doneCount + 1 }
  else none

def sdeFenceSignal (t : Timeline) (ts : Int) (event : FenceEvent) : Timeline :=
  match advance t.ctx event with
  | some ctx => trigger { t with ctx := ctx } ts (event = .signalError)
  | none => t

inductive Call
  | prepare
  | create (offset : U32) (outcome : FdOutcome) (now : Int)
  | signal (ts : Int) (event : FenceEvent)

def step (t : Timeline) : Call → Timeline
  | .prepare => sdeFencePrepare t
  | .create offset outcome now => (sdeFenceCreate t offset outcome now).1
  | .signal ts event => sdeFenceSignal t ts event

end DisplayDrivers.Fence
