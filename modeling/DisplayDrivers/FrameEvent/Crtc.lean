import DisplayDrivers.Encoder.FrameEvents
import DisplayDrivers.Lib.Run
import Mathlib.Logic.Function.Basic

/-! # Frame events of a CRTC (`msm/sde/sde_crtc.c`)

A CRTC has eight nodes for the events of its encoders. `sde_crtc_commit_kickoff` counts the frame in
`frame_pending`, and `sde_crtc_disable` takes what is left there away.
-/

namespace DisplayDrivers.FrameEvent

open DisplayDrivers.Encoder.Kickoff.FrameEvents (Event terminal)

def frameEventSize : ℕ := 8

/-- `struct sde_crtc_frame_event`; `clone` says that its encoder was in clone mode when it raised
    the event, and `period` in which enable period the frame that it ends was kicked off. -/
structure Fevent where
  event : Event := 0#32
  clone : Bool := false
  period : ℕ := 0
deriving DecidableEq

def Fevent.ends (e : Fevent) : Bool := terminal e.event && !e.clone

/-- How far the work of a node is: before it looks at the counter, before it decrements it, before
    it releases the bandwidth, and before it puts the node back. -/
inductive Stage
  | started
  | pending
  | lastPending
  | signaled
deriving DecidableEq

inductive Op
  | kickoff
  | disable
deriving DecidableEq

/-- How far a commit is: at a node in `_sde_crtc_flush_event_thread`, or waiting there until the
    work of the node has been completed that many times; before the increment and before
    `sde_encoder_kickoff`; before `sde_crtc_disable` looks at the counter, sets it, and takes the
    callbacks away. -/
inductive Pc
  | idle
  | flush (op : Op) (i : ℕ)
  | flushWork (op : Op) (i : ℕ) (times : ℕ)
  | kickoff
  | trigger
  | disable
  | zero
  | unregister
deriving DecidableEq

def Op.afterFlush : Op → Pc
  | .kickoff => .kickoff
  | .disable => .disable

structure Crtc where
  /-- `frame_event_list` -/
  frameEventList : List ℕ := (List.range frameEventSize).reverse
  /-- `frame_events` -/
  frameEvents : ℕ → Fevent := fun _ => {}
  /-- The callbacks that have taken a node, with the event that they were called with. -/
  callbacks : List (ℕ × Fevent) := []
  /-- The works that are queued. -/
  works : List ℕ := []
  running : Option (ℕ × Stage) := none
  /-- How often the work of each node has been completed. -/
  completed : ℕ → ℕ := fun _ => 0
  framePending : Int := 0
  enabled : Bool := false
  registered : Bool := false
  pc : Pc := .idle
  -- what has happened
  period : ℕ := 0
  kicked : ℕ := 0
  processed : ℕ := 0
  owed : List ℕ := []
  releases : ℕ := 0
  returns : ℕ := 0
  outstandingAtRelease : List Int := []
  outstandingAtDrop : List ℕ := []

namespace Crtc

def outstanding (s : Crtc) : ℕ := s.callbacks.length + s.works.length + s.running.toList.length

def counts (s : Crtc) (n : ℕ) : Bool :=
  (s.frameEvents n).ends && (s.frameEvents n).period == s.period

/-! ## Events -/

/-- `sde_crtc_frame_event_cb` up to its unlock.  An event ends a frame only if that frame has not
    been ended yet, and an event for which no callback is registered does not come to the CRTC. -/
def frameEventCb (s : Crtc) (e : Fevent) : Crtc :=
  if e.ends && !s.owed.contains e.period then s
  else
    let s : Crtc := { s with owed := if e.ends then s.owed.erase e.period else s.owed }
    if !s.registered then s
    else match s.frameEventList with
      | [] => { s with outstandingAtDrop := s.outstandingAtDrop ++ [s.outstanding] }
      | n :: rest => { s with frameEventList := rest, callbacks := s.callbacks ++ [(n, e)] }

/-- The rest of a callback, which ends in `kthread_queue_work`. -/
def queueWork (s : Crtc) (cb : ℕ × Fevent) : Crtc :=
  if cb ∈ s.callbacks then
    { s with
      callbacks := s.callbacks.erase cb
      frameEvents := Function.update s.frameEvents cb.1 cb.2
      works := if cb.1 ∈ s.works then s.works else s.works ++ [cb.1] }
  else s

/-- `sde_crtc_frame_event_work`, one step; `clone` is what `sde_encoder_in_clone_mode` answers. -/
def frameEventWork (s : Crtc) (clone : Bool) : Crtc :=
  match s.running with
  | none => match s.works with
    | [] => s
    | n :: rest => { s with works := rest, running := some (n, .started) }
  | some (n, .started) =>
    if clone = false ∧ terminal (s.frameEvents n).event ∧ 1 ≤ s.framePending then
      { s with running := some (n, .pending) }
    else
      -- a clone's event, one that ends nothing, or "this should not happen"
      { s with
        running := some (n, .signaled)
        processed := s.processed + (s.counts n).toNat }
  | some (n, .pending) =>
    let s : Crtc := { s with
      framePending := s.framePending - 1
      processed := s.processed + (s.counts n).toNat }
    if s.framePending = 0 then
      { s with running := some (n, .lastPending), returns := s.returns + 1 }
    else { s with running := some (n, .signaled) }
  | some (n, .lastPending) =>
    -- sde_core_perf_crtc_release_bw
    { s with
      running := some (n, .signaled)
      releases := s.releases + 1
      outstandingAtRelease := s.outstandingAtRelease ++ [(s.kicked : Int) - s.processed] }
  | some (n, .signaled) =>
    { s with
      running := none
      frameEventList := s.frameEventList ++ [n]
      completed := Function.update s.completed n (s.completed n + 1) }

/-! ## Commits -/

/-- A commit calls `_sde_crtc_flush_event_thread`, which does nothing where no frames are
    pending. -/
def flushEventThread (s : Crtc) (op : Op) : Crtc :=
  if s.pc ≠ .idle then s
  else if s.framePending = 0 then { s with pc := op.afterFlush }
  else { s with pc := .flush op 0 }

def commitKickoff (s : Crtc) (numMixers : ℕ) : Crtc :=
  if numMixers = 0 then s else s.flushEventThread .kickoff

def endPeriod (s : Crtc) : Crtc := { s with period := s.period + 1, kicked := 0, processed := 0 }

def commit (s : Crtc) : Crtc :=
  match s.pc with
  | .idle => s
  | .flush op i =>
    if frameEventSize ≤ i then { s with pc := op.afterFlush }
    else if i ∈ s.frameEventList then { s with pc := .flush op (i + 1) }
    -- kthread_flush_work waits only for a work that is queued or running
    else if i ∈ s.works ∨ s.running.any (·.1 == i) then
      { s with pc := .flushWork op i (s.completed i + 1) }
    else { s with pc := .flush op (i + 1) }
  | .flushWork op i times => if times ≤ s.completed i then { s with pc := .flush op (i + 1) } else s
  | .kickoff =>
    { s with framePending := s.framePending + 1, kicked := s.kicked + 1, pc := .trigger }
  | .trigger => { s with owed := s.owed ++ [s.period], pc := .idle }
  | .disable =>
    let s : Crtc := { s with enabled := false }
    if s.framePending ≠ 0 then { s with releases := s.releases + 1, pc := .zero }
    else { s.endPeriod with pc := .unregister }
  | .zero =>
    { s.endPeriod with
      framePending := 0
      returns := s.returns + (if s.framePending = 0 then 0 else 1)
      pc := .unregister }
  | .unregister => { s with registered := false, pc := .idle }

/-- `sde_crtc_enable`, which needs the power resource. -/
def enable (s : Crtc) (power : Bool) : Crtc :=
  if s.pc ≠ .idle ∨ power = false ∨ s.enabled then s
  else { s with registered := true, enabled := true }

/-- `sde_crtc_prepare_commit` registers the callbacks too. -/
def prepareCommit (s : Crtc) : Crtc := if s.pc ≠ .idle then s else { s with registered := true }

end Crtc

inductive Input
  | frameEventCb (e : Fevent)
  | queueWork (cb : ℕ × Fevent)
  | frameEventWork (clone : Bool)
  | commitKickoff (numMixers : ℕ)
  | disable
  | commit
  | enable (power : Bool)
  | prepareCommit

def step (s : Crtc) : Input → Crtc
  | .frameEventCb e => s.frameEventCb e
  | .queueWork cb => s.queueWork cb
  | .frameEventWork clone => s.frameEventWork clone
  | .commitKickoff numMixers => s.commitKickoff numMixers
  | .disable => s.flushEventThread .disable
  | .commit => s.commit
  | .enable power => s.enable power
  | .prepareCommit => s.prepareCommit

end DisplayDrivers.FrameEvent
