import DisplayDrivers.Encoder.CombinedFlush
import DisplayDrivers.Encoder.PhysCmd
import DisplayDrivers.Lib.Run
import Mathlib.Data.List.Basic

/-! # One frame event for each kickoff

A kickoff marks the physical encoders that it waits for as busy, and `handle_frame_done` takes the
mark of the one that reports. The CRTC is told when the last mark has gone.

No lock is held. The kickoff sets one mark with each turn of its loop and flushes in between, and a
callback looks at the mask once more after it has taken its mark.
-/

namespace DisplayDrivers.Encoder.Kickoff.FrameEvents

open DisplayDrivers.Ctl DisplayDrivers.Lib.Run DisplayDrivers.Lib.TwoLevel

/-- The bits `SDE_ENCODER_FRAME_EVENT_*`. -/
abbrev Event := BitVec 32

def done : Event := 1#32

def error : Event := 2#32

def panelDead : Event := 4#32

def terminal (event : Event) : Bool := event &&& (done ||| error ||| panelDead) ≠ 0#32

/-- A bit of `frame_busy_mask`. -/
def busy (e : Enc) (i : ℕ) : Bool := e.physEncs[i]?.any fun phys => phys.frameBusy

def anyBusy (e : Enc) : Bool := e.physEncs.any fun phys => phys.frameBusy

def clearBusy (i : ℕ) (e : Enc) : Enc :=
  { e with physEncs := e.physEncs.mapIdx fun j phys => if j = i then phys.frameDone else phys }

/-- `sde_encoder_frame_done_callback` until it looks at the mask again: what it passes on to the
    CRTC at once, and whether it has to look; `registered` says that the CRTC has a callback for
    it. -/
def frameDoneCallback (registered : Bool) (i : ℕ) (event : Event) (e : Enc) :
    Enc × Option Event × Bool :=
  if e.curMaster = none then (e, none, false)
  else if terminal event then
    -- suppress frame_done without waiter, likely autorefresh
    if ¬anyBusy e then (e, none, false) else (clearBusy i e, none, true)
  else (e, if registered then some event else none, false)

/-- A turn of the first loop of `_sde_encoder_kickoff_phys`, with `pending_flush`. -/
def kickoffTurn (k : ℕ) (pending : FlushCfg) (e : Enc) : Enc × FlushCfg :=
  match e.physEncs[k]? with
  | none => (e, pending)
  | some phys =>
    let v := visit e.activeCfg ⟨e.physEncs.take k, e.ctls, pending, []⟩ phys
    ({ e with physEncs := v.physEncs ++ e.physEncs.drop (k + 1), ctls := v.ctls }, v.pending)

def kickoffEnd (pending : FlushCfg) (e : Enc) : Enc :=
  startMaster (raisePending (combinedFlush e pending).1)

structure Frame where
  awaited : ℕ → Bool
  reported : ℕ → Bool
  events : List Event

/-- `turn` is where the loop of a kickoff is, and `testing` are the callbacks that have taken their
    mark and are to look at the mask again. -/
structure Sys where
  enc : Enc
  registered : Bool
  turn : Option (ℕ × FlushCfg)
  testing : List Event
  frame : Frame
  past : List Frame

inductive Input
  | kickoff (e : Enc)
  | turn
  | report (i : ℕ) (event : Event)
  | test (k : ℕ)

/-- The physical encoders whose bit a kickoff sets. -/
def waitedFor (phys : Phys) : Bool :=
  phys.enabled && phys.hwCtl.isSome &&
    decide (¬(phys.ppsplit ∧ phys.splitRole = .slave) ∧ phys.splitRole ≠ .skip)

def Frame.mark (frame : Frame) (e : Enc) (k : ℕ) : Frame :=
  { frame with awaited := fun j => frame.awaited j || (j = k && e.physEncs[k]?.any waitedFor) }

/-- A report counts for an encoder that is marked. -/
def Frame.clear (frame : Frame) (e : Enc) (i : ℕ) : Frame :=
  { frame with reported := fun j => frame.reported j || (j = i && busy e i) }

def Frame.tell (frame : Frame) (told : Option Event) : Frame :=
  { frame with events := frame.events ++ told.toList }

def Sys.step (s : Sys) : Input → Sys
  | .kickoff e =>
    if s.turn.isSome ∨ anyBusy s.enc ∨ e.curMaster = none ∨ ¬s.registered then s
    else
      { s with
        enc := { e with physEncs := e.physEncs.map Phys.frameDone }
        turn := some (0, Masks.empty)
        frame := ⟨fun _ => false, fun _ => false, []⟩
        past := s.past ++ [s.frame] }
  | .turn =>
    match s.turn with
    | none => s
    | some (k, pending) =>
      if k < s.enc.physEncs.length then
        { s with
          enc := (kickoffTurn k pending s.enc).1
          turn := some (k + 1, (kickoffTurn k pending s.enc).2)
          frame := s.frame.mark s.enc k }
      else { s with enc := kickoffEnd pending s.enc, turn := none }
  | .report i event =>
    let out := frameDoneCallback s.registered i event s.enc
    { s with
      enc := out.1
      testing := if out.2.2 then s.testing ++ [event] else s.testing
      frame := (if out.2.2 then s.frame.clear s.enc i else s.frame).tell out.2.1 }
  | .test k =>
    match s.testing[k]? with
    | none => s
    | some event =>
      { s with
        testing := s.testing.eraseIdx k
        frame := s.frame.tell (if ¬anyBusy s.enc ∧ s.registered then some event else none) }

def Sys.init (e : Enc) (registered : Bool) : Sys where
  enc := { e with physEncs := e.physEncs.map Phys.frameDone }
  registered := registered
  turn := none
  testing := []
  frame := ⟨fun _ => false, fun _ => false, []⟩
  past := []

/-- The kickoff at hand has a mark left to set. -/
def Sys.toMark (s : Sys) : Bool :=
  match s.turn with
  | none => false
  | some (k, _) => (s.enc.physEncs.drop k).any waitedFor

def Frame.Awaited (frame : Frame) : Prop := ∃ i, frame.awaited i = true

def Frame.ends (frame : Frame) : ℕ := frame.events.countP terminal

/-- The last mark is taken while no other callback is about to look at the mask and the kickoff has
    none left to set; no kickoff begins while a callback is about to look. -/
def Apart (s : Sys) : Input → Prop
  | .kickoff _ => s.testing = []
  | .turn => True
  | .report i event => terminal event = true → anyBusy s.enc = true →
      anyBusy (clearBusy i s.enc) = false → s.testing = [] ∧ s.toMark = false
  | .test _ => True

instance (s : Sys) : (input : Input) → Decidable (Apart s input)
  | .kickoff _ => inferInstanceAs (Decidable (s.testing = []))
  | .turn => inferInstanceAs (Decidable True)
  | .report i event => inferInstanceAs (Decidable (terminal event = true → anyBusy s.enc = true →
      anyBusy (clearBusy i s.enc) = false → s.testing = [] ∧ s.toMark = false))
  | .test _ => inferInstanceAs (Decidable True)

/-! ## The mask -/

theorem anyBusy_iff (e : Enc) : anyBusy e = true ↔ ∃ i, busy e i = true := by
  rw [anyBusy, List.any_eq_true]
  constructor
  · intro ⟨phys, member, marked⟩
    obtain ⟨i, here⟩ := List.mem_iff_getElem?.mp member
    exact ⟨i, by rw [busy, here, Option.any_some, marked]⟩
  · intro ⟨i, marked⟩
    rw [busy] at marked
    cases here : e.physEncs[i]? with
    | none =>
      rw [here] at marked
      cases marked
    | some phys =>
      rw [here, Option.any_some] at marked
      exact ⟨phys, List.mem_of_getElem? here, marked⟩

variable {k : ℕ}

variable {e : Enc}

theorem kickoffTurn_visitAll {e' : Enc} {front rest : List Phys} (phys : Phys) (same : e' = { e with
      physEncs := (visitAll e.activeCfg front e.ctls).physEncs ++ phys :: rest
      ctls := (visitAll e.activeCfg front e.ctls).ctls }) :
    kickoffTurn front.length (visitAll e.activeCfg front e.ctls).pending e' =
      ({ e with
          physEncs := (visitAll e.activeCfg (front ++ [phys]) e.ctls).physEncs ++ rest
          ctls := (visitAll e.activeCfg (front ++ [phys]) e.ctls).ctls },
        (visitAll e.activeCfg (front ++ [phys]) e.ctls).pending) := by
  have length : (visitAll e.activeCfg front e.ctls).physEncs.length = front.length := by
    rw [physEncs_visitAll, List.length_map]
  have here : e'.physEncs[front.length]? = some phys := by
    simp [same, length]
  have before : e'.physEncs.take front.length = (visitAll e.activeCfg front e.ctls).physEncs := by
    rw [same, ← length]
    exact List.take_left
  have after : e'.physEncs.drop (front.length + 1) = rest := by
    rw [same, ← length]
    simp [List.drop_append]
  rw [kickoffTurn, here]
  dsimp only
  rw [before, after, same, visitAll_append, visit_eq, visit_eq]

/-- The turns of a kickoff that nothing comes in between of, and its end, are the kickoff as a
    whole. -/
theorem turns_kickoffPhys {front rest : List Phys} (all : e.physEncs = front ++ rest) {s : Sys}
    (enc : s.enc = { e with
      physEncs := (visitAll e.activeCfg front e.ctls).physEncs ++ rest
      ctls := (visitAll e.activeCfg front e.ctls).ctls })
    (turn : s.turn = some (front.length, (visitAll e.activeCfg front e.ctls).pending)) :
    (run Sys.step s (List.replicate (rest.length + 1) .turn)).enc = (kickoffPhys e).1 := by
  induction rest generalizing front s with
  | nil =>
    have finished : ¬front.length < s.enc.physEncs.length := by
      simp [enc, physEncs_visitAll]
    rw [List.append_nil] at all
    show (s.step .turn).enc = _
    rw [Sys.step, turn]
    dsimp only
    rw [if_neg finished, kickoffPhys, all, enc, List.append_nil]
    rfl
  | cons phys rest ih =>
    have inside : front.length < s.enc.physEncs.length := by
      simp [enc, physEncs_visitAll]
    have next := kickoffTurn_visitAll phys enc
    rw [List.length_cons, List.replicate_succ, run_cons]
    refine @ih (front ++ [phys]) (all.trans (List.append_assoc front [phys] rest).symm) _ ?_ ?_
    · rw [Sys.step, turn]
      dsimp only
      rw [if_pos inside, next]
    · rw [Sys.step, turn]
      dsimp only
      rw [if_pos inside, next, List.length_append]
      rfl

/-! ## Runs -/

structure Tracked (s : Sys) : Prop where
  marks : ∀ i, busy s.enc i = (s.frame.awaited i && !s.frame.reported i)
  reported : ∀ i, s.frame.reported i = true → s.frame.awaited i = true
  later : ∀ k pending, s.turn = some (k, pending) → ∀ i, k ≤ i → s.frame.awaited i = false
  ready : s.turn.isSome ∨ s.frame.Awaited → s.registered = true ∧ s.enc.curMaster ≠ none
  single : anyBusy s.enc = false → s.testing.length ≤ 1
  looks : ∀ event ∈ s.testing, terminal event = true ∧ s.frame.Awaited ∧
    (s.toMark = true → anyBusy s.enc = true)
  running : anyBusy s.enc = true ∨ s.toMark = true → s.frame.ends = 0
  ended : anyBusy s.enc = false → s.toMark = false → s.frame.Awaited →
    s.frame.ends = if s.testing = [] then 1 else 0
  idle : ¬s.frame.Awaited → s.frame.ends = 0
  past : ∀ frame ∈ s.past, (frame.Awaited → frame.ends = 1) ∧ (¬frame.Awaited → frame.ends = 0)

section Step

variable {s : Sys}

theorem Tracked.awaited (tracked : Tracked s) (running : anyBusy s.enc = true) :
    s.frame.Awaited := by
  obtain ⟨i, marked⟩ := (anyBusy_iff s.enc).mp running
  rw [tracked.marks i, Bool.and_eq_true] at marked
  exact ⟨i, marked.1⟩

variable {pending : FlushCfg}

theorem ends_tell (frame : Frame) (told : Option Event) :
    (frame.tell told).ends = frame.ends + told.toList.countP terminal :=
  List.countP_append

/-- What the CRTC is told without an end changes nothing that is tracked. -/
theorem Tracked.tell (tracked : Tracked s) {told : Option Event}
    (silent : told.toList.countP terminal = 0) : Tracked { s with frame := s.frame.tell told } := by
  have same : (s.frame.tell told).ends = s.frame.ends := by rw [ends_tell, silent, Nat.add_zero]
  exact
    { tracked with
      running := fun left => same.trans (tracked.running left)
      ended := fun unmarked nothing awaited => same.trans (tracked.ended unmarked nothing awaited)
      idle := fun unawaited => same.trans (tracked.idle unawaited) }

end Step

end DisplayDrivers.Encoder.Kickoff.FrameEvents
