import DisplayDrivers.Hdcp.StreamTable

/-! # The streams the client wants and the streams that are open

OPEN_STREAMS and CLOSE_STREAMS change `stream_handles`; the manage_stream work then opens and closes
handles.
-/

namespace DisplayDrivers.Hdcp.Streams

open DisplayDrivers.Lib (WorkQueue)
open DisplayDrivers.Lib.Run

structure Session where
  hdcp : Hdcp2x
  wanted : Pair → Bool
  ledger : Ledger

def Session.registered : Session :=
  { hdcp := .registered, wanted := fun _ => false, ledger := .empty }

def noteRequests (wanted : Pair → Bool) (cmd : WakeupCmd) (pair : Pair) : Bool :=
  match cmd with
  | .openStreams streams => decide (pair ∈ streams.map StreamInfo.pair) || wanted pair
  | .closeStreams streams => !decide (pair ∈ streams.map StreamInfo.pair) && wanted pair
  | _ => wanted pair

def nextWanted (session : Session) : Input → Pair → Bool
  | .wakeup cmd _ =>
    if Accepted session.hdcp cmd then noteRequests session.wanted cmd else session.wanted
  | .work _ => session.wanted

def sessionStep (session : Session) (input : Input) : Session :=
  let hdcp := step session.hdcp input
  { hdcp
    wanted := nextWanted session input
    ledger := run Ledger.record session.ledger hdcp.streamCalls }

/-- The open handles are what the client wants once the work has run, no stream was opened twice
    and no handle closed twice, and `stream_count` is right. -/
structure Correct (session : Session) : Prop where
  opened : ¬ session.hdcp.worker.Pending .manageStream → ∀ pair,
    (∃ handle, (handle, pair) ∈ session.ledger.held) ↔ session.wanted pair = true
  openedOnce : session.ledger.reopened = false
  closedOnce : session.ledger.reclosed = false
  counted : session.hdcp.streamCount.toNat = session.hdcp.streamHandles.length

def Allowed (session : Session) : Input → Prop
  | .wakeup (.openStreams streams) _ => ∀ info ∈ streams, info.allocated = true
  | .wakeup _ _ => True
  | .work env =>
    session.hdcp.worker.next.map Prod.fst ≠ some .clean ∧ Opens env ∧
      StepsMeet Ledger.record FreshCall session.ledger (step session.hdcp (.work env)).streamCalls

def Settled (wanted : Pair → Bool) (entries : List Stream) : Prop :=
  ∀ entry ∈ entries, entry.streamHandle ≠ 0 ∧ wanted entry.pair = true

/-- A command that changes nothing comes when nothing is left to do, the list stays within what
    eight bits count, and no stream the client wants again waits to be closed when the work runs. -/
def Meets (session : Session) : Input → Prop
  | .wakeup cmd _ => Accepted session.hdcp cmd →
    match cmd with
    | .openStreams streams =>
      ((∀ info ∈ streams, info.pair ∈ pairs session.hdcp) →
        Settled (noteRequests session.wanted cmd) session.hdcp.streamHandles) ∧
      (pairs session.hdcp ++ streams.map StreamInfo.pair).dedup.length < 256
    | .closeStreams streams =>
      (∀ info ∈ streams, info.pair ∉ pairs session.hdcp) →
        Settled session.wanted session.hdcp.streamHandles
    | _ => True
  | .work _ => session.hdcp.worker.next.map Prod.fst = some .manageStream →
    ∀ entry ∈ session.hdcp.streamHandles, entry.active = false → session.wanted entry.pair = false

/-! ## The invariant -/

structure Consistent (session : Session) : Prop where
  counted : Counted session.ledger session.hdcp
  requested : ∀ entry ∈ session.hdcp.streamHandles, entry.active = true →
    session.wanted entry.pair = true
  listed : ∀ pair, session.wanted pair = true → pair ∈ pairs session.hdcp

theorem registered_consistent : Consistent .registered where
  counted := ⟨table_empty, rfl⟩
  requested := fun _ listed => nomatch listed
  listed := fun _ wants => nomatch wants

variable {session : Session}

theorem held_iff_open (table : Table session.ledger session.hdcp.streamHandles) {entry : Stream}
    (listed : entry ∈ session.hdcp.streamHandles) :
    (∃ handle, (handle, entry.pair) ∈ session.ledger.held) ↔ entry.streamHandle ≠ 0 := by
  constructor
  · intro ⟨handle, held⟩
    obtain ⟨nonzero, owner, owns, same, number⟩ := (table.held_iff handle entry.pair).mp held
    obtain rfl : owner = entry := List.inj_on_of_nodup_map table.once owns listed same
    exact number ▸ nonzero
  · intro opened
    exact ⟨entry.streamHandle, (table.held_iff _ _).mpr ⟨opened, entry, listed, rfl, rfl⟩⟩

theorem opened_iff_settled (consistent : Consistent session) :
    (∀ pair, (∃ handle, (handle, pair) ∈ session.ledger.held) ↔ session.wanted pair = true) ↔
      Settled session.wanted session.hdcp.streamHandles := by
  have table := consistent.counted.table
  constructor
  · intro follows entry listed
    have opened : entry.streamHandle ≠ 0 := by
      cases active : entry.active with
      | false => exact table.closing entry listed active
      | true =>
        have wants := consistent.requested entry listed active
        exact (held_iff_open table listed).mp ((follows entry.pair).mpr wants)
    exact ⟨opened, (follows entry.pair).mp ((held_iff_open table listed).mpr opened)⟩
  · intro settled pair
    constructor
    · intro ⟨handle, held⟩
      obtain ⟨_, entry, listed, rfl, _⟩ := (table.held_iff handle pair).mp held
      exact (settled entry listed).2
    · intro wants
      obtain ⟨entry, listed, rfl⟩ := List.mem_map.mp (consistent.listed pair wants)
      exact (held_iff_open table listed).mpr (settled entry listed).1

theorem count_iff {hdcp : Hdcp2x} {ledger : Ledger} (counted : Counted ledger hdcp) :
    hdcp.streamCount.toNat = hdcp.streamHandles.length ↔ hdcp.streamHandles.length < 256 := by
  rw [counted.count, BitVec.toNat_ofNat]
  omega

theorem correct_iff (consistent : Consistent session) :
    Correct session ↔
      (¬ session.hdcp.worker.Pending .manageStream →
        Settled session.wanted session.hdcp.streamHandles) ∧
      session.hdcp.streamHandles.length < 256 := by
  rw [← opened_iff_settled consistent, ← count_iff consistent.counted]
  have proper := consistent.counted.table.proper
  constructor
  · intro correct
    exact ⟨correct.opened, correct.counted⟩
  · intro ⟨opened, counted⟩
    exact ⟨opened, proper.1, proper.2, counted⟩

/-! ## Steps that do not touch the streams -/

structure SameStreams (before after : Hdcp2x) : Prop where
  handles : after.streamHandles = before.streamHandles
  count : after.streamCount = before.streamCount
  calls : after.streamCalls = before.streamCalls
  pending : after.worker.Pending .manageStream ↔ before.worker.Pending .manageStream

theorem execute_same {w : Work} (hdcp : Hdcp2x) (other : w ≠ .manageStream) :
    SameStreams hdcp (execute w hdcp) where
  handles := rfl
  count := rfl
  calls := rfl
  pending := by simp [execute, other.symm]

theorem waitForResponse_same (hdcp : Hdcp2x) : SameStreams hdcp (waitForResponse hdcp) := by
  have queued : SameStreams hdcp (execute .wait { hdcp with waits := true }) :=
    ⟨rfl, rfl, rfl, (execute_same hdcp (by decide)).pending⟩
  have idle : SameStreams hdcp { hdcp with waits := false } := ⟨rfl, rfl, rfl, Iff.rfl⟩
  unfold waitForResponse
  split
  · exact queued
  · exact queued
  · split
    · exact queued
    · exact idle
  · exact idle

theorem wakeupClient_same (cmd : TransportCmd) (hdcp : Hdcp2x) :
    SameStreams hdcp (wakeupClient cmd hdcp) := by
  obtain ⟨resend, cleared⟩ := clearResendStreamManage_frame hdcp
  obtain ⟨handles, count, calls⟩ := wakeupClient_streams cmd hdcp
  have pending : (wakeupClient cmd hdcp).worker.Pending .manageStream ↔
      hdcp.worker.Pending .manageStream := by
    cases cmd with
    | invalid => exact Iff.rfl
    | statusSuccess | statusFailed => exact (waitForResponse_same (deliver _ none hdcp)).pending
    | sendMessage | recvMessage | linkPoll =>
      simp only [wakeupClient, cleared]
      cases messageFor hdcp _ with
      | none => exact Iff.rfl
      | some msg => exact (waitForResponse_same (deliver _ _ _)).pending
  exact ⟨handles, count, calls, pending⟩

theorem streams_frame : FrameRule SameStreams where
  trans one two :=
    ⟨two.handles.trans one.handles, two.count.trans one.count, two.calls.trans one.calls,
      two.pending.trans one.pending⟩
  same := by
    intro before after ⟨worker, _, handles, count, calls⟩
    exact ⟨handles.symm, count.symm, calls.symm, by rw [worker]⟩
  execute hdcp other := execute_same hdcp other
  wakeup := wakeupClient_same

def AboutStreams : WakeupCmd → Prop
  | .openStreams _ | .closeStreams _ => True
  | _ => False

variable {cmd : WakeupCmd}

theorem handleCmd_same (other : ¬ AboutStreams cmd) (hdcp : Hdcp2x) :
    SameStreams hdcp (handleCmd hdcp cmd) := by
  cases cmd with
  | openStreams => exact absurd trivial other
  | closeStreams => exact absurd trivial other
  | disable =>
    simp only [handleCmd]
    split <;> exact ⟨rfl, rfl, rfl, by simp [execute]⟩
  | minEncLevel =>
    simp only [handleCmd]
    split <;> exact ⟨rfl, rfl, rfl, by simp [execute, cancelWork]⟩
  | msgSendTimeout => exact ⟨rfl, rfl, rfl, Iff.rfl⟩
  | enable | start | startAuth | stop | msgSendSuccess | msgSendFailed | msgRecvSuccess
  | msgRecvFailed | msgRecvTimeout | queryStreamType | linkFailed =>
    exact ⟨rfl, rfl, rfl, by simp [handleCmd, execute, cancelWork]⟩

structure Quiet (session next : Session) : Prop where
  handles : next.hdcp.streamHandles = session.hdcp.streamHandles
  count : next.hdcp.streamCount = session.hdcp.streamCount
  pending : next.hdcp.worker.Pending .manageStream ↔ session.hdcp.worker.Pending .manageStream
  wanted : next.wanted = session.wanted
  ledger : next.ledger = session.ledger

variable {next : Session}

theorem Quiet.consistent (quiet : Quiet session next)
    (consistent : Consistent session) : Consistent next where
  counted := by
    constructor
    · rw [quiet.handles, quiet.ledger]
      exact consistent.counted.table
    · rw [quiet.handles, quiet.count]
      exact consistent.counted.count
  requested := by
    rw [quiet.handles, quiet.wanted]
    exact consistent.requested
  listed := by
    rw [pairs, quiet.handles, quiet.wanted]
    exact consistent.listed

theorem Quiet.correct (quiet : Quiet session next) (correct : Correct session) : Correct next where
  opened := by
    rw [quiet.pending, quiet.wanted, quiet.ledger]
    exact correct.opened
  openedOnce := quiet.ledger ▸ correct.openedOnce
  closedOnce := quiet.ledger ▸ correct.closedOnce
  counted := by
    rw [quiet.handles, quiet.count]
    exact correct.counted

theorem quiet_of_same {input : Input} (wanted : nextWanted session input = session.wanted)
    (same : SameStreams (beginStep session.hdcp) (step session.hdcp input)) :
    Quiet session (sessionStep session input) where
  handles := same.handles
  count := same.count
  pending := same.pending
  wanted := wanted
  ledger := by simp only [sessionStep, same.calls]; rfl

theorem wakeup_quiet (length : ℕ) (quiet : Accepted session.hdcp cmd → ¬ AboutStreams cmd) :
    Quiet session (sessionStep session (.wakeup cmd length)) := by
  by_cases accepted : Accepted session.hdcp cmd
  · have other := quiet accepted
    apply quiet_of_same
    · funext pair
      simp only [nextWanted, if_pos accepted]
      cases cmd with
      | openStreams => exact absurd trivial other
      | closeStreams => exact absurd trivial other
      | enable | disable | start | startAuth | stop | msgSendSuccess | msgSendFailed
      | msgSendTimeout | msgRecvSuccess | msgRecvFailed | msgRecvTimeout | queryStreamType
      | linkFailed | minEncLevel => rfl
    · simp only [step, wakeup]
      rw [if_pos (show Accepted (beginStep session.hdcp) cmd from accepted)]
      have same := handleCmd_same other { beginStep session.hdcp with totalMessageLength := length }
      exact ⟨same.handles, same.count, same.calls, same.pending⟩
  · apply quiet_of_same
    · simp only [nextWanted, if_neg accepted]
    · simp only [step, wakeup]
      rw [if_neg (show ¬ Accepted (beginStep session.hdcp) cmd from accepted)]
      exact ⟨rfl, rfl, rfl, Iff.rfl⟩

theorem work_quiet (env : Env) (kept : session.hdcp.worker.next.map Prod.fst ≠ some .clean)
    (other : session.hdcp.worker.next.map Prod.fst ≠ some .manageStream) :
    Quiet session (sessionStep session (.work env)) := by
  apply quiet_of_same rfl
  simp only [step]
  cases first : session.hdcp.worker.next with
  | none => exact ⟨rfl, rfl, rfl, Iff.rfl⟩
  | some taken =>
    obtain ⟨w, rest⟩ := taken
    rw [first] at kept other
    have cleans : w ≠ .clean := fun same => kept (by rw [same]; rfl)
    have manages : w ≠ .manageStream := fun same => other (by rw [same]; rfl)
    have same := streams_frame.runWork env (takeWork session.hdcp rest) cleans manages
    have pending : rest.Pending .manageStream ↔ session.hdcp.worker.Pending .manageStream := by
      rw [WorkQueue.pending_of_next first]
      simp [manages.symm]
    exact ⟨same.handles, same.count, same.calls, same.pending.trans pending⟩

/-! ## The commands for streams -/

def cancelled (session : Session) (length : ℕ) : Hdcp2x :=
  cancelWork .manageStream { beginStep session.hdcp with totalMessageLength := length }

/-- What a command for streams leaves behind: the list as `changed` has it, and the work queued
    only if that says so. -/
structure Handled (session next : Session) (cmd : WakeupCmd) (changed : Hdcp2x × Bool) : Prop where
  handles : next.hdcp.streamHandles = changed.1.streamHandles
  count : next.hdcp.streamCount = changed.1.streamCount
  pending : next.hdcp.worker.Pending .manageStream ↔ changed.2 = true
  wanted : next.wanted = noteRequests session.wanted cmd
  ledger : next.ledger = session.ledger

variable {length : ℕ}

variable {changed : Hdcp2x × Bool}

theorem handled_of_step (accepted : Accepted session.hdcp cmd)
    (handled : handleCmd { beginStep session.hdcp with totalMessageLength := length } cmd =
      if changed.2 then execute .manageStream changed.1 else changed.1)
    (worker : changed.1.worker = (cancelled session length).worker)
    (calls : changed.1.streamCalls = []) :
    Handled session (sessionStep session (.wakeup cmd length)) cmd changed := by
  have stepped : step session.hdcp (.wakeup cmd length) =
      if changed.2 then execute .manageStream changed.1 else changed.1 := by
    rw [← handled]
    exact if_pos accepted
  exact {
    handles := by
      simp only [sessionStep, stepped]
      split <;> rfl
    count := by
      simp only [sessionStep, stepped]
      split <;> rfl
    pending := by
      have idle : ¬ changed.1.worker.Pending .manageStream := by
        rw [worker]
        simp [cancelled, cancelWork]
      simp only [sessionStep, stepped]
      split
      case isTrue again => simp [execute, again]
      case isFalse kept => simp [idle, kept]
    wanted := by
      funext pair
      simp only [sessionStep, nextWanted, if_pos accepted]
    ledger := by
      simp only [sessionStep, stepped]
      split <;> simp [execute, calls] }

variable {streams : List StreamInfo}

theorem open_handled (length : ℕ) (accepted : Accepted session.hdcp (.openStreams streams)) :
    Handled session (sessionStep session (.wakeup (.openStreams streams) length))
      (.openStreams streams) (addStreams streams (cancelled session length)) := by
  obtain ⟨handles, count, frame⟩ := addStreams_frame streams (cancelled session length)
  apply handled_of_step accepted
  · rfl
  · rw [frame]
  · rw [frame]
    rfl

theorem close_handled (length : ℕ) (accepted : Accepted session.hdcp (.closeStreams streams)) :
    Handled session (sessionStep session (.wakeup (.closeStreams streams) length))
      (.closeStreams streams) (removeStreams streams (cancelled session length)) := by
  obtain ⟨handles, count, frame⟩ := removeStreams_frame streams (cancelled session length)
  apply handled_of_step accepted
  · rfl
  · rw [frame]
  · rw [frame]
    rfl

theorem Handled.counted
    (handled : Handled session next cmd changed) (counted : Counted session.ledger changed.1) :
    Counted next.ledger next.hdcp := by
  constructor
  · rw [handled.handles, handled.ledger]
    exact counted.table
  · rw [handled.handles, handled.count]
    exact counted.count

theorem cancelled_counted (consistent : Consistent session) (length : ℕ) :
    Counted session.ledger (cancelled session length) :=
  ⟨consistent.counted.table, consistent.counted.count⟩

theorem open_consistent (allocated : ∀ info ∈ streams, info.allocated = true)
    (accepted : Accepted session.hdcp (.openStreams streams)) (consistent : Consistent session) :
    Consistent (sessionStep session (.wakeup (.openStreams streams) length)) := by
  have handled := open_handled length accepted
  constructor
  · exact handled.counted (addStreams_counted allocated (cancelled_counted consistent length))
  · intro entry listed active
    rw [handled.handles] at listed
    rw [handled.wanted]
    simp only [noteRequests, Bool.or_eq_true, decide_eq_true_eq]
    cases mem_addStreams allocated listed with
    | inl old => exact .inr (consistent.requested entry old active)
    | inr named => exact .inl named
  · intro pair wants
    rw [handled.wanted] at wants
    simp only [noteRequests, Bool.or_eq_true, decide_eq_true_eq] at wants
    rw [pairs, handled.handles]
    apply (mem_pairs_addStreams allocated pair).mpr
    cases wants with
    | inl named => exact .inr named
    | inr wants => exact .inl (consistent.listed pair wants)

theorem close_consistent
    (accepted : Accepted session.hdcp (.closeStreams streams)) (consistent : Consistent session) :
    Consistent (sessionStep session (.wakeup (.closeStreams streams) length)) := by
  have handled := close_handled length accepted
  have counted := cancelled_counted consistent length
  obtain ⟨stay, old⟩ := removeStreams_rest streams counted
  constructor
  · exact handled.counted (removeStreams_counted counted)
  · intro entry listed active
    rw [handled.handles] at listed
    obtain ⟨before, unnamed⟩ := old entry listed active
    rw [handled.wanted]
    simp [noteRequests, unnamed, consistent.requested entry before active]
  · intro pair wants
    rw [handled.wanted] at wants
    simp only [noteRequests, Bool.and_eq_true, Bool.not_eq_true', decide_eq_false_iff_not] at wants
    rw [pairs, handled.handles]
    exact stay pair (consistent.listed pair wants.2) wants.1

theorem open_length
    (allocated : ∀ info ∈ streams, info.allocated = true) (consistent : Consistent session) :
    (addStreams streams (cancelled session length)).1.streamHandles.length =
      (pairs session.hdcp ++ streams.map StreamInfo.pair).dedup.length := by
  have counted := addStreams_counted allocated (cancelled_counted consistent length)
  have same : (pairs (addStreams streams (cancelled session length)).1).Perm
      (pairs session.hdcp ++ streams.map StreamInfo.pair).dedup := by
    apply (List.perm_ext_iff_of_nodup counted.table.once (List.nodup_dedup _)).mpr
    intro pair
    rw [List.mem_dedup, List.mem_append]
    exact mem_pairs_addStreams allocated pair
  rw [← same.length_eq, List.length_map]

theorem open_correct_iff (allocated : ∀ info ∈ streams, info.allocated = true)
    (accepted : Accepted session.hdcp (.openStreams streams)) (consistent : Consistent session) :
    Correct (sessionStep session (.wakeup (.openStreams streams) length)) ↔
      Meets session (.wakeup (.openStreams streams) length) := by
  have handled := open_handled length accepted
  rw [correct_iff (open_consistent allocated accepted consistent), handled.pending, handled.handles,
    handled.wanted, open_length allocated consistent]
  simp only [Meets, accepted, true_implies]
  apply and_congr_left
  intro _
  have changed := addStreams_changed (cancelled session length) allocated
  constructor
  · intro settled present
    have unchanged := addStreams_unchanged (cancelled session length) present
    rw [unchanged] at settled
    exact settled Bool.false_ne_true
  · intro settled kept
    rw [changed] at kept
    push Not at kept
    rw [addStreams_unchanged (cancelled session length) kept]
    exact settled kept

theorem close_correct_iff
    (accepted : Accepted session.hdcp (.closeStreams streams)) (consistent : Consistent session)
    (correct : Correct session) :
    Correct (sessionStep session (.wakeup (.closeStreams streams) length)) ↔
      Meets session (.wakeup (.closeStreams streams) length) := by
  have handled := close_handled length accepted
  have room : (removeStreams streams (cancelled session length)).1.streamHandles.length < 256 :=
    Nat.lt_of_le_of_lt (removeStreams_length _ _) ((correct_iff consistent).mp correct).2
  rw [correct_iff (close_consistent accepted consistent), handled.pending, handled.handles,
    handled.wanted]
  simp only [Meets, accepted, true_implies, room, and_true]
  have changed := removeStreams_changed streams (cancelled session length)
  -- an entry of a stream that is not named is wanted as before
  have same (absent : ∀ info ∈ streams, info.pair ∉ pairs session.hdcp) :
      Settled (noteRequests session.wanted (.closeStreams streams)) session.hdcp.streamHandles ↔
        Settled session.wanted session.hdcp.streamHandles := by
    apply forall₂_congr
    intro entry listed
    have unnamed : entry.pair ∉ streams.map StreamInfo.pair := by
      intro named
      obtain ⟨info, among, same⟩ := List.mem_map.mp named
      exact absent info among (same ▸ List.mem_map_of_mem listed)
    simp [noteRequests, unnamed]
  constructor
  · intro settled absent
    have unchanged := removeStreams_unchanged (cancelled session length) absent
    rw [unchanged] at settled
    exact (same absent).mp (settled Bool.false_ne_true)
  · intro settled kept
    rw [changed] at kept
    push Not at kept
    rw [removeStreams_unchanged (cancelled session length) kept]
    exact (same kept).mpr (settled kept)

/-! ## The work -/

theorem manageStreamWork_same (env : Env) (hdcp : Hdcp2x) :
    SameStreams
      { (manageStreams env hdcp.streamHandles hdcp).1 with
        streamHandles := (manageStreams env hdcp.streamHandles hdcp).2.1 }
      (manageStreamWork env hdcp) := by
  simp only [manageStreamWork]
  split
  · split
    · exact streams_frame.execute _ (by decide)
    · split <;> exact streams_frame.same ⟨rfl, rfl, rfl, rfl, rfl⟩
  · exact streams_frame.same ⟨rfl, rfl, rfl, rfl, rfl⟩

section Manage
variable {env : Env} {rest : WorkQueue Work}

theorem manage_step (opens : Opens env)
    (first : session.hdcp.worker.next = some (.manageStream, rest))
    (consistent : Consistent session) :
    (step session.hdcp (.work env)).streamHandles = staying env session.hdcp.streamHandles ∧
      (step session.hdcp (.work env)).streamCount =
        BitVec.ofNat 8 (staying env session.hdcp.streamHandles).length ∧
      (step session.hdcp (.work env)).streamCalls = walkCalls env session.hdcp.streamHandles ∧
      ¬ (step session.hdcp (.work env)).worker.Pending .manageStream := by
  obtain ⟨handles, calls⟩ :=
    manageStreams_eq env session.hdcp.streamHandles (takeWork session.hdcp rest)
  obtain ⟨_, _, frame⟩ :=
    manageStreams_frame env session.hdcp.streamHandles (takeWork session.hdcp rest)
  have count := manageStreams_count (takeWork session.hdcp rest) opens 0
    (by rw [Nat.zero_add]; exact consistent.counted.count)
  rw [Nat.zero_add] at count
  have same := manageStreamWork_same env (takeWork session.hdcp rest)
  have idle : ¬ (manageStreams env session.hdcp.streamHandles
      (takeWork session.hdcp rest)).1.worker.Pending .manageStream := by
    rw [frame]
    intro pending
    exact ((WorkQueue.pending_of_next first _).mp pending).1 rfl
  simp only [step, first, runWork]
  exact ⟨same.handles.trans handles, same.count.trans count, same.calls.trans calls,
    fun pending => idle (same.pending.mp pending)⟩

variable (opens : Opens env)
  (fresh : StepsMeet Ledger.record FreshCall session.ledger
    (step session.hdcp (.work env)).streamCalls)
  (first : session.hdcp.worker.next = some (.manageStream, rest))
  (consistent : Consistent session)
include opens fresh first consistent

theorem manage_counted : Counted (sessionStep session (.work env)).ledger
    (sessionStep session (.work env)).hdcp := by
  obtain ⟨handles, count, calls, _⟩ := manage_step opens first consistent
  rw [calls] at fresh
  constructor
  · simp only [sessionStep, handles, calls]
    have before : Table session.ledger (session.hdcp.streamHandles ++ []) := by
      simpa using consistent.counted.table
    simpa using walk_table opens before fresh
  · simp only [sessionStep, handles, count]

theorem manage_consistent (returning : ∀ entry ∈ session.hdcp.streamHandles,
    entry.active = false → session.wanted entry.pair = false) :
    Consistent (sessionStep session (.work env)) := by
  obtain ⟨handles, _⟩ := manage_step opens first consistent
  have stays := staying_pairs session.hdcp.streamHandles opens
  constructor
  · exact manage_counted opens fresh first consistent
  · intro entry listed _
    simp only [sessionStep, handles] at listed
    have active : entry.pair ∈ (session.hdcp.streamHandles.filter (·.active)).map Stream.pair :=
      stays ▸ List.mem_map_of_mem listed
    obtain ⟨before, kept, same⟩ := List.mem_map.mp active
    obtain ⟨old, active⟩ := List.mem_filter.mp kept
    exact same ▸ consistent.requested before old active
  · intro pair wants
    simp only [sessionStep, pairs, handles]
    rw [stays]
    obtain ⟨entry, listed, rfl⟩ := List.mem_map.mp (consistent.listed pair wants)
    have active : entry.active = true := by
      cases active : entry.active with
      | true => rfl
      | false =>
        have left := returning entry listed active
        exact nomatch left.symm.trans wants
    exact List.mem_map_of_mem (List.mem_filter.mpr ⟨listed, active⟩)

theorem manage_correct (correct : Correct session)
    (returning : ∀ entry ∈ session.hdcp.streamHandles,
      entry.active = false → session.wanted entry.pair = false) :
    Correct (sessionStep session (.work env)) := by
  obtain ⟨handles, _, calls, _⟩ := manage_step opens first consistent
  have next := manage_consistent opens fresh first consistent returning
  rw [correct_iff next]
  rw [calls] at fresh
  constructor
  · intro _ entry listed
    have listed' := listed
    simp only [sessionStep, handles] at listed'
    obtain ⟨active, opened⟩ := staying_open opens fresh entry listed'
    exact ⟨opened, next.requested entry listed active⟩
  · have room := ((correct_iff consistent).mp correct).2
    simp only [sessionStep, handles]
    exact Nat.lt_of_le_of_lt (List.length_filterMap_le _ _) room

theorem returning_of_correct (correct : Correct (sessionStep session (.work env))) :
    ∀ entry ∈ session.hdcp.streamHandles,
      entry.active = false → session.wanted entry.pair = false := by
  obtain ⟨handles, _, _, idle⟩ := manage_step opens first consistent
  have table := (manage_counted opens fresh first consistent).table
  have stays := staying_pairs session.hdcp.streamHandles opens
  intro entry listed inactive
  by_contra wants
  rw [Bool.not_eq_false] at wants
  -- the stream would have an open handle, hence an entry that was active
  obtain ⟨handle, held⟩ := (correct.opened idle entry.pair).mpr wants
  obtain ⟨_, owner, owns, same, _⟩ := (table.held_iff handle entry.pair).mp held
  simp only [sessionStep, handles] at owns
  have active : entry.pair ∈ (session.hdcp.streamHandles.filter (·.active)).map Stream.pair := by
    rw [← stays, ← same]
    exact List.mem_map_of_mem owns
  obtain ⟨before, kept, same⟩ := List.mem_map.mp active
  obtain ⟨old, stayed⟩ := List.mem_filter.mp kept
  obtain rfl := List.inj_on_of_nodup_map consistent.counted.table.once old listed same
  exact nomatch inactive.symm.trans stayed

end Manage

/-! ## Runs -/

theorem first_of_head {w : Work}
    (head : session.hdcp.worker.next.map Prod.fst = some w) :
    ∃ rest, session.hdcp.worker.next = some (w, rest) := by
  obtain ⟨⟨v, rest⟩, first, same⟩ := Option.map_eq_some_iff.mp head
  exact ⟨rest, same ▸ first⟩

theorem meets_of_quiet (length : ℕ) (quiet : Accepted session.hdcp cmd → ¬ AboutStreams cmd) :
    Meets session (.wakeup cmd length) := by
  intro accepted
  have other := quiet accepted
  cases cmd with
  | openStreams => exact absurd trivial other
  | closeStreams => exact absurd trivial other
  | enable | disable | start | startAuth | stop | msgSendSuccess | msgSendFailed
  | msgSendTimeout | msgRecvSuccess | msgRecvFailed | msgRecvTimeout | queryStreamType
  | linkFailed | minEncLevel => trivial

theorem step_correct (input : Input) (allowed : Allowed session input)
    (consistent : Consistent session) (correct : Correct session) :
    (Correct (sessionStep session input) ↔ Meets session input) ∧
      (Meets session input → Consistent (sessionStep session input)) := by
  cases input with
  | wakeup cmd length =>
    by_cases about : Accepted session.hdcp cmd ∧ AboutStreams cmd
    · obtain ⟨accepted, about⟩ := about
      cases cmd with
      | openStreams streams =>
        exact ⟨open_correct_iff allowed accepted consistent, fun _ =>
          open_consistent allowed accepted consistent⟩
      | closeStreams streams =>
        exact ⟨close_correct_iff accepted consistent correct, fun _ =>
          close_consistent accepted consistent⟩
      | enable | disable | start | startAuth | stop | msgSendSuccess | msgSendFailed
      | msgSendTimeout | msgRecvSuccess | msgRecvFailed | msgRecvTimeout | queryStreamType
      | linkFailed | minEncLevel => exact about.elim
    · have other : Accepted session.hdcp cmd → ¬ AboutStreams cmd :=
        fun accepted streams => about ⟨accepted, streams⟩
      have quiet := wakeup_quiet length other
      exact ⟨iff_of_true (quiet.correct correct) (meets_of_quiet length other), fun _ =>
        quiet.consistent consistent⟩
  | work env =>
    obtain ⟨kept, opens, fresh⟩ := allowed
    by_cases head : session.hdcp.worker.next.map Prod.fst = some .manageStream
    · obtain ⟨rest, first⟩ := first_of_head head
      constructor
      · constructor
        · intro good _
          exact returning_of_correct opens fresh first consistent good
        · intro meets
          exact manage_correct opens fresh first consistent correct (meets head)
      · intro meets
        exact manage_consistent opens fresh first consistent (meets head)
    · have quiet := work_quiet env kept head
      exact ⟨iff_of_true (quiet.correct correct) fun manages => absurd manages head, fun _ =>
        quiet.consistent consistent⟩

theorem registered_correct : Correct .registered := by
  rw [correct_iff registered_consistent]
  exact ⟨fun _ _ listed => (nomatch listed), by decide⟩

/-- The open handles follow the client throughout a run exactly when no step of it drops work that
    is left to do, brings a stream back too early or overflows the count. -/
theorem streams_correct_iff {inputs : List Input}
    (allows : StepsMeet sessionStep Allowed .registered inputs) :
    Throughout sessionStep Correct .registered inputs ↔
      StepsMeet sessionStep Meets .registered inputs := by
  apply throughout_iff_stepsMeet_good Consistent
  · intro session input allowed consistent correct good
    obtain ⟨same, keeps⟩ := step_correct input allowed consistent correct
    exact keeps (same.mp good)
  · intro session input allowed consistent correct
    exact (step_correct input allowed consistent correct).1
  · exact registered_consistent
  · exact registered_correct
  · exact allows

def opening (handle : U32) : Env where
  app _ := ⟨0, .invalidMessage, 0, false⟩
  requestId := .invalidMessage
  openStream _ _ := some handle
  expired := false
  ctx := true

def streamA : StreamInfo := { streamId := 1, virtualChannel := 0, allocated := true }

/-- A stream is opened, once though it is asked for twice, closed and opened again. -/
def openCloseOpen : List Input :=
  [.wakeup (.enable .dpMst) 0, .work (opening 7), .wakeup (.openStreams [streamA, streamA]) 0,
    .work (opening 7), .wakeup (.closeStreams [streamA]) 0, .work (opening 7),
    .wakeup (.openStreams [streamA]) 0, .work (opening 7)]

theorem streams_correct_iff_openCloseOpen :
    Throughout sessionStep Correct .registered openCloseOpen ↔
      StepsMeet sessionStep Meets .registered openCloseOpen := by
  have allowed : ∀ info ∈ [streamA, streamA], info.allocated = true := by decide
  have one : ∀ info ∈ [streamA], info.allocated = true := by decide
  have opens : Opens (opening 7) := fun _ _ => rfl
  exact streams_correct_iff
    ⟨trivial, ⟨by decide, opens, by decide⟩, allowed, ⟨by decide, opens, by decide⟩, trivial,
      ⟨by decide, opens, by decide⟩, one, ⟨by decide, opens, by decide⟩, trivial⟩

def openTwice : List Input :=
  [.wakeup (.enable .dpMst) 0, .work (opening 7), .wakeup (.openStreams [streamA]) 0,
    .wakeup (.openStreams [streamA]) 0]

/-- The second request cancels the work of the first, and the stream is never opened. -/
theorem openTwice_not_correct :
    StepsMeet sessionStep Allowed .registered openTwice ∧
      ¬ Throughout sessionStep Correct .registered openTwice := by
  have one : ∀ info ∈ [streamA], info.allocated = true := by decide
  constructor
  · exact ⟨trivial, ⟨by decide, fun _ _ => rfl, by decide⟩, one, one, trivial⟩
  · intro throughout
    have last : Correct (run sessionStep .registered openTwice) :=
      throughout_iff_prefix.mp throughout openTwice [] rfl
    have wants : (run sessionStep .registered openTwice).wanted streamA.pair = true := by decide
    obtain ⟨handle, held⟩ := (last.opened (by decide) streamA.pair).mpr wants
    have none_held : (run sessionStep .registered openTwice).ledger.held = [] := by decide
    rw [none_held] at held
    exact nomatch held

end DisplayDrivers.Hdcp.Streams
