import DisplayDrivers.Lib.Run
import DisplayDrivers.Hdcp.Frames

/-! # Teardown of an HDCP session

A STOP sets `hdcp_off` and queues the clean work. Until that has run the session is being torn down,
from then on it is torn down; only a START brings it back (`Phase`).
-/

namespace DisplayDrivers.Hdcp

open DisplayDrivers.Lib (WorkQueue)
open DisplayDrivers.Lib.Run

inductive Phase
  | live
  | stopping
  | stopped
deriving DecidableEq

def Loud (delivery : Delivery) : Bool :=
  delivery.cmd = .statusSuccess ∨ delivery.cmd = .sendMessage ∨ delivery.cmd = .linkPoll

structure Watch where
  hdcp : Hdcp2x
  phase : Phase
  late : List Delivery

def Watch.registered : Watch := { hdcp := .registered, phase := .live, late := [] }

def nextPhase (watch : Watch) : Input → Phase
  | .wakeup cmd _ =>
    if Accepted watch.hdcp cmd then
      match cmd, watch.phase with
      | .start, _ => .live
      | .stop, .live => .stopping
      | _, phase => phase
    else watch.phase
  | .work _ =>
    if watch.phase = .stopping ∧ watch.hdcp.worker.next.map Prod.fst = some .clean then .stopped
    else watch.phase

def watchStep (watch : Watch) (input : Input) : Watch :=
  let hdcp := step watch.hdcp input
  { hdcp
    phase := nextPhase watch input
    late := match watch.phase with
      | .stopped => watch.late ++ hdcp.delivered.filter Loud
      | _ => watch.late }

def Final (watch : Watch) : Prop :=
  (watch.phase ≠ .live → (∀ w, ¬ watch.hdcp.worker.Pending w) →
    watch.hdcp.authenticated = false) ∧ watch.late = []

def NothingFollows (last : MsgId) (repeater : Bool) : Prop :=
  match last with
  | .repStreamReady | .repSendAck => repeater = false
  | .unknown _ => True
  | _ => False

def NoNextMessage (hdcp : Hdcp2x) : Prop := NothingFollows hdcp.lastMsg hdcp.repeaterFlag

def StaysSilent (hdcp : Hdcp2x) (env : Env) : Work → Prop
  | .startAuth => (env.app .startAuth).rc ≠ 0 ∨ NoNextMessage hdcp
  | .msgSent =>
    match hdcp.appData.response with
    | .skeSendTypeId => (env.app .setHwKey).rc ≠ 0 ∧ NoNextMessage hdcp
    | .skeSendEks => NoNextMessage hdcp
    | .repSendAck => hdcp.updateStream = true ∨ NoNextMessage hdcp
    | _ => True
  | _ => True

def Meets (watch : Watch) : Input → Prop
  | .wakeup _ _ => True
  | .work env => watch.phase = .stopped →
      ∀ w rest, watch.hdcp.worker.next = some (w, rest) → StaysSilent watch.hdcp env w

/-! ## What reaches the client -/

section Works
variable {hdcp : Hdcp2x} {env : Env}

theorem messageFor_none_iff (cmd : TransportCmd) :
    messageFor hdcp cmd = none ↔ NoNextMessage hdcp := by
  unfold messageFor NoNextMessage NothingFollows getNextMessage
  cases hdcp.lastMsg <;> cases hdcp.repeaterFlag <;> simp
  all_goals split <;> simp

theorem loud_deliveries_iff {cmd : TransportCmd} (loud : cmd = .sendMessage ∨ cmd = .linkPoll) :
    (deliveries hdcp cmd).filter Loud = [] ↔ NoNextMessage hdcp := by
  rw [← messageFor_none_iff cmd]
  cases loud with
  | inl send =>
    subst send
    cases next : messageFor hdcp .sendMessage <;> simp [deliveries, next, Loud]
  | inr poll =>
    subst poll
    cases next : messageFor hdcp .linkPoll <;> simp [deliveries, next, Loud]

theorem clean_off (off : hdcp.hdcpOff = true) :
    (clean env hdcp).delivered = hdcp.delivered ∧ (clean env hdcp).authenticated = false := by
  obtain ⟨calls, count, frame⟩ := clean_frame env hdcp
  rw [frame, if_pos off]
  exact ⟨rfl, rfl⟩

theorem runWork_silent (off : hdcp.hdcpOff = true) {w : Work} (start : w ≠ .startAuth)
    (sent : w ≠ .msgSent) :
    (runWork env hdcp w).delivered = hdcp.delivered ∧
      ((runWork env hdcp w).authenticated = true → hdcp.authenticated = true) := by
  cases w with
  | startAuth => exact absurd rfl start
  | msgSent => exact absurd rfl sent
  | enable => exact ⟨rfl, id⟩
  | disable => exact ⟨rfl, id⟩
  | init =>
    simp only [runWork, init]
    split <;> exact ⟨rfl, id⟩
  | clean =>
    obtain ⟨delivered, unauthenticated⟩ := @clean_off hdcp env off
    exact ⟨delivered, fun authenticated => by simp [runWork, unauthenticated] at authenticated⟩
  | manageStream =>
    obtain ⟨calls, count, frame⟩ := manageStreams_frame env hdcp.streamHandles hdcp
    simp only [runWork, manageStreamWork, frame]
    split
    · split
      · exact ⟨rfl, id⟩
      · split <;> exact ⟨rfl, id⟩
    · exact ⟨rfl, id⟩
  | msgRecvd => simp [runWork, msgRecvd, off]
  | timeout => simp [runWork, timeout, off]
  | stream => simp [runWork, stream, off]
  | wait => simp [runWork, waitWork, off]
  | sendType => simp [runWork, sendType, off]

theorem startAuth_loud_iff (quiet : hdcp.delivered = []) :
    (startAuth env hdcp).delivered.filter Loud = [] ↔ StaysSilent hdcp env .startAuth := by
  simp only [startAuth, StaysSilent]
  split
  case isTrue failed =>
    have rc : (env.app .startAuth).rc ≠ 0 := failed
    simp [execute, appComm, quiet, rc]
  case isFalse succeeded =>
    have rc : (env.app .startAuth).rc = 0 := by simpa [appComm] using succeeded
    rw [sendMessage, wakeupClient_delivered]
    change (hdcp.delivered ++ _).filter Loud = [] ↔ _
    rw [quiet, List.nil_append, loud_deliveries_iff (.inl rfl)]
    simp only [rc, ne_eq, not_true, false_or]
    exact Iff.rfl

theorem msgSent_eks (off : hdcp.hdcpOff = true) (eks : hdcp.appData.response = .skeSendEks) :
    msgSent env hdcp = sendMessage (typeIdMessage hdcp) := by
  simp [msgSent, eks, off]

theorem setHwKey_failed (unauthenticated : hdcp.authenticated = false)
    (failed : (env.app .setHwKey).rc ≠ 0) : setHwKey env hdcp = appComm env .setHwKey hdcp := by
  simp [setHwKey, unauthenticated, appComm, failed]

theorem setHwKey_delivered (unauthenticated : hdcp.authenticated = false)
    (succeeded : (env.app .setHwKey).rc = 0) :
    (setHwKey env hdcp).delivered =
      hdcp.delivered ++ [⟨.statusSuccess, none, (env.app .setHwKey).response⟩] := by
  simp [setHwKey, unauthenticated, appComm, succeeded, deliveries]

theorem msgSent_loud_iff (off : hdcp.hdcpOff = true) (unauthenticated : hdcp.authenticated = false)
    (quiet : hdcp.delivered = []) :
    (msgSent env hdcp).delivered.filter Loud = [] ↔ StaysSilent hdcp env .msgSent := by
  cases response : hdcp.appData.response
  case skeSendTypeId =>
    simp only [msgSent, StaysSilent, response, wakeupClient_delivered]
    by_cases succeeded : (env.app .setHwKey).rc = 0
    · rw [setHwKey_delivered unauthenticated succeeded]
      simp [Loud, succeeded]
    · rw [setHwKey_failed unauthenticated succeeded]
      change (hdcp.delivered ++ _).filter Loud = [] ↔ _
      rw [quiet, List.nil_append, loud_deliveries_iff (.inr rfl)]
      simp only [ne_eq, succeeded, not_false_eq_true, true_and]
      exact Iff.rfl
  case skeSendEks =>
    simp only [StaysSilent, response]
    rw [msgSent_eks off response, sendMessage, wakeupClient_delivered]
    change (hdcp.delivered ++ _).filter Loud = [] ↔ _
    rw [quiet, List.nil_append, loud_deliveries_iff (.inl rfl)]
    exact Iff.rfl
  case repSendAck =>
    simp only [msgSent, StaysSilent, response]
    cases hdcp.updateStream with
    | true => simp [execute, quiet]
    | false =>
      simp only [Bool.false_eq_true, if_false, false_or, wakeupClient_delivered, quiet,
        List.nil_append]
      exact loud_deliveries_iff (.inr rfl)
  -- every other message was sent for an answer: the client is to receive it
  all_goals
    simp only [msgSent, StaysSilent, response, wakeupClient_delivered, quiet, List.nil_append,
      deliveries, iff_true]
    cases messageFor hdcp .recvMessage <;> simp [Loud]

theorem msgSent_authenticated (unauthenticated : hdcp.authenticated = false)
    (after : (msgSent env hdcp).authenticated = true) :
    (msgSent env hdcp).delivered.filter Loud ≠ [] := by
  unfold msgSent at after ⊢
  split at after
  case h_1 =>
    by_cases succeeded : (env.app .setHwKey).rc = 0
    · rw [wakeupClient_delivered, setHwKey_delivered unauthenticated succeeded]
      simp [Loud]
    · rw [wakeupClient_authenticated, setHwKey_failed unauthenticated succeeded] at after
      exact absurd after (by simp [appComm, unauthenticated])
  all_goals
    exfalso
    revert after
    simp [sendMessage, typeIdMessage, unauthenticated]
  · split <;> simp [unauthenticated]
  · split <;> simp [execute, unauthenticated]

end Works

/-! ## Runs -/

structure Tracked (watch : Watch) : Prop where
  off : watch.phase ≠ .live → watch.hdcp.hdcpOff = true
  cleaning : watch.phase = .stopping → watch.hdcp.worker.Pending .clean
  silent : watch.phase = .stopped → watch.late = [] → watch.hdcp.authenticated = false

variable {watch : Watch}

theorem final_iff (tracked : Tracked watch) : Final watch ↔ watch.late = [] := by
  constructor
  · exact fun final => final.2
  · intro none
    refine ⟨fun down idle => ?_, none⟩
    cases phase : watch.phase with
    | live => exact absurd phase down
    | stopping => exact absurd (tracked.cleaning phase) (idle .clean)
    | stopped => exact tracked.silent phase none

theorem wakeup_delivered (cmd : WakeupCmd) (length : ℕ) (hdcp : Hdcp2x) :
    (wakeup cmd length hdcp).delivered = hdcp.delivered ∧
      (wakeup cmd length hdcp).authenticated = hdcp.authenticated := by
  simp only [wakeup]
  split
  · exact handleCmd_quiet _ cmd
  · exact ⟨rfl, rfl⟩

theorem late_nil {input : Input} (none : (watchStep watch input).late = []) : watch.late = [] := by
  revert none
  simp only [watchStep]
  split
  · intro none
    exact (List.append_eq_nil_iff.mp none).1
  · exact id

theorem Tracked.of_same {input : Input} (tracked : Tracked watch)
    (phase : (watchStep watch input).phase = watch.phase)
    (off : (watchStep watch input).hdcp.hdcpOff = watch.hdcp.hdcpOff)
    (worker : (watchStep watch input).hdcp.worker = watch.hdcp.worker)
    (authenticated : (watchStep watch input).hdcp.authenticated = watch.hdcp.authenticated) :
    Tracked (watchStep watch input) := by
  constructor
  · rw [phase, off]
    exact tracked.off
  · rw [phase, worker]
    exact tracked.cleaning
  · rw [phase, authenticated]
    exact fun stopped none => tracked.silent stopped (late_nil none)

variable {cmd : WakeupCmd}

theorem rejected_tracked (length : ℕ) (tracked : Tracked watch)
    (rejected : ¬ Accepted watch.hdcp cmd) : Tracked (watchStep watch (.wakeup cmd length)) := by
  have phase : (watchStep watch (.wakeup cmd length)).phase = watch.phase := if_neg rejected
  have hdcp : (watchStep watch (.wakeup cmd length)).hdcp =
      { beginStep watch.hdcp with totalMessageLength := length } := if_neg rejected
  apply tracked.of_same phase <;> rw [hdcp] <;> rfl

theorem accepted_tracked (length : ℕ) (tracked : Tracked watch)
    (accepted : Accepted watch.hdcp cmd) : Tracked (watchStep watch (.wakeup cmd length)) := by
  have hdcp : (watchStep watch (.wakeup cmd length)).hdcp =
      handleCmd { beginStep watch.hdcp with totalMessageLength := length } cmd := if_pos accepted
  have quiet := (handleCmd_quiet
    { beginStep watch.hdcp with totalMessageLength := length } cmd).2
  by_cases start : cmd = .start
  · have phase : (watchStep watch (.wakeup cmd length)).phase = .live := by
      rw [start] at accepted ⊢
      exact if_pos accepted
    constructor <;> simp [phase]
  by_cases stop : cmd = .stop
  · rw [stop] at accepted hdcp ⊢
    constructor
    · rw [hdcp]
      exact fun _ => rfl
    · rw [hdcp]
      exact fun _ => WorkQueue.pending_queue.mpr (.inl rfl)
    · intro stopped none
      have before : watch.phase = .stopped := by
        simp only [watchStep, nextPhase, if_pos accepted] at stopped
        cases phase : watch.phase <;> simp_all
      rw [hdcp, ← stop, quiet]
      exact tracked.silent before (late_nil none)
  · have phase : (watchStep watch (.wakeup cmd length)).phase = watch.phase := by
      simp only [watchStep, nextPhase, if_pos accepted]
      cases cmd <;> simp_all
    constructor
    · rw [phase, hdcp]
      exact fun down => handleCmd_off (tracked.off down) start
    · rw [phase, hdcp]
      exact fun stopping => handleCmd_clean (tracked.cleaning stopping)
    · rw [phase, hdcp, quiet]
      exact fun stopped none => tracked.silent stopped (late_nil none)

theorem wakeup_tracked (cmd : WakeupCmd) (length : ℕ) (tracked : Tracked watch) :
    Tracked (watchStep watch (.wakeup cmd length)) := by
  by_cases accepted : Accepted watch.hdcp cmd
  · exact accepted_tracked length tracked accepted
  · exact rejected_tracked length tracked accepted

theorem step_work {hdcp : Hdcp2x} {env : Env} {w : Work} {rest : WorkQueue Work}
    (first : hdcp.worker.next = some (w, rest)) :
    step hdcp (.work env) = runWork env (takeWork hdcp rest) w := by
  simp only [step, first]

theorem work_tracked (env : Env) (tracked : Tracked watch) :
    Tracked (watchStep watch (.work env)) := by
  cases first : watch.hdcp.worker.next with
  | none =>
    have hdcp : (watchStep watch (.work env)).hdcp = beginStep watch.hdcp := by
      simp only [watchStep, step, first]
    have phase : (watchStep watch (.work env)).phase = watch.phase := by
      simp [watchStep, nextPhase, first]
    apply tracked.of_same phase <;> rw [hdcp] <;> rfl
  | some taken =>
    obtain ⟨w, rest⟩ := taken
    have hdcp : (watchStep watch (.work env)).hdcp =
        runWork env (takeWork watch.hdcp rest) w := step_work first
    obtain ⟨grows, off⟩ := runWork_grows env (takeWork watch.hdcp rest) w
    constructor
    · rw [hdcp]
      intro down
      apply off
      apply tracked.off
      intro live
      apply down
      simp [watchStep, nextPhase, live]
    · rw [hdcp]
      intro stopping
      simp only [watchStep, nextPhase, first, Option.map_some, Option.some.injEq] at stopping
      split at stopping
      · cases stopping
      case isFalse other =>
        have remains : rest.Pending .clean := by
          rw [WorkQueue.pending_of_next first]
          exact ⟨fun same => other ⟨stopping, same.symm⟩, tracked.cleaning stopping⟩
        exact grows .clean remains
    · intro stopped none
      rw [hdcp]
      simp only [watchStep, nextPhase, first, Option.map_some, Option.some.injEq] at stopped
      split at stopped
      case isTrue cleaned =>
        have off : (takeWork watch.hdcp rest).hdcpOff = true := tracked.off (by simp [cleaned.1])
        rw [cleaned.2]
        exact (clean_off off).2
      case isFalse =>
        have before : (takeWork watch.hdcp rest).authenticated = false :=
          tracked.silent stopped (late_nil none)
        have off : (takeWork watch.hdcp rest).hdcpOff = true := tracked.off (by simp [stopped])
        have quiet : (watchStep watch (.work env)).hdcp.delivered.filter Loud = [] := by
          simp only [watchStep, stopped] at none ⊢
          exact (List.append_eq_nil_iff.mp none).2
        rw [hdcp] at quiet
        by_contra authenticated
        rw [Bool.not_eq_false] at authenticated
        by_cases sent : w = .msgSent
        · rw [sent] at authenticated quiet
          exact msgSent_authenticated before authenticated quiet
        by_cases start : w = .startAuth
        · rw [start] at authenticated
          simp only [runWork, startAuth] at authenticated
          split at authenticated
          · simp [execute, appComm, before] at authenticated
          · simp [sendMessage, appComm, before] at authenticated
        · have after := (runWork_silent off start sent).2 authenticated
          simp [before] at after

theorem late_iff (input : Input) (tracked : Tracked watch)
    (none : watch.late = []) : (watchStep watch input).late = [] ↔ Meets watch input := by
  by_cases stopped : watch.phase = .stopped
  · have late : (watchStep watch input).late =
        (step watch.hdcp input).delivered.filter Loud := by
      simp only [watchStep, stopped, none, List.nil_append]
    rw [late]
    cases input with
    | wakeup cmd length =>
      simp [step, (wakeup_delivered cmd length _).1, beginStep, Meets]
    | work env =>
      cases first : watch.hdcp.worker.next with
      | none => simp [step, first, beginStep, Meets]
      | some taken =>
        obtain ⟨w, rest⟩ := taken
        have only : Meets watch (.work env) ↔ StaysSilent watch.hdcp env w := by
          simp [Meets, stopped, first]
        have off : (takeWork watch.hdcp rest).hdcpOff = true := tracked.off (by simp [stopped])
        have quiet : (takeWork watch.hdcp rest).delivered = [] := rfl
        rw [only, step_work first]
        by_cases sent : w = .msgSent
        · have unauthenticated : (takeWork watch.hdcp rest).authenticated = false :=
            tracked.silent stopped none
          rw [sent]
          exact msgSent_loud_iff off unauthenticated quiet
        by_cases start : w = .startAuth
        · rw [start]
          exact startAuth_loud_iff quiet
        · rw [(runWork_silent off start sent).1, quiet]
          cases w with
          | startAuth => exact absurd rfl start
          | msgSent => exact absurd rfl sent
          | _ => simp [StaysSilent]
  · have same : (watchStep watch input).late = watch.late := by
      cases phase : watch.phase with
      | stopped => exact absurd phase stopped
      | live => simp only [watchStep, phase]
      | stopping => simp only [watchStep, phase]
    rw [same]
    cases input with
    | wakeup cmd length => simp [none, Meets]
    | work env => simp [none, Meets, stopped]

theorem registered_tracked : Tracked .registered where
  off live := absurd rfl live
  cleaning stopping := nomatch stopping
  silent stopped := nomatch stopped

theorem watchStep_tracked (input : Input) (tracked : Tracked watch) :
    Tracked (watchStep watch input) := by
  cases input with
  | wakeup cmd length => exact wakeup_tracked cmd length tracked
  | work env => exact work_tracked env tracked

/-- Teardown is final in a run exactly when every work that runs after the clean work of a STOP
    stays silent. -/
theorem teardown_final_iff (inputs : List Input) :
    Throughout watchStep Final .registered inputs ↔
    StepsMeet watchStep Meets .registered inputs := by
  apply throughout_iff_stepsMeet Tracked
  · intro watch input tracked
    exact watchStep_tracked input tracked
  · intro watch input tracked final
    rw [final_iff (watchStep_tracked input tracked)]
    exact late_iff input tracked final.2
  · exact registered_tracked
  · exact (final_iff registered_tracked).mpr rfl

/-- An environment where every call succeeds and leaves the same message in `app_data`. -/
def answering (response : MsgId) : Env where
  app _ := ⟨0, response, 1, false⟩
  requestId := .invalidMessage
  openStream _ _ := none
  expired := false
  ctx := true

def stopWhileSending : List Input :=
  [.wakeup (.enable .dp) 0, .work (answering .invalidMessage), .wakeup .start 0,
    .work (answering .invalidMessage), .wakeup .startAuth 0, .work (answering .akeInit),
    .wakeup .minEncLevel 0, .work (answering .invalidMessage), .wakeup .stop 0,
    .wakeup .msgSendSuccess 0, .work (answering .skeSendTypeId), .work (answering .skeSendTypeId)]

/-- The sent message authenticates the session after it was torn down. -/
theorem stopWhileSending_not_final :
    (run watchStep .registered stopWhileSending).hdcp.authenticated = true ∧
      ¬ Throughout watchStep Final .registered stopWhileSending := by
  constructor
  · decide
  · intro throughout
    have last : Final (run watchStep .registered stopWhileSending) :=
      throughout_iff_prefix.mp throughout stopWhileSending [] rfl
    have late : (run watchStep .registered stopWhileSending).late ≠ [] := by decide
    exact late last.2

end DisplayDrivers.Hdcp
