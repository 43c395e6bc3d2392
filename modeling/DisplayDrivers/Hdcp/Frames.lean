import Mathlib.Tactic.Common
import DisplayDrivers.Hdcp.Engine

/-! # What the operations of the HDCP engine leave alone

Waking the client changes `last_msg`, the wait and what was delivered, and can queue the wait work;
nothing else (`wakeupClient_frame`).
-/

namespace DisplayDrivers.Hdcp

open DisplayDrivers.Lib (WorkQueue)

variable {hdcp : Hdcp2x}

/-! ## Waking the client -/

def Extends (front back : WorkQueue Work) : Prop := ∀ w, front.Pending w → back.Pending w

theorem Extends.refl (q : WorkQueue Work) : Extends q q := fun _ pending => pending

theorem Extends.trans {first second third : WorkQueue Work} (one : Extends first second)
    (two : Extends second third) : Extends first third := fun w pending => two w (one w pending)

theorem extends_queue (q : WorkQueue Work) (w : Work) : Extends q (q.queue w) :=
  fun _ pending => WorkQueue.pending_queue.mpr (.inr pending)

theorem waitForResponse_frame (hdcp : Hdcp2x) : ∃ waits worker,
    waitForResponse hdcp = { hdcp with waits, worker } ∧ Extends hdcp.worker worker := by
  have queued : ∃ waits worker, execute .wait { hdcp with waits := true } =
      { hdcp with waits, worker } ∧ Extends hdcp.worker worker :=
    ⟨true, hdcp.worker.queue .wait, rfl, extends_queue _ _⟩
  have idle : ∃ waits worker, { hdcp with waits := false } = { hdcp with waits, worker } ∧
      Extends hdcp.worker worker := ⟨false, hdcp.worker, rfl, Extends.refl _⟩
  unfold waitForResponse
  split
  · exact queued
  · exact queued
  · split
    · exact queued
    · exact idle
  · exact idle

def deliveries (hdcp : Hdcp2x) (cmd : TransportCmd) : List Delivery :=
  match cmd with
  | .invalid => []
  | .statusSuccess | .statusFailed => [⟨cmd, none, hdcp.appData.response⟩]
  | .sendMessage | .recvMessage | .linkPoll =>
    match messageFor hdcp cmd with
    | none => []
    | some msg => [⟨cmd, some (hdcpMsgLookup msg), hdcp.appData.response⟩]

theorem clearResendStreamManage_frame (hdcp : Hdcp2x) : ∃ resendStreamManage,
    clearResendStreamManage hdcp = { hdcp with resendStreamManage } := by
  unfold clearResendStreamManage
  split
  · exact ⟨false, rfl⟩
  · exact ⟨hdcp.resendStreamManage, rfl⟩

theorem wakeupClient_frame (cmd : TransportCmd) (hdcp : Hdcp2x) :
    ∃ lastMsg resendStreamManage waits worker,
      wakeupClient cmd hdcp = { hdcp with
        lastMsg, resendStreamManage, waits, worker
        delivered := hdcp.delivered ++ deliveries hdcp cmd } ∧
      Extends hdcp.worker worker := by
  have told : ∀ messageData lastMsg, ∃ resendStreamManage waits worker,
      waitForResponse (deliver cmd messageData { clearResendStreamManage hdcp with lastMsg }) =
        { hdcp with
          lastMsg, resendStreamManage, waits, worker
          delivered := hdcp.delivered ++ [⟨cmd, messageData, hdcp.appData.response⟩] } ∧
        Extends hdcp.worker worker := by
    intro messageData lastMsg
    obtain ⟨resend, cleared⟩ := clearResendStreamManage_frame hdcp
    obtain ⟨waits, worker, frame, grows⟩ := waitForResponse_frame
      (deliver cmd messageData { clearResendStreamManage hdcp with lastMsg })
    rw [frame]
    rw [cleared] at grows ⊢
    exact ⟨resend, waits, worker, rfl, grows⟩
  have status : ∃ waits worker, waitForResponse (deliver cmd none hdcp) =
      { hdcp with
        waits, worker
        delivered := hdcp.delivered ++ [⟨cmd, none, hdcp.appData.response⟩] } ∧
      Extends hdcp.worker worker := by
    obtain ⟨waits, worker, frame, grows⟩ := waitForResponse_frame (deliver cmd none hdcp)
    rw [frame]
    exact ⟨waits, worker, rfl, grows⟩
  cases cmd with
  | invalid =>
    exact ⟨hdcp.lastMsg, hdcp.resendStreamManage, hdcp.waits, hdcp.worker, by
      simp [wakeupClient, deliveries], Extends.refl _⟩
  | statusSuccess =>
    obtain ⟨waits, worker, frame, grows⟩ := status
    exact ⟨hdcp.lastMsg, hdcp.resendStreamManage, waits, worker, frame, grows⟩
  | statusFailed =>
    obtain ⟨waits, worker, frame, grows⟩ := status
    exact ⟨hdcp.lastMsg, hdcp.resendStreamManage, waits, worker, frame, grows⟩
  | sendMessage | recvMessage | linkPoll =>
    simp only [wakeupClient, deliveries]
    cases messageFor hdcp _ with
    | none =>
      obtain ⟨resend, cleared⟩ := clearResendStreamManage_frame hdcp
      simp only [cleared, List.append_nil]
      exact ⟨.invalidMessage, resend, hdcp.waits, hdcp.worker, rfl, Extends.refl _⟩
    | some msg =>
      obtain ⟨resend, waits, worker, frame, grows⟩ := told (some (hdcpMsgLookup msg)) msg
      exact ⟨msg, resend, waits, worker, frame, grows⟩

section Wakeup
variable (cmd : TransportCmd) (hdcp : Hdcp2x)

@[simp] theorem wakeupClient_authenticated :
    (wakeupClient cmd hdcp).authenticated = hdcp.authenticated := by
  obtain ⟨_, _, _, _, frame, -⟩ := wakeupClient_frame cmd hdcp
  rw [frame]

@[simp] theorem wakeupClient_hdcpOff : (wakeupClient cmd hdcp).hdcpOff = hdcp.hdcpOff := by
  obtain ⟨_, _, _, _, frame, -⟩ := wakeupClient_frame cmd hdcp
  rw [frame]

@[simp] theorem wakeupClient_delivered :
    (wakeupClient cmd hdcp).delivered = hdcp.delivered ++ deliveries hdcp cmd := by
  obtain ⟨_, _, _, _, frame, -⟩ := wakeupClient_frame cmd hdcp
  rw [frame]

@[simp] theorem wakeupClient_streams :
    (wakeupClient cmd hdcp).streamHandles = hdcp.streamHandles ∧
      (wakeupClient cmd hdcp).streamCount = hdcp.streamCount ∧
      (wakeupClient cmd hdcp).streamCalls = hdcp.streamCalls := by
  obtain ⟨_, _, _, _, frame, -⟩ := wakeupClient_frame cmd hdcp
  rw [frame]
  exact ⟨rfl, rfl, rfl⟩

theorem wakeupClient_extends : Extends hdcp.worker (wakeupClient cmd hdcp).worker := by
  obtain ⟨_, _, _, _, frame, grows⟩ := wakeupClient_frame cmd hdcp
  rw [frame]
  exact grows

end Wakeup

/-! ## Streams -/

theorem closeStreams_frame (streams : List Stream) (hdcp : Hdcp2x) :
    ∃ streamCalls streamCount,
      streams.foldl closeStream hdcp = { hdcp with streamCalls, streamCount } := by
  induction streams generalizing hdcp with
  | nil => exact ⟨_, _, rfl⟩
  | cons entry rest ih => exact ih (closeStream hdcp entry)

variable (env : Env)

theorem manageStreams_frame (streams : List Stream) (hdcp : Hdcp2x) : ∃ streamCalls streamCount,
      (manageStreams env streams hdcp).1 = { hdcp with streamCalls, streamCount } := by
  induction streams generalizing hdcp with
  | nil => exact ⟨_, _, rfl⟩
  | cons entry rest ih => exact ih _

theorem addStreams_frame (infos : List StreamInfo) (hdcp : Hdcp2x) :
    ∃ streamHandles streamCount,
      (addStreams infos hdcp).1 = { hdcp with streamHandles, streamCount } := by
  induction infos generalizing hdcp with
  | nil => exact ⟨_, _, rfl⟩
  | cons info rest ih =>
    simp only [addStreams]
    split
    · exact ih hdcp
    · split
      · exact ih hdcp
      · exact ih _

theorem removeStreams_frame (infos : List StreamInfo) (hdcp : Hdcp2x) :
    ∃ streamHandles streamCount,
      (removeStreams infos hdcp).1 = { hdcp with streamHandles, streamCount } := by
  induction infos generalizing hdcp with
  | nil => exact ⟨_, _, rfl⟩
  | cons info rest ih =>
    simp only [removeStreams]
    split
    · exact ih _
    · exact ih hdcp

/-! ## Works -/

def SameCore (before after : Hdcp2x) : Prop :=
  before.worker = after.worker ∧ before.hdcpOff = after.hdcpOff ∧
    before.streamHandles = after.streamHandles ∧ before.streamCount = after.streamCount ∧
    before.streamCalls = after.streamCalls

structure FrameRule (R : Hdcp2x → Hdcp2x → Prop) : Prop where
  trans : ∀ {first second third}, R first second → R second third → R first third
  same : ∀ {before after}, SameCore before after → R before after
  execute : ∀ {w} hdcp, w ≠ .manageStream → R hdcp (execute w hdcp)
  wakeup : ∀ cmd hdcp, R hdcp (wakeupClient cmd hdcp)

namespace FrameRule

variable {R : Hdcp2x → Hdcp2x → Prop} {before mid : Hdcp2x} (rule : FrameRule R)

include rule

theorem queued {w : Work} (other : w ≠ .manageStream) (same : SameCore before mid) :
    R before (Hdcp.execute w mid) :=
  rule.trans (rule.same same) (rule.execute mid other)

theorem woken (cmd : TransportCmd) (same : SameCore before mid) :
    R before (wakeupClient cmd mid) :=
  rule.trans (rule.same same) (rule.wakeup cmd mid)

theorem setHwKey (hdcp : Hdcp2x) : R hdcp (setHwKey env hdcp) := by
  simp only [Hdcp.setHwKey]
  split
  · exact rule.same ⟨rfl, rfl, rfl, rfl, rfl⟩
  · split
    · exact rule.same ⟨rfl, rfl, rfl, rfl, rfl⟩
    · exact rule.woken _ ⟨rfl, rfl, rfl, rfl, rfl⟩

theorem msgSent (hdcp : Hdcp2x) : R hdcp (msgSent env hdcp) := by
  unfold Hdcp.msgSent
  split
  · exact rule.trans (rule.setHwKey env hdcp) (rule.wakeup _ _)
  · split
    · exact rule.wakeup _ _
    · exact rule.woken _ ⟨rfl, rfl, rfl, rfl, rfl⟩
  · split
    · exact rule.queued (by decide) ⟨rfl, rfl, rfl, rfl, rfl⟩
    · exact rule.wakeup _ _
  · exact rule.wakeup _ _

theorem noteOutMsg (request : MsgId) (hdcp : Hdcp2x) : R hdcp (noteOutMsg request hdcp) := by
  simp only [Hdcp.noteOutMsg]
  split <;> exact rule.same ⟨rfl, rfl, rfl, rfl, rfl⟩

theorem msgRecvd (hdcp : Hdcp2x) : R hdcp (msgRecvd env hdcp) := by
  have processed : R hdcp (appComm env .processMsg hdcp) := rule.same ⟨rfl, rfl, rfl, rfl, rfl⟩
  simp only [Hdcp.msgRecvd]
  split
  · exact rule.same ⟨rfl, rfl, rfl, rfl, rfl⟩
  · split
    · exact rule.same ⟨rfl, rfl, rfl, rfl, rfl⟩
    · split
      · exact rule.trans processed (rule.execute _ (by decide))
      · split
        · exact rule.trans processed (rule.wakeup _ _)
        · split
          · split
            · split
              · exact rule.queued (by decide) ⟨rfl, rfl, rfl, rfl, rfl⟩
              · exact rule.woken _ ⟨rfl, rfl, rfl, rfl, rfl⟩
            · exact rule.trans processed
                (rule.trans (rule.setHwKey env _) (rule.wakeup _ _))
          · exact rule.trans processed (rule.trans (rule.noteOutMsg _ _) (rule.wakeup _ _))

theorem runWork (hdcp : Hdcp2x) {w : Work} (kept : w ≠ .clean)
    (other : w ≠ .manageStream) : R hdcp (runWork env hdcp w) := by
  cases w with
  | clean => exact absurd rfl kept
  | manageStream => exact absurd rfl other
  | enable => exact rule.same ⟨rfl, rfl, rfl, rfl, rfl⟩
  | disable => exact rule.same ⟨rfl, rfl, rfl, rfl, rfl⟩
  | init =>
    simp only [Hdcp.runWork, init]
    split
    · exact rule.queued (by decide) ⟨rfl, rfl, rfl, rfl, rfl⟩
    · exact rule.same ⟨rfl, rfl, rfl, rfl, rfl⟩
  | startAuth =>
    simp only [Hdcp.runWork, startAuth]
    split
    · exact rule.queued (by decide) ⟨rfl, rfl, rfl, rfl, rfl⟩
    · exact rule.woken _ ⟨rfl, rfl, rfl, rfl, rfl⟩
  | msgSent => exact rule.msgSent env hdcp
  | msgRecvd => exact rule.msgRecvd env hdcp
  | timeout =>
    simp only [Hdcp.runWork, timeout]
    split
    · exact rule.same ⟨rfl, rfl, rfl, rfl, rfl⟩
    · split
      · exact rule.queued (by decide) ⟨rfl, rfl, rfl, rfl, rfl⟩
      · split
        · exact rule.woken _ ⟨rfl, rfl, rfl, rfl, rfl⟩
        · exact rule.same ⟨rfl, rfl, rfl, rfl, rfl⟩
  | stream =>
    simp only [Hdcp.runWork, stream]
    split
    · exact rule.same ⟨rfl, rfl, rfl, rfl, rfl⟩
    · split
      · exact rule.same ⟨rfl, rfl, rfl, rfl, rfl⟩
      · split
        · exact rule.same ⟨rfl, rfl, rfl, rfl, rfl⟩
        · split
          · exact rule.same ⟨rfl, rfl, rfl, rfl, rfl⟩
          · exact rule.woken _ ⟨rfl, rfl, rfl, rfl, rfl⟩
  | wait =>
    simp only [Hdcp.runWork, waitWork]
    split
    · exact rule.same ⟨rfl, rfl, rfl, rfl, rfl⟩
    · split
      · have cleans : R hdcp (Hdcp.execute .clean hdcp) := rule.execute hdcp (by decide)
        exact rule.trans cleans (rule.same ⟨rfl, rfl, rfl, rfl, rfl⟩)
      · exact rule.same ⟨rfl, rfl, rfl, rfl, rfl⟩
  | sendType =>
    simp only [Hdcp.runWork, sendType]
    split
    · exact rule.same ⟨rfl, rfl, rfl, rfl, rfl⟩
    · split
      · exact rule.same ⟨rfl, rfl, rfl, rfl, rfl⟩
      · exact rule.woken _ ⟨rfl, rfl, rfl, rfl, rfl⟩

end FrameRule

def Grows (before after : Hdcp2x) : Prop :=
  Extends before.worker after.worker ∧ (before.hdcpOff = true → after.hdcpOff = true)

theorem Grows.refl (hdcp : Hdcp2x) : Grows hdcp hdcp := ⟨Extends.refl _, id⟩

theorem Grows.trans {first second third : Hdcp2x} (one : Grows first second)
    (two : Grows second third) : Grows first third :=
  ⟨one.1.trans two.1, fun off => two.2 (one.2 off)⟩

theorem wakeupClient_grows {before hdcp : Hdcp2x} (cmd : TransportCmd)
    (worker : before.worker = hdcp.worker) (off : before.hdcpOff = hdcp.hdcpOff) :
    Grows before (wakeupClient cmd hdcp) := by
  constructor
  · rw [worker]
    exact wakeupClient_extends cmd hdcp
  · rw [wakeupClient_hdcpOff, off]
    exact id

theorem execute_grows (w : Work) (hdcp : Hdcp2x) : Grows hdcp (execute w hdcp) :=
  ⟨extends_queue _ _, id⟩

theorem grows_frame : FrameRule Grows where
  trans := Grows.trans
  same := by
    intro before after ⟨worker, off, _⟩
    constructor
    · rw [worker]
      exact Extends.refl _
    · rw [off]
      exact id
  execute hdcp _ := execute_grows _ hdcp
  wakeup cmd hdcp := wakeupClient_grows cmd rfl rfl

theorem clean_frame (hdcp : Hdcp2x) : ∃ streamCalls streamCount, clean env hdcp = appComm env .stop
      (if hdcp.hdcpOff then
        { hdcp with
          authenticated := false, streamCalls, streamCount, streamHandles := [], hdcpOff := true }
      else wakeupClient .statusFailed
        { hdcp with
          authenticated := false, streamCalls, streamCount, streamHandles := []
          hdcpOff := true }) := by
  obtain ⟨calls, count, frame⟩ :=
    closeStreams_frame hdcp.streamHandles { hdcp with authenticated := false }
  exact ⟨calls, count, by simp only [clean, frame]⟩

theorem clean_grows (hdcp : Hdcp2x) : Grows hdcp (clean env hdcp) := by
  obtain ⟨calls, count, frame⟩ := clean_frame env hdcp
  rw [frame]
  split
  · exact ⟨Extends.refl _, fun _ => rfl⟩
  · constructor
    · intro w pending
      exact wakeupClient_extends _ _ w pending
    · intro _
      simp [appComm]

theorem manageStreamWork_grows (hdcp : Hdcp2x) : Grows hdcp (manageStreamWork env hdcp) := by
  obtain ⟨calls, count, frame⟩ := manageStreams_frame env hdcp.streamHandles hdcp
  simp only [manageStreamWork, frame]
  split
  · split
    · exact execute_grows _ _
    · split <;> exact Grows.refl hdcp
  · exact Grows.refl hdcp

theorem runWork_grows (hdcp : Hdcp2x) (w : Work) : Grows hdcp (runWork env hdcp w) := by
  by_cases cleans : w = .clean
  · subst cleans
    exact clean_grows env hdcp
  · by_cases manages : w = .manageStream
    · subst manages
      exact manageStreamWork_grows env hdcp
    · exact grows_frame.runWork env hdcp cleans manages

/-! ## Commands -/

theorem handleCmd_quiet (hdcp : Hdcp2x) (cmd : WakeupCmd) :
    (handleCmd hdcp cmd).delivered = hdcp.delivered ∧
      (handleCmd hdcp cmd).authenticated = hdcp.authenticated := by
  cases cmd with
  | disable =>
    simp only [handleCmd]
    split <;> exact ⟨rfl, rfl⟩
  | minEncLevel =>
    simp only [handleCmd]
    split <;> exact ⟨rfl, rfl⟩
  | openStreams streams =>
    obtain ⟨_, _, frame⟩ := addStreams_frame streams (cancelWork .manageStream hdcp)
    simp only [handleCmd, frame]
    split <;> exact ⟨rfl, rfl⟩
  | closeStreams streams =>
    obtain ⟨_, _, frame⟩ := removeStreams_frame streams (cancelWork .manageStream hdcp)
    simp only [handleCmd, frame]
    split <;> exact ⟨rfl, rfl⟩
  | enable | start | startAuth | stop | msgSendSuccess | msgSendFailed | msgSendTimeout
  | msgRecvSuccess | msgRecvFailed | msgRecvTimeout | queryStreamType | linkFailed =>
    exact ⟨rfl, rfl⟩

theorem handleCmd_off {cmd : WakeupCmd} (off : hdcp.hdcpOff = true) (other : cmd ≠ .start) :
    (handleCmd hdcp cmd).hdcpOff = true := by
  cases cmd with
  | start => exact absurd rfl other
  | disable =>
    simp only [handleCmd]
    split <;> rfl
  | minEncLevel =>
    simp only [handleCmd]
    split <;> exact off
  | openStreams streams =>
    obtain ⟨_, _, frame⟩ := addStreams_frame streams (cancelWork .manageStream hdcp)
    simp only [handleCmd, frame]
    split <;> exact off
  | closeStreams streams =>
    obtain ⟨_, _, frame⟩ := removeStreams_frame streams (cancelWork .manageStream hdcp)
    simp only [handleCmd, frame]
    split <;> exact off
  | stop => rfl
  | enable | startAuth | msgSendSuccess | msgSendFailed | msgSendTimeout
  | msgRecvSuccess | msgRecvFailed | msgRecvTimeout | queryStreamType | linkFailed => exact off

theorem handleCmd_clean {cmd : WakeupCmd} (pending : hdcp.worker.Pending .clean) :
    (handleCmd hdcp cmd).worker.Pending .clean := by
  cases cmd with
  | disable =>
    simp only [handleCmd]
    split <;> simp [execute, pending]
  | minEncLevel =>
    simp only [handleCmd]
    split <;> simp [execute, cancelWork, pending]
  | openStreams streams =>
    obtain ⟨_, _, frame⟩ := addStreams_frame streams (cancelWork .manageStream hdcp)
    simp only [handleCmd, frame]
    split <;> simp [execute, cancelWork, pending]
  | closeStreams streams =>
    obtain ⟨_, _, frame⟩ := removeStreams_frame streams (cancelWork .manageStream hdcp)
    simp only [handleCmd, frame]
    split <;> simp [execute, cancelWork, pending]
  | msgSendTimeout => exact pending
  | enable | start | startAuth | stop | msgSendSuccess | msgSendFailed | msgRecvSuccess
  | msgRecvFailed | msgRecvTimeout | queryStreamType | linkFailed =>
    simp [handleCmd, execute, cancelWork, pending]

end DisplayDrivers.Hdcp
