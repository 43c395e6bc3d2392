import DisplayDrivers.Lib.WorkQueue

/-! # The HDCP 2.x engine (`msm/sde_hdcp_2x.c`)

The client of the engine wakes it with commands; a command changes flags and queues works, and a
single worker executes the works in the order of its queue.
-/

namespace DisplayDrivers.Hdcp

open DisplayDrivers.Lib (WorkQueue)

abbrev U8 := BitVec 8
abbrev U32 := BitVec 32

inductive MsgId
  | invalidMessage
  | akeInit
  | akeSendCert
  | akeNoStoredKm
  | akeStoredKm
  | akeSendHPrime
  | akeSendPairingInfo
  | lcInit
  | lcSendLPrime
  | skeSendEks
  | repSendRecvIdList
  | repSendAck
  | repStreamManage
  | repStreamReady
  | skeSendTypeId
  | unknown (byte : U8)
deriving DecidableEq

/-- `struct sde_hdcp_2x_msg_part`. -/
structure MsgPart where
  name : String
  offset : ℕ
  length : ℕ
deriving DecidableEq

/-- `struct sde_hdcp_2x_msg_data`; `num_messages` is the length of `messages`. -/
structure MsgData where
  messages : List MsgPart
  rxStatus : ℕ
deriving DecidableEq

def hdcpMsgLookup : MsgId → MsgData
  | .akeInit => ⟨[⟨"rtx", 0x69000, 8⟩, ⟨"TxCaps", 0x69008, 3⟩], 0⟩
  | .akeSendCert =>
    ⟨[⟨"cert-rx", 0x6900B, 522⟩, ⟨"rrx", 0x69215, 8⟩, ⟨"RxCaps", 0x6921D, 3⟩], 0⟩
  | .akeNoStoredKm => ⟨[⟨"Ekpub_km", 0x69220, 128⟩], 0⟩
  | .akeStoredKm => ⟨[⟨"Ekh_km", 0x692A0, 16⟩, ⟨"m", 0x692B0, 16⟩], 0⟩
  | .akeSendHPrime => ⟨[⟨"H'", 0x692C0, 32⟩], 2⟩
  | .akeSendPairingInfo => ⟨[⟨"Ekh_km", 0x692E0, 16⟩], 4⟩
  | .lcInit => ⟨[⟨"rn", 0x692F0, 8⟩], 0⟩
  | .lcSendLPrime => ⟨[⟨"L'", 0x692F8, 32⟩], 0⟩
  | .skeSendEks => ⟨[⟨"Edkey_ks", 0x69318, 16⟩, ⟨"riv", 0x69328, 8⟩], 0⟩
  | .skeSendTypeId => ⟨[⟨"type", 0x69494, 1⟩], 0⟩
  | .repSendRecvIdList =>
    ⟨[⟨"RxInfo", 0x69330, 2⟩, ⟨"seq_num_V", 0x69332, 3⟩, ⟨"V'", 0x69335, 16⟩,
      ⟨"ridlist", 0x69345, 155⟩], 1⟩
  | .repSendAck => ⟨[⟨"V", 0x693E0, 16⟩], 0⟩
  | .repStreamManage =>
    ⟨[⟨"seq_num_M", 0x693F0, 3⟩, ⟨"k", 0x693F3, 2⟩, ⟨"streamID_Type", 0x693F5, 126⟩], 0⟩
  | .repStreamReady => ⟨[⟨"M'", 0x69473, 32⟩], 0⟩
  | .invalidMessage | .unknown _ => ⟨[], 0⟩

/-- `enum hdcp_transport_wakeup_cmd`. -/
inductive TransportCmd
  | invalid
  | sendMessage
  | recvMessage
  | statusSuccess
  | statusFailed
  | linkPoll
deriving DecidableEq

inductive DeviceType
  | hdmi
  | dp
  | dpMst
deriving DecidableEq

/-- The works of the engine, `wk_enable` to `wk_manage_stream`. -/
inductive Work
  | enable
  | disable
  | init
  | startAuth
  | msgSent
  | msgRecvd
  | timeout
  | clean
  | stream
  | wait
  | sendType
  | manageStream
deriving DecidableEq

inductive AppCmd
  | start
  | startAuth
  | stop
  | processMsg
  | setHwKey
  | queryStream
  | timeout

/-- What a call of `hdcp2_app_comm` returns and leaves in `app_data`. -/
structure AppAnswer where
  rc : Int
  response : MsgId
  responseLength : ℕ
  repeaterFlag : Bool

/-- `struct sde_hdcp_stream`; handle 0 is a stream that is not open yet. -/
structure Stream where
  virtualChannel : U8
  streamId : U8
  streamHandle : U32
  active : Bool

/-- What the client is woken with; `response` is the message in `app_data` at that time. -/
structure Delivery where
  cmd : TransportCmd
  messageData : Option MsgData
  response : MsgId
deriving DecidableEq

inductive StreamCall
  | opened (virtualChannel streamId : U8) (handle : U32)
  | closed (handle : U32)

/-- `struct sde_hdcp_2x_ctrl`, with the queue of its worker, what the client was woken with and
    the stream calls that were made during the last step. -/
structure Hdcp2x where
  appData : AppAnswer
  totalMessageLength : ℕ
  noStoredKm : Bool
  authenticated : Bool
  resendLcInit : Bool
  resendStreamManage : Bool
  hdcp2Ctx : Bool
  repeaterFlag : Bool
  updateStream : Bool
  lastMsg : MsgId
  hdcpOff : Bool
  deviceType : DeviceType
  waits : Bool
  streamHandles : List Stream
  streamCount : U8
  worker : WorkQueue Work
  delivered : List Delivery
  streamCalls : List StreamCall

/-- `sde_hdcp_2x_register`. -/
def Hdcp2x.registered : Hdcp2x :=
  { appData := ⟨0, .invalidMessage, 0, false⟩, totalMessageLength := 0, noStoredKm := false
    authenticated := false, resendLcInit := false, resendStreamManage := false, hdcp2Ctx := false
    repeaterFlag := false, updateStream := false, lastMsg := .invalidMessage, hdcpOff := true
    deviceType := .hdmi, waits := false, streamHandles := [], streamCount := 0
    worker := .empty, delivered := [], streamCalls := [] }

def execute (w : Work) (hdcp : Hdcp2x) : Hdcp2x := { hdcp with worker := hdcp.worker.queue w }

/-- `kthread_cancel_work_sync`. -/
def cancelWork (w : Work) (hdcp : Hdcp2x) : Hdcp2x := { hdcp with worker := hdcp.worker.cancel w }

/-! ## Waking the client -/

/-- `sde_hdcp_2x_get_next_message`; `none` is `-EINVAL`. -/
def getNextMessage (hdcp : Hdcp2x) (cmd : TransportCmd) : Option MsgId :=
  match hdcp.lastMsg with
  | .invalidMessage => some .akeInit
  | .akeInit => some .akeSendCert
  | .akeSendCert => some (if hdcp.noStoredKm then .akeNoStoredKm else .akeStoredKm)
  | .akeStoredKm | .akeNoStoredKm => some .akeSendHPrime
  | .akeSendHPrime => some (if hdcp.noStoredKm then .akeSendPairingInfo else .lcInit)
  | .akeSendPairingInfo => some .lcInit
  | .lcInit => some .lcSendLPrime
  | .lcSendLPrime => some (if hdcp.resendLcInit then .lcInit else .skeSendEks)
  | .skeSendEks | .skeSendTypeId =>
    if !hdcp.repeaterFlag then some .skeSendTypeId
    else if cmd = .sendMessage then some .repStreamManage else some .repSendRecvIdList
  | .repStreamReady | .repSendAck =>
    if !hdcp.repeaterFlag then some .invalidMessage
    else if cmd = .sendMessage then some .repStreamManage else some .repSendRecvIdList
  | .repSendRecvIdList => some .repSendAck
  | .repStreamManage => some .repStreamReady
  | .unknown _ => none

/-- The next message, unless it comes out as `INVALID_MESSAGE` or an error. -/
def messageFor (hdcp : Hdcp2x) (cmd : TransportCmd) : Option MsgId :=
  (getNextMessage hdcp cmd).filter (· ≠ .invalidMessage)

/-- The side effect of `sde_hdcp_2x_get_next_message`. -/
def clearResendStreamManage (hdcp : Hdcp2x) : Hdcp2x :=
  if hdcp.lastMsg = .repStreamManage then { hdcp with resendStreamManage := false } else hdcp

/-- `sde_hdcp_2x_wait_for_response`; every timeout it sets is positive. -/
def waitForResponse (hdcp : Hdcp2x) : Hdcp2x :=
  match hdcp.lastMsg with
  | .akeSendHPrime | .akeSendPairingInfo => execute .wait { hdcp with waits := true }
  | .repSendRecvIdList =>
    if !hdcp.authenticated then execute .wait { hdcp with waits := true }
    else { hdcp with waits := false }
  | _ => { hdcp with waits := false }

def deliver (cmd : TransportCmd) (messageData : Option MsgData) (hdcp : Hdcp2x) : Hdcp2x :=
  { hdcp with delivered := hdcp.delivered ++ [⟨cmd, messageData, hdcp.appData.response⟩] }

def wakeupClient (cmd : TransportCmd) (hdcp : Hdcp2x) : Hdcp2x :=
  match cmd with
  | .invalid => hdcp
  | .statusSuccess | .statusFailed => waitForResponse (deliver cmd none hdcp)
  | .sendMessage | .recvMessage | .linkPoll =>
    match messageFor hdcp cmd with
    | none =>
      { clearResendStreamManage hdcp with lastMsg := .invalidMessage }
    | some msg =>
      waitForResponse (deliver cmd (some (hdcpMsgLookup msg))
        { clearResendStreamManage hdcp with lastMsg := msg })

def sendMessage (hdcp : Hdcp2x) : Hdcp2x := wakeupClient .sendMessage hdcp

/-! ## The works -/

/-- The answers a work gets: from TrustZone, from the client that left the identity of the message
    it received in the request buffer, and whether a wait expired. -/
structure Env where
  app : AppCmd → AppAnswer
  requestId : MsgId
  openStream : U8 → U8 → Option U32
  expired : Bool
  ctx : Bool

def appComm (env : Env) (cmd : AppCmd) (hdcp : Hdcp2x) : Hdcp2x :=
  { hdcp with appData := env.app cmd }

def closeStream (hdcp : Hdcp2x) (stream : Stream) : Hdcp2x :=
  { hdcp with
    streamCalls := hdcp.streamCalls ++ [.closed stream.streamHandle]
    streamCount := hdcp.streamCount - 1 }

def clean (env : Env) (hdcp : Hdcp2x) : Hdcp2x :=
  let closed := hdcp.streamHandles.foldl closeStream { hdcp with authenticated := false }
  let empty := { closed with streamHandles := [], hdcpOff := true }
  let told := if hdcp.hdcpOff then empty else wakeupClient .statusFailed empty
  appComm env .stop told

def typeIdMessage (hdcp : Hdcp2x) : Hdcp2x :=
  { hdcp with appData := { hdcp.appData with response := .skeSendTypeId, responseLength := 1 } }

def sendType (hdcp : Hdcp2x) : Hdcp2x :=
  if hdcp.hdcpOff then hdcp
  else if hdcp.repeaterFlag then hdcp
  else sendMessage (typeIdMessage hdcp)

def stream (env : Env) (hdcp : Hdcp2x) : Hdcp2x :=
  if hdcp.hdcpOff then hdcp
  else if !hdcp.repeaterFlag then hdcp
  else if !hdcp.authenticated ∧ hdcp.appData.response ≠ .repSendAck then hdcp
  else
    let queried := appComm env .queryStream hdcp
    if queried.appData.rc ≠ 0 then queried
    else sendMessage { queried with lastMsg := .repSendAck }

def setHwKey (env : Env) (hdcp : Hdcp2x) : Hdcp2x :=
  if hdcp.authenticated then hdcp
  else
    let set := appComm env .setHwKey hdcp
    if set.appData.rc ≠ 0 then set
    else wakeupClient .statusSuccess { set with authenticated := true }

def msgSent (env : Env) (hdcp : Hdcp2x) : Hdcp2x :=
  match hdcp.appData.response with
  | .skeSendTypeId => wakeupClient .linkPoll (setHwKey env hdcp)
  | .skeSendEks =>
    if hdcp.repeaterFlag && !hdcp.hdcpOff then wakeupClient .linkPoll hdcp
    else sendMessage (typeIdMessage hdcp)
  | .repSendAck =>
    if hdcp.updateStream then execute .stream { hdcp with updateStream := false }
    else wakeupClient .linkPoll hdcp
  | _ => wakeupClient .recvMessage hdcp

def init (env : Env) (hdcp : Hdcp2x) : Hdcp2x :=
  let started := appComm env .start hdcp
  if started.appData.rc ≠ 0 then execute .clean started else started

def startAuth (env : Env) (hdcp : Hdcp2x) : Hdcp2x :=
  let started := appComm env .startAuth hdcp
  if started.appData.rc ≠ 0 then execute .clean started else sendMessage started

def timeout (env : Env) (hdcp : Hdcp2x) : Hdcp2x :=
  if hdcp.hdcpOff then hdcp
  else
    let answered := appComm env .timeout hdcp
    if answered.appData.rc ≠ 0 then execute .clean answered
    else if answered.appData.response = .lcInit then sendMessage answered
    else answered

def outMsg (hdcp : Hdcp2x) : MsgId :=
  if hdcp.appData.responseLength = 0 then .invalidMessage else hdcp.appData.response

def requestMsg (env : Env) (hdcp : Hdcp2x) : MsgId :=
  match hdcp.deviceType with
  | .dp | .dpMst => hdcp.lastMsg
  | .hdmi => env.requestId

/-- The flags `sde_hdcp_2x_msg_recvd` updates from the message TrustZone answered with. -/
def noteOutMsg (request : MsgId) (hdcp : Hdcp2x) : Hdcp2x :=
  let out := outMsg hdcp
  let noted := { hdcp with
    resendLcInit := decide (request = .lcSendLPrime ∧ out = .lcInit)
    noStoredKm := decide (out = .akeNoStoredKm) }
  if out = .skeSendEks then
    { noted with repeaterFlag := hdcp.appData.repeaterFlag, updateStream := true }
  else noted

def msgRecvd (env : Env) (hdcp : Hdcp2x) : Hdcp2x :=
  if hdcp.hdcpOff then hdcp
  else if hdcp.totalMessageLength = 0 then hdcp
  else
    let request := requestMsg env hdcp
    let processed := appComm env .processMsg hdcp
    if processed.appData.rc ≠ 0 then execute .clean processed
    else if request = .akeSendHPrime ∧ processed.noStoredKm then
      wakeupClient .recvMessage processed
    else if request = .repStreamReady ∧ outMsg processed ≠ .repStreamManage then
      if processed.resendStreamManage then
        let queried := appComm env .queryStream processed
        if queried.appData.rc ≠ 0 then execute .clean queried else sendMessage queried
      else wakeupClient .linkPoll (setHwKey env processed)
    else sendMessage (noteOutMsg request processed)

/-- `sde_hdcp_2x_wait_for_response_work`. -/
def waitWork (env : Env) (hdcp : Hdcp2x) : Hdcp2x :=
  if hdcp.hdcpOff then hdcp
  else if env.expired then { execute .clean hdcp with waits := false }
  else { hdcp with waits := false }

/-- One entry of the list in `sde_hdcp_2x_manage_stream_work`: the entry that stays, the calls
    made for it, and whether the streams are to be queried. -/
def manageEntry (env : Env) (entry : Stream) : Option Stream × List StreamCall × Bool :=
  if !entry.active then (none, [.closed entry.streamHandle], true)
  else if entry.streamHandle = 0 then
    match env.openStream entry.virtualChannel entry.streamId with
    | none => (some entry, [], false)
    | some handle =>
      (some { entry with streamHandle := handle },
        [.opened entry.virtualChannel entry.streamId handle], true)
  else (some entry, [], false)

/-- The walk over the list, with `stream_count` and `query_streams`. -/
def manageStreams (env : Env) : List Stream → Hdcp2x → Hdcp2x × List Stream × Bool
  | [], hdcp => (hdcp, [], false)
  | entry :: rest, hdcp =>
    let here := manageEntry env entry
    let walked := manageStreams env rest { hdcp with
      streamCalls := hdcp.streamCalls ++ here.2.1
      streamCount := if here.1.isNone then hdcp.streamCount - 1 else hdcp.streamCount }
    (walked.1, here.1.toList ++ walked.2.1, here.2.2 || walked.2.2)

def manageStreamWork (env : Env) (hdcp : Hdcp2x) : Hdcp2x :=
  let walked := manageStreams env hdcp.streamHandles hdcp
  let managed := { walked.1 with streamHandles := walked.2.1 }
  if walked.2.2 then
    if managed.authenticated then execute .stream managed
    else if managed.lastMsg = .repStreamManage ∨ managed.lastMsg = .repStreamReady then
      { managed with resendStreamManage := true }
    else managed
  else managed

def enableWork (env : Env) (hdcp : Hdcp2x) : Hdcp2x :=
  { hdcp with hdcp2Ctx := hdcp.hdcp2Ctx || env.ctx }

def disableWork (hdcp : Hdcp2x) : Hdcp2x := { hdcp with hdcp2Ctx := false }

def runWork (env : Env) (hdcp : Hdcp2x) : Work → Hdcp2x
  | .enable => enableWork env hdcp
  | .disable => disableWork hdcp
  | .init => init env hdcp
  | .startAuth => startAuth env hdcp
  | .msgSent => msgSent env hdcp
  | .msgRecvd => msgRecvd env hdcp
  | .timeout => timeout env hdcp
  | .clean => clean env hdcp
  | .stream => stream env hdcp
  | .wait => waitWork env hdcp
  | .sendType => sendType hdcp
  | .manageStream => manageStreamWork env hdcp

/-! ## The commands of the client -/

/-- `struct stream_info`, and whether an entry for it can be allocated. -/
structure StreamInfo where
  streamId : U8
  virtualChannel : U8
  allocated : Bool
deriving DecidableEq

/-- The test of `sde_hdcp_2x_stream_present`. -/
def Stream.isFor (info : StreamInfo) (entry : Stream) : Bool :=
  entry.virtualChannel = info.virtualChannel ∧ entry.streamId = info.streamId

/-- `sde_add_streams`, and whether the list changed. -/
def addStreams : List StreamInfo → Hdcp2x → Hdcp2x × Bool
  | [], hdcp => (hdcp, false)
  | info :: rest, hdcp =>
    if hdcp.streamHandles.any (Stream.isFor info) then addStreams rest hdcp
    else if !info.allocated then addStreams rest hdcp
    else
      let added := addStreams rest { hdcp with
        streamHandles := ⟨info.virtualChannel, info.streamId, 0, true⟩ :: hdcp.streamHandles
        streamCount := hdcp.streamCount + 1 }
      (added.1, true)

/-- What `sde_remove_streams` does to the first entry for a stream: one that was never opened is
    removed, another one is left for the work to close. -/
def removeEntry (info : StreamInfo) : List Stream → List Stream
  | [] => []
  | entry :: rest =>
    if Stream.isFor info entry then
      if entry.streamHandle = 0 then rest else { entry with active := false } :: rest
    else entry :: removeEntry info rest

/-- `sde_remove_streams`, and whether the list changed. -/
def removeStreams : List StreamInfo → Hdcp2x → Hdcp2x × Bool
  | [], hdcp => (hdcp, false)
  | info :: rest, hdcp =>
    if hdcp.streamHandles.any (Stream.isFor info) then
      let handles := removeEntry info hdcp.streamHandles
      let removed := removeStreams rest { hdcp with
        streamHandles := handles
        streamCount :=
          if handles.length < hdcp.streamHandles.length then hdcp.streamCount - 1
          else hdcp.streamCount }
      (removed.1, true)
    else removeStreams rest hdcp

/-- `enum sde_hdcp_2x_wakeup_cmd`, with the data a command brings. -/
inductive WakeupCmd
  | enable (deviceType : DeviceType)
  | disable
  | start
  | startAuth
  | stop
  | msgSendSuccess
  | msgSendFailed
  | msgSendTimeout
  | msgRecvSuccess
  | msgRecvFailed
  | msgRecvTimeout
  | queryStreamType
  | linkFailed
  | minEncLevel
  | openStreams (streams : List StreamInfo)
  | closeStreams (streams : List StreamInfo)
deriving DecidableEq

/-- The switch of `sde_hdcp_2x_wakeup`. -/
def handleCmd (hdcp : Hdcp2x) : WakeupCmd → Hdcp2x
  | .enable deviceType =>
    execute .enable { cancelWork .enable hdcp with deviceType }
  | .disable =>
    let off := { hdcp with hdcpOff := true }
    execute .disable (if hdcp.hdcpOff then off else execute .clean off)
  | .start =>
    execute .init { cancelWork .init hdcp with
      noStoredKm := false, repeaterFlag := false, updateStream := false
      lastMsg := .invalidMessage, hdcpOff := false }
  | .startAuth => execute .startAuth (cancelWork .startAuth hdcp)
  | .stop => execute .clean { hdcp with hdcpOff := true }
  | .msgSendSuccess => execute .msgSent (cancelWork .msgSent hdcp)
  | .msgSendFailed | .msgRecvFailed | .linkFailed => execute .clean hdcp
  | .msgRecvSuccess => execute .msgRecvd (cancelWork .msgRecvd hdcp)
  | .msgRecvTimeout => execute .timeout (cancelWork .timeout hdcp)
  | .queryStreamType => execute .stream (cancelWork .stream hdcp)
  | .minEncLevel =>
    let cancelled := cancelWork .sendType hdcp
    if !hdcp.repeaterFlag then execute .sendType cancelled
    else execute .stream (cancelWork .stream cancelled)
  | .openStreams streams =>
    let added := addStreams streams (cancelWork .manageStream hdcp)
    if added.2 then execute .manageStream added.1 else added.1
  | .closeStreams streams =>
    let removed := removeStreams streams (cancelWork .manageStream hdcp)
    if removed.2 then execute .manageStream removed.1 else removed.1
  | .msgSendTimeout => hdcp

/-- `kthread_flush_work(&hdcp->wk_enable)` keeps the caller until the worker is past the work. -/
def Blocked (hdcp : Hdcp2x) : Prop := hdcp.hdcp2Ctx = false ∧ hdcp.worker.Pending .enable

/-- `sde_hdcp_2x_check_valid_state`. -/
def Accepted (hdcp : Hdcp2x) (cmd : WakeupCmd) : Prop :=
  ¬ Blocked hdcp ∧ (hdcp.hdcp2Ctx = true ∨ ∃ deviceType, cmd = .enable deviceType)

instance (hdcp : Hdcp2x) : Decidable (Blocked hdcp) := inferInstanceAs (Decidable (_ ∧ _))

instance (hdcp : Hdcp2x) : (cmd : WakeupCmd) → Decidable (Accepted hdcp cmd)
  | .enable deviceType =>
    decidable_of_iff (¬ Blocked hdcp)
      ⟨fun free => ⟨free, .inr ⟨deviceType, rfl⟩⟩, fun accepted => accepted.1⟩
  | .disable | .start | .startAuth | .stop | .msgSendSuccess | .msgSendFailed | .msgSendTimeout
  | .msgRecvSuccess | .msgRecvFailed | .msgRecvTimeout | .queryStreamType | .linkFailed
  | .minEncLevel | .openStreams _ | .closeStreams _ =>
    decidable_of_iff (¬ Blocked hdcp ∧ hdcp.hdcp2Ctx = true)
      ⟨fun ⟨free, ctx⟩ => ⟨free, .inl ctx⟩, fun ⟨free, either⟩ =>
        ⟨free, either.resolve_right fun ⟨_, other⟩ => by cases other⟩⟩

def wakeup (cmd : WakeupCmd) (totalMessageLength : ℕ) (hdcp : Hdcp2x) : Hdcp2x :=
  let noted := { hdcp with totalMessageLength }
  if Accepted hdcp cmd then handleCmd noted cmd else noted

/-! ## Steps -/

inductive Input
  | wakeup (cmd : WakeupCmd) (totalMessageLength : ℕ)
  | work (env : Env)

def beginStep (hdcp : Hdcp2x) : Hdcp2x := { hdcp with delivered := [], streamCalls := [] }

def takeWork (hdcp : Hdcp2x) (rest : WorkQueue Work) : Hdcp2x :=
  { beginStep hdcp with worker := rest }

def step (hdcp : Hdcp2x) : Input → Hdcp2x
  | .wakeup cmd totalMessageLength => wakeup cmd totalMessageLength (beginStep hdcp)
  | .work env =>
    match hdcp.worker.next with
    | none => beginStep hdcp
    | some (w, rest) => runWork env (takeWork hdcp rest) w

end DisplayDrivers.Hdcp
