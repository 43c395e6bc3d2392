import DisplayDrivers.Lib.Buffer

/-! # The sideband messages of the MST simulator (`msm/dp/dp_mst_sim_helper.c`)

A host writes a down request to the simulator in AUX transactions.

A copy that would leave an array, or a negative length, is a `Fault`: nothing is said about what the
driver does from there on.
-/

namespace DisplayDrivers.DpMst

open DisplayDrivers.Lib

abbrev U8 := BitVec 8
abbrev U16 := BitVec 16

/-! ## Checksums -/

def bits (b : U8) : List Bool := (List.range 8).map b.getMsbD

/-- One round of the loops of `drm_dp_msg_header_crc4`. -/
def headerCrcStep (remainder : U8) (bit : Bool) : U8 :=
  let remainder := (remainder <<< 1) ||| (BitVec.ofBool bit).setWidth 8
  if remainder &&& 0x10 = 0x10 then remainder ^^^ 0x13 else remainder

def drmDpMsgHeaderCrc4 (data : List U8) (numNibbles : Nat) : U8 :=
  let remainder := ((data.flatMap bits).take (numNibbles * 4)).foldl headerCrcStep 0
  (List.replicate 4 false).foldl headerCrcStep remainder

/-- One round of the loops of `drm_dp_msg_data_crc4`.  The remainder is 16 bits wide and keeps
    what is shifted past bit 8. -/
def dataCrcStep (remainder : U16) (bit : Bool) : U16 :=
  let remainder := (remainder <<< 1) ||| (BitVec.ofBool bit).setWidth 16
  if remainder &&& 0x100 = 0x100 then remainder ^^^ 0xd5 else remainder

def drmDpMsgDataCrc4 (data : List U8) (numberOfBytes : Nat) : U8 :=
  let remainder := ((data.flatMap bits).take (numberOfBytes * 8)).foldl dataCrcStep 0
  ((List.replicate 8 false).foldl dataCrcStep remainder).setWidth 8

/-! ## Headers -/

/-- `struct drm_dp_sideband_msg_hdr`; `rad` holds the `lct / 2` bytes in use. -/
structure SidebandMsgHdr where
  lct : U8
  lcr : U8
  rad : List U8
  broadcast : Bool
  pathMsg : Bool
  msgLen : U8
  somt : Bool
  eomt : Bool
  seqno : Bool

def SidebandMsgHdr.zero : SidebandMsgHdr :=
  { lct := 0, lcr := 0, rad := [], broadcast := false, pathMsg := false, msgLen := 0,
    somt := false, eomt := false, seqno := false }

def bit (b : Bool) (position : Nat) : U8 := (BitVec.ofBool b).setWidth 8 <<< position

/-- `drm_dp_decode_sideband_msg_hdr`: the header and its length.  The buffer is zero beyond the
    bytes of the transaction. -/
def drmDpDecodeSidebandMsgHdr (buf : List U8) : Option (SidebandMsgHdr × Nat) :=
  let at' := fun i => buf.getD i 0
  let lct := (at' 0 &&& 0xf0) >>> 4
  let len := 3 + lct.toNat / 2
  if at' 0 = 0 then none
  else if buf.length < len then none
  else if drmDpMsgHeaderCrc4 buf (len * 2 - 1) &&& 0xf ≠ at' (len - 1) &&& 0xf then none
  else
    let idx := 1 + lct.toNat / 2
    some
      ({ lct := lct
         lcr := at' 0 &&& 0xf
         rad := (buf.drop 1).take (lct.toNat / 2)
         broadcast := (at' idx).getLsbD 7
         pathMsg := (at' idx).getLsbD 6
         msgLen := at' idx &&& 0x3f
         somt := (at' (idx + 1)).getLsbD 7
         eomt := (at' (idx + 1)).getLsbD 6
         seqno := (at' (idx + 1)).getLsbD 4 }, idx + 2)

def drmDpEncodeSidebandMsgHdr (hdr : SidebandMsgHdr) : List U8 :=
  let front := ((hdr.lct &&& 0xf) <<< 4 ||| (hdr.lcr &&& 0xf)) :: hdr.rad
  let buf := front ++ [bit hdr.broadcast 7 ||| bit hdr.pathMsg 6 ||| (hdr.msgLen &&& 0x3f)]
  let last := bit hdr.somt 7 ||| bit hdr.eomt 6 ||| bit hdr.seqno 4
  let crc4 := drmDpMsgHeaderCrc4 (buf ++ [last]) ((buf.length + 1) * 2 - 1)
  buf ++ [last ||| (crc4 &&& 0xf)]

/-! ## The receiver -/

/-- `struct drm_dp_sideband_msg_rx`. -/
structure SidebandMsgRx where
  chunk : Buffer U8 48
  msg : Buffer U8 256
  curchunkLen : U8
  curchunkIdx : U8
  curchunkHdrlen : U8
  curlen : U8
  haveSomt : Bool
  haveEomt : Bool
  initialHdr : SidebandMsgHdr

def SidebandMsgRx.cleared : SidebandMsgRx :=
  { chunk := Buffer.replicate 48 0, msg := Buffer.replicate 256 0, curchunkLen := 0,
    curchunkIdx := 0, curchunkHdrlen := 0, curlen := 0, haveSomt := false, haveEomt := false,
    initialHdr := .zero }

inductive Fault
  | chunkOverflow
  | msgOverflow
  | negativeLength

/-- The end of `drm_dp_sideband_msg_build`: a complete chunk is appended to the message.  Its
    checksum is computed there, and nothing is done with it. -/
def SidebandMsgRx.finishChunk (rx : SidebandMsgRx) : Except Fault SidebandMsgRx :=
  if rx.curchunkLen ≤ rx.curchunkIdx then
    if rx.curchunkLen = 0 then .error .negativeLength
    else
      match rx.msg.copyAt rx.curlen.toNat (rx.chunk.toList.take (rx.curchunkLen.toNat - 1)) with
      | none => .error .msgOverflow
      | some msg => .ok { rx with msg := msg, curlen := rx.curlen + (rx.curchunkLen - 1) }
  else .ok rx

/-- `drm_dp_sideband_msg_build`, and whether it returns `true`. -/
def drmDpSidebandMsgBuild (rx : SidebandMsgRx) (replybuf : List U8) (hdr : Bool) :
    Except Fault (SidebandMsgRx × Bool) :=
  if hdr then
    match drmDpDecodeSidebandMsgHdr replybuf with
    | none => .ok (rx, false)
    | some (recvHdr, hdrlen) =>
      if !recvHdr.somt && !rx.haveSomt then .ok (rx, false)
      else
        let rx := { rx with
          curchunkLen := recvHdr.msgLen, curchunkHdrlen := BitVec.ofNat 8 hdrlen }
        if recvHdr.somt && rx.haveSomt then .ok (rx, false)
        else
          let rx := { rx with
            initialHdr := if recvHdr.somt then recvHdr else rx.initialHdr
            haveSomt := rx.haveSomt || recvHdr.somt
            haveEomt := rx.haveEomt || recvHdr.eomt }
          let rest := BitVec.ofNat 8 (replybuf.length - hdrlen)
          let idx := if rx.curchunkLen < rest then rx.curchunkLen else rest
          match rx.chunk.copyAt 0 ((replybuf.drop hdrlen).take idx.toNat) with
          | none => .error .chunkOverflow
          | some chunk =>
            ({ rx with chunk := chunk, curchunkIdx := idx }).finishChunk.map fun rx => (rx, true)
  else
    match rx.chunk.copyAt rx.curchunkIdx.toNat replybuf with
    | none => .error .chunkOverflow
    | some chunk =>
      ({ rx with
        chunk := chunk
        curchunkIdx := rx.curchunkIdx + BitVec.ofNat 8 replybuf.length }).finishChunk.map
          fun rx => (rx, true)

def msmDpGetOneSbMsg (rx : SidebandMsgRx) (auxMsg : List U8) :
    Except Fault (SidebandMsgRx × Bool) :=
  drmDpSidebandMsgBuild rx auxMsg !rx.haveSomt

/-! ## Down requests -/

/-- What the switch on `msg->msg[0]` and `host_req` are given. -/
structure DownRequest where
  seqno : Bool
  msg : Buffer U8 256
  curlen : U8

inductive Received
  | refused
  | pending
  | dispatched (req : DownRequest)

/-- `msm_dp_mst_sim_down_req_internal` up to the reply. -/
def SidebandMsgRx.receive (rx : SidebandMsgRx) (auxMsg : List U8) :
    Except Fault (SidebandMsgRx × Received) :=
  match msmDpGetOneSbMsg rx auxMsg with
  | .error fault => .error fault
  | .ok (rx, false) => .ok (rx, .refused)
  | .ok (rx, true) =>
    if !rx.haveEomt then .ok (rx, .pending)
    else .ok (.cleared,
      .dispatched { seqno := rx.initialHdr.seqno, msg := rx.msg, curlen := rx.curlen })

/-- `msm_dp_mst_sim_down_req` and the work item it queues: a transaction of 256 bytes or more is
    not acknowledged. -/
def msmDpMstSimDownReq (rx : SidebandMsgRx) (auxMsg : List U8) : Except Fault SidebandMsgRx :=
  if 256 ≤ auxMsg.length then .ok rx else (rx.receive auxMsg).map Prod.fst

def SidebandMsgRx.receiveAll (rx : SidebandMsgRx) : List (List U8) → Except Fault (List Received)
  | [] => .ok []
  | auxMsg :: rest =>
    match rx.receive auxMsg with
    | .error fault => .error fault
    | .ok (rx, received) => (rx.receiveAll rest).map (received :: ·)

/-! ## Replies -/

/-- One round of the loop at the end of `msm_dp_mst_sim_down_req_internal`: the bytes put at the
    front of `dpcd`, and the new `curlen`, which has 8 bits. -/
def replyChunk (reply : Buffer U8 256) (size : Nat) (seqno : Bool) (curlen : U8) :
    List U8 × U8 :=
  let len := min (size - curlen.toNat) 44
  let data := (reply.toList.drop curlen.toNat).take len
  let next := curlen + BitVec.ofNat 8 len
  let hdr :=
    { SidebandMsgHdr.zero with
      lct := 1
      seqno := seqno
      msgLen := BitVec.ofNat 8 (len + 1)
      eomt := next.toNat = size
      somt := next.toNat = len }
  (drmDpEncodeSidebandMsgHdr hdr ++ data ++ [drmDpMsgDataCrc4 data len], next)

/-- `while (msg->curlen < size)`: the chunks that are published, if the loop comes to its end
    within some number of rounds. -/
def publish (reply : Buffer U8 256) (size : Nat) (seqno : Bool) (rounds : Nat) (curlen : U8) :
    Option (List (List U8)) :=
  if curlen.toNat < size then
    match rounds with
    | 0 => none
    | rounds + 1 =>
      let chunk := replyChunk reply size seqno curlen
      (publish reply size seqno rounds chunk.2).map (chunk.1 :: ·)
  else some []

end DisplayDrivers.DpMst
