import DisplayDrivers.DsiCmd.Transfer
import DisplayDrivers.Lib.Loop

/-! # Reading from a panel (`msm/dsi/dsi_ctrl.c`, `msm/dsi/dsi_ctrl_hw_cmn.c`)

The controller keeps the last 16 bytes of what a panel has answered in four registers. A longer
reply is read again and again from its start, each time with a larger packet, and of each window the
bytes that have been read before are left out.

What a transmission returns and what it leaves in the registers is a parameter.
-/

namespace DisplayDrivers.DsiCmd

open DisplayDrivers.Lib DisplayDrivers.Lib.Loop

def wrap32 (n : Int) : ℕ := (n % 4294967296).toNat

def int32 (n : Int) : Int := n.bmod 4294967296

/-! ## The registers -/

/-- `DSI_RDBK_DATA0` to `DSI_RDBK_DATA3` by their number, and `DSI_RDBK_DATA_CTRL`. -/
structure Rdbk where
  data : ℕ → BitVec 32
  dataCtrl : BitVec 32

def ntohl (word : BitVec 32) : BitVec 32 :=
  word.extractLsb' 0 8 ++ word.extractLsb' 8 8 ++ word.extractLsb' 16 8 ++ word.extractLsb' 24 8

def littleEndian (word : BitVec 32) : List Byte :=
  [word.extractLsb' 0 8, word.extractLsb' 8 8, word.extractLsb' 16 8, word.extractLsb' 24 8]

def Rdbk.words (rdbk : Rdbk) (cnt : ℕ) : List Byte :=
  (List.range cnt).reverse.flatMap fun j => littleEndian (ntohl (rdbk.data j))

def Rdbk.readCnt (rdbk : Rdbk) (rxByte pktSize : ℕ) : ℕ :=
  let readCnt := (rdbk.dataCtrl >>> 16).toNat
  let ackErr :=
    if rxByte = 4 then readCnt = 8 else wrap32 (readCnt - 4) = u32 (pktSize + 6)
  if ackErr then wrap32 (readCnt - 4) else readCnt

def repeatedBytes (readCnt rxByte readOffset : ℕ) : ℕ :=
  if readCnt ≤ 16 then 0
  else
    let bytesShifted := int32 (readCnt - rxByte)
    -- the header is lost first
    let dataLost := if bytesShifted ≥ 4 then bytesShifted - 4 else 0
    let remHeader := if bytesShifted ≥ 4 then 0 else 4 - bytesShifted
    wrap32 (readOffset - 4 - dataLost + remHeader)

/-- What a read leaves: the buffer, the count in `hw_read_cnt`, and how many bytes it returns. -/
structure ReadData (n : ℕ) where
  rdBuf : Buffer Byte n
  hwReadCnt : ℕ
  dlen : ℕ

/-- `dsi_ctrl_hw_cmn_get_cmd_read_data` with `rd_buf` at `start`; none is an access outside of an
    array. -/
def getCmdReadData {n : ℕ} (rdbk : Rdbk) (rxBuf : Buffer Byte n)
    (start readOffset rxByte pktSize : ℕ)
    (hwReadCnt : ℕ) : Option (ReadData n) :=
  let cnt := min (u32 (rxByte + 3) / 4) 4
  let readCnt := rdbk.readCnt rxByte pktSize
  if readCnt = 0 then some ⟨rxBuf, hwReadCnt, 0⟩
  else
    let words := rdbk.words cnt
    let repeated := repeatedBytes readCnt rxByte readOffset
    let reg := words ++ List.replicate (16 - words.length) 0
    let read :=
      if repeated = 0 then some words
      else if int32 repeated < 0 then none
      else some (reg.drop (int32 repeated).toNat)
    read.bind fun bytes => (rxBuf.copyAt start bytes).map fun rdBuf => ⟨rdBuf, readCnt, rxByte⟩

/-! ## The read -/

/-- What a read uses of `struct mipi_dsi_msg`; its buffer is there. -/
structure RxMsg where
  rxLen : ℕ

def RxMsg.shortResp (msg : RxMsg) : Bool := msg.rxLen ≤ 2

def RxMsg.totalReadLen (msg : RxMsg) : ℕ := if msg.shortResp then 4 else 10 + 6

/-- What the transmissions of the reads return, by their number, and what the read leaves in the
    registers after the two bytes that set the maximum return size. -/
structure Panel where
  setMaxReturnSize : ℕ → Int
  messageTx : ℕ → Int
  rdbk : ℕ → Byte × Byte → Rdbk

structure Pass (n : ℕ) where
  rxBuf : Buffer Byte n
  buff : ℕ
  rlen : ℕ
  rdPktSize : ℕ
  currentReadLen : ℕ
  totalBytesRead : ℕ
  hwReadCnt : ℕ
  number : ℕ

inductive Left (n : ℕ)
  | error (rc : Int) (rxBuf : Buffer Byte n)
  | read (hwReadCnt : ℕ) (rxBuf : Buffer Byte n)

/-- The payload of `dsi_set_max_return_size` -/
def maxReturnSize (size : ℕ) : Byte × Byte := (BitVec.ofNat 8 size, BitVec.ofNat 8 (size / 256))

def firstPass {n : ℕ} (msg : RxMsg) (rxBuf : Buffer Byte n) : Pass n where
  rxBuf := rxBuf
  buff := 0
  rlen := u32 msg.rxLen
  rdPktSize := if msg.shortResp then u32 msg.rxLen else if msg.rxLen < 10 then u32 msg.rxLen else 10
  currentReadLen := if msg.shortResp then 0 else 10
  totalBytesRead := 0
  hwReadCnt := 0
  number := 0

def Pass.next {n : ℕ} (pass : Pass n) (read : ReadData n) : Pass n ⊕ Option (Left n) :=
  if pass.rlen ≤ pass.currentReadLen then .inr (some (.read read.hwReadCnt read.rdBuf))
  else
    let rlen := pass.rlen - pass.currentReadLen
    -- two bytes of CRC
    let dlen := wrap32 (read.dlen - 2)
    .inl
      { rxBuf := read.rdBuf
        buff := pass.buff + dlen
        rlen := rlen
        rdPktSize := u32 (pass.rdPktSize + if rlen < 14 then rlen else 14)
        currentReadLen := 14
        totalBytesRead := u32 (pass.totalBytesRead + dlen)
        hwReadCnt := read.hwReadCnt
        number := pass.number + 1 }

/-- A pass of the loop of `dsi_message_rx`. -/
def rxPass {n : ℕ} (panel : Panel) (msg : RxMsg) (pass : Pass n) : Pass n ⊕ Option (Left n) :=
  if panel.setMaxReturnSize pass.number ≠ 0 then
    .inr (some (.error (panel.setMaxReturnSize pass.number) pass.rxBuf))
  else if panel.messageTx pass.number ≠ 0 then
    .inr (some (.error (panel.messageTx pass.number) pass.rxBuf))
  else
    match getCmdReadData (panel.rdbk pass.number (maxReturnSize pass.rdPktSize))
      pass.rxBuf pass.buff
        pass.totalBytesRead msg.totalReadLen pass.rdPktSize pass.hwReadCnt with
    | none => .inr none
    | some read =>
      if read.dlen = 0 then .inr (some (.error 0 read.rdBuf))
      else if msg.shortResp then .inr (some (.read read.hwReadCnt read.rdBuf))
      else pass.next read

/-! ## The response -/

def rxAcknowledgeAndErrorReport : Byte := 0x02
def rxGenericShortReadResponse1Byte : Byte := 0x11
def rxGenericShortReadResponse2Byte : Byte := 0x12
def rxGenericLongReadResponse : Byte := 0x1a
def rxDcsLongReadResponse : Byte := 0x1c
def rxDcsShortReadResponse1Byte : Byte := 0x21
def rxDcsShortReadResponse2Byte : Byte := 0x22

section Parse

variable {n : ℕ} (msg : RxMsg) (rxBuf : Buffer Byte n) (buff : ℕ)

/-- The first bytes of the buffer with `bytes` copied to them, if these are all there. -/
def copyBack (length : ℕ) (bytes : List Byte) (rc : Int) : Option (Int × Buffer Byte n) :=
  if bytes.length = length then (rxBuf.copyAt 0 bytes).map (rc, ·) else none

def parseShortRead1Resp : Option (Int × Buffer Byte n) :=
  if msg.rxLen ≥ 1 then copyBack rxBuf 1 ((rxBuf.toList.drop (buff + 1)).take 1) 1
    else some (0, rxBuf)

def parseShortRead2Resp : Option (Int × Buffer Byte n) :=
  if msg.rxLen ≥ 2 then copyBack rxBuf 2 ((rxBuf.toList.drop (buff + 1)).take 2) 2
    else some (0, rxBuf)

/-- `dsi_parse_long_read_resp`, with its copy taken as a move -/
def parseLongReadResp : Option (Int × Buffer Byte n) :=
  copyBack rxBuf msg.rxLen ((rxBuf.toList.drop (buff + 4)).take msg.rxLen) (int32 msg.rxLen)

def parseResponse : Option (Int × Buffer Byte n) :=
  rxBuf.toList[buff]?.bind fun cmd =>
    if cmd = rxAcknowledgeAndErrorReport then some (0, rxBuf)
    else if cmd = rxGenericShortReadResponse1Byte ∨ cmd = rxDcsShortReadResponse1Byte then
      parseShortRead1Resp msg rxBuf buff
    else if cmd = rxGenericShortReadResponse2Byte ∨ cmd = rxDcsShortReadResponse2Byte then
      parseShortRead2Resp msg rxBuf buff
    else if cmd = rxGenericLongReadResponse ∨ cmd = rxDcsLongReadResponse then
      parseLongReadResp msg rxBuf buff
    else some (0, rxBuf)

end Parse

/-- `dsi_message_rx` from where its loop is left. -/
def Left.finish {n : ℕ} (msg : RxMsg) : Left n → Option (Int × Buffer Byte n)
  | .error rc rxBuf => some (rc, rxBuf)
  | .read hwReadCnt rxBuf =>
    parseResponse msg rxBuf (if hwReadCnt < 16 ∧ msg.shortResp = false then 16 - hwReadCnt else 0)

/-- `dsi_message_rx` comes back with what it returns and the buffer that it leaves; none is an
    access outside of the buffer. -/
def MessageRx {n : ℕ} (panel : Panel) (msg : RxMsg) (rxBuf : Buffer Byte n)
    (out : Option (Int × Buffer Byte n)) : Prop :=
  ∃ left, Returns (rxPass panel msg) (firstPass msg rxBuf) left ∧ left.bind (Left.finish msg) = out

end DisplayDrivers.DsiCmd
