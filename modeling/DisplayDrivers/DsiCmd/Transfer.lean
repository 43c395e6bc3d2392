import DisplayDrivers.Lib.Buffer
import DisplayDrivers.Lib.Run
import Mathlib.Data.BitVec

/-! # DSI command transfer (`msm/dsi/dsi_ctrl.c`)

Commands are gathered in one buffer until the last command of a batch comes and the buffer is handed
to the hardware.

Which packet the MIPI library makes of a message is a parameter.
-/

namespace DisplayDrivers.DsiCmd

open DisplayDrivers.Lib

abbrev Byte := BitVec 8

def eNoMem : Int := -12

def eInval : Int := -22

def eTimedOut : Int := -110

def eNotSupp : Int := -524

/-- `SZ_4K`, the size of the command buffer. -/
def sz4K : ℕ := 4096

def dsiEmbeddedModeDmaMaxSizeBytes : ℕ := 256

def dsiCtrlMaxCmdFifoStoreSize : ℕ := 64

def u32 (n : ℕ) : ℕ := n % 2 ^ 32

/-- `struct mipi_dsi_msg` to write; `tx_len` is the length of the buffer. -/
structure Msg where
  channel : ℕ := 0
  type : Byte
  txBuf : List Byte
  lastCommand : Bool

/-- `struct mipi_dsi_packet`; `size` counts the header and the payload. -/
structure Packet where
  header : Fin 4 → Byte
  payload : List Byte

def Packet.size (packet : Packet) : ℕ := 4 + packet.payload.length

/-- `DSI_CTRL_CMD_*` -/
structure Flags where
  broadcast : Bool := false
  deferTrigger : Bool := false
  fifoStore : Bool := false
  fetchMemory : Bool := false
  nonEmbeddedMode : Bool := false

inductive Mode
  | embedded
  | nonEmbedded
  | fifo

structure Kickoff where
  mode : Mode
  bytes : List Byte
  messages : List (ℕ × Msg)

/-- What the transfer needs of `struct dsi_ctrl`.  The messages are numbered as they are given;
    `batch` has those that have been put in the buffer since it was last handed to the hardware, and
    `corrupt` says that something was written behind the buffer. -/
structure DsiCtrl where
  vaddr : Buffer Byte sz4K := Buffer.replicate sz4K 0
  cmdLen : ℕ := 0
  secureMode : Bool := false
  kickoffFifoCommand : Bool := true
  kickoffCommandNonEmbeddedMode : Bool := true
  given : ℕ := 0
  batch : List (ℕ × Msg) := []
  kickoffs : List Kickoff := []
  accepted : List ℕ := []
  acceptedLast : List ℕ := []
  corrupt : Bool := false

structure Answers where
  checkState : Int := 0
  devmKzalloc : Bool := true
  cmdDmaDone : Bool := true

/-! ## Packets -/

/-- The types that are read commands: `MIPI_DSI_DCS_READ` and
    `MIPI_DSI_GENERIC_READ_REQUEST_*_PARAM`. -/
def readTypes : List Byte := [0x06, 0x04, 0x14, 0x24]

/-- The loop of `dsi_ctrl_copy_and_pad_cmd`, for the length aligned to 32 bits. -/
def Packet.copyAndPad (packet : Packet) : List Byte :=
  let len := u32 (u32 packet.size + 3) / 4 * 4
  (List.range len).map fun i =>
    if packet.size ≤ i then 0xFF
    else if h : i < 4 then packet.header ⟨i, h⟩ else packet.payload.getD (i - 4) 0

/-- `dsi_ctrl_copy_and_pad_cmd` once it has its memory. -/
def Packet.paddedCmd (packet : Packet) : List Byte :=
  let buf := packet.copyAndPad
  let buf := if 0 < packet.payload.length then buf.modify 3 (· ||| 0x40) else buf
  -- send embedded BTA for read commands
  if buf.getD 2 0 &&& 0x3f ∈ readTypes then buf.modify 3 (· ||| 0x20) else buf

/-- `dsi_message_tx` where it sets the last command bit in the header. -/
def lastCmdBit (lastCommand : Bool) (buffer : List Byte) : List Byte :=
  if lastCommand then buffer.modify 3 (· ||| 0x80) else buffer

/-! ## The mode of transmission -/

def DsiCtrl.setupTxMode (s : DsiCtrl) (cmdLen : ℕ) (flags : Flags) : Flags :=
  if s.secureMode then { flags with fetchMemory := false, fifoStore := true }
  else if dsiEmbeddedModeDmaMaxSizeBytes < u32 (cmdLen + 4) then
    { flags with nonEmbeddedMode := true }
  else flags

def DsiCtrl.validateTxMode (s : DsiCtrl) (cmdLen : ℕ) (flags : Flags) : Int :=
  if flags.fifoStore && (dsiCtrlMaxCmdFifoStoreSize < u32 (cmdLen + 4) ||
    !s.kickoffFifoCommand) then eNotSupp
  else if flags.nonEmbeddedMode &&
      (flags.broadcast || !s.kickoffCommandNonEmbeddedMode || sz4K < u32 (cmdLen + 4)) then eNotSupp
  else if flags.fetchMemory && sz4K < u32 (s.cmdLen + cmdLen + 4) then eNotSupp
  else 0

/-! ## The transfer -/

def DsiCtrl.write (s : DsiCtrl) (start : ℕ) (bytes : List Byte) : DsiCtrl :=
  match s.vaddr.copyAt start bytes with
  | some vaddr => { s with vaddr }
  | none => { s with corrupt := true }

/-- `dsi_message_tx` from `kickoff` on. -/
def DsiCtrl.kickoff (s : DsiCtrl) (handed : Option Kickoff) (flags : Flags) (answers : Answers) :
    DsiCtrl × Int :=
  let s := { s with kickoffs := s.kickoffs ++ handed.toList }
  if flags.deferTrigger then (s, 0)
  else
    (if flags.nonEmbeddedMode then { s with cmdLen := 0 } else s, if answers.cmdDmaDone then 0
      else eTimedOut)

/-- `dsi_message_tx` in non-embedded mode. -/
def DsiCtrl.txNonEmbedded (s : DsiCtrl) (msg : Msg) (flags : Flags) (answers : Answers) :
    DsiCtrl × Int :=
  let length := msg.txBuf.length
  let s := { s with cmdLen := u32 length }.write 0 msg.txBuf
  s.kickoff (if flags.fetchMemory then some ⟨.nonEmbedded, s.vaddr.toList.take length,
    [(s.given, msg)]⟩ else none)
    flags answers

/-- `dsi_message_tx` where it puts the command in the buffer. -/
def DsiCtrl.txEmbedded (s : DsiCtrl) (msg : Msg) (buffer : List Byte) (flags : Flags)
    (answers : Answers) :
    DsiCtrl × Int :=
  let s := s.write s.cmdLen buffer
  let s := { s with cmdLen := u32 (s.cmdLen + buffer.length), batch := s.batch ++ [(s.given, msg)] }
  if !msg.lastCommand then (s, 0)
  else
    { s with cmdLen := 0, batch := [] }.kickoff
      (some ⟨.embedded, s.vaddr.toList.take s.cmdLen, s.batch⟩)
      flags answers

/-- `dsi_message_tx`; `mipi_dsi_create_packet` is the parameter. -/
def DsiCtrl.messageTx (createPacket : Msg → Option Packet) (s : DsiCtrl) (msg : Msg) (flags : Flags)
    (answers : Answers) : DsiCtrl × Int :=
  let txLen := u32 msg.txBuf.length
  let flags := s.setupTxMode txLen flags
  if s.validateTxMode txLen flags ≠ 0 then (s, eNotSupp)
  else if flags.nonEmbeddedMode then s.txNonEmbedded msg flags answers
  else match createPacket msg with
    | none => (s, eInval)
    | some packet =>
      if !answers.devmKzalloc then (s, eNoMem)
      else
        let buffer := lastCmdBit msg.lastCommand packet.paddedCmd
        if flags.fetchMemory then s.txEmbedded msg buffer flags answers
        else if flags.fifoStore then s.kickoff
          (some ⟨.fifo, buffer, [(s.given, msg)]⟩) flags answers
        else s.kickoff none flags answers

/-- `dsi_ctrl_cmd_transfer` of a message to write. -/
def DsiCtrl.cmdTransfer (createPacket : Msg → Option Packet) (s : DsiCtrl) (msg : Msg)
    (flags : Flags)
    (answers : Answers) : DsiCtrl × Int :=
  if answers.checkState ≠ 0 then (s, answers.checkState) else s.messageTx createPacket
    msg flags answers

/-! ## Runs -/

inductive Input
  | cmdTransfer (msg : Msg) (flags : Flags) (answers : Answers)
  | secure (secureMode : Bool)

def step (createPacket : Msg → Option Packet) (s : DsiCtrl) : Input → DsiCtrl
  | .cmdTransfer msg flags answers =>
    let (s', rc) := s.cmdTransfer createPacket msg flags answers
    { s' with
      given := s.given + 1
      accepted := s.accepted ++ if rc = 0 then [s.given] else []
      acceptedLast := s.acceptedLast ++ if rc = 0 ∧ msg.lastCommand = true then [s.given] else [] }
  -- the callback of the address space, when a secure session starts or ends
  | .secure secureMode => { s with secureMode }

end DisplayDrivers.DsiCmd
