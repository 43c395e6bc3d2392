import DisplayDrivers.Lib.Probe
import DisplayDrivers.DpMst.Sideband
import Mathlib.Data.List.Count

/-! # The replies of the MST simulator

The `msm_dp_sideband_build_*_rep` functions take the request from `down_req.msg` and write the reply
to `down_rep.msg` from its first byte on.
-/

namespace DisplayDrivers.DpMst

open DisplayDrivers.Lib

abbrev U32 := BitVec 32

/-! ## Ports -/

/-- `struct msm_dp_mst_sim_port`; `edid` is what the pointer leads to. -/
structure SimPort where
  input : Bool
  mcs : Bool
  ddps : Bool
  pdt : U8
  ldps : Bool
  dpcdRev : U8
  peerGuid : Buffer U8 16
  numSdpStreams : U8
  numSdpStreamSinks : U8
  fullPbn : U32
  availPbn : U32
  edid : Option (Nat → U8)
  edidSize : U32

/-- The fields of `struct msm_dp_mst_sim_context` that the builders use; `port_num` is the length of
    `ports`. -/
structure SimContext where
  guid : Buffer U8 16
  ports : List SimPort

def EINVAL : Int := 22
def ENOMEM : Int := 12

def SimPort.copied (port : SimPort) : SimPort :=
  { port with
    edid := port.edid.map fun edid k => if k < port.edidSize.toNat then edid k else 0 }

/-- The loop of `msm_dp_mst_sim_update`; `allocated k` is whether the `k`-th allocation succeeds. -/
def copyPorts (allocated : Nat → Bool) : Nat → List SimPort → Except Int (List SimPort)
  | _, [] => .ok []
  | k, port :: rest =>
    if port.edidSize ≠ 0 then
      if port.edid.isNone then .error (-EINVAL)
      else if allocated k then (copyPorts allocated (k + 1) rest).map (port.copied :: ·)
      else .error (-ENOMEM)
    else (copyPorts allocated k rest).map (port :: ·)

/-- `msm_dp_mst_sim_update` on a context; where it fails, the ports of the context are freed. -/
def msmDpMstSimUpdate (ctx : SimContext) (ports : List SimPort) (allocated : Nat → Bool) :
    Except Int SimContext :=
  if 15 ≤ ports.length then .error (-EINVAL)
  else if allocated 0 then
    (copyPorts allocated 1 ports).map fun ports => { ctx with ports := ports }
  else .error (-ENOMEM)

/-! ## What a builder reads -/

/-- A byte of `down_req.msg`, or of the EDID of a port. -/
inductive Place
  | request (i : Nat)
  | edid (port k : Nat)

/-- The memory at the places; behind `down_req.msg` the request is the rest of the context. -/
def SimContext.memory (ctx : SimContext) (request : Nat → U8) : Place → U8
  | .request i => request i
  | .edid port k => ((ctx.ports[port]?.bind SimPort.edid).map (· k)).getD 0

abbrev Reply := Probe Place (List U8)

section

variable (ctx : SimContext) (request : Nat → U8)

/-- `ctx->down_req.msg[i]` -/
def SimContext.downReq (i : Nat) : Probe Place U8 := Probe.read (ctx.memory request) (.request i)

def DP_LINK_ADDRESS : U8 := 0x01
def DP_ENUM_PATH_RESOURCES : U8 := 0x10
def DP_ALLOCATE_PAYLOAD : U8 := 0x11
def DP_CLEAR_PAYLOAD_ID_TABLE : U8 := 0x14
def DP_REMOTE_I2C_READ : U8 := 0x22
def DP_POWER_UP_PHY : U8 := 0x24
def DP_POWER_DOWN_PHY : U8 := 0x25

def msmDpSidebandBuildNakRep : Reply := do
  let command ← ctx.downReq request 0
  pure ([command ||| 0x80] ++ ctx.guid.toList ++ [0x4, 0])

/-! ## Link addresses -/

def flag (b : Bool) (value : U8) : U8 := if b then value else 0

/-- One round of the loop of `msm_dp_sideband_build_link_address_rep`. -/
def portInfo (i : Nat) (port : SimPort) : List U8 :=
  let number := flag port.input 0x80 ||| port.pdt <<< 4 ||| (BitVec.ofNat 8 i &&& 0xF)
  let state := flag port.mcs 0x80 ||| flag port.ddps 0x40
  -- an input port ends here; the others say what is behind them
  if port.input then [number, state]
  else
    [number, state ||| flag port.ldps 0x20, port.dpcdRev] ++ port.peerGuid.toList ++
      [port.numSdpStreams <<< 4 ||| port.numSdpStreamSinks]

def msmDpSidebandBuildLinkAddressRep : Reply :=
  pure ([DP_LINK_ADDRESS] ++ ctx.guid.toList ++ [BitVec.ofNat 8 ctx.ports.length] ++
    (ctx.ports.mapIdx portInfo).flatten)

/-! ## Remote I2C reads -/

def DDC_SEGMENT_ADDR : U8 := 0x30
def DDC_ADDR : U8 := 0x50
def EDID_LENGTH : Nat := 128

/-- `struct drm_dp_remote_i2c_read_tx`; `bytes` is an index into the request. -/
structure I2cTransaction where
  i2cDevId : U8
  numBytes : U8
  bytes : Nat
  noStopBit : U8
  i2cTransactionDelay : U8

def readTransactions : (numTransactions idx : Nat) → Probe Place (List I2cTransaction × Nat)
  | 0, idx => pure ([], idx)
  | n + 1, idx => do
    let device ← ctx.downReq request idx
    let numBytes ← ctx.downReq request (idx + 1)
    -- the byte behind the data, wherever the request puts it
    let stop ← ctx.downReq request (idx + 2 + numBytes.toNat)
    let rest ← readTransactions n (idx + 3 + numBytes.toNat)
    pure
      ({ i2cDevId := device &&& 0x7f
         numBytes := numBytes
         bytes := idx + 2
         noStopBit := (stop >>> 4) &&& 0x1
         i2cTransactionDelay := stop &&& 0xf } :: rest.1, rest.2)

def I2cTransaction.Sets (transaction : I2cTransaction) (device : U8) : Prop :=
  transaction.i2cDevId = device ∧ transaction.numBytes = 1

instance (transaction : I2cTransaction) (device : U8) : Decidable (transaction.Sets device) :=
  inferInstanceAs (Decidable (_ ∧ _))

def startOf : List I2cTransaction → Probe Place (Option Nat)
  | [address] =>
    if address.Sets DDC_ADDR then do
      let offset ← ctx.downReq request address.bytes
      pure (some offset.toNat)
    else pure none
  | [segment, address] =>
    if segment.Sets DDC_SEGMENT_ADDR ∧ address.Sets DDC_ADDR then do
      let block ← ctx.downReq request segment.bytes
      let offset ← ctx.downReq request address.bytes
      pure (some (block.toNat * EDID_LENGTH * 2 + offset.toNat))
    else pure none
  | _ => pure none

def edidBytes (port start len : Nat) : Probe Place (List U8) :=
  Probe.readAll (ctx.memory request) ((List.range len).map fun k => .edid port (start + k))

def msmDpSidebandBuildRemoteI2cReadRep : Reply := do
  let head ← ctx.downReq request 1
  match ctx.ports[(head >>> 4).toNat]? with
  | none => msmDpSidebandBuildNakRep ctx request
  | some port => do
    let walk ← readTransactions ctx request (head &&& 0x3).toNat 2
    -- the device is read and not looked at
    let _readI2cDeviceId ← ctx.downReq request walk.2
    let len ← ctx.downReq request (walk.2 + 1)
    match ← startOf ctx request walk.1 with
    | none => msmDpSidebandBuildNakRep ctx request
    | some start =>
      if port.edidSize.toNat < start + len.toNat then msmDpSidebandBuildNakRep ctx request
      else do
        -- `len` is not compared with what is left of the reply
        let data ← edidBytes ctx request (head >>> 4).toNat start len.toNat
        pure ([DP_REMOTE_I2C_READ, head >>> 4, len] ++ data)

/-! ## The other replies -/

def msmDpSidebandBuildEnumPathResourcesRep : Reply := do
  let head ← ctx.downReq request 1
  match ctx.ports[(head >>> 4).toNat]? with
  | none => msmDpSidebandBuildNakRep ctx request
  | some port =>
    pure [DP_ENUM_PATH_RESOURCES, (head >>> 4) <<< 4, (port.fullPbn >>> 8).setWidth 8,
      (port.fullPbn &&& 0xFF).setWidth 8, (port.availPbn >>> 8).setWidth 8,
      (port.availPbn &&& 0xFF).setWidth 8]

def readSinks (numberSdpStreams idx : Nat) : Probe Place (List U8) :=
  Probe.readAll (ctx.memory request)
    ((List.range ((numberSdpStreams + 1) / 2)).map fun k => .request (idx + k))

def msmDpSidebandBuildAllocatePayloadRep : Reply := do
  let head ← ctx.downReq request 1
  let vcpi ← ctx.downReq request 2
  let high ← ctx.downReq request 3
  let low ← ctx.downReq request 4
  let pbn : U16 := high.setWidth 16 <<< 8 ||| low.setWidth 16
  -- before the port is looked up
  let _sdpStreamSink ← readSinks ctx request (head &&& 0xF).toNat 5
  if ctx.ports.length ≤ (head >>> 4).toNat then msmDpSidebandBuildNakRep ctx request
  else
    pure [DP_ALLOCATE_PAYLOAD, head >>> 4, vcpi, (pbn >>> 8).setWidth 8, (pbn &&& 0xFF).setWidth 8]

def msmDpSidebandBuildPowerUpdownPhyRep : Reply := do
  let head ← ctx.downReq request 1
  if ctx.ports.length ≤ (head >>> 4).toNat then msmDpSidebandBuildNakRep ctx request
  else do
    let command ← ctx.downReq request 0
    pure [command, head >>> 4]

def msmDpSidebandBuildClearPayloadIdTableRep : Reply := pure [DP_CLEAR_PAYLOAD_ID_TABLE]

end

inductive Builder
  | nak
  | linkAddress
  | remoteI2cRead
  | enumPathResources
  | allocatePayload
  | powerUpdownPhy
  | clearPayloadIdTable

def Builder.build (ctx : SimContext) (request : Nat → U8) : Builder → Reply
  | .nak => msmDpSidebandBuildNakRep ctx request
  | .linkAddress => msmDpSidebandBuildLinkAddressRep ctx
  | .remoteI2cRead => msmDpSidebandBuildRemoteI2cReadRep ctx request
  | .enumPathResources => msmDpSidebandBuildEnumPathResourcesRep ctx request
  | .allocatePayload => msmDpSidebandBuildAllocatePayloadRep ctx request
  | .powerUpdownPhy => msmDpSidebandBuildPowerUpdownPhyRep ctx request
  | .clearPayloadIdTable => msmDpSidebandBuildClearPayloadIdTableRep

/-- The switch of `msm_dp_mst_sim_down_req_internal`. -/
def Builder.ofCommand (command : U8) : Builder :=
  if command = DP_LINK_ADDRESS then .linkAddress
  else if command = DP_REMOTE_I2C_READ then .remoteI2cRead
  else if command = DP_ENUM_PATH_RESOURCES then .enumPathResources
  else if command = DP_ALLOCATE_PAYLOAD then .allocatePayload
  else if command = DP_POWER_DOWN_PHY ∨ command = DP_POWER_UP_PHY then .powerUpdownPhy
  else if command = DP_CLEAR_PAYLOAD_ID_TABLE then .clearPayloadIdTable
  else .nak

end DisplayDrivers.DpMst
