import Mathlib.Logic.Function.Basic
import DisplayDrivers.DpMst.Builders

/-! # The ESI registers of the MST simulator

`msm_dp_mst_sim_transfer` serves an AUX transaction from the 16 bytes of `esi`. Its guard subtracts
the offset from the size where it should add the two, so it neither refuses every transaction that
leaves the array nor takes every one that stays inside.
-/

namespace DisplayDrivers.DpMst

open DisplayDrivers.Lib

def ENOENT : Int := 2

def DP_AUX_NATIVE_WRITE : U8 := 0x8
def DP_AUX_NATIVE_READ : U8 := 0x9
def DP_AUX_NATIVE_REPLY_ACK : U8 := 0x00
def DP_AUX_NATIVE_REPLY_NACK : U8 := 0x01

def DP_SIDEBAND_MSG_DOWN_REQ_BASE : U32 := 0x1000
def DP_SIDEBAND_MSG_DOWN_REP_BASE : U32 := 0x1400
def DP_SINK_COUNT_ESI : U32 := 0x2002
def DP_DOWN_REP_MSG_RDY : U8 := 0x10

/-- `struct drm_dp_aux_msg`; `buffer` is what the pointer leads to. -/
structure AuxMsg where
  address : U32
  request : U8
  buffer : Nat → U8
  size : BitVec 64

/-- What a transaction leaves behind: the reply, the memory from `esi` on, what has been copied to
    the buffer, and whether the session has been completed. -/
structure EsiAnswer where
  reply : U8
  memory : Nat → U8
  copied : List U8
  completed : Bool

def clearBytes (buffer : Nat → U8) (addr : Nat) : List Nat → (Nat → U8) → Probe Nat (Nat → U8)
  | [], memory => pure memory
  | i :: rest, memory => do
    let byte ← Probe.read memory (addr + i)
    clearBytes buffer addr rest (Function.update memory (addr + i) (byte &&& ~~~buffer i))

def AuxMsg.esiAddr (msg : AuxMsg) : U32 := msg.address - DP_SINK_COUNT_ESI

/-- `msg->size - addr >= 16`, where `size_t` is the wider type. -/
def AuxMsg.EsiRefused (msg : AuxMsg) : Prop := 16 ≤ msg.size - msg.esiAddr.setWidth 64

instance (msg : AuxMsg) : Decidable msg.EsiRefused :=
  inferInstanceAs (Decidable (16 ≤ msg.size - msg.esiAddr.setWidth 64))

def msmDpMstSimClearEsi (memory : Nat → U8) (msg : AuxMsg) : Probe Nat EsiAnswer := do
  let oldEsi ← Probe.read memory 1
  if msg.EsiRefused then
    pure { reply := DP_AUX_NATIVE_REPLY_NACK, memory, copied := [], completed := false }
  else do
    let cleared ← clearBytes msg.buffer msg.esiAddr.toNat (List.range msg.size.toNat) memory
    -- the session ends when the reply was pending and is acknowledged by this write
    if oldEsi &&& DP_DOWN_REP_MSG_RDY ≠ 0 then do
      let newEsi ← Probe.read cleared 1
      pure
        { reply := DP_AUX_NATIVE_REPLY_ACK, memory := cleared, copied := []
          completed := decide (newEsi &&& DP_DOWN_REP_MSG_RDY = 0) }
    else
      pure { reply := DP_AUX_NATIVE_REPLY_ACK, memory := cleared, copied := [], completed := false }

def msmDpMstSimReadEsi (memory : Nat → U8) (msg : AuxMsg) : Probe Nat EsiAnswer :=
  if msg.EsiRefused then
    pure { reply := DP_AUX_NATIVE_REPLY_NACK, memory, copied := [], completed := false }
  else do
    let bytes ← Probe.readAll memory ((List.range msg.size.toNat).map (msg.esiAddr.toNat + ·))
    pure { reply := DP_AUX_NATIVE_REPLY_ACK, memory, copied := bytes, completed := false }

inductive Transfer
  | downReq
  | downRep
  | clearEsi (answer : Probe Nat EsiAnswer)
  | readEsi (answer : Probe Nat EsiAnswer)

/-- `msm_dp_mst_sim_transfer` on a context with the given `port_num` and memory from `esi` on. -/
def msmDpMstSimTransfer (portNum : U32) (memory : Nat → U8) (msg : AuxMsg) : Except Int Transfer :=
  let inWindow (base size : U32) := base ≤ msg.address ∧ msg.address < base + size
  if portNum = 0 then .error (-ENOENT)
  else if msg.request = DP_AUX_NATIVE_WRITE then
    if inWindow DP_SIDEBAND_MSG_DOWN_REQ_BASE 256 then .ok .downReq
    else if inWindow DP_SINK_COUNT_ESI 14 then .ok (.clearEsi (msmDpMstSimClearEsi memory msg))
    else .error (-EINVAL)
  else if msg.request = DP_AUX_NATIVE_READ then
    if inWindow DP_SIDEBAND_MSG_DOWN_REP_BASE 256 then .ok .downRep
    else if inWindow DP_SINK_COUNT_ESI 14 then .ok (.readEsi (msmDpMstSimReadEsi memory msg))
    else .error (-EINVAL)
  else .error (-EINVAL)

/-! ## The guard -/

def AuxMsg.FitsEsi (msg : AuxMsg) : Prop := msg.esiAddr.toNat + msg.size.toNat ≤ 16

instance (msg : AuxMsg) : Decidable msg.FitsEsi :=
  inferInstanceAs (Decidable (msg.esiAddr.toNat + msg.size.toNat ≤ 16))

def Judged (addr size : Nat) : Prop :=
  (addr ≤ size ∧ addr + size ≤ 16 ∧ size ≠ 16) ∨ (size < addr ∧ 16 < addr + size) ∨
    (addr + 16 ≤ size ∧ size ≠ 16)

instance (addr size : Nat) : Decidable (Judged addr size) :=
  inferInstanceAs (Decidable (_ ∨ _ ∨ _))

section Paths
variable {memory : Nat → U8} {msg : AuxMsg}

theorem esiRefused_iff (window : msg.esiAddr.toNat < 14) :
    msg.EsiRefused ↔
      msg.size.toNat < msg.esiAddr.toNat ∨ msg.esiAddr.toNat + 16 ≤ msg.size.toNat := by
  show 16 ≤ msg.size - msg.esiAddr.setWidth 64 ↔ _
  bv_omega

theorem judged_iff (window : msg.esiAddr.toNat < 14) :
    Judged msg.esiAddr.toNat msg.size.toNat ↔ (¬ msg.EsiRefused ↔ msg.FitsEsi) := by
  rw [esiRefused_iff window]
  simp only [Judged, AuxMsg.FitsEsi]
  omega

/-! ## The two paths -/

@[simp] theorem within_clearBytes (buffer : Nat → U8) (addr : Nat) (places : List Nat)
    (memory : Nat → U8) (p : Nat → Prop) :
    (clearBytes buffer addr places memory).Within p ↔ ∀ i ∈ places, p (addr + i) := by
  induction places generalizing memory with
  | nil => simp [clearBytes]
  | cons i rest ih => simp [clearBytes, ih]

theorem places_lt_iff {addr : Nat} (size : Nat) (window : addr < 14) :
    (∀ i < size, addr + i < 16) ↔ addr + size ≤ 16 := by
  constructor
  · intro inside
    cases size with
    | zero => omega
    | succ n =>
      have last := inside n (Nat.lt_succ_self n)
      omega
  · intro fits i bound
    omega

structure Serves (msg : AuxMsg) (answer : Probe Nat EsiAnswer) : Prop where
  acked : answer.value.reply = DP_AUX_NATIVE_REPLY_ACK ↔ ¬ msg.EsiRefused
  within : answer.Within (· < 16) ↔ (msg.EsiRefused ∨ msg.FitsEsi)

theorem serves_clearEsi (window : msg.esiAddr.toNat < 14) :
    Serves msg (msmDpMstSimClearEsi memory msg) := by
  have places := places_lt_iff msg.size.toNat window
  by_cases refused : msg.EsiRefused
  · constructor <;> simp [msmDpMstSimClearEsi, refused, DP_AUX_NATIVE_REPLY_ACK,
      DP_AUX_NATIVE_REPLY_NACK]
  -- the session is looked at again only when a reply was pending
  by_cases pending : memory 1 &&& DP_DOWN_REP_MSG_RDY = 0#8
  · constructor
    · simp [msmDpMstSimClearEsi, refused, pending]
    · simpa [msmDpMstSimClearEsi, refused, pending, AuxMsg.FitsEsi] using places
  · constructor
    · simp [msmDpMstSimClearEsi, refused, pending]
    · simpa [msmDpMstSimClearEsi, refused, pending, AuxMsg.FitsEsi] using places

theorem serves_readEsi (window : msg.esiAddr.toNat < 14) :
    Serves msg (msmDpMstSimReadEsi memory msg) := by
  have places := places_lt_iff msg.size.toNat window
  by_cases refused : msg.EsiRefused
  · constructor <;> simp [msmDpMstSimReadEsi, refused, DP_AUX_NATIVE_REPLY_ACK,
      DP_AUX_NATIVE_REPLY_NACK]
  · constructor
    · simp [msmDpMstSimReadEsi, refused]
    · simpa [msmDpMstSimReadEsi, refused, AuxMsg.FitsEsi] using places

/-! ## Transactions -/

def Transfer.esi : Transfer → Option (Probe Nat EsiAnswer)
  | .clearEsi answer | .readEsi answer => some answer
  | .downReq | .downRep => none

theorem esiAddr_lt (above : DP_SINK_COUNT_ESI ≤ msg.address)
    (below : msg.address < DP_SINK_COUNT_ESI + 14) : msg.esiAddr.toNat < 14 := by
  simp only [AuxMsg.esiAddr, DP_SINK_COUNT_ESI] at above below ⊢
  bv_omega

theorem serves_of_transfer {portNum : U32} {transfer : Transfer} {answer : Probe Nat EsiAnswer}
    (ok : msmDpMstSimTransfer portNum memory msg = .ok transfer)
    (esi : transfer.esi = some answer) : msg.esiAddr.toNat < 14 ∧ Serves msg answer := by
  simp only [msmDpMstSimTransfer] at ok
  split at ok
  · cases ok
  split at ok
  · split at ok
    · cases ok
      cases esi
    split at ok
    · next inside =>
      cases ok
      cases esi
      have window := esiAddr_lt inside.1 inside.2
      exact ⟨window, serves_clearEsi window⟩
    · cases ok
  split at ok
  · split at ok
    · cases ok
      cases esi
    split at ok
    · next inside =>
      cases ok
      cases esi
      have window := esiAddr_lt inside.1 inside.2
      exact ⟨window, serves_readEsi window⟩
    · cases ok
  · cases ok

/-- A transaction is acknowledged exactly when it fits, and stays inside the array, for the sizes
    for which the difference tells what the sum would. -/
theorem acked_iff_fits_and_within_iff {portNum : U32} {transfer : Transfer}
    {answer : Probe Nat EsiAnswer} (ok : msmDpMstSimTransfer portNum memory msg = .ok transfer)
    (esi : transfer.esi = some answer) :
    ((answer.value.reply = DP_AUX_NATIVE_REPLY_ACK ↔ msg.FitsEsi) ∧ answer.Within (· < 16)) ↔
      Judged msg.esiAddr.toNat msg.size.toNat := by
  obtain ⟨window, serves⟩ := serves_of_transfer ok esi
  rw [judged_iff window, serves.acked, serves.within]
  constructor
  · intro right
    exact right.1
  -- a refused transaction touches the register of the pending reply at most
  · intro same
    refine ⟨same, ?_⟩
    by_cases refused : msg.EsiRefused
    · exact Or.inl refused
    · exact Or.inr (same.mp refused)

/-- A read of two bytes from the second register on. -/
theorem acked_iff_fits_and_within_iff_two :
    ((msmDpMstSimReadEsi (fun _ => 0)
        { address := 0x2003, request := 0x9, buffer := fun _ => 0, size := 2 }).value.reply =
        DP_AUX_NATIVE_REPLY_ACK ↔ 1 + 2 ≤ 16) ∧
      (msmDpMstSimReadEsi (fun _ => 0)
        { address := 0x2003, request := 0x9, buffer := fun _ => 0, size := 2 }).Within (· < 16) :=
  (@acked_iff_fits_and_within_iff (fun _ => 0)
    { address := 0x2003, request := 0x9, buffer := fun _ => 0, size := 2 } 1 _ _ rfl rfl).mpr
    (by decide)

/-- Sixteen bytes from the sixth register on are acknowledged, and cleared past the array's end. -/
theorem not_acked_iff_fits_and_within :
    ¬ ∀ (portNum : U32) (memory : Nat → U8) (msg : AuxMsg) (transfer : Transfer)
        (answer : Probe Nat EsiAnswer),
      msmDpMstSimTransfer portNum memory msg = .ok transfer → transfer.esi = some answer →
      (answer.value.reply = DP_AUX_NATIVE_REPLY_ACK ↔ msg.FitsEsi) ∧ answer.Within (· < 16) := by
  intro right
  have taken := (right 1 (fun _ => 0)
    { address := 0x2007, request := 0x8, buffer := fun _ => 0, size := 16 } _ _ rfl rfl).1
  revert taken
  decide

end Paths

end DisplayDrivers.DpMst
