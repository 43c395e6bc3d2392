import DisplayDrivers.DpMst.Header

/-! # What `drm_dp_sideband_msg_build` does

`finishChunk` changes the message and its length only.  A chunk that comes whole, with a header
that is next in turn, is appended to the message.
-/

namespace DisplayDrivers.DpMst

open DisplayDrivers.Lib

def chunkBytes (hdr : SidebandMsgHdr) (body : List U8) : List U8 :=
  drmDpEncodeSidebandMsgHdr hdr ++ (body ++ [drmDpMsgDataCrc4 body body.length])

theorem toNat_ofNat_of_lt {n : Nat} (small : n < 256) : (BitVec.ofNat 8 n).toNat = n := by
  simpa using Nat.mod_eq_of_lt small

/-! ## Finishing a chunk -/

variable {rx : SidebandMsgRx}

theorem finishChunk_ok {rx' : SidebandMsgRx} (done : rx.finishChunk = .ok rx') :
    (rx.curchunkLen ≤ rx.curchunkIdx ∧ rx.curchunkLen ≠ 0 ∧ ∃ msg,
      rx.msg.copyAt rx.curlen.toNat (rx.chunk.toList.take (rx.curchunkLen.toNat - 1)) = some msg ∧
        rx' = { rx with msg := msg, curlen := rx.curlen + (rx.curchunkLen - 1) }) ∨
      (¬ rx.curchunkLen ≤ rx.curchunkIdx ∧ rx' = rx) := by
  simp only [SidebandMsgRx.finishChunk] at done
  split at done
  · next complete =>
    split at done
    · simp at done
    · next nonzero =>
      split at done
      · simp at done
      · next msg copied =>
        simp only [Except.ok.injEq] at done
        exact .inl ⟨complete, nonzero, msg, copied, done.symm⟩
  · next partly =>
    simp only [Except.ok.injEq] at done
    exact .inr ⟨partly, done.symm⟩

theorem finishChunk_flags {rx' : SidebandMsgRx} (done : rx.finishChunk = .ok rx') :
    rx'.haveSomt = rx.haveSomt ∧ rx'.haveEomt = rx.haveEomt ∧
      rx'.initialHdr = rx.initialHdr := by
  obtain ⟨-, -, msg, -, rfl⟩ | ⟨-, rfl⟩ := finishChunk_ok done <;> exact ⟨rfl, rfl, rfl⟩

/-! ## A transaction with data -/

theorem build_data (rx : SidebandMsgRx) (auxMsg : List U8) :
    drmDpSidebandMsgBuild rx auxMsg false =
      match rx.chunk.copyAt rx.curchunkIdx.toNat auxMsg with
      | none => .error .chunkOverflow
      | some chunk =>
        ({ rx with
          chunk := chunk
          curchunkIdx := rx.curchunkIdx + BitVec.ofNat 8 auxMsg.length }).finishChunk.map
            fun rx => (rx, true) :=
  rfl

/-! ## A transaction with a header -/

def SidebandMsgRx.begin (rx : SidebandMsgRx) (hdr : SidebandMsgHdr) (hdrlen : Nat)
    (chunk : Buffer U8 48) (idx : U8) : SidebandMsgRx :=
  { rx with
    chunk := chunk
    curchunkLen := hdr.msgLen
    curchunkIdx := idx
    curchunkHdrlen := BitVec.ofNat 8 hdrlen
    haveSomt := true
    haveEomt := rx.haveEomt || hdr.eomt
    initialHdr := if hdr.somt then hdr else rx.initialHdr }

def firstBytes (hdr : SidebandMsgHdr) (hdrlen : Nat) (auxMsg : List U8) : U8 :=
  if hdr.msgLen < BitVec.ofNat 8 (auxMsg.length - hdrlen) then hdr.msgLen
  else BitVec.ofNat 8 (auxMsg.length - hdrlen)

variable {hdr : SidebandMsgHdr}

theorem build_header {auxMsg : List U8} {hdrlen : Nat}
    (decoded : drmDpDecodeSidebandMsgHdr auxMsg = some (hdr, hdrlen))
    (turn : hdr.somt = !rx.haveSomt) :
    drmDpSidebandMsgBuild rx auxMsg true =
      match rx.chunk.copyAt 0
        ((auxMsg.drop hdrlen).take (firstBytes hdr hdrlen auxMsg).toNat) with
      | none => .error .chunkOverflow
      | some chunk =>
        (rx.begin hdr hdrlen chunk (firstBytes hdr hdrlen auxMsg)).finishChunk.map
          fun rx => (rx, true) := by
  cases have_somt : rx.haveSomt <;> rw [have_somt] at turn <;>
    simp only [drmDpSidebandMsgBuild, decoded, turn, have_somt, SidebandMsgRx.begin, firstBytes] <;>
    rfl

/-! ## A chunk in one transaction -/

theorem decode_chunkBytes (valid : hdr.Valid) (body : List U8) :
    drmDpDecodeSidebandMsgHdr (chunkBytes hdr body) =
      some (hdr, (drmDpEncodeSidebandMsgHdr hdr).length) := decode_encode valid _

variable {body : List U8}

theorem firstBytes_chunkBytes (length : hdr.msgLen = BitVec.ofNat 8 (body.length + 1)) :
    firstBytes hdr (drmDpEncodeSidebandMsgHdr hdr).length (chunkBytes hdr body) =
      BitVec.ofNat 8 (body.length + 1) := by
  have rest : ((chunkBytes hdr body).length - (drmDpEncodeSidebandMsgHdr hdr).length) =
      body.length + 1 := by
    simp [chunkBytes]
  rw [firstBytes, rest, length]
  exact ite_self _

theorem drop_chunkBytes (fits : body.length + 1 < 64) :
    ((chunkBytes hdr body).drop (drmDpEncodeSidebandMsgHdr hdr).length).take
        (BitVec.ofNat 8 (body.length + 1)).toNat =
      body ++ [drmDpMsgDataCrc4 body body.length] := by
  rw [toNat_ofNat_of_lt (by omega), chunkBytes, List.drop_left]
  exact List.take_of_length_le (by simp)

theorem build_chunk (valid : hdr.Valid) (length : hdr.msgLen = BitVec.ofNat 8 (body.length + 1))
    (short : body.length < 48) (turn : hdr.somt = !rx.haveSomt)
    (room : rx.curlen.toNat + body.length ≤ 256) :
    ∃ rx', drmDpSidebandMsgBuild rx (chunkBytes hdr body) true = .ok (rx', true) ∧
      rx'.msg.toList.take (rx.curlen.toNat + body.length) =
        rx.msg.toList.take rx.curlen.toNat ++ body ∧
      rx'.curlen = rx.curlen + BitVec.ofNat 8 body.length ∧ rx'.haveSomt = true ∧
      rx'.haveEomt = (rx.haveEomt || hdr.eomt) ∧
      rx'.initialHdr = if hdr.somt then hdr else rx.initialHdr := by
  have whole := @drop_chunkBytes hdr body (by omega)
  generalize drmDpMsgDataCrc4 body body.length = crc at whole
  have fits : 0 + (body ++ [crc]).length ≤ 48 := by
    simp
    omega
  obtain ⟨chunk, copied⟩ := rx.chunk.exists_copyAt fits
  have front : chunk.toList.take body.length = body := by
    have read := congrArg (List.take body.length) (Buffer.take_of_copyAt copied)
    simpa [List.take_take] using read
  obtain ⟨msg, appended⟩ := rx.msg.exists_copyAt room
  have decremented : BitVec.ofNat 8 (body.length + 1) - 1 = BitVec.ofNat 8 body.length := by
    rw [BitVec.ofNat_add]
    exact BitVec.add_sub_cancel ..
  have nonzero : BitVec.ofNat 8 (body.length + 1) ≠ 0 := by
    intro zero
    have toNat := congrArg BitVec.toNat zero
    rw [toNat_ofNat_of_lt (by omega)] at toNat
    simp at toNat
  let begun := rx.begin hdr (drmDpEncodeSidebandMsgHdr hdr).length chunk
    (BitVec.ofNat 8 (body.length + 1))
  have finished : begun.finishChunk =
      .ok { begun with msg := msg, curlen := rx.curlen + BitVec.ofNat 8 body.length } := by
    have taken : (BitVec.ofNat 8 (body.length + 1)).toNat - 1 = body.length := by
      rw [toNat_ofNat_of_lt (by omega)]
      rfl
    simp only [begun, SidebandMsgRx.finishChunk, SidebandMsgRx.begin, length,
      BitVec.le_refl, if_true,
      if_neg nonzero, taken, front, appended, decremented]
  refine ⟨{ begun with msg := msg, curlen := rx.curlen + BitVec.ofNat 8 body.length }, ?_,
    Buffer.take_of_copyAt appended, rfl, rfl, rfl, rfl⟩
  rw [build_header (decode_chunkBytes valid body) turn, firstBytes_chunkBytes length, whole, copied]
  show begun.finishChunk.map _ = _
  rw [finished]
  rfl

end DisplayDrivers.DpMst
