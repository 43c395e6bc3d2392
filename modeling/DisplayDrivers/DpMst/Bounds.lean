import DisplayDrivers.DpMst.Build
import DisplayDrivers.Lib.Run

/-! # Which transactions the receiver can take

The length of a chunk, the position in it and the length of the message all come from the host, and
nothing but the checksum of the header is checked.
-/

namespace DisplayDrivers.DpMst

open DisplayDrivers.Lib DisplayDrivers.Lib.Run

def Checks (bytes : List U8) (len : U8) : Prop :=
  drmDpMsgDataCrc4 bytes (len.toNat - 1) = bytes.getD (len.toNat - 1) 0

/-- A transaction after which the receiver goes on: no copy left its array or had a negative
    length, and if the message has grown, the chunk was one with the right checksum. -/
def SafeWrite : Except Fault SidebandMsgRx → List U8 → Prop
  | .error _, _ => True
  | .ok rx, auxMsg => auxMsg.length < 256 →
    ∃ rx' accepted, msmDpGetOneSbMsg rx auxMsg = .ok (rx', accepted) ∧
      (rx'.curlen ≠ rx.curlen → Checks rx'.chunk.toList rx'.curchunkLen)

def Appendable (bytes : List U8) (len curlen : U8) : Prop :=
  len.toNat ≤ bytes.length →
    len ≠ 0 ∧ curlen.toNat + (len.toNat - 1) ≤ 256 ∧ (len ≠ 1 → Checks bytes len)

def FitsWrite : Except Fault SidebandMsgRx → List U8 → Prop
  | .error _, _ => True
  | .ok rx, auxMsg => auxMsg.length < 256 →
    if rx.haveSomt then
      rx.curchunkIdx.toNat + auxMsg.length ≤ 48 ∧
        Appendable (rx.chunk.toList.take rx.curchunkIdx.toNat ++ auxMsg) rx.curchunkLen rx.curlen
    else
      ∀ hdr hdrlen, drmDpDecodeSidebandMsgHdr auxMsg = some (hdr, hdrlen) → hdr.somt = true →
        (firstBytes hdr hdrlen auxMsg).toNat ≤ 48 ∧
          Appendable ((auxMsg.drop hdrlen).take (firstBytes hdr hdrlen auxMsg).toNat) hdr.msgLen
            rx.curlen

def downReqStep (s : Except Fault SidebandMsgRx) (auxMsg : List U8) : Except Fault SidebandMsgRx :=
  s.bind fun rx => msmDpMstSimDownReq rx auxMsg

/-! ## Finishing a chunk -/

theorem flatMap_bits_take (data : List U8) (n : Nat) :
    (data.flatMap bits).take (n * 8) = (data.take n).flatMap bits := by
  induction data generalizing n with
  | nil => simp
  | cons b rest ih =>
    cases n with
    | zero => simp
    | succ n =>
      have split : (n + 1) * 8 = (bits b).length + n * 8 := by
        simp
        omega
      rw [List.flatMap_cons, split, List.take_length_add_append, ih, List.take_succ_cons,
        List.flatMap_cons]

theorem checks_congr {bytes bytes' : List U8} {len : U8} (nonzero : len ≠ 0)
    (same : bytes.take len.toNat = bytes'.take len.toNat) :
    Checks bytes len ↔ Checks bytes' len := by
  have positive : len.toNat ≠ 0 := fun zero => nonzero (BitVec.eq_of_toNat_eq (by simpa using zero))
  have data : bytes.take (len.toNat - 1) = bytes'.take (len.toNat - 1) := by
    have shorter := congrArg (List.take (len.toNat - 1)) same
    simpa [List.take_take, Nat.min_eq_left (Nat.sub_le len.toNat 1)] using shorter
  have check : bytes.getD (len.toNat - 1) 0 = bytes'.getD (len.toNat - 1) 0 := by
    have last := congrArg (fun l => l.getD (len.toNat - 1) 0) same
    simpa [List.getD, List.getElem?_take, Nat.sub_lt (Nat.pos_of_ne_zero positive)] using last
  simp only [Checks, drmDpMsgDataCrc4, flatMap_bits_take, data, check]

variable {rx : SidebandMsgRx}

theorem finishChunk_safe_iff {bytes : List U8}
    (length : bytes.length = rx.curchunkIdx.toNat) (fits : bytes.length ≤ 48)
    (holds : rx.chunk.toList.take bytes.length = bytes) :
    (∃ rx', rx.finishChunk = .ok rx' ∧
        (rx'.curlen ≠ rx.curlen → Checks rx'.chunk.toList rx'.curchunkLen)) ↔
      Appendable bytes rx.curchunkLen rx.curlen := by
  by_cases complete : rx.curchunkLen ≤ rx.curchunkIdx
  · have within : rx.curchunkLen.toNat ≤ bytes.length := by
      rw [length]
      exact complete
    by_cases zero : rx.curchunkLen = 0
    · have failed : rx.finishChunk = .error .negativeLength := by
        rw [SidebandMsgRx.finishChunk, if_pos complete, if_pos zero]
      simp [failed, Appendable, zero]
    · have data : (rx.chunk.toList.take (rx.curchunkLen.toNat - 1)).length =
          rx.curchunkLen.toNat - 1 := by
        simp [rx.chunk.length_toList]
        omega
      have same : rx.chunk.toList.take rx.curchunkLen.toNat =
          bytes.take rx.curchunkLen.toNat := by
        rw [← holds, List.take_take, Nat.min_eq_left within]
      have grows : rx.curlen + (rx.curchunkLen - 1) ≠ rx.curlen ↔ rx.curchunkLen ≠ 1 := by
        bv_omega
      by_cases room : rx.curlen.toNat + (rx.curchunkLen.toNat - 1) ≤ 256
      · obtain ⟨msg, copied⟩ := rx.msg.exists_copyAt (by rw [data]; exact room)
        simp only [SidebandMsgRx.finishChunk, complete, if_true, zero, if_false, copied,
          Except.ok.injEq, exists_eq_left', grows, Appendable, within, true_implies, room,
          not_false_eq_true, true_and, ne_eq, checks_congr zero same]
      · have tooLong := (Buffer.copyAt_eq_none rx.msg rx.curlen.toNat
          (rx.chunk.toList.take (rx.curchunkLen.toNat - 1))).mpr (by rw [data]; omega)
        have failed : rx.finishChunk = .error .msgOverflow := by
          rw [SidebandMsgRx.finishChunk, if_pos complete, if_neg zero, tooLong]
        simp [failed, Appendable, within, room]
  · have partly : ¬ rx.curchunkLen.toNat ≤ bytes.length := by
      rw [length]
      exact complete
    simp [SidebandMsgRx.finishChunk, complete, Appendable, partly]

/-! ## One transaction -/

theorem map_true_safe_iff {result : Except Fault SidebandMsgRx} {curlen : U8} :
    (∃ rx' accepted, (result.map fun rx => (rx, true)) = .ok (rx', accepted) ∧
        (rx'.curlen ≠ curlen → Checks rx'.chunk.toList rx'.curchunkLen)) ↔
      ∃ rx', result = .ok rx' ∧
        (rx'.curlen ≠ curlen → Checks rx'.chunk.toList rx'.curchunkLen) := by
  cases result with
  | error fault => simp [Except.map]
  | ok rx => simp [Except.map]

theorem data_safe_iff (somt : rx.haveSomt = true) (auxMsg : List U8) :
    (∃ rx' accepted, msmDpGetOneSbMsg rx auxMsg = .ok (rx', accepted) ∧
        (rx'.curlen ≠ rx.curlen → Checks rx'.chunk.toList rx'.curchunkLen)) ↔
      rx.curchunkIdx.toNat + auxMsg.length ≤ 48 ∧
        Appendable (rx.chunk.toList.take rx.curchunkIdx.toNat ++ auxMsg) rx.curchunkLen
          rx.curlen := by
  have data : msmDpGetOneSbMsg rx auxMsg = drmDpSidebandMsgBuild rx auxMsg false := by
    rw [msmDpGetOneSbMsg, somt, Bool.not_true]
  rw [data, build_data]
  by_cases fits : rx.curchunkIdx.toNat + auxMsg.length ≤ 48
  · obtain ⟨chunk, copied⟩ := rx.chunk.exists_copyAt fits
    have length : (rx.chunk.toList.take rx.curchunkIdx.toNat ++ auxMsg).length =
        rx.curchunkIdx.toNat + auxMsg.length := by
      simp [rx.chunk.length_toList]
      omega
    have idx : (rx.curchunkIdx + BitVec.ofNat 8 auxMsg.length).toNat =
        rx.curchunkIdx.toNat + auxMsg.length := by
      simp
      omega
    have holds : chunk.toList.take (rx.chunk.toList.take rx.curchunkIdx.toNat ++ auxMsg).length =
        rx.chunk.toList.take rx.curchunkIdx.toNat ++ auxMsg := by
      rw [length]
      exact Buffer.take_of_copyAt copied
    let copiedRx : SidebandMsgRx := { rx with
      chunk := chunk
      curchunkIdx := rx.curchunkIdx + BitVec.ofNat 8 auxMsg.length }
    have finished := @finishChunk_safe_iff copiedRx _ (length.trans idx.symm) (by omega) holds
    simp only [copied, fits, true_and]
    exact map_true_safe_iff.trans finished
  · have tooLong := (Buffer.copyAt_eq_none rx.chunk rx.curchunkIdx.toNat auxMsg).mpr (by omega)
    simp [tooLong, fits]

variable {auxMsg : List U8}

theorem header_safe_iff (noSomt : rx.haveSomt = false) {hdr : SidebandMsgHdr} {hdrlen : Nat}
    (decoded : drmDpDecodeSidebandMsgHdr auxMsg = some (hdr, hdrlen)) (somt : hdr.somt = true) :
    (∃ rx' accepted, msmDpGetOneSbMsg rx auxMsg = .ok (rx', accepted) ∧
        (rx'.curlen ≠ rx.curlen → Checks rx'.chunk.toList rx'.curchunkLen)) ↔
      (firstBytes hdr hdrlen auxMsg).toNat ≤ 48 ∧
        Appendable ((auxMsg.drop hdrlen).take (firstBytes hdr hdrlen auxMsg).toNat) hdr.msgLen
          rx.curlen := by
  have turn : hdr.somt = !rx.haveSomt := by simp [somt, noSomt]
  have few : (firstBytes hdr hdrlen auxMsg).toNat ≤ auxMsg.length - hdrlen := by
    have wraps : (BitVec.ofNat 8 (auxMsg.length - hdrlen)).toNat ≤ auxMsg.length - hdrlen := by
      simpa using Nat.mod_le _ _
    simp only [firstBytes]
    split
    · next less =>
      exact Nat.le_trans (Nat.le_of_lt less) wraps
    · exact wraps
  have length : ((auxMsg.drop hdrlen).take (firstBytes hdr hdrlen auxMsg).toNat).length =
      (firstBytes hdr hdrlen auxMsg).toNat := by
    simp
    omega
  simp only [msmDpGetOneSbMsg, noSomt, Bool.not_false, build_header decoded turn]
  generalize firstBytes hdr hdrlen auxMsg = idx at *
  by_cases fits : idx.toNat ≤ 48
  · obtain ⟨chunk, copied⟩ := rx.chunk.exists_copyAt
      (show 0 + ((auxMsg.drop hdrlen).take idx.toNat).length ≤ 48 by omega)
    have holds := Buffer.take_of_copyAt copied
    rw [Nat.zero_add, List.take_zero, List.nil_append] at holds
    have finished := @finishChunk_safe_iff (rx.begin hdr hdrlen chunk idx) _ length
      (by omega) holds
    simp only [copied, fits, true_and]
    exact map_true_safe_iff.trans finished
  · have tooLong := (Buffer.copyAt_eq_none rx.chunk 0 ((auxMsg.drop hdrlen).take idx.toNat)).mpr
      (by omega)
    simp [tooLong, fits]

theorem refused_safe (noSomt : rx.haveSomt = false)
    (starts : ¬ ∃ hdr hdrlen, drmDpDecodeSidebandMsgHdr auxMsg = some (hdr, hdrlen) ∧
      hdr.somt = true) : msmDpGetOneSbMsg rx auxMsg = .ok (rx, false) := by
  simp only [msmDpGetOneSbMsg, noSomt, Bool.not_false, drmDpSidebandMsgBuild, if_true]
  cases decoded : drmDpDecodeSidebandMsgHdr auxMsg with
  | none => rfl
  | some result =>
    obtain ⟨hdr, hdrlen⟩ := result
    have noHdrSomt : hdr.somt = false := by
      by_contra somt
      exact starts ⟨hdr, hdrlen, decoded, by simpa using somt⟩
    simp [noHdrSomt]

theorem safeWrite_iff (s : Except Fault SidebandMsgRx) (auxMsg : List U8) :
    SafeWrite s auxMsg ↔ FitsWrite s auxMsg := by
  cases s with
  | error fault => exact Iff.rfl
  | ok rx =>
    simp only [SafeWrite, FitsWrite]
    apply imp_congr_right
    intro
    cases somt : rx.haveSomt with
    | true =>
      simp only [if_true]
      exact data_safe_iff somt auxMsg
    | false =>
      simp only [Bool.false_eq_true, if_false]
      by_cases starts : ∃ hdr hdrlen, drmDpDecodeSidebandMsgHdr auxMsg = some (hdr, hdrlen) ∧
          hdr.somt = true
      · obtain ⟨hdr, hdrlen, decoded, hdrSomt⟩ := starts
        rw [header_safe_iff somt decoded hdrSomt]
        simp [decoded, hdrSomt]
      · constructor
        · intro _ hdr hdrlen decoded hdrSomt
          exact absurd ⟨hdr, hdrlen, decoded, hdrSomt⟩ starts
        · intro _
          exact ⟨rx, false, refused_safe somt starts, fun grown => absurd rfl grown⟩

/-! ## Runs -/

/-- Whatever the host writes, every transaction is received safely exactly if every one fits the
    state it meets. -/
theorem receives_safely_iff (auxMsgs : List (List U8)) :
    StepsMeet downReqStep SafeWrite (.ok .cleared) auxMsgs ↔
      StepsMeet downReqStep FitsWrite (.ok .cleared) auxMsgs :=
  stepsMeet_congr safeWrite_iff _ auxMsgs

def SidebandMsgHdr.start (msgLen : U8) : SidebandMsgHdr :=
  { SidebandMsgHdr.zero with lct := 1, msgLen := msgLen, somt := true }

theorem first_write_fits {msgLen : U8} (small : msgLen < 64) {tail : List U8}
    (short : tail.length < 64)
    (safe : StepsMeet downReqStep SafeWrite (.ok .cleared)
      [drmDpEncodeSidebandMsgHdr (.start msgLen) ++ tail]) :
    let idx := if msgLen < BitVec.ofNat 8 tail.length then msgLen else BitVec.ofNat 8 tail.length
    idx.toNat ≤ 48 ∧ Appendable (tail.take idx.toNat) msgLen 0 := by
  have valid : (SidebandMsgHdr.start msgLen).Valid := by
    refine ⟨?_, ?_, .inl ?_, ?_, small⟩ <;> simp [SidebandMsgHdr.start, SidebandMsgHdr.zero]
  have fits := (safeWrite_iff _ _).mp safe.1
  have length : (drmDpEncodeSidebandMsgHdr (.start msgLen) ++ tail).length < 256 := by
    simp [SidebandMsgHdr.start, SidebandMsgHdr.zero]
    omega
  have started := fits length _ _ (decode_encode valid tail) rfl
  have rest : (drmDpEncodeSidebandMsgHdr (.start msgLen) ++ tail).length -
      (drmDpEncodeSidebandMsgHdr (.start msgLen)).length = tail.length := by simp
  simp only [firstBytes, rest, List.drop_left] at started
  exact started

/-- A length of zero, more data than the chunk buffer holds, and a wrong checksum. -/
theorem unsafe_writes :
    ¬ StepsMeet downReqStep SafeWrite (.ok .cleared)
        [drmDpEncodeSidebandMsgHdr (.start 0) ++ []] ∧
      ¬ StepsMeet downReqStep SafeWrite (.ok .cleared)
        [drmDpEncodeSidebandMsgHdr (.start 60) ++ List.replicate 60 7] ∧
      ¬ StepsMeet downReqStep SafeWrite (.ok .cleared)
        [drmDpEncodeSidebandMsgHdr (.start 2) ++ [7, 7]] := by
  refine ⟨fun safe => ?_, fun safe => ?_, fun safe => ?_⟩
  · have fits := (first_write_fits (by decide) (by decide) safe).2
    exact (fits (by decide)).1 rfl
  · have fits := (first_write_fits (by decide) (by simp) safe).1
    simp at fits
  · have fits := (first_write_fits (by decide) (by decide) safe).2
    have differs : drmDpMsgDataCrc4 [7, 7] 1 ≠ 7 := by decide +kernel
    exact differs ((fits (by decide)).2.2 (by decide))

end DisplayDrivers.DpMst
