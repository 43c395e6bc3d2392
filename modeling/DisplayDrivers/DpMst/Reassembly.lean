import DisplayDrivers.DpMst.Build

/-! # How a down request is put together

A host sends a request as one chunk or as several, and the bytes of each in one transaction or in
several.
-/

namespace DisplayDrivers.DpMst

open DisplayDrivers.Lib

structure SentChunk where
  hdr : SidebandMsgHdr
  body : List U8
  writes : List (List U8)

structure SentChunk.Valid (c : SentChunk) : Prop where
  hdr : c.hdr.Valid
  msgLen : c.hdr.msgLen = BitVec.ofNat 8 (c.body.length + 1)
  fits : c.body.length + 1 < 64
  cut : c.writes.flatten = chunkBytes c.hdr c.body
  nonempty : ∀ auxMsg ∈ c.writes, auxMsg ≠ []
  first : ∃ auxMsg rest, c.writes = auxMsg :: rest ∧
    (drmDpEncodeSidebandMsgHdr c.hdr).length ≤ auxMsg.length

structure SentMessage (chunks : List SentChunk) : Prop where
  nonempty : chunks ≠ []
  valid : ∀ c ∈ chunks, c.Valid
  somt : ∀ i (hi : i < chunks.length), chunks[i].hdr.somt = decide (i = 0)
  eomt : ∀ i (hi : i < chunks.length), chunks[i].hdr.eomt = decide (i + 1 = chunks.length)

def Reassembled (chunks : List SentChunk) : Prop :=
  ∃ front req,
    SidebandMsgRx.cleared.receiveAll (chunks.flatMap SentChunk.writes) =
        .ok (front ++ [.dispatched req]) ∧
      (∀ received ∈ front, ∀ req, received ≠ .dispatched req) ∧
      req.curlen.toNat = (chunks.flatMap SentChunk.body).length ∧
      req.msg.toList.take req.curlen.toNat = chunks.flatMap SentChunk.body

def SentWhole (chunks : List SentChunk) : Prop :=
  ∃ c auxMsg, chunks = [c] ∧ c.writes = [auxMsg] ∧ c.body.length < 48

/-! ## A chunk in one transaction -/

variable {hdr : SidebandMsgHdr}

theorem receive_whole (valid : hdr.Valid) {body : List U8}
    (length : hdr.msgLen = BitVec.ofNat 8 (body.length + 1)) (short : body.length < 48)
    (somt : hdr.somt = true) (eomt : hdr.eomt = true) :
    ∃ req, SidebandMsgRx.cleared.receive (chunkBytes hdr body) =
        .ok (.cleared, .dispatched req) ∧
      req.curlen.toNat = body.length ∧ req.msg.toList.take body.length = body := by
  have turn : hdr.somt = !SidebandMsgRx.cleared.haveSomt := somt
  have room : SidebandMsgRx.cleared.curlen.toNat + body.length ≤ 256 := by
    simp [SidebandMsgRx.cleared]
    omega
  obtain ⟨rx, built, msg, curlen, -, haveEomt, -⟩ := build_chunk valid length short turn room
  have last : rx.haveEomt = true := by simp [haveEomt, eomt]
  refine ⟨{ seqno := rx.initialHdr.seqno, msg := rx.msg, curlen := rx.curlen }, ?_, ?_, ?_⟩
  · have header : (!SidebandMsgRx.cleared.haveSomt) = true := rfl
    simp [SidebandMsgRx.receive, msmDpGetOneSbMsg, header, built, last]
  · simp [curlen, SidebandMsgRx.cleared]
    omega
  · simpa [SidebandMsgRx.cleared] using msg

variable {chunks : List SentChunk}

theorem reassembled_of_sentWhole (sent : SentMessage chunks)
    (whole : SentWhole chunks) : Reassembled chunks := by
  obtain ⟨c, auxMsg, rfl, writes, short⟩ := whole
  have valid := sent.valid c (by simp)
  have somt : c.hdr.somt = true := by simpa using sent.somt 0 (by simp)
  have eomt : c.hdr.eomt = true := by simpa using sent.eomt 0 (by simp)
  have bytes : auxMsg = chunkBytes c.hdr c.body := by simpa [writes] using valid.cut
  obtain ⟨req, received, curlen, msg⟩ := receive_whole valid.hdr valid.msgLen short somt eomt
  refine ⟨[], req, ?_, by simp, by simpa using curlen, by simpa [curlen] using msg⟩
  simp [writes, bytes, SidebandMsgRx.receiveAll, received]
  rfl

/-! ## After the first transaction -/

theorem decode_first {c : SentChunk} (valid : c.Valid) :
    ∃ auxMsg rest, c.writes = auxMsg :: rest ∧ drmDpDecodeSidebandMsgHdr auxMsg =
      some (c.hdr, (drmDpEncodeSidebandMsgHdr c.hdr).length) := by
  obtain ⟨auxMsg, rest, writes, long⟩ := valid.first
  have bytes : auxMsg ++ rest.flatten = chunkBytes c.hdr c.body := by
    simpa [writes] using valid.cut
  have starts : drmDpEncodeSidebandMsgHdr c.hdr <+: auxMsg :=
    List.prefix_of_prefix_length_le ⟨_, rfl⟩ ⟨_, bytes⟩ long
  obtain ⟨tail, rfl⟩ := starts
  exact ⟨_, rest, writes, decode_encode valid.hdr tail⟩

variable {rx : SidebandMsgRx}

variable {received : Received} {auxMsg : List U8}

theorem receive_first {hdrlen : Nat}
    (decoded : drmDpDecodeSidebandMsgHdr auxMsg = some (hdr, hdrlen)) (somt : hdr.somt = true)
    (done : SidebandMsgRx.cleared.receive auxMsg = .ok (rx, received)) :
    if hdr.eomt then ∃ req, received = .dispatched req
    else received = .pending ∧ rx.haveSomt = true ∧ rx.haveEomt = false := by
  have turn : hdr.somt = !SidebandMsgRx.cleared.haveSomt := somt
  have header : (!SidebandMsgRx.cleared.haveSomt) = true := rfl
  simp only [SidebandMsgRx.receive, msmDpGetOneSbMsg, header, build_header decoded turn] at done
  cases copied : SidebandMsgRx.cleared.chunk.copyAt 0
      ((auxMsg.drop hdrlen).take (firstBytes hdr hdrlen auxMsg).toNat) with
  | none => simp [copied] at done
  | some chunk =>
    cases finished : (SidebandMsgRx.cleared.begin hdr hdrlen chunk
        (firstBytes hdr hdrlen auxMsg)).finishChunk with
    | error fault => simp [copied, finished, Except.map] at done
    | ok built =>
      obtain ⟨haveSomt, haveEomt, -⟩ := finishChunk_flags finished
      have flag : built.haveEomt = hdr.eomt := haveEomt
      simp only [copied, finished, Except.map, flag] at done
      cases eomt : hdr.eomt with
      | true =>
        simp [eomt] at done
        simp [← done.2]
      | false =>
        simp [eomt] at done
        obtain ⟨rfl, rfl⟩ := done
        have started : built.haveSomt = true := haveSomt
        simp [flag, eomt, started]

theorem receive_data {rx' : SidebandMsgRx} (somt : rx.haveSomt = true)
    (eomt : rx.haveEomt = false)
    (done : rx.receive auxMsg = .ok (rx', received)) :
    received = .pending ∧ rx'.haveSomt = true ∧ rx'.haveEomt = false := by
  simp only [SidebandMsgRx.receive, msmDpGetOneSbMsg, somt, Bool.not_true, build_data] at done
  cases copied : rx.chunk.copyAt rx.curchunkIdx.toNat auxMsg with
  | none => simp [copied] at done
  | some chunk =>
    rw [copied] at done
    simp only [] at done
    generalize finish : SidebandMsgRx.finishChunk _ = finished at done
    cases finished with
    | error fault => simp [Except.map] at done
    | ok built =>
      obtain ⟨haveSomt, haveEomt, -⟩ := finishChunk_flags finish
      have flag : built.haveEomt = false := haveEomt.trans eomt
      simp [Except.map, flag] at done
      obtain ⟨rfl, rfl⟩ := done
      exact ⟨rfl, haveSomt, flag⟩

variable {auxMsgs : List (List U8)} {all : List Received}

theorem receiveAll_cons {auxMsg : List U8} (done : rx.receiveAll (auxMsg :: auxMsgs) = .ok all) :
    ∃ rx' received others, rx.receive auxMsg = .ok (rx', received) ∧
      rx'.receiveAll auxMsgs = .ok others ∧ all = received :: others := by
  simp only [SidebandMsgRx.receiveAll] at done
  cases first : rx.receive auxMsg with
  | error fault => simp [first] at done
  | ok result =>
    cases later : result.1.receiveAll auxMsgs with
    | error fault => simp [first, later, Except.map] at done
    | ok others =>
      simp only [first, later, Except.map, Except.ok.injEq] at done
      exact ⟨_, _, _, rfl, later, done.symm⟩

theorem receiveAll_data (somt : rx.haveSomt = true)
    (eomt : rx.haveEomt = false)
    (done : rx.receiveAll auxMsgs = .ok all) : ∀ received ∈ all, received = .pending := by
  induction auxMsgs generalizing rx all with
  | nil => cases done; exact List.forall_mem_nil _
  | cons auxMsg rest ih =>
    obtain ⟨rx', received, others, first, later, rfl⟩ := receiveAll_cons done
    obtain ⟨pending, somt', eomt'⟩ := receive_data somt eomt first
    exact List.forall_mem_cons.mpr ⟨pending, ih somt' eomt' later⟩

theorem length_receiveAll
    (done : rx.receiveAll auxMsgs = .ok all) : all.length = auxMsgs.length := by
  induction auxMsgs generalizing rx all with
  | nil => cases done; rfl
  | cons auxMsg rest ih =>
    obtain ⟨rx', received, others, -, later, rfl⟩ := receiveAll_cons done
    rw [List.length_cons, List.length_cons, ih later]

/-! ## Only a message that is sent whole gets through -/

theorem receive_long (valid : hdr.Valid) {body : List U8}
    (length : hdr.msgLen = BitVec.ofNat 8 (body.length + 1)) (fits : body.length + 1 < 64)
    (long : 48 ≤ body.length) (somt : hdr.somt = true) :
    SidebandMsgRx.cleared.receive (chunkBytes hdr body) = .error .chunkOverflow := by
  have turn : hdr.somt = !SidebandMsgRx.cleared.haveSomt := somt
  have header : (!SidebandMsgRx.cleared.haveSomt) = true := rfl
  have tooLong (source : List U8) (many : 48 < source.length) :
      SidebandMsgRx.cleared.chunk.copyAt 0 source = none :=
    (Buffer.copyAt_eq_none _ _ _).mpr (by omega)
  simp only [SidebandMsgRx.receive, msmDpGetOneSbMsg, header,
    build_header (decode_chunkBytes valid body) turn, firstBytes_chunkBytes length,
    drop_chunkBytes fits]
  rw [tooLong _ (by simp; omega)]

theorem sentWhole_of_reassembled (sent : SentMessage chunks)
    (reassembled : Reassembled chunks) : SentWhole chunks := by
  obtain ⟨front, req, all, noDispatch, -, -⟩ := reassembled
  obtain ⟨c, others, rfl⟩ := List.exists_cons_of_ne_nil sent.nonempty
  have valid := sent.valid c List.mem_cons_self
  have somt : c.hdr.somt = true := sent.somt 0 (by simp)
  have eomt : c.hdr.eomt = decide (others = []) := by
    have last : c.hdr.eomt = decide (0 + 1 = (c :: others).length) := sent.eomt 0 (by simp)
    simpa [eq_comm] using last
  obtain ⟨auxMsg, rest, writes, decoded⟩ := decode_first valid
  simp only [List.flatMap_cons, writes, List.cons_append, SidebandMsgRx.receiveAll] at all
  cases received : SidebandMsgRx.cleared.receive auxMsg with
  | error fault => simp [received] at all
  | ok result =>
    obtain ⟨rx, first⟩ := result
    cases later : rx.receiveAll (rest ++ others.flatMap SentChunk.writes) with
    | error fault => simp [received, later, Except.map] at all
    | ok results =>
      simp only [received, later, Except.map, Except.ok.injEq] at all
      have outcome := receive_first decoded somt received
      by_cases last : others = []
      · -- the first transaction dispatches, so it is the only one
        simp only [eomt, last, decide_true, if_true] at outcome
        obtain ⟨early, rfl⟩ := outcome
        have only : front = [] := by
          cases front with
          | nil => rfl
          | cons head tail =>
            have same : Received.dispatched early = head := (List.cons.inj all).1
            exact absurd same.symm (noDispatch head List.mem_cons_self early)
        have none : results = [] := by
          rw [only] at all
          exact (List.cons.inj all).2
        have ended : rest = [] := by
          have length := length_receiveAll later
          rw [none] at length
          exact (List.append_eq_nil_iff.mp (List.length_eq_zero_iff.mp length.symm)).1
        refine ⟨c, auxMsg, by rw [last], by rw [writes, ended], ?_⟩
        by_contra long
        have bytes : auxMsg = chunkBytes c.hdr c.body := by simpa [writes, ended] using valid.cut
        rw [bytes, receive_long valid.hdr valid.msgLen valid.fits (by omega) somt] at received
        simp at received
      · -- everything after the first transaction is taken for data
        simp only [eomt, last, decide_false, Bool.false_eq_true, if_false] at outcome
        obtain ⟨pending, started, unfinished⟩ := outcome
        have dispatched : Received.dispatched req ∈ first :: results := by simp [all]
        have pendingAll : ∀ received ∈ first :: results, received = .pending :=
          List.forall_mem_cons.mpr ⟨pending, receiveAll_data started unfinished later⟩
        simpa using pendingAll _ dispatched

/-- A message is put together and dispatched once, after its last transaction, exactly if it is
    one chunk of at most 48 bytes of data and checksum, sent in one transaction. -/
theorem reassembled_iff_sentWhole {chunks : List SentChunk} (sent : SentMessage chunks) :
    Reassembled chunks ↔ SentWhole chunks :=
  ⟨sentWhole_of_reassembled sent, reassembled_of_sentWhole sent⟩

def SidebandMsgHdr.oneByte (somt eomt : Bool) : SidebandMsgHdr :=
  { SidebandMsgHdr.zero with lct := 1, msgLen := 2, somt := somt, eomt := eomt }

theorem valid_oneByte (somt eomt : Bool) : (SidebandMsgHdr.oneByte somt eomt).Valid := by
  refine ⟨?_, ?_, .inl ?_, ?_, ?_⟩ <;> simp [SidebandMsgHdr.oneByte, SidebandMsgHdr.zero]

def SentChunk.oneByte (somt eomt cut : Bool) (byte : U8) : SentChunk :=
  { hdr := .oneByte somt eomt
    body := [byte]
    writes :=
      if cut then [drmDpEncodeSidebandMsgHdr (.oneByte somt eomt),
        [byte] ++ [drmDpMsgDataCrc4 [byte] 1]]
      else [chunkBytes (.oneByte somt eomt) [byte]] }

theorem SentChunk.valid_oneByte (somt eomt cut : Bool) (byte : U8) :
    (SentChunk.oneByte somt eomt cut byte).Valid where
  hdr := DpMst.valid_oneByte somt eomt
  msgLen := rfl
  fits := by simp [SentChunk.oneByte]
  cut := by cases cut <;> simp [SentChunk.oneByte, chunkBytes]
  nonempty := by cases cut <;> simp [SentChunk.oneByte, chunkBytes, encode_eq]
  first := by cases cut <;> simp [SentChunk.oneByte, chunkBytes]

theorem sentMessage_oneByte (cut : Bool) (byte : U8) :
    SentMessage [.oneByte true true cut byte] where
  nonempty := by simp
  valid := by simp [SentChunk.valid_oneByte]
  somt := by simp [SentChunk.oneByte, SidebandMsgHdr.oneByte]
  eomt := by simp [SentChunk.oneByte, SidebandMsgHdr.oneByte]

/-- A link address request in one transaction. -/
theorem reassembled_iff_sentWhole_linkAddress : Reassembled [.oneByte true true false 1] :=
  (reassembled_iff_sentWhole (sentMessage_oneByte false 1)).mpr ⟨_, _, rfl, rfl, by decide⟩

/-- The same request with its header in a transaction of its own is dispatched before its body
    comes; and a message of two chunks is not dispatched. -/
theorem cut_message_not_reassembled :
    (SentMessage [.oneByte true true true 1] ∧ ¬ Reassembled [.oneByte true true true 1]) ∧
      (SentMessage [.oneByte true false false 1, .oneByte false true false 2] ∧
        ¬ Reassembled [.oneByte true false false 1, .oneByte false true false 2]) := by
  have twoChunks : SentMessage [.oneByte true false false 1, .oneByte false true false 2] := by
    refine ⟨by simp, by simp [SentChunk.valid_oneByte], ?_, ?_⟩
    · intro i hi
      have : i = 0 ∨ i = 1 := by simp at hi; omega
      rcases this with rfl | rfl <;> rfl
    · intro i hi
      have : i = 0 ∨ i = 1 := by simp at hi; omega
      rcases this with rfl | rfl <;> rfl
  refine ⟨⟨sentMessage_oneByte true 1, fun reassembled => ?_⟩, twoChunks, fun reassembled => ?_⟩
  · obtain ⟨c, auxMsg, chunk, writes, -⟩ :=
      sentWhole_of_reassembled (sentMessage_oneByte true 1) reassembled
    obtain rfl := (List.cons.inj chunk).1
    simp [SentChunk.oneByte] at writes
  · obtain ⟨c, auxMsg, chunk, -, -⟩ := sentWhole_of_reassembled twoChunks reassembled
    simp at chunk

end DisplayDrivers.DpMst
