import DisplayDrivers.DpMst.Build

/-! # How a reply is published

The reply goes out in chunks of 44 bytes, each with a header and a checksum of its own; a receiver
that is given one after the other gets the reply back.
-/

namespace DisplayDrivers.DpMst

open DisplayDrivers.Lib

/-- A receiver that is given chunks one by one, each taken for one with a header; `none` if it
    refuses one. -/
def SidebandMsgRx.feed (rx : SidebandMsgRx) : List (List U8) → Except Fault (Option SidebandMsgRx)
  | [] => .ok (some rx)
  | chunk :: rest =>
    match drmDpSidebandMsgBuild rx chunk true with
    | .error fault => .error fault
    | .ok (_, false) => .ok none
    | .ok (rx, true) => rx.feed rest

/-- The loop ends, each chunk is a header, at most 44 bytes and their checksum, the first and the
    last are marked and no other, and a cleared receiver gets back the bytes of the reply. -/
def PublishedRight (reply : Buffer U8 256) (size : Nat) (seqno : Bool) : Prop :=
  ∃ rounds chunks, publish reply size seqno rounds 0 = some chunks ∧
    (∀ i (hi : i < chunks.length), ∃ hdr hdrlen data, chunks[i] = chunkBytes hdr data ∧
      data.length ≤ 44 ∧ drmDpDecodeSidebandMsgHdr chunks[i] = some (hdr, hdrlen) ∧
        hdr.somt = decide (i = 0) ∧ hdr.eomt = decide (i + 1 = chunks.length)) ∧
    ∃ rx, SidebandMsgRx.cleared.feed chunks = .ok (some rx) ∧ rx.curlen.toNat = size ∧
      rx.msg.toList.take size = reply.toList.take size

/-! ## One chunk -/

def replyHdr (size : Nat) (seqno : Bool) (start len : Nat) : SidebandMsgHdr :=
  { SidebandMsgHdr.zero with
    lct := 1
    seqno := seqno
    msgLen := BitVec.ofNat 8 (len + 1)
    eomt := start + len = size
    somt := start = 0 }

theorem valid_replyHdr (size : Nat) (seqno : Bool) (start : Nat) {len : Nat} (short : len ≤ 44) :
    (replyHdr size seqno start len).Valid := by
  refine ⟨?_, ?_, .inl ?_, ?_, ?_⟩
  · simp [replyHdr]
  · simp [replyHdr, SidebandMsgHdr.zero]
  · simp [replyHdr]
  · simp [replyHdr, SidebandMsgHdr.zero]
  · show BitVec.ofNat 8 (len + 1) < 64
    rw [BitVec.lt_def, toNat_ofNat_of_lt (by omega)]
    show len + 1 < 64
    omega

def replyData (reply : Buffer U8 256) (start len : Nat) : List U8 :=
  (reply.toList.drop start).take len

variable {start : Nat}

theorem length_replyData (reply : Buffer U8 256) {len : Nat} (inside : start + len ≤ 256) :
    (replyData reply start len).length = len := by
  simp [replyData, reply.length_toList]
  omega

theorem take_append_replyData (reply : Buffer U8 256) (start len : Nat) :
    reply.toList.take start ++ replyData reply start len = reply.toList.take (start + len) := by
  rw [replyData, ← List.take_add]

theorem replyChunk_eq (reply : Buffer U8 256) {size : Nat} (seqno : Bool) {len : Nat}
    (length : min (size - start) 44 = len) (more : start < size) (small : size ≤ 255) :
    replyChunk reply size seqno (BitVec.ofNat 8 start) =
      (chunkBytes (replyHdr size seqno start len) (replyData reply start len),
        BitVec.ofNat 8 (start + len)) := by
  have next : start + len < 256 := by omega
  have dataLength : (replyData reply start len).length = len :=
    length_replyData reply (by omega)
  have position : (BitVec.ofNat 8 start).toNat = start := toNat_ofNat_of_lt (by omega)
  have moved : BitVec.ofNat 8 start + BitVec.ofNat 8 len = BitVec.ofNat 8 (start + len) :=
    (BitVec.ofNat_add start len).symm
  have first : (start + len = len) = (start = 0) := by
    rw [eq_iff_iff]
    omega
  simp only [replyChunk, position, length, moved, toNat_ofNat_of_lt next, chunkBytes, replyHdr,
    dataLength, first, List.append_assoc]
  rfl

/-! ## The loop

While the position fits 8 bits, the chunks are those of the reply cut into pieces of 44 bytes. -/

def replyChunks (reply : Buffer U8 256) (size : Nat) (seqno : Bool) : Nat → Nat → List (List U8)
  | 0, _ => []
  | rounds + 1, start =>
    if start < size then
      let len := min (size - start) 44
      chunkBytes (replyHdr size seqno start len) (replyData reply start len) ::
        replyChunks reply size seqno rounds (start + len)
    else []

section Loop

variable (reply : Buffer U8 256) {size : Nat} (seqno : Bool)

theorem replyChunks_eq_nil {rounds : Nat} (enough : size - start ≤ rounds) :
    replyChunks reply size seqno rounds start = [] ↔ size ≤ start := by
  cases rounds with
  | zero =>
    simp only [replyChunks, true_iff]
    omega
  | succ rounds =>
    by_cases more : start < size
    · simp only [replyChunks, more, if_true, reduceCtorEq, false_iff]
      omega
    · simp only [replyChunks, more, if_false, true_iff]
      omega

theorem publish_eq (small : size ≤ 255) {rounds : Nat} (enough : size - start ≤ rounds)
    (inside : start ≤ size) :
    publish reply size seqno rounds (BitVec.ofNat 8 start) =
      some (replyChunks reply size seqno rounds start) := by
  have position : (BitVec.ofNat 8 start).toNat = start := toNat_ofNat_of_lt (by omega)
  induction rounds generalizing start with
  | zero =>
    rw [publish, position, if_neg (by omega)]
    rfl
  | succ rounds ih =>
    by_cases more : start < size
    · have chunk := replyChunk_eq reply seqno rfl more small
      have later := @ih (start + min (size - start) 44) (by omega) (by omega)
        (toNat_ofNat_of_lt (by omega))
      rw [publish, position, if_pos more, replyChunks, if_pos more]
      simp only [chunk, later, Option.map_some]
    · rw [publish, position, if_neg more, replyChunks, if_neg more]

theorem replyChunks_marked {rounds : Nat} (enough : size - start ≤ rounds) (i : Nat)
    (hi : i < (replyChunks reply size seqno rounds start).length) :
    ∃ hdr hdrlen data, (replyChunks reply size seqno rounds start)[i] = chunkBytes hdr data ∧
      data.length ≤ 44 ∧
      drmDpDecodeSidebandMsgHdr (replyChunks reply size seqno rounds start)[i] =
        some (hdr, hdrlen) ∧
      hdr.somt = decide (start = 0 ∧ i = 0) ∧
      hdr.eomt = decide (i + 1 = (replyChunks reply size seqno rounds start).length) := by
  induction rounds generalizing start i with
  | zero => simp [replyChunks] at hi
  | succ rounds ih =>
    by_cases more : start < size
    · have valid := valid_replyHdr size seqno start (Nat.min_le_right (size - start) 44)
      have ends : replyChunks reply size seqno rounds (start + min (size - start) 44) = [] ↔
          size ≤ start + min (size - start) 44 := replyChunks_eq_nil reply seqno (by omega)
      simp only [replyChunks, more, if_true] at hi ⊢
      cases i with
      | zero =>
        have short : (replyData reply start (min (size - start) 44)).length ≤ 44 :=
          Nat.le_trans (List.length_take_le _ _) (Nat.min_le_right _ _)
        refine ⟨_, _, _, rfl, short, decode_chunkBytes valid _, by simp [replyHdr], ?_⟩
        show decide (start + min (size - start) 44 = size) = _
        rw [decide_eq_decide, List.length_cons, Nat.add_right_cancel_iff, eq_comm (a := 0),
          List.length_eq_zero_iff, ends]
        omega
      | succ i =>
        obtain ⟨hdr, hdrlen, data, bytes, short, decoded, somt, eomt⟩ :=
          @ih (start + min (size - start) 44) (by omega) i (by simpa using hi)
        refine ⟨hdr, hdrlen, data, by simpa using bytes, short, by simpa using decoded, ?_,
          by simpa using eomt⟩
        rw [somt, decide_eq_decide]
        omega
    · simp [replyChunks, more] at hi

theorem feed_replyChunks (small : size ≤ 255) {rounds : Nat}
    (enough : size - start ≤ rounds) (inside : start ≤ size) {rx : SidebandMsgRx}
    (haveSomt : rx.haveSomt = decide (start ≠ 0)) (curlen : rx.curlen = BitVec.ofNat 8 start)
    (msg : rx.msg.toList.take start = reply.toList.take start) :
    ∃ rx', rx.feed (replyChunks reply size seqno rounds start) = .ok (some rx') ∧
      rx'.curlen = BitVec.ofNat 8 size ∧
      rx'.msg.toList.take size = reply.toList.take size := by
  induction rounds generalizing start rx with
  | zero =>
    obtain rfl : start = size := by omega
    exact ⟨rx, rfl, curlen, msg⟩
  | succ rounds ih =>
    by_cases more : start < size
    · obtain ⟨len, length⟩ : ∃ len, min (size - start) 44 = len := ⟨_, rfl⟩
      have dataLength : (replyData reply start len).length = len :=
        length_replyData reply (by omega)
      have valid : (replyHdr size seqno start len).Valid :=
        valid_replyHdr size seqno start (by omega)
      have msgLen : (replyHdr size seqno start len).msgLen =
          BitVec.ofNat 8 ((replyData reply start len).length + 1) := by
        rw [dataLength]
        rfl
      have turn : (replyHdr size seqno start len).somt = !rx.haveSomt := by
        simp [replyHdr, haveSomt]
      have position : rx.curlen.toNat = start := by
        rw [curlen, toNat_ofNat_of_lt (by omega)]
      obtain ⟨rx', built, msg', curlen', haveSomt', -, -⟩ :=
        build_chunk valid msgLen (by omega) turn (by omega)
      rw [dataLength, position, msg, take_append_replyData] at msg'
      rw [dataLength, curlen, ← BitVec.ofNat_add] at curlen'
      have started : rx'.haveSomt = decide (start + len ≠ 0) := by
        rw [haveSomt', eq_comm, decide_eq_true_eq]
        omega
      simp only [replyChunks, more, if_true, length, SidebandMsgRx.feed, built]
      exact @ih (start + len) (by omega) (by omega) rx' started curlen' msg'
    · obtain rfl : start = size := by omega
      simp only [replyChunks, more, if_false]
      exact ⟨rx, rfl, curlen, msg⟩

end Loop

theorem publish_never_ends (reply : Buffer U8 256) {size : Nat} (large : 256 ≤ size)
    (seqno : Bool) (rounds : Nat) (curlen : U8) :
    publish reply size seqno rounds curlen = none := by
  have more : curlen.toNat < size := by
    have := curlen.isLt
    omega
  induction rounds generalizing curlen with
  | zero => rw [publish, if_pos more]
  | succ rounds ih =>
    have next := (replyChunk reply size seqno curlen).2.isLt
    have later := ih (replyChunk reply size seqno curlen).2 (by omega)
    rw [publish, if_pos more]
    simp only [later, Option.map_none]

/-! ## Which replies get through -/

/-- Of the replies that fit the message buffer, those that get through are the ones whose length
    fits 8 bits. -/
theorem publishedRight_iff (reply : Buffer U8 256) {size : Nat} (fits : size ≤ 256)
    (seqno : Bool) : PublishedRight reply size seqno ↔ size ≤ 255 := by
  constructor
  · rintro ⟨rounds, chunks, published, -⟩
    by_contra large
    rw [publish_never_ends reply (by omega)] at published
    simp at published
  · intro small
    have enough : size - 0 ≤ size := Nat.sub_le size 0
    obtain ⟨rx, fed, curlen, msg⟩ := feed_replyChunks reply seqno small enough (Nat.zero_le size)
      (show SidebandMsgRx.cleared.haveSomt = decide (0 ≠ 0) from rfl) rfl (by simp)
    refine ⟨size, _, publish_eq reply seqno small enough (Nat.zero_le size), ?_, rx, fed, ?_, msg⟩
    · intro i hi
      simpa using replyChunks_marked reply seqno enough i hi
    · rw [curlen, toNat_ofNat_of_lt (by omega)]

theorem publishedRight_iff_oneHundred :
    PublishedRight (Buffer.replicate 256 7) 100 true :=
  (publishedRight_iff _ (by decide) true).mpr (by decide)

/-- A reply of 256 bytes fills the buffer, and its length is taken for 0. -/
theorem full_reply_not_published : ¬ PublishedRight (Buffer.replicate 256 7) 256 true := by
  rintro ⟨rounds, chunks, published, -⟩
  rw [publish_never_ends _ (by decide)] at published
  simp at published

end DisplayDrivers.DpMst
