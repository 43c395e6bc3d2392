import DisplayDrivers.DpMst.Header
import DisplayDrivers.Lib.Checksum

/-! # Sideband headers: single bit errors

The checksum of a header is over all of its bits but the four that hold it, so a flipped bit changes
one of the two and not the other. The upper half of the first byte tells how long the header is; a
flip there moves the checksum to another byte, and nothing is said about it.
-/

namespace DisplayDrivers.DpMst

open DisplayDrivers.Lib DisplayDrivers.Lib.Checksum

/-! ## The remainder -/

theorem exists_small {s : U8} (small : s < 16) : ∃ n < 16, s = BitVec.ofNat 8 n :=
  ⟨s.toNat, by simpa [BitVec.lt_def] using small, by simp⟩

theorem separates_headerCrcStep : Separates headerCrcStep (· < 16) where
  keeps s b small := by
    obtain ⟨n, lt, rfl⟩ := exists_small small
    have all : ∀ n < 16, ∀ b, headerCrcStep (BitVec.ofNat 8 n) b < 16 := by decide
    exact all n lt b
  remainder s s' b small small' same := by
    obtain ⟨n, lt, rfl⟩ := exists_small small
    obtain ⟨n', lt', rfl⟩ := exists_small small'
    have all : ∀ b, ∀ n < 16, ∀ n' < 16,
        headerCrcStep (BitVec.ofNat 8 n) b = headerCrcStep (BitVec.ofNat 8 n') b → n = n' := by
      decide
    rw [all b n lt n' lt' same]
  input s b b' small same := by
    obtain ⟨n, lt, rfl⟩ := exists_small small
    have all : ∀ n < 16, ∀ b b',
        headerCrcStep (BitVec.ofNat 8 n) b = headerCrcStep (BitVec.ofNat 8 n) b' → b = b' := by
      decide
    exact all n lt b b' same

theorem headerCrc_eq (data : List U8) (numNibbles : Nat) : drmDpMsgHeaderCrc4 data numNibbles =
    ((data.flatMap bits).take (numNibbles * 4) ++ List.replicate 4 false).foldl
    headerCrcStep 0 := by
  rw [drmDpMsgHeaderCrc4, List.foldl_append]

theorem headerCrc_lt (data : List U8) (numNibbles : Nat) :
    drmDpMsgHeaderCrc4 data numNibbles < 16 := by
  rw [headerCrc_eq]
  exact separates_headerCrcStep.foldl_keeps (by decide) _

/-! ## Flipping a bit -/

def flipAt (x : U8) (b : Nat) : U8 := x ^^^ 1#8 <<< b

def flipBit (bytes : List U8) (i b : Nat) : List U8 := bytes.modify i (flipAt · b)

theorem bits_flip (x : U8) {b : Nat} (inByte : b < 8) : ∃ front back c,
    front.length = 7 - b ∧ bits x = front ++ c :: back ∧ bits (flipAt x b) =
    front ++ (!c) :: back := by
  refine ⟨(bits x).take (7 - b), (bits x).drop (8 - b), x.getLsbD b, ?_, ?_, ?_⟩
  · rw [List.length_take, length_bits]
    omega
  -- bit `b` of the byte comes as number `7 - b`
  · rcases byte_cases inByte with rfl | rfl | rfl | rfl | rfl | rfl | rfl | rfl <;>
      simp [bits, List.range_succ, BitVec.getMsbD]
  · rcases byte_cases inByte with rfl | rfl | rfl | rfl | rfl | rfl | rfl | rfl <;>
      simp [bits, flipAt, List.range_succ, BitVec.getMsbD]

theorem flip_and (x mask : U8) (b : Nat) :
    flipAt x b &&& mask = (x &&& mask) ^^^ (1#8 <<< b &&& mask) := by
  ext i inByte
  simp only [flipAt, BitVec.getElem_and, BitVec.getElem_xor]
  cases mask[i] <;> simp

theorem flip_low (x : U8) {b : Nat} (low : b < 4) :
    flipAt x b &&& 0xf0 = x &&& 0xf0 ∧ flipAt x b &&& 0xf ≠ x &&& 0xf := by
  have masks : ∀ b < 4, 1#8 <<< b &&& 0xf0 = 0 ∧ 1#8 <<< b &&& 0xf ≠ 0 := by decide
  obtain ⟨upper, lower⟩ := masks b low
  rw [flip_and, flip_and, upper]
  refine ⟨BitVec.xor_zero, fun same => lower ?_⟩
  rw [← BitVec.xor_zero (x := x &&& 0xf), BitVec.xor_assoc, BitVec.xor_right_inj] at same
  simpa using same

theorem flip_high (x : U8) {b : Nat} (high : 4 ≤ b) (inByte : b < 8) :
    flipAt x b &&& 0xf = x &&& 0xf := by
  have masks : ∀ b < 8, 4 ≤ b → 1#8 <<< b &&& 0xf = 0 := by decide
  rw [flip_and, masks b inByte high]
  exact BitVec.xor_zero

/-! ## What a flip does to the checksum -/

section

variable (front back : List U8) (x : U8) {b : Nat} (numNibbles : Nat)

theorem flatMap_flip (inByte : b < 8) : ∃ before after c,
    before.length = 8 * front.length + (7 - b) ∧
      (front ++ x :: back).flatMap bits = before ++ c :: after ∧
      (front ++ flipAt x b :: back).flatMap bits = before ++ (!c) :: after := by
  obtain ⟨upper, lower, c, upperLength, plain, flipped⟩ := bits_flip x inByte
  refine ⟨front.flatMap bits ++ upper, lower ++ back.flatMap bits, c, ?_, ?_, ?_⟩
  · rw [List.length_append, length_flatMap_bits, upperLength]
  · rw [List.flatMap_append, List.flatMap_cons, plain]
    simp
  · rw [List.flatMap_append, List.flatMap_cons, flipped]
    simp

theorem headerCrc_flip_ne (inByte : b < 8) (covered : 8 * front.length + (7 - b) < numNibbles * 4) :
    drmDpMsgHeaderCrc4 (front ++ flipAt x b :: back) numNibbles ≠
      drmDpMsgHeaderCrc4 (front ++ x :: back) numNibbles := by
  obtain ⟨before, after, c, position, plain, flipped⟩ := flatMap_flip front back x inByte
  obtain ⟨more, count⟩ := Nat.exists_eq_add_of_lt covered
  have stream (c : Bool) : (before ++ c :: after).take (numNibbles * 4) =
      before ++ c :: after.take more := by
    have length : numNibbles * 4 = before.length + (more + 1) := by omega
    rw [length, List.take_length_add_append, List.take_succ_cons]
  rw [headerCrc_eq, headerCrc_eq, plain, flipped, stream, stream]
  simp only [List.append_assoc, List.cons_append]
  intro same
  have zero : (0 : U8) < 16 := by decide
  -- the four zero bits that the checksum appends are part of what lies behind the flipped bit
  have bit := separates_headerCrcStep.foldl_input zero same
  cases c <;> cases bit

theorem headerCrc_flip_eq (inByte : b < 8) (behind : numNibbles * 4 ≤ 8 * front.length + (7 - b)) :
    drmDpMsgHeaderCrc4 (front ++ flipAt x b :: back) numNibbles =
      drmDpMsgHeaderCrc4 (front ++ x :: back) numNibbles := by
  obtain ⟨before, after, c, position, plain, flipped⟩ := flatMap_flip front back x inByte
  have le : numNibbles * 4 ≤ before.length := by omega
  rw [headerCrc_eq, headerCrc_eq, plain, flipped, List.take_append_of_le_length le,
    List.take_append_of_le_length le]

end

/-! ## Decoding -/

def headerLength (first : U8) : Nat := 3 + ((first &&& 0xf0) >>> 4).toNat / 2

def HeaderChecks (buf : List U8) : Prop :=
  let len := headerLength (buf.getD 0 0)
  drmDpMsgHeaderCrc4 buf (len * 2 - 1) &&& 0xf = buf.getD (len - 1) 0 &&& 0xf

variable {result : SidebandMsgHdr × Nat}

theorem checks_of_decode {buf : List U8}
    (decoded : drmDpDecodeSidebandMsgHdr buf = some result) : HeaderChecks buf := by
  by_contra wrong
  have none : drmDpDecodeSidebandMsgHdr buf = none := by
    simp only [drmDpDecodeSidebandMsgHdr]
    split
    · rfl
    · split
      · rfl
      · exact if_pos wrong
  rw [none] at decoded
  cases decoded

section

variable {front back : List U8} {x : U8} {b : Nat}

theorem getD_at (y : U8) : (front ++ y :: back).getD front.length 0 = y := by
  simp [List.getD]

theorem getD_other {i : Nat} (other : i ≠ front.length) (y z : U8) :
    (front ++ y :: back).getD i 0 = (front ++ z :: back).getD i 0 := by
  rcases Nat.lt_or_gt_of_ne other with before | behind
  · simp [List.getD, List.getElem?_append_left before]
  · obtain ⟨k, rfl⟩ := Nat.exists_eq_add_of_lt behind
    have same (y : U8) : (front ++ y :: back)[front.length + k + 1]? = back[k]? := by
      rw [List.getElem?_append_right (by omega)]
      have index : front.length + k + 1 - front.length = k + 1 := by omega
      rw [index, List.getElem?_cons_succ]
    simp [List.getD, same]

theorem headerLength_flip (outside : ¬(front = [] ∧ 4 ≤ b)) (inByte : b < 8) :
    headerLength ((front ++ flipAt x b :: back).getD 0 0) =
      headerLength ((front ++ x :: back).getD 0 0) := by
  cases front with
  | nil =>
    have low : b < 4 := by
      by_contra high
      exact outside ⟨rfl, by omega⟩
    show headerLength (flipAt x b) = headerLength x
    rw [headerLength, headerLength, (flip_low x low).1]
  | cons y rest => rfl

theorem decode_flip (decoded : drmDpDecodeSidebandMsgHdr (front ++ x :: back) = some result)
    (inHeader : front.length < headerLength ((front ++ x :: back).getD 0 0)) (inByte : b < 8)
    (outside : ¬(front = [] ∧ 4 ≤ b)) :
    drmDpDecodeSidebandMsgHdr (front ++ flipAt x b :: back) = none := by
  have length : headerLength ((front ++ flipAt x b :: back).getD 0 0) =
      headerLength ((front ++ x :: back).getD 0 0) := headerLength_flip outside inByte
  have plain := checks_of_decode decoded
  rw [Option.eq_none_iff_forall_ne_some]
  intro result' decoded'
  have flipped := checks_of_decode decoded'
  -- both decodings compare at the same length
  rw [HeaderChecks, length] at flipped
  rw [HeaderChecks] at plain
  obtain ⟨len, lenEq⟩ : ∃ len, len = headerLength ((front ++ x :: back).getD 0 0) := ⟨_, rfl⟩
  rw [← lenEq] at plain flipped inHeader
  have atLeast : 3 ≤ len := by
    rw [lenEq, headerLength]
    omega
  rw [and_15_of_lt (headerCrc_lt _ _)] at plain flipped
  by_cases inChecksum : front.length = len - 1 ∧ b < 4
  · -- the stored checksum changes, and the computed one does not
    obtain ⟨last, low⟩ := inChecksum
    have same := headerCrc_flip_eq front back x (len * 2 - 1) inByte (by omega)
    rw [← last, getD_at] at plain flipped
    rw [same, plain] at flipped
    exact (flip_low x low).2 flipped.symm
  · -- the computed checksum changes, and the stored one does not
    have change := headerCrc_flip_ne front back x (len * 2 - 1) inByte (by omega)
    have stored : (front ++ flipAt x b :: back).getD (len - 1) 0 &&& 0xf =
        (front ++ x :: back).getD (len - 1) 0 &&& 0xf := by
      by_cases last : len - 1 = front.length
      · -- the upper half of the last byte is not part of the checksum
        rw [last, getD_at, getD_at, flip_high x (by omega) inByte]
      · rw [getD_other last]
    exact change (by rw [flipped, plain, stored])

end

/-! ## Encoded headers -/

/-- The header whose `rad` bytes are in an array of eight; the first `lct / 2` are in use. -/
def SidebandMsgHdr.withRad (hdr : SidebandMsgHdr) (rad : Buffer U8 8) : SidebandMsgHdr :=
  { hdr with rad := rad.toList.take (hdr.lct.toNat / 2) }

variable {hdr : SidebandMsgHdr}

theorem valid_withRad (rad : Buffer U8 8) (lct : hdr.lct < 16)
    (lcr : hdr.lcr < 16) (nonzero : hdr.lct ≠ 0 ∨ hdr.lcr ≠ 0) (msgLen : hdr.msgLen < 64) :
    (hdr.withRad rad).Valid where
  lct := lct
  lcr := lcr
  nonzero := nonzero
  rad := by
    have small : hdr.lct.toNat < 16 := by simpa [BitVec.lt_def] using lct
    simp only [SidebandMsgHdr.withRad, List.length_take, rad.length_toList]
    omega
  msgLen := msgLen

theorem headerLength_encode (valid : hdr.Valid) (tail : List U8) :
    headerLength ((drmDpEncodeSidebandMsgHdr hdr ++ tail).getD 0 0) =
      (drmDpEncodeSidebandMsgHdr hdr).length := by
  have first : (drmDpEncodeSidebandMsgHdr hdr ++ tail).getD 0 0 = linkByte hdr.lct hdr.lcr := by
    rw [encode_eq]
    rfl
  rw [first, headerLength, linkByte_lct valid.lct, length_encode, valid.rad, Nat.add_comm]

/-- A header is decoded from its encoding, whatever follows it, and no encoding with one flipped bit
    outside the link count total is. -/
theorem header_round_trip_and_detection {hdr : SidebandMsgHdr} (rad : Buffer U8 8)
    (lct : hdr.lct < 16) (lcr : hdr.lcr < 16) (nonzero : hdr.lct ≠ 0 ∨ hdr.lcr ≠ 0)
    (msgLen : hdr.msgLen < 64) (tail : List U8) :
    drmDpDecodeSidebandMsgHdr (drmDpEncodeSidebandMsgHdr (hdr.withRad rad) ++ tail) =
        some (hdr.withRad rad, (drmDpEncodeSidebandMsgHdr (hdr.withRad rad)).length) ∧
      ∀ i < (drmDpEncodeSidebandMsgHdr (hdr.withRad rad)).length, ∀ b < 8, ¬(i = 0 ∧ 4 ≤ b) →
        drmDpDecodeSidebandMsgHdr
          (flipBit (drmDpEncodeSidebandMsgHdr (hdr.withRad rad)) i b ++ tail) = none := by
  have valid := valid_withRad rad lct lcr nonzero msgLen
  have decoded := decode_encode valid tail
  have length := headerLength_encode valid tail
  refine ⟨decoded, fun i inHeader b inByte outside => ?_⟩
  obtain ⟨bytes, bytesEq⟩ : ∃ bytes, bytes = drmDpEncodeSidebandMsgHdr (hdr.withRad rad) := ⟨_, rfl⟩
  rw [← bytesEq] at decoded length inHeader ⊢
  have apart : bytes = bytes.take i ++ bytes[i] :: bytes.drop (i + 1) := by
    rw [← List.drop_eq_getElem_cons inHeader, List.take_append_drop]
  have split : bytes ++ tail = bytes.take i ++ bytes[i] :: (bytes.drop (i + 1) ++ tail) := by
    rw [← List.cons_append, ← List.append_assoc, ← apart]
  have flipped : flipBit bytes i b ++ tail =
      bytes.take i ++ flipAt bytes[i] b :: (bytes.drop (i + 1) ++ tail) := by
    rw [flipBit, List.modify_eq_take_cons_drop inHeader]
    simp
  have front : (bytes.take i).length = i := by
    rw [List.length_take]
    omega
  rw [split] at decoded length
  rw [flipped]
  apply decode_flip decoded (by omega) inByte
  rintro ⟨empty, high⟩
  rw [empty] at front
  exact outside ⟨front.symm, high⟩

/-- A header of three links, somt and eomt, that is followed by one byte. -/
theorem header_round_trip_and_detection_threeLinks :
    let hdr : SidebandMsgHdr :=
      { SidebandMsgHdr.zero with lct := 3, lcr := 2, msgLen := 5, somt := true, eomt := true }
    let sent := drmDpEncodeSidebandMsgHdr (hdr.withRad (Buffer.replicate 8 0x21))
    drmDpDecodeSidebandMsgHdr (sent ++ [7]) =
        some (hdr.withRad (Buffer.replicate 8 0x21), sent.length) ∧
      ∀ i < sent.length, ∀ b < 8, ¬(i = 0 ∧ 4 ≤ b) →
        drmDpDecodeSidebandMsgHdr (flipBit sent i b ++ [7]) = none :=
  header_round_trip_and_detection (Buffer.replicate 8 0x21) (by decide) (by decide)
    (.inl (by decide)) (by decide) [7]

end DisplayDrivers.DpMst
