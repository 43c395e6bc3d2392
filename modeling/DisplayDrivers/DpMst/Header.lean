import Mathlib.Algebra.Group.Nat.Defs
import DisplayDrivers.DpMst.Sideband

/-! # Sideband headers: what is encoded is decoded

The checksum of a header covers all of its nibbles but the last, which holds the checksum itself.
So writing it there does not change it, and neither does anything that follows the header.
-/

namespace DisplayDrivers.DpMst


structure SidebandMsgHdr.Valid (hdr : SidebandMsgHdr) : Prop where
  lct : hdr.lct < 16
  lcr : hdr.lcr < 16
  nonzero : hdr.lct ≠ 0 ∨ hdr.lcr ≠ 0
  rad : hdr.rad.length = hdr.lct.toNat / 2
  msgLen : hdr.msgLen < 64

/-! ## Bit fields -/

variable {x : U8}

theorem and_mask_of_lt {k : Nat} (small : x.toNat < 2 ^ k) (fits : k ≤ 8) :
    x &&& BitVec.ofNat 8 (2 ^ k - 1) = x := by
  have mask : 2 ^ k - 1 < 2 ^ 8 := by
    have := Nat.pow_le_pow_right (n := 2) (by decide) fits
    omega
  apply BitVec.eq_of_toNat_eq
  rw [BitVec.toNat_and, BitVec.toNat_ofNat, Nat.mod_eq_of_lt mask,
    Nat.and_two_pow_sub_one_eq_mod, Nat.mod_eq_of_lt small]

theorem and_15_of_lt (small : x < 16) : x &&& 0xf = x :=
  and_mask_of_lt (k := 4) (by simpa [BitVec.lt_def] using small) (by decide)

theorem and_63_of_lt (small : x < 64) : x &&& 0x3f = x :=
  and_mask_of_lt (k := 6) (by simpa [BitVec.lt_def] using small) (by decide)

theorem byte_cases {i : Nat} (hi : i < 8) :
    i = 0 ∨ i = 1 ∨ i = 2 ∨ i = 3 ∨ i = 4 ∨ i = 5 ∨ i = 6 ∨ i = 7 := by
  omega

def linkByte (lct lcr : U8) : U8 := (lct &&& 0xf) <<< 4 ||| (lcr &&& 0xf)

theorem linkByte_lct {lct : U8} (small : lct < 16) (lcr : U8) :
    (linkByte lct lcr &&& 0xf0) >>> 4 = lct := by
  conv_rhs => rw [← and_15_of_lt small]
  ext i hi
  rcases byte_cases hi with rfl | rfl | rfl | rfl | rfl | rfl | rfl | rfl <;> simp [linkByte]

theorem linkByte_lcr (lct : U8) {lcr : U8} (small : lcr < 16) :
    linkByte lct lcr &&& 0xf = lcr := by
  conv_rhs => rw [← and_15_of_lt small]
  ext i hi
  rcases byte_cases hi with rfl | rfl | rfl | rfl | rfl | rfl | rfl | rfl <;> simp [linkByte]

theorem linkByte_ne_zero {lct lcr : U8} (lctSmall : lct < 16) (lcrSmall : lcr < 16)
    (nonzero : lct ≠ 0 ∨ lcr ≠ 0) : linkByte lct lcr ≠ 0 := by
  intro zero
  have lctZero := linkByte_lct lctSmall lcr
  have lcrZero := linkByte_lcr lct lcrSmall
  rw [zero] at lctZero lcrZero
  exact nonzero.elim (fun h => h lctZero.symm) (fun h => h lcrZero.symm)

def lengthByte (broadcast pathMsg : Bool) (msgLen : U8) : U8 :=
  bit broadcast 7 ||| bit pathMsg 6 ||| (msgLen &&& 0x3f)

theorem lengthByte_fields (broadcast pathMsg : Bool) {msgLen : U8} (small : msgLen < 64) :
    (lengthByte broadcast pathMsg msgLen).getLsbD 7 = broadcast ∧
      (lengthByte broadcast pathMsg msgLen).getLsbD 6 = pathMsg ∧
      lengthByte broadcast pathMsg msgLen &&& 0x3f = msgLen := by
  refine ⟨?_, ?_, ?_⟩
  · cases broadcast <;> cases pathMsg <;> simp [lengthByte, bit]
  · cases broadcast <;> cases pathMsg <;> simp [lengthByte, bit]
  · rw [lengthByte, BitVec.and_or_distrib_right, BitVec.and_assoc]
    cases broadcast <;> cases pathMsg <;> simpa [bit] using and_63_of_lt small

def flagByte (somt eomt seqno : Bool) : U8 := bit somt 7 ||| bit eomt 6 ||| bit seqno 4

theorem flagByte_fields (somt eomt seqno : Bool) (crc4 : U8) :
    (flagByte somt eomt seqno ||| (crc4 &&& 0xf)).getLsbD 7 = somt ∧
      (flagByte somt eomt seqno ||| (crc4 &&& 0xf)).getLsbD 6 = eomt ∧
      (flagByte somt eomt seqno ||| (crc4 &&& 0xf)).getLsbD 4 = seqno ∧
      (flagByte somt eomt seqno ||| (crc4 &&& 0xf)) &&& 0xf = crc4 &&& 0xf := by
  refine ⟨?_, ?_, ?_, ?_⟩
  · cases somt <;> cases eomt <;> cases seqno <;> simp [flagByte, bit]
  · cases somt <;> cases eomt <;> cases seqno <;> simp [flagByte, bit]
  · cases somt <;> cases eomt <;> cases seqno <;> simp [flagByte, bit]
  · rw [BitVec.and_or_distrib_right, BitVec.and_assoc]
    cases somt <;> cases eomt <;> cases seqno <;> simp [flagByte, bit]

/-! ## The checksum -/

@[simp] theorem length_bits (b : U8) : (bits b).length = 8 := by simp [bits]

theorem length_flatMap_bits (data : List U8) : (data.flatMap bits).length = 8 * data.length := by
  induction data with
  | nil => rfl
  | cons b rest ih =>
    simp [ih]
    omega

theorem take_bits_or_low (b crc4 : U8) :
    (bits (b ||| (crc4 &&& 0xf))).take 4 = (bits b).take 4 := by
  simp [bits, List.range_succ, BitVec.getMsbD]

theorem headerCrc_append (front : List U8) (last crc4 : U8) (tail : List U8) :
    drmDpMsgHeaderCrc4 (front ++ (last ||| (crc4 &&& 0xf)) :: tail) ((front.length + 1) * 2 - 1) =
      drmDpMsgHeaderCrc4 (front ++ [last]) ((front.length + 1) * 2 - 1) := by
  have covered : ((front.length + 1) * 2 - 1) * 4 = (front.flatMap bits).length + 4 := by
    rw [length_flatMap_bits]
    omega
  have read (b : U8) (rest : List U8) :
      ((front ++ b :: rest).flatMap bits).take (((front.length + 1) * 2 - 1) * 4) =
        front.flatMap bits ++ (bits b).take 4 := by
    rw [covered, List.flatMap_append, List.take_length_add_append, List.flatMap_cons,
      List.take_append_of_le_length (by simp)]
  simp only [drmDpMsgHeaderCrc4, read, take_bits_or_low]

/-! ## The round trip -/

theorem encode_eq (hdr : SidebandMsgHdr) :
    drmDpEncodeSidebandMsgHdr hdr =
      (linkByte hdr.lct hdr.lcr :: hdr.rad ++
        [lengthByte hdr.broadcast hdr.pathMsg hdr.msgLen]) ++
      [flagByte hdr.somt hdr.eomt hdr.seqno |||
        (drmDpMsgHeaderCrc4 ((linkByte hdr.lct hdr.lcr :: hdr.rad ++
          [lengthByte hdr.broadcast hdr.pathMsg hdr.msgLen]) ++
          [flagByte hdr.somt hdr.eomt hdr.seqno]) ((hdr.rad.length + 3) * 2 - 1) &&& 0xf)] := by
  simp [drmDpEncodeSidebandMsgHdr, linkByte, lengthByte, flagByte]

@[simp] theorem length_encode (hdr : SidebandMsgHdr) :
    (drmDpEncodeSidebandMsgHdr hdr).length = hdr.rad.length + 3 := by
  simp [encode_eq]

theorem decode_of_bytes {first second last : U8} {rad tail : List U8} (nonzero : first ≠ 0)
    (radLength : rad.length = ((first &&& 0xf0) >>> 4).toNat / 2)
    (checks : drmDpMsgHeaderCrc4 (first :: (rad ++ second :: last :: tail))
      ((rad.length + 3) * 2 - 1) &&& 0xf = last &&& 0xf) :
    drmDpDecodeSidebandMsgHdr (first :: (rad ++ second :: last :: tail)) =
      some
        ({ lct := (first &&& 0xf0) >>> 4, lcr := first &&& 0xf, rad := rad,
           broadcast := second.getLsbD 7, pathMsg := second.getLsbD 6, msgLen := second &&& 0x3f,
           somt := last.getLsbD 7, eomt := last.getLsbD 6, seqno := last.getLsbD 4 },
          rad.length + 3) := by
  have atSecond : (first :: (rad ++ second :: last :: tail)).getD (1 + rad.length) 0 = second := by
    rw [Nat.add_comm, List.getD_cons_succ]
    simp [List.getD]
  have atLast : (first :: (rad ++ second :: last :: tail)).getD (1 + rad.length + 1) 0 = last := by
    rw [Nat.add_comm 1, List.getD_cons_succ]
    simp [List.getD]
  have long : ¬ (first :: (rad ++ second :: last :: tail)).length < 3 + rad.length := by
    simp
    omega
  have lastIndex : 3 + rad.length - 1 = 1 + rad.length + 1 := by omega
  simp only [drmDpDecodeSidebandMsgHdr, List.getD_cons_zero, ← radLength, lastIndex, atSecond,
    atLast]
  rw [if_neg nonzero, if_neg long, Nat.add_comm 3, if_neg (not_not.mpr checks)]
  simp
  omega

theorem decode_encode {hdr : SidebandMsgHdr} (valid : hdr.Valid) (tail : List U8) :
    drmDpDecodeSidebandMsgHdr (drmDpEncodeSidebandMsgHdr hdr ++ tail) =
      some (hdr, (drmDpEncodeSidebandMsgHdr hdr).length) := by
  obtain ⟨lctSmall, lcrSmall, nonzero, radLength, lenSmall⟩ := valid
  have firstNonzero := linkByte_ne_zero lctSmall lcrSmall nonzero
  have lct := linkByte_lct lctSmall hdr.lcr
  have lcr := linkByte_lcr hdr.lct lcrSmall
  obtain ⟨broadcast, pathMsg, msgLen⟩ := lengthByte_fields hdr.broadcast hdr.pathMsg lenSmall
  obtain ⟨front, frontEq⟩ : ∃ front, front = linkByte hdr.lct hdr.lcr :: hdr.rad ++
      [lengthByte hdr.broadcast hdr.pathMsg hdr.msgLen] := ⟨_, rfl⟩
  have frontLength : front.length + 1 = hdr.rad.length + 3 := by simp [frontEq]
  obtain ⟨crc4, crcEq⟩ : ∃ crc4, crc4 = drmDpMsgHeaderCrc4
      (front ++ [flagByte hdr.somt hdr.eomt hdr.seqno]) ((hdr.rad.length + 3) * 2 - 1) := ⟨_, rfl⟩
  obtain ⟨somt, eomt, seqno, check⟩ := flagByte_fields hdr.somt hdr.eomt hdr.seqno crc4
  have covered := headerCrc_append front (flagByte hdr.somt hdr.eomt hdr.seqno) crc4 tail
  have bytes : drmDpEncodeSidebandMsgHdr hdr ++ tail = linkByte hdr.lct hdr.lcr :: (hdr.rad ++
      lengthByte hdr.broadcast hdr.pathMsg hdr.msgLen ::
        (flagByte hdr.somt hdr.eomt hdr.seqno ||| (crc4 &&& 0xf)) :: tail) := by
    rw [encode_eq, crcEq, frontEq]
    simp
  rw [frontLength, ← crcEq, frontEq] at covered
  rw [bytes, decode_of_bytes firstNonzero (by rw [lct, radLength])]
  · simp only [lct, lcr, broadcast, pathMsg, msgLen, somt, eomt, seqno, length_encode]
  · rw [check]
    exact congrArg (· &&& 0xf) (by simpa using covered)

end DisplayDrivers.DpMst
