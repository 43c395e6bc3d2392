import DisplayDrivers.RegDma.Stream
import DisplayDrivers.Lib.Run

/-! # Payloads of register DMA buffers

An accepted call of `setup_payload_v1` appends the words of its command behind the index and changes
no other word (`Appended`), a rejected one changes nothing.
-/

namespace DisplayDrivers.RegDma

open DisplayDrivers.Lib

def RegDmaBuffer.stream (buf : RegDmaBuffer) : List Word :=
  match buf.vaddr with
  | none => []
  | some memory => (List.range (buf.index.toNat / 4)).map memory

structure Session where
  buf : RegDmaBuffer
  accepted : List SetupOpsCfg

def Session.start (buf : RegDmaBuffer) : Session :=
  { buf := resetRegDmaBufferV1 buf, accepted := [] }

def Session.call (version : Version) (s : Session) (cfg : SetupOpsCfg) : Session :=
  match setupPayloadV1 version s.buf cfg with
  | (.ok (), buf) => { buf := buf, accepted := s.accepted ++ [cfg] }
  | (.error _, buf) => { s with buf := buf }

def SetupOpsCfg.command (blocks : Word → Word) (cfg : SetupOpsCfg) : Option Command :=
  setupOps[cfg.ops.toNat]?.map (commandOf blocks · cfg)

structure Faithful (version : Version) (blocks : Word → Word) (s : Session) : Prop where
  aligned : 4 ∣ s.buf.index.toNat
  fits : s.buf.index.toNat ≤ s.buf.bufferSize.toNat
  reads : ∃ commands, PrefixCode.readAll (readCommand version) s.buf.stream = some commands ∧
    s.accepted.map (SetupOpsCfg.command blocks) = commands.map some

structure Contained (version : Version) (buf : RegDmaBuffer) (cfg : SetupOpsCfg) : Prop where
  rejected : (setupPayloadV1 version buf cfg).1 ≠ .ok () → (setupPayloadV1 version buf cfg).2 = buf
  bufferSize : (setupPayloadV1 version buf cfg).2.bufferSize = buf.bufferSize
  writes : ∀ memory memory', buf.vaddr = some memory →
    (setupPayloadV1 version buf cfg).2.vaddr = some memory' → ∀ w, memory' w ≠ memory w →
      buf.index.toNat ≤ 4 * w ∧ 4 * w + 4 ≤ buf.bufferSize.toNat

def StreamFaithful (blocks : Word → Word) : Prop :=
  ∀ (version : Version) (buf : RegDmaBuffer) (cfgs : List SetupOpsCfg),
    Faithful version blocks (Run.run (Session.call version) (.start buf) cfgs) ∧
      ∀ cfg, Contained version (Run.run (Session.call version) (.start buf) cfgs).buf cfg

/-! ## What the checks establish -/

theorem notWordAligned_eq_false {x : Word} : notWordAligned x = false ↔ 4 ∣ x.toNat := by
  have low : (x &&& 3#32).toNat = x.toNat % 4 := by
    rw [BitVec.toNat_and]
    exact Nat.and_two_pow_sub_one_eq_mod x.toNat 2
  rw [notWordAligned, bne_eq_false_iff_eq, BitVec.toNat_inj.symm, low, Nat.dvd_iff_mod_eq_zero]
  rfl

theorem toNat_memSize (op : SetupOp) :
    op.memSize.toNat = if op = .regSingleModify then 12 else 8 := by
  cases op with
  | regSingleModify => rfl
  | hwBlkSelect => rfl
  | regSingleWrite => rfl
  | regBlkWriteSingle => rfl
  | regBlkWriteInc => rfl
  | regBlkWriteMultiple => rfl

structure Admitted (buf : RegDmaBuffer) (cfg : SetupOpsCfg) (op : SetupOp) : Prop where
  listed : setupOps[cfg.ops.toNat]? = some op
  room : buf.index.toNat < buf.bufferSize.toNat
  aligned : 4 ∣ buf.index.toNat
  mapped : buf.vaddr.isSome

variable {buf : RegDmaBuffer} {cfg : SetupOpsCfg} {op : SetupOp} {version : Version}

theorem validateDmaCfg_ok
    (valid : validateDmaCfg version buf cfg = .ok op) : Admitted buf cfg op := by
  rw [validateDmaCfg] at valid
  cases listed : setupOps[cfg.ops.toNat]? with
  | none =>
    rw [listed] at valid
    exact nomatch valid
  | some op' =>
    rw [listed] at valid
    simp only at valid
    split at valid
    · exact nomatch valid
    split at valid
    · exact nomatch valid
    rename_i indexed
    split at valid
    · exact nomatch valid
    rename_i mapped
    split at valid
    · exact nomatch valid
    cases valid
    simp only [Bool.or_eq_true, decide_eq_true_eq, not_or, Bool.not_eq_true, BitVec.not_le]
      at indexed mapped
    refine ⟨listed, indexed.1, notWordAligned_eq_false.mp indexed.2, ?_⟩
    rw [← Option.not_isNone, mapped.2]
    rfl

structure Roomy (buf : RegDmaBuffer) (cfg : SetupOpsCfg) (op : SetupOp) : Prop where
  encodable : Encodable op cfg
  aligned : op ≠ .hwBlkSelect → 4 ∣ cfg.dataSize.toNat
  header : buf.index.toNat + op.memSize.toNat ≤ buf.bufferSize.toNat
  payload : op ≠ .hwBlkSelect →
    buf.index.toNat + op.memSize.toNat + cfg.dataSize.toNat ≤ buf.bufferSize.toNat

theorem toNat_bufferSpaceLeft (room : buf.index.toNat < buf.bufferSize.toNat) :
    (bufferSpaceLeft buf).toNat = buf.bufferSize.toNat - buf.index.toNat :=
  BitVec.toNat_sub_of_le (Nat.le_of_lt room)

theorem validateWriteReg_ok (room : buf.index.toNat < buf.bufferSize.toNat)
    (valid : validateWriteReg op buf cfg = .ok ()) :
    buf.index.toNat + op.memSize.toNat + cfg.dataSize.toNat ≤ buf.bufferSize.toNat ∧
      4 ∣ cfg.dataSize.toNat ∧ cfg.dataSize.toNat / 4 < 2 ^ 14 ∧ cfg.blkOffset.toNat < 2 ^ 20 := by
  rw [validateWriteReg] at valid
  split at valid
  · exact nomatch valid
  rename_i enough
  split at valid
  · exact nomatch valid
  split at valid
  · exact nomatch valid
  rename_i size
  split at valid
  · exact nomatch valid
  rename_i offset
  simp only [Bool.or_eq_true, decide_eq_true_eq, not_or, Bool.not_eq_true, BitVec.not_lt]
    at enough size offset
  have words : cfg.dataSize.toNat / 4 ≤ 0x3fff := by
    have bounded : (sizeDword cfg.dataSize).toNat ≤ maxDwordsSz.toNat := size.1
    rwa [toNat_sizeDword] at bounded
  have start : cfg.blkOffset.toNat ≤ 0xfffff := offset.1
  have total : (op.memSize + cfg.dataSize).toNat ≤ (bufferSpaceLeft buf).toNat := enough
  have header : op.memSize.toNat ≤ 12 := by
    rw [toNat_memSize]
    split <;> omega
  rw [toNat_bufferSpaceLeft room, BitVec.toNat_add, Nat.mod_eq_of_lt (by omega)] at total
  refine ⟨by omega, notWordAligned_eq_false.mp size.2, by omega, by omega⟩

theorem validateWriteMultiLutReg_ok (valid : validateWriteMultiLutReg op buf cfg = .ok ()) :
    validateWriteReg op buf cfg = .ok () ∧ cfg.wrapSize.toNat < 2 ^ 4 := by
  rw [validateWriteMultiLutReg] at valid
  cases plain : validateWriteReg op buf cfg with
  | error rc =>
    rw [plain] at valid
    exact nomatch valid
  | ok _ =>
    rw [plain] at valid
    simp only at valid
    split at valid
    · exact nomatch valid
    rename_i wrap
    simp only [Bool.or_eq_true, decide_eq_true_eq, not_or, BitVec.not_lt] at wrap
    have bounded : cfg.wrapSize.toNat ≤ 0xf := wrap.2
    exact ⟨rfl, by omega⟩

theorem validateWriteDecodeSel_ok (room : buf.index.toNat < buf.bufferSize.toNat)
    (valid : validateWriteDecodeSel buf cfg = .ok ()) :
    buf.index.toNat + 8 ≤ buf.bufferSize.toNat := by
  rw [validateWriteDecodeSel] at valid
  split at valid
  · exact nomatch valid
  rename_i enough
  have total : 8 ≤ (bufferSpaceLeft buf).toNat := BitVec.not_lt.mp enough
  rw [toNat_bufferSpaceLeft room] at total
  omega

theorem validateDmaOpParams_ok (room : buf.index.toNat < buf.bufferSize.toNat)
    (valid : validateDmaOpParams op buf cfg = .ok ()) : Roomy buf cfg op := by
  have write {op : SetupOp} (valid : validateWriteReg op buf cfg = .ok ())
      (wrap : op = .regBlkWriteMultiple → cfg.wrapSize.toNat < 2 ^ 4) : Roomy buf cfg op := by
    obtain ⟨total, aligned, size, offset⟩ := validateWriteReg_ok room valid
    exact ⟨⟨fun _ => offset, fun _ => size, wrap⟩, fun _ => aligned, by omega, fun _ => total⟩
  cases op with
  | hwBlkSelect =>
    have header := validateWriteDecodeSel_ok room valid
    refine ⟨⟨fun other => absurd rfl other, fun other => absurd rfl other, nofun⟩, ?_, header, ?_⟩
    · exact fun other => absurd rfl other
    · exact fun other => absurd rfl other
  | regBlkWriteMultiple =>
    obtain ⟨plain, wrap⟩ := validateWriteMultiLutReg_ok valid
    exact write plain fun _ => wrap
  | regSingleWrite => exact write valid nofun
  | regBlkWriteSingle => exact write valid nofun
  | regBlkWriteInc => exact write valid nofun
  | regSingleModify => exact write valid nofun

/-! ## What the writers append -/

structure Appended (buf buf' : RegDmaBuffer) (words : List Word) : Prop where
  bufferSize : buf'.bufferSize = buf.bufferSize
  vaddr : buf'.vaddr = (buf.store words).vaddr
  index : buf'.index.toNat = buf.index.toNat + 4 * words.length
  fits : buf'.index.toNat ≤ buf.bufferSize.toNat

variable {words : List Word}

theorem appended_store {size : Word} (length : size.toNat = 4 * words.length)
    (room : buf.index.toNat + size.toNat ≤ buf.bufferSize.toNat) :
    Appended buf ((buf.store words).advance size) words := by
  have index : (buf.index + size).toNat = buf.index.toNat + size.toNat := by
    rw [BitVec.toNat_add, Nat.mod_eq_of_lt]
    have bound := buf.bufferSize.isLt
    omega
  exact ⟨rfl, rfl, index.trans (by rw [length]), by rw [← index] at room; exact room⟩

theorem Appended.trans {a b c : RegDmaBuffer} {front back : List Word} (aligned : 4 ∣ a.index.toNat)
    (first : Appended a b front) (second : Appended b c back) : Appended a c (front ++ back) where
  bufferSize := second.bufferSize.trans first.bufferSize
  index := by
    rw [second.index, first.index, List.length_append]
    omega
  fits := by
    rw [← first.bufferSize]
    exact second.fits
  vaddr := by
    have seam : b.index.toNat / 4 = a.index.toNat / 4 + front.length := by
      rw [first.index]
      omega
    rw [second.vaddr, RegDmaBuffer.store, RegDmaBuffer.store, first.vaddr, RegDmaBuffer.store]
    simp only [Option.map_map]
    congr 1
    funext memory w
    simp only [Function.comp_apply, seam]
    by_cases behind : a.index.toNat / 4 + front.length ≤ w
    · have start : a.index.toNat / 4 ≤ w := by omega
      have later : front.length ≤ w - a.index.toNat / 4 := by omega
      rw [if_pos behind, if_pos start, if_pos start, List.getElem?_append_right later,
        List.getElem?_eq_none later, Nat.sub_sub]
      rfl
    · rw [if_neg behind]
      by_cases start : a.index.toNat / 4 ≤ w
      · have inside : w - a.index.toNat / 4 < front.length := by omega
        rw [if_pos start, if_pos start, List.getElem?_append_left inside]
      · rw [if_neg start, if_neg start]

theorem length_header_payload (roomy : Roomy buf cfg op) (write : op ≠ .hwBlkSelect) :
    cfg.dataSize.toNat = 4 * cfg.payload.length := by
  rw [length_payload, Nat.mul_div_cancel' (roomy.aligned write)]

variable {buf' : RegDmaBuffer}

theorem appended_block {header : List Word}
    (aligned : 4 ∣ buf.index.toNat) (roomy : Roomy buf cfg op) (write : op ≠ .hwBlkSelect)
    (length : op.memSize.toNat = 4 * header.length)
    (same : Appended buf buf' header) :
    Appended buf (writeMultiReg buf' cfg) (header ++ cfg.payload) := by
  have total := roomy.payload write
  have room : buf'.index.toNat + cfg.dataSize.toNat ≤ buf'.bufferSize.toNat := by
    rw [same.index, same.bufferSize]
    omega
  have second := appended_store (length_header_payload roomy write) room
  exact same.trans aligned ⟨second.bufferSize, second.vaddr, second.index, second.fits⟩

theorem appended_writeDmaOpParams (version : Version)
    (aligned : 4 ∣ buf.index.toNat) (roomy : Roomy buf cfg op) :
    Appended buf (writeDmaOpParams version op buf cfg) (wordsOf version op cfg) := by
  have header (words : List Word) (length : op.memSize.toNat = 4 * words.length) :
      Appended buf ((buf.store words).advance op.memSize) words :=
    appended_store length roomy.header
  cases op with
  | hwBlkSelect =>
    have select := header [decodeSel version, getDecodeSel cfg.blk] rfl
    exact ⟨select.bufferSize, select.vaddr, select.index, select.fits⟩
  | regSingleWrite =>
    have single := header (wordsOf version .regSingleWrite cfg) rfl
    exact ⟨single.bufferSize, single.vaddr, single.index, single.fits⟩
  | regSingleModify =>
    have modify := header (wordsOf version .regSingleModify cfg) rfl
    exact ⟨modify.bufferSize, modify.vaddr, modify.index, modify.fits⟩
  | regBlkWriteSingle => exact appended_block aligned roomy nofun rfl (header _ rfl)
  | regBlkWriteInc => exact appended_block aligned roomy nofun rfl (header _ rfl)
  | regBlkWriteMultiple =>
    have lut := header [blkRegWriteOpcode ||| (cfg.blkOffset &&& maxRelativeOff), lutParams cfg] rfl
    -- the permission written before the payload is overwritten with it
    exact appended_block aligned roomy nofun rfl ⟨lut.bufferSize, lut.vaddr, lut.index, lut.fits⟩

theorem setupPayloadV1_cases (version : Version) (buf : RegDmaBuffer) (cfg : SetupOpsCfg) :
    (∃ rc, setupPayloadV1 version buf cfg = (.error rc, buf)) ∨
      ∃ op buf', setupPayloadV1 version buf cfg = (.ok (), buf') ∧ Admitted buf cfg op ∧
        Encodable op cfg ∧ Appended buf buf' (wordsOf version op cfg) := by
  rw [setupPayloadV1]
  cases valid : validateDmaCfg version buf cfg with
  | error rc => exact .inl ⟨rc, rfl⟩
  | ok op =>
    have admitted := validateDmaCfg_ok valid
    simp only
    cases checked : validateDmaOpParams op buf cfg with
    | error rc => exact .inl ⟨rc, rfl⟩
    | ok _ =>
      have roomy := validateDmaOpParams_ok admitted.room checked
      exact .inr ⟨op, _, rfl, admitted, roomy.encodable,
        appended_writeDmaOpParams version admitted.aligned roomy⟩

/-! ## The stream -/

theorem store_vaddr {memory : ℕ → Word} (mapped : buf.vaddr = some memory) :
    (buf.store words).vaddr = some fun w =>
      if buf.index.toNat / 4 ≤ w then (words[w - buf.index.toNat / 4]?).getD (memory w)
      else memory w := by
  rw [RegDmaBuffer.store]
  simp only [mapped, Option.map_some]

theorem Appended.stream (appended : Appended buf buf' words) (aligned : 4 ∣ buf.index.toNat)
    (mapped : buf.vaddr.isSome) : buf'.stream = buf.stream ++ words := by
  obtain ⟨memory, mapped⟩ := Option.isSome_iff_exists.mp mapped
  have seam : buf'.index.toNat / 4 = buf.index.toNat / 4 + words.length := by
    rw [appended.index]
    omega
  rw [RegDmaBuffer.stream, RegDmaBuffer.stream, appended.vaddr, store_vaddr mapped, mapped]
  simp only [seam, List.range_add, List.map_append, List.map_map]
  congr 1
  · apply List.map_congr_left
    intro w listed
    have front : ¬buf.index.toNat / 4 ≤ w := by
      have below := List.mem_range.mp listed
      omega
    rw [if_neg front]
  · apply List.ext_getElem
    · simp
    · intro k inside inside'
      simp [inside']

theorem Appended.contained
    (appended : Appended buf buf' words) (aligned : 4 ∣ buf.index.toNat) {memory memory' : ℕ → Word}
    (mapped : buf.vaddr = some memory) (mapped' : buf'.vaddr = some memory') {w : ℕ}
    (changed : memory' w ≠ memory w) :
    buf.index.toNat ≤ 4 * w ∧ 4 * w + 4 ≤ buf.bufferSize.toNat := by
  have after : memory' w = _ :=
    congrFun (Option.some.inj (mapped'.symm.trans (appended.vaddr.trans (store_vaddr mapped)))) w
  by_cases start : buf.index.toNat / 4 ≤ w
  · rw [if_pos start] at after
    by_cases inside : w - buf.index.toNat / 4 < words.length
    · have index := appended.index
      have fits := appended.fits
      omega
    · rw [List.getElem?_eq_none (Nat.not_lt.mp inside)] at after
      exact absurd after changed
  · rw [if_neg start] at after
    exact absurd after changed

structure Recorded (version : Version) (s : Session) : Prop where
  aligned : 4 ∣ s.buf.index.toNat
  fits : s.buf.index.toNat ≤ s.buf.bufferSize.toNat
  calls : ∃ calls : List (SetupOp × SetupOpsCfg),
    s.buf.stream = calls.flatMap (fun call => wordsOf version call.1 call.2) ∧
    s.accepted.map (fun cfg => (setupOps[cfg.ops.toNat]?, cfg)) =
      calls.map (fun call => (some call.1, call.2)) ∧
    ∀ call ∈ calls, Encodable call.1 call.2

theorem recorded_start (version : Version) (buf : RegDmaBuffer) :
    Recorded version (.start buf) where
  aligned := Nat.dvd_zero 4
  fits := Nat.zero_le _
  calls := by
    refine ⟨[], ?_, rfl, nofun⟩
    cases mapped : buf.vaddr with
    | none => simp [RegDmaBuffer.stream, Session.start, resetRegDmaBufferV1, mapped]
    | some memory => simp [RegDmaBuffer.stream, Session.start, resetRegDmaBufferV1, mapped]

theorem Recorded.call {s : Session} (recorded : Recorded version s)
    (cfg : SetupOpsCfg) : Recorded version (s.call version cfg) := by
  rcases setupPayloadV1_cases version s.buf cfg with
    ⟨rc, rejected⟩ | ⟨op, buf', accepted, admitted, encodable, appended⟩
  · rw [Session.call, rejected]
    exact recorded
  · obtain ⟨calls, stream, listed, encodables⟩ := recorded.calls
    rw [Session.call, accepted]
    have index := appended.index
    have aligned := admitted.aligned
    refine ⟨by simp only; omega, ?_, calls ++ [(op, cfg)], ?_, ?_, ?_⟩
    · rw [appended.bufferSize]
      exact appended.fits
    · rw [appended.stream admitted.aligned admitted.mapped, stream, List.flatMap_append]
      simp
    · rw [List.map_append, List.map_append, listed]
      simp [admitted.listed]
    · intro call member
      rcases List.mem_append.mp member with before | this_call
      · exact encodables call before
      · rw [List.mem_singleton.mp this_call]
        exact encodable

theorem Recorded.faithful {s : Session} (recorded : Recorded version s) :
    Faithful version (· &&& selectableBlks) s where
  aligned := recorded.aligned
  fits := recorded.fits
  reads := by
    obtain ⟨calls, stream, listed, encodables⟩ := recorded.calls
    refine ⟨calls.map fun call => commandOf (· &&& selectableBlks) call.1 call.2, ?_, ?_⟩
    · rw [stream]
      exact PrefixCode.readAll_flatMap fun call member => delimits version (encodables call member)
    · have commands := congrArg (List.map fun entry : Option SetupOp × SetupOpsCfg =>
        entry.1.map (commandOf (· &&& selectableBlks) · entry.2)) listed
      simp only [List.map_map, Function.comp_def, Option.map_some] at commands ⊢
      exact commands

theorem contained (version : Version) (buf : RegDmaBuffer) (cfg : SetupOpsCfg) :
    Contained version buf cfg := by
  rcases setupPayloadV1_cases version buf cfg with
    ⟨rc, rejected⟩ | ⟨op, buf', accepted, admitted, -, appended⟩
  · refine ⟨fun _ => by rw [rejected], by rw [rejected], ?_⟩
    intro memory memory' mapped mapped' w changed
    rw [rejected, mapped] at mapped'
    exact absurd (congrFun (Option.some.inj mapped') w).symm changed
  · refine ⟨fun error => absurd (by rw [accepted]) error, ?_, ?_⟩
    · rw [accepted]
      exact appended.bufferSize
    · intro memory memory' mapped mapped' w changed
      rw [accepted] at mapped'
      exact appended.contained admitted.aligned mapped mapped' changed

/-- In every run from a reset buffer the index stays aligned and in the buffer, a call writes
    nowhere else, and the stream reads as the accepted commands, a block select as those of the
    blocks it asks for that have a bit in the select word. -/
theorem stream_faithful : StreamFaithful (· &&& selectableBlks) := by
  intro version buf cfgs
  have recorded : Recorded version (Run.run (Session.call version) (.start buf) cfgs) :=
    Run.run_invariant (Recorded version) (fun _ cfg recorded => recorded.call cfg)
      (recorded_start version buf) cfgs
  exact ⟨recorded.faithful, contained version _⟩

/-- A mask may name blocks that have no bit in the select word: DSPP0 and LM0 are asked for, the
    call is accepted, and the stream selects DSPP0 only. -/
theorem not_streamFaithful_id : ¬StreamFaithful id := by
  intro faithful
  let buf : RegDmaBuffer :=
    { bufferSize := 64#32, index := 0#32, iova := 0#64, vaddr := some fun _ => 0#32,
      nextOpAllowed := 0#32, opsCompleted := 0#32 }
  let cfg : SetupOpsCfg :=
    { ops := 0#32, blk := 0x110#32, feature := 11#32, wrapSize := 0#32, inc := 0#32,
      blkOffset := 0#32, data := none, mask := 0#32, dataSize := 0#32 }
  obtain ⟨commands, read, asked⟩ := (faithful .v1 buf [cfg]).1.reads
  have selected : PrefixCode.readAll (readCommand .v1)
      (Run.run (Session.call .v1) (.start buf) [cfg]).buf.stream = some [.blkSelect 0x100#32] := by
    decide
  rw [selected] at read
  cases read
  exact absurd asked (by decide)

end DisplayDrivers.RegDma
