import DisplayDrivers.DsiCmd.ReadBack
import Mathlib.Tactic.IntervalCases

/-! # A long reply is put together

Each pass reads from the start of the reply and sees the last 16 bytes of the answer.
-/

namespace DisplayDrivers.DsiCmd

open DisplayDrivers.Lib DisplayDrivers.Lib.Loop

/-! ## Numbers -/

theorem wrap32_small {n : Int} (nonneg : 0 ≤ n) (below : n < 4294967296) :
    (wrap32 n : Int) = n := by
  rw [wrap32, Int.emod_eq_of_lt nonneg below, Int.toNat_of_nonneg nonneg]

theorem int32_small {n : Int} (low : -2147483648 ≤ n) (high : n < 2147483648) : int32 n = n := by
  rw [int32, Int.bmod_eq_of_le (by omega) (by omega)]

theorem u32_small {n : ℕ} (below : n < 4294967296) : u32 n = n := Nat.mod_eq_of_lt below

/-! ## The answer of a panel -/

def bigEndian (word : BitVec 32) : List Byte :=
  [word.extractLsb' 24 8, word.extractLsb' 16 8, word.extractLsb' 8 8, word.extractLsb' 0 8]

def Rdbk.window (rdbk : Rdbk) : List Byte :=
  bigEndian (rdbk.data 3) ++ bigEndian (rdbk.data 2) ++ bigEndian
    (rdbk.data 1) ++ bigEndian (rdbk.data 0)

def LongHeader (header : List Byte) : Prop :=
  header.length = 4 ∧
    (header.head? = some rxGenericLongReadResponse ∨ header.head? = some rxDcsLongReadResponse)

/-- The registers after a read of the first `p` bytes of the reply: the last 16 bytes of what has
    come in, with whatever was there before in front of them. -/
def Answered (reply : List Byte) (p : ℕ) (rdbk : Rdbk) : Prop :=
  (rdbk.dataCtrl >>> 16).toNat = p + 6 ∧
    ∃ header crc stale : List Byte, LongHeader header ∧ crc.length = 2 ∧
      rdbk.window <:+ stale ++ (header ++ reply.take p ++ crc)

def returnSize (tx : Byte × Byte) : ℕ := tx.1.toNat + 256 * tx.2.toNat

theorem returnSize_maxReturnSize {size : ℕ} (below : size < 65536) :
    returnSize (maxReturnSize size) = size := by
  simp only [returnSize, maxReturnSize, BitVec.toNat_ofNat]
  omega

theorem bigEndian_append (a b c d : Byte) :
    bigEndian (a ++ b ++ c ++ d : BitVec 32) = [a, b, c, d] := by
  simp only [bigEndian, List.cons.injEq, and_true]
  refine ⟨?_, ?_, ?_, ?_⟩
  all_goals
    apply BitVec.eq_of_getLsbD_eq
    intro i below
    simp only [BitVec.getLsbD_extractLsb', BitVec.getLsbD_append, below]
    grind

theorem littleEndian_ntohl (word : BitVec 32) : littleEndian (ntohl word) = bigEndian word := by
  have turned : littleEndian (ntohl word) = (bigEndian (ntohl word)).reverse := rfl
  rw [turned, ntohl, bigEndian_append]
  rfl

theorem words_four (rdbk : Rdbk) : rdbk.words 4 = rdbk.window := by
  simp [Rdbk.words, Rdbk.window, List.range_succ, littleEndian_ntohl]

theorem length_window (rdbk : Rdbk) : rdbk.window.length = 16 := rfl

theorem drop_window {rdbk : Rdbk} {front back : List Byte} (suffix : rdbk.window <:+ front ++ back)
    (short : back.length ≤ 16) : rdbk.window.drop (16 - back.length) = back := by
  obtain ⟨before, whole⟩ : back <:+ rdbk.window :=
    List.suffix_of_suffix_length_le (List.suffix_append front back) suffix
      (by rw [length_window]; exact short)
  have lengths := congrArg List.length whole
  rw [List.length_append, length_window] at lengths
  rw [← whole, show 16 - back.length = before.length by omega, List.drop_left]

/-! ## One read -/

section Read

variable {n : ℕ} {rdbk : Rdbk} {reply : List Byte} {p : ℕ}

theorem readCnt_long (count : (rdbk.dataCtrl >>> 16).toNat = p + 6) :
    rdbk.readCnt 16 p = p + 6 := by
  have below := (rdbk.dataCtrl >>> 16).isLt
  have less := wrap32_small (n := ((p + 6 : ℕ) : Int) - 4) (by omega) (by omega)
  have more := u32_small (n := p + 6) (by omega)
  simp only [Rdbk.readCnt, count]
  rw [if_neg]
  simp only [show (16 : ℕ) ≠ 4 by decide, if_false]
  omega

theorem repeatedBytes_later {got new : ℕ} (first : 10 ≤ got) (few : new ≤ 14) (some_new : 0 < new)
    (below : got + new < 65536) : repeatedBytes (got + new + 6) 16 (4 + got) = 14 - new := by
  have shifted := int32_small (n := ((got + new + 6 : ℕ) : Int) - (16 : ℕ)) (by omega) (by omega)
  rw [repeatedBytes, if_neg (by omega)]
  simp only [shifted]
  by_cases lost : ((got + new + 6 : ℕ) : Int) - (16 : ℕ) ≥ 4
  · simp only [if_pos lost]
    have result := wrap32_small
      (n := ((4 + got : ℕ) : Int) - 4 - (((got + new + 6 : ℕ) : Int) - (16 : ℕ) - 4) + 0)
        (by omega) (by omega)
    omega
  · simp only [if_neg lost]
    have result := wrap32_small
      (n := ((4 + got : ℕ) : Int) - 4 - 0 + (4 - (((got + new + 6 : ℕ) : Int) - (16 : ℕ))))
        (by omega) (by omega)
    omega

theorem getCmdReadData_window {rxBuf : Buffer Byte n} {start readOffset repeated hwReadCnt : ℕ}
    (count : (rdbk.dataCtrl >>> 16).toNat = p + 6)
    (known : repeatedBytes (p + 6) 16 readOffset = repeated)
    (few : repeated ≤ 16) (room : start + 16 ≤ n + repeated) :
    ∃ rdBuf, getCmdReadData rdbk rxBuf start readOffset 16 p hwReadCnt = some ⟨rdBuf, p + 6, 16⟩ ∧
      rxBuf.copyAt start (rdbk.window.drop repeated) = some rdBuf := by
  have fits : start + (rdbk.window.drop repeated).length ≤ n := by
    rw [List.length_drop, length_window]
    omega
  obtain ⟨rdBuf, copied⟩ := rxBuf.exists_copyAt fits
  refine ⟨rdBuf, ?_, copied⟩
  have words : rdbk.words (min (u32 (16 + 3) / 4) 4) = rdbk.window := words_four rdbk
  have zeros : List.replicate (16 - rdbk.window.length) (0 : Byte) =
    [] := by rw [length_window]; rfl
  simp only [getCmdReadData, readCnt_long count, known, words, zeros, List.append_nil]
  rw [if_neg (by omega)]
  by_cases fresh : repeated = 0
  · subst fresh
    rw [List.drop_zero] at copied
    simp [copied]
  · have signed := int32_small (n := (repeated : Int)) (by omega) (by omega)
    rw [if_neg fresh, signed, if_neg (by omega), Int.toNat_natCast, Option.bind_some, copied]
    rfl

end Read

/-! ## The passes -/

structure Panel.Replies (panel : Panel) (reply : List Byte) (most : ℕ) : Prop where
  setMaxReturnSize : ∀ number, panel.setMaxReturnSize number = 0
  messageTx : ∀ number, panel.messageTx number = 0
  rdbk : ∀ number tx, returnSize tx ≤ most → Answered reply (returnSize tx) (panel.rdbk number tx)

section Passes

variable {n : ℕ} {panel : Panel} {msg : RxMsg} {reply rest : List Byte}

theorem rxPass_answered {pass : Pass n} {repeated : ℕ} (replies : panel.Replies reply msg.rxLen)
    (long : msg.shortResp = false) (size : pass.rdPktSize ≤ msg.rxLen) (high : msg.rxLen < 65536)
    (known : repeatedBytes (pass.rdPktSize + 6) 16 pass.totalBytesRead = repeated)
    (few : repeated ≤ 16) (room : pass.buff + 16 ≤ n + repeated) :
    ∃ rdBuf rdbk, rxPass panel msg pass = pass.next ⟨rdBuf, pass.rdPktSize + 6, 16⟩ ∧
      pass.rxBuf.copyAt pass.buff (rdbk.window.drop repeated) = some rdBuf ∧
      Answered reply pass.rdPktSize rdbk := by
  have sent : returnSize (maxReturnSize pass.rdPktSize) = pass.rdPktSize :=
    returnSize_maxReturnSize (by omega)
  have answered := replies.rdbk pass.number (maxReturnSize pass.rdPktSize) (by omega)
  rw [sent] at answered
  obtain ⟨rdBuf, read, copied⟩ := getCmdReadData_window answered.1 known few room
  have total : msg.totalReadLen = 16 := by rw [RxMsg.totalReadLen, long]; rfl
  refine ⟨rdBuf, _, ?_, copied, answered⟩
  rw [rxPass, if_neg (not_not.mpr (replies.setMaxReturnSize _)),
    if_neg (not_not.mpr (replies.messageTx _)),
    total, read]
  simp [long]

/-- The buffer begins with a header and the first `got` bytes of the reply, and is untouched from
    behind the room for the read on. -/
structure Holds (msg : RxMsg) (reply rest : List Byte) (got : ℕ) (rxBuf : Buffer Byte n) :
    Prop where
  front : ∃ header, LongHeader header ∧ rxBuf.toList.take (4 + got) = header ++ reply.take got
  frame : rxBuf.toList.drop (msg.rxLen + 20) = rest

variable {rxBuf : Buffer Byte n}

theorem Holds.copied {got p : ℕ} {rdBuf : Buffer Byte n} {crc : List Byte}
    (holds : Holds msg reply rest got rxBuf) (more : got ≤ p) (whole : p ≤ reply.length)
    (within : p ≤ msg.rxLen) (two : crc.length = 2)
    (copied : rxBuf.copyAt (4 + got) ((reply.take p).drop got ++ crc) = some rdBuf) :
    Holds msg reply rest p rdBuf := by
  obtain ⟨header, long, front⟩ := holds.front
  have piece : ((reply.take p).drop got ++ crc).length = p - got + 2 := by
    simp [two]
    omega
  refine ⟨⟨header, long, ?_⟩, ?_⟩
  · have joined : reply.take got ++ (reply.take p).drop got = reply.take p := by
      have halves := List.take_append_drop got (reply.take p)
      rwa [List.take_take, Nat.min_eq_left more] at halves
    have filled : (header ++ reply.take p).length = 4 + p := by
      simp [long.1]
      omega
    have taken := Buffer.take_of_copyAt copied
    rw [front, ← List.append_assoc, List.append_assoc header, joined] at taken
    have shorter : rdBuf.toList.take (4 + p) =
        (rdBuf.toList.take (4 + got + ((reply.take p).drop got ++ crc).length)).take (4 + p) := by
      rw [List.take_take, Nat.min_eq_left (by omega)]
    rw [shorter, taken, ← filled, List.take_left]
  · rw [Buffer.drop_of_copyAt copied (by omega), holds.frame]

structure Gathered (msg : RxMsg) (reply rest : List Byte) (got : ℕ) (pass : Pass n) : Prop where
  first : 10 ≤ got
  more : got < msg.rxLen
  buff : pass.buff = 4 + got
  totalBytesRead : pass.totalBytesRead = 4 + got
  rlen : pass.rlen = msg.rxLen - got
  currentReadLen : pass.currentReadLen = 14
  rdPktSize : pass.rdPktSize = got + min (msg.rxLen - got) 14
  holds : Holds msg reply rest got pass.rxBuf

def Complete (msg : RxMsg) (reply rest : List Byte) (left : Option (Left n)) : Prop :=
  ∃ hwReadCnt rxBuf header, left = some (.read hwReadCnt rxBuf) ∧ LongHeader header ∧
    (rxBuf.toList.drop (16 - hwReadCnt)).take (4 + msg.rxLen) = header ++ reply.take msg.rxLen ∧
    rxBuf.toList.drop (msg.rxLen + 20) = rest

theorem Holds.complete {hwReadCnt : ℕ} (holds : Holds msg reply rest msg.rxLen rxBuf)
    (many : 16 ≤ hwReadCnt) : Complete msg reply rest (some (.read hwReadCnt rxBuf)) := by
  obtain ⟨header, long, front⟩ := holds.front
  refine ⟨hwReadCnt, rxBuf, header, rfl, long, ?_, holds.frame⟩
  rw [Nat.sub_eq_zero_of_le many, List.drop_zero, front]

theorem Gathered.rxPass {got : ℕ} {pass : Pass n} (gathered : Gathered msg reply rest got pass)
    (replies : panel.Replies reply msg.rxLen) (high : msg.rxLen ≤ 65529)
    (whole : msg.rxLen ≤ reply.length)
    (room : msg.rxLen + 20 ≤ n) :
    (∃ pass', rxPass panel msg pass = .inl pass' ∧ Gathered msg reply rest (got + 14) pass') ∨
      ∃ left, rxPass panel msg pass = .inr left ∧ Complete msg reply rest left := by
  obtain ⟨first, more, buff, totalBytesRead, rlen, currentReadLen, rdPktSize, holds⟩ := gathered
  have long : msg.shortResp = false := by
    rw [RxMsg.shortResp]
    exact decide_eq_false (by omega)
  obtain ⟨new, is_new⟩ : ∃ new, new = min (msg.rxLen - got) 14 := ⟨_, rfl⟩
  rw [← is_new] at rdPktSize
  have known : repeatedBytes (pass.rdPktSize + 6) 16 pass.totalBytesRead = 14 - new := by
    rw [rdPktSize, totalBytesRead]
    exact repeatedBytes_later first (by omega) (by omega) (by omega)
  obtain ⟨rdBuf, rdbk, passed, copied, answered⟩ :=
    rxPass_answered replies long (by omega) (by omega) known (by omega) (by omega)
  obtain ⟨-, header, crc, stale, -, two, suffix⟩ := answered
  rw [rdPktSize] at suffix passed
  -- what is new in the window
  have split : stale ++ (header ++ reply.take (got + new) ++ crc) =
      (stale ++ header ++ reply.take got) ++ ((reply.take (got + new)).drop got ++ crc) := by
    have halves := List.take_append_drop got (reply.take (got + new))
    rw [List.take_take, Nat.min_eq_left (by omega)] at halves
    simp only [List.append_assoc]
    rw [← List.append_assoc (reply.take got), halves]
  have size : ((reply.take (got + new)).drop got ++ crc).length = new + 2 := by
    simp [two]
    omega
  rw [split] at suffix
  have fresh := drop_window suffix (by omega)
  rw [size, show 16 - (new + 2) = 14 - new by omega] at fresh
  rw [fresh, buff] at copied
  have kept : Holds msg reply rest (got + new) rdBuf :=
    holds.copied (by omega) (by omega) (by omega) two copied
  rw [passed, Pass.next, rlen, currentReadLen]
  by_cases last : msg.rxLen - got ≤ 14
  · refine .inr ⟨_, if_pos last, Holds.complete ?_ (show 16 ≤ got + new + 6 by omega)⟩
    rwa [show got + new = msg.rxLen by omega] at kept
  · have fourteen : new = 14 := by omega
    subst fourteen
    have returned : wrap32 ((16 : ℕ) - 2 : Int) = 14 := by decide
    refine .inl ⟨_, if_neg last, by omega, by omega, ?_, ?_, by dsimp only; omega, rfl, ?_, kept⟩
    · dsimp only
      rw [returned, buff, Nat.add_assoc]
    · dsimp only
      rw [returned, totalBytesRead, Nat.add_assoc]
      exact u32_small (by omega)
    · dsimp only
      rw [rdPktSize]
      rw [u32_small (by split <;> omega)]
      split <;> omega

theorem firstPass_rxPass (replies : panel.Replies reply msg.rxLen)
    (low : 3 ≤ msg.rxLen) (high : msg.rxLen ≤ 65529) (whole : msg.rxLen ≤ reply.length)
    (room : msg.rxLen + 20 ≤ n) :
    (∃ pass', rxPass panel msg (firstPass msg rxBuf) = .inl pass' ∧
        Gathered msg reply (rxBuf.toList.drop (msg.rxLen + 20)) 10 pass') ∨
      ∃ left, rxPass panel msg (firstPass msg rxBuf) = .inr left ∧
        Complete msg reply (rxBuf.toList.drop (msg.rxLen + 20)) left := by
  have long : msg.shortResp = false := by
    rw [RxMsg.shortResp]
    exact decide_eq_false (by omega)
  have rlen : u32 msg.rxLen = msg.rxLen := u32_small (by omega)
  have rdPktSize : (firstPass msg rxBuf).rdPktSize = min msg.rxLen 10 := by
    simp only [firstPass, long, rlen]
    grind
  have known : repeatedBytes ((firstPass msg rxBuf).rdPktSize + 6) 16
      (firstPass msg rxBuf).totalBytesRead = 0 := by
    rw [repeatedBytes, if_pos (by omega)]
  obtain ⟨rdBuf, rdbk, passed, copied, answered⟩ :=
    rxPass_answered replies long (by omega) (by omega) known
    (by omega) (show 0 + 16 ≤ n + 0 by omega)
  obtain ⟨-, header, crc, stale, longHeader, two, suffix⟩ := answered
  rw [rdPktSize] at suffix passed
  have size : (header ++ reply.take (min msg.rxLen 10) ++ crc).length = min msg.rxLen 10 + 6 := by
    simp [two, longHeader.1]
    omega
  have fresh := drop_window suffix (by omega)
  rw [size, show 16 - (min msg.rxLen 10 + 6) = 10 - min msg.rxLen 10 by omega] at fresh
  have taken : rdBuf.toList.take 16 = rdbk.window := Buffer.take_of_copyAt copied
  have frame : rdBuf.toList.drop (msg.rxLen + 20) = rxBuf.toList.drop (msg.rxLen + 20) :=
    Buffer.drop_of_copyAt copied (show 0 + 16 ≤ msg.rxLen + 20 by omega)
  -- the response lies at the end of the first 16 bytes
  have found (got : ℕ) (least : got = min msg.rxLen 10) :
      (rdBuf.toList.drop (10 - got)).take (4 + got) = header ++ reply.take got := by
    subst least
    have filled : (header ++ reply.take (min msg.rxLen 10)).length = 4 + min msg.rxLen 10 := by
      simp [longHeader.1]
      omega
    have within := congrArg (List.take (4 + min msg.rxLen 10)) fresh
    rw [← taken, List.drop_take, List.take_take, Nat.min_eq_left (by omega)] at within
    rw [within, ← filled, List.take_left]
  have currentReadLen : (firstPass msg rxBuf).currentReadLen = 10 := by simp [firstPass, long]
  rw [passed, Pass.next, currentReadLen, show (firstPass msg rxBuf).rlen = msg.rxLen from rlen]
  by_cases last : msg.rxLen ≤ 10
  · refine .inr ⟨_, if_pos last, _, _, header, rfl, longHeader, ?_, frame⟩
    dsimp only
    rw [Nat.min_eq_left last, show 16 - (msg.rxLen + 6) = 10 - msg.rxLen by omega]
    exact found msg.rxLen (by omega)
  · have ten : min msg.rxLen 10 = 10 := by omega
    have returned : wrap32 ((16 : ℕ) - 2 : Int) = 14 := by decide
    refine .inl
      ⟨_, if_neg last, by omega, by omega, ?_, ?_, rfl, rfl, ?_, ⟨header, longHeader, ?_⟩, frame⟩
    · dsimp only
      rw [returned]
      rfl
    · dsimp only
      rw [returned]
      rfl
    · dsimp only
      rw [rdPktSize, ten, u32_small (by split <;> omega)]
      split <;> omega
    · exact found 10 ten.symm

/-! ## The whole read -/

theorem Complete.finish {left : Option (Left n)} (complete : Complete msg reply rest left)
    (low : 3 ≤ msg.rxLen) (high : msg.rxLen ≤ 65529) (whole : msg.rxLen ≤ reply.length)
    (room : msg.rxLen + 20 ≤ n) :
    ∃ out, left.bind (Left.finish msg) = some ((msg.rxLen : Int), out) ∧
      out.toList.take msg.rxLen = reply.take msg.rxLen ∧
        out.toList.drop (msg.rxLen + 20) = rest := by
  obtain ⟨hwReadCnt, rxBuf, header, rfl, ⟨four, type⟩, front, frame⟩ := complete
  have long : msg.shortResp = false := by
    rw [RxMsg.shortResp]
    exact decide_eq_false (by omega)
  have buff : (if hwReadCnt < 16 ∧ msg.shortResp = false then 16 - hwReadCnt else 0) =
    16 - hwReadCnt := by
    simp only [long, and_true]
    split <;> omega
  have at_header : rxBuf.toList[16 - hwReadCnt]? = header.head? := by
    have first := congrArg List.head? front
    rw [List.head?_take, if_neg (by omega), List.head?_drop] at first
    rw [first, List.head?_append_of_ne_nil]
    exact List.ne_nil_of_length_pos (by omega)
  have at_reply : (rxBuf.toList.drop (16 - hwReadCnt + 4)).take msg.rxLen =
    reply.take msg.rxLen := by
    have later := congrArg (List.drop 4) front
    rwa [List.drop_take, List.drop_drop, Nat.add_sub_cancel_left, ← four, List.drop_left,
      four] at later
  have size : (reply.take msg.rxLen).length = msg.rxLen := List.length_take_of_le whole
  have fits : 0 + (reply.take msg.rxLen).length ≤ n := by omega
  obtain ⟨out, copied⟩ := rxBuf.exists_copyAt fits
  refine ⟨out, ?_, ?_, ?_⟩
  · have parsed : parseLongReadResp msg rxBuf (16 - hwReadCnt) = some ((msg.rxLen : Int), out) := by
      rw [parseLongReadResp, at_reply, copyBack, if_pos size, copied,
        int32_small (by omega) (by omega)]
      rfl
    rw [Option.bind_some, Left.finish, buff, parseResponse, at_header]
    cases type with
    | inl generic =>
      rw [generic]
      exact parsed
    | inr dcs =>
      rw [dcs]
      exact parsed
  · have taken := Buffer.take_of_copyAt copied
    rwa [size, Nat.zero_add, List.take_zero, List.nil_append] at taken
  · rw [Buffer.drop_of_copyAt copied (by omega), frame]

/-- A long read returns the length asked for with this many bytes of the reply at the start of the
    buffer, and needs no more of it than 20 bytes beyond this length. -/
theorem messageRx_reassembles {rxBuf : Buffer Byte n} (low : 3 ≤ msg.rxLen)
    (high : msg.rxLen ≤ 65529)
    (whole : msg.rxLen ≤ reply.length) (room : msg.rxLen + 20 ≤ n)
    (replies : panel.Replies reply msg.rxLen) :
    ∃ out, MessageRx panel msg rxBuf (some ((msg.rxLen : Int), out)) ∧
      out.toList.take msg.rxLen = reply.take msg.rxLen ∧
      out.toList.drop (msg.rxLen + 20) = rxBuf.toList.drop (msg.rxLen + 20) := by
  obtain ⟨left, returns, complete⟩ : ∃ left, Returns (rxPass panel msg) (firstPass msg rxBuf) left ∧
      Complete msg reply (rxBuf.toList.drop (msg.rxLen + 20)) left := by
    obtain ⟨second, again, gathered⟩ | ⟨left, leave, complete⟩ :=
      firstPass_rxPass replies low high whole room
    · -- what is left to read falls with every further pass
      have turn (pass : Pass n) : (∃ got, Gathered msg reply
        (rxBuf.toList.drop (msg.rxLen + 20)) got pass) →
          (∃ next, rxPass panel msg pass = .inl next ∧
            (∃ got, Gathered msg reply (rxBuf.toList.drop (msg.rxLen + 20)) got next) ∧
              next.rlen < pass.rlen) ∨
          ∃ left, rxPass panel msg pass = .inr left ∧
            Complete msg reply (rxBuf.toList.drop (msg.rxLen + 20)) left := by
        rintro ⟨got, gathered⟩
        obtain ⟨next, again, further⟩ | leaves := gathered.rxPass replies high whole room
        · refine .inl ⟨next, again, ⟨_, further⟩, ?_⟩
          rw [further.rlen, gathered.rlen]
          have more := gathered.more
          omega
        · exact .inr leaves
      obtain ⟨left, returns, complete⟩ := exists_returns Pass.rlen turn ⟨10, gathered⟩
      exact ⟨left, (returns_of_again again).mpr returns, complete⟩
    · exact ⟨left, (returns_of_leave leave).mpr rfl, complete⟩
  obtain ⟨out, finished, taken, untouched⟩ := complete.finish low high whole room
  exact ⟨out, ⟨left, returns, finished⟩, taken, untouched⟩

end Passes

/-! ## A panel that answers so -/

def Rdbk.holding (bytes : List Byte) (count : ℕ) : Rdbk where
  data j :=
    let byte i := (bytes.drop (bytes.length - 16)).getD (4 * (3 - j) + i) 0
    byte 0 ++ byte 1 ++ byte 2 ++ byte 3
  dataCtrl := BitVec.ofNat 32 (count * 65536)

def Panel.dcs (reply : List Byte) : Panel where
  setMaxReturnSize _ := 0
  messageTx _ := 0
  rdbk _ tx :=
    let p := returnSize tx
    .holding (List.replicate 16 0 ++ ([0x1c, tx.1, tx.2, 0] ++ reply.take p ++ [0, 0])) (p + 6)

theorem window_holding {bytes : List Byte} (long : 16 ≤ bytes.length) (count : ℕ) :
    (Rdbk.holding bytes count).window <:+ bytes := by
  have size : (bytes.drop (bytes.length - 16)).length = 16 := by
    rw [List.length_drop]
    omega
  have last : (Rdbk.holding bytes count).window = bytes.drop (bytes.length - 16) := by
    simp only [Rdbk.window, Rdbk.holding, bigEndian_append]
    generalize bytes.drop (bytes.length - 16) = held at size
    refine List.ext_getElem size.symm fun i left right => ?_
    have below : i < 16 := left
    interval_cases i <;> simp [size]
  rw [last]
  exact List.drop_suffix ..

theorem Panel.dcs_replies {most : ℕ} (reply : List Byte) (high : most ≤ 65529) :
    (Panel.dcs reply).Replies reply most := by
  refine ⟨fun _ => rfl, fun _ => rfl, fun _ tx within => ⟨?_, ?_⟩⟩
  · simp only [Panel.dcs, Rdbk.holding, BitVec.toNat_ushiftRight, BitVec.toNat_ofNat]
    rw [Nat.mod_eq_of_lt (by omega), Nat.shiftRight_eq_div_pow]
    omega
  · exact ⟨_, [0, 0], List.replicate 16 0, ⟨rfl, .inr rfl⟩, rfl, window_holding (by simp) _⟩

def counting : List Byte := (List.range 40).map (BitVec.ofNat 8)

theorem messageRx_reassembles_counting :
    ∃ out : Buffer Byte 59, MessageRx (Panel.dcs counting) ⟨39⟩ (Buffer.replicate 59 0)
    (some (39, out)) ∧
      out.toList.take 39 = counting.take 39 ∧
      out.toList.drop 59 = (Buffer.replicate 59 (0 : Byte)).toList.drop 59 :=
  have replies : (Panel.dcs counting).Replies counting (RxMsg.rxLen ⟨39⟩) :=
    Panel.dcs_replies _ (by decide)
  messageRx_reassembles (by decide) (by decide) (by decide) (by decide) replies

end DisplayDrivers.DsiCmd
