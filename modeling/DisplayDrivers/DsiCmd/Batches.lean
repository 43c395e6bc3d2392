import DisplayDrivers.DsiCmd.Transfer
import Mathlib.Data.List.Pairwise

/-! # DSI commands go out once and in batches

What the hardware is handed is exactly the padded packets of the messages in the buffer, and no
message is lost or sent twice, as long as no message takes another way (`Diverted`) while others are
in the buffer. Where one does, the messages in the buffer are dropped or left for a later batch.
-/

namespace DisplayDrivers.DsiCmd

open DisplayDrivers.Lib DisplayDrivers.Lib.Run

/-! ## Lengths -/

theorem length_lastCmdBit (lastCommand : Bool) (buffer : List Byte) :
    (lastCmdBit lastCommand buffer).length = buffer.length := by
  unfold lastCmdBit
  split
  · exact List.length_modify ..
  · rfl

theorem length_paddedCmd (packet : Packet) :
    packet.paddedCmd.length = u32 (u32 packet.size + 3) / 4 * 4 := by
  have padded : packet.copyAndPad.length = u32 (u32 packet.size + 3) / 4 * 4 := by
    simp [Packet.copyAndPad]
  rw [← padded]
  unfold Packet.paddedCmd
  dsimp only
  split <;> split <;> simp only [List.length_modify]

variable {packet : Packet}

theorem length_paddedCmd_small (small : packet.size + 3 < 2 ^ 32) :
    packet.paddedCmd.length = (packet.size + 3) / 4 * 4 := by
  have size : u32 packet.size = packet.size := Nat.mod_eq_of_lt (by omega)
  rw [length_paddedCmd, size, u32, Nat.mod_eq_of_lt small]

variable (createPacket : Msg → Option Packet)

def command (msg : Msg) : List Byte :=
  match createPacket msg with
  | none => []
  | some packet => lastCmdBit msg.lastCommand packet.paddedCmd

def concat (messages : List (ℕ × Msg)) : List Byte :=
  messages.flatMap fun message => command createPacket message.2

def Kickoff.expected (k : Kickoff) : List Byte :=
  match k.mode with
  | .nonEmbedded => k.messages.flatMap fun message => message.2.txBuf
  | _ => concat createPacket k.messages

def DsiCtrl.kicked (s : DsiCtrl) : List ℕ := s.kickoffs.flatMap fun k => k.messages.map Prod.fst

def DsiCtrl.waiting (s : DsiCtrl) : List ℕ := s.batch.map Prod.fst

/-- Every kickoff is of the padded packets of its messages, in order; no message is in two; once a
    last command has been accepted, all messages accepted up to it have gone out; and what is in the
    buffer is whole commands. -/
structure Exact (s : DsiCtrl) : Prop where
  handed : ∀ k ∈ s.kickoffs, k.bytes = k.expected createPacket
  ordered : ∀ k ∈ s.kickoffs, (k.messages.map Prod.fst).Pairwise (· < ·)
  once : s.kicked.Nodup
  sent : ∀ n ∈ s.acceptedLast, ∀ m ∈ s.accepted, m ≤ n → m ∈ s.kicked
  aligned : 4 ∣ s.cmdLen
  within : s.cmdLen ≤ sz4K ∧ s.corrupt = false

def Flags.Meant (flags : Flags) : Prop :=
  flags.fetchMemory = true ∧ flags.fifoStore = false ∧ flags.nonEmbeddedMode = false ∧
    (flags.deferTrigger = true → flags.broadcast = true)

instance (flags : Flags) : Decidable flags.Meant :=
  inferInstanceAs (Decidable (_ ∧ _ ∧ _ ∧ (_ → _)))

def Diverted (s : DsiCtrl) (msg : Msg) (flags : Flags) (answers : Answers) : Prop :=
  answers.checkState = 0 ∧
    s.validateTxMode msg.txBuf.length (s.setupTxMode msg.txBuf.length flags) = 0 ∧
    ((s.setupTxMode msg.txBuf.length flags).nonEmbeddedMode = true ∨
      (s.secureMode = true ∧ msg.lastCommand = true ∧ (createPacket msg).isSome = true ∧
        answers.devmKzalloc = true ∧ (flags.deferTrigger = true ∨ answers.cmdDmaDone = true)))

instance (s : DsiCtrl) (msg : Msg) (flags : Flags) (answers : Answers) :
    Decidable (Diverted createPacket s msg flags answers) :=
  inferInstanceAs (Decidable (_ ∧ _ ∧ (_ ∨ _ ∧ _ ∧ _ ∧ _ ∧ (_ ∨ _))))

def Orderly (s : DsiCtrl) : Input → Prop
  | .cmdTransfer msg flags answers => flags.Meant ∧ msg.txBuf.length + 4 < 2 ^ 32 ∧
      (Diverted createPacket s msg flags answers → s.cmdLen = 0)
  | .secure _ => True

instance (s : DsiCtrl) : (input : Input) → Decidable (Orderly createPacket s input)
  | .cmdTransfer .. => inferInstanceAs (Decidable (_ ∧ _ ∧ (_ → _)))
  | .secure _ => inferInstanceAs (Decidable True)

def Fits : Prop :=
  ∀ msg packet, createPacket msg = some packet → packet.payload.length ≤ msg.txBuf.length

/-- The buffer and the kickoffs, where the messages that they are about are below `bound`. -/
structure Core (s : DsiCtrl) (bound : ℕ) : Prop where
  pending : s.vaddr.toList.take s.cmdLen = concat createPacket s.batch
  parts : ∀ message ∈ s.batch, 4 ≤ (command createPacket message.2).length
  aligned : 4 ∣ s.cmdLen
  within : s.cmdLen ≤ sz4K
  intact : s.corrupt = false
  handed : ∀ k ∈ s.kickoffs, k.bytes = k.expected createPacket
  ordered : ∀ k ∈ s.kickoffs, (k.messages.map Prod.fst).Pairwise (· < ·)
  sorted : s.waiting.Pairwise (· < ·)
  once : (s.kicked ++ s.waiting).Nodup
  fresh : ∀ n ∈ s.kicked ++ s.waiting, n < bound

structure Inv (s : DsiCtrl) : Prop extends Core createPacket s s.given where
  covered : ∀ n ∈ s.accepted, n ∈ s.kicked ++ s.waiting
  known : ∀ n ∈ s.acceptedLast, n < s.given
  later : ∀ n ∈ s.acceptedLast, ∀ m ∈ s.waiting, n < m

variable {createPacket}

theorem Inv.exact {s : DsiCtrl} (inv : Inv createPacket s) : Exact createPacket s where
  handed := inv.handed
  ordered := inv.ordered
  once := inv.once.of_append_left
  sent n last m accepted before := by
    rcases List.mem_append.mp (inv.covered m accepted) with kicked | waiting
    · exact kicked
    · exact absurd (inv.later n last m waiting) (not_lt.mpr before)
  aligned := inv.aligned
  within := ⟨inv.within, inv.intact⟩

namespace Core

variable {s : DsiCtrl} {bound : ℕ}

theorem mono (core : Core createPacket s bound) {bound' : ℕ} (le : bound ≤ bound') :
    Core createPacket s bound' :=
  { core with fresh := fun n listed => (core.fresh n listed).trans_le le }

theorem batch_nil (core : Core createPacket s bound) (empty : s.cmdLen = 0) : s.batch = [] := by
  have pending := core.pending
  rw [empty, List.take_zero] at pending
  cases batch : s.batch with
  | nil => rfl
  | cons message rest =>
    have part := core.parts message (by simp [batch])
    rw [batch, concat, List.flatMap_cons] at pending
    have length := congrArg List.length pending
    simp only [List.length_nil, List.length_append] at length
    omega

theorem congr {s' : DsiCtrl} (core : Core createPacket s bound) (vaddr : s'.vaddr = s.vaddr)
    (cmdLen : s'.cmdLen = s.cmdLen) (batch : s'.batch = s.batch)
    (kickoffs : s'.kickoffs = s.kickoffs)
    (corrupt : s'.corrupt = s.corrupt) : Core createPacket s' bound := by
  have kicked : s'.kicked = s.kicked := by rw [DsiCtrl.kicked, kickoffs, DsiCtrl.kicked]
  have waiting : s'.waiting = s.waiting := by rw [DsiCtrl.waiting, batch, DsiCtrl.waiting]
  constructor
  case pending => rw [vaddr, cmdLen, batch]; exact core.pending
  case parts => rw [batch]; exact core.parts
  case aligned => rw [cmdLen]; exact core.aligned
  case within => rw [cmdLen]; exact core.within
  case intact => rw [corrupt]; exact core.intact
  case handed => rw [kickoffs]; exact core.handed
  case ordered => rw [kickoffs]; exact core.ordered
  case sorted => rw [waiting]; exact core.sorted
  case once => rw [kicked, waiting]; exact core.once
  case fresh => rw [kicked, waiting]; exact core.fresh

end Core

theorem DsiCtrl.write_fits (s : DsiCtrl) (start : ℕ) (bytes : List Byte)
    (fits : start + bytes.length ≤ sz4K) :
    ∃ vaddr : Buffer Byte sz4K, s.write start bytes = { s with vaddr := vaddr } ∧
      vaddr.toList.take (start + bytes.length) = s.vaddr.toList.take start ++ bytes := by
  obtain ⟨vaddr, copied⟩ := s.vaddr.exists_copyAt fits
  refine ⟨vaddr, ?_, Buffer.take_of_copyAt copied⟩
  simp only [DsiCtrl.write, copied]

namespace Core

variable {s : DsiCtrl} {bound : ℕ}

theorem hand (core : Core createPacket s bound) {k : Kickoff} {msg : Msg}
    (bytes : k.bytes = k.expected createPacket) (messages : k.messages = [(bound, msg)]) :
    Core createPacket { s with kickoffs := s.kickoffs ++ [k] } (bound + 1) := by
  have kicked : DsiCtrl.kicked { s with kickoffs := s.kickoffs ++ [k] } = s.kicked ++ [bound] := by
    simp [DsiCtrl.kicked, messages]
  have waiting : DsiCtrl.waiting { s with kickoffs := s.kickoffs ++ [k] } = s.waiting := rfl
  have listed : (s.kicked ++ [bound] ++ s.waiting).Perm (bound :: (s.kicked ++ s.waiting)) := by
    rw [List.append_assoc]
    exact List.perm_middle
  constructor
  case pending => exact core.pending
  case parts => exact core.parts
  case aligned => exact core.aligned
  case within => exact core.within
  case intact => exact core.intact
  case handed =>
    intro k' member
    rcases List.mem_append.mp member with before | new
    · exact core.handed k' before
    · rw [List.mem_singleton.mp new]
      exact bytes
  case ordered =>
    intro k' member
    rcases List.mem_append.mp member with before | new
    · exact core.ordered k' before
    · rw [List.mem_singleton.mp new, messages]
      exact List.pairwise_singleton ..
  case sorted => exact core.sorted
  case once =>
    rw [kicked, waiting, listed.nodup_iff]
    exact List.nodup_cons.mpr ⟨fun member => (core.fresh bound member).false, core.once⟩
  case fresh =>
    intro n member
    rw [kicked, waiting] at member
    rcases List.mem_cons.mp (listed.mem_iff.mp member) with rfl | before
    · omega
    · have := core.fresh n before
      omega

theorem flush (core : Core createPacket s bound) :
    Core createPacket
      { s with
        cmdLen := 0, batch := []
        kickoffs := s.kickoffs ++ [⟨.embedded, s.vaddr.toList.take s.cmdLen, s.batch⟩] } bound := by
  let k : Kickoff := ⟨.embedded, s.vaddr.toList.take s.cmdLen, s.batch⟩
  have listed : (s.kickoffs ++ [k]).flatMap (fun k : Kickoff => k.messages.map Prod.fst) ++ [] =
    s.kicked ++ s.waiting := by
    simp [DsiCtrl.kicked, DsiCtrl.waiting, k]
  constructor
  case pending => rfl
  case parts => simp
  case aligned => exact dvd_zero 4
  case within => exact Nat.zero_le sz4K
  case intact => exact core.intact
  case handed =>
    intro k member
    rcases List.mem_append.mp member with before | new
    · exact core.handed k before
    · rw [List.mem_singleton.mp new]
      exact core.pending
  case ordered =>
    intro k member
    rcases List.mem_append.mp member with before | new
    · exact core.ordered k before
    · rw [List.mem_singleton.mp new]
      exact core.sorted
  case sorted => exact List.Pairwise.nil
  case once =>
    change ((s.kickoffs ++ [k]).flatMap (fun k : Kickoff => k.messages.map Prod.fst) ++ []).Nodup
    rw [listed]
    exact core.once
  case fresh =>
    change ∀ n ∈ (s.kickoffs ++ [k]).flatMap (fun k : Kickoff => k.messages.map Prod.fst) ++ [],
      n < bound
    rw [listed]
    exact core.fresh

theorem put (core : Core createPacket s bound) {msg : Msg} {vaddr : Buffer Byte sz4K}
    (taken : vaddr.toList.take (s.cmdLen + (command createPacket msg).length) =
      s.vaddr.toList.take s.cmdLen ++ command createPacket msg)
    (long : 4 ≤ (command createPacket msg).length) (aligned : 4 ∣ (command createPacket msg).length)
    (fits : s.cmdLen + (command createPacket msg).length ≤ sz4K) :
    Core createPacket
      { s with
        vaddr := vaddr, cmdLen := s.cmdLen + (command createPacket msg).length
        batch := s.batch ++ [(bound, msg)] } (bound + 1) := by
  have waiting : (s.batch ++ [(bound, msg)]).map Prod.fst =
    s.waiting ++ [bound] := by simp [DsiCtrl.waiting]
  have listed : s.kicked ++ (s.batch ++ [(bound, msg)]).map Prod.fst =
    s.kicked ++ s.waiting ++ [bound] := by
    rw [waiting, List.append_assoc]
  have waits : ∀ n ∈ s.waiting, n < bound :=
    fun n member => core.fresh n (List.mem_append_right _ member)
  constructor
  case pending =>
    change vaddr.toList.take _ = concat createPacket (s.batch ++ [(bound, msg)])
    rw [taken, core.pending, concat, concat, List.flatMap_append, List.flatMap_singleton]
  case parts =>
    intro message member
    rcases List.mem_append.mp member with before | new
    · exact core.parts message before
    · rw [List.mem_singleton.mp new]
      exact long
  case aligned => exact Nat.dvd_add core.aligned aligned
  case within => exact fits
  case intact => exact core.intact
  case handed => exact core.handed
  case ordered => exact core.ordered
  case sorted =>
    rw [DsiCtrl.waiting, waiting]
    refine List.pairwise_append.mpr ⟨core.sorted, List.pairwise_singleton .., ?_⟩
    intro n member m new
    rw [List.mem_singleton.mp new]
    exact waits n member
  case once =>
    change (s.kicked ++ (s.batch ++ [(bound, msg)]).map Prod.fst).Nodup
    rw [listed]
    refine List.nodup_append'.mpr ⟨core.once, List.nodup_singleton bound, ?_⟩
    exact List.disjoint_singleton.mpr fun member => (core.fresh bound member).false
  case fresh =>
    change ∀ n ∈ s.kicked ++ (s.batch ++ [(bound, msg)]).map Prod.fst, n < bound + 1
    rw [listed]
    intro n member
    rcases List.mem_append.mp member with before | new
    · have := core.fresh n before
      omega
    · have := List.mem_singleton.mp new
      omega

end Core

/-! ## One message -/

inductive Sent (createPacket : Msg → Option Packet) (s : DsiCtrl) (msg : Msg) (flags : Flags)
    (answers : Answers) :
    DsiCtrl × Int → Prop
  | refused {rc : Int} : rc ≠ 0 → Sent createPacket s msg flags answers (s, rc)
  | nonEmbedded : msg.txBuf.length + 4 ≤ sz4K → flags.deferTrigger = false →
      Diverted createPacket s msg flags answers →
      Sent createPacket s msg flags answers
        (s.txNonEmbedded msg { flags with nonEmbeddedMode := true } answers)
  | embedded {packet : Packet} : createPacket msg = some packet →
      msg.txBuf.length + 4 ≤ dsiEmbeddedModeDmaMaxSizeBytes →
        s.cmdLen + msg.txBuf.length + 4 ≤ sz4K →
      Sent createPacket s msg flags answers
        (s.txEmbedded msg (command createPacket msg) flags answers)
  | fifo : (msg.lastCommand = true → flags.deferTrigger = true ∨ answers.cmdDmaDone = true →
        Diverted createPacket s msg flags answers) →
      Sent createPacket s msg flags answers
        (s.kickoff (some ⟨.fifo, command createPacket msg, [(s.given, msg)]⟩)
          { flags with fetchMemory := false, fifoStore := true } answers)

theorem cmdTransfer_sent {s : DsiCtrl} {msg : Msg} {flags : Flags} {answers : Answers}
    (within : s.cmdLen ≤ sz4K)
    (meant : flags.Meant) (short : msg.txBuf.length + 4 < 2 ^ 32) :
    Sent createPacket s msg flags answers (s.cmdTransfer createPacket msg flags answers) := by
  obtain ⟨broadcast, deferTrigger, fifoStore, fetchMemory, nonEmbeddedMode⟩ := flags
  obtain ⟨fetch, fifo, embedded, defers⟩ := meant
  change fetchMemory = true at fetch
  change fifoStore = false at fifo
  change nonEmbeddedMode = false at embedded
  subst fetch fifo embedded
  have length : u32 msg.txBuf.length = msg.txBuf.length := Nat.mod_eq_of_lt (by omega)
  have header : u32 (msg.txBuf.length + 4) = msg.txBuf.length + 4 := Nat.mod_eq_of_lt short
  unfold DsiCtrl.cmdTransfer
  by_cases ready : answers.checkState = 0
  swap
  · rw [if_pos ready]
    exact .refused ready
  rw [if_neg (not_not_intro ready)]
  unfold DsiCtrl.messageTx
  simp only [length]
  by_cases valid : s.validateTxMode msg.txBuf.length
      (s.setupTxMode msg.txBuf.length ⟨broadcast, deferTrigger, false, true, false⟩) = 0
  swap
  · rw [if_pos valid]
    exact .refused (by decide)
  rw [if_neg (not_not_intro valid)]
  cases secure : s.secureMode with
  | true =>
    have mode : s.setupTxMode msg.txBuf.length ⟨broadcast, deferTrigger, false, true, false⟩ =
        ⟨broadcast, deferTrigger, true, false, false⟩ := by
      simp [DsiCtrl.setupTxMode, secure]
    rw [mode]
    simp only [Bool.false_eq_true, if_false, if_true]
    cases made : createPacket msg with
    | none => exact .refused (by decide)
    | some packet =>
      cases kzalloc : answers.devmKzalloc with
      | false => exact .refused (by decide)
      | true =>
        have bytes : lastCmdBit msg.lastCommand packet.paddedCmd = command createPacket msg := by
          simp only [command, made]
        simp only [Bool.not_true, Bool.false_eq_true, if_false, bytes]
        exact .fifo fun last done =>
          ⟨ready, valid, .inr ⟨secure, last, by rw [made]; rfl, kzalloc, done⟩⟩
  | false =>
    by_cases long : dsiEmbeddedModeDmaMaxSizeBytes < msg.txBuf.length + 4
    · have mode : s.setupTxMode msg.txBuf.length ⟨broadcast, deferTrigger, false, true, false⟩ =
          ⟨broadcast, deferTrigger, false, true, true⟩ := by
        simp [DsiCtrl.setupTxMode, secure, header, long]
      have checked := valid
      rw [mode] at checked ⊢
      simp only [if_true]
      have fits : broadcast = false ∧ msg.txBuf.length + 4 ≤ sz4K := by
        cases broadcast with
        | true => simp [DsiCtrl.validateTxMode, eNotSupp] at checked
        | false =>
          refine ⟨rfl, not_lt.mp fun exceeds => ?_⟩
          simp [DsiCtrl.validateTxMode, header, exceeds, eNotSupp] at checked
      have now : deferTrigger = false := by
        cases deferTrigger with
        | false => rfl
        | true => exact absurd (defers rfl) (by rw [fits.1]; decide)
      exact .nonEmbedded fits.2 now ⟨ready, valid, .inl (by rw [mode])⟩
    · have mode : s.setupTxMode msg.txBuf.length ⟨broadcast, deferTrigger, false, true, false⟩ =
          ⟨broadcast, deferTrigger, false, true, false⟩ := by
        simp [DsiCtrl.setupTxMode, secure, header, long]
      rw [mode] at valid ⊢
      rw [dsiEmbeddedModeDmaMaxSizeBytes] at long
      rw [sz4K] at within
      have total : u32 (s.cmdLen + msg.txBuf.length + 4) = s.cmdLen + msg.txBuf.length + 4 :=
        Nat.mod_eq_of_lt (by omega)
      have fits : s.cmdLen + msg.txBuf.length + 4 ≤ sz4K := by
        simp [DsiCtrl.validateTxMode, total, eNotSupp] at valid
        exact valid
      simp only [Bool.false_eq_true, if_false]
      cases made : createPacket msg with
      | none => exact .refused (by decide)
      | some packet =>
        cases answers.devmKzalloc with
        | false => exact .refused (by decide)
        | true =>
          have bytes : lastCmdBit msg.lastCommand packet.paddedCmd = command createPacket msg := by
            simp only [command, made]
          simp only [Bool.not_true, Bool.false_eq_true, if_false, if_true, bytes]
          exact .embedded made (not_lt.mp long) fits

structure Taken (createPacket : Msg → Option Packet) (s : DsiCtrl) (msg : Msg)
    (result : DsiCtrl × Int) : Prop where
  core : Core createPacket result.1 (s.given + 1)
  record : result.1.given = s.given ∧ result.1.accepted = s.accepted ∧ result.1.acceptedLast =
    s.acceptedLast
  keeps : ∀ n ∈ s.kicked ++ s.waiting, n ∈ result.1.kicked ++ result.1.waiting
  takes : result.2 = 0 → s.given ∈ result.1.kicked ++ result.1.waiting
  waits : ∀ n ∈ result.1.waiting, n ∈ s.waiting ∨ n = s.given
  last : result.2 = 0 → msg.lastCommand = true → result.1.waiting = []

section

variable {s : DsiCtrl} {msg : Msg} {flags : Flags} {answers : Answers}

theorem taken_hand (core : Core createPacket s s.given) {k : Kickoff}
    (bytes : k.bytes = k.expected createPacket)
    (messages : k.messages = [(s.given, msg)]) {rc : Int}
    (last : rc = 0 → msg.lastCommand = true → s.waiting = []) :
    Taken createPacket s msg ({ s with kickoffs := s.kickoffs ++ [k] }, rc) := by
  have kicked : DsiCtrl.kicked { s with kickoffs := s.kickoffs ++ [k] } =
    s.kicked ++ [s.given] := by
    simp [DsiCtrl.kicked, messages]
  constructor
  case core => exact core.hand bytes messages
  case record => exact ⟨rfl, rfl, rfl⟩
  case keeps =>
    intro n member
    rw [kicked]
    rcases List.mem_append.mp member with before | waits
    · exact List.mem_append_left _ (List.mem_append_left _ before)
    · exact List.mem_append_right _ waits
  case takes => exact fun _ => by rw [kicked]; simp
  case waits => exact fun n => .inl
  case last => exact last

theorem taken_fifo (core : Core createPacket s s.given)
    (last : msg.lastCommand = true → flags.deferTrigger = true ∨ answers.cmdDmaDone = true →
    s.waiting = [])
    (embedded : flags.nonEmbeddedMode = false) :
    Taken createPacket s msg
      (s.kickoff (some ⟨.fifo, command createPacket msg, [(s.given, msg)]⟩)
        { flags with fetchMemory := false, fifoStore := true } answers) := by
  have bytes : command createPacket msg = concat createPacket [(s.given, msg)] := by simp [concat]
  let k : Kickoff := ⟨.fifo, command createPacket msg, [(s.given, msg)]⟩
  have hand : ∀ rc : Int, (rc = 0 → msg.lastCommand = true → s.waiting = []) →
      Taken createPacket s msg ({ s with kickoffs := s.kickoffs ++ [k] }, rc) :=
        fun _ => taken_hand core bytes rfl
  unfold DsiCtrl.kickoff
  simp only [Option.toList_some, embedded, Bool.false_eq_true, if_false]
  split
  case isTrue defer => exact hand 0 fun _ final => last final (.inl defer)
  case isFalse =>
    refine hand _ fun done final => last final (.inr ?_)
    cases reply : answers.cmdDmaDone with
    | true => rfl
    | false => simp [reply, eTimedOut] at done

theorem taken_nonEmbedded (core : Core createPacket s s.given) (empty : s.cmdLen = 0)
    (meant : flags.fetchMemory = true ∧ flags.deferTrigger = false)
    (fits : msg.txBuf.length ≤ sz4K) :
    Taken createPacket s msg
    (s.txNonEmbedded msg { flags with nonEmbeddedMode := true } answers) := by
  have batch := core.batch_nil empty
  have waiting : s.waiting = [] := by rw [DsiCtrl.waiting, batch, List.map_nil]
  obtain ⟨vaddr, written, taken⟩ :=
    DsiCtrl.write_fits { s with cmdLen := u32 msg.txBuf.length } 0 msg.txBuf
    (by omega)
  rw [Nat.zero_add, List.take_zero, List.nil_append] at taken
  have emptied : Core createPacket { s with vaddr := vaddr, cmdLen := 0 } s.given :=
    { core with
      pending := by rw [List.take_zero, batch]; rfl
      aligned := dvd_zero 4
      within := Nat.zero_le sz4K }
  have bytes : vaddr.toList.take msg.txBuf.length = [(s.given, msg)].flatMap fun message =>
    message.2.txBuf := by
    rw [taken]
    simp
  let k : Kickoff := ⟨.nonEmbedded, vaddr.toList.take msg.txBuf.length, [(s.given, msg)]⟩
  have handed : k.bytes = k.expected createPacket := bytes
  have hand := fun rc : Int => taken_hand emptied handed rfl fun (_ : rc = 0) _ => waiting
  unfold DsiCtrl.txNonEmbedded
  dsimp only
  rw [written]
  simp only [meant.1, if_true, DsiCtrl.kickoff, Option.toList_some, meant.2,
    Bool.false_eq_true, if_false]
  -- the message does not see that the buffer was overwritten, since nothing was in it
  have := hand (if answers.cmdDmaDone = true then 0 else eTimedOut)
  exact { this with }

theorem length_command (made : createPacket msg = some packet) (small : packet.size + 3 < 2 ^ 32) :
    (command createPacket msg).length = (packet.size + 3) / 4 * 4 := by
  simp only [command, made, length_lastCmdBit, length_paddedCmd_small small]

theorem taken_embedded (fits : Fits createPacket) (core : Core createPacket s s.given)
    (made : createPacket msg = some packet)
    (short : msg.txBuf.length + 4 ≤ dsiEmbeddedModeDmaMaxSizeBytes)
    (room : s.cmdLen + msg.txBuf.length + 4 ≤ sz4K) (embedded : flags.nonEmbeddedMode = false) :
    Taken createPacket s msg (s.txEmbedded msg (command createPacket msg) flags answers) := by
  have payload := fits msg packet made
  rw [dsiEmbeddedModeDmaMaxSizeBytes] at short
  have size : packet.size ≤ msg.txBuf.length + 4 := by rw [Packet.size]; omega
  have atLeast : 4 ≤ packet.size := by rw [Packet.size]; omega
  have length := length_command made (by omega)
  -- the check is on the unpadded length, but the buffer is filled in words of four bytes
  have padded : s.cmdLen + (command createPacket msg).length ≤ sz4K := by
    obtain ⟨words, filled⟩ := core.aligned
    rw [sz4K] at room ⊢
    omega
  obtain ⟨vaddr, written, taken⟩ := s.write_fits _ _ padded
  have put : Core createPacket
      { s with
        vaddr := vaddr, cmdLen := s.cmdLen + (command createPacket msg).length
        batch := s.batch ++ [(s.given, msg)] } (s.given + 1) :=
    core.put taken (by omega) (by omega) padded
  have sum : u32 (s.cmdLen + (command createPacket msg).length) =
    s.cmdLen + (command createPacket msg).length := by
    rw [sz4K] at padded
    exact Nat.mod_eq_of_lt (by omega)
  have waiting : (s.batch ++ [(s.given, msg)]).map Prod.fst =
    s.waiting ++ [s.given] := by simp [DsiCtrl.waiting]
  unfold DsiCtrl.txEmbedded
  rw [written]
  dsimp only
  rw [sum]
  cases final : msg.lastCommand with
  | false =>
    have listed : ∀ n, n ∈ s.kicked ++ (s.batch ++ [(s.given, msg)]).map Prod.fst ↔
        n ∈ s.kicked ++ s.waiting ∨ n = s.given := fun n => by
      rw [waiting, ← List.append_assoc, List.mem_append, List.mem_singleton]
    constructor
    case core => exact put
    case record => exact ⟨rfl, rfl, rfl⟩
    case keeps => exact fun n member => (listed n).mpr (.inl member)
    case takes => exact fun _ => (listed s.given).mpr (.inr rfl)
    case waits =>
      intro n (member : n ∈ (s.batch ++ [(s.given, msg)]).map Prod.fst)
      rw [waiting, List.mem_append, List.mem_singleton] at member
      exact member
    case last => exact fun _ last => absurd (final.symm.trans last) (by decide)
  | true =>
    simp only [Bool.not_true, Bool.false_eq_true, if_false]
    let k : Kickoff :=
      ⟨.embedded, vaddr.toList.take (s.cmdLen + (command createPacket msg).length),
        s.batch ++ [(s.given, msg)]⟩
    have listed : ∀ n, n ∈ (s.kickoffs ++ [k]).flatMap
      (fun k : Kickoff => k.messages.map Prod.fst) ++ [] ↔
        n ∈ s.kicked ++ s.waiting ∨ n = s.given := fun n => by
      have all : (s.kickoffs ++ [k]).flatMap (fun k : Kickoff => k.messages.map Prod.fst) ++ [] =
          s.kicked ++ s.waiting ++ [s.given] := by
        simp [DsiCtrl.kicked, DsiCtrl.waiting, k]
      rw [all, List.mem_append, List.mem_singleton]
    have emptied : ∀ rc : Int, Taken createPacket s msg
        ({ s with vaddr := vaddr, cmdLen := 0, batch := [], kickoffs := s.kickoffs ++ [k] },
          rc) := by
      intro rc
      constructor
      case core => exact put.flush
      case record => exact ⟨rfl, rfl, rfl⟩
      case keeps => exact fun n member => (listed n).mpr (.inl member)
      case takes => exact fun _ => (listed s.given).mpr (.inr rfl)
      case waits => exact fun n member => absurd member List.not_mem_nil
      case last => exact fun _ _ => rfl
    unfold DsiCtrl.kickoff
    simp only [Option.toList_some, embedded, Bool.false_eq_true, if_false]
    split
    case isTrue => exact emptied 0
    case isFalse => exact emptied _

theorem cmdTransfer_taken (fits : Fits createPacket) (core : Core createPacket s s.given)
    (meant : flags.Meant)
    (short : msg.txBuf.length + 4 < 2 ^ 32)
    (alone : Diverted createPacket s msg flags answers → s.cmdLen = 0) :
    Taken createPacket s msg (s.cmdTransfer createPacket msg flags answers) := by
  have sent : Sent createPacket s msg flags answers
    (s.cmdTransfer createPacket msg flags answers) :=
    cmdTransfer_sent core.within meant short
  generalize s.cmdTransfer createPacket msg flags answers = result at sent ⊢
  cases sent with
  | refused failed =>
    constructor
    case core => exact core.mono (Nat.le_succ _)
    case record => exact ⟨rfl, rfl, rfl⟩
    case keeps => exact fun _ member => member
    case takes => exact fun done => absurd done failed
    case waits => exact fun _ => .inl
    case last => exact fun done => absurd done failed
  | nonEmbedded length now diverted =>
    exact taken_nonEmbedded core (alone diverted) ⟨meant.1, now⟩ (by omega)
  | embedded made length room => exact taken_embedded fits core made length room meant.2.2.1
  | fifo diverted =>
    refine taken_fifo core (fun last done => ?_) meant.2.2.1
    rw [DsiCtrl.waiting, core.batch_nil (alone (diverted last done)), List.map_nil]

end

/-! ## Runs -/

theorem step_inv (fits : Fits createPacket) (s : DsiCtrl) (input : Input) (inv : Inv createPacket s)
    (orderly : Orderly createPacket s input) : Inv createPacket (step createPacket s input) := by
  cases input with
  | secure secureMode =>
    have core : Core createPacket { s with secureMode := secureMode } s.given :=
      inv.toCore.congr rfl rfl rfl rfl rfl
    exact { core with covered := inv.covered, known := inv.known, later := inv.later }
  | cmdTransfer msg flags answers =>
    obtain ⟨meant, short, alone⟩ := orderly
    have taken := cmdTransfer_taken fits inv.toCore meant short alone
    obtain ⟨given, accepted, acceptedLast⟩ := taken.record
    simp only [step]
    generalize s.cmdTransfer createPacket msg flags answers = result
      at taken given accepted acceptedLast ⊢
    obtain ⟨s', rc⟩ := result
    simp only at given accepted acceptedLast ⊢
    have core : Core createPacket
        { s' with
          given := s.given + 1
          accepted := s.accepted ++ if rc = 0 then [s.given] else []
          acceptedLast :=
            s.acceptedLast ++ if rc = 0 ∧ msg.lastCommand = true then [s.given] else [] }
        (s.given + 1) := taken.core.congr rfl rfl rfl rfl rfl
    constructor
    case toCore => exact core
    case covered =>
      intro n (member : n ∈ s.accepted ++ if rc = 0 then [s.given] else [])
      change n ∈ s'.kicked ++ s'.waiting
      rcases List.mem_append.mp member with before | new
      · exact taken.keeps n (inv.covered n before)
      · split at new
        case isTrue done =>
          rw [List.mem_singleton.mp new]
          exact taken.takes done
        case isFalse => exact absurd new List.not_mem_nil
    case known =>
      intro n (member : n ∈ s.acceptedLast ++ if rc = 0 ∧ msg.lastCommand = true then
        [s.given] else [])
      change n < s.given + 1
      rcases List.mem_append.mp member with before | new
      · exact (inv.known n before).trans (Nat.lt_succ_self _)
      · split at new
        case isTrue =>
          rw [List.mem_singleton.mp new]
          exact Nat.lt_succ_self _
        case isFalse => exact absurd new List.not_mem_nil
    case later =>
      intro n (member : n ∈ s.acceptedLast ++ if rc = 0 ∧ msg.lastCommand = true then [s.given]
        else []) m waits
      change m ∈ s'.waiting at waits
      rcases List.mem_append.mp member with before | new
      · rcases taken.waits m waits with older | rfl
        · exact inv.later n before m older
        · exact inv.known n before
      · split at new
        case isTrue final =>
          rw [taken.last final.1 final.2] at waits
          exact absurd waits List.not_mem_nil
        case isFalse => exact absurd new List.not_mem_nil

/-- The state after `dsi_ctrl_buffer_init`, for the operations that this version of the hardware
    has. -/
def start (vaddr : Buffer Byte sz4K) (kickoffFifoCommand kickoffCommandNonEmbeddedMode : Bool) :
    DsiCtrl :=
  { vaddr, kickoffFifoCommand, kickoffCommandNonEmbeddedMode }

theorem start_inv (vaddr : Buffer Byte sz4K) (fifo nonEmbedded : Bool) :
    Inv createPacket (start vaddr fifo nonEmbedded) where
  pending := rfl
  parts := by simp [start]
  aligned := dvd_zero 4
  within := Nat.zero_le sz4K
  intact := rfl
  handed := by simp [start]
  ordered := by simp [start]
  sorted := List.Pairwise.nil
  once := List.nodup_nil
  fresh := by simp [start, DsiCtrl.kicked, DsiCtrl.waiting]
  covered := by simp [start]
  known := by simp [start]
  later := by simp [start]

/-- As long as no message is diverted while others are in the buffer, no command is lost, repeated
    or mixed. -/
theorem commands_exact (fits : Fits createPacket) (vaddr : Buffer Byte sz4K)
    (fifo nonEmbedded : Bool)
    {inputs : List Input}
    (orderly : StepsMeet (step createPacket) (Orderly createPacket)
    (start vaddr fifo nonEmbedded) inputs) :
    Throughout (step createPacket) (Exact createPacket) (start vaddr fifo nonEmbedded) inputs :=
  throughout_of_meets (Inv createPacket) (step_inv fits) (fun _ inv => inv.exact)
    (start_inv ..) orderly

/-- `mipi_dsi_create_packet` for DCS writes. -/
def dcsPacket (msg : Msg) : Option Packet :=
  let header (low high : Byte) : Fin 4 → Byte :=
    [low, high, BitVec.ofNat 8 (msg.channel * 64) ||| msg.type, 0].get
  if 3 < msg.channel then none
  else if msg.type = 0x39 then
    some ⟨header (BitVec.ofNat 8 msg.txBuf.length) (BitVec.ofNat 8 (msg.txBuf.length / 256)),
      msg.txBuf⟩
  else if msg.type = 0x05 ∨ msg.type = 0x15 then some
    ⟨header (msg.txBuf.getD 0 0) (msg.txBuf.getD 1 0), []⟩
  else none

theorem dcsPacket_fits : Fits dcsPacket := by
  intro msg packet made
  unfold dcsPacket at made
  dsimp only at made
  split at made
  · cases made
  split at made
  · cases made
    exact le_rfl
  split at made
  · cases made
    exact Nat.zero_le _
  · cases made

def shortWrite (lastCommand : Bool) : Msg := { type := 0x05, txBuf := [0x11], lastCommand }

def longWrite : Msg := { type := 0x39, txBuf := List.replicate 300 0x2C, lastCommand := true }

def given (msg : Msg) : Input := .cmdTransfer msg { fetchMemory := true } {}

theorem commands_exact_mixed :
    Throughout (step dcsPacket) (Exact dcsPacket) (start (Buffer.replicate sz4K 0) true true)
      [given longWrite, given (shortWrite false), given (shortWrite true), .secure true,
        given (shortWrite true),
        .secure false] :=
  commands_exact dcsPacket_fits _ _ _ (by decide +kernel)

/-- A long message drops the one that is in the buffer.  A message through the FIFO leaves it in the
    buffer. -/
theorem left_behind :
    ¬Throughout (step dcsPacket) (Exact dcsPacket) (start (Buffer.replicate sz4K 0) true true)
        [given (shortWrite false), given longWrite] ∧
      ¬Throughout (step dcsPacket) (Exact dcsPacket) (start (Buffer.replicate sz4K 0) true true)
        [given (shortWrite false), .secure true, given (shortWrite true)] := by
  constructor
  · intro exact
    have sent := exact.2.2.sent 1 (by decide +kernel) 0 (by decide +kernel) (by decide)
    exact absurd sent (by decide +kernel)
  · intro exact
    have sent := exact.2.2.2.sent 1 (by decide +kernel) 0 (by decide +kernel) (by decide)
    exact absurd sent (by decide +kernel)

end DisplayDrivers.DsiCmd
