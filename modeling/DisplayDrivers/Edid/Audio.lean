import DisplayDrivers.Edid.Finders
import DisplayDrivers.Lib.Buffer
import DisplayDrivers.Lib.Loop

/-! # Audio data blocks

`_sde_edid_extract_audio_data_blocks` copies the payloads of the audio data blocks behind each
other.
-/

namespace DisplayDrivers.Edid

open DisplayDrivers.Lib DisplayDrivers.Lib.Records DisplayDrivers.Lib.Loop

def MAX_NUMBER_ADB : Nat := 5
def MAX_AUDIO_DATA_BLOCK_SIZE : Nat := 30

/-- What the extraction uses of `struct sde_edid_ctrl`. -/
structure SdeEdidCtrl where
  edid : Bytes
  audioDataBlock : Buffer U8 (MAX_NUMBER_ADB * MAX_AUDIO_DATA_BLOCK_SIZE)
  adbSize : Nat

structure AudioLoop where
  ctrl : SdeEdidCtrl
  offset : Nat
  adbMax : Nat

def bytesAt (mem : Bytes) (start len : Nat) : List U8 :=
  (List.range len).map fun i => mem (start + i)

def AudioLoop.behind (s : AudioLoop)
    (block : Buffer U8 (MAX_NUMBER_ADB * MAX_AUDIO_DATA_BLOCK_SIZE))
    (adb len : Nat) : AudioLoop :=
  { ctrl := { s.ctrl with audioDataBlock := block, adbSize := s.ctrl.adbSize + len }
    offset := adb + 1 + len
    adbMax := s.adbMax + 1 }

/-- The body of the loop and `while (adb)`; the result is `none` where the copy leaves the
    buffer. -/
def audioStep (cea : Bytes) (s : AudioLoop) : AudioLoop ⊕ Option SdeEdidCtrl :=
  match (_sdeEdidFindBlock cea s.offset AUDIO_DATA_BLOCK).value with
  | none => .inr (some s.ctrl)
  | some (adb, len) =>
    if MAX_AUDIO_DATA_BLOCK_SIZE < len ∨ MAX_NUMBER_ADB ≤ s.adbMax then
      -- `continue` with the block found: the condition holds
      if s.ctrl.adbSize = 0 then .inr (some s.ctrl) else .inl s
    else
      -- five blocks of thirty bytes are what the buffer has room for
      match s.ctrl.audioDataBlock.copyAt s.ctrl.adbSize (bytesAt cea (adb + 1) len) with
      | none => .inr none
      | some block => .inl (s.behind block adb len)

def audioStart (ctrl : SdeEdidCtrl) : AudioLoop :=
  { ctrl := { ctrl with audioDataBlock := Buffer.replicate _ 0, adbSize := 0 }
    offset := DBC_START_OFFSET
    adbMax := 0 }

/-- `_sde_edid_extract_audio_data_blocks` returns and leaves `result`. -/
def SdeEdidExtractAudioDataBlocks (ctrl : SdeEdidCtrl) (result : Option SdeEdidCtrl) : Prop :=
  match (sdeFindCeaExtension ctrl.edid).value with
  | none => result = some ctrl
  | some base => Returns (audioStep (ctrl.edid.at base)) (audioStart ctrl) result

/-! ## What is to be collected -/

variable (cea : Bytes)

/-- The audio data blocks that `_sde_edid_find_block` finds from `offset` on. -/
def audioBlocks (offset : Nat) : List Nat :=
  if Present cea then
    (walk cea sdeCeaDbPayloadLen (cea 2).toNat offset).filter (endsInside cea AUDIO_DATA_BLOCK)
  else []

def payload (i : Nat) : List U8 := bytesAt cea (i + 1) (sdeCeaDbPayloadLen (cea i))

def leading (room : Nat) (found : List Nat) : List Nat :=
  (found.takeWhile fun i => sdeCeaDbPayloadLen (cea i) ≤ MAX_AUDIO_DATA_BLOCK_SIZE).take room

def leadingBytes (room : Nat) (found : List Nat) : List U8 :=
  (leading cea room found).flatMap (payload cea)

variable {cea}

@[simp] theorem length_payload (i : Nat) : (payload cea i).length = sdeCeaDbPayloadLen (cea i) := by
  simp [payload, bytesAt]

theorem findBlock_eq_none {offset : Nat} (nothing : audioBlocks cea offset = []) :
    (_sdeEdidFindBlock cea offset AUDIO_DATA_BLOCK).value = none := by
  rw [value_findBlockFrom]
  rw [audioBlocks] at nothing
  split
  · rename_i there
    rw [if_pos there] at nothing
    rw [List.find?_eq_none.mpr (List.filter_eq_nil_iff.mp nothing)]
    rfl
  · rfl

variable {rest : List Nat}

variable {i : Nat}

theorem findBlock_eq_some {offset : Nat} (more : audioBlocks cea offset = i :: rest) :
    (_sdeEdidFindBlock cea offset AUDIO_DATA_BLOCK).value = some (i, sdeCeaDbPayloadLen (cea i)) ∧
      audioBlocks cea (i + 1 + sdeCeaDbPayloadLen (cea i)) = rest := by
  rw [value_findBlockFrom]
  rw [audioBlocks] at more ⊢
  split at more
  · rename_i there
    have found : (walk cea sdeCeaDbPayloadLen (cea 2).toNat offset).find?
        (endsInside cea AUDIO_DATA_BLOCK) = some i := by
      rw [← List.head?_filter, more]
      rfl
    have later := filter_walk_of_find found
    rw [more] at later
    have next : i + 1 + sdeCeaDbPayloadLen (cea i) = i + sdeCeaDbPayloadLen (cea i) + 1 := by omega
    rw [if_pos there, if_pos there, found, next]
    exact ⟨rfl, (List.cons.inj later).2.symm⟩
  · cases more

theorem leading_cons_of_le {room : Nat} (rest : List Nat)
    (short : sdeCeaDbPayloadLen (cea i) ≤ MAX_AUDIO_DATA_BLOCK_SIZE) :
    leading cea (room + 1) (i :: rest) = i :: leading cea room rest := by
  rw [leading, List.takeWhile_cons_of_pos (by simpa using short), List.take_succ_cons]
  rfl

theorem leading_of_rejected {room : Nat} (rest : List Nat)
    (rejected : MAX_AUDIO_DATA_BLOCK_SIZE < sdeCeaDbPayloadLen (cea i) ∨ room = 0) :
    leading cea room (i :: rest) = [] := by
  rcases rejected with long | rfl
  · rw [leading, List.takeWhile_cons_of_neg (by simpa using long), List.take_nil]
  · rw [leading, List.take_zero]

/-! ## The loop -/

structure Collected (s : AudioLoop) (bytes : List U8) : Prop where
  size : s.ctrl.adbSize = bytes.length
  front : s.ctrl.audioDataBlock.toList.take bytes.length = bytes
  few : s.adbMax ≤ MAX_NUMBER_ADB
  room : bytes.length ≤ s.adbMax * MAX_AUDIO_DATA_BLOCK_SIZE

/-- The buffer holds `bytes` and `adb_size` is their number. -/
structure SdeEdidCtrl.Holds (ctrl : SdeEdidCtrl) (bytes : List U8) : Prop where
  front : ctrl.audioDataBlock.toList.take ctrl.adbSize = bytes
  fits : ctrl.adbSize ≤ MAX_NUMBER_ADB * MAX_AUDIO_DATA_BLOCK_SIZE

variable {s : AudioLoop} {bytes : List U8}

theorem Collected.holds (collected : Collected s bytes) : s.ctrl.Holds bytes where
  front := by
    rw [collected.size]
    exact collected.front
  fits := by
    rw [collected.size]
    exact Nat.le_trans collected.room (Nat.mul_le_mul_right _ collected.few)

theorem audioStep_accept (collected : Collected s bytes)
    (more : audioBlocks cea s.offset = i :: rest)
    (short : sdeCeaDbPayloadLen (cea i) ≤ MAX_AUDIO_DATA_BLOCK_SIZE)
    (few : s.adbMax < MAX_NUMBER_ADB) :
    ∃ s', audioStep cea s = .inl s' ∧ Collected s' (bytes ++ payload cea i) ∧
      audioBlocks cea s'.offset = rest ∧ s'.adbMax = s.adbMax + 1 := by
  obtain ⟨found, behind⟩ := findBlock_eq_some more
  have room := collected.room
  have fits : s.ctrl.adbSize + (payload cea i).length ≤
      MAX_NUMBER_ADB * MAX_AUDIO_DATA_BLOCK_SIZE := by
    rw [collected.size, length_payload]
    simp only [MAX_NUMBER_ADB, MAX_AUDIO_DATA_BLOCK_SIZE] at *
    omega
  obtain ⟨block, copied⟩ := s.ctrl.audioDataBlock.exists_copyAt fits
  have accepts : ¬(MAX_AUDIO_DATA_BLOCK_SIZE < sdeCeaDbPayloadLen (cea i) ∨
      MAX_NUMBER_ADB ≤ s.adbMax) := by omega
  have copied' : s.ctrl.audioDataBlock.copyAt s.ctrl.adbSize
      (bytesAt cea (i + 1) (sdeCeaDbPayloadLen (cea i))) = some block := copied
  refine ⟨s.behind block i (sdeCeaDbPayloadLen (cea i)), ?_, ?_, behind, rfl⟩
  · simp only [audioStep, found, if_neg accepts, copied']
  · constructor
    · show s.ctrl.adbSize + _ = _
      rw [collected.size, List.length_append, length_payload]
    · have front := Buffer.take_of_copyAt copied
      rw [collected.size, collected.front] at front
      rw [List.length_append]
      exact front
    · exact few
    · show (bytes ++ payload cea i).length ≤ (s.adbMax + 1) * MAX_AUDIO_DATA_BLOCK_SIZE
      rw [List.length_append, length_payload, Nat.add_mul, Nat.one_mul]
      exact Nat.add_le_add room short

theorem audioStep_reject (collected : Collected s bytes)
    (more : audioBlocks cea s.offset = i :: rest)
    (rejected : MAX_AUDIO_DATA_BLOCK_SIZE < sdeCeaDbPayloadLen (cea i) ∨
      MAX_NUMBER_ADB ≤ s.adbMax) :
    audioStep cea s = if bytes = [] then .inr (some s.ctrl) else .inl s := by
  obtain ⟨found, -⟩ := findBlock_eq_some more
  simp only [audioStep, found, if_pos rejected, collected.size, List.length_eq_zero_iff]

theorem audioStep_cons (collected : Collected s bytes)
    (more : audioBlocks cea s.offset = i :: rest) :
    (leading cea (MAX_NUMBER_ADB - s.adbMax) (i :: rest) = [] ∧
        audioStep cea s = if bytes = [] then .inr (some s.ctrl) else .inl s) ∨
      ∃ s', audioStep cea s = .inl s' ∧ Collected s' (bytes ++ payload cea i) ∧
        audioBlocks cea s'.offset = rest ∧
        leading cea (MAX_NUMBER_ADB - s.adbMax) (i :: rest) =
          i :: leading cea (MAX_NUMBER_ADB - s'.adbMax) rest := by
  by_cases rejected : MAX_AUDIO_DATA_BLOCK_SIZE < sdeCeaDbPayloadLen (cea i) ∨
    MAX_NUMBER_ADB ≤ s.adbMax
  · exact .inl ⟨leading_of_rejected rest (rejected.imp_right Nat.sub_eq_zero_of_le),
      audioStep_reject collected more rejected⟩
  · obtain ⟨short, few⟩ := not_or.mp rejected
    obtain ⟨s', step, collected', blocks, count⟩ :=
      audioStep_accept collected more (Nat.le_of_not_lt short) (Nat.lt_of_not_le few)
    have room : MAX_NUMBER_ADB - s.adbMax = MAX_NUMBER_ADB - s'.adbMax + 1 := by omega
    refine .inr ⟨s', step, collected', blocks, ?_⟩
    rw [room, leading_cons_of_le rest (Nat.le_of_not_lt short)]

def AllTaken (cea : Bytes) (room : Nat) (bytes : List U8) (found : List Nat) : Prop :=
  leading cea room found = found ∨ bytes ++ leadingBytes cea room found = []

variable {found : List Nat}

theorem holds_of_returns (collected : Collected s bytes)
    (blocks : audioBlocks cea s.offset = found) {result : Option SdeEdidCtrl}
    (returns : Returns (audioStep cea) s result) :
    ∃ ctrl, result = some ctrl ∧
      ctrl.Holds (bytes ++ leadingBytes cea (MAX_NUMBER_ADB - s.adbMax) found) := by
  -- the induction is on the blocks to come; `Collected` goes along
  induction found generalizing s bytes with
  | nil =>
    have leave : audioStep cea s = .inr (some s.ctrl) := by
      simp only [audioStep, findBlock_eq_none blocks]
    rw [returns_of_leave leave] at returns
    exact ⟨s.ctrl, returns.symm, by simpa [leadingBytes, leading] using collected.holds⟩
  | cons i rest ih =>
    rcases audioStep_cons collected blocks with ⟨none, step⟩ | ⟨s', step, collected', blocks', some⟩
    · by_cases empty : bytes = []
      · rw [if_pos empty] at step
        rw [returns_of_leave step] at returns
        exact ⟨s.ctrl, returns.symm, by simpa [leadingBytes, none] using collected.holds⟩
      · rw [if_neg empty] at step
        exact absurd returns (not_returns_of_stuck step)
    · rw [returns_of_again step] at returns
      obtain ⟨ctrl, rfl, holds⟩ := ih collected' blocks' returns
      refine ⟨ctrl, rfl, ?_⟩
      rw [leadingBytes, some]
      simpa [leadingBytes] using holds

theorem returns_iff_allTaken (collected : Collected s bytes)
    (blocks : audioBlocks cea s.offset = found) :
    (∃ result, Returns (audioStep cea) s result) ↔
      AllTaken cea (MAX_NUMBER_ADB - s.adbMax) bytes found := by
  induction found generalizing s bytes with
  | nil =>
    have leave : audioStep cea s = .inr (some s.ctrl) := by
      simp only [audioStep, findBlock_eq_none blocks]
    exact iff_of_true ⟨_, (returns_of_leave leave).mpr rfl⟩ (.inl (by simp [leading]))
  | cons i rest ih =>
    rcases audioStep_cons collected blocks with ⟨none, step⟩ | ⟨s', step, collected', blocks', some⟩
    · by_cases empty : bytes = []
      · rw [if_pos empty] at step
        exact iff_of_true ⟨_, (returns_of_leave step).mpr rfl⟩
          (.inr (by simp [empty, leadingBytes, none]))
      · rw [if_neg empty] at step
        refine iff_of_false (fun ⟨_, returns⟩ => not_returns_of_stuck step returns) ?_
        simp [AllTaken, none, empty]
    · have later := ih collected' blocks'
      simp only [returns_of_again step, later, AllTaken, leadingBytes, some]
      simp

/-! ## The theorem -/

theorem collected_start (ctrl : SdeEdidCtrl) : Collected (audioStart ctrl) [] where
  size := rfl
  front := rfl
  few := Nat.zero_le _
  room := Nat.zero_le _

def AudioExact (ctrl : SdeEdidCtrl) : Prop :=
  ∀ base, (sdeFindCeaExtension ctrl.edid).value = some base →
    let cea := ctrl.edid.at base
    (∃ result, SdeEdidExtractAudioDataBlocks ctrl result) ∧
      ∀ result, SdeEdidExtractAudioDataBlocks ctrl result → ∃ ctrl', result = some ctrl' ∧
        ctrl'.Holds (leadingBytes cea MAX_NUMBER_ADB (audioBlocks cea DBC_START_OFFSET))

/-- The extraction is exact where every audio data block is accepted, or the blocks in front of the
    first that is not are empty; otherwise it never returns. -/
theorem audio_exact_iff (ctrl : SdeEdidCtrl) :
    AudioExact ctrl ↔ ∀ base, (sdeFindCeaExtension ctrl.edid).value = some base →
      AllTaken (ctrl.edid.at base) MAX_NUMBER_ADB []
        (audioBlocks (ctrl.edid.at base) DBC_START_OFFSET) := by
  refine forall₂_congr fun base extension => ?_
  have start := collected_start ctrl
  have ends : _ ↔ AllTaken (ctrl.edid.at base) MAX_NUMBER_ADB [] _ := returns_iff_allTaken start rfl
  have exact {result : Option SdeEdidCtrl}
      (returns : Returns (audioStep (ctrl.edid.at base)) (audioStart ctrl) result) :=
    holds_of_returns start rfl returns
  simp only [SdeEdidExtractAudioDataBlocks, extension]
  rw [ends]
  exact and_iff_left fun result returns => exact returns

def freshCtrl (edid : Bytes) : SdeEdidCtrl :=
  { edid := edid, audioDataBlock := Buffer.replicate _ 0, adbSize := 0 }

instance (cea : Bytes) (room : Nat) (bytes : List U8) (found : List Nat) :
    Decidable (AllTaken cea room bytes found) := inferInstanceAs (Decidable (_ ∨ _))

def longSecondBlock : Bytes := ceaEdid ([38, 0, 0x21, 0x09, 0x3f] ++ List.replicate 31 0)

/-- The second block is looked at for ever. -/
theorem audio_loop_never_ends : ¬∀ ctrl, AudioExact ctrl := by
  intro every
  have extension : (sdeFindCeaExtension longSecondBlock).value = some 128 := by decide
  obtain ⟨⟨result, returns⟩, -⟩ := every (freshCtrl longSecondBlock) 128 extension
  have known : (sdeFindCeaExtension (freshCtrl longSecondBlock).edid).value = some 128 := extension
  simp only [SdeEdidExtractAudioDataBlocks, known] at returns
  have taken := (returns_iff_allTaken (collected_start _) rfl).mp ⟨result, returns⟩
  exact absurd taken (by decide)

end DisplayDrivers.Edid
