import DisplayDrivers.Lib.Records
import Mathlib.Data.List.TakeWhile

/-! # The data blocks of a CEA extension (`msm/sde_edid_parser.c`)

An EDID is a memory of bytes: the base block of 128 bytes, whose byte 126 counts the extensions, and
the extensions behind it. Byte 2 of a CEA extension tells where its data block collection ends,
which starts at byte 4.
-/

namespace DisplayDrivers.Edid

open DisplayDrivers.Lib DisplayDrivers.Lib.Records

abbrev U8 := BitVec 8
abbrev U32 := BitVec 32
abbrev Bytes := Nat → U8

def EDID_LENGTH : Nat := 128
def DBC_START_OFFSET : Nat := 4
def SDE_CEA_EXT : U8 := 0x02
def SDE_EXTENDED_TAG : U8 := 0x07

/-- `enum data_block_types`. -/
def AUDIO_DATA_BLOCK : U8 := 1
def VIDEO_DATA_BLOCK : U8 := 2

/-- `enum extended_data_block_types`. -/
def Y420_VIDEO_DATA_BLOCK : U8 := 0x0E
def Y420_CAPABILITY_MAP_DATA_BLOCK : U8 := 0x0F

def Bytes.at (mem : Bytes) (base : Nat) : Bytes := fun i => mem (base + i)

/-! ## The extension -/

def sdeFindEdidExtension (edid : Bytes) (extId : U8) : Probe Nat (Option Nat) := do
  -- the count of the base block is believed
  let extensions ← Probe.read edid 126
  Probe.search edid (· == extId)
    ((List.range extensions.toNat).map fun i => EDID_LENGTH * (i + 1))

def sdeFindCeaExtension (edid : Bytes) : Probe Nat (Option Nat) :=
  sdeFindEdidExtension edid SDE_CEA_EXT

/-! ## The blocks of an extension -/

def sdeCeaDbPayloadLen (header : U8) : Nat := (header &&& 0x1f).toNat

def sdeCeaDbTag (header : U8) : U8 := header >>> 5

theorem payloadLen_lt (header : U8) : sdeCeaDbPayloadLen header < 32 := by
  have masked : (header &&& 0x1f).toNat ≤ (0x1f : U8).toNat := by
    rw [BitVec.toNat_and]
    exact Nat.and_le_right
  exact Nat.lt_succ_of_le masked

/-- `sde_cea_db_offsets`: the start and the end, or `-ERANGE`. -/
def sdeCeaDbOffsets (cea : Bytes) : Probe Nat (Option (Nat × Nat)) := do
  let byte ← Probe.read cea 2
  let stop := if byte = 0 then 127 else byte.toNat
  if stop < 4 ∨ 127 < stop then pure none else pure (some (DBC_START_OFFSET, stop))

def sdeForEachCeaDb (cea : Bytes) (found : Nat → U8 → Probe Nat Bool) (start stop : Nat) :
    Probe Nat (Option Nat) :=
  scan cea sdeCeaDbPayloadLen (fun i header => i + sdeCeaDbPayloadLen header < stop)
    found stop start

/-- What `sde_edid_find_block` and `sde_edid_find_extended_tag_block` do in the extension. -/
def findCeaDb (cea : Bytes) (found : Nat → U8 → Probe Nat Bool) : Probe Nat (Option Nat) := do
  let revision ← Probe.read cea 1
  -- before revision 3 an extension has no data blocks
  if 3 ≤ revision.toNat then do
    match ← sdeCeaDbOffsets cea with
    | none => pure none
    | some (start, stop) => sdeForEachCeaDb cea found start stop
  else pure none

def hasTag (blkId : U8) : Nat → U8 → Probe Nat Bool := fun _ header =>
  pure (sdeCeaDbTag header == blkId)

def hasExtendedTag (cea : Bytes) (blkId : U8) : Nat → U8 → Probe Nat Bool := fun i header =>
  if sdeCeaDbTag header = SDE_EXTENDED_TAG then do
    -- also of a block without a payload
    let tag ← Probe.read cea (i + 1)
    pure (tag == blkId)
  else pure false

def findEdidDb (edid : Bytes) (found : Bytes → Nat → U8 → Probe Nat Bool) :
    Probe Nat (Option Nat) := do
  match ← sdeFindCeaExtension edid with
  | none => pure none
  | some base => do
    let db ← (findCeaDb (edid.at base) (found (edid.at base))).via base
    pure (db.map (base + ·))

def sdeEdidFindBlock (edid : Bytes) (blkId : U8) : Probe Nat (Option Nat) :=
  findEdidDb edid fun _ => hasTag blkId

def sdeEdidFindExtendedTagBlock (edid : Bytes) (blkId : U8) : Probe Nat (Option Nat) :=
  findEdidDb edid fun cea => hasExtendedTag cea blkId

/-- The loop of `_sde_edid_find_block`: the place of the block and `*len`. -/
def findBlockBelow (inBuf : Bytes) (offset : Nat) (type : U8) (dbcOffset : Nat) :
    Probe Nat (Option (Nat × Nat)) := do
  let block ← scan inBuf sdeCeaDbPayloadLen (fun _ _ => true)
    (fun offset header => pure
      -- a block may end one byte later here than for `sde_for_each_cea_db`
      (offset + sdeCeaDbPayloadLen header ≤ dbcOffset && sdeCeaDbTag header == type))
    dbcOffset offset
  pure (block.map fun offset => (offset, sdeCeaDbPayloadLen (inBuf offset)))

def _sdeEdidFindBlock (inBuf : Bytes) (startOffset : Nat) (type : U8) :
    Probe Nat (Option (Nat × Nat)) := do
  let dbcOffset ← Probe.read inBuf 2
  if dbcOffset = 0 ∨ dbcOffset = 4 then pure none
  else findBlockBelow inBuf startOffset type dbcOffset.toNat

/-! ## Finding the extension -/

def Locates (a : Nat) : Prop := a = 126 ∨ ∃ k, a = EDID_LENGTH * (k + 1)

theorem within_findCeaExtension (edid : Bytes) : (sdeFindCeaExtension edid).Within Locates := by
  rw [sdeFindCeaExtension, sdeFindEdidExtension, Probe.within_bind, Probe.within_read]
  refine ⟨.inl rfl, ?_⟩
  intro a member
  have listed := (Probe.reads_search_leading _ _ _).subset member
  obtain ⟨k, -, rfl⟩ := List.mem_map.mp listed
  exact .inr ⟨k, rfl⟩

section

variable {edid : Bytes} {base : Nat} (found : Bytes → Nat → U8 → Probe Nat Bool)

theorem value_findEdidDb (extension : (sdeFindCeaExtension edid).value = some base) :
    (findEdidDb edid found).value =
      (findCeaDb (edid.at base) (found (edid.at base))).value.map (base + ·) := by
  simp [findEdidDb, extension]

theorem within_findEdidDb (extension : (sdeFindCeaExtension edid).value = some base)
    {p : Nat → Prop} (locates : ∀ a, Locates a → p a) :
    (findEdidDb edid found).Within p ↔
      (findCeaDb (edid.at base) (found (edid.at base))).Within fun i => p (base + i) := by
  have located := (within_findCeaExtension edid).mono locates
  simp [findEdidDb, extension, located]

end

/-! ## What the finders find -/

variable (cea : Bytes)

/-- Where the data block collection of an extension ends for `sde_cea_db_offsets`. -/
def dbcEnd : Nat := if cea 2 = 0 then 127 else (cea 2).toNat

def places (stop : Nat) : List Nat := walk cea sdeCeaDbPayloadLen stop DBC_START_OFFSET

def blocks (stop : Nat) : List Nat :=
  (places cea stop).takeWhile fun i => i + sdeCeaDbPayloadLen (cea i) < stop

theorem mem_places {stop i : Nat} (member : i ∈ places cea stop) : 4 ≤ i ∧ i < stop :=
  mem_walk member

theorem mem_blocks {stop i : Nat} (member : i ∈ blocks cea stop) :
    4 ≤ i ∧ i + sdeCeaDbPayloadLen (cea i) < stop := by
  have inside := mem_places cea (List.takeWhile_subset _ member)
  exact ⟨inside.1, by simpa using List.mem_takeWhile_imp member⟩

theorem blocks_ordered (stop : Nat) : (blocks cea stop).Pairwise (· < ·) := by
  have ordered : (places cea stop).Pairwise (· < ·) :=
    (pairwise_walk DBC_START_OFFSET).imp (by omega)
  exact ordered.sublist (List.takeWhile_sublist _)

/-- The collection has an end that `sde_cea_db_offsets` accepts. -/
def HasDbc : Prop := 3 ≤ (cea 1).toNat ∧ 4 ≤ dbcEnd cea ∧ dbcEnd cea ≤ 127

instance : Decidable (HasDbc cea) := inferInstanceAs (Decidable (_ ∧ _ ∧ _))

@[simp] theorem value_offsets : (sdeCeaDbOffsets cea).value =
    if 4 ≤ dbcEnd cea ∧ dbcEnd cea ≤ 127 then some (4, dbcEnd cea) else none := by
  show (if dbcEnd cea < 4 ∨ 127 < dbcEnd cea then pure none
    else pure (some (DBC_START_OFFSET, dbcEnd cea)) : Probe Nat _).value = _
  split
  · rw [if_neg (by omega)]
    rfl
  · rw [if_pos (by omega)]
    rfl

@[simp] theorem reads_offsets : (sdeCeaDbOffsets cea).reads = [2] := by
  show [2] ++ (if dbcEnd cea < 4 ∨ 127 < dbcEnd cea then pure none
    else pure (some (DBC_START_OFFSET, dbcEnd cea)) : Probe Nat _).reads = _
  split <;> rfl

variable {cea}

theorem value_findCeaDb (found : Nat → U8 → Probe Nat Bool) :
    (findCeaDb cea found).value =
      if HasDbc cea then (blocks cea (dbcEnd cea)).find? fun i => (found i (cea i)).value
      else none := by
  by_cases revision : 3 ≤ (cea 1).toNat
  · by_cases ends : 4 ≤ dbcEnd cea ∧ dbcEnd cea ≤ 127
    · simp [findCeaDb, HasDbc, revision, ends, sdeForEachCeaDb, value_scan, entered, blocks,
        places, DBC_START_OFFSET]
    · simp [findCeaDb, HasDbc, revision, ends]
  · simp [findCeaDb, HasDbc, revision]

variable {p : Nat → Prop}

theorem within_findCeaDb (found : Nat → U8 → Probe Nat Bool) (version : p 1)
    (stop : p 2) (headers : HasDbc cea → ∀ i ∈ places cea (dbcEnd cea), p i) :
    (findCeaDb cea found).Within p ↔
      (HasDbc cea → ∀ i ∈ blocks cea (dbcEnd cea),
        (∀ j ∈ blocks cea (dbcEnd cea), j < i → (found j (cea j)).value = false) →
          (found i (cea i)).Within p) := by
  have offsets : (sdeCeaDbOffsets cea).Within p := by simpa [Probe.Within] using stop
  by_cases revision : 3 ≤ (cea 1).toNat
  · by_cases ends : 4 ≤ dbcEnd cea ∧ dbcEnd cea ≤ 127
    · have has : HasDbc cea := ⟨revision, ends⟩
      have loop := within_scan cea sdeCeaDbPayloadLen
        (fun i header => i + sdeCeaDbPayloadLen header < dbcEnd cea) found DBC_START_OFFSET
        (headers has)
      have whole : (findCeaDb cea found).Within p ↔
          (sdeForEachCeaDb cea found 4 (dbcEnd cea)).Within p := by
        simp [findCeaDb, revision, ends, version, offsets]
      rw [whole, sdeForEachCeaDb]
      exact loop.trans ⟨fun all _ => all, fun all => all has⟩
    · have has : ¬HasDbc cea := fun has => ends has.2
      simp [findCeaDb, has, revision, ends, version, offsets]
  · have has : ¬HasDbc cea := fun has => revision has.1
    simp [findCeaDb, has, revision, version]

/-- The test of `_sde_edid_find_block`. -/
def endsInside (cea : Bytes) (type : U8) (i : Nat) : Bool :=
  i + sdeCeaDbPayloadLen (cea i) ≤ (cea 2).toNat && sdeCeaDbTag (cea i) == type

/-- `_sde_edid_find_block` takes the collection for present. -/
def Present (cea : Bytes) : Prop := ¬(cea 2 = 0 ∨ cea 2 = 4)

instance (cea : Bytes) : Decidable (Present cea) := inferInstanceAs (Decidable (¬_))

theorem _sdeEdidFindBlock_eq (start : Nat) (type : U8) : _sdeEdidFindBlock cea start type =
    { value :=
        (if Present cea then findBlockBelow cea start type (cea 2).toNat else pure none).value
      reads := 2 ::
        (if Present cea then findBlockBelow cea start type (cea 2).toNat
          else pure none).reads } := by
  show Probe.mk (if cea 2 = 0 ∨ cea 2 = 4 then pure none
      else findBlockBelow cea start type (cea 2).toNat : Probe Nat _).value
    ([2] ++ (if cea 2 = 0 ∨ cea 2 = 4 then pure none
      else findBlockBelow cea start type (cea 2).toNat : Probe Nat _).reads) = _
  by_cases off : cea 2 = 0 ∨ cea 2 = 4
  · have absent : ¬Present cea := not_not_intro off
    rw [if_pos off, if_neg absent]
    rfl
  · have there : Present cea := off
    rw [if_neg off, if_pos there]
    rfl

theorem value_findBlockFrom (start : Nat) (type : U8) : (_sdeEdidFindBlock cea start type).value =
    if Present cea then
      ((walk cea sdeCeaDbPayloadLen (cea 2).toNat start).find? (endsInside cea type)).map
        fun i => (i, sdeCeaDbPayloadLen (cea i))
    else none := by
  rw [_sdeEdidFindBlock_eq]
  by_cases there : Present cea
  · have all : entered cea sdeCeaDbPayloadLen (fun _ _ => true) (cea 2).toNat start =
        walk cea sdeCeaDbPayloadLen (cea 2).toNat start := by
      simp [entered]
    simp only [there, if_true, findBlockBelow, Probe.value_bind, value_scan, all, Probe.value_pure]
    rfl
  · simp [there]

theorem within_findBlockFrom {start : Nat} {type : U8} (stop : p 2)
    (headers : Present cea → ∀ i ∈ walk cea sdeCeaDbPayloadLen (cea 2).toNat start, p i) :
    (_sdeEdidFindBlock cea start type).Within p := by
  rw [_sdeEdidFindBlock_eq]
  by_cases there : Present cea
  · have loop : (findBlockBelow cea start type (cea 2).toNat).Within p := by
      rw [findBlockBelow, Probe.within_bind]
      exact ⟨(within_scan _ _ _ _ _ (headers there)).mpr (by simp), Probe.within_pure _⟩
    simpa [there, Probe.Within, stop] using loop
  · simpa [there, Probe.Within] using stop

theorem mem_reads_findBlockFrom {start : Nat} {type : U8} (there : Present cea)
    (none : (_sdeEdidFindBlock cea start type).value = none) :
    ∀ i ∈ walk cea sdeCeaDbPayloadLen (cea 2).toNat start,
      i ∈ (_sdeEdidFindBlock cea start type).reads := by
  rw [_sdeEdidFindBlock_eq] at none ⊢
  simp only [there, if_true, findBlockBelow, Probe.value_bind, Probe.value_pure,
    Option.map_eq_none_iff] at none
  intro i member
  have read := mem_reads_scan cea sdeCeaDbPayloadLen _ _ (fun _ _ => rfl) none i member
  simp [there, findBlockBelow, read]

end DisplayDrivers.Edid
