import DisplayDrivers.Edid.Ycbcr420

/-! # What the parsing of extended-tag blocks reads

`sde_edid_find_extended_tag_block` reads the extended tag of a block whose payload may be empty, and
both parsers take the payload of what it returns to hold the tag and something behind it.
-/

namespace DisplayDrivers.Edid

open DisplayDrivers.Lib DisplayDrivers.Lib.Records

/-- What `sde_edid_set_mode_format` may read: the bytes that locate the CEA extension, its revision,
    the byte that ends its data block collection, and the collection. -/
def InCollection (edid : Bytes) (a : Nat) : Prop :=
  Locates a ∨ ∃ base, (sdeFindCeaExtension edid).value = some base ∧
    ∃ k, a = base + k ∧ (k = 1 ∨ k = 2 ∨ 4 ≤ k ∧ k < dbcEnd (edid.at base))

/-- The loop over the Y420 video data block takes at most as many iterations as its payload has
    bytes, and nothing outside the collection is read.  The loop over the video data block is
    bounded by its payload. -/
structure StaysInBlocks (edid : Bytes) : Prop where
  iterations : ∀ db, (sdeEdidFindExtendedTagBlock edid Y420_VIDEO_DATA_BLOCK).value = some db →
    vdbIterations (sdeCeaDbPayloadLen (edid db)) ≤ sdeCeaDbPayloadLen (edid db)
  reads : ∀ modes, (sdeEdidSetModeFormat edid modes).Within (InCollection edid)

/-! ## Extended tags -/

section

variable (cea : Bytes)

/-- The test of `sde_edid_find_extended_tag_block`. -/
def isExtended (blkId : U8) (i : Nat) : Bool :=
  sdeCeaDbTag (cea i) == SDE_EXTENDED_TAG && cea (i + 1) == blkId

/-- The block that `sde_edid_find_extended_tag_block` returns. -/
def extendedBlock (blkId : U8) : Option Nat :=
  (blocks cea (dbcEnd cea)).find? (isExtended cea blkId)

def videoBlock : Option Nat :=
  (blocks cea (dbcEnd cea)).find? fun i => sdeCeaDbTag (cea i) == VIDEO_DATA_BLOCK

def svdCount : Nat := (videoBlock cea).elim 0 fun v => sdeCeaDbPayloadLen (cea v)

/-- The layouts for which nothing goes wrong: no block with the extended tag that is looked at ends
    in front of its second tag at the end of the collection, the Y420 video data block is not empty,
    and behind an empty capability map there is another byte where there are SVDs. -/
structure TagsInside : Prop where
  tags : ∀ blkId, blkId = Y420_VIDEO_DATA_BLOCK ∨ blkId = Y420_CAPABILITY_MAP_DATA_BLOCK →
    ∀ i ∈ blocks cea (dbcEnd cea),
      (∀ j ∈ blocks cea (dbcEnd cea), j < i → isExtended cea blkId j = false) →
        sdeCeaDbTag (cea i) = SDE_EXTENDED_TAG → i + 1 < dbcEnd cea
  video : ∀ i, extendedBlock cea Y420_VIDEO_DATA_BLOCK = some i → 0 < sdeCeaDbPayloadLen (cea i)
  map : ∀ i, extendedBlock cea Y420_CAPABILITY_MAP_DATA_BLOCK = some i →
    sdeCeaDbPayloadLen (cea i) = 0 → 0 < svdCount cea → i + 2 < dbcEnd cea

variable {cea}

theorem value_hasExtendedTag (blkId : U8) (i : Nat) :
    (hasExtendedTag cea blkId i (cea i)).value = isExtended cea blkId i := by
  rw [hasExtendedTag, isExtended]
  by_cases tag : sdeCeaDbTag (cea i) = SDE_EXTENDED_TAG
  · simp [tag]
  · simp [tag]

theorem within_hasExtendedTag {p : Nat → Prop} (blkId : U8) (i : Nat) :
    (hasExtendedTag cea blkId i (cea i)).Within p ↔
      (sdeCeaDbTag (cea i) = SDE_EXTENDED_TAG → p (i + 1)) := by
  rw [hasExtendedTag]
  by_cases tag : sdeCeaDbTag (cea i) = SDE_EXTENDED_TAG
  · simp [tag]
  · simp [tag]

theorem mem_of_extendedBlock {blkId : U8} {i : Nat} (found : extendedBlock cea blkId = some i) :
    i ∈ blocks cea (dbcEnd cea) := List.mem_of_find?_eq_some found

end

/-! ## The finders in the EDID -/

section

variable {edid : Bytes} {base : Nat}

theorem base_eq (extension : (sdeFindCeaExtension edid).value = some base) :
    ∃ m, base = EDID_LENGTH * (m + 1) := by
  simp only [sdeFindCeaExtension, sdeFindEdidExtension, Probe.value_bind, Probe.value_search]
    at extension
  obtain ⟨m, -, rfl⟩ := List.mem_map.mp (List.mem_of_find?_eq_some extension)
  exact ⟨m, rfl⟩

theorem inCollection_locates {a : Nat} (locates : Locates a) : InCollection edid a := .inl locates

section

variable (extension : (sdeFindCeaExtension edid).value = some base)

include extension

theorem inCollection_header : InCollection edid (base + 1) ∧ InCollection edid (base + 2) :=
  ⟨.inr ⟨base, extension, 1, rfl, .inl rfl⟩, .inr ⟨base, extension, 2, rfl, .inr (.inl rfl)⟩⟩

theorem inCollection_iff {k : Nat} (behind : 4 ≤ k) (short : k ≤ 127) :
    InCollection edid (base + k) ↔ k < dbcEnd (edid.at base) := by
  obtain ⟨m, place⟩ := base_eq extension
  rw [EDID_LENGTH] at place
  constructor
  · rintro (locates | ⟨base', extension', k', same, inside⟩)
    · rcases locates with count | ⟨m', tag⟩
      · omega
      · rw [EDID_LENGTH] at tag
        omega
    · rw [extension] at extension'
      cases extension'
      omega
  · exact fun inside => .inr ⟨base, extension, k, rfl, .inr (.inr ⟨behind, inside⟩)⟩

theorem value_extendedTagBlock (blkId : U8) : (sdeEdidFindExtendedTagBlock edid blkId).value =
      if HasDbc (edid.at base) then (extendedBlock (edid.at base) blkId).map (base + ·)
        else none := by
  rw [sdeEdidFindExtendedTagBlock, value_findEdidDb _ extension, value_findCeaDb]
  simp only [value_hasExtendedTag]
  split <;> rfl

theorem extendedTagBlock_eq_some (has : HasDbc (edid.at base)) {blkId : U8} {db : Nat} :
    (sdeEdidFindExtendedTagBlock edid blkId).value = some db ↔
      ∃ i, extendedBlock (edid.at base) blkId = some i ∧ base + i = db := by
  rw [value_extendedTagBlock extension, if_pos has, Option.map_eq_some_iff]

theorem within_finder (found : Bytes → Nat → U8 → Probe Nat Bool) :
    (findEdidDb edid found).Within (InCollection edid) ↔
      (HasDbc (edid.at base) → ∀ i ∈ blocks (edid.at base) (dbcEnd (edid.at base)),
        (∀ j ∈ blocks (edid.at base) (dbcEnd (edid.at base)), j < i →
          (found (edid.at base) j (edid.at base j)).value = false) →
        (found (edid.at base) i (edid.at base i)).Within fun k => InCollection edid
          (base + k)) := by
  obtain ⟨version, stop⟩ := inCollection_header extension
  rw [within_findEdidDb _ extension fun _ locates => inCollection_locates locates,
    within_findCeaDb _ version stop]
  intro has i member
  obtain ⟨behind, inside⟩ := mem_places _ member
  have := has.2.2
  exact (inCollection_iff extension behind (by omega)).mpr inside

theorem within_extendedTagBlock
    (blkId : U8) : (sdeEdidFindExtendedTagBlock edid blkId).Within (InCollection edid) ↔
      (HasDbc (edid.at base) → ∀ i ∈ blocks (edid.at base) (dbcEnd (edid.at base)),
        (∀ j ∈ blocks (edid.at base) (dbcEnd (edid.at base)), j < i →
          isExtended (edid.at base) blkId j = false) →
        sdeCeaDbTag (edid.at base i) = SDE_EXTENDED_TAG → i + 1 < dbcEnd (edid.at base)) := by
  rw [sdeEdidFindExtendedTagBlock, within_finder extension]
  simp only [value_hasExtendedTag, within_hasExtendedTag]
  refine forall_congr' fun has => forall₂_congr fun i member => forall₂_congr fun _ _ => ?_
  have inside := mem_blocks _ member
  have := has.2.2
  exact inCollection_iff extension (by omega) (by omega)

theorem within_findBlock (blkId : U8) :
    (sdeEdidFindBlock edid blkId).Within (InCollection edid) := by
  rw [sdeEdidFindBlock, within_finder extension]
  exact fun _ _ _ _ => Probe.within_pure _

end

/-! ## The parsers -/

variable {i : Nat}

theorem inCollection_block (extension : (sdeFindCeaExtension edid).value = some base)
    (has : HasDbc (edid.at base)) {k : Nat}
    (member : i ∈ blocks (edid.at base) (dbcEnd (edid.at base)))
    (inside : k ≤ sdeCeaDbPayloadLen (edid (base + i))) : InCollection edid (base + i + k) := by
  have block := mem_blocks _ member
  have len : sdeCeaDbPayloadLen (edid.at base i) = sdeCeaDbPayloadLen (edid (base + i)) := rfl
  have := has.2.2
  rw [Nat.add_assoc]
  exact (inCollection_iff extension (by omega) (by omega)).mpr (by omega)

theorem vdbIterations_succ {n : Nat} (small : n < 31) : vdbIterations (n + 1) = n := by
  rw [vdbIterations, BitVec.toNat_sub]
  simp
  omega

theorem vdbIterations_le_iff {len : Nat} (small : len < 32) :
    vdbIterations len ≤ len ↔ 0 < len := by
  cases len with
  | zero => decide
  | succ n =>
    rw [vdbIterations_succ (by omega)]
    omega

section

variable (extension : (sdeFindCeaExtension edid).value = some base)

include extension

theorem within_parseVdb (has : HasDbc (edid.at base))
    (member : i ∈ blocks (edid.at base) (dbcEnd (edid.at base)))
    (some : 0 < sdeCeaDbPayloadLen (edid (base + i))) (modes : List DisplayMode) :
    (sdeEdidParseY420Vdb edid (base + i) modes).Within (InCollection edid) := by
  have small := payloadLen_lt (edid (base + i))
  have inside {k : Nat} (le : k ≤ sdeCeaDbPayloadLen (edid (base + i))) :=
    inCollection_block extension has member le
  obtain ⟨n, len⟩ := Nat.exists_eq_add_of_lt some
  rw [Nat.zero_add] at len
  simp only [sdeEdidParseY420Vdb, Probe.within_bind, Probe.within_read, Probe.within_readAll,
    Probe.value_read, Probe.within_pure, and_true, List.forall_mem_map, List.mem_range]
  refine ⟨inside (Nat.zero_le _), fun k lt => ?_⟩
  rw [len, vdbIterations_succ (by omega)] at lt
  rw [Nat.add_assoc (base + i)]
  exact inside (by omega)

theorem value_videoBlock
    (has : HasDbc (edid.at base)) : (sdeEdidFindBlock edid VIDEO_DATA_BLOCK).value =
      (videoBlock (edid.at base)).map (base + ·) := by
  rw [sdeEdidFindBlock, value_findEdidDb _ extension, value_findCeaDb, if_pos has]
  rfl

theorem svdsOf_inside (has : HasDbc (edid.at base)) :
    (svdsOf edid).Within (InCollection edid) ∧ (svdsOf edid).value.1 = svdCount (edid.at base) ∧
      ∀ k < (svdsOf edid).value.1, InCollection edid ((svdsOf edid).value.2 + k) := by
  have found := value_videoBlock extension has
  have finder := within_findBlock extension VIDEO_DATA_BLOCK
  rw [svdCount]
  cases video : videoBlock (edid.at base) with
  | none =>
    rw [video] at found
    simp only [Option.map_none] at found
    simp [svdsOf, found, finder]
  | some v =>
    rw [video] at found
    simp only [Option.map_some] at found
    have member : v ∈ blocks (edid.at base) (dbcEnd (edid.at base)) :=
      List.mem_of_find?_eq_some video
    have inside {k : Nat} (le : k ≤ sdeCeaDbPayloadLen (edid (base + v))) :=
      inCollection_block extension has member le
    have header : InCollection edid (base + v) := inside (Nat.zero_le _)
    simp only [svdsOf, found, finder, header, Probe.value_bind, Probe.within_bind,
      Probe.within_read, Probe.value_read, Probe.value_pure, Probe.within_pure, and_true, true_and]
    refine ⟨rfl, fun k lt => ?_⟩
    rw [Nat.add_assoc (base + v)]
    exact inside (by omega)

theorem within_parseCmdb_iff (has : HasDbc (edid.at base))
    (member : i ∈ blocks (edid.at base) (dbcEnd (edid.at base)))
    (tag : i + 1 < dbcEnd (edid.at base)) (modes : List DisplayMode) :
    (sdeEdidParseY420Cmdb edid (base + i) modes).Within (InCollection edid) ↔
      (sdeCeaDbPayloadLen (edid.at base i) = 0 → 0 < svdCount (edid.at base) →
        i + 2 < dbcEnd (edid.at base)) := by
  obtain ⟨behind, block⟩ := mem_blocks _ member
  have stop := has.2.2
  have header : InCollection edid (base + i) := by
    simpa using inCollection_block extension has member (Nat.zero_le _)
  obtain ⟨svds, count, listed⟩ := svdsOf_inside extension has
  have len : sdeCeaDbPayloadLen (edid (base + i)) = sdeCeaDbPayloadLen (edid.at base i) := rfl
  -- a length has five bits, so the loop stays below the bit that it tests
  have few : svdCount (edid.at base) < 32 := by
    rw [svdCount]
    cases videoBlock (edid.at base) with
    | none => exact Nat.zero_lt_succ 31
    | some v => exact payloadLen_lt _
  have all : 0 + (svdsOf edid).value.1 ≤ 32 := by omega
  have loop := within_cmdbFrom edid (base + i) (svdsOf edid).value.2
    (sdeCeaDbPayloadLen (edid (base + i))) all (p := InCollection edid)
    fun k _ lt => listed k (by omega)
  have first : InCollection edid (base + i + 2) ↔ i + 2 < dbcEnd (edid.at base) := by
    rw [Nat.add_assoc]
    exact inCollection_iff extension (by omega) (by omega)
  simp only [sdeEdidParseY420Cmdb, Probe.within_bind, Probe.within_read, Probe.value_read,
    Probe.within_pure, and_true, header, svds, true_and]
  rw [loop, first, count, len]
  constructor
  · exact fun inside empty some => inside (by omega) some
  · intro inside map some
    -- a map with a payload has its first byte inside
    by_cases empty : sdeCeaDbPayloadLen (edid.at base i) = 0
    · exact inside empty some
    · omega

end

/-! ## The theorem -/

theorem within_setModeFormat (p : Nat → Prop) (modes : List DisplayMode) :
    (sdeEdidSetModeFormat edid modes).Within p ↔
      (sdeEdidFindExtendedTagBlock edid Y420_VIDEO_DATA_BLOCK).Within p ∧
      (∀ db, (sdeEdidFindExtendedTagBlock edid Y420_VIDEO_DATA_BLOCK).value = some db →
        (sdeEdidParseY420Vdb edid db modes).Within p) ∧
      (sdeEdidFindExtendedTagBlock edid Y420_CAPABILITY_MAP_DATA_BLOCK).Within p ∧
      ∀ db, (sdeEdidFindExtendedTagBlock edid Y420_CAPABILITY_MAP_DATA_BLOCK).value = some db →
        (sdeEdidParseY420Cmdb edid db []).Within p := by
  have anyModes (db : Nat) (modes : List DisplayMode) :
      (sdeEdidParseY420Cmdb edid db modes).Within p ↔
        (sdeEdidParseY420Cmdb edid db []).Within p := by
    simp [sdeEdidParseY420Cmdb]
  cases video : (sdeEdidFindExtendedTagBlock edid Y420_VIDEO_DATA_BLOCK).value <;>
    cases map : (sdeEdidFindExtendedTagBlock edid Y420_CAPABILITY_MAP_DATA_BLOCK).value <;>
    simp [sdeEdidSetModeFormat, video, map, anyModes]

theorem stays_without_extension (none : (sdeFindCeaExtension edid).value = none) :
    StaysInBlocks edid := by
  have finder (found : Bytes → Nat → U8 → Probe Nat Bool) :
      (findEdidDb edid found).value = Option.none ∧
        (findEdidDb edid found).Within (InCollection edid) := by
    have located := (within_findCeaExtension edid).mono fun _ locates =>
      @inCollection_locates edid _ locates
    simp [findEdidDb, none, located]
  refine ⟨fun db found => ?_, fun modes => ?_⟩
  · rw [sdeEdidFindExtendedTagBlock, (finder _).1] at found
    cases found
  · rw [within_setModeFormat]
    simp only [sdeEdidFindExtendedTagBlock, (finder _).1, (finder _).2, reduceCtorEq,
      false_implies, implies_true, and_self]

theorem stays_without_blocks (extension : (sdeFindCeaExtension edid).value = some base)
    (hasNot : ¬HasDbc (edid.at base)) : StaysInBlocks edid := by
  have none (blkId : U8) : (sdeEdidFindExtendedTagBlock edid blkId).value = Option.none := by
    rw [value_extendedTagBlock extension, if_neg hasNot]
  have inside (blkId : U8) :
      (sdeEdidFindExtendedTagBlock edid blkId).Within (InCollection edid) :=
    (within_extendedTagBlock extension blkId).mpr fun has => absurd has hasNot
  refine ⟨fun db found => ?_, fun modes => ?_⟩
  · rw [none] at found
    cases found
  · rw [within_setModeFormat]
    simp only [none, inside, reduceCtorEq, false_implies, implies_true, and_self]

theorem extendedBlock_first {cea : Bytes} {blkId : U8} (found : extendedBlock cea blkId = some i) :
    sdeCeaDbTag (cea i) = SDE_EXTENDED_TAG ∧
      ∀ j ∈ blocks cea (dbcEnd cea), j < i → isExtended cea blkId j = false := by
  have hit : isExtended cea blkId i = true := by simpa using List.find?_some found
  rw [isExtended, Bool.and_eq_true, beq_iff_eq] at hit
  exact ⟨hit.1, fun j member before =>
    not_found_before (blocks_ordered cea _) found member before⟩

theorem tagsInside_of_stays (extension : (sdeFindCeaExtension edid).value = some base)
    (has : HasDbc (edid.at base)) (stays : StaysInBlocks edid) : TagsInside (edid.at base) := by
  obtain ⟨videoFinder, -, mapFinder, map⟩ := (within_setModeFormat _ []).mp (stays.reads [])
  rw [within_extendedTagBlock extension] at videoFinder mapFinder
  constructor
  · rintro blkId (rfl | rfl)
    · exact videoFinder has
    · exact mapFinder has
  · intro i found
    have returned := (extendedTagBlock_eq_some extension has).mpr ⟨i, found, rfl⟩
    exact (vdbIterations_le_iff (payloadLen_lt _)).mp (stays.iterations (base + i) returned)
  · intro i found
    have returned := (extendedTagBlock_eq_some extension has).mpr ⟨i, found, rfl⟩
    have member := mem_of_extendedBlock found
    obtain ⟨tag, first⟩ := extendedBlock_first found
    have inside := mapFinder has i member first tag
    exact (within_parseCmdb_iff extension has member inside []).mp (map (base + i) returned)

theorem stays_of_tagsInside (extension : (sdeFindCeaExtension edid).value = some base)
    (has : HasDbc (edid.at base)) (tagsInside : TagsInside (edid.at base)) :
    StaysInBlocks edid := by
  obtain ⟨tags, video, map⟩ := tagsInside
  constructor
  · intro db returned
    obtain ⟨i, found, rfl⟩ := (extendedTagBlock_eq_some extension has).mp returned
    exact (vdbIterations_le_iff (payloadLen_lt _)).mpr (video i found)
  · intro modes
    refine (within_setModeFormat _ modes).mpr ⟨?_, ?_, ?_, ?_⟩
    · exact (within_extendedTagBlock extension _).mpr fun _ => tags _ (.inl rfl)
    · intro db returned
      obtain ⟨i, found, rfl⟩ := (extendedTagBlock_eq_some extension has).mp returned
      exact within_parseVdb extension has (mem_of_extendedBlock found) (video i found) modes
    · exact (within_extendedTagBlock extension _).mpr fun _ => tags _ (.inr rfl)
    · intro db returned
      obtain ⟨i, found, rfl⟩ := (extendedTagBlock_eq_some extension has).mp returned
      have member := mem_of_extendedBlock found
      obtain ⟨tag, first⟩ := extendedBlock_first found
      have inside := tags _ (.inr rfl) i member first tag
      exact (within_parseCmdb_iff extension has member inside []).mpr (map i found)

theorem stays_with_blocks_iff (extension : (sdeFindCeaExtension edid).value = some base)
    (has : HasDbc (edid.at base)) : StaysInBlocks edid ↔ TagsInside (edid.at base) :=
  ⟨tagsInside_of_stays extension has, stays_of_tagsInside extension has⟩

/-- `sde_edid_set_mode_format` stays in the blocks exactly where their extended tags are inside and
    no payload is missing. -/
theorem stays_in_blocks_iff (edid : Bytes) :
    StaysInBlocks edid ↔ ∀ base, (sdeFindCeaExtension edid).value = some base →
      HasDbc (edid.at base) → TagsInside (edid.at base) := by
  cases extension : (sdeFindCeaExtension edid).value with
  | none => exact iff_of_true (stays_without_extension extension) fun _ found => by cases found
  | some base =>
    by_cases has : HasDbc (edid.at base)
    · rw [stays_with_blocks_iff extension has]
      exact ⟨fun inside base' found _ => by cases found; exact inside,
        fun all => all base rfl has⟩
    · refine iff_of_true (stays_without_blocks extension has) fun base' found has' => ?_
      cases found
      exact absurd has' has

end

def emptyExtendedBlock : Bytes := ceaEdid [6, 0, 0xe0, 0x0E]

/-- The loop over its payload takes `2 ^ 32 - 1` iterations. -/
theorem empty_video_block_runs_away : ¬∀ edid, StaysInBlocks edid := by
  intro every
  have found : (sdeEdidFindExtendedTagBlock emptyExtendedBlock Y420_VIDEO_DATA_BLOCK).value =
      some 132 := by decide
  have bounded := (every emptyExtendedBlock).iterations 132 found
  rw [vdbIterations_le_iff (payloadLen_lt _)] at bounded
  exact absurd bounded (by decide)

end DisplayDrivers.Edid
