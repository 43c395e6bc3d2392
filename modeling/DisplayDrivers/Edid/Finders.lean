import DisplayDrivers.Edid.Blocks
import Mathlib.Data.List.Find

/-! # The two finders of data blocks

`_sde_edid_find_block` and `sde_edid_find_block` look for a data block with a given tag.
-/

namespace DisplayDrivers.Edid

open DisplayDrivers.Lib DisplayDrivers.Lib.Records

/-- Both finders return the same block or none, what they return lies in the data block
    collection, and they read nothing outside the extension at `base`. -/
structure FindersMeet (edid : Bytes) (base : Nat) (type : U8) : Prop where
  agree : (sdeEdidFindBlock edid type).value =
    (_sdeEdidFindBlock (edid.at base) DBC_START_OFFSET type).value.map fun block => base + block.1
  inside : ∀ i, (sdeEdidFindBlock edid type).value = some (base + i) ∨
      (∃ len, (_sdeEdidFindBlock (edid.at base) DBC_START_OFFSET type).value = some (i, len)) →
    4 ≤ i ∧ i + sdeCeaDbPayloadLen (edid.at base i) < dbcEnd (edid.at base)
  reads : (sdeEdidFindBlock edid type).Within
      (fun a => Locates a ∨ base ≤ a ∧ a < base + EDID_LENGTH) ∧
    (_sdeEdidFindBlock (edid.at base) DBC_START_OFFSET type).Within (· < EDID_LENGTH)

/-- The extensions in which the finders meet, by where the collection ends and what is in front of
    its end. -/
def SameBlocks (cea : Bytes) (type : U8) : Prop :=
  if cea 2 = 0 then ∀ i ∈ blocks cea 127, sdeCeaDbTag (cea i) ≠ type
  else if (cea 2).toNat ≤ 127 then
    ∀ i ∈ places cea (cea 2).toNat, i + sdeCeaDbPayloadLen (cea i) = (cea 2).toNat →
      sdeCeaDbTag (cea i) = type → ∃ j ∈ blocks cea (cea 2).toNat, sdeCeaDbTag (cea j) = type
  else ∀ i ∈ places cea (cea 2).toNat, i < EDID_LENGTH ∧
    ¬(i + sdeCeaDbPayloadLen (cea i) ≤ (cea 2).toNat ∧ sdeCeaDbTag (cea i) = type)

section

variable {cea : Bytes} {type : U8}

def newer (cea : Bytes) (type : U8) : Option Nat :=
  if HasDbc cea then (blocks cea (dbcEnd cea)).find? fun i => sdeCeaDbTag (cea i) == type else none

def older (cea : Bytes) (type : U8) : Option Nat :=
  if Present cea then (places cea (cea 2).toNat).find? (endsInside cea type) else none

theorem newer_inside {i : Nat} (hit : newer cea type = some i) :
    4 ≤ i ∧ i + sdeCeaDbPayloadLen (cea i) < dbcEnd cea := by
  rw [newer] at hit
  split at hit
  · exact mem_blocks cea (List.mem_of_find?_eq_some hit)
  · cases hit

theorem newer_eq_none_iff (has : HasDbc cea) :
    newer cea type = none ↔ ∀ i ∈ blocks cea (dbcEnd cea), sdeCeaDbTag (cea i) ≠ type := by
  simp [newer, has]

theorem older_of_le {last : List Nat} (there : Present cea) (has : HasDbc cea)
    (ends : dbcEnd cea = (cea 2).toNat)
    (split : places cea (cea 2).toNat = blocks cea (cea 2).toNat ++ last) :
    older cea type = (newer cea type).or (last.find? (endsInside cea type)) := by
  rw [older, if_pos there, split, List.find?_append, newer, if_pos has, ends]
  have same : ∀ i ∈ blocks cea (cea 2).toNat,
      endsInside cea type i = (sdeCeaDbTag (cea i) == type) := by
    intro i member
    have fits := (mem_blocks cea member).2
    have le : i + sdeCeaDbPayloadLen (cea i) ≤ (cea 2).toNat := by omega
    simp [endsInside, le]
  rw [List.find?_congr same]

theorem dbcEnd_of_ne (nonzero : cea 2 ≠ 0) : dbcEnd cea = (cea 2).toNat := by
  rw [dbcEnd, if_neg nonzero]

theorem agree_iff_of_zero (revision : 3 ≤ (cea 1).toNat) (zero : cea 2 = 0) :
    newer cea type = older cea type ↔ SameBlocks cea type := by
  have ends : dbcEnd cea = 127 := by simp [dbcEnd, zero]
  have has : HasDbc cea := ⟨revision, by omega, by omega⟩
  have absent : ¬Present cea := fun there => there (.inl zero)
  rw [older, if_neg absent, newer_eq_none_iff has, ends, SameBlocks, if_pos zero]

theorem agree_iff_of_le (revision : 3 ≤ (cea 1).toNat) (nonzero : cea 2 ≠ 0)
    (short : (cea 2).toNat ≤ 127) : newer cea type = older cea type ↔ SameBlocks cea type := by
  have ends := dbcEnd_of_ne nonzero
  rw [SameBlocks, if_neg nonzero, if_pos short]
  by_cases small : (cea 2).toNat ≤ 4
  · -- nothing lies between byte 4 and the end
    have empty : places cea (cea 2).toNat = [] := walk_of_le _ _ small
    have noBlocks : blocks cea (cea 2).toNat = [] := by simp [blocks, empty]
    simp [newer, older, empty, noBlocks, ends]
  · have there : Present cea := by
      rintro (zero | four)
      · exact nonzero zero
      · rw [four] at small
        exact small (by decide)
    have has : HasDbc cea := ⟨revision, by omega, by omega⟩
    obtain ⟨last, split, lastOne⟩ := walk_split cea sdeCeaDbPayloadLen (cea 2).toNat
      DBC_START_OFFSET
    have split : places cea (cea 2).toNat = blocks cea (cea 2).toNat ++ last := split
    rw [older_of_le there has ends split]
    cases hit : newer cea type with
    | some j =>
      rw [newer, if_pos has, ends] at hit
      have tag : sdeCeaDbTag (cea j) = type := by simpa using List.find?_some hit
      exact iff_of_true rfl fun _ _ _ _ => ⟨j, List.mem_of_find?_eq_some hit, tag⟩
    | none =>
      have others := (newer_eq_none_iff has).mp hit
      rw [ends] at others
      have reaches : ∀ i ∈ last, (cea 2).toNat ≤ i + sdeCeaDbPayloadLen (cea i) := by
        rcases lastOne with rfl | ⟨j, rfl, past⟩
        · simp
        · simpa using past
      rw [Option.none_or, eq_comm, List.find?_eq_none]
      constructor
      · intro miss i member full tag
        have listed : i ∈ blocks cea (cea 2).toNat ++ last := split ▸ member
        rcases List.mem_append.mp listed with inside | atEnd
        · exact ⟨i, inside, tag⟩
        · exact absurd (by simp [endsInside, full, tag]) (miss i atEnd)
      · intro earlier i atEnd hitsEnd
        have le := reaches i atEnd
        simp only [endsInside, Bool.and_eq_true, decide_eq_true_eq, beq_iff_eq] at hitsEnd
        have listed : i ∈ places cea (cea 2).toNat := by
          rw [split]
          exact List.mem_append_right _ atEnd
        obtain ⟨j, inside, tag⟩ := earlier i listed (by omega) hitsEnd.2
        exact others j inside tag

theorem agree_iff_of_gt (long : 127 < (cea 2).toNat) :
    newer cea type = older cea type ↔
      ∀ i ∈ places cea (cea 2).toNat, endsInside cea type i = false := by
  have nonzero : cea 2 ≠ 0 := by
    intro zero
    simp [zero] at long
  have there : Present cea := by
    rintro (zero | four)
    · exact nonzero zero
    · rw [four] at long
      exact absurd long (by decide)
  have has : ¬HasDbc cea := by
    rw [HasDbc, dbcEnd_of_ne nonzero]
    omega
  rw [newer, if_neg has, older, if_pos there, eq_comm, List.find?_eq_none]
  simp

end

/-! ## The theorem -/

section

variable {edid : Bytes} {base : Nat} {type : U8}

theorem value_newer (extension : (sdeFindCeaExtension edid).value = some base) :
    (sdeEdidFindBlock edid type).value = (newer (edid.at base) type).map (base + ·) := by
  rw [sdeEdidFindBlock, value_findEdidDb _ extension, value_findCeaDb]
  rfl

theorem value_older (cea : Bytes) : (_sdeEdidFindBlock cea DBC_START_OFFSET type).value =
    (older cea type).map fun i => (i, sdeCeaDbPayloadLen (cea i)) := by
  rw [value_findBlockFrom, older]
  split <;> rfl

theorem agree_iff (extension : (sdeFindCeaExtension edid).value = some base) :
    (sdeEdidFindBlock edid type).value =
        (_sdeEdidFindBlock (edid.at base) DBC_START_OFFSET type).value.map
          (fun block => base + block.1) ↔
      newer (edid.at base) type = older (edid.at base) type := by
  have injective : Function.Injective (base + ·) := fun _ _ same => Nat.add_left_cancel same
  rw [value_newer extension, value_older, Option.map_map]
  exact (Option.map_injective injective).eq_iff

theorem within_newer (extension : (sdeFindCeaExtension edid).value = some base) :
    (sdeEdidFindBlock edid type).Within
      fun a => Locates a ∨ base ≤ a ∧ a < base + EDID_LENGTH := by
  rw [sdeEdidFindBlock, within_findEdidDb _ extension fun _ locates => .inl locates]
  have inside (i : Nat) (lt : i < EDID_LENGTH) :
      Locates (base + i) ∨ base ≤ base + i ∧ base + i < base + EDID_LENGTH :=
    .inr ⟨Nat.le_add_right base i, Nat.add_lt_add_left lt base⟩
  rw [within_findCeaDb _ (inside 1 (by decide)) (inside 2 (by decide))]
  · exact fun _ _ _ _ => Probe.within_pure _
  · intro has i member
    apply inside
    have := (mem_places _ member).2
    have := has.2.2
    rw [EDID_LENGTH]
    omega

theorem findersMeet_iff_agree (extension : (sdeFindCeaExtension edid).value = some base) :
    FindersMeet edid base type ↔
      newer (edid.at base) type = older (edid.at base) type ∧
        (_sdeEdidFindBlock (edid.at base) DBC_START_OFFSET type).Within (· < EDID_LENGTH) := by
  constructor
  · exact fun meet => ⟨(agree_iff extension).mp meet.agree, meet.reads.2⟩
  · rintro ⟨agree, reads⟩
    refine ⟨(agree_iff extension).mpr agree, ?_, within_newer extension, reads⟩
    rintro i (found | ⟨len, found⟩)
    · rw [value_newer extension, Option.map_eq_some_iff] at found
      obtain ⟨j, hit, same⟩ := found
      obtain rfl : j = i := Nat.add_left_cancel same
      exact newer_inside hit
    · rw [value_older, ← agree, Option.map_eq_some_iff] at found
      obtain ⟨j, hit, same⟩ := found
      obtain rfl : j = i := congrArg Prod.fst same
      exact newer_inside hit

theorem within_older {cea : Bytes} (short : (cea 2).toNat ≤ 127) :
    (_sdeEdidFindBlock cea DBC_START_OFFSET type).Within (· < EDID_LENGTH) := by
  have header : 2 < EDID_LENGTH := by decide
  refine within_findBlockFrom header fun _ i member => ?_
  have := (mem_places cea member).2
  rw [EDID_LENGTH]
  omega

/-- The two finders meet in the extensions of `SameBlocks`, and in no other. -/
theorem finders_meet_iff (extension : (sdeFindCeaExtension edid).value = some base)
    (revision : 3 ≤ (edid.at base 1).toNat) (type : U8) :
    FindersMeet edid base type ↔ SameBlocks (edid.at base) type := by
  rw [findersMeet_iff_agree extension]
  by_cases zero : edid.at base 2 = 0
  · have short : (edid.at base 2).toNat ≤ 127 := by simp [zero]
    rw [← agree_iff_of_zero revision zero]
    exact and_iff_left (within_older short)
  · by_cases short : (edid.at base 2).toNat ≤ 127
    · rw [← agree_iff_of_le revision zero short]
      exact and_iff_left (within_older short)
    · -- the newer finder gives up, and the older one goes on through what follows
      have long : 127 < (edid.at base 2).toNat := by omega
      rw [SameBlocks, if_neg zero, if_neg short, agree_iff_of_gt long]
      have there : Present (edid.at base) := by
        rintro (none | four)
        · exact zero none
        · rw [four] at long
          exact absurd long (by decide)
      constructor
      · rintro ⟨miss, reads⟩ i member
        have none : (_sdeEdidFindBlock (edid.at base) DBC_START_OFFSET type).value = none := by
          rw [value_older, ← (agree_iff_of_gt long).mpr miss, newer, if_neg]
          · rfl
          · rw [HasDbc, dbcEnd_of_ne zero]
            omega
        refine ⟨reads i (mem_reads_findBlockFrom there none i member), ?_⟩
        simpa [endsInside] using miss i member
      · intro all
        refine ⟨fun i member => ?_, ?_⟩
        · simpa [endsInside] using (all i member).2
        · exact within_findBlockFrom (by decide) fun _ i member => (all i member).1

end

def ceaEdid (bytes : List U8) : Bytes := fun i =>
  if i = 126 then 1
  else if i = 128 then SDE_CEA_EXT
  else if i = 129 then 3
  else if 130 ≤ i then bytes.getD (i - 130) 0
  else 0

/-- One video data block of three bytes in front of the end of the collection. -/
theorem finders_meet_iff_videoBlock :
    FindersMeet (ceaEdid [9, 0, 0x43, 0x90, 0x04, 0x03]) 128 VIDEO_DATA_BLOCK ↔
      SameBlocks ((ceaEdid [9, 0, 0x43, 0x90, 0x04, 0x03]).at 128) VIDEO_DATA_BLOCK :=
  finders_meet_iff (by decide) (by decide) VIDEO_DATA_BLOCK

/-- The same block where the collection ends at its last byte: only the older finder returns it. -/
theorem older_finds_block_at_end :
    ¬∀ (edid : Bytes) (base : Nat) (type : U8), (sdeFindCeaExtension edid).value = some base →
      3 ≤ (edid.at base 1).toNat → FindersMeet edid base type := by
  intro every
  have meet := every (ceaEdid [7, 0, 0x43, 0x90, 0x04, 0x03]) 128 VIDEO_DATA_BLOCK (by decide)
    (by decide)
  exact absurd meet.agree (by decide)

end DisplayDrivers.Edid
