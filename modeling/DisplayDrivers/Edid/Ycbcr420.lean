import DisplayDrivers.Edid.Finders

/-! # YCbCr 4:2:0 modes

The Y420 video data block lists video formats; the capability map has a bit for each short video
descriptor (SVD) of the video data block.
-/

namespace DisplayDrivers.Edid

open DisplayDrivers.Lib

/-- `struct drm_display_mode` with `DRM_MODE_FLAG_SUPPORTS_YUV` and `DRM_MODE_FLAG_SUPPORTS_RGB`. -/
structure DisplayMode where
  ceaMode : U8
  supportsYuv : Bool
  supportsRgb : Bool
deriving DecidableEq

def sdeEdidSetY420Support (modes : List DisplayMode) (videoFormat : U32) : List DisplayMode :=
  modes.map fun mode =>
    if mode.ceaMode ≠ 0 ∧ mode.ceaMode.setWidth 32 = videoFormat then
      { mode with supportsYuv := true }
    else mode

def videoFormat (svd : U8) : U32 := (svd &&& 0x7F).setWidth 32

/-! ## The capability map -/

def mapBit (byte : U8) (j : Nat) : Bool := (byte.setWidth 32 : U32).getLsbD j

/-- The loop of `sde_edid_parse_Y420CMDB` with `steps` iterations to go: the formats that it
    marks. -/
def cmdbFrom (edid : Bytes) (db svd cmdbLen : Nat) :
    (steps i j offset : Nat) → Probe Nat (List U32)
  | 0, _, _, _ => pure []
  | steps + 1, i, j, offset => do
    let byte ← Probe.read edid (svd + i)
    -- a map without a payload of its own selects every SVD
    if cmdbLen = 1 then do
      let rest ← cmdbFrom edid db svd cmdbLen steps (i + 1) (j + 1) offset
      pure (videoFormat byte :: rest)
    else do
      let map ← Probe.read edid (db + offset)
      if mapBit map j then
        -- `j & 0x80` is meant to see the end of a map byte
        if j &&& 0x80 ≠ 0 then
          -- `break`
          if cmdbLen ≤ offset + 1 then pure [videoFormat byte]
          else do
            let rest ← cmdbFrom edid db svd cmdbLen steps (i + 1) (j / 8 + 1) (offset + 1)
            pure (videoFormat byte :: rest)
        else do
          let rest ← cmdbFrom edid db svd cmdbLen steps (i + 1) (j + 1) offset
          pure (videoFormat byte :: rest)
      else cmdbFrom edid db svd cmdbLen steps (i + 1) (j + 1) offset

/-- `svd_len` and the pointer to the first SVD. -/
def svdsOf (edid : Bytes) : Probe Nat (Nat × Nat) := do
  match ← sdeEdidFindBlock edid VIDEO_DATA_BLOCK with
  | none => pure (0, 0)
  | some svd => do
    let header ← Probe.read edid svd
    pure (sdeCeaDbPayloadLen header, svd + 1)

def sdeEdidParseY420Cmdb (edid : Bytes) (db : Nat) (modes : List DisplayMode) :
    Probe Nat (List DisplayMode) := do
  let header ← Probe.read edid db
  let svds ← svdsOf edid
  let formats ← cmdbFrom edid db svds.2 (sdeCeaDbPayloadLen header) svds.1 0 0 2
  pure (formats.foldl sdeEdidSetY420Support modes)

/-! ## The video data block -/

def vdbIterations (len : Nat) : Nat := (BitVec.ofNat 32 len - 1).toNat

def sdeEdidParseY420Vdb (edid : Bytes) (db : Nat) (modes : List DisplayMode) :
    Probe Nat (List DisplayMode) := do
  let header ← Probe.read edid db
  let svds ← Probe.readAll edid
    ((List.range (vdbIterations (sdeCeaDbPayloadLen header))).map fun i => db + 2 + i)
  pure ((svds.map videoFormat).foldl sdeEdidSetY420Support modes)

/-- `if (!(mode->flags & DRM_MODE_FLAG_SUPPORTS_YUV)) mode->flags |= DRM_MODE_FLAG_SUPPORTS_RGB;` -/
def setRgbSupport (mode : DisplayMode) : DisplayMode :=
  if mode.supportsYuv then mode else { mode with supportsRgb := true }

def sdeEdidSetModeFormat (edid : Bytes) (modes : List DisplayMode) :
    Probe Nat (List DisplayMode) := do
  let modes ← match ← sdeEdidFindExtendedTagBlock edid Y420_VIDEO_DATA_BLOCK with
    | some db => sdeEdidParseY420Vdb edid db modes
    | none => pure modes
  match ← sdeEdidFindExtendedTagBlock edid Y420_CAPABILITY_MAP_DATA_BLOCK with
  | some db => sdeEdidParseY420Cmdb edid db (modes.map setRgbSupport)
  | none => pure (modes.map setRgbSupport)

/-! ## Marking -/

def markAll (formats : List U32) (modes : List DisplayMode) : List DisplayMode :=
  modes.map fun mode =>
    if mode.ceaMode ≠ 0 ∧ mode.ceaMode.setWidth 32 ∈ formats then { mode with supportsYuv := true }
    else mode

theorem foldl_setSupport (formats : List U32) (modes : List DisplayMode) :
    formats.foldl sdeEdidSetY420Support modes = markAll formats modes := by
  induction formats generalizing modes with
  | nil => simp [markAll]
  | cons format rest ih =>
    rw [List.foldl_cons, ih, sdeEdidSetY420Support, markAll, markAll, List.map_map]
    congr 1
    funext mode
    by_cases none : mode.ceaMode = 0#8
    · simp [none]
    · by_cases first : mode.ceaMode.setWidth 32 = format
      · simp [none, first]
      · simp [none, first]

theorem markAll_eq_iff {formats formats' : List U32} :
    (∀ modes, markAll formats modes = markAll formats' modes) ↔
      ∀ vic : U8, vic ≠ 0 → (vic.setWidth 32 ∈ formats ↔ vic.setWidth 32 ∈ formats') := by
  constructor
  · intro same vic nonzero
    have one := same [{ ceaMode := vic, supportsYuv := false, supportsRgb := false }]
    simp only [markAll, List.map_cons, List.map_nil, List.cons.injEq, and_true] at one
    by_cases first : vic.setWidth 32 ∈ formats <;>
      by_cases second : vic.setWidth 32 ∈ formats' <;> simp_all
  · intro same modes
    rw [markAll, markAll]
    refine List.map_congr_left fun mode _ => ?_
    by_cases none : mode.ceaMode = 0
    · simp [none]
    · simp only [same mode.ceaMode none]

/-! ## What the capability map marks -/

section

variable (edid : Bytes) (db svd : Nat)

theorem bitNumber_and {j : Nat} (few : j < 32) : j &&& 0x80 = 0 := by
  have all : ∀ j < 32, j &&& 0x80 = 0 := by decide
  exact all j few

theorem value_cmdbFrom {cmdbLen : Nat} (map : cmdbLen ≠ 1) {steps i : Nat} (few : i + steps ≤ 32) :
    (cmdbFrom edid db svd cmdbLen steps i i 2).value =
      ((List.range' i steps).filter (mapBit (edid (db + 2)))).map
        fun k => videoFormat (edid (svd + k)) := by
  induction steps generalizing i with
  | zero => rfl
  | succ steps ih =>
    have small : i &&& 0x80 = 0 := bitNumber_and (by omega)
    have rest := ih (i := i + 1) (by omega)
    rw [List.range'_succ]
    cases bit : mapBit (edid (db + 2)) i with
    | true => simp [cmdbFrom, map, bit, small, rest]
    | false => simp [cmdbFrom, map, bit, rest]

theorem within_cmdbFrom (cmdbLen : Nat) {steps i : Nat} (few : i + steps ≤ 32) {p : Nat → Prop}
    (svds : ∀ k, i ≤ k → k < i + steps → p (svd + k)) :
    (cmdbFrom edid db svd cmdbLen steps i i 2).Within p ↔
      (cmdbLen ≠ 1 → 0 < steps → p (db + 2)) := by
  induction steps generalizing i with
  | zero => simp [cmdbFrom]
  | succ steps ih =>
    have small : i &&& 0x80 = 0 := bitNumber_and (by omega)
    have first := svds i (Nat.le_refl i) (by omega)
    have rest := ih (i := i + 1) (by omega) fun k le lt => svds k (by omega) (by omega)
    by_cases map : cmdbLen = 1
    · simp [cmdbFrom, map, first] at rest ⊢
      exact rest
    · cases bit : mapBit (edid (db + 2)) i with
      | true =>
        simp [cmdbFrom, map, bit, small, first, rest]
        exact fun inside _ => inside
      | false =>
        simp [cmdbFrom, map, bit, first, rest]
        exact fun inside _ => inside

variable {edid db svd}

theorem value_svdsOf (video : (sdeEdidFindBlock edid VIDEO_DATA_BLOCK).value = some svd) :
    (svdsOf edid).value = (sdeCeaDbPayloadLen (edid svd), svd + 1) := by
  simp [svdsOf, video]

theorem value_parseCmdb (map : sdeCeaDbPayloadLen (edid db) ≠ 1)
    (video : (sdeEdidFindBlock edid VIDEO_DATA_BLOCK).value = some svd) (modes : List DisplayMode) :
    (sdeEdidParseY420Cmdb edid db modes).value =
      markAll (((List.range (sdeCeaDbPayloadLen (edid svd))).filter (mapBit (edid (db + 2)))).map
        fun i => videoFormat (edid (svd + 1 + i))) modes := by
  have few := payloadLen_lt (edid svd)
  simp only [sdeEdidParseY420Cmdb, Probe.value_bind, Probe.value_read, value_svdsOf video,
    Probe.value_pure]
  rw [value_cmdbFrom edid db (svd + 1) map (by omega), foldl_setSupport, List.range_eq_range']

end

/-! ## What it should mark -/

section

variable (edid : Bytes) (db svd : Nat)

/-- Bit `i mod 8` of map byte `i div 8`; the bytes behind the payload count as zero. -/
def mapSelects (i : Nat) : Bool :=
  2 + i / 8 ≤ sdeCeaDbPayloadLen (edid db) && (edid (db + 2 + i / 8)).getLsbD (i % 8)

def selected : List U32 :=
  ((List.range (sdeCeaDbPayloadLen (edid svd))).filter (mapSelects edid db)).map
    fun i => videoFormat (edid (svd + 1 + i))

structure MarksExactly : Prop where
  marks : ∀ modes, (sdeEdidParseY420Cmdb edid db modes).value = markAll (selected edid db svd) modes
  reads : ∀ modes, (sdeEdidParseY420Cmdb edid db modes).Within fun a =>
    db ≤ a ∧ a ≤ db + sdeCeaDbPayloadLen (edid db) ∨
      a ∈ (sdeEdidFindBlock edid VIDEO_DATA_BLOCK).reads ∨
      svd ≤ a ∧ a ≤ svd + sdeCeaDbPayloadLen (edid svd)

/-- The SVDs behind the first eight that the map selects need no mark of their own: they have no
    video format, or that of a selected SVD among the first eight. -/
def FirstEightSuffice : Prop :=
  ∀ i, 8 ≤ i → i < sdeCeaDbPayloadLen (edid svd) → mapSelects edid db i = true →
    videoFormat (edid (svd + 1 + i)) = 0 ∨
      ∃ k, k < 8 ∧ k < sdeCeaDbPayloadLen (edid svd) ∧ mapSelects edid db k = true ∧
        videoFormat (edid (svd + 1 + k)) = videoFormat (edid (svd + 1 + i))

variable {edid db svd}

theorem mapBit_eq_mapSelects (long : 1 < sdeCeaDbPayloadLen (edid db)) (i : Nat) :
    mapBit (edid (db + 2)) i = (decide (i < 8) && mapSelects edid db i) := by
  by_cases early : i < 8
  · have first : i / 8 = 0 := Nat.div_eq_of_lt early
    have same : i % 8 = i := Nat.mod_eq_of_lt early
    have wide : i < 32 := by omega
    have inside : 2 ≤ sdeCeaDbPayloadLen (edid db) := long
    simp [mapBit, mapSelects, first, same, early, wide, inside]
  · have none : (edid (db + 2)).getLsbD i = false := BitVec.getLsbD_of_ge _ i (by omega)
    simp [mapBit, early, none]

theorem mem_formats {keep : Nat → Bool} {format : U32} {n : Nat} :
    format ∈ ((List.range n).filter keep).map (fun i => videoFormat (edid (svd + 1 + i))) ↔
      ∃ i, i < n ∧ keep i = true ∧ videoFormat (edid (svd + 1 + i)) = format := by
  simp [and_assoc]

theorem marks_iff (long : 1 < sdeCeaDbPayloadLen (edid db))
    (video : (sdeEdidFindBlock edid VIDEO_DATA_BLOCK).value = some svd) :
    (∀ modes, (sdeEdidParseY420Cmdb edid db modes).value =
        markAll (selected edid db svd) modes) ↔ FirstEightSuffice edid db svd := by
  have map : sdeCeaDbPayloadLen (edid db) ≠ 1 := by omega
  simp only [value_parseCmdb map video]
  rw [markAll_eq_iff]
  simp only [selected, mem_formats, mapBit_eq_mapSelects long, Bool.and_eq_true, decide_eq_true_eq]
  constructor
  · intro same i late inside chosen
    -- the mode of the format tells whether it is marked, unless the format is 0
    by_cases zero : videoFormat (edid (svd + 1 + i)) = 0
    · exact .inl zero
    · have nonzero : edid (svd + 1 + i) &&& 0x7F ≠ 0 := by
        intro none
        exact zero (by rw [videoFormat, none]; rfl)
      obtain ⟨k, lt, ⟨early, chosenK⟩, format⟩ := (same _ nonzero).mpr ⟨i, inside, chosen, rfl⟩
      exact .inr ⟨k, early, lt, chosenK, format⟩
  · intro suffice vic nonzero
    constructor
    · rintro ⟨k, lt, ⟨-, chosen⟩, format⟩
      exact ⟨k, lt, chosen, format⟩
    · rintro ⟨i, lt, chosen, format⟩
      by_cases early : i < 8
      · exact ⟨i, lt, ⟨early, chosen⟩, format⟩
      · rcases suffice i (by omega) lt chosen with zero | ⟨k, early', lt', chosen', same⟩
        · have none : vic = 0 := by
            rw [format] at zero
            apply BitVec.eq_of_toNat_eq
            have nat := congrArg BitVec.toNat zero
            rw [BitVec.toNat_setWidth, Nat.mod_eq_of_lt (by omega)] at nat
            exact nat
          exact absurd none nonzero
        · exact ⟨k, lt', ⟨early', chosen'⟩, same.trans format⟩

theorem within_parseCmdb (long : 1 < sdeCeaDbPayloadLen (edid db))
    (video : (sdeEdidFindBlock edid VIDEO_DATA_BLOCK).value = some svd) (modes : List DisplayMode) :
    (sdeEdidParseY420Cmdb edid db modes).Within fun a =>
      db ≤ a ∧ a ≤ db + sdeCeaDbPayloadLen (edid db) ∨
        a ∈ (sdeEdidFindBlock edid VIDEO_DATA_BLOCK).reads ∨
        svd ≤ a ∧ a ≤ svd + sdeCeaDbPayloadLen (edid svd) := by
  have few := payloadLen_lt (edid svd)
  rw [sdeEdidParseY420Cmdb, Probe.within_bind, Probe.within_read]
  refine ⟨.inl ⟨Nat.le_refl db, Nat.le_add_right db _⟩, ?_⟩
  rw [Probe.within_bind, value_svdsOf video]
  constructor
  · have finder : (sdeEdidFindBlock edid VIDEO_DATA_BLOCK).Within fun a =>
        db ≤ a ∧ a ≤ db + sdeCeaDbPayloadLen (edid db) ∨
          a ∈ (sdeEdidFindBlock edid VIDEO_DATA_BLOCK).reads ∨
          svd ≤ a ∧ a ≤ svd + sdeCeaDbPayloadLen (edid svd) := fun a member => .inr (.inl member)
    have header : svd ≤ svd ∧ svd ≤ svd + sdeCeaDbPayloadLen (edid svd) :=
      ⟨Nat.le_refl svd, Nat.le_add_right svd _⟩
    simp [svdsOf, video, finder, header]
  · rw [Probe.within_bind]
    refine ⟨?_, Probe.within_pure _⟩
    rw [within_cmdbFrom _ _ _ _ (by omega)]
    · exact fun _ _ => .inl ⟨by omega, Nat.add_le_add_left long db⟩
    · exact fun k _ lt => .inr (.inr ⟨by omega, by omega⟩)

/-- The capability map is followed exactly where the first eight SVDs suffice. -/
theorem marks_exactly_iff (long : 1 < sdeCeaDbPayloadLen (edid db))
    (video : (sdeEdidFindBlock edid VIDEO_DATA_BLOCK).value = some svd) :
    MarksExactly edid db svd ↔ FirstEightSuffice edid db svd := by
  rw [← marks_iff long video]
  exact ⟨fun exactly => exactly.marks, fun marks => ⟨marks, within_parseCmdb long video⟩⟩

end

/-- A video data block of `n` SVDs with the video formats 1 to `n`, and a capability map of two
    bytes. -/
def svdsWithMap (n : Nat) (low high : U8) : Bytes :=
  ceaEdid ([BitVec.ofNat 8 (n + 9), 0, 0x40 ||| BitVec.ofNat 8 n] ++
    (List.range n).map (fun i => BitVec.ofNat 8 (i + 1)) ++ [0xe3, 0x0F, low, high])

/-- Eight SVDs at byte 132, and the map at byte 141. -/
theorem marks_exactly_iff_eightSvds :
    MarksExactly (svdsWithMap 8 0x81 0) 141 132 ↔ FirstEightSuffice
    (svdsWithMap 8 0x81 0) 141 132 :=
  marks_exactly_iff (by decide) (by decide)

/-- The ninth SVD is selected and not marked. -/
theorem ninth_svd_not_marked :
    ¬∀ (edid : Bytes) (db svd : Nat), 1 < sdeCeaDbPayloadLen (edid db) →
      (sdeEdidFindBlock edid VIDEO_DATA_BLOCK).value = some svd → MarksExactly edid db svd := by
  intro every
  have exactly := every (svdsWithMap 9 0 1) 142 132 (by decide) (by decide)
  have marked := exactly.marks [{ ceaMode := 9, supportsYuv := false, supportsRgb := false }]
  exact absurd marked (by decide)

end DisplayDrivers.Edid
