import DisplayDrivers.Lib.Run
import DisplayDrivers.Lib.Slots
import DisplayDrivers.Rm.Invariant

/-! # The hardware handles of an encoder

A mode set reserves blocks for the encoder and caches their handles: `hw_pp`, `hw_dsc`, `hw_dsc_pp`
and `hw_roi_misr`, each with one slot per channel.

The reservations are those of the resource manager's model. What the mode set reads elsewhere (the
power state, the connector, the mode's flags and its topology, what resource control answers) is
part of its input, and other displays may call the resource manager between any two calls.
-/

namespace DisplayDrivers.Encoder.Handles

open Lib.Run Lib.Slots Rm

def maxChannelsPerEnc : Nat := 6

structure DrmEncoder where
  id : Nat
  registered : id ≠ 0

structure Hw where
  pos : Nat
  id : Nat
deriving DecidableEq

/-! ## Looking blocks up -/

def hwWhere (rm : SdeRm) (t : HwBlkType) (cond : HwBlk t → Bool) : List Hw :=
  ((rm.hwBlks t).zipIdx.filter fun b => cond b.1).map fun b => ⟨b.2, b.1.id⟩

/-- What `sde_rm_get_hw` finds, call after call, with an iterator fresh from
    `sde_rm_init_hw_iter`. -/
def getHw (rm : SdeRm) (encId : Nat) (t : HwBlkType) : List Hw :=
  hwWhere rm t fun b => encId = 0 || b.rsvp.any fun rsvp => rsvp.encId = encId

def requestHwBlk (rm : SdeRm) (t : HwBlkType) (id : Nat) : Option Hw :=
  (hwWhere rm t fun b => b.id = id).head?

def reserved (rm : SdeRm) (enc : DrmEncoder) (t : HwBlkType) : List Hw :=
  hwWhere rm t fun b => b.rsvp.map (·.encId) = some enc.id

/-! ## The encoder -/

/-- The fields of `struct sde_encoder_phys` that the mode set writes. -/
structure Phys where
  hwPp : Option Hw
  hwQdss : Option Hw
  connector : Bool

/-- The fields of `struct sde_encoder_virt` about the reserved blocks. -/
structure EncVirt where
  hwPp : SlotArray Hw
  hwDsc : SlotArray Hw
  hwDscPp : SlotArray Hw
  hwRoiMisr : SlotArray Hw
  numRoiMisrs : BitVec 32
  dirtyDscIds : Nat → Nat
  physEncs : List (Option Phys)

/-- What a mode set finds outside of the encoder.  `ready` says that the power is on and that the
    crtc, the connector and its state are there, `preModeset` is the answer of resource control. -/
structure ModeSet where
  ready : Bool
  seamlessDms : Bool
  seamlessDynClk : Bool
  isCmdMode : Bool
  preModeset : Int
  call : ReserveCall
  mem : Option Nat
  modeInfoRc : Int
  numLm : Nat
  numIntf : Nat
  tileMap : Nat → Nat

def ModeSet.restores (m : ModeSet) : Bool := m.seamlessDms || m.seamlessDynClk && m.isCmdMode

def ModeSet.lmToIntfRatio (m : ModeSet) : Except Int Nat :=
  if m.modeInfoRc ≠ 0 then .error m.modeInfoRc
  else if m.numLm = 0 ∨ m.numIntf = 0 then .ok 0
  else if m.numLm / m.numIntf = 0 then .ok 1
  else .ok (m.numLm / m.numIntf)

/-- The call of `sde_rm_reserve`, which is in earnest. -/
def ModeSet.reserve (m : ModeSet) (enc : DrmEncoder) (rm : SdeRm) : Int × SdeRm :=
  sdeRmReserve rm { m.call with enc := enc.id, testOnly := false } m.mem

def dscDisable (e : EncVirt) : EncVirt :=
  if ((e.physEncs[0]?).join.any (·.connector)) = false then e
  else
    { e with
      dirtyDscIds := fun i =>
        if i < maxChannelsPerEnc then
          match e.hwDsc i with
          | some hwDsc => hwDsc.id
          | none => e.dirtyDscIds i
        else e.dirtyDscIds i }

def ModeSet.prepare (m : ModeSet) (e : EncVirt) : EncVirt := if m.restores then dscDisable e else e

def cacheQdss (qdss : List Hw) (physEncs : List (Option Phys)) : List (Option Phys) :=
  physEncs.map fun phys => phys.map fun p => { p with hwQdss := qdss.head?.or p.hwQdss }

def attachPhys (hwPp : SlotArray Hw) (ratio : Nat) (tileMap : Nat → Nat) :
    (i : Nat) → List (Option Phys) → List (Option Phys) × Bool
  | _, [] => ([], true)
  | i, none :: physEncs =>
    let next := attachPhys hwPp ratio tileMap (i + 1) physEncs
    (none :: next.1, next.2)
  | i, some phys :: physEncs =>
    if hwPp (i * ratio) = none ∧ ratio ≠ 0 then (some phys :: physEncs, false)
    else
      let next := attachPhys hwPp ratio tileMap (i + 1) physEncs
      (some { phys with hwPp := hwPp (tileMap i * ratio), connector := true } :: next.1, next.2)

/-- The loops over `hw_pp`, the physical encoders' `hw_qdss`, `hw_dsc` and `hw_dsc_pp`. -/
def cacheDsc (enc : DrmEncoder) (rm : SdeRm) (e : EncVirt) : EncVirt :=
  let hwDsc := refill e.hwDsc 0 maxChannelsPerEnc (getHw rm enc.id .dsc)
  { e with
    hwPp := refill e.hwPp 0 maxChannelsPerEnc (getHw rm enc.id .pingpong)
    physEncs := cacheQdss (getHw rm enc.id .qdss) e.physEncs
    hwDsc := hwDsc
    hwDscPp := lookupAll (fun hw => requestHwBlk rm .pingpong hw.id) hwDsc e.hwDscPp 0
      maxChannelsPerEnc }

/-- The loop over `hw_roi_misr`, which counts the slots it fills. -/
def cacheRoiMisr (enc : DrmEncoder) (rm : SdeRm) (e : EncVirt) : EncVirt :=
  let misrs := getHw rm enc.id .roiMisr
  { e with
    hwRoiMisr := refill e.hwRoiMisr 0 maxChannelsPerEnc misrs
    numRoiMisrs := e.numRoiMisrs + BitVec.ofNat 32 (min maxChannelsPerEnc misrs.length) }

def cacheHandles (enc : DrmEncoder) (m : ModeSet) (rm : SdeRm) (e : EncVirt) : EncVirt × Bool :=
  match m.lmToIntfRatio with
  | .error _ => (cacheDsc enc rm e, false)
  | .ok ratio =>
    let cached := cacheRoiMisr enc rm (cacheDsc enc rm e)
    let attached := attachPhys cached.hwPp ratio m.tileMap 0 cached.physEncs
    ({ cached with physEncs := attached.1 }, attached.2)

structure Sys where
  enc : EncVirt
  rm : SdeRm
  modeWasSet : Bool

def virtModeSet (enc : DrmEncoder) (m : ModeSet) (s : Sys) : Sys :=
  if ¬m.ready then { s with modeWasSet := false }
  else if m.restores ∧ m.preModeset ≠ 0 then { s with modeWasSet := false }
  else
    let answer := m.reserve enc s.rm
    if answer.1 ≠ 0 then ⟨m.prepare s.enc, answer.2, false⟩
    else
      let cached := cacheHandles enc m answer.2 (m.prepare s.enc)
      ⟨cached.1, answer.2, cached.2⟩

/-- `sde_encoder_virt_disable`; `connector` is the topology control property of its connector. -/
def virtDisable (enc : DrmEncoder) (ready : Bool) (connector : Option Nat) (s : Sys) : Sys :=
  if ¬ready then { s with modeWasSet := false }
  else
    let e := dscDisable s.enc
    ⟨{ e with
        numRoiMisrs := 0
        physEncs := e.physEncs.map fun phys => phys.map fun p => { p with connector := false } },
      sdeRmRelease s.rm enc.id connector, false⟩

/-! ## Runs -/

inductive Input
  | modeSet (m : ModeSet)
  | disable (ready : Bool) (connector : Option Nat)
  | others (op : Op)

def step (enc : DrmEncoder) (s : Sys) : Input → Sys
  | .modeSet m => virtModeSet enc m s
  | .disable ready connector => virtDisable enc ready connector s
  | .others op => { s with rm := Rm.step s.rm op, modeWasSet := false }

structure Match (enc : DrmEncoder) (rm : SdeRm) (e : EncVirt) : Prop where
  pp : Holds maxChannelsPerEnc e.hwPp (reserved rm enc .pingpong)
  dsc : Holds maxChannelsPerEnc e.hwDsc (reserved rm enc .dsc)
  dscPp : Paired maxChannelsPerEnc (fun hw => requestHwBlk rm .pingpong hw.id) e.hwDsc e.hwDscPp
  roiMisr : Holds maxChannelsPerEnc e.hwRoiMisr (reserved rm enc .roiMisr)
  count : e.numRoiMisrs.toNat = occupied maxChannelsPerEnc e.hwRoiMisr

def Refills (slots : SlotArray Hw) (blks : List Hw) : Prop :=
  blks.length ≤ maxChannelsPerEnc ∧ ∀ j < maxChannelsPerEnc, blks.length < j → slots j = none

/-- A mode set finds an encoder without leftovers of a wider topology and without counted roi
    misrs, and every compressor that it reserves has a pingpong of its id. -/
structure Clean (enc : DrmEncoder) (rm : SdeRm) (e : EncVirt) : Prop where
  pp : Refills e.hwPp (reserved rm enc .pingpong)
  dsc : Refills e.hwDsc (reserved rm enc .dsc)
  dscPp : ∀ hw ∈ reserved rm enc .dsc, (requestHwBlk rm .pingpong hw.id).isSome
  roiMisr : Refills e.hwRoiMisr (reserved rm enc .roiMisr)
  count : e.numRoiMisrs = 0

def OwnPaired (enc : DrmEncoder) (rm : SdeRm) (e : EncVirt) : Prop :=
  ∀ j < maxChannelsPerEnc, ∀ pp, e.hwDscPp j = some pp → pp ∈ reserved rm enc .pingpong

def PairsOwn (enc : DrmEncoder) (rm : SdeRm) : Prop :=
  ∀ hw ∈ reserved rm enc .dsc, ∀ pp, requestHwBlk rm .pingpong hw.id = some pp →
    pp ∈ reserved rm enc .pingpong

def Matched (enc : DrmEncoder) (s : Sys) : Prop := s.modeWasSet → Match enc s.rm s.enc

def OwnMatched (enc : DrmEncoder) (s : Sys) : Prop :=
  s.modeWasSet → Match enc s.rm s.enc ∧ OwnPaired enc s.rm s.enc

def WhenSet (enc : DrmEncoder) (cond : SdeRm → EncVirt → Prop) (s : Sys) : Input → Prop
  | .modeSet m => (virtModeSet enc m s).modeWasSet → cond (m.reserve enc s.rm).2 s.enc
  | .disable _ _ | .others _ => True

variable {enc : DrmEncoder} {rm : SdeRm} {e : EncVirt} {s : Sys}

/-! ## The loops -/

theorem getHw_eq_reserved (t : HwBlkType) : getHw rm enc.id t = reserved rm enc t := by
  have same : (fun b : HwBlk t => enc.id = 0 || b.rsvp.any fun rsvp => rsvp.encId = enc.id) =
      fun b => decide (b.rsvp.map (·.encId) = some enc.id) := by
    funext b
    cases b.rsvp with
    | none => simp [enc.registered]
    | some rsvp => simp [enc.registered]
  rw [getHw, reserved, same]

variable {slots : SlotArray Hw}

theorem holds_refill_iff_refills (t : HwBlkType) :
    Holds maxChannelsPerEnc (refill slots 0 maxChannelsPerEnc (getHw rm enc.id t))
      (reserved rm enc t) ↔ Refills slots (reserved rm enc t) := by
  rw [getHw_eq_reserved]
  exact holds_refill_iff

theorem paired_iff {hwDsc : SlotArray Hw}
    (dsc : Holds maxChannelsPerEnc hwDsc (reserved rm enc .dsc)) :
    Paired maxChannelsPerEnc (fun hw => requestHwBlk rm .pingpong hw.id) hwDsc
        (lookupAll (fun hw => requestHwBlk rm .pingpong hw.id) hwDsc slots 0 maxChannelsPerEnc) ↔
      ∀ hw ∈ reserved rm enc .dsc, (requestHwBlk rm .pingpong hw.id).isSome := by
  rw [paired_lookupAll_iff]
  constructor
  · intro found hw member
    obtain ⟨j, at_j⟩ := List.mem_iff_getElem?.mp member
    have inside : j < maxChannelsPerEnc :=
      Nat.lt_of_lt_of_le (List.getElem?_eq_some_iff.mp at_j).1 dsc.fits
    exact found j inside hw ((dsc.slot j inside).trans at_j)
  · intro found j inside hw at_j
    rw [dsc.slot j inside] at at_j
    exact found hw (List.mem_of_getElem? at_j)

theorem count_iff {misrs : List Hw} {numRoiMisrs : BitVec 32}
    (holds : Holds maxChannelsPerEnc slots misrs) :
    (numRoiMisrs + BitVec.ofNat 32 (min maxChannelsPerEnc misrs.length)).toNat =
        occupied maxChannelsPerEnc slots ↔ numRoiMisrs = 0 := by
  have few : misrs.length ≤ 6 := holds.fits
  rw [holds.occupied_eq, Nat.min_eq_right holds.fits, BitVec.toNat_add, BitVec.toNat_ofNat,
    BitVec.toNat_eq]
  have bound := numRoiMisrs.isLt
  simp only [BitVec.ofNat_eq_ofNat, BitVec.toNat_ofNat, Nat.zero_mod]
  omega

/-! ## One call -/

theorem match_physEncs (physEncs : List (Option Phys)) :
    Match enc rm { e with physEncs := physEncs } ↔ Match enc rm e :=
  ⟨fun h => ⟨h.pp, h.dsc, h.dscPp, h.roiMisr, h.count⟩,
    fun h => ⟨h.pp, h.dsc, h.dscPp, h.roiMisr, h.count⟩⟩

theorem clean_prepare (m : ModeSet) : Clean enc rm (m.prepare e) ↔ Clean enc rm e := by
  rw [ModeSet.prepare, dscDisable]
  split_ifs with restores unconnected
  · exact Iff.rfl
  · exact ⟨fun h => ⟨h.pp, h.dsc, h.dscPp, h.roiMisr, h.count⟩,
      fun h => ⟨h.pp, h.dsc, h.dscPp, h.roiMisr, h.count⟩⟩
  · exact Iff.rfl

theorem match_cached_iff : Match enc rm (cacheRoiMisr enc rm (cacheDsc enc rm e)) ↔
    Clean enc rm e := by
  have misrs : getHw rm enc.id .roiMisr = reserved rm enc .roiMisr := getHw_eq_reserved _
  constructor
  · intro h
    have count := h.count
    have holds := h.roiMisr
    simp only [cacheRoiMisr, misrs] at count holds
    exact ⟨(holds_refill_iff_refills _).mp h.pp, (holds_refill_iff_refills _).mp h.dsc,
      (paired_iff h.dsc).mp h.dscPp, (holds_refill_iff_refills _).mp h.roiMisr,
      (count_iff holds).mp count⟩
  · intro clean
    have dsc := (holds_refill_iff_refills _).mpr clean.dsc
    have roiMisr := (holds_refill_iff_refills _).mpr clean.roiMisr
    refine ⟨(holds_refill_iff_refills _).mpr clean.pp, dsc, (paired_iff dsc).mpr clean.dscPp,
      roiMisr, ?_⟩
    simp only [cacheRoiMisr, misrs] at roiMisr ⊢
    exact (count_iff roiMisr).mpr clean.count

theorem match_cacheHandles_iff {m : ModeSet} (set : (cacheHandles enc m rm e).2 = true) :
    Match enc rm (cacheHandles enc m rm e).1 ↔ Clean enc rm e := by
  rw [cacheHandles] at set ⊢
  cases ratio : m.lmToIntfRatio with
  | error rc => simp [ratio] at set
  | ok ratio => exact (match_physEncs _).trans match_cached_iff

theorem ownPaired_iff (held : Match enc rm e) : OwnPaired enc rm e ↔ PairsOwn enc rm := by
  have slot : ∀ j < maxChannelsPerEnc, e.hwDscPp j =
      ((reserved rm enc .dsc)[j]?).bind fun hw => requestHwBlk rm .pingpong hw.id := by
    intro j inside
    rw [(held.dscPp j inside).1, held.dsc.slot j inside]
  constructor
  · intro own hw member pp found
    obtain ⟨j, at_j⟩ := List.mem_iff_getElem?.mp member
    have inside : j < maxChannelsPerEnc :=
      Nat.lt_of_lt_of_le (List.getElem?_eq_some_iff.mp at_j).1 held.dsc.fits
    exact own j inside pp (by rw [slot j inside, at_j, Option.bind_some, found])
  · intro pairs j inside pp at_j
    rw [slot j inside] at at_j
    obtain ⟨hw, listed, found⟩ := Option.bind_eq_some_iff.mp at_j
    exact pairs hw (List.mem_of_getElem? listed) pp found

theorem virtModeSet_cases (enc : DrmEncoder) (m : ModeSet) (s : Sys) :
    (virtModeSet enc m s).modeWasSet = false ∨
      virtModeSet enc m s =
        ⟨(cacheHandles enc m (m.reserve enc s.rm).2 (m.prepare s.enc)).1, (m.reserve enc s.rm).2,
          (cacheHandles enc m (m.reserve enc s.rm).2 (m.prepare s.enc)).2⟩ := by
  rw [virtModeSet]
  by_cases ready : m.ready
  · rw [if_neg (not_not.mpr ready)]
    by_cases refused : m.restores ∧ m.preModeset ≠ 0
    · rw [if_pos refused]
      exact .inl rfl
    · rw [if_neg refused]
      by_cases failed : (m.reserve enc s.rm).1 ≠ 0
      · rw [if_pos failed]
        exact .inl rfl
      · rw [if_neg failed]
        exact .inr rfl
  · rw [if_pos ready]
    exact .inl rfl

theorem whenSet_iff {P cond : SdeRm → EncVirt → Prop}
    (cached : ∀ m rm e, (cacheHandles enc m rm e).2 = true →
      (P rm (cacheHandles enc m rm e).1 ↔ cond rm e))
    (prepared : ∀ (m : ModeSet) rm e, cond rm (m.prepare e) ↔ cond rm e) (s : Sys)
    (input : Input) :
    ((step enc s input).modeWasSet → P (step enc s input).rm (step enc s input).enc) ↔
      WhenSet enc cond s input := by
  cases input with
  | others op => exact iff_of_true (fun set => by cases set) trivial
  | disable ready connector =>
    have ended : (virtDisable enc ready connector s).modeWasSet = false := by
      rw [virtDisable]
      split <;> rfl
    refine iff_of_true (fun set => ?_) trivial
    rw [step, ended] at set
    cases set
  | modeSet m =>
    rw [WhenSet, step]
    cases virtModeSet_cases enc m s with
    | inl unset => simp [unset]
    | inr eq =>
      rw [eq]
      exact forall_congr' fun set => (cached m _ _ set).trans (prepared m _ _)

theorem matched_step_iff (s : Sys) (input : Input) :
    Matched enc (step enc s input) ↔ WhenSet enc (Clean enc) s input :=
  whenSet_iff (fun _ _ _ => match_cacheHandles_iff) (fun m _ _ => clean_prepare m) s input

theorem ownMatched_step_iff (s : Sys) (input : Input) :
    OwnMatched enc (step enc s input) ↔
      WhenSet enc (fun rm e => Clean enc rm e ∧ PairsOwn enc rm) s input := by
  refine whenSet_iff (P := fun rm e => Match enc rm e ∧ OwnPaired enc rm e) ?_ ?_ s input
  · intro m rm e set
    rw [and_congr_right fun held => ownPaired_iff held, match_cacheHandles_iff set]
  · intro m rm e
    rw [clean_prepare]

/-! ## Runs -/

def encoderInit (rm : SdeRm) (physEncs : List (Option Phys)) : Sys :=
  ⟨⟨fun _ => none, fun _ => none, fun _ => none, fun _ => none, 0, fun _ => 0, physEncs⟩, rm, false⟩

/-- After every mode set that runs to its end the handles are those of the reservation exactly when
    every such mode set finds no leftovers, and of nothing but the encoder's blocks when the
    pingpong of every compressor is reserved with it. -/
theorem matched_iff_clean (enc : DrmEncoder) (rm : SdeRm) (physEncs : List (Option Phys))
    (inputs : List Input) :
    (Throughout (step enc) (Matched enc) (encoderInit rm physEncs) inputs ↔
      StepsMeet (step enc) (WhenSet enc (Clean enc)) (encoderInit rm physEncs) inputs) ∧
    (Throughout (step enc) (OwnMatched enc) (encoderInit rm physEncs) inputs ↔
      StepsMeet (step enc) (WhenSet enc fun rm e => Clean enc rm e ∧ PairsOwn enc rm)
        (encoderInit rm physEncs) inputs) := by
  constructor
  · exact throughout_iff_stepsMeet (fun _ => True) (fun _ _ _ => trivial)
      (fun s input _ _ => matched_step_iff s input) trivial (fun set => by cases set) inputs
  · exact throughout_iff_stepsMeet (fun _ => True) (fun _ _ _ => trivial)
      (fun s input _ _ => ownMatched_step_iff s input) trivial (fun set => by cases set) inputs

/-! ### Four mixers, then two -/

def fourMixers : SdeRm :=
  .sdeRmInit
    (fun
      | .lm => [(1, ⟨1, 0, dsppMax, 1, dsMax, roiMisrMax, 0b100⟩),
          (2, ⟨2, 0, dsppMax, 2, dsMax, roiMisrMax, 0b10⟩),
          (3, ⟨3, 0, dsppMax, 3, dsMax, roiMisrMax, 0b10000⟩),
          (4, ⟨4, 0, dsppMax, 4, dsMax, roiMisrMax, 0b1000⟩)]
      | .pingpong => [(1, ⟨0⟩), (2, ⟨0⟩), (3, ⟨0⟩), (4, ⟨0⟩)]
      | .ctl => [(1, ⟨0⟩)]
      | .intf => [(1, ()), (2, ())]
      | _ => [])
    (fun i => gCtlVer1TopTable.getD i ⟨.none, 0, 0, 0, 0, false⟩) false

def switchTo (numLm addr : Nat) : ModeSet where
  ready := true
  seamlessDms := true
  seamlessDynClk := false
  isCmdMode := true
  preModeset := 0
  call :=
    { enc := 31
      needsModeset := true
      topologyControl := 0
      hwRes := ⟨[.cmd, .cmd], [], false, false, ⟨numLm, 0, 2⟩⟩
      connectorIsDsi := false
      isPrimaryDisplay := false
      inCloneMode := false
      numDatapath := 0
      kms := ⟨false, 0, []⟩
      testOnly := false }
  mem := some addr
  modeInfoRc := 0
  numLm := numLm
  numIntf := 2
  tileMap := id

/-- The fourth slot still holds the fourth pingpong, which the second mode set gives back. -/
theorem not_matched_fourMixers :
    ¬∀ (enc : DrmEncoder) (rm : SdeRm) (physEncs : List (Option Phys)) (inputs : List Input),
      Throughout (step enc) (Matched enc) (encoderInit rm physEncs) inputs := by
  intro always
  have throughout := always ⟨31, by decide⟩ fourMixers (List.replicate 2 (some ⟨none, none, false⟩))
    [.modeSet (switchTo 4 8), .modeSet (switchTo 2 9)]
  have last := throughout_iff_prefix.mp throughout _ [] (List.append_nil _).symm
  have held := (last (by decide)).pp.slot 3 (by decide)
  exact absurd held (by decide)

end DisplayDrivers.Encoder.Handles
