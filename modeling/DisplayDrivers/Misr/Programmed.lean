import DisplayDrivers.Rm.Topology
import DisplayDrivers.Rois.Rects
import DisplayDrivers.Lib.Tiling

/-! # Regions of the ROI MISR blocks (`msm/sde/sde_crtc.c`)

The user names a region by its number, `ROI_MISR_MAX_ROIS_PER_MISR` of them for each block.

The regions of a block are a list, `roi_num` being its length: past the first access outside of an
array the model goes on as if that array had room.
-/

namespace DisplayDrivers.Misr

open DisplayDrivers.Rm
open DisplayDrivers.Rois
open DisplayDrivers.Lib.Tiling

def roisPerMisr : ℕ := 4
def misrsPerCrtc : ℕ := 6
def roisPerCrtc : ℕ := misrsPerCrtc * roisPerMisr

/-- `struct sde_roi_misr_usr_cfg`; `userFence` tells whether the fence address is set. -/
structure UsrCfg where
  userFence : Bool
  roiRectNum : ℕ
  roiIds : ℕ → BitVec 32
  roiRects : ℕ → ClipRect
  goldenValue : ℕ → BitVec 32

/-! ## The check -/

/-- The mixers of the state, which `sde_crtc_state_set_topology_name` sets with the name. -/
def numMixers : TopologyName → ℕ
  | .dualpipe | .dualpipeDsc | .dualpipe3dmerge | .dualpipe3dmergeDsc | .dualpipeDscmerge => 2
  | .triplepipe | .triplepipeDsc => 3
  | .quadpipe3dmerge | .quadpipeDscmerge | .quadpipe3dmergeDsc => 4
  | .sixpipe3dmerge | .sixpipeDscmerge => 6
  | .none | .singlepipe | .singlepipeDsc | .ppsplit => 1

/-- `sde_rm_get_roi_misr_num`, for a name of the installed table. -/
def roiMisrNum (ctlRev100 : Bool) (topology : TopologyName) : ℕ :=
  ((topologyTable ctlRev100).find? (·.topName = topology)).elim 0 fun entry =>
    if topology = .ppsplit then 0
    else if sdeRmIsDscmergeCase topology.value then entry.numIntf * 2
    else entry.numIntf

/-- What the checks use of the state of a CRTC; from `numMisrs` on it is `struct sde_misr_state`. -/
structure CrtcState where
  topologyName : TopologyName
  mode : Mode
  numDsEnabled : ℕ
  numMisrs : ℕ
  mixerWidth : ℕ
  roiMisrCfg : UsrCfg
  roiRange : ℤ → ClipRect

namespace CrtcState
variable (s : CrtcState)

def rangeOf (mode : Mode) (numMisrs i : ℕ) : ClipRect :=
  let misrWidth := mode.hdisplay / numMisrs
  let x1 := u16 (misrWidth * (i / roisPerMisr) : ℕ)
  ⟨x1, 0, u16 ((x1 : ℕ) + misrWidth - 1 : ℤ), u16 (mode.vdisplay - 1 : ℤ)⟩

def rangesOf (mode : Mode) (numMisrs : ℕ) (beyond : ℤ → ClipRect) (i : ℤ) : ClipRect :=
  if 0 ≤ i ∧ i < roisPerCrtc then
    if i < numMisrs * roisPerMisr then rangeOf mode numMisrs i.toNat else ⟨0, 0, 0, 0⟩
  else beyond i

def calcRoiRange (ctlRev100 : Bool) : CrtcState :=
  if s.numDsEnabled ≠ 0 then { s with numMisrs := 0, roiRange := rangesOf s.mode 0 s.roiRange }
  else
    let numMisrs := roiMisrNum ctlRev100 s.topologyName
    if numMisrs = 0 then { s with numMisrs := 0, roiRange := rangesOf s.mode 0 s.roiRange }
    else
      { s with
        numMisrs := numMisrs
        mixerWidth := s.mode.hdisplay / numMixers s.topologyName
        roiRange := rangesOf s.mode numMisrs s.roiRange }

def roiId (i : ℕ) : ℤ := (s.roiMisrCfg.roiIds i).toInt

def inRange (rect range : ClipRect) : Bool :=
  range.x1 ≤ rect.x1 && range.y1 ≤ rect.y1 && rect.x2 ≤ range.x2 && rect.y2 ≤ range.y2

def misrRoiCheck : Int :=
  if s.roiMisrCfg.roiRectNum > s.numMisrs * roisPerMisr then einval
  else if (List.range s.roiMisrCfg.roiRectNum).all fun i =>
      inRange (s.roiMisrCfg.roiRects i) (s.roiRange (s.roiId i)) then 0
  else einval

def tabled (ctlRev100 needsModeset : Bool) : CrtcState :=
  if needsModeset then s.calcRoiRange ctlRev100 else s

/-- `_sde_crtc_check_misr_rois`, with the state that is left behind. -/
def checkMisrRois (ctlRev100 needsModeset : Bool) : Int × CrtcState :=
  let s := s.tabled ctlRev100 needsModeset
  if !s.roiMisrCfg.userFence then (0, s)
  else if s.numMisrs = 0 then (einval, s)
  else (s.misrRoiCheck, s)

end CrtcState

/-! ## The hardware configuration -/

/-- One region of a MISR: a place in the arrays of `struct sde_roi_misr_hw_cfg`. -/
structure MisrRoi where
  origOrder : ℕ
  rect : Rect
  goldenValue : BitVec 32
  frameCount : ℕ

/-- `struct sde_roi_misr_hw_cfg` -/
structure HwCfg where
  rois : List MisrRoi
  dsppRois : List Rect

/-- The configurations, and the numbers of those that `_sde_crtc_dspp_roi_calc` has accessed. -/
structure HwCfgs where
  cfg : ℤ → HwCfg
  accessed : List ℤ

namespace CrtcState
variable (s : CrtcState)

def misrRoi (i : ℕ) : MisrRoi :=
  let rect := s.roiMisrCfg.roiRects i
  let range := s.roiRange (s.roiId i)
  { origOrder := i
    rect := ⟨rect.x1 - range.x1, rect.y1, rect.x2 - rect.x1 + 1, rect.y2 - rect.y1 + 1⟩
    goldenValue := s.roiMisrCfg.goldenValue i
    frameCount := 1 }

def misrIdx (i : ℕ) : ℤ := (s.roiId i).tdiv roisPerMisr

def misrRoiCalc : ℤ → HwCfg :=
  (List.range s.roiMisrCfg.roiRectNum).foldl
    (fun cfg i => Function.update cfg (s.misrIdx i)
      { cfg (s.misrIdx i) with rois := (cfg (s.misrIdx i)).rois ++ [s.misrRoi i] })
    fun _ => ⟨[], []⟩

def lmsPerMisr : ℕ := numMixers s.topologyName / s.numMisrs

def dualMixer : ℕ := 2

/-- `l_idx` -/
def leftIdx (i : ℕ) : ℤ := if s.lmsPerMisr = dualMixer then (s.lmsPerMisr * i : ℕ) else i

def splitRoi (roi : Rect) : Option Rect × Option Rect :=
  if (roi.x : ℕ) + roi.w ≤ s.mixerWidth then (some roi, none)
  else if (roi.x : ℕ) ≥ s.mixerWidth then
    (none, some ⟨u16 ((roi.x : ℕ) - s.mixerWidth : ℤ), roi.y, roi.w, roi.h⟩)
  else if s.lmsPerMisr = dualMixer then
    let leftWidth := u16 (s.mixerWidth - (roi.x : ℕ) : ℤ)
    (some ⟨roi.x, roi.y, leftWidth, roi.h⟩, some ⟨0, roi.y, roi.w - leftWidth, roi.h⟩)
  else (none, none)

def addDspp (cfg : ℤ → HwCfg) (idx : ℤ) (rect : Option Rect) : ℤ → HwCfg :=
  Function.update cfg idx { cfg idx with dsppRois := (cfg idx).dsppRois ++ rect.toList }

/-- One region of `_sde_crtc_dspp_roi_calc`: the numbers of both DSPPs are read in any case. -/
def splitOne (i : ℕ) (hw : HwCfgs) (roi : MisrRoi) : HwCfgs where
  cfg := addDspp (addDspp hw.cfg (s.leftIdx i) (s.splitRoi roi.rect).1) (s.leftIdx i + 1)
    (s.splitRoi roi.rect).2
  accessed := hw.accessed ++ [s.leftIdx i, s.leftIdx i + 1]

def splitBlock (hw : HwCfgs) (i : ℕ) : HwCfgs := (hw.cfg i).rois.foldl (s.splitOne i) hw

def dsppRoiCalc (cfg : ℤ → HwCfg) : HwCfgs := (List.range s.numMisrs).foldl s.splitBlock ⟨cfg, []⟩

/-- What `_sde_crtc_roi_misr_setup` calculates, where the DSPPs are used. -/
def roiMisrSetup : HwCfgs := s.dsppRoiCalc s.misrRoiCalc

end CrtcState

/-! ## What is programmed of the regions

The tables of an accepted state, what the loops leave in each block (`cfg_misrRoiCalc`) and in each
DSPP (`cfg_roiMisrSetup`), and one region by itself: its size, and the sides it is cut into
(`splitAt_splitRoi`).
-/

theorem roiMisrNum_cases (ctlRev100 : Bool) (topology : TopologyName) :
    roiMisrNum ctlRev100 topology = 0 ∨
      (numMixers topology = roiMisrNum ctlRev100 topology ∧
        (roiMisrNum ctlRev100 topology ≤ 4 ∨ topology = .sixpipeDscmerge ∧
          roiMisrNum ctlRev100 topology = 6)) ∨
      numMixers topology = 2 * roiMisrNum ctlRev100 topology ∧
        roiMisrNum ctlRev100 topology ≤ 3 := by
  cases ctlRev100 with
  | false => cases topology <;> decide
  | true => cases topology <;> decide

namespace CrtcState
variable {s : CrtcState} {ctlRev100 : Bool}

/-! ## The tables of a state -/

def Built (ctlRev100 : Bool) (s : CrtcState) : Prop :=
  s.numMisrs ≠ 0 → s.numMisrs = roiMisrNum ctlRev100 s.topologyName ∧
    s.mixerWidth = s.mode.hdisplay / numMixers s.topologyName ∧
    ∀ i : ℤ, 0 ≤ i → i < roisPerCrtc → s.roiRange i =
      if i < s.numMisrs * roisPerMisr then rangeOf s.mode s.numMisrs i.toNat else ⟨0, 0, 0, 0⟩

theorem built_calcRoiRange (s : CrtcState) : Built ctlRev100 (s.calcRoiRange ctlRev100) := by
  intro some
  rw [calcRoiRange] at some ⊢
  split at some
  · exact absurd rfl some
  next noDs =>
    rw [if_neg noDs]
    dsimp only at some ⊢
    split at some
    · exact absurd rfl some
    next blocks =>
      rw [if_neg blocks]
      exact ⟨rfl, rfl, fun i low high => if_pos ⟨low, high⟩⟩

variable {needsModeset : Bool}

theorem built_tabled (built : needsModeset = true ∨ Built ctlRev100 s) :
    Built ctlRev100 (s.tabled ctlRev100 needsModeset) := by
  cases needsModeset with
  | true => exact built_calcRoiRange s
  | false => exact built.resolve_left Bool.false_ne_true

theorem cfg_tabled (s : CrtcState) (ctlRev100 needsModeset : Bool) :
    (s.tabled ctlRev100 needsModeset).roiMisrCfg = s.roiMisrCfg := by
  cases needsModeset with
  | false => rfl
  | true =>
    rw [tabled, if_pos rfl, calcRoiRange]
    split
    · rfl
    · dsimp only
      split <;> rfl

theorem state_checkMisrRois (s : CrtcState) (needsModeset : Bool) :
    (s.checkMisrRois ctlRev100 needsModeset).2 = s.tabled ctlRev100 needsModeset := by
  rw [checkMisrRois]
  split
  · rfl
  · split <;> rfl

structure Accepted (ctlRev100 : Bool) (s : CrtcState) : Prop where
  built : Built ctlRev100 s
  blocks : s.numMisrs ≠ 0
  few : s.roiMisrCfg.roiRectNum ≤ s.numMisrs * roisPerMisr
  ranged : ∀ i < s.roiMisrCfg.roiRectNum, inRange (s.roiMisrCfg.roiRects i)
    (s.roiRange (s.roiId i)) = true

theorem accepted_of_check (built : needsModeset = true ∨ Built ctlRev100 s)
    (set : s.roiMisrCfg.userFence = true) (check : (s.checkMisrRois ctlRev100 needsModeset).1 = 0) :
    Accepted ctlRev100 (s.checkMisrRois ctlRev100 needsModeset).2 := by
  have tables := built_tabled built
  have kept := cfg_tabled s ctlRev100 needsModeset
  rw [state_checkMisrRois]
  rw [checkMisrRois] at check
  generalize s.tabled ctlRev100 needsModeset = t at tables kept check
  rw [kept, set] at check
  split at check
  next unset => cases unset
  next =>
    split at check
    · cases check
    next blocks =>
      dsimp only at check
      rw [misrRoiCheck] at check
      split at check
      · cases check
      next few =>
        split at check
        next all =>
          exact ⟨tables, blocks, Nat.not_lt.mp few, fun i low => List.all_eq_true.mp all i
            (List.mem_range.mpr low)⟩
        next => cases check

/-! ## What is programmed -/

theorem cfg_misrRoiCalc (s : CrtcState) (m : ℤ) : s.misrRoiCalc m =
    ⟨((List.range s.roiMisrCfg.roiRectNum).filter fun i => s.misrIdx i = m).map s.misrRoi, []⟩ := by
  rw [misrRoiCalc]
  induction s.roiMisrCfg.roiRectNum with
  | zero => rfl
  | succ n ih =>
    rw [List.range_succ, List.foldl_append, List.foldl_cons, List.foldl_nil, List.filter_append,
      List.map_append]
    by_cases here : s.misrIdx n = m
    · subst here
      rw [Function.update_self, ih, List.filter_cons_of_pos (by simp)]
      rfl
    · rw [Function.update_of_ne (Ne.symm here), ih, List.filter_cons_of_neg (by simpa using here)]
      simp

def partFor (s : CrtcState) (d : ℤ) (i : ℕ) (roi : MisrRoi) : List Rect :=
  (if s.leftIdx i = d then (s.splitRoi roi.rect).1.toList else []) ++
    if s.leftIdx i + 1 = d then (s.splitRoi roi.rect).2.toList else []

theorem cfg_addDspp (cfg : ℤ → HwCfg) (idx d : ℤ) (rect : Option Rect) :
    addDspp cfg idx rect d = ⟨(cfg d).rois, (cfg d).dsppRois ++ if idx = d then rect.toList
    else []⟩ := by
  rw [addDspp]
  by_cases here : idx = d
  · subst here
    rw [Function.update_self, if_pos rfl]
  · rw [Function.update_of_ne (Ne.symm here), if_neg here, List.append_nil]

theorem cfg_splitOne (s : CrtcState) (i : ℕ) (hw : HwCfgs) (roi : MisrRoi) (d : ℤ) :
    (s.splitOne i hw roi).cfg d = ⟨(hw.cfg d).rois, (hw.cfg d).dsppRois ++ s.partFor d i roi⟩ := by
  rw [splitOne]
  dsimp only
  rw [cfg_addDspp, cfg_addDspp, partFor, List.append_assoc]

theorem foldl_splitOne (s : CrtcState) (i : ℕ) (rois : List MisrRoi) (hw : HwCfgs) :
    (∀ d, (rois.foldl (s.splitOne i) hw).cfg d =
      ⟨(hw.cfg d).rois, (hw.cfg d).dsppRois ++ rois.flatMap (s.partFor d i)⟩) ∧
    (rois.foldl (s.splitOne i) hw).accessed =
      hw.accessed ++ rois.flatMap fun _ => [s.leftIdx i, s.leftIdx i + 1] := by
  induction rois generalizing hw with
  | nil => simp
  | cons roi rois ih =>
    obtain ⟨cfg, accessed⟩ := ih (s.splitOne i hw roi)
    refine ⟨fun d => ?_, ?_⟩
    · rw [List.foldl_cons, cfg d, cfg_splitOne, List.flatMap_cons, List.append_assoc]
    · rw [List.foldl_cons, accessed, splitOne, List.flatMap_cons, List.append_assoc]

theorem foldl_blocks (s : CrtcState) (cfg : ℤ → HwCfg) (blocks : ℕ) :
    (∀ d, ((List.range blocks).foldl s.splitBlock ⟨cfg, []⟩).cfg d =
      ⟨(cfg d).rois, (cfg d).dsppRois ++
        (List.range blocks).flatMap fun (i : ℕ) => (cfg i).rois.flatMap (s.partFor d i)⟩) ∧
    ((List.range blocks).foldl s.splitBlock ⟨cfg, []⟩).accessed =
      (List.range blocks).flatMap fun (i : ℕ) => (cfg i).rois.flatMap fun _ =>
        [s.leftIdx i, s.leftIdx i + 1] := by
  induction blocks with
  | zero => simp
  | succ n ih =>
    rw [List.range_succ, List.foldl_append, List.foldl_cons, List.foldl_nil]
    obtain ⟨before, accessed⟩ := ih
    generalize (List.range n).foldl _ _ = hw at before accessed ⊢
    obtain ⟨last, more⟩ := foldl_splitOne s n (hw.cfg n).rois hw
    refine ⟨fun d => ?_, ?_⟩
    · rw [splitBlock, last d, before d, before n, List.flatMap_append, List.flatMap_singleton,
        List.append_assoc]
    · rw [splitBlock, more, accessed, before n, List.flatMap_append, List.flatMap_singleton]

theorem cfg_roiMisrSetup (s : CrtcState) (d : ℤ) : s.roiMisrSetup.cfg d =
    ⟨(s.misrRoiCalc d).rois,
      (List.range s.numMisrs).flatMap fun (i : ℕ) => (s.misrRoiCalc i).rois.flatMap
        (s.partFor d i)⟩ := by
  have all := (foldl_blocks s s.misrRoiCalc s.numMisrs).1 d
  rw [cfg_misrRoiCalc s d] at all ⊢
  exact all

theorem accessed_roiMisrSetup (s : CrtcState) : s.roiMisrSetup.accessed =
    (List.range s.numMisrs).flatMap fun (i : ℕ) =>
      (s.misrRoiCalc i).rois.flatMap fun _ => [s.leftIdx i, s.leftIdx i + 1] :=
  (foldl_blocks s s.misrRoiCalc s.numMisrs).2

/-! ## One region -/

def Upright (rect : ClipRect) : Prop :=
  (rect.x1 ≤ rect.x2 ∧ rect.y1 ≤ rect.y2) ∧ (rect.x2 : ℕ) - rect.x1 < 65535

structure Sized (s : CrtcState) (i : ℕ) : Prop where
  width : ((s.misrRoi i).rect.w : ℤ) = (s.roiMisrCfg.roiRects i).x2 -
    (s.roiMisrCfg.roiRects i).x1 + 1
  height : ((s.misrRoi i).rect.h : ℤ) = (s.roiMisrCfg.roiRects i).y2 -
    (s.roiMisrCfg.roiRects i).y1 + 1
  wide : (s.misrRoi i).rect.w ≠ 0
  high : (s.misrRoi i).rect.h ≠ 0

theorem rangeOf_y2 (mode : Mode) (numMisrs i : ℕ) :
    ((rangeOf mode numMisrs i).y2 : ℕ) = mode.vdisplay - 1 := by
  have y2 := u16_eq (mode.vdisplay - 1 : ℤ)
  have v16 := mode.v16
  have high := mode.high
  dsimp only [rangeOf]
  omega

theorem rangeOf_x1 (mode : Mode) {numMisrs i : ℕ} (low : i < numMisrs * roisPerMisr) :
    ((rangeOf mode numMisrs i).x1 : ℕ) = mode.hdisplay / numMisrs * (i / roisPerMisr) ∧
      mode.hdisplay / numMisrs * (i / roisPerMisr) + mode.hdisplay / numMisrs ≤ mode.hdisplay := by
  have before : i / roisPerMisr + 1 ≤ numMisrs := Nat.div_lt_of_lt_mul (by rwa [Nat.mul_comm])
  have ends : mode.hdisplay / numMisrs * (i / roisPerMisr) + mode.hdisplay /
    numMisrs ≤ mode.hdisplay := by
    rw [← Nat.mul_succ]
    exact (Nat.mul_le_mul_left _ before).trans (Nat.div_mul_le_self _ _)
  have x1 := u16_eq (mode.hdisplay / numMisrs * (i / roisPerMisr) : ℕ)
  have h16 := mode.h16
  dsimp only [rangeOf]
  generalize mode.hdisplay / numMisrs * (i / roisPerMisr) = start at ends x1 ⊢
  generalize mode.hdisplay / numMisrs = columns at ends
  omega

section Region
variable (accepted : Accepted ctlRev100 s) (fits : s.numMisrs ≤ misrsPerCrtc) {i : ℕ}
  (first : 0 ≤ s.roiId i) (last : s.roiId i < s.numMisrs * roisPerMisr)
include accepted fits first last

theorem range_eq : s.roiRange (s.roiId i) = rangeOf s.mode s.numMisrs (s.roiId i).toNat := by
  have entry := (accepted.built accepted.blocks).2.2 (s.roiId i) first (by
    rw [roisPerCrtc, roisPerMisr]
    rw [roisPerMisr] at last
    omega)
  rw [entry, if_pos last]

variable (low : i < s.roiMisrCfg.roiRectNum)
include low

theorem bounds_of_ranged : ((s.roiRange (s.roiId i)).x1 : ℕ) ≤ (s.roiMisrCfg.roiRects i).x1 ∧
    ((s.roiMisrCfg.roiRects i).x2 : ℕ) ≤ (s.roiRange (s.roiId i)).x2 ∧
    ((s.roiMisrCfg.roiRects i).y2 : ℕ) ≤ s.mode.vdisplay - 1 := by
  have ranged := accepted.ranged i low
  rw [inRange, Bool.and_eq_true, Bool.and_eq_true, Bool.and_eq_true, decide_eq_true_eq,
    decide_eq_true_eq,
    decide_eq_true_eq, decide_eq_true_eq] at ranged
  have y2 := rangeOf_y2 s.mode s.numMisrs (s.roiId i).toNat
  rw [← range_eq accepted fits first last] at y2
  obtain ⟨⟨⟨x1, -⟩, x2⟩, bottom⟩ := ranged
  rw [Fin.le_def] at x1 x2 bottom
  omega

theorem sized_iff : Sized s i ↔ Upright (s.roiMisrCfg.roiRects i) := by
  obtain ⟨-, -, bottom⟩ := bounds_of_ranged accepted fits first last low
  have v16 := s.mode.v16
  have one : ((1 : U16) : ℕ) = 1 := rfl
  have width : ((s.misrRoi i).rect.w : ℕ) =
      ((65536 - (s.roiMisrCfg.roiRects i).x1 + (s.roiMisrCfg.roiRects i).x2) % 65536 + 1) %
        65536 := by
    dsimp only [misrRoi]
    rw [Fin.val_add, Fin.sub_def, one]
  have height : ((s.misrRoi i).rect.h : ℕ) =
      ((65536 - (s.roiMisrCfg.roiRects i).y1 + (s.roiMisrCfg.roiRects i).y2) % 65536 + 1) %
        65536 := by
    dsimp only [misrRoi]
    rw [Fin.val_add, Fin.sub_def, one]
  constructor
  · rintro ⟨w, h, wide, high⟩
    rw [ne_eq, Fin.ext_iff, Fin.val_zero] at wide high
    rw [Upright, Fin.le_def, Fin.le_def]
    omega
  · rintro ⟨⟨across, down⟩, narrow⟩
    rw [Fin.le_def] at across down
    refine ⟨by omega, by omega, ?_, ?_⟩
    · rw [ne_eq, Fin.ext_iff, Fin.val_zero]
      omega
    · rw [ne_eq, Fin.ext_iff, Fin.val_zero]
      omega

theorem ends_of_upright (upright : Upright (s.roiMisrCfg.roiRects i)) :
    ((s.misrRoi i).rect.x : ℕ) + (s.misrRoi i).rect.w ≤ s.mode.hdisplay / s.numMisrs ∨
      s.mode.hdisplay / s.numMisrs = 0 := by
  obtain ⟨left, right, -⟩ := bounds_of_ranged accepted fits first last low
  have sized := (sized_iff accepted fits first last low).mpr upright
  have width := sized.width
  have x : ((s.misrRoi i).rect.x : ℕ) =
      (65536 - (s.roiRange (s.roiId i)).x1 + (s.roiMisrCfg.roiRects i).x1) % 65536 := by
    dsimp only [misrRoi]
    rw [Fin.sub_def]
  have number : (s.roiId i).toNat < s.numMisrs * roisPerMisr := by
    rw [roisPerMisr] at last ⊢
    omega
  obtain ⟨x1, within⟩ := rangeOf_x1 s.mode number
  have x2 := u16_eq
    ((rangeOf s.mode s.numMisrs (s.roiId i).toNat).x1 + (s.mode.hdisplay / s.numMisrs : ℕ) - 1 : ℤ)
  rw [range_eq accepted fits first last] at left right x
  have h16 := s.mode.h16
  change ((rangeOf s.mode s.numMisrs (s.roiId i).toNat).x2 : ℤ) = _ at x2
  generalize s.mode.hdisplay / s.numMisrs * ((s.roiId i).toNat / roisPerMisr) = start at x1 within
  generalize s.mode.hdisplay / s.numMisrs = columns at within x2 ⊢
  omega

end Region

/-! ## The two sides of a region -/

def sidePixels (s : CrtcState) (roi : Rect) (right : Bool) : Set (ℤ × ℤ) :=
  if right then (s.splitRoi roi).2.elim ∅ fun part => area ((part.x : ℕ) + s.mixerWidth)
    (part.y : ℕ) part.w part.h
  else (s.splitRoi roi).1.elim ∅ Rect.pixels

structure SplitAt (s : CrtcState) (roi : Rect) : Prop where
  tiles : Tiles Set.univ (s.sidePixels roi) roi.pixels
  left : ∀ p ∈ s.sidePixels roi false, p.1 < s.mixerWidth
  right : ∀ p ∈ s.sidePixels roi true, s.mixerWidth ≤ p.1
  leftSome : ∀ part ∈ (s.splitRoi roi).1, part.w ≠ 0 ∧ part.h ≠ 0
  rightSome : ∀ part ∈ (s.splitRoi roi).2, part.w ≠ 0 ∧ part.h ≠ 0

theorem tiles_cut {parts : Bool → Set (ℤ × ℤ)} {whole : Set (ℤ × ℤ)} {b : ℤ}
    (left : ∀ p, p ∈ parts false ↔ p ∈ whole ∧ p.1 < b)
    (right : ∀ p, p ∈ parts true ↔ p ∈ whole ∧ b ≤ p.1) :
    Tiles Set.univ parts whole where
  apart := by
    have apart : Disjoint (parts false) (parts true) :=
      Set.disjoint_left.mpr fun p first second =>
        absurd ((left p).mp first).2 (not_lt.mpr ((right p).mp second).2)
    intro first _ second _ other
    cases first with
    | false =>
      cases second with
      | false => exact absurd rfl other
      | true => exact apart
    | true =>
      cases second with
      | false => exact apart.symm
      | true => exact absurd rfl other
  cover := by
    rw [Set.biUnion_univ]
    ext p
    rw [Set.mem_iUnion, Bool.exists_bool, left p, right p, ← and_or_left]
    exact and_iff_left (lt_or_ge p.1 b)

structure Cut (s : CrtcState) (roi : Rect) : Prop where
  left : ∀ p, p ∈ s.sidePixels roi false ↔ p ∈ roi.pixels ∧ p.1 < s.mixerWidth
  right : ∀ p, p ∈ s.sidePixels roi true ↔ p ∈ roi.pixels ∧ s.mixerWidth ≤ p.1
  leftSome : ∀ part ∈ (s.splitRoi roi).1, part.w ≠ 0 ∧ part.h ≠ 0
  rightSome : ∀ part ∈ (s.splitRoi roi).2, part.w ≠ 0 ∧ part.h ≠ 0

variable {roi : Rect} (wide : roi.w ≠ 0) (high : roi.h ≠ 0)
include wide high

theorem cut_left (ends : (roi.x : ℕ) + roi.w ≤ s.mixerWidth) : Cut s roi := by
  have split : s.splitRoi roi = (some roi, none) := if_pos ends
  refine ⟨fun p => ?_, fun p => ?_, fun part given => ?_, fun part given => ?_⟩
  · rw [sidePixels, split, if_neg Bool.false_ne_true]
    change p ∈ roi.pixels ↔ _
    rw [mem_pixels]
    omega
  · rw [sidePixels, split, if_pos rfl]
    refine iff_of_false (Set.notMem_empty p) fun both => ?_
    rw [mem_pixels] at both
    omega
  · rw [split] at given
    cases given
    exact ⟨wide, high⟩
  · rw [split] at given
    cases given

theorem cut_right (starts : s.mixerWidth ≤ roi.x) : Cut s roi := by
  rw [ne_eq, Fin.ext_iff, Fin.val_zero] at wide
  have split : s.splitRoi roi =
    (none, some ⟨u16 ((roi.x : ℕ) - s.mixerWidth : ℤ), roi.y, roi.w, roi.h⟩) := by
    rw [splitRoi, if_neg (by omega), if_pos starts]
  have x := u16_eq ((roi.x : ℕ) - s.mixerWidth : ℤ)
  refine ⟨fun p => ?_, fun p => ?_, fun part given => ?_, fun part given => ?_⟩
  · rw [sidePixels, split, if_neg Bool.false_ne_true]
    refine iff_of_false (Set.notMem_empty p) fun both => ?_
    rw [mem_pixels] at both
    omega
  · rw [sidePixels, split, if_pos rfl]
    dsimp only [Option.elim]
    rw [mem_area, mem_pixels]
    omega
  · rw [split] at given
    cases given
  · rw [split] at given
    cases given
    exact ⟨fun none => wide (congrArg Fin.val none), high⟩

omit wide in
theorem cut_both (before : (roi.x : ℕ) < s.mixerWidth) (after : s.mixerWidth < (roi.x : ℕ) + roi.w)
    (dual : s.lmsPerMisr = dualMixer) : Cut s roi := by
  have split : s.splitRoi roi = (some ⟨roi.x, roi.y, u16 (s.mixerWidth - (roi.x : ℕ) : ℤ), roi.h⟩,
      some ⟨0, roi.y, roi.w - u16 (s.mixerWidth - (roi.x : ℕ) : ℤ), roi.h⟩) := by
    rw [splitRoi, if_neg (by omega), if_neg (by omega), if_pos dual]
  have leftWidth : (u16 (s.mixerWidth - (roi.x : ℕ) : ℤ) : ℕ) = s.mixerWidth - roi.x := by
    have field := u16_eq (s.mixerWidth - (roi.x : ℕ) : ℤ)
    omega
  have rightWidth : ((roi.w - u16 (s.mixerWidth - (roi.x : ℕ) : ℤ) : U16) : ℕ) =
      (roi.x : ℕ) + roi.w - s.mixerWidth := by
    rw [Fin.sub_def]
    dsimp only
    rw [leftWidth]
    omega
  have zero : ((0 : U16) : ℕ) = 0 := rfl
  refine ⟨fun p => ?_, fun p => ?_, fun part given => ?_, fun part given => ?_⟩
  · rw [sidePixels, split, if_neg Bool.false_ne_true]
    dsimp only [Option.elim]
    rw [mem_pixels, mem_pixels]
    dsimp only
    omega
  · rw [sidePixels, split, if_pos rfl]
    dsimp only [Option.elim]
    rw [mem_area, mem_pixels]
    omega
  · rw [split] at given
    cases given
    refine ⟨fun none => ?_, high⟩
    have none : (u16 (s.mixerWidth - (roi.x : ℕ) : ℤ) : ℕ) = 0 := congrArg Fin.val none
    omega
  · rw [split] at given
    cases given
    refine ⟨fun none => ?_, high⟩
    have none : ((roi.w - u16 (s.mixerWidth - (roi.x : ℕ) : ℤ) : U16) : ℕ) = 0 :=
      congrArg Fin.val none
    omega

theorem splitAt_splitRoi
    (sides : (roi.x : ℕ) + roi.w ≤ s.mixerWidth ∨ s.mixerWidth ≤ roi.x ∨ s.lmsPerMisr = dualMixer) :
    SplitAt s roi := by
  have cut : Cut s roi := by
    by_cases ends : (roi.x : ℕ) + roi.w ≤ s.mixerWidth
    · exact cut_left wide high ends
    · by_cases starts : s.mixerWidth ≤ roi.x
      · exact cut_right wide high starts
      · exact cut_both high (by omega) (by omega) ((sides.resolve_left ends).resolve_left starts)
  exact ⟨tiles_cut cut.left cut.right, fun p within => ((cut.left p).mp within).2,
    fun p within => ((cut.right p).mp within).2, cut.leftSome, cut.rightSome⟩

end CrtcState

end DisplayDrivers.Misr
