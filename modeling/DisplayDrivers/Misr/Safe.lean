import DisplayDrivers.Misr.Programmed

/-! # Regions that stay in the tables

The check compares the rectangles with the ranges, and the number of regions with that of all
ranges. It does not look at the number that names a range, at how many regions name the same block,
nor at whether a rectangle is upright; exactly where these are right (`WellNamed`) the regions are
programmed as they should be (`safe_iff`).
-/

namespace DisplayDrivers.Misr

open DisplayDrivers.Rois

namespace CrtcState
variable {s : CrtcState} {ctlRev100 : Bool}

structure Safe (ctlRev100 : Bool) (s : CrtcState) : Prop where
  ids : ∀ i < s.roiMisrCfg.roiRectNum,
    (0 ≤ s.roiId i ∧ s.roiId i < roiMisrNum ctlRev100 s.topologyName * roisPerMisr) ∧
      s.roiRange (s.roiId i) = rangeOf s.mode (roiMisrNum ctlRev100 s.topologyName)
        (s.roiId i).toNat
  misrs : ∀ m, (s.roiMisrSetup.cfg m).rois.length ≤ roisPerMisr
  dspps : ∀ d, (s.roiMisrSetup.cfg d).dsppRois.length ≤ roisPerMisr
  accessed : ∀ d ∈ s.roiMisrSetup.accessed, 0 ≤ d ∧ d < misrsPerCrtc
  sized : ∀ i < s.roiMisrCfg.roiRectNum, Sized s i
  listed : ∀ m, ∀ roi ∈ (s.roiMisrSetup.cfg m).rois, roi.origOrder < s.roiMisrCfg.roiRectNum
  onto : ∀ i < s.roiMisrCfg.roiRectNum, ∃ m, ∃ roi ∈ (s.roiMisrSetup.cfg m).rois, roi.origOrder = i
  order : ∀ (m m' : ℤ) (k k' : ℕ) (roi roi' : MisrRoi), (s.roiMisrSetup.cfg m).rois[k]? = some roi →
    (s.roiMisrSetup.cfg m').rois[k']? = some roi' → roi.origOrder = roi'.origOrder → m = m' ∧ k = k'
  sides : ∀ m, ∀ roi ∈ (s.roiMisrSetup.cfg m).rois, SplitAt s roi.rect

structure WellNamed (ctlRev100 : Bool) (s : CrtcState) : Prop where
  ids : ∀ i < s.roiMisrCfg.roiRectNum,
    0 ≤ s.roiId i ∧ s.roiId i < roiMisrNum ctlRev100 s.topologyName * roisPerMisr
  few : ∀ m : ℤ, (List.range s.roiMisrCfg.roiRectNum).countP
    (fun i => s.roiId i / roisPerMisr = m) ≤ roisPerMisr
  upright : ∀ i < s.roiMisrCfg.roiRectNum, Upright (s.roiMisrCfg.roiRects i)
  notLast : s.topologyName = .sixpipeDscmerge → ∀ i < s.roiMisrCfg.roiRectNum, s.roiId i < 20

/-! ## Orders -/

variable {roi : MisrRoi}

theorem mem_misrRois {m : ℤ} : roi ∈ (s.misrRoiCalc m).rois ↔
    ∃ i < s.roiMisrCfg.roiRectNum, s.misrIdx i = m ∧ s.misrRoi i = roi := by
  rw [cfg_misrRoiCalc, List.mem_map]
  simp only [List.mem_filter, List.mem_range, decide_eq_true_eq, and_assoc]

theorem order_misrRoiCalc {m m' : ℤ} {k k' : ℕ} {roi' : MisrRoi}
    (at_k : (s.misrRoiCalc m).rois[k]? = some roi)
    (at_k' : (s.misrRoiCalc m').rois[k']? = some roi')
    (same : roi.origOrder = roi'.origOrder) : m = m' ∧ k = k' := by
  rw [cfg_misrRoiCalc, List.getElem?_map, Option.map_eq_some_iff] at at_k at_k'
  obtain ⟨i, at_i, rfl⟩ := at_k
  obtain ⟨i', at_i', rfl⟩ := at_k'
  have same : i = i' := same
  subst same
  have here := (List.mem_filter.mp (List.mem_of_getElem? at_i)).2
  have there := (List.mem_filter.mp (List.mem_of_getElem? at_i')).2
  rw [decide_eq_true_eq] at here there
  have blocks : m = m' := here.symm.trans there
  subst blocks
  have once :=
    List.Nodup.filter (fun i => s.misrIdx i = m) (@List.nodup_range s.roiMisrCfg.roiRectNum)
  refine ⟨rfl, ?_⟩
  obtain ⟨low, -⟩ := List.getElem?_eq_some_iff.mp at_i
  exact (List.getElem?_inj low once).mp (at_i.trans at_i'.symm)

/-! ## Counts -/

theorem length_flatMap_le {β : Type} {f : ℕ → List β} {only bound n : ℕ}
    (few : (f only).length ≤ bound)
    (others : ∀ i < n, i ≠ only → f i = []) : ((List.range n).flatMap f).length ≤ bound := by
  have short : ((List.range n).flatMap f).length ≤ if only < n then (f only).length else 0 := by
    induction n with
    | zero => simp
    | succ n ih =>
      have before := ih fun i low => others i (Nat.lt_succ_of_lt low)
      rw [List.range_succ, List.flatMap_append, List.length_append, List.flatMap_singleton]
      by_cases here : n = only
      · subst here
        rw [if_neg (lt_irrefl n)] at before
        rw [if_pos (Nat.lt_succ_self n)]
        omega
      · rw [others n (Nat.lt_succ_self n) here, List.length_nil, Nat.add_zero]
        apply before.trans
        split
        next low => rw [if_pos (Nat.lt_succ_of_lt low)]
        next => exact Nat.zero_le _
  split at short <;> omega

theorem length_partFor_le (s : CrtcState) (d : ℤ) (i : ℕ) (roi : MisrRoi) :
    (s.partFor d i roi).length ≤ 1 := by
  rw [partFor]
  by_cases here : s.leftIdx i = d
  · rw [if_pos here, if_neg (by omega), List.append_nil]
    cases (s.splitRoi roi.rect).1 <;> simp
  · rw [if_neg here, List.nil_append]
    split
    · cases (s.splitRoi roi.rect).2 <;> simp
    · simp

theorem length_flatMap_partFor_le (s : CrtcState) (d : ℤ) (i : ℕ) (rois : List MisrRoi) :
    (rois.flatMap (s.partFor d i)).length ≤ rois.length := by
  induction rois with
  | nil => simp
  | cons roi rois ih =>
    rw [List.flatMap_cons, List.length_append, List.length_cons]
    have one := length_partFor_le s d i roi
    omega

/-! ## Blocks of a topology -/

inductive Shape (s : CrtcState) : Prop
  | single (lms : s.lmsPerMisr = 1) (width : s.mixerWidth = s.mode.hdisplay / s.numMisrs)
      (few : s.numMisrs ≤ 4 ∨ s.topologyName = .sixpipeDscmerge ∧ s.numMisrs = 6)
  | dual (lms : s.lmsPerMisr = dualMixer) (few : s.numMisrs ≤ 3)

theorem shape_of_accepted (accepted : Accepted ctlRev100 s) : Shape s := by
  obtain ⟨blocks, width, -⟩ := accepted.built accepted.blocks
  have some : 0 < s.numMisrs := Nat.pos_of_ne_zero accepted.blocks
  obtain none | ⟨mixers, few⟩ | ⟨mixers, few⟩ := roiMisrNum_cases ctlRev100 s.topologyName
  · exact absurd (blocks.trans none) accepted.blocks
  · rw [← blocks] at mixers few
    refine .single ?_ (by rw [width, mixers]) few
    rw [lmsPerMisr, mixers, Nat.div_self some]
  · rw [← blocks] at mixers few
    refine .dual ?_ few
    rw [lmsPerMisr, mixers, Nat.mul_div_cancel _ some]
    rfl

theorem Shape.fits (shape : Shape s) : s.numMisrs ≤ misrsPerCrtc := by
  rw [misrsPerCrtc]
  cases shape with
  | single lms width few => omega
  | dual lms few => omega

variable {i : ℕ}

theorem misrIdx_eq (first : 0 ≤ s.roiId i) : s.misrIdx i = s.roiId i / roisPerMisr :=
  Int.tdiv_eq_ediv_of_nonneg first

theorem length_misrRois (first : ∀ i < s.roiMisrCfg.roiRectNum, 0 ≤ s.roiId i) (m : ℤ) :
    (s.roiMisrSetup.cfg m).rois.length =
      (List.range s.roiMisrCfg.roiRectNum).countP fun i => s.roiId i / roisPerMisr = m := by
  rw [cfg_roiMisrSetup, cfg_misrRoiCalc]
  dsimp only
  rw [List.length_map, ← List.countP_eq_length_filter]
  refine List.countP_congr fun i member => ?_
  rw [misrIdx_eq (first i (List.mem_range.mp member))]

section Regions
variable (accepted : Accepted ctlRev100 s) (named : WellNamed ctlRev100 s)
include accepted named

theorem id_lt (low : i < s.roiMisrCfg.roiRectNum) :
    0 ≤ s.roiId i ∧ s.roiId i < s.numMisrs * roisPerMisr := by
  rw [(accepted.built accepted.blocks).1]
  exact named.ids i low

theorem sized_of_named (low : i < s.roiMisrCfg.roiRectNum) : Sized s i :=
  (sized_iff accepted (shape_of_accepted accepted).fits (id_lt accepted named low).1
    (id_lt accepted named low).2
    low).mpr (named.upright i low)

theorem ends_of_named (low : i < s.roiMisrCfg.roiRectNum) :
    ((s.misrRoi i).rect.x : ℕ) + (s.misrRoi i).rect.w ≤ s.mode.hdisplay / s.numMisrs ∨
      s.mode.hdisplay / s.numMisrs = 0 :=
  ends_of_upright accepted (shape_of_accepted accepted).fits (id_lt accepted named low).1
    (id_lt accepted named low).2 low (named.upright i low)

theorem sides_of_named {m : ℤ} (member : roi ∈ (s.misrRoiCalc m).rois) : SplitAt s roi.rect := by
  obtain ⟨i, low, -, rfl⟩ := mem_misrRois.mp member
  have sized := sized_of_named accepted named low
  apply splitAt_splitRoi sized.wide sized.high
  cases shape_of_accepted accepted with
  | single lms width few =>
    rw [width]
    cases ends_of_named accepted named low with
    | inl within => exact .inl within
    | inr none => exact .inr (.inl (by omega))
  | dual lms few => exact .inr (.inr lms)

theorem exists_only (d : ℤ) : ∃ only : ℕ, ∀ i < s.numMisrs, i ≠ only →
    (s.misrRoiCalc i).rois.flatMap (s.partFor d i) = [] := by
  cases shape_of_accepted accepted with
  | dual lms few =>
    refine ⟨(d / 2).toNat, fun i _ other => List.flatMap_eq_nil_iff.mpr fun roi _ => ?_⟩
    have left : s.leftIdx i = (2 * i : ℕ) := by rw [leftIdx, if_pos lms, lms, dualMixer]
    rw [partFor, left, if_neg (by omega), if_neg (by omega), List.nil_append]
  | single lms width few =>
    have left : ∀ i, s.leftIdx i = i := by
      intro i
      rw [leftIdx, lms, if_neg (by decide)]
    by_cases none : s.mode.hdisplay / s.numMisrs = 0
    · -- without columns everything is to the right
      refine ⟨(d - 1).toNat, fun i _ other => List.flatMap_eq_nil_iff.mpr fun roi member => ?_⟩
      obtain ⟨k, low, -, rfl⟩ := mem_misrRois.mp member
      have wide := (sized_of_named accepted named low).wide
      rw [ne_eq, Fin.ext_iff, Fin.val_zero] at wide
      have split : (s.splitRoi (s.misrRoi k).rect).1 = Option.none := by
        rw [splitRoi, if_neg (by omega), if_pos (by omega)]
      rw [partFor, left, split, if_neg (c := (i : ℤ) + 1 = d) (by omega)]
      split <;> rfl
    · refine ⟨d.toNat, fun i _ other => List.flatMap_eq_nil_iff.mpr fun roi member => ?_⟩
      obtain ⟨k, low, -, rfl⟩ := mem_misrRois.mp member
      have ends := (ends_of_named accepted named low).resolve_right none
      have split : (s.splitRoi (s.misrRoi k).rect).2 = Option.none := by
        rw [splitRoi, if_pos (by omega)]
      rw [partFor, left, split, if_neg (c := (i : ℤ) = d) (by omega), List.nil_append]
      split <;> rfl

theorem safe_of_named : Safe ctlRev100 s := by
  have blocks := (accepted.built accepted.blocks).1
  have shape := shape_of_accepted accepted
  have first : ∀ i < s.roiMisrCfg.roiRectNum, 0 ≤ s.roiId i := fun i low => (named.ids i low).1
  have misrs : ∀ m, (s.roiMisrSetup.cfg m).rois.length ≤ roisPerMisr := by
    intro m
    rw [length_misrRois first]
    exact named.few m
  have rois : ∀ m, (s.roiMisrSetup.cfg m).rois = (s.misrRoiCalc m).rois :=
    fun m => by rw [cfg_roiMisrSetup]
  refine ⟨fun i low => ⟨named.ids i low, ?_⟩, misrs, fun d => ?_, fun d member => ?_,
    fun i low => sized_of_named accepted named low, fun m roi member => ?_, fun i low => ?_,
    fun m m' k k' roi roi' at_k at_k' same => ?_, fun m roi member => ?_⟩
  · rw [← blocks]
    exact range_eq accepted shape.fits (id_lt accepted named low).1 (id_lt accepted named low).2
  · obtain ⟨only, others⟩ := exists_only accepted named d
    rw [cfg_roiMisrSetup]
    apply length_flatMap_le _ others
    have few := misrs only
    rw [rois] at few
    exact (length_flatMap_partFor_le s d only _).trans few
  · rw [accessed_roiMisrSetup, List.mem_flatMap] at member
    obtain ⟨i, at_i, member⟩ := member
    rw [List.mem_flatMap] at member
    obtain ⟨roi, at_roi, member⟩ := member
    obtain ⟨k, low, block, -⟩ := mem_misrRois.mp at_roi
    have last := List.mem_range.mp at_i
    rw [misrIdx_eq (first k low)] at block
    rw [List.mem_cons, List.mem_singleton] at member
    rw [misrsPerCrtc]
    cases shape with
    | dual lms few =>
      have left : s.leftIdx i = (2 * i : ℕ) := by rw [leftIdx, if_pos lms, lms, dualMixer]
      omega
    | single lms width few =>
      have left : s.leftIdx i = i := by rw [leftIdx, lms, if_neg (by decide)]
      cases few with
      | inl small => omega
      | inr six =>
        have below := named.notLast six.1 k low
        rw [roisPerMisr] at block
        omega
  · rw [rois] at member
    obtain ⟨i, low, -, rfl⟩ := mem_misrRois.mp member
    exact low
  · refine ⟨s.misrIdx i, s.misrRoi i, ?_, rfl⟩
    rw [rois]
    exact mem_misrRois.mpr ⟨i, low, rfl, rfl⟩
  · rw [rois] at at_k at_k'
    exact order_misrRoiCalc at_k at_k' same
  · rw [rois] at member
    exact sides_of_named accepted named member

end Regions

theorem named_of_safe (accepted : Accepted ctlRev100 s) (safe : Safe ctlRev100 s) :
    WellNamed ctlRev100 s := by
  have blocks := (accepted.built accepted.blocks).1
  have shape := shape_of_accepted accepted
  have first : ∀ i < s.roiMisrCfg.roiRectNum, 0 ≤ s.roiId i := fun i low => (safe.ids i low).1.1
  refine ⟨fun i low => (safe.ids i low).1, fun m => ?_, fun i low => ?_, fun six i low => ?_⟩
  · rw [← length_misrRois first]
    exact safe.misrs m
  · have last := (safe.ids i low).1.2
    rw [← blocks] at last
    exact (sized_iff accepted shape.fits (first i low) last low).mp (safe.sized i low)
  · by_contra sixth
    have last := (safe.ids i low).1.2
    rw [← blocks, roisPerMisr] at last
    have six : s.lmsPerMisr = 1 ∧ s.numMisrs = 6 := by
      cases shape with
      | single lms width few => exact ⟨lms, by omega⟩
      | dual lms few => omega
    have block : s.misrIdx i = (5 : ℕ) := by
      rw [misrIdx_eq (first i low), roisPerMisr]
      omega
    -- the DSPP on the right of the sixth block would be a seventh
    have seventh : (6 : ℤ) ∈ s.roiMisrSetup.accessed := by
      rw [accessed_roiMisrSetup, List.mem_flatMap]
      refine ⟨5, List.mem_range.mpr (by omega), List.mem_flatMap.mpr ⟨s.misrRoi i, ?_, ?_⟩⟩
      · exact mem_misrRois.mpr ⟨i, low, block, rfl⟩
      · rw [leftIdx, six.1, if_neg (by decide)]
        exact List.mem_cons_of_mem _ List.mem_cons_self
    exact absurd (safe.accessed 6 seventh).2 (by decide)

theorem topologyName_tabled (s : CrtcState) (ctlRev100 needsModeset : Bool) :
    (s.tabled ctlRev100 needsModeset).topologyName = s.topologyName := by
  cases needsModeset with
  | false => rfl
  | true =>
    rw [tabled, if_pos rfl, calcRoiRange]
    split
    · rfl
    · dsimp only
      split <;> rfl

theorem wellNamed_congr {t : CrtcState} (cfg : t.roiMisrCfg = s.roiMisrCfg)
    (topology : t.topologyName = s.topologyName) :
    WellNamed ctlRev100 t ↔ WellNamed ctlRev100 s := by
  have ids : t.roiId = s.roiId := by
    funext i
    rw [roiId, roiId, cfg]
  constructor
  · rintro ⟨number, few, upright, notLast⟩
    rw [cfg, ids, topology] at number notLast
    rw [cfg] at upright
    rw [cfg, ids] at few
    exact ⟨number, few, upright, notLast⟩
  · rintro ⟨number, few, upright, notLast⟩
    rw [← cfg, ← ids, ← topology] at number notLast
    rw [← cfg] at upright
    rw [← cfg, ← ids] at few
    exact ⟨number, few, upright, notLast⟩

/-- An accepted list of regions is programmed safely exactly where it is well named. -/
theorem safe_iff {needsModeset : Bool} (built : needsModeset = true ∨ Built ctlRev100 s)
    (set : s.roiMisrCfg.userFence = true) (check : (s.checkMisrRois ctlRev100 needsModeset).1 = 0) :
    Safe ctlRev100 (s.checkMisrRois ctlRev100 needsModeset).2 ↔ WellNamed ctlRev100 s := by
  have accepted := accepted_of_check built set check
  have same : WellNamed ctlRev100 (s.tabled ctlRev100 needsModeset) ↔ WellNamed ctlRev100 s :=
    wellNamed_congr (cfg_tabled s ctlRev100 needsModeset)
      (topologyName_tabled s ctlRev100 needsModeset)
  rw [← state_checkMisrRois] at same
  rw [← same]
  exact ⟨named_of_safe accepted, safe_of_named accepted⟩

/-! ## A number without a range -/

def singleCrtc (id : BitVec 32) (rect : ClipRect) : CrtcState where
  topologyName := .singlepipe
  mode := ⟨1080, 2400, by decide, by decide, by decide, by decide⟩
  numDsEnabled := 0
  numMisrs := 0
  mixerWidth := 0
  roiMisrCfg := ⟨true, 1, fun _ => id, fun _ => rect, fun _ => 0⟩
  roiRange := fun _ => ⟨0, 0, 0, 0⟩

/-- Number 5 belongs to no block of a single pipe, but its cleared range has one pixel. -/
theorem not_safe_cleared :
    ((singleCrtc 5 ⟨0, 0, 0, 0⟩).checkMisrRois true true).1 = 0 ∧
      ¬Safe true ((singleCrtc 5 ⟨0, 0, 0, 0⟩).checkMisrRois true true).2 := by
  refine ⟨by decide, fun safe => ?_⟩
  have id := (safe.ids 0 (by decide)).1.2
  revert id
  decide

/-- Two blocks of two mixers each: two regions in the first block, one of them across the middle of
    the block, and one in the second. -/
def quadCrtc : CrtcState :=
  { singleCrtc 0 ⟨10, 0, 20, 9⟩ with
    topologyName := .quadpipe3dmerge
    roiMisrCfg := ⟨true, 3, fun i => if i = 2 then 5 else i,
      fun i => if i = 0 then ⟨10, 0, 20, 9⟩ else if i = 1 then ⟨200, 5, 300, 2399⟩
        else ⟨600, 0, 1079, 49⟩,
      fun _ => 0⟩ }

theorem safe_iff_quad :
    (quadCrtc.checkMisrRois true true).1 = 0 ∧ Safe true (quadCrtc.checkMisrRois true true).2 := by
  refine ⟨by decide, (safe_iff (.inl rfl) rfl
    (by decide)).mpr ⟨by decide, fun m => ?_, ?_, by decide⟩⟩
  · exact List.countP_le_length.trans (by decide)
  · unfold Upright
    decide

end CrtcState

end DisplayDrivers.Misr
