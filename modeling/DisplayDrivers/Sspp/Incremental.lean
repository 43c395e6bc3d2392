import DisplayDrivers.Format.Check
import DisplayDrivers.Lib.Run
import DisplayDrivers.Sspp.Watched

/-! # Incremental programming of a plane

A plane that programs only what is dirty is run beside one that always programs everything.
-/

namespace DisplayDrivers.Sspp

open DisplayDrivers.Ctl (Multirect)
open DisplayDrivers.Format (interleavedRgbFmt noMedia)
open DisplayDrivers.Lib.RegProgram
open DisplayDrivers.Lib.Run
open DisplayDrivers.Multirect (MultirectMode)

/-! ## What nothing watches -/

section Kept
variable (caps : Caps) (pl : Plane) (req : Request)

/-- What the rectangles are programmed from without being watched stays as it is: the pitches of the
    layout, the region and the padding of the CRTC, what the check says of the scaler, and the
    tables. -/
structure RectsKept : Prop where
  pitches : (pl.decided caps req).rot.outFb.map caps.planePitch = pl.state.rot.outFb.map
    caps.planePitch
  region : req.crtc.crtcRoi.x = pl.crtc.crtcRoi.x ∧ req.crtc.crtcRoi.y = pl.crtc.crtcRoi.y
  padding : req.crtc.paddingHeight = pl.crtc.paddingHeight ∧
    req.crtc.paddingActive = pl.crtc.paddingActive ∧ req.crtc.paddingDummy = pl.crtc.paddingDummy
  scalerCheck : (pl.decided caps req).scaler.scalerCheckState = pl.state.scaler.scalerCheckState
  luts : caps.luts (pl.decided caps req) = caps.luts pl.state

/-- What the format is programmed from without being watched stays as it is: the reflections, the
    mode of the system cache, and the CSC configuration of the user. -/
structure FormatKept : Prop where
  flips : (pl.decided caps req).rot.srcFlags = pl.state.rot.srcFlags
  cache : (pl.decided caps req).rot.scCfg = pl.state.rot.scCfg
  csc : (pl.prepared caps req).cscUsrPtr.isSome = pl.cscUsrPtr.isSome ∧
    (caps.pipe.features .dgmCsc = true → (pl.prepared caps req).cscUsrPtr = pl.cscUsrPtr)

end Kept

section Unwatched
variable {caps : Caps} {pl : Plane} {req : Request}

theorem not_allChanged {old st : PlaneState} {pending : Bool} (same : ¬AllChanged old pending st) :
    old.enabled = true ∧ st.multirectIndex = old.multirectIndex ∧ st.multirectMode =
    old.multirectMode := by
  simp only [AllChanged, not_or, ne_eq, not_not, Bool.not_eq_false] at same
  exact ⟨same.1.2, same.2.2⟩

theorem not_rectChanged {old st : PlaneState} (same : ¬RectChanged old st) :
    (st.rot.outSrcW = old.rot.outSrcW ∧ st.rot.outSrcH = old.rot.outSrcH ∧
      st.rot.outSrcX = old.rot.outSrcX ∧ st.rot.outSrcY = old.rot.outSrcY) ∧
    (st.crtcW = old.crtcW ∧ st.crtcH = old.crtcH ∧ st.crtcX = old.crtcX ∧ st.crtcY = old.crtcY) ∧
    st.exclRect = old.exclRect := by
  simpa only [RectChanged, not_or, ne_eq, not_not] using same

theorem not_fbChanged {old st : PlaneState} {fb oldFb : Fb} (here : st.rot.outFb = some fb)
    (there : old.rot.outFb = some oldFb) (same : ¬FbChanged old st) (caps : Caps) :
    caps.format fb = caps.format oldFb ∧ st.constAlphaEn = old.constAlphaEn := by
  simp only [FbChanged, not_exists, not_and, not_or, ne_eq, not_not] at same
  obtain ⟨pixelFormat, alpha, modifier, -⟩ := same fb oldFb here there
  exact ⟨by rw [Caps.format, Caps.format, pixelFormat, modifier], alpha⟩

theorem property_unchanged {bits : U32} (quiet : ¬pl.PropertyAsks caps req bits) {prop : PlaneProp}
    (asks : has (propDirty 0 prop.index) bits = true) :
    (pl.decided caps req).property prop = pl.state.property prop := by
  by_contra changed
  -- a value that changes is in the queue of dirty properties
  refine quiet ⟨prop.index, (pl.prepared_queue caps req).2.1 prop.index ?_, asks⟩
  rw [← Plane.decided_propertyState]
  exact changed

theorem setupPanelStacking_congr (pipe : HwPipe) {crtc crtc' : CrtcState} (crtcY crtcH : U32)
    (padding : crtc.paddingHeight = crtc'.paddingHeight ∧ crtc.paddingActive = crtc'.paddingActive ∧
      crtc.paddingDummy = crtc'.paddingDummy) :
    setupPanelStacking pipe crtc crtcY crtcH = setupPanelStacking pipe crtc' crtcY crtcH := by
  obtain ⟨height, active, dummy⟩ := padding
  rw [setupPanelStacking, setupPanelStacking, calcVpaddingParam, calcVpaddingParam, height,
    active, dummy]

theorem secureArgs_unchanged (quiet : ¬pl.FbTranslationModeWatched caps req) :
    caps.secureArgs (pl.decided caps req) = caps.secureArgs pl.state := by
  obtain ⟨steady, silent⟩ := not_or.mp quiet
  obtain ⟨-, index, -⟩ := not_allChanged (not_or.mp (not_or.mp steady).2).2
  rw [Caps.secureArgs, Caps.secureArgs, index, property_unchanged silent (by decide)]

theorem rectsArgs_unchanged {fb oldFb : Fb} (here : (pl.decided caps req).rot.outFb = some fb)
    (there : pl.state.rot.outFb = some oldFb) (quiet : ¬pl.RectsWatched caps req)
    (kept : RectsKept caps pl req) :
    caps.rectsArgs (pl.decided caps req) req.crtc fb = caps.rectsArgs pl.state pl.crtc oldFb := by
  simp only [Plane.RectsWatched, Plane.AnythingChanged, not_or] at quiet
  obtain ⟨⟨-, -, steady⟩, -, ⟨-, rects⟩, ⟨-, fbs⟩, -, silent, -⟩ := quiet
  obtain ⟨-, index, mode⟩ := not_allChanged steady
  obtain ⟨⟨srcW, srcH, srcX, srcY⟩, ⟨crtcW, crtcH, crtcX, crtcY⟩, excl⟩ := not_rectChanged rects
  obtain ⟨format, -⟩ := not_fbChanged here there fbs caps
  have pitch : caps.planePitch fb = caps.planePitch oldFb := by
    simpa [here, there] using kept.pitches
  have config : (pl.decided caps req).property .srcConfig = pl.state.property .srcConfig :=
    property_unchanged silent (by decide)
  have horz : (pl.decided caps req).property .hDecimate = pl.state.property .hDecimate :=
    property_unchanged silent (by decide)
  have vert : (pl.decided caps req).property .vDecimate = pl.state.property .vDecimate :=
    property_unchanged silent (by decide)
  have stacked := setupPanelStacking_congr caps.pipe (pl.state.crtcY) (pl.state.crtcH) kept.padding
  rw [Caps.rectsArgs, Caps.rectsArgs, index, mode, srcW, srcH, srcX, srcY, crtcW,
    crtcH, crtcX, crtcY,
    excl, format, pitch, config, horz, vert, stacked, kept.region.1, kept.region.2, kept.luts]

theorem validateScalerV2_user (caps : Caps) (s : ScalerState) :
    (validateScalerV2 caps s).user = s.user := by
  unfold validateScalerV2
  split
  · rfl
  · split <;> rfl

theorem scaler_unchanged (quiet : ¬pl.PropertyAsks caps req dirtyRects)
    (kept : RectsKept caps pl req) :
    (pl.decided caps req).scaler = pl.state.scaler := by
  obtain ⟨rot, rotated⟩ := Plane.rotAtomicCheck_state pl.state (pl.prepared caps req).state req
  have validated : (pl.decided caps req).scaler =
      validateScalerV2 caps (pl.prepared caps req).state.scaler := by
    change validateScalerV2 caps
      (rotAtomicCheck pl.state (pl.prepared caps req).state req).1.scaler = _
    rw [rotated]
  have user : (pl.decided caps req).scaler.user = pl.state.scaler.user := by
    rw [validated, validateScalerV2_user]
    -- both versions of the property mark the rectangles
    refine (pl.prepared_queue caps req).2.2.resolve_right fun dirties => ?_
    rcases dirties with v1 | v2
    · exact quiet ⟨_, v1, by decide⟩
    · exact quiet ⟨_, v2, by decide⟩
  have check := kept.scalerCheck
  obtain ⟨ext, cfg⟩ := Prod.mk.inj user
  generalize (pl.decided caps req).scaler = s at check ext cfg
  generalize pl.state.scaler = s' at check ext cfg
  cases s
  cases s'
  simp only at check ext cfg
  rw [check, ext, cfg]

variable {csc : Option CscCfg}

theorem formatProgram_csc (caps : Caps) (args : FormatArgs)
    (same : caps.pipe.features .dgmCsc = true → csc = args.cscUsrPtr) :
    formatProgram caps { args with cscUsrPtr := csc } = formatProgram caps args := by
  by_cases feature : caps.pipe.features .dgmCsc = true
  · rw [same feature]
  · simp only [formatProgram, Bool.eq_false_of_not_eq_true feature]
    rfl

theorem cscPtr_csc (caps : Caps) (args : FormatArgs) (same : csc.isSome = args.cscUsrPtr.isSome) :
    cscPtr caps { args with cscUsrPtr := csc } = cscPtr caps args := by
  rw [cscPtr, cscPtr]
  dsimp only
  rw [same]

theorem format_unchanged {fb oldFb : Fb} (here : (pl.decided caps req).rot.outFb = some fb)
    (there : pl.state.rot.outFb = some oldFb) (quiet : ¬pl.FormatWatched caps req)
    (kept : FormatKept caps pl req) :
    formatProgram caps (caps.formatArgs (pl.decided caps req) (pl.prepared caps req).cscUsrPtr fb) =
        formatProgram caps (caps.formatArgs pl.state pl.cscUsrPtr oldFb) ∧
      cscPtr caps (caps.formatArgs (pl.decided caps req) (pl.prepared caps req).cscUsrPtr fb) =
        cscPtr caps (caps.formatArgs pl.state pl.cscUsrPtr oldFb) := by
  simp only [Plane.FormatWatched, Plane.AnythingChanged, not_or] at quiet
  obtain ⟨⟨-, -, steady⟩, -, ⟨-, fbs⟩, silent⟩ := quiet
  obtain ⟨-, index, -⟩ := not_allChanged steady
  obtain ⟨format, alpha⟩ := not_fbChanged here there fbs caps
  have pma : (pl.decided caps req).property .inversePma = pl.state.property .inversePma :=
    property_unchanged silent (by decide)
  have same : caps.formatArgs (pl.decided caps req) (pl.prepared caps req).cscUsrPtr fb =
      { caps.formatArgs pl.state pl.cscUsrPtr oldFb with
        cscUsrPtr := (pl.prepared caps req).cscUsrPtr } := by
    rw [Caps.formatArgs, Caps.formatArgs, index, alpha, format, pma, kept.flips, kept.cache]
  rw [same]
  exact ⟨formatProgram_csc caps _ kept.csc.2, cscPtr_csc caps _ kept.csc.1⟩

end Unwatched

/-! ## The groups are apart -/

inductive Group
  | secure | rects | format
deriving DecidableEq

def Reg.group : Reg → Group
  | .srcAddrSwStatus => .secure
  | .srcSize _ | .srcXy _ | .outSize _ | .outXy _ | .ystride0 | .ystride1 | .decimationConfig
  | .swPixExt _ _ | .qseed2 _ | .qseed3 _ | .exclRecSize _ | .exclRecXy _ | .exclRecCtl
  | .multirectOpmode | .lineInsertionCtrl _ | .lineInsertionOutSize _ => .rects
  | .srcFormat _ | .srcUnpackPattern _ | .srcOpMode _ | .fetchConfig | .ubwcStaticCtrl
  | .ubwcErrorStatus | .vigOpMode | .vigCsc10OpMode | .cdpCntl _ | .sysCacheMode | .gamutUnmultMode
  | .dgmOpMode _ | .dgmCscOpMode _ | .dgmCscMatrix _ _ => .format

def Within (g : Group) (ws : PipeProgram) : Prop := ∀ u ∈ ws, u.reg.group = g

theorem Within.apart {g h : Group} {ws us : PipeProgram} (first : Within g ws)
    (second : Within h us)
    (differ : g ≠ h) : Apart ws us :=
  fun u member v other same => differ (by rw [← first u member, ← second v other, same])

@[simp] theorem within_nil (g : Group) : Within g [] := fun _ member => nomatch member

@[simp] theorem within_cons (g : Group) (u : Write Reg 32) (ws : PipeProgram) :
    Within g (u :: ws) ↔ u.reg.group = g ∧ Within g ws := List.forall_mem_cons

@[simp] theorem within_append (g : Group) (ws us : PipeProgram) :
    Within g (ws ++ us) ↔ Within g ws ∧ Within g us := List.forall_mem_append

theorem Within.when {g : Group} {ws : PipeProgram} (within : Within g ws) (cond : Bool) :
    Within g (when cond ws) := by
  cases cond with
  | true => exact within
  | false => exact within_nil g

@[simp] theorem putBits_reg (reg : Reg) (bits : U32) (en : Bool) :
    (Write.putBits reg bits en).reg = reg := by
  cases en <;> rfl

section Groups

attribute [local simp] Reg.group Write.all

theorem secureProgram_within (args : SecureArgs) : Within .secure (secureProgram args) := by
  simp [secureProgram, setupSecure]

section Rects

theorem setupRects_within (pipe : HwPipe) (cfg : PipeCfg) (index : Multirect) :
    Within .rects (setupRects pipe cfg index) := by
  unfold setupRects
  cases index <;> simp [stride]

theorem setupPeConfig_within (pe : PixelExt) : Within .rects (setupPeConfig pe) := by
  simp [setupPeConfig]

theorem lift_within {ι : Type} {g : Group} (reg : ι → Reg) (member : ∀ i, (reg i).group = g)
    (ws : Program ι 32) : Within g (lift reg ws) := by
  intro u lifted
  obtain ⟨v, -, rfl⟩ := List.mem_map.mp lifted
  exact member v.reg

theorem scalerProgram_within (caps : Caps) (fmt : PipeFormat) (s : ScalerState) :
    Within .rects (scalerProgram caps fmt s) := by
  unfold scalerProgram
  split
  · exact lift_within .qseed3 (fun _ => rfl) _
  · exact (lift_within .qseed2 (fun _ => rfl) _).when _

theorem setupExclRect_within (exclRect : SdeRect) (index : Multirect) :
    Within .rects (setupExclRect exclRect index) := by
  unfold setupExclRect
  cases index <;> dsimp only <;> split <;> simp

theorem setupMultirect_within (index : Multirect) (mode : MultirectMode) :
    Within .rects (setupMultirect index mode) := by
  unfold setupMultirect
  split <;> simp [Write.setBits]

theorem setupLineInsertion_within (index : Multirect) (cfg : LineInsertionCfg) :
    Within .rects (setupLineInsertion index cfg) := by
  simp [setupLineInsertion]

theorem rectsProgram_within (caps : Caps) (args : RectsArgs) (s : ScalerState) :
    Within .rects (rectsProgram caps args s) := by
  unfold rectsProgram
  simp only [within_append]
  refine ⟨⟨⟨⟨setupRects_within _ _ _, Within.when ?_ _⟩, (setupExclRect_within _ _).when _⟩,
    (setupMultirect_within _ _).when _⟩, (setupLineInsertion_within _ _).when _⟩
  rw [within_append]
  exact ⟨setupPeConfig_within _, scalerProgram_within caps _ _⟩

end Rects

section Format

theorem setupCscOpmode_within (pipe : HwPipe) (fmt : PipeFormat) :
    Within .format (setupCscOpmode pipe fmt) := by
  unfold setupCscOpmode
  split
  · exact Within.when (by simp) _
  · split <;> simp

theorem ubwcStaticCtrl_within (pipe : HwPipe) (constAlphaEn : Bool) :
    Within .format (ubwcStaticCtrl pipe constAlphaEn) := by
  unfold ubwcStaticCtrl
  dsimp only
  split <;> simp

theorem setupFormat_within (pipe : HwPipe) (fmt : PipeFormat) (constAlphaEn : Bool)
    (flags : SrcFlags)
    (index : Multirect) : Within .format (setupFormat pipe fmt constAlphaEn flags index) := by
  unfold setupFormat
  simp only [within_append]
  refine ⟨⟨Within.when ?_ _, setupCscOpmode_within pipe fmt⟩, by simp⟩
  rw [within_cons]
  exact ⟨rfl, ubwcStaticCtrl_within pipe constAlphaEn⟩

theorem setupInversePma_within (pipe : HwPipe) (index : Multirect) (enable : U32) :
    Within .format (setupInversePma pipe index enable) := by
  unfold setupInversePma
  split
  · simp
  · split
    · exact Within.when (by simp) _
    · exact within_nil _

theorem setupDgmCsc_within (index : Multirect) (data : Option CscCfg) :
    Within .format (setupDgmCsc index data) := by
  cases data <;> simp [setupDgmCsc, cscMatrixCoeffSetup]

theorem formatProgram_within (caps : Caps) (args : FormatArgs) :
    Within .format (formatProgram caps args) := by
  unfold formatProgram
  simp only [within_append]
  refine ⟨⟨⟨⟨setupFormat_within _ _ _ _ _, Within.when ?_ _⟩, Within.when ?_ _⟩,
    setupInversePma_within _ _ _⟩, (setupDgmCsc_within _ _).when _⟩
  · simp [setupCdp]
  · simp [setupSysCache]

end Format

end Groups

/-! ## Programming -/

section Programming
variable (caps : Caps) (pl : Plane) (fb : Fb)

def Plane.scalerFor : ScalerState :=
  setupScalerState caps.pipe caps.scaler (caps.rectsArgs pl.state pl.crtc fb).scaler pl.state.scaler

def Plane.secureGroup : PipeProgram := secureProgram (caps.secureArgs pl.state)

def Plane.rectsGroup : PipeProgram :=
  rectsProgram caps (caps.rectsArgs pl.state pl.crtc fb) (pl.scalerFor caps fb)

def Plane.formatGroup : PipeProgram := formatProgram caps (caps.formatArgs pl.state pl.cscUsrPtr fb)

def Plane.groups (dirty : U32) : List (Bool × PipeProgram) :=
  [(has dirty dirtyFbTranslationMode, pl.secureGroup caps),
    (has dirty dirtyRects, pl.rectsGroup caps fb),
    (has dirty dirtyFormat || has dirty dirtyRects, pl.formatGroup caps fb)]

theorem whole_groups (dirty : U32) :
    whole (pl.groups caps fb dirty) =
      pl.secureGroup caps ++ (pl.rectsGroup caps fb ++ pl.formatGroup caps fb) := by
  simp only [whole, Plane.groups, List.flatMap_cons, List.flatMap_nil, List.append_nil]

theorem program_regs (dirty : U32) :
    (program caps pl fb dirty).regs = exec (selected (pl.groups caps fb dirty)) pl.regs := rfl

theorem program_frame (dirty : U32) :
    program caps pl fb dirty =
      { pl with
        regs := (program caps pl fb dirty).regs, state := (program caps pl fb dirty).state
        cscPtr := (program caps pl fb dirty).cscPtr } := rfl

theorem groups_apart (dirty : U32) :
    (pl.groups caps fb dirty).Pairwise fun g h => Apart g.2 h.2 := by
  have secure := secureProgram_within (caps.secureArgs pl.state)
  have rects := rectsProgram_within caps (caps.rectsArgs pl.state pl.crtc fb) (pl.scalerFor caps fb)
  have format := formatProgram_within caps (caps.formatArgs pl.state pl.cscUsrPtr fb)
  simp only [Plane.groups, List.pairwise_cons, List.forall_mem_cons]
  exact ⟨⟨secure.apart rects (by decide), secure.apart format (by decide), nofun⟩,
    ⟨rects.apart format (by decide), nofun⟩, nofun, .nil⟩

structure Settled : Prop where
  secure : Holds (pl.secureGroup caps) pl.regs
  rects : pl.scalerFor caps fb = pl.state.scaler ∧ Holds (pl.rectsGroup caps fb) pl.regs
  format : Holds (pl.formatGroup caps fb) pl.regs ∧
    pl.cscPtr = cscPtr caps (caps.formatArgs pl.state pl.cscUsrPtr fb)

structure Skippable (dirty : U32) : Prop where
  secure : has dirty dirtyFbTranslationMode = false → Holds (pl.secureGroup caps) pl.regs
  rects : has dirty dirtyRects = false →
    pl.scalerFor caps fb = pl.state.scaler ∧ Holds (pl.rectsGroup caps fb) pl.regs
  format : has dirty dirtyRects = false → has dirty dirtyFormat = false →
    Holds (pl.formatGroup caps fb) pl.regs ∧
      pl.cscPtr = cscPtr caps (caps.formatArgs pl.state pl.cscUsrPtr fb)

variable {caps pl fb}

theorem skippable_all : Skippable caps pl fb dirtyAll where
  secure clear := absurd all_fbTranslationMode (by rw [clear]; decide)
  rects clear := absurd all_rects (by rw [clear]; decide)
  format clear := absurd all_rects (by rw [clear]; decide)

theorem Skippable.regs {dirty : U32} (skippable : Skippable caps pl fb dirty) :
    (program caps pl fb dirty).regs =
      exec (pl.secureGroup caps ++ (pl.rectsGroup caps fb ++ pl.formatGroup caps fb)) pl.regs := by
  rw [program_regs, exec_selected (groups_apart caps pl fb dirty), whole_groups]
  simp only [Plane.groups, List.forall_mem_cons]
  refine ⟨skippable.secure, fun clear => (skippable.rects clear).2, fun clear => ?_, nofun⟩
  obtain ⟨format, rects⟩ := Bool.or_eq_false_iff.mp clear
  exact (skippable.format rects format).1

theorem Skippable.program_eq {dirty : U32} (skippable : Skippable caps pl fb dirty) :
    program caps pl fb dirty = program caps pl fb dirtyAll := by
  have regs := skippable.regs.trans (skippable_all.regs).symm
  have state : (program caps pl fb dirty).state = (program caps pl fb dirtyAll).state := by
    change (if has dirty dirtyRects = true then { pl.state with scaler := pl.scalerFor caps fb }
      else pl.state) =
      { pl.state with scaler := pl.scalerFor caps fb }
    by_cases rects : has dirty dirtyRects = true
    · rw [if_pos rects]
    · rw [if_neg rects, (skippable.rects (Bool.eq_false_of_not_eq_true rects)).1]
  have csc : (program caps pl fb dirty).cscPtr = (program caps pl fb dirtyAll).cscPtr := by
    change (if (has dirty dirtyFormat || has dirty dirtyRects) = true then _ else pl.cscPtr) =
      cscPtr caps (caps.formatArgs pl.state pl.cscUsrPtr fb)
    by_cases format : (has dirty dirtyFormat || has dirty dirtyRects) = true
    · rw [if_pos format]
    · rw [if_neg format]
      obtain ⟨format, rects⟩ := Bool.or_eq_false_iff.mp (Bool.eq_false_of_not_eq_true format)
      exact (skippable.format rects format).2
  rw [program_frame caps pl fb dirty, regs, state, csc]
  rfl

theorem settled_program : Settled caps (program caps pl fb dirtyAll) fb := by
  have state : (program caps pl fb dirtyAll).state =
    { pl.state with scaler := pl.scalerFor caps fb } := rfl
  have settles : (program caps pl fb dirtyAll).scalerFor caps fb = pl.scalerFor caps fb :=
    setupScalerState_settles _ _ _ _
  have rects : (program caps pl fb dirtyAll).rectsGroup caps fb = pl.rectsGroup caps fb := by
    rw [Plane.rectsGroup, settles]
    rfl
  -- the groups are apart, so that none undoes what another one leaves
  have held := holds_whole pl.regs (groups_apart caps pl fb dirtyAll)
  rw [whole_groups, ← skippable_all.regs] at held
  simp only [Plane.groups, List.forall_mem_cons] at held
  obtain ⟨secure, rectsHeld, format, -⟩ := held
  exact ⟨secure, ⟨by rw [settles, state], by rw [rects]; exact rectsHeld⟩, format, rfl⟩

end Programming

/-! ## One update -/

section Update
variable (caps : Caps)

def Plane.popped (pl : Plane) : Plane :=
  { pl with
    revalidate := false
    state := { pl.state with
      propertyState := (popDirtyLoop (pl.info.propertyCount + 1) pl.state.propertyState 0).1 } }

variable {caps} {pl : Plane} {fb : Fb}

theorem valueAt_popped (idx : ℕ) :
    pl.popped.state.propertyState.valueAt idx = pl.state.propertyState.valueAt idx := by
  show (popDirtyLoop _ _ _).1.values[idx]?.getD _ = _
  rw [popDirtyLoop_values]
  rfl

theorem property_popped (prop : PlaneProp) :
    pl.popped.state.property prop = pl.state.property prop :=
  congrArg Property.PropertyValue.value (valueAt_popped prop.index)

theorem secureGroup_popped :
    pl.popped.secureGroup caps = secureProgram (caps.secureArgs pl.state) := by
  rw [Plane.secureGroup, Caps.secureArgs, Caps.secureArgs, property_popped]
  rfl

theorem rectsArgs_popped :
    caps.rectsArgs pl.popped.state pl.popped.crtc fb = caps.rectsArgs pl.state pl.crtc fb := by
  have luts : caps.luts pl.popped.state = caps.luts pl.state := by
    simp only [Caps.luts, valueAt_popped]
  rw [Caps.rectsArgs, Caps.rectsArgs, luts, property_popped, property_popped, property_popped]
  rfl

theorem formatArgs_popped :
    caps.formatArgs pl.popped.state pl.popped.cscUsrPtr fb = caps.formatArgs pl.state
    pl.cscUsrPtr fb := by
  rw [Caps.formatArgs, Caps.formatArgs, property_popped]
  rfl

def Plane.withPending (pl : Plane) (pending : Bool) : Plane := { pl with pending }

theorem ssppAtomicUpdate_of_fb (here : pl.state.rot.outFb = some fb) (full : Bool)
    (old : PlaneState)
    (pending : Bool) (dirty : U32) :
    ssppAtomicUpdate caps full pl old pending dirty =
      let bits := if full then dirtyAll else (dirtyAtUpdate pl old pending dirty).2
      if bits = 0 then pl.popped else (program caps pl.popped fb bits).withPending true := by
  have left : (dirtyAtUpdate pl old pending dirty).1 =
      (popDirtyLoop (pl.info.propertyCount + 1) pl.state.propertyState 0).1 :=
        popDirtyLoop_left _ _ _ _
  simp only [ssppAtomicUpdate, here, left]
  rfl

theorem ssppAtomicUpdate_eq (here : pl.state.rot.outFb = some fb) {full : Bool} {old : PlaneState}
    {pending : Bool} {dirty : U32}
    (skippable : full = false → Skippable caps pl.popped fb (dirtyAtUpdate pl old pending dirty).2)
    :
    ∃ pending', ssppAtomicUpdate caps full pl old pending dirty =
      (program caps pl.popped fb dirtyAll).withPending pending' := by
  rw [ssppAtomicUpdate_of_fb here]
  cases full with
  | true => exact ⟨true, rfl⟩
  | false =>
    have same := (skippable rfl).program_eq
    generalize (dirtyAtUpdate pl old pending dirty).2 = bits at same
    simp only [Bool.false_eq_true, if_false]
    by_cases clean : bits = 0
    · -- `if (!pstate->dirty) return 0;`
      rw [clean] at same
      rw [if_pos clean, ← same]
      exact ⟨pl.popped.pending, rfl⟩
    · rw [if_neg clean, same]
      exact ⟨true, rfl⟩

theorem skippable_of_dirty {bits : U32} (secure : has bits dirtyFbTranslationMode = true)
    (rects : has bits dirtyRects = true) : Skippable caps pl fb bits where
  secure clear := absurd secure (by rw [clear]; decide)
  rects clear := absurd rects (by rw [clear]; decide)
  format clear := absurd rects (by rw [clear]; decide)

theorem skippable_of_revalidate (revalidate : pl.revalidate = true) (old : PlaneState)
    (pending : Bool)
    (dirty : U32) : Skippable caps pl.popped fb (dirtyAtUpdate pl old pending dirty).2 := by
  have sets {bits : U32} (among : has dirtyAll bits = true)
      (keeps : ∀ d, has d bits = true → has (modeChanged old pending pl.state d) bits = true) :
      has (dirtyAtUpdate pl old pending dirty).2 bits = true := by
    have popped := has_popDirtyLoop among among (pl.info.propertyCount + 1) pl.state.propertyState
    simp only [dirtyAtUpdate, revalidate, if_true]
    exact (has_ite _ _ _ _).mpr (.inl (keeps _ popped))
  apply skippable_of_dirty
  · exact sets all_fbTranslationMode fun d dirties =>
      (has_modeChanged_fbTranslationMode old pending pl.state d).mpr (.inl dirties)
  · exact sets all_rects fun d dirties =>
      (has_modeChanged_rects old pending pl.state d).mpr (.inl dirties)

theorem ssppAtomicUpdate_revalidate (here : pl.state.rot.outFb = some fb)
    (revalidate : pl.revalidate = true) (full : Bool) (old : PlaneState) (pending : Bool)
    (dirty : U32) :
    ∃ pending', ssppAtomicUpdate caps full pl old pending dirty =
      (program caps pl.popped fb dirtyAll).withPending pending' :=
  ssppAtomicUpdate_eq here fun _ => skippable_of_revalidate revalidate old pending dirty

end Update

/-! ## One request -/

section Commit
variable {caps : Caps} {pl : Plane} {req : Request}

variable (caps pl req) in
structure OrderlyCommit : Prop where
  rects : pl.RectsWatched caps req ∨ RectsKept caps pl req
  format : pl.RectsWatched caps req ∨ pl.FormatWatched caps req ∨ FormatKept caps pl req

variable (caps pl req) in
theorem decided_outFb : ∃ fb, (pl.decided caps req).rot.outFb = some fb := by
  cases streams : req.streams with
  | true => exact ⟨req.streamed.committedFb, by simp [Plane.decided, streams, RotState.answered]⟩
  | false =>
    refine ⟨req.fb, ?_⟩
    simp [Plane.decided, Plane.checked, ssppChecked, rotAtomicCheck, streams, RotState.bypassed]

theorem skippable_of_anything (anything : pl.AnythingChanged caps req) (fb : Fb) :
    Skippable caps (pl.swapped caps req).popped fb (pl.dirtyBits caps req) := by
  apply skippable_of_dirty
  · exact (pl.fbTranslationMode_dirty_iff caps req).mpr (.inl anything)
  · exact (pl.rects_dirty_iff caps req).mpr (.inl anything)

theorem quiet_of_clear {bit : Bool} {watched : Prop} (dirty_iff : bit = true ↔ watched)
    (clear : bit = false) : ¬watched := by
  rw [← dirty_iff, clear]
  decide

theorem rectsGroup_unchanged {fb oldFb : Fb} (here : (pl.decided caps req).rot.outFb = some fb)
    (there : pl.state.rot.outFb = some oldFb) (quiet : ¬pl.RectsWatched caps req)
    (kept : RectsKept caps pl req) :
    (pl.swapped caps req).popped.state.scaler = pl.state.scaler ∧
      (pl.swapped caps req).popped.scalerFor caps fb = pl.scalerFor caps oldFb ∧
        (pl.swapped caps req).popped.rectsGroup caps fb = pl.rectsGroup caps oldFb := by
  have silent : ¬pl.PropertyAsks caps req dirtyRects :=
    fun asks => quiet (.inr (.inr (.inr (.inr (.inr (.inl asks))))))
  have scaler : (pl.swapped caps req).popped.state.scaler = pl.state.scaler :=
    scaler_unchanged silent kept
  have args : caps.rectsArgs (pl.swapped caps req).popped.state
    (pl.swapped caps req).popped.crtc fb =
      caps.rectsArgs pl.state pl.crtc oldFb :=
    rectsArgs_popped.trans (rectsArgs_unchanged here there quiet kept)
  have made : (pl.swapped caps req).popped.scalerFor caps fb = pl.scalerFor caps oldFb := by
    rw [Plane.scalerFor, Plane.scalerFor, args, scaler]
  refine ⟨scaler, made, ?_⟩
  rw [Plane.rectsGroup, args, made]
  rfl

theorem skippable_of_settled {fb oldFb : Fb} (here : (pl.decided caps req).rot.outFb = some fb)
    (there : pl.state.rot.outFb = some oldFb) (settled : Settled caps pl oldFb)
    (orderly : OrderlyCommit caps pl req) :
    Skippable caps (pl.swapped caps req).popped fb (pl.dirtyBits caps req) where
  secure clear := by
    have quiet := quiet_of_clear (pl.fbTranslationMode_dirty_iff caps req) clear
    rw [secureGroup_popped]
    show Holds (secureProgram (caps.secureArgs (pl.decided caps req))) pl.regs
    rw [secureArgs_unchanged quiet]
    exact settled.secure
  rects clear := by
    have quiet := quiet_of_clear (pl.rects_dirty_iff caps req) clear
    have kept := orderly.rects.resolve_left quiet
    obtain ⟨scaler, made, group⟩ := rectsGroup_unchanged here there quiet kept
    obtain ⟨software, registers⟩ := settled.rects
    refine ⟨made.trans (software.trans scaler.symm), ?_⟩
    rw [group]
    exact registers
  format clearRects clear := by
    have quietRects := quiet_of_clear (pl.rects_dirty_iff caps req) clearRects
    have quiet := quiet_of_clear (pl.format_dirty_iff caps req) clear
    have kept := (orderly.format.resolve_left quietRects).resolve_left quiet
    have args : caps.formatArgs (pl.swapped caps req).popped.state
        (pl.swapped caps req).popped.cscUsrPtr fb =
          caps.formatArgs (pl.decided caps req) (pl.prepared caps req).cscUsrPtr fb :=
            formatArgs_popped
    obtain ⟨program, ptr⟩ := format_unchanged here there quiet kept
    rw [Plane.formatGroup, args, program, ptr]
    exact settled.format

end Commit

/-! ## Runs -/

section Runs
variable (caps : Caps)

def Plane.UpToDate (pl : Plane) : Prop :=
  pl.revalidate = true ∨ pl.state.enabled = false ∨
    ∃ fb, pl.state.rot.outFb = some fb ∧ Settled caps pl fb

def Orderly (pl : Plane) : Event → Prop
  | .commit req => OrderlyCommit caps pl req
  | _ => True

variable {caps} {pl : Plane}

theorem Settled.withPending {fb : Fb} (settled : Settled caps pl fb) (pending : Bool) :
    Settled caps (pl.withPending pending) fb :=
  ⟨settled.secure, settled.rects, settled.format⟩

theorem upToDate_program {fb : Fb} (here : pl.state.rot.outFb = some fb) (pending : Bool) :
    ((program caps pl fb dirtyAll).withPending pending).UpToDate caps :=
  .inr (.inr ⟨fb, here, settled_program.withPending pending⟩)

theorem commit_skippable (upToDate : pl.UpToDate caps) {req : Request}
    (orderly : OrderlyCommit caps pl req) {fb : Fb}
    (here : (pl.decided caps req).rot.outFb = some fb) :
    Skippable caps (pl.swapped caps req).popped fb (pl.dirtyBits caps req) := by
  rcases upToDate with revalidate | disabled | ⟨oldFb, there, settled⟩
  · exact skippable_of_anything (.inl revalidate) fb
  · exact skippable_of_anything (.inr (.inr (.inl (.inr disabled)))) fb
  · exact skippable_of_settled here there settled orderly

variable (caps) in
/-- What both runs keep: they are at the same plane, but for `pending`, and it is up to date. -/
def Together (pl full : Plane) : Prop :=
  (∃ pending, full = pl.withPending pending) ∧ pl.UpToDate caps

theorem commit_together (upToDate : pl.UpToDate caps) {req : Request}
    (orderly : OrderlyCommit caps pl req) (pending : Bool) :
    Together caps (step caps false pl (.commit req))
      (step caps true (pl.withPending pending) (.commit req)) := by
  obtain ⟨fb, here⟩ := decided_outFb caps pl req
  have skippable := commit_skippable upToDate orderly here
  obtain ⟨p, incremental⟩ : ∃ p, step caps false pl (.commit req) =
      (program caps (pl.swapped caps req).popped fb dirtyAll).withPending p :=
    ssppAtomicUpdate_eq here fun _ => skippable
  obtain ⟨p', full⟩ : ∃ p, step caps true (pl.withPending pending) (.commit req) =
      (program caps (pl.swapped caps req).popped fb dirtyAll).withPending p :=
    ssppAtomicUpdate_eq here nofun
  rw [full, incremental]
  exact ⟨⟨p', rfl⟩, upToDate_program here p⟩

def Plane.seeing (pl : Plane) (crtc : CrtcState) : Plane := { pl with crtc }

theorem step_restore (full : Bool) (pl : Plane) (crtc : CrtcState) :
    step caps full pl (.restore crtc) =
      if pl.revalidate then ssppAtomicUpdate caps full (pl.seeing crtc) pl.state
        pl.pending 0 else pl :=
  rfl

theorem restore_together (upToDate : pl.UpToDate caps) (crtc : CrtcState) (pending : Bool) :
    Together caps (step caps false pl (.restore crtc))
      (step caps true (pl.withPending pending) (.restore crtc)) := by
  rw [step_restore, step_restore]
  by_cases revalidate : pl.revalidate = true
  · have revalidate' : (pl.withPending pending).revalidate = true := revalidate
    rw [if_pos revalidate, if_pos revalidate']
    cases here : pl.state.rot.outFb with
    | none =>
      have none (pl' : Plane) (same : pl'.state = pl.state) (full : Bool) :
          ssppAtomicUpdate caps full (pl'.seeing crtc) pl'.state pl'.pending 0 =
            pl'.seeing crtc := by
        simp [ssppAtomicUpdate, Plane.seeing, same, here]
      rw [none pl rfl, none (pl.withPending pending) rfl]
      exact ⟨⟨pending, rfl⟩, .inl revalidate⟩
    | some fb =>
      have seen : (pl.seeing crtc).state.rot.outFb = some fb := here
      have seen' : ((pl.withPending pending).seeing crtc).state.rot.outFb = some fb := here
      obtain ⟨p, incremental⟩ :=
        @ssppAtomicUpdate_revalidate caps _ _ seen revalidate false pl.state pl.pending 0
      obtain ⟨p', full⟩ :=
        @ssppAtomicUpdate_revalidate caps _ _ seen' revalidate' true pl.state pending 0
      have popped : (pl.seeing crtc).popped.state.rot.outFb = some fb := here
      rw [incremental]
      exact ⟨⟨p', full⟩, upToDate_program popped p⟩
  · have revalidate' : ¬(pl.withPending pending).revalidate = true := revalidate
    rw [if_neg revalidate, if_neg revalidate']
    exact ⟨⟨pending, rfl⟩, upToDate⟩

theorem step_together {full : Plane} (together : Together caps pl full) {event : Event}
    (orderly : Orderly caps pl event) :
    Together caps (step caps false pl event) (step caps true full event) := by
  obtain ⟨⟨pending, rfl⟩, upToDate⟩ := together
  cases event with
  | commit req => exact commit_together upToDate orderly pending
  | flush =>
    refine ⟨⟨false, rfl⟩, ?_⟩
    exact upToDate.imp_right (.imp_right fun ⟨fb, here, settled⟩ =>
      ⟨fb, here, settled.withPending false⟩)
  | powerCollapse lost => exact ⟨⟨pending, rfl⟩, .inl rfl⟩
  | restore crtc => exact restore_together upToDate crtc pending

theorem run_together {full : Plane} {events : List Event} (together : Together caps pl full)
    (orderly : StepsMeet (step caps false) (Orderly caps) pl events) :
    Together caps (run (step caps false) pl events) (run (step caps true) full events) := by
  induction events generalizing pl full with
  | nil => exact together
  | cons event rest ih => exact ih (step_together together orderly.1) orderly.2

/-- In an orderly run that starts with the plane disabled or to be revalidated, every update leaves
    the registers as it would if it programmed everything. -/
theorem incremental_is_full (start : pl.revalidate = true ∨ pl.state.enabled = false)
    {events : List Event} (orderly : StepsMeet (step caps false) (Orderly caps) pl events) :
    ∀ front back, events = front ++ back →
      (run (step caps false) pl front).regs = (run (step caps true) pl front).regs := by
  intro front back split
  rw [split, stepsMeet_append] at orderly
  have together : Together caps pl pl := ⟨⟨pl.pending, rfl⟩, start.imp_right .inl⟩
  obtain ⟨⟨pending, same⟩, -⟩ := run_together together orderly.1
  rw [same]
  rfl

end Runs

/-! ### A plane on a DMA pipe -/

def argb8888Format : PipeFormat :=
  { interleavedRgbFmt .argb8888 4 [] .linear 1 with
    element := fun i => [1, 0, 2, 3].getD i 0
    bits := fun _ => 3
    unpackAlignMsb := 0, unpackCount := 4, alphaEnable := true }

def dmaPipe : Caps where
  pipe :=
    { features := fun _ => false, highestBankBit := 2, ubwcSwizzle := 0, ubwcVersion := .ver20
      scalerVersion := 0, regDmaSetupVigQseed3 := none }
  scaler :=
    { qseed3lite := false, hPreload := 4, vPreload := 3, debugfsDefaultScale := false
      drmFormatHorzChromaSubsampling := fun _ => 1, drmFormatVertChromaSubsampling := fun _ => 1 }
  cdpRdEnable := false
  getFormat _ _ := argb8888Format
  media := noMedia
  blobData _ := ⟨fun _ => 0, 0⟩
  inputFence := { id := PlaneProp.inputFence.index, blob := false }
  inputFenceDefault := 0xFFFFFFFFFFFFFFFF
  blendOpOpaque := 1
  deinterlace := 0
  fbSec := 1
  fbSecDirTrans := 3

def newPlane : Plane where
  regs _ := 0
  state :=
    { enabled := false, crtcX := 0, crtcY := 0, crtcW := 0, crtcH := 0, rot := {}
      constAlphaEn := false, stage := 0, multirectIndex := .rectSolo, multirectMode := .none, exclRect := {}
      propertyState := { values := List.replicate 39 {} }
      scaler := { scalerCheckState := .none, pixelExt := {}, scaler3Cfg := {} } }
  pending := false
  info :=
    { propertyCount := 39, propertyArray := (List.range 39).map some
      propertyData := List.replicate 39 {}, blobCount := 14
      array_length := by simp, data_length := by simp }
  cscUsrPtr := none
  cscPtr := .null
  revalidate := false
  crtc := {}

def smallFb : Fb where
  width := 64
  height := 64
  pixelFormat := .argb8888
  modifier := 0
  pitches _ := 256
  offsets _ := 0

def showAt (x rotation : U32) : Request where
  sets := []
  fb := smallFb
  srcX := 0
  srcY := 0
  srcW := 64 <<< 16
  srcH := 64 <<< 16
  crtcX := x
  crtcY := 0
  crtcW := 64
  crtcH := 64
  inRotation := rotation
  streamed :=
    { scid := 0, checked := ⟨0, 0, 0, 0, 0, 0, 0⟩, checkedFb := none
      committed := ⟨0, 0, 0, 0, 0, 0, 0⟩, committedFb := smallFb }
  stage := 2
  multirectIndex := .rectSolo
  multirectMode := .none
  layoutX := x
  crtc := {}

/-- A plane that is shown and then moved, with a reflection: the new position is watched. -/
theorem incremental_is_full_moved :
    (run (step dmaPipe false) newPlane
        [.commit (showAt 0 1), .flush, .commit (showAt 8 (1 ||| modeReflectX))]).regs =
      (run (step dmaPipe true) newPlane
        [.commit (showAt 0 1), .flush, .commit (showAt 8 (1 ||| modeReflectX))]).regs := by
  have shown : OrderlyCommit dmaPipe newPlane (showAt 0 1) := by
    have watched : newPlane.RectsWatched dmaPipe (showAt 0 1) :=
      .inl (.inr (.inl (.inl (.inr rfl))))
    exact ⟨.inl watched, .inl watched⟩
  have moved : OrderlyCommit dmaPipe
    (run (step dmaPipe false) newPlane [.commit (showAt 0 1), .flush])
      (showAt 8 (1 ||| modeReflectX)) := by
    have watched : Plane.RectsWatched dmaPipe
        (run (step dmaPipe false) newPlane [.commit (showAt 0 1), .flush])
        (showAt 8 (1 ||| modeReflectX)) := by
      refine .inr (.inr (.inl (.inl (.inr (.inl (.inr (.inr (.inl ?_))))))))
      decide
    exact ⟨.inl watched, .inl watched⟩
  have orderly : StepsMeet (step dmaPipe false) (Orderly dmaPipe) newPlane
      [.commit (showAt 0 1), .flush, .commit (showAt 8 (1 ||| modeReflectX))] :=
    ⟨shown, trivial, moved, trivial⟩
  exact incremental_is_full (.inr rfl) orderly _ [] (List.append_nil _).symm

/-- The reflection by itself is not seen: the bit that flips the lines stays clear. -/
theorem incremental_not_full :
    ¬∀ (caps : Caps) (pl : Plane) (events : List Event),
      pl.revalidate = true ∨ pl.state.enabled = false →
        ∀ front back, events = front ++ back →
          (run (step caps false) pl front).regs = (run (step caps true) pl front).regs := by
  intro every
  have same := every dmaPipe newPlane
    [.commit (showAt 0 1), .flush, .commit (showAt 0 (1 ||| modeReflectX))] (.inr rfl) _ []
    (List.append_nil _).symm
  have differ :
      (run (step dmaPipe false) newPlane
          [.commit (showAt 0 1), .flush, .commit (showAt 0 (1 ||| modeReflectX))]).regs
        (.srcOpMode .rec0) ≠
      (run (step dmaPipe true) newPlane
          [.commit (showAt 0 1), .flush, .commit (showAt 0 (1 ||| modeReflectX))]).regs
        (.srcOpMode .rec0) := by
    decide
  exact differ (congrFun same _)

end DisplayDrivers.Sspp
