import DisplayDrivers.Blend.Mixers
import DisplayDrivers.Rois.Rects

/-! # The order of the planes in the mixers

`_sde_crtc_blend_setup_mixer` finds out whether the base stage has alpha in the loop that sets the
mode of each stage.
-/

namespace DisplayDrivers.Blend

open DisplayDrivers.Ctl (Sspp Multirect StageCfg)
open DisplayDrivers.Rois (Rect rectIntersect)

def stageBase : ℕ := 0

/-- A plane of the CRTC with the `alpha_enable` of its format; `none` where there is no format. -/
structure Visited where
  pstate : PState
  alphaEnable : Option Bool

/-- `struct sde_hw_dim_layer`; of the flags only `SDE_DRM_DIM_LAYER_INCLUSIVE` is compared. -/
structure HwDimLayer where
  rect : Rect
  stage : ℕ
  inclusive : Bool

/-- What the setup of a frame uses of the CRTC; `dimLayerOps` tells whether the first mixer has
    `setup_dim_layer`. -/
structure Frame where
  numMixers : ℕ
  lmRoi : ℕ → Rect
  dimLayerOps : Bool
  dimLayers : List HwDimLayer

structure Setup where
  mixing : Mixing
  bgAlphaEnable : Bool
  mixerOpMode : ℕ → ℕ

def Setup.visit (frame : Frame) (setup : Setup) (pstate : PState) (alpha : Bool) : Setup :=
  let bgAlphaEnable := setup.bgAlphaEnable || (pstate.sdeStage = stageBase && alpha)
  { mixing := setup.mixing.enter pstate
    bgAlphaEnable := bgAlphaEnable
    mixerOpMode := fun lm =>
      if lm < frame.numMixers then
        if bgAlphaEnable && !alpha then 0 else setup.mixerOpMode lm ||| 1 <<< pstate.sdeStage
      else setup.mixerOpMode lm }

def setupPlanes (frame : Frame) (setup : Setup) : List Visited → Except Setup Setup
  | [] => .ok setup
  | visited :: rest =>
    match visited.alphaEnable with
    | none => .error setup
    | some alpha => setupPlanes frame (setup.visit frame visited.pstate alpha) rest

/-- `_sde_crtc_setup_dim_layer_cfg`, as far as it changes the modes. -/
def setupDimLayerCfg (frame : Frame) (setup : Setup) (dim : HwDimLayer) : Setup :=
  if dim.rect.isNull then setup
  else
    { setup with
      mixerOpMode := fun lm =>
        if lm < frame.numMixers ∧
          ((rectIntersect (frame.lmRoi lm) dim.rect).isNull && dim.inclusive) = false then
          setup.mixerOpMode lm ||| 1 <<< dim.stage
        else setup.mixerOpMode lm }

/-- `_sde_crtc_blend_setup` with the planes: all modes and configurations are cleared before. -/
def blendSetup (frame : Frame) (stack : ℕ → ℕ → ℕ) (old : ℕ → StageCfg) (planes : List Visited) :
    Setup :=
  let start : Setup :=
    ⟨⟨cleared frame.numMixers (fun _ => 0) stack, cleared frame.numMixers StageCfg.none old, []⟩,
      false,
      fun _ => 0⟩
  match setupPlanes frame start planes with
  | .error setup => setup
  | .ok setup =>
    if frame.dimLayerOps then frame.dimLayers.foldl (setupDimLayerCfg frame) setup else setup

/-! ## The loop -/

def Visited.alpha (visited : Visited) : Bool := visited.alphaEnable = some true

def Visited.onBase (visited : Visited) : Bool := visited.pstate.sdeStage = stageBase

def visitAll (frame : Frame) (setup : Setup) (planes : List Visited) : Setup :=
  planes.foldl (fun setup visited => setup.visit frame visited.pstate visited.alpha) setup

variable {frame : Frame} {setup : Setup} {planes order order' : List Visited}

theorem setupPlanes_eq (formats : ∀ visited ∈ planes, visited.alphaEnable ≠ none) :
    setupPlanes frame setup planes = .ok (visitAll frame setup planes) := by
  induction planes generalizing setup with
  | nil => rfl
  | cons visited rest ih =>
    rw [setupPlanes, visitAll, List.foldl_cons]
    cases format : visited.alphaEnable with
    | none => exact absurd format (formats visited List.mem_cons_self)
    | some alpha =>
      have same : visited.alpha = alpha := by
        rw [Visited.alpha, format]
        cases alpha <;> rfl
      rw [same]
      exact ih fun other member => formats other (List.mem_cons_of_mem _ member)

theorem mixing_visitAll : (visitAll frame setup planes).mixing =
    (planes.map Visited.pstate).foldl Mixing.enter setup.mixing := by
  induction planes generalizing setup with
  | nil => rfl
  | cons visited rest ih => exact ih

theorem visitAll_append (first second : List Visited) :
    visitAll frame setup (first ++ second) = visitAll frame (visitAll frame setup first) second :=
  List.foldl_append

theorem visit_bgAlphaEnable (setup : Setup) (visited : Visited) :
    (setup.visit frame visited.pstate visited.alpha).bgAlphaEnable =
      (setup.bgAlphaEnable || (visited.onBase && visited.alpha)) := rfl

variable {lm : ℕ}

theorem visit_mixerOpMode (low : lm < frame.numMixers) (setup : Setup) (visited : Visited) :
    (setup.visit frame visited.pstate visited.alpha).mixerOpMode lm =
      if (setup.bgAlphaEnable || (visited.onBase && visited.alpha)) && !visited.alpha then 0
      else setup.mixerOpMode lm ||| 1 <<< visited.pstate.sdeStage := if_pos low

/-! ## The modes -/

def At (stage : ℕ) (planes : List Visited) : Prop :=
  ∃ visited ∈ planes, visited.pstate.sdeStage = stage

variable {visited : Visited}

theorem at_cons {stage : ℕ} {rest : List Visited} :
    At stage (visited :: rest) ↔ visited.pstate.sdeStage = stage ∨ At stage rest := by
  simp [At]

theorem testBit_or_shift (bits stage i : ℕ) :
    (bits ||| 1 <<< stage).testBit i = true ↔ bits.testBit i = true ∨ stage = i := by
  rw [Nat.testBit_or, Nat.one_shiftLeft, Nat.testBit_two_pow, Bool.or_eq_true, decide_eq_true_eq]

theorem opMode_kept (low : lm < frame.numMixers)
    (kept : (∀ visited ∈ planes, visited.alpha = true) ∨
      setup.bgAlphaEnable = false ∧ ∀ visited ∈ planes, (visited.onBase && visited.alpha) =
        false) (i : ℕ) :
    ((visitAll frame setup planes).mixerOpMode lm).testBit i = true ↔
      (setup.mixerOpMode lm).testBit i = true ∨ At i planes := by
  induction planes generalizing setup with
  | nil => simp [visitAll, At]
  | cons visited rest ih =>
    have here : (setup.visit frame visited.pstate visited.alpha).mixerOpMode lm =
        setup.mixerOpMode lm ||| 1 <<< visited.pstate.sdeStage := by
      rw [visit_mixerOpMode low, if_neg]
      cases kept with
      | inl all => simp [all visited List.mem_cons_self]
      | inr none => simp [none.1, none.2 visited List.mem_cons_self]
    have later := @ih (setup.visit frame visited.pstate visited.alpha) (by
      cases kept with
      | inl all => exact .inl fun other member => all other (List.mem_cons_of_mem _ member)
      | inr none =>
        refine .inr ⟨?_, fun other member => none.2 other (List.mem_cons_of_mem _ member)⟩
        rw [visit_bgAlphaEnable, none.1, none.2 visited List.mem_cons_self]
        rfl)
    rw [visitAll, List.foldl_cons, ← visitAll, later, here, testBit_or_shift, at_cons, or_assoc]

theorem opMode_le {i : ℕ} (low : lm < frame.numMixers)
    (set : ((visitAll frame setup planes).mixerOpMode lm).testBit i = true) :
    (setup.mixerOpMode lm).testBit i = true ∨ At i planes := by
  induction planes generalizing setup with
  | nil => exact .inl set
  | cons visited rest ih =>
    rw [at_cons]
    cases ih set with
    | inr later => exact .inr (.inr later)
    | inl here =>
      rw [visit_mixerOpMode low] at here
      split at here
      · rw [Nat.zero_testBit] at here
        cases here
      · cases (testBit_or_shift _ _ _).mp here with
        | inl before => exact .inl before
        | inr stage => exact .inr (.inl stage)

theorem bgAlphaEnable_visitAll : (visitAll frame setup planes).bgAlphaEnable =
    (setup.bgAlphaEnable || planes.any fun visited => visited.onBase && visited.alpha) := by
  induction planes generalizing setup with
  | nil => simp [visitAll]
  | cons visited rest ih =>
    rw [visitAll, List.foldl_cons, ← visitAll, ih, visit_bgAlphaEnable, List.any_cons,
      Bool.or_assoc]

theorem opMode_cleared (low : lm < frame.numMixers) {last : Visited} (solid : last.alpha = false)
    (base : (visitAll frame setup planes).bgAlphaEnable = true) :
    (visitAll frame setup (planes ++ [last])).mixerOpMode lm = 0 := by
  have step : visitAll frame setup (planes ++ [last]) =
      (visitAll frame setup planes).visit frame last.pstate last.alpha :=
        visitAll_append planes [last]
  rw [step, visit_mixerOpMode low, if_pos]
  rw [base, solid]
  rfl

/-! ## The dim layers -/

def Dims (frame : Frame) (lm stage : ℕ) : Prop :=
  frame.dimLayerOps = true ∧ ∃ dim ∈ frame.dimLayers, dim.stage = stage ∧ dim.rect.isNull = false ∧
    ((rectIntersect (frame.lmRoi lm) dim.rect).isNull = true → dim.inclusive = false)

theorem testBit_dimLayers (low : lm < frame.numMixers) (dims : List HwDimLayer) (i : ℕ) :
    ((dims.foldl (setupDimLayerCfg frame) setup).mixerOpMode lm).testBit i = true ↔
      (setup.mixerOpMode lm).testBit i = true ∨ ∃ dim ∈ dims, dim.stage = i ∧
        dim.rect.isNull = false ∧
        ((rectIntersect (frame.lmRoi lm) dim.rect).isNull = true → dim.inclusive = false) := by
  induction dims generalizing setup with
  | nil => simp
  | cons dim dims ih =>
    have here : ((setupDimLayerCfg frame setup dim).mixerOpMode lm).testBit i = true ↔
        (setup.mixerOpMode lm).testBit i = true ∨ dim.stage = i ∧ dim.rect.isNull = false ∧
          ((rectIntersect (frame.lmRoi lm) dim.rect).isNull = true → dim.inclusive = false) := by
      rw [setupDimLayerCfg]
      cases dim.rect.isNull with
      | true => simp
      | false =>
        rw [if_neg Bool.false_ne_true]
        dsimp only
        by_cases skipped : ((rectIntersect (frame.lmRoi lm) dim.rect).isNull && dim.inclusive) =
          true
        · rw [if_neg fun both => absurd (both.2.symm.trans skipped) Bool.false_ne_true]
          rw [Bool.and_eq_true] at skipped
          simp [skipped.1, skipped.2]
        · rw [if_pos ⟨low, Bool.not_eq_true _ ▸ skipped⟩, testBit_or_shift]
          rw [Bool.and_eq_true, not_and, Bool.not_eq_true] at skipped
          exact or_congr_right (and_iff_left ⟨rfl, skipped⟩).symm
    rw [List.foldl_cons, ih, here, or_assoc]
    simp only [List.mem_cons, exists_eq_or_imp]

/-! ## The slots -/

def StageCfg.slot (cfg : StageCfg) (stage j : ℕ) : Sspp × Multirect :=
  (cfg.stage stage j, cfg.multirectIndex stage j)

def slotOf (pstates : List PState) (j : ℕ) : Sspp × Multirect :=
  (pstates[j]?).elim (.none, .rectSolo) fun pstate =>
    (pstate.plane.pipe, pstate.plane.multirectIndex)

structure InOrder (layout : ℕ) (done : List PState) (mixing : Mixing) : Prop where
  counts : ∀ stage, mixing.zposCnt layout stage = (done.filter (PState.at layout stage)).length
  slots : ∀ stage j, StageCfg.slot (mixing.stageCfg layout) stage j =
    slotOf (done.filter (PState.at layout stage)) j

variable {layout : ℕ} {done pstates : List PState} {mixing : Mixing}

theorem InOrder.enter (inOrder : InOrder layout done mixing) (pstate : PState) :
    InOrder layout (done ++ [pstate]) (mixing.enter pstate) := by
  have at_iff : ∀ stage, pstate.at layout stage = true ↔
      layout = pstate.plane.layout ∧ stage = pstate.sdeStage := by
    intro stage
    rw [PState.at, Bool.and_eq_true, decide_eq_true_eq, decide_eq_true_eq]
    exact and_congr eq_comm eq_comm
  refine ⟨fun stage => ?_, fun stage j => ?_⟩
  · rw [List.filter_append, List.length_append, ← inOrder.counts stage, Mixing.enter]
    dsimp only
    by_cases here : layout = pstate.plane.layout ∧ stage = pstate.sdeStage
    · rw [if_pos here, List.filter_cons_of_pos ((at_iff stage).mpr here), here.1, here.2]
      rfl
    · rw [if_neg here, List.filter_cons_of_neg (mt (at_iff stage).mp here)]
      rfl
  · have before := inOrder.slots stage j
    rw [List.filter_append]
    by_cases here : layout = pstate.plane.layout ∧ stage = pstate.sdeStage
    · rw [List.filter_cons_of_pos ((at_iff stage).mpr here), List.filter_nil]
      obtain ⟨rfl, rfl⟩ := here
      have count := inOrder.counts pstate.sdeStage
      rw [StageCfg.slot, Mixing.enter]
      dsimp only
      rw [if_pos rfl, StageCfg.write]
      dsimp only
      by_cases last : j = mixing.zposCnt pstate.plane.layout pstate.sdeStage
      · rw [if_pos ⟨rfl, last⟩, if_pos ⟨rfl, last⟩, slotOf, last, count,
          List.getElem?_concat_length]
        rfl
      · rw [if_neg fun both => last both.2, if_neg fun both => last both.2, ← StageCfg.slot, before,
          slotOf, slotOf]
        rw [count] at last
        -- other places of the slot are not reached by the new plane
        congr 1
        cases Nat.lt_or_gt_of_ne last with
        | inl low => rw [List.getElem?_append_left low]
        | inr high =>
          rw [List.getElem?_eq_none (by omega), List.getElem?_eq_none]
          rw [List.length_append, List.length_singleton]
          omega
    · rw [List.filter_cons_of_neg (mt (at_iff stage).mp here), List.filter_nil,
        List.append_nil, ← before,
        StageCfg.slot, StageCfg.slot, Mixing.enter]
      dsimp only
      by_cases same : layout = pstate.plane.layout
      · have other : ¬(stage = pstate.sdeStage ∧ j = mixing.zposCnt pstate.plane.layout
          pstate.sdeStage) :=
          fun both => here ⟨same, both.1⟩
        rw [if_pos same, StageCfg.write]
        dsimp only
        rw [if_neg other, if_neg other]
      · rw [if_neg same]

theorem InOrder.foldl (inOrder : InOrder layout done mixing) (pstates : List PState) :
    InOrder layout (done ++ pstates) (pstates.foldl Mixing.enter mixing) := by
  induction pstates generalizing done mixing with
  | nil =>
    rw [List.append_nil]
    exact inOrder
  | cons pstate pstates ih =>
    have all := ih (inOrder.enter pstate)
    rw [List.append_assoc] at all
    exact all

/-! ## The whole setup -/

variable (frame) in
theorem blendSetup_eq (formats : ∀ visited ∈ planes, visited.alphaEnable ≠ none) (stack : ℕ → ℕ → ℕ)
    (old : ℕ → StageCfg) : ∃ start : Setup, start.bgAlphaEnable = false ∧
    (∀ lm, start.mixerOpMode lm = 0) ∧
      blendSetup frame stack old planes =
        if frame.dimLayerOps then frame.dimLayers.foldl (setupDimLayerCfg frame)
          (visitAll frame start planes)
        else visitAll frame start planes := by
  rw [blendSetup, setupPlanes_eq formats]
  exact ⟨_, rfl, fun _ => rfl, rfl⟩

variable (frame) in
theorem testBit_blendSetup (formats : ∀ visited ∈ planes, visited.alphaEnable ≠ none)
    (stack : ℕ → ℕ → ℕ)
    (old : ℕ → StageCfg) : ∃ start : Setup, start.bgAlphaEnable = false ∧
    (∀ lm, start.mixerOpMode lm = 0) ∧
      ∀ lm < frame.numMixers, ∀ i,
        ((blendSetup frame stack old planes).mixerOpMode lm).testBit i = true ↔
          ((visitAll frame start planes).mixerOpMode lm).testBit i = true ∨ Dims frame lm i := by
  obtain ⟨start, base, zero, eq⟩ := blendSetup_eq frame formats stack old
  refine ⟨start, base, zero, fun lm low i => ?_⟩
  rw [eq, Dims]
  cases frame.dimLayerOps with
  | true => rw [if_pos rfl, testBit_dimLayers low, and_iff_right rfl]
  | false => simp

theorem mixing_dimLayers (dims : List HwDimLayer) :
    (dims.foldl (setupDimLayerCfg frame) setup).mixing = setup.mixing := by
  induction dims generalizing setup with
  | nil => rfl
  | cons dim dims ih =>
    rw [List.foldl_cons, ih, setupDimLayerCfg]
    split <;> rfl

variable (frame) in
theorem slot_blendSetup (formats : ∀ visited ∈ planes, visited.alphaEnable ≠ none)
    (stack : ℕ → ℕ → ℕ)
    (old : ℕ → StageCfg) (low : lm < frame.numMixers) (stage j : ℕ) :
    StageCfg.slot ((blendSetup frame stack old planes).mixing.stageCfg
    (lm / maxMixersPerLayout)) stage j =
      slotOf ((planes.map Visited.pstate).filter (PState.at (lm / maxMixersPerLayout) stage))
        j := by
  have layout : Zeroed frame.numMixers (lm / maxMixersPerLayout) := by
    rw [Zeroed, maxMixersPerLayout]
    omega
  have start : InOrder (lm / maxMixersPerLayout) []
      ⟨cleared frame.numMixers (fun _ => 0) stack, cleared frame.numMixers StageCfg.none
        old, []⟩ := by
    refine ⟨fun stage => ?_, fun stage j => ?_⟩
    · dsimp only
      rw [cleared_zeroed layout]
      rfl
    · dsimp only
      rw [cleared_zeroed layout]
      rfl
  have mixing : (blendSetup frame stack old planes).mixing =
    (planes.map Visited.pstate).foldl Mixing.enter
      ⟨cleared frame.numMixers (fun _ => 0) stack, cleared frame.numMixers StageCfg.none
        old, []⟩ := by
    rw [blendSetup, setupPlanes_eq formats]
    dsimp only
    split
    next => rw [mixing_dimLayers, mixing_visitAll]
    next => rw [mixing_visitAll]
  rw [mixing]
  exact (start.foldl (planes.map Visited.pstate)).slots stage j

/-! ## Two orders -/

theorem perm_of_length_le_two {α : Type} {l l' : List α} (perm : l.Perm l') (few : l.length ≤ 2) :
    l = l' ∨ ∃ a b, l = [a, b] ∧ l' = [b, a] := by
  match l, few with
  | [], _ => exact .inl perm.nil_eq
  | [a], _ => exact .inl (List.singleton_perm.mp perm)
  | [a, b], _ =>
    obtain ⟨c, d, rfl⟩ := List.length_eq_two.mp perm.length_eq.symm
    have member : c ∈ [a, b] := perm.symm.subset List.mem_cons_self
    rw [List.mem_cons, List.mem_singleton] at member
    cases member with
    | inl first =>
      subst first
      rw [List.perm_cons, List.singleton_perm, List.cons.injEq] at perm
      exact .inl (by rw [perm.1])
    | inr second =>
      subst second
      have rest := (List.Perm.swap a c []).trans perm
      rw [List.perm_cons, List.singleton_perm, List.cons.injEq] at rest
      exact .inr ⟨a, c, rfl, by rw [rest.1]⟩

def SameSlots (cfg cfg' : StageCfg) : Prop :=
  ∀ stage, (∀ j, StageCfg.slot cfg' stage j = StageCfg.slot cfg stage j) ∨
    ∀ j, StageCfg.slot cfg' stage j = StageCfg.slot cfg stage (Equiv.swap 0 1 j)

def SameMixers (frame : Frame) (first second : Setup) : Prop :=
  ∀ lm < frame.numMixers, first.mixerOpMode lm = second.mixerOpMode lm ∧
    SameSlots (first.mixing.stageCfg (lm / maxMixersPerLayout))
      (second.mixing.stageCfg (lm / maxMixersPerLayout))

def OrderFree (frame : Frame) (planes : List Visited) : Prop :=
  (∀ visited ∈ planes, visited.onBase = true → visited.alpha = false) ∨
    (∀ visited ∈ planes, visited.alpha = true) ∨
      ∀ lm < frame.numMixers, ∀ visited ∈ planes, Dims frame lm visited.pstate.sdeStage

theorem slotOf_swap (a b : PState) (j : ℕ) :
    slotOf [b, a] j = slotOf [a, b] (Equiv.swap 0 1 j) := by
  match j with
  | 0 => rw [Equiv.swap_apply_left]; rfl
  | 1 => rw [Equiv.swap_apply_right]; rfl
  | j + 2 => rw [Equiv.swap_apply_of_ne_of_ne (by omega) (by omega)]; rfl

section Orders
variable (formats : ∀ visited ∈ planes, visited.alphaEnable ≠ none)
include formats

theorem sameSlots_blendSetup
    (few : ∀ layout stage, (planes.map Visited.pstate).countP (PState.at layout stage) ≤ 2)
    (stack : ℕ → ℕ → ℕ) (old : ℕ → StageCfg) (perm : order.Perm planes) (perm' : order'.Perm planes)
    (low : lm < frame.numMixers) :
    SameSlots ((blendSetup frame stack old order).mixing.stageCfg (lm / maxMixersPerLayout))
      ((blendSetup frame stack old order').mixing.stageCfg (lm / maxMixersPerLayout)) := by
  intro stage
  have slot := slot_blendSetup frame (fun v m => formats v (perm.subset m)) stack old low stage
  have slot' := slot_blendSetup frame (fun v m => formats v (perm'.subset m)) stack old low stage
  have same :=
    ((perm.trans perm'.symm).map Visited.pstate).filter (PState.at (lm / maxMixersPerLayout) stage)
  have short : ((order.map Visited.pstate).filter
    (PState.at (lm / maxMixersPerLayout) stage)).length ≤ 2 := by
    rw [← List.countP_eq_length_filter, (perm.map Visited.pstate).countP_eq]
    exact few _ _
  cases perm_of_length_le_two same short with
  | inl eq =>
    left
    intro j
    rw [slot, slot', eq]
  | inr pair =>
    obtain ⟨a, b, first, second⟩ := pair
    right
    intro j
    rw [slot, slot', first, second, slotOf_swap]

theorem testBit_of_orderFree (free : OrderFree frame planes) (stack : ℕ → ℕ → ℕ)
    (old : ℕ → StageCfg)
    (perm : order.Perm planes) (low : lm < frame.numMixers) (i : ℕ) :
    ((blendSetup frame stack old order).mixerOpMode lm).testBit i = true ↔ At i planes ∨
    Dims frame lm i := by
  obtain ⟨start, base, zero, bits⟩ :=
    testBit_blendSetup frame (fun v m => formats v (perm.subset m)) stack old
  have same : At i order ↔ At i planes := by simp only [At, perm.mem_iff]
  rw [bits lm low i]
  have all (kept : (∀ visited ∈ order, visited.alpha = true) ∨
      start.bgAlphaEnable = false ∧ ∀ visited ∈ order, (visited.onBase && visited.alpha) = false) :
      ((visitAll frame start order).mixerOpMode lm).testBit i = true ↔ At i planes := by
    rw [opMode_kept low kept, zero lm, Nat.zero_testBit, same]
    exact or_iff_right Bool.false_ne_true
  cases free with
  | inl none =>
    rw [all (.inr ⟨base, fun visited member => ?_⟩)]
    cases on : visited.onBase with
    | false => rfl
    | true => exact none visited (perm.subset member) on
  | inr free =>
    cases free with
    | inl alpha => rw [all (.inl fun visited member => alpha visited (perm.subset member))]
    | inr dims =>
      -- whatever is left of the planes, their stages are those of dim layers
      have covered : At i planes → Dims frame lm i := by
        rintro ⟨visited, member, rfl⟩
        exact dims lm low visited member
      constructor
      · intro either
        cases either with
        | inl set =>
          have left := opMode_le low set
          rw [zero lm, Nat.zero_testBit, same] at left
          exact .inr (covered (left.resolve_left Bool.false_ne_true))
        | inr dim => exact .inr dim
      · intro either
        exact .inr (either.elim covered id)

end Orders

theorem opMode_solids_last {base solid : Visited} (at_base : base ∈ planes)
    (on : base.onBase = true)
    (alpha : base.alpha = true) (at_solid : solid ∈ planes) (none : solid.alpha = false)
    (low : lm < frame.numMixers) :
    (visitAll frame setup (planes.filter Visited.alpha ++ planes.filter fun v =>
    !v.alpha)).mixerOpMode lm = 0 := by
  have in_solids : solid ∈ planes.filter fun v => !v.alpha :=
    List.mem_filter.mpr ⟨at_solid, by rw [none]; rfl⟩
  cases (planes.filter fun v => !v.alpha).eq_nil_or_concat with
  | inl empty =>
    rw [empty] at in_solids
    cases in_solids
  | inr split =>
    obtain ⟨init, last, eq⟩ := split
    have at_last : last ∈ planes.filter fun v => !v.alpha := by
      rw [eq, List.concat_eq_append]
      exact List.mem_append_right init List.mem_cons_self
    have last_solid : last.alpha = false := Bool.not_eq_true' _ ▸ (List.mem_filter.mp at_last).2
    rw [eq, List.concat_eq_append, ← List.append_assoc]
    apply opMode_cleared low last_solid
    rw [bgAlphaEnable_visitAll, List.any_append, Bool.or_eq_true, Bool.or_eq_true]
    refine .inr (.inl (List.any_eq_true.mpr ⟨base, List.mem_filter.mpr ⟨at_base, alpha⟩, ?_⟩))
    rw [on, alpha]
    rfl

theorem opMode_solids_first (start : setup.bgAlphaEnable = false) (low : lm < frame.numMixers)
    (member : visited ∈ planes) :
    ((visitAll frame setup
    ((planes.filter fun v => !v.alpha) ++ planes.filter Visited.alpha)).mixerOpMode lm).testBit
      visited.pstate.sdeStage = true := by
  have solids : ∀ v ∈ planes.filter fun v => !v.alpha, (v.onBase && v.alpha) = false := by
    intro v at_v
    have none := (List.mem_filter.mp at_v).2
    rw [Bool.not_eq_true'] at none
    rw [none, Bool.and_false]
  have alphas : ∀ v ∈ planes.filter Visited.alpha, v.alpha = true :=
    fun v at_v => (List.mem_filter.mp at_v).2
  rw [visitAll_append, opMode_kept low (.inl alphas), opMode_kept low (.inr ⟨start, solids⟩)]
  cases alpha : visited.alpha with
  | true => exact .inr ⟨visited, List.mem_filter.mpr ⟨member, alpha⟩, rfl⟩
  | false => exact .inl (.inr ⟨visited, List.mem_filter.mpr ⟨member, by rw [alpha]; rfl⟩, rfl⟩)

/-- The setup of the mixers does not depend on the order of the planes, exactly for such planes. -/
theorem orderFree_iff (formats : ∀ visited ∈ planes, visited.alphaEnable ≠ none)
    (few : ∀ layout stage, (planes.map Visited.pstate).countP (PState.at layout stage) ≤ 2)
    (stack : ℕ → ℕ → ℕ) (old : ℕ → StageCfg) :
    (∀ order order', order.Perm planes → order'.Perm planes →
        SameMixers frame (blendSetup frame stack old order) (blendSetup frame stack old order')) ↔
      OrderFree frame planes := by
  constructor
  · intro same
    by_contra bound
    rw [OrderFree, not_or, not_or] at bound
    obtain ⟨based, mixed, bare⟩ := bound
    push Not at based mixed bare
    obtain ⟨base, at_base, on, alpha⟩ := based
    obtain ⟨solid, at_solid, none⟩ := mixed
    obtain ⟨lm, low, visited, member, bare⟩ := bare
    rw [ne_eq, Bool.not_eq_false] at alpha
    rw [ne_eq, Bool.not_eq_true] at none
    have last := planes.filter_append_perm Visited.alpha
    have first : ((planes.filter fun v => !v.alpha) ++ planes.filter Visited.alpha).Perm planes :=
      List.perm_append_comm.trans last
    -- with the planes without alpha last only the dim layers are left, with them first all stages
    have modes := (same _ _ last first lm low).1
    obtain ⟨start, -, -, cleared⟩ :=
      testBit_blendSetup frame (fun v m => formats v (last.subset m)) stack old
    obtain ⟨start', base', -, kept⟩ :=
      testBit_blendSetup frame (fun v m => formats v (first.subset m)) stack old
    have set :=
      (kept lm low visited.pstate.sdeStage).mpr (.inl (opMode_solids_first base' low member))
    rw [← modes, cleared lm low, opMode_solids_last at_base on alpha at_solid none low,
      Nat.zero_testBit] at set
    exact set.elim Bool.false_ne_true bare
  · intro free order order' perm perm' lm low
    refine ⟨Nat.eq_of_testBit_eq fun i => ?_, sameSlots_blendSetup formats few stack old
      perm perm' low⟩
    rw [Bool.eq_iff_iff, testBit_of_orderFree formats free stack old perm low,
      testBit_of_orderFree formats free stack old perm' low]

/-! ## A base stage with alpha -/

def soloFrame : Frame := ⟨1, fun _ => .zero, false, []⟩

def visitedAt (stage : ℕ) (alpha : Bool) : Visited where
  pstate :=
    { plane :=
        { id := stage, pipe := if stage = 0 then .vig0 else .vig1, isVirtual := false
          zpos := stage, crtcX := 0, crtcY := 0, crtcW := 10, crtcH := 10, layout := 0
          layoutOffset := 0, multirectIndex := .rectSolo, existing := true }
      stage := stage
      sdeStage := stage }
  alphaEnable := some alpha

theorem soloFrame_few (first second : Visited) (layout stage : ℕ) :
    ([first, second].map Visited.pstate).countP (PState.at layout stage) ≤ 2 :=
  List.countP_le_length

/-- With alpha in the base stage and a plane without it above, the mode is cleared in one order
    only. -/
theorem not_sameMixers_solid : ¬∀ order order' : List Visited,
    order.Perm [visitedAt 0 true, visitedAt 1 false] →
    order'.Perm [visitedAt 0 true, visitedAt 1 false] →
      SameMixers soloFrame (blendSetup soloFrame (fun _ _ => 0) (fun _ => StageCfg.none) order)
        (blendSetup soloFrame (fun _ _ => 0) (fun _ => StageCfg.none) order') := by
  intro same
  have modes := (same _ _ (List.Perm.refl _) (List.Perm.swap _ _ []) 0 (by decide)).1
  revert modes
  decide

/-- With alpha in both planes the order does not matter. -/
theorem orderFree_alpha :
    (∀ order order' : List Visited,
        order.Perm [visitedAt 0 true, visitedAt 1 true] →
          order'.Perm [visitedAt 0 true, visitedAt 1 true] →
          SameMixers soloFrame (blendSetup soloFrame (fun _ _ => 0) (fun _ => StageCfg.none) order)
            (blendSetup soloFrame (fun _ _ => 0) (fun _ => StageCfg.none) order')) ↔
      OrderFree soloFrame [visitedAt 0 true, visitedAt 1 true] :=
  orderFree_iff (by simp [visitedAt]) (soloFrame_few _ _) _ _

end DisplayDrivers.Blend
