import DisplayDrivers.Secure.Exclusive
import DisplayDrivers.Blend.Sound

/-! # What a secure CRTC shows

The loop over the sorted planes begins at the second one and asks two things of it at once: that its
pipe may show the secure UI, and that its stage is that of the plane before. The dim layers are
compared with each other, but neither with the planes nor, where there are planes, with the stage of
the catalog.
-/

namespace DisplayDrivers.Secure

/-! ## What is asked of it -/

def CrtcState.stages (state : CrtcState) : List Int :=
  state.pstates.map Staged.sdeStage ++ state.dimLayers

def Limits.incSdeStage (limits : Limits) : Int := if limits.hasBaseLayer then 0 else stage0

/-- Every plane is directly secure and on a pipe for the secure UI, and all planes and dim layers
    are in one stage, which is that of the catalog if it has one. -/
structure SecOnly (limits : Limits) (state : CrtcState) : Prop where
  modes : ∀ mode ∈ state.modes, mode = .secDirTrans
  pipes : ∀ plane ∈ state.pstates, plane.secUiAllowed = true
  oneStage : ∀ stage ∈ state.stages, ∀ other ∈ state.stages, stage = other
  supported : limits.suiSupportedBlendstage ≠ 0 →
    ∀ stage ∈ state.stages, (limits.suiSupportedBlendstage : Int) =
      (stage - limits.incSdeStage) % 4294967296

structure FirstFits (state : CrtcState) : Prop where
  pipe : ∀ plane ∈ state.pstates.head?, plane.secUiAllowed = true
  dimLayer : ∀ plane ∈ state.pstates.head?, ∀ dim ∈ state.dimLayers.head?, dim = plane.sdeStage

/-! ## The stages that the planes come with -/

variable {limits : Limits}

def Shifted (limits : Limits) (pstates : List Staged) : Prop :=
  ∀ plane ∈ pstates, plane.sdeStage = plane.stage + limits.incSdeStage

/-- A plane of the array of `sde_crtc_atomic_check` as the check of the secure state sees it. -/
def staged (secUiAllowed : Blend.PlaneState → Bool) (pstate : Blend.PState) : Staged :=
  ⟨secUiAllowed pstate.plane, pstate.stage, pstate.sdeStage⟩

theorem countStages_shifted {catalog : Blend.Catalog}
    (base : limits.hasBaseLayer = catalog.hasBaseLayer) (secUiAllowed : Blend.PlaneState → Bool)
    {pstates counted : List Blend.PState}
    (ok : Blend.countStages catalog none 0 pstates = .ok counted) :
    Shifted limits (counted.map (staged secUiAllowed)) := by
  obtain ⟨rfl, -, -⟩ := Blend.countStages_ok (Nat.zero_le 2) ok
  intro plane at_plane
  simp only [List.map_map, List.mem_map] at at_plane
  obtain ⟨pstate, -, rfl⟩ := at_plane
  simp only [Function.comp_apply, staged, Limits.incSdeStage, Blend.incSdeStage, base]
  split <;> rfl

/-! ## The loops -/

theorem le_countFbModes (modes : List FbMode) (counts : FbModes) :
    counts.ns ≤ (countFbModes modes counts).1.ns ∧
    counts.sec ≤ (countFbModes modes counts).1.sec := by
  induction modes generalizing counts with
  | nil => exact ⟨Nat.le_refl _, Nat.le_refl _⟩
  | cons mode modes ih =>
    cases mode with
    | nonSec =>
      have rest := ih { counts with ns := counts.ns + 1 }
      exact ⟨Nat.le_of_succ_le rest.1, rest.2⟩
    | sec =>
      have rest := ih { counts with sec := counts.sec + 1 }
      exact ⟨rest.1, Nat.le_of_succ_le rest.2⟩
    | secDirTrans => exact ih { counts with secDir := counts.secDir + 1 }
    | nonSecDirTrans => exact ⟨Nat.le_refl _, Nat.le_refl _⟩

theorem countFbModes_direct {modes : List FbMode} {counts : FbModes}
    (ok : (countFbModes modes counts).2 = 0) (ns : (countFbModes modes counts).1.ns = 0)
    (sec : (countFbModes modes counts).1.sec = 0) : ∀ mode ∈ modes, mode = .secDirTrans := by
  induction modes generalizing counts with
  | nil => exact List.forall_mem_nil _
  | cons mode modes ih =>
    cases mode with
    | nonSec =>
      have counted := (le_countFbModes modes { counts with ns := counts.ns + 1 }).1
      rw [countFbModes] at ns
      rw [ns] at counted
      exact absurd counted (Nat.not_succ_le_zero _)
    | sec =>
      have counted := (le_countFbModes modes { counts with sec := counts.sec + 1 }).2
      rw [countFbModes] at sec
      rw [sec] at counted
      exact absurd counted (Nat.not_succ_le_zero _)
    | secDirTrans => exact List.forall_mem_cons.mpr ⟨rfl, ih ok ns sec⟩
    | nonSecDirTrans => cases ok

variable {planes : List Staged}

theorem oneStage_iff {first : Staged} : oneStage (first :: planes) = true ↔
      ∀ plane ∈ planes, plane.secUiAllowed = true ∧ plane.stage = first.stage := by
  induction planes generalizing first with
  | nil => simp [oneStage]
  | cons second planes ih =>
    rw [oneStage, Bool.and_eq_true, Bool.and_eq_true, decide_eq_true_eq, ih, List.forall_mem_cons]
    refine and_congr_right fun here => ?_
    rw [here.2]

variable {layers : List Int}

theorem oneDimStage_iff {first : Int} :
    oneDimStage (first :: layers) = true ↔ ∀ layer ∈ layers, layer = first := by
  induction layers generalizing first with
  | nil => simp [oneDimStage]
  | cons second layers ih =>
    rw [oneDimStage, Bool.and_eq_true, decide_eq_true_eq, ih, List.forall_mem_cons]
    refine and_congr_right fun here => ?_
    rw [here]

/-! ## The check -/

section Check

variable {limits : Limits} {smmu : SmmuStateData} {old state : CrtcState}

theorem checkSecureState_only (level : state.secureLevel = .only)
    (accepted : checkSecureState limits smmu old state = 0) :
    state.stateFindPlaneFbModes.2 = 0 ∧
      checkSecOnly limits state.stateFindPlaneFbModes.1 state = true := by
  have counted : state.stateFindPlaneFbModes.2 = 0 :=
    countFbModes_ok.mpr (checkSecureState_clean accepted)
  refine ⟨counted, ?_⟩
  by_contra refused
  rw [checkSecureState, if_neg (not_not.mpr counted), if_pos ⟨level, refused⟩] at accepted
  cases accepted

structure Checked (limits : Limits) (state : CrtcState) : Prop where
  modes : ∀ mode ∈ state.modes, mode = .secDirTrans
  planes : oneStage state.pstates = true
  dimLayers : oneDimStage state.dimLayers = true
  supported : limits.suiSupportedBlendstage = 0 ∨ supportedStage limits state = true

theorem checkSecureState_checked (level : state.secureLevel = .only)
    (accepted : checkSecureState limits smmu old state = 0) : Checked limits state := by
  obtain ⟨counted, passed⟩ := checkSecureState_only level accepted
  simp only [checkSecOnly, Bool.and_eq_true, Bool.or_eq_true, decide_eq_true_eq] at passed
  obtain ⟨⟨⟨⟨ns, sec⟩, planes⟩, dimLayers⟩, supported⟩ := passed
  exact ⟨countFbModes_direct counted ns sec, planes, dimLayers, supported⟩

theorem Checked.planesAt {first : Staged} (checked : Checked limits state)
    (shifted : Shifted limits state.pstates) (sorted : state.pstates = first :: planes) :
    ∀ plane ∈ state.pstates, plane.sdeStage = first.sdeStage := by
  have one := checked.planes
  rw [sorted] at one shifted ⊢
  intro plane at_plane
  rw [shifted plane at_plane, shifted first List.mem_cons_self]
  cases at_plane with
  | head => rfl
  | tail _ later => rw [(oneStage_iff.mp one plane later).2]

theorem Checked.dimLayersAt {first : Int} (checked : Checked limits state)
    (listed : state.dimLayers = first :: layers) : ∀ layer ∈ state.dimLayers, layer = first := by
  have one := checked.dimLayers
  rw [listed] at one ⊢
  exact List.forall_mem_cons.mpr ⟨rfl, oneDimStage_iff.mp one⟩

theorem Checked.stagesAt (checked : Checked limits state) (shifted : Shifted limits state.pstates)
    (fits : ∀ plane ∈ state.pstates.head?, ∀ dim ∈ state.dimLayers.head?, dim = plane.sdeStage) :
    ∀ stage ∈ state.stages,
      stage = (state.pstates.head?.elim (state.dimLayers.headD 0) Staged.sdeStage) := by
  intro stage at_stage
  rw [CrtcState.stages, List.mem_append, List.mem_map] at at_stage
  cases sorted : state.pstates with
  | nil =>
    cases listed : state.dimLayers with
    | nil => simp [sorted, listed] at at_stage
    | cons first layers =>
      have at_layer : stage ∈ state.dimLayers := by simpa [sorted] using at_stage
      exact checked.dimLayersAt listed stage at_layer
  | cons plane planes =>
    cases at_stage with
    | inl at_plane =>
      obtain ⟨other, at_other, rfl⟩ := at_plane
      exact checked.planesAt shifted sorted other at_other
    | inr at_layer =>
      cases listed : state.dimLayers with
      | nil => simp [listed] at at_layer
      | cons first layers =>
        rw [checked.dimLayersAt listed stage at_layer]
        exact fits plane (by rw [sorted]; rfl) first (by rw [listed]; rfl)

theorem Checked.supportedAt (checked : Checked limits state)
    (known : limits.suiSupportedBlendstage ≠ 0) :
    (limits.suiSupportedBlendstage : Int) =
      (state.pstates.head?.elim (state.dimLayers.headD 0) Staged.sdeStage - limits.incSdeStage) %
        4294967296 := by
  have passed := checked.supported.resolve_left known
  rw [supportedStage, Bool.and_eq_true, decide_eq_true_eq] at passed
  rw [passed.2, Limits.incSdeStage]
  cases state.pstates with
  | nil =>
    cases limits.hasBaseLayer with
    | true => simp
    | false => rfl
  | cons plane planes =>
    cases limits.hasBaseLayer with
    | true => simp
    | false => rfl

/-- An accepted secure CRTC shows what it should if and only if its first plane and its first dim
    layer do. -/
theorem secOnly_iff_firstFits (level : state.secureLevel = .only)
    (shifted : Shifted limits state.pstates)
    (accepted : checkSecureState limits smmu old state = 0) :
    SecOnly limits state ↔ FirstFits state := by
  have checked := checkSecureState_checked level accepted
  constructor
  · intro good
    refine ⟨fun plane at_plane => good.pipes plane (List.mem_of_head? at_plane), ?_⟩
    intro plane at_plane dim at_dim
    refine good.oneStage dim ?_ plane.sdeStage ?_
    · exact List.mem_append_right _ (List.mem_of_head? at_dim)
    · exact List.mem_append_left _ (List.mem_map_of_mem (List.mem_of_head? at_plane))
  · intro first
    have stages := checked.stagesAt shifted first.dimLayer
    refine ⟨checked.modes, fun plane at_plane => ?_, fun stage at_stage other at_other => ?_,
      fun known stage at_stage => ?_⟩
    · have one := checked.planes
      have pipe := first.pipe
      cases sorted : state.pstates with
      | nil =>
        rw [sorted] at at_plane
        cases at_plane
      | cons head planes =>
        rw [sorted] at at_plane one pipe
        cases at_plane with
        | head => exact pipe plane rfl
        | tail _ later => exact (oneStage_iff.mp one plane later).1
    · rw [stages stage at_stage, stages other at_other]
    · rw [stages stage at_stage]
      exact checked.supportedAt known

end Check

def suiLimits : Limits := ⟨3, false⟩
def anyLimits : Limits := ⟨0, false⟩

def detached : SmmuStateData := ⟨.detached, .only, .none, false, .none⟩

def secureCrtc (pstates : List Staged) (dimLayers : List Int) : CrtcState where
  active := true
  modes := pstates.map fun _ => .secDirTrans
  secureLevel := .only
  pstates := pstates
  dimLayers := dimLayers
  encoders := [false]
  videoMode := false

def camera : CrtcState := secureCrtc [⟨true, 3, 4⟩, ⟨true, 3, 4⟩] []

theorem secOnly_iff_firstFits_camera : SecOnly suiLimits camera ∧ FirstFits camera := by
  have first : FirstFits camera := by
    refine ⟨fun plane at_plane => ?_, fun plane _ dim at_dim => by cases at_dim⟩
    cases at_plane
    rfl
  have accepted : checkSecureState suiLimits detached camera camera = 0 := by decide
  exact ⟨(secOnly_iff_firstFits (by decide) (by unfold Shifted; decide) accepted).mpr first, first⟩

def strayPlane : CrtcState := secureCrtc [⟨false, 0, 1⟩] []

def strayLayer : CrtcState := secureCrtc [⟨true, 3, 4⟩] [6]

/-- Accepted are one plane whose pipe is not allowed, and a dim layer on another stage. -/
theorem not_secOnly_strays :
    (Shifted anyLimits strayPlane.pstates ∧
      checkSecureState anyLimits detached strayPlane strayPlane = 0 ∧
      ¬SecOnly anyLimits strayPlane) ∧
    (Shifted suiLimits strayLayer.pstates ∧
      checkSecureState suiLimits detached strayLayer strayLayer = 0 ∧
      ¬SecOnly suiLimits strayLayer) := by
  refine ⟨⟨by unfold Shifted; decide, by decide, fun good => ?_⟩,
    ⟨by unfold Shifted; decide, by decide, fun good => ?_⟩⟩
  · exact absurd (good.pipes ⟨false, 0, 1⟩ (by decide)) (by decide)
  · exact absurd (good.oneStage 4 (by decide) 6 (by decide)) (by decide)

end DisplayDrivers.Secure
