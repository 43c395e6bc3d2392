import DisplayDrivers.Blend.Mixers
import DisplayDrivers.Blend.Sound
import Mathlib.Data.List.Sort

/-! # Accepted planes and their places

What `sde_crtc_atomic_check` promises of the planes that it accepts, and what follows for the stage
configurations.
-/

namespace DisplayDrivers.Blend

open DisplayDrivers.Ctl (StageCfg stageMax pipesPerStage)
open DisplayDrivers.Lib.Grouped

variable {customClient : Bool} {catalog : Catalog} {others : Others} {sort : KernelSort}
  {crtc : CrtcState} {planes : Planes crtc} {result : List PState}

/-! ## What has been checked -/

structure Passed (customClient : Bool) (catalog : Catalog) (planes : Planes crtc)
    (result : List PState) : Prop where
  origins : (result.map fun pstate => pstate.plane.origin).Perm (planes.list.map PlaneState.origin)
  laid : ∀ pstate ∈ result, Laid crtc pstate.plane
  walked : ∀ pstate ∈ result, Walked catalog crtc pstate.plane
  stages : ∀ pstate ∈ result, pstate.stage = stageOf customClient planes.list pstate.plane.zpos
  sdeStages : ∀ pstate ∈ result, pstate.sdeStage = pstate.stage + incSdeStage catalog
  range : ∀ pstate ∈ result, pstate.stage < stageMax - stage0
  few : ∀ slot, tally PState.slot slot result ≤ 2
  abut : result.Pairwise fun a b => a.slot = b.slot → Abut a.plane b.plane

theorem zpos_of_origin {a b : PlaneState} (same : a.origin = b.origin) : a.zpos = b.zpos := by
  have zpos := congrArg PlaneState.zpos same
  exact zpos

theorem columns_of_origin {a b : PlaneState} (same : a.origin = b.origin) :
    a.globalX = b.globalX ∧ a.crtcW = b.crtcW := by
  have column := congrArg PlaneState.crtcX same
  have width := congrArg PlaneState.crtcW same
  exact ⟨column, width⟩

variable {laid : List PlaneState}

theorem stageOf_origins
    (origins : (laid.map PlaneState.origin).Perm (planes.list.map PlaneState.origin)) (zpos : ℕ) :
    stageOf customClient laid zpos = stageOf customClient planes.list zpos := by
  have zposes : (laid.map PlaneState.zpos).Perm (planes.list.map PlaneState.zpos) := by
    have moved := origins.map PlaneState.zpos
    rw [List.map_map, List.map_map] at moved
    exact moved
  rw [stageOf, stageOf, rank, rank, List.toFinset_eq_of_perm _ _ zposes]

variable {pstates : List PState}

theorem lastChecks_ok (ok : lastChecks catalog others laid pstates = .ok result) :
    pstates = result ∧ validateSrcSplitOrder catalog.pipeOrderType result = 0 := by
  rw [lastChecks] at ok
  by_cases multirect : others.multirect laid ≠ 0
  · rw [if_pos multirect] at ok
    cases ok
  · rw [if_neg multirect] at ok
    by_cases secure : others.secureState pstates ≠ 0
    · rw [if_pos secure] at ok
      cases ok
    · rw [if_neg secure] at ok
      by_cases order : validateSrcSplitOrder catalog.pipeOrderType pstates ≠ 0
      · rw [if_pos order] at ok
        cases ok
      · rw [if_neg order] at ok
        by_cases rest : others.rest pstates ≠ 0
        · rw [if_pos rest] at ok
          cases ok
        · rw [if_neg rest, Except.ok.injEq] at ok
          exact ⟨ok, ok ▸ not_not.mp order⟩

theorem assignStages_ok
    (ok : assignStages customClient catalog others sort crtc laid pstates = .ok result) :
    countStages catalog none 0 (compact customClient (sort.sort pstates)) = .ok result ∧
      validateSrcSplitOrder catalog.pipeOrderType result = 0 := by
  rw [assignStages] at ok
  by_cases dims : exclDimLayerCheck crtc ≠ 0
  · rw [if_pos dims] at ok
    cases ok
  · rw [if_neg dims] at ok
    cases counts : countStages catalog none 0 (compact customClient (sort.sort pstates)) with
    | error rc =>
      rw [counts] at ok
      cases ok
    | ok counted =>
      rw [counts] at ok
      obtain ⟨rfl, order⟩ := lastChecks_ok ok
      exact ⟨rfl, order⟩

theorem atomicCheck_ok
    (ok : atomicCheck customClient catalog others sort crtc planes.list = .ok result) :
    ∃ laid pstates, checkPlaneLayout crtc planes.list = .ok laid ∧
      collect catalog others crtc 0 laid = .ok pstates ∧
      assignStages customClient catalog others sort crtc laid pstates = .ok result := by
  rw [atomicCheck] at ok
  by_cases scaler : others.destScaler ≠ 0
  · rw [if_pos scaler] at ok
    cases ok
  · rw [if_neg scaler] at ok
    cases layouts : checkPlaneLayout crtc planes.list with
    | error rc =>
      rw [layouts] at ok
      cases ok
    | ok laid =>
      rw [layouts] at ok
      cases walk : collect catalog others crtc 0 laid with
      | error rc =>
        simp only [walk] at ok
        cases ok
      | ok pstates =>
        simp only [walk] at ok
        exact ⟨laid, pstates, rfl, walk, ok⟩

def staged (customClient : Bool) (catalog : Catalog) (planes : Planes crtc) (pstate : PState) :
    PState :=
  { pstate with
    stage := stageOf customClient planes.list pstate.plane.zpos
    sdeStage := stageOf customClient planes.list pstate.plane.zpos + incSdeStage catalog }

theorem result_of_counted (planes : Planes crtc)
    (origins : ((pstates.map PState.plane).map PlaneState.origin).Perm
      (planes.list.map PlaneState.origin))
    (same : ∀ pstate ∈ pstates, pstate.stage = pstate.plane.zpos)
    (counts : countStages catalog none 0 (compact customClient (sort.sort pstates)) = .ok result) :
    result = (sort.sort pstates).map (staged customClient catalog planes) ∧
      (∀ pstate ∈ result, pstate.stage < stageMax - stage0) ∧
      Sorted PState.slot result ∧ ∀ slot, tally PState.slot slot result ≤ 2 := by
  have perm := sort.perm pstates
  have stages : ∀ zpos, stageOf customClient ((sort.sort pstates).map PState.plane) zpos =
      stageOf customClient planes.list zpos :=
    stageOf_origins (((perm.map PState.plane).map PlaneState.origin).trans origins)
  have numbered := compact_eq customClient (sorted_zpos sort same) fun pstate member =>
    same pstate (perm.subset member)
  simp only [stages] at numbered
  rw [numbered] at counts
  obtain ⟨all, range, within⟩ := countStages_ok (Nat.zero_le 2) counts
  have slots : Sorted PState.slot ((sort.sort pstates).map fun pstate =>
      { pstate with stage := stageOf customClient planes.list pstate.plane.zpos }) := by
    refine sorted_slot sort fun a at_a high lt => ?_
    rw [← stages, ← stages]
    exact stageOf_strict customClient
      (List.mem_map_of_mem (f := PState.plane) (perm.symm.subset at_a)) lt
  -- the slots do not change any more
  have few := tally_le_of_runsWithin slots within
  refine ⟨?_, ?_, ?_, ?_⟩
  · rw [all, List.map_map]
    rfl
  · intro pstate member
    rw [all] at member
    obtain ⟨counted, at_counted, rfl⟩ := List.mem_map.mp member
    exact range counted at_counted
  · rw [all]
    exact List.pairwise_map.mpr slots
  · intro slot
    rw [all, tally, List.countP_map]
    exact few slot

theorem pairwise_abut (allWalked : ∀ pstate ∈ result, Walked catalog crtc pstate.plane)
    (sorted : Sorted PState.slot result) (few : ∀ slot, tally PState.slot slot result ≤ 2)
    (order : validateSrcSplitOrder catalog.pipeOrderType result = 0) :
    result.Pairwise fun a b => a.slot = b.slot → Abut a.plane b.plane := by
  refine pairwise_of_adjacent sorted few ?_
  refine (validateSrcSplitOrder_ok order).imp_of_mem_imp fun prv cur at_prv at_cur ok same => ?_
  exact neighbours_abut (allWalked prv at_prv) (allWalked cur at_cur) ok same

theorem passed_of_ok
    (ok : atomicCheck customClient catalog others sort crtc planes.list = .ok result) :
    Passed customClient catalog planes result := by
  obtain ⟨laid, pstates, layouts, walk, assigned⟩ := atomicCheck_ok ok
  obtain ⟨allLaid, origins⟩ := checkPlaneLayout_ok planes layouts
  have same_length : laid.length = planes.list.length := by
    have lengths := congrArg List.length origins
    rwa [List.length_map, List.length_map] at lengths
  obtain ⟨rfl, allWalked⟩ := collect_ok (by
    rw [Nat.zero_add, same_length]
    exact planes.length_le) walk
  obtain ⟨counts, order⟩ := assignStages_ok assigned
  have collected : (laid.map fun plane => (⟨plane, plane.zpos, plane.zpos⟩ : PState)).map
      PState.plane = laid := by
    rw [List.map_map]
    exact List.map_id laid
  obtain ⟨all, range, sorted, few⟩ := result_of_counted planes
    (by rw [collected, origins]) (fun pstate member => by
      obtain ⟨plane, -, rfl⟩ := List.mem_map.mp member
      rfl) counts
  have perm := sort.perm (laid.map fun plane => (⟨plane, plane.zpos, plane.zpos⟩ : PState))
  have planes_perm : (result.map PState.plane).Perm laid := by
    have same_planes := perm.map PState.plane
    rw [collected] at same_planes
    rw [all, List.map_map]
    exact same_planes
  have of_laid : ∀ pstate ∈ result, pstate.plane ∈ laid := fun pstate member =>
    planes_perm.subset (List.mem_map_of_mem member)
  have of_staged : ∀ pstate ∈ result, ∃ taken, pstate = staged customClient catalog
    planes taken := by
    intro pstate member
    rw [all] at member
    obtain ⟨taken, -, rfl⟩ := List.mem_map.mp member
    exact ⟨taken, rfl⟩
  have walked : ∀ pstate ∈ result, Walked catalog crtc pstate.plane := fun pstate member =>
    allWalked pstate.plane (of_laid pstate member)
  refine ⟨?_, fun pstate member => allLaid pstate.plane (of_laid pstate member), walked, ?_, ?_,
    range, few, pairwise_abut walked sorted few order⟩
  · have moved := planes_perm.map PlaneState.origin
    rw [List.map_map, origins] at moved
    exact moved
  · intro pstate member
    obtain ⟨taken, rfl⟩ := of_staged pstate member
    rfl
  · intro pstate member
    obtain ⟨taken, rfl⟩ := of_staged pstate member
    rfl

/-! ## What the passes amount to -/

structure Staged (catalog : Catalog) (planes : Planes crtc) (result : List PState) : Prop where
  all : (result.map fun pstate => pstate.plane.origin).Perm (planes.list.map PlaneState.origin)
  mono : ∀ a ∈ result, ∀ b ∈ result, a.plane.zpos ≤ b.plane.zpos → a.sdeStage ≤ b.sdeStage
  strict : ∀ a ∈ result, ∀ b ∈ result, a.plane.zpos < b.plane.zpos → a.sdeStage < b.sdeStage
  range : ∀ pstate ∈ result, pstate.sdeStage < stageMax
  few : ∀ layout stage, result.countP (PState.at layout stage) ≤ 2
  abut : result.Pairwise fun a b =>
    a.plane.layout = b.plane.layout → a.sdeStage = b.sdeStage → Abut a.plane b.plane
  dims : ∀ pstate ∈ result, ∀ dim ∈ crtc.dimLayers, dim.stage ≠ pstate.sdeStage
  span : ∀ split, crtc.layoutSplit = some split → ∀ pstate ∈ result,
    pstate.plane.layoutOffset = pstate.plane.layout * split ∧
      0 ≤ pstate.plane.crtcX ∧ pstate.plane.crtcX + pstate.plane.crtcW ≤ split
  columns : ∀ pstate ∈ result, 0 ≤ pstate.plane.globalX ∧
    pstate.plane.globalX + pstate.plane.crtcW ≤ crtc.adjustedMode.hdisplay
  rows : ∀ pstate ∈ result, 0 ≤ pstate.plane.crtcY ∧
    pstate.plane.crtcY + pstate.plane.crtcH ≤ crtc.adjustedMode.vdisplay

structure Entered (numMixers : ℕ) (stack : ℕ → ℕ → ℕ) (old : ℕ → StageCfg) (order : List PState)
    (mixing : Mixing) : Prop where
  holds : List.Forall₂ (Holds mixing.stageCfg) mixing.written order
  once : mixing.written.Nodup
  layouts : ∀ place ∈ mixing.written, place.layout < maxLayoutsPerCrtc
  stages : ∀ place ∈ mixing.written, place.stage < stageMax
  indices : ∀ place ∈ mixing.written, place.index < pipesPerStage
  counts : ∀ place ∈ mixing.written, cleared numMixers (fun _ => 0) stack place.layout = fun _ => 0
  configs : ∀ place ∈ mixing.written,
    cleared numMixers StageCfg.none old place.layout = StageCfg.none

def Apart (customClient : Bool) (catalog : Catalog) (planes : Planes crtc) : Prop :=
  customClient = true ∨ ∀ dim ∈ crtc.dimLayers, dim.stage < incSdeStage catalog ∨
    incSdeStage catalog + (planes.list.map PlaneState.zpos).dedup.length ≤ dim.stage

def Within (planes : Planes crtc) : Prop :=
  crtc.layoutSplit ≠ none → ∀ plane ∈ planes.list,
    plane.globalX + plane.crtcW ≤ crtc.adjustedMode.hdisplay

theorem mixers_of_layouts {split : ℕ} (at_split : crtc.layoutSplit = some split) :
    numMixers crtc.topologyName > maxMixersPerLayout := by
  rw [CrtcState.layoutSplit] at at_split
  cases name : crtc.topologyName with
  | triplepipe | triplepipeDsc | quadpipe3dmerge | quadpipeDscmerge | quadpipe3dmergeDsc
    | sixpipe3dmerge | sixpipeDscmerge => decide
  | _ =>
    rw [name] at at_split
    simp [isTriplePipe, isQuadPipe, isSixPipe] at at_split

variable {plane : PlaneState}

theorem Laid.layout_lt (laid : Laid crtc plane) : plane.layout < maxLayoutsPerCrtc := by
  cases at_split : crtc.layoutSplit with
  | none =>
    rw [(laid.whole at_split).1]
    decide
  | some split => exact (laid.split split at_split).1

namespace Passed

variable (passed : Passed customClient catalog planes result)
include passed

variable {pstate : PState}

theorem sdeStage_eq (member : pstate ∈ result) :
    pstate.sdeStage = stageOf customClient planes.list pstate.plane.zpos + incSdeStage catalog := by
  rw [passed.sdeStages pstate member, passed.stages pstate member]

theorem of_result (member : pstate ∈ result) :
    ∃ plane ∈ planes.list, plane.origin = pstate.plane.origin :=
  List.mem_map.mp
    (passed.origins.subset (List.mem_map_of_mem (f := fun p => p.plane.origin) member))

theorem of_planes (member : plane ∈ planes.list) :
    ∃ pstate ∈ result, pstate.plane.origin = plane.origin :=
  List.mem_map.mp (passed.origins.symm.subset (List.mem_map_of_mem member))

theorem range_sde (member : pstate ∈ result) : pstate.sdeStage < stageMax := by
  have below := passed.range pstate member
  have inc : incSdeStage catalog ≤ stage0 := by
    rw [incSdeStage]
    split
    · exact Nat.zero_le _
    · exact le_refl _
  rw [passed.sdeStages pstate member]
  omega

theorem few_at (layout stage : ℕ) : result.countP (PState.at layout stage) ≤ 2 := by
  refine le_trans (List.countP_mono_left fun pstate member at_slot => ?_)
    (passed.few (toLex (stage - incSdeStage catalog, layout)))
  rw [PState.at, Bool.and_eq_true, decide_eq_true_eq, decide_eq_true_eq,
    passed.sdeStages pstate member] at at_slot
  rw [decide_eq_true_eq, PState.slot, ← at_slot.1, ← at_slot.2, Nat.add_sub_cancel]

theorem dims_iff : (∀ pstate ∈ result, ∀ dim ∈ crtc.dimLayers, dim.stage ≠ pstate.sdeStage) ↔
    Apart customClient catalog planes := by
  have keys : (planes.list.map PlaneState.zpos).toFinset.card =
      (planes.list.map PlaneState.zpos).dedup.length := List.card_toFinset _
  constructor
  · intro dims
    cases customClient with
    | true => exact .inl rfl
    | false =>
      refine .inr fun dim at_dim => ?_
      by_contra inside
      obtain ⟨low, high⟩ := not_or.mp inside
      -- some z position has the number of the dim layer
      obtain ⟨plane, at_plane, number⟩ := exists_rank PlaneState.zpos planes.list
        (n := dim.stage - incSdeStage catalog) (by omega)
      obtain ⟨pstate, member, same⟩ := passed.of_planes at_plane
      have zpos := zpos_of_origin same
      refine dims pstate member dim at_dim ?_
      rw [passed.sdeStage_eq member, stageOf, if_neg Bool.false_ne_true, zpos, number]
      omega
  · intro apart pstate member dim at_dim same
    cases customClient with
    | true =>
      refine (passed.walked pstate member).dims dim at_dim ?_
      rw [same, passed.sdeStage_eq member, stageOf, if_pos rfl]
    | false =>
      obtain ⟨plane, at_plane, origin⟩ := passed.of_result member
      have zpos := zpos_of_origin origin
      have below := rank_lt_card PlaneState.zpos at_plane
      rw [passed.sdeStage_eq member, stageOf, if_neg Bool.false_ne_true, ← zpos] at same
      cases apart.resolve_left Bool.false_ne_true dim at_dim with
      | inl low => omega
      | inr high => omega

theorem columns_iff : (∀ pstate ∈ result, 0 ≤ pstate.plane.globalX ∧
      pstate.plane.globalX + pstate.plane.crtcW ≤ crtc.adjustedMode.hdisplay) ↔ Within planes := by
  constructor
  · intro columns _ plane at_plane
    obtain ⟨pstate, member, same⟩ := passed.of_planes at_plane
    obtain ⟨column, width⟩ := columns_of_origin same
    rw [← column, ← width]
    exact (columns pstate member).2
  · intro within pstate member
    have laid := passed.laid pstate member
    have walked := (passed.walked pstate member).columns
    cases at_split : crtc.layoutSplit with
    | none =>
      have no_offset := (laid.whole at_split).2
      rw [PlaneState.globalX, no_offset, Int.zero_add]
      exact walked
    | some split =>
      obtain ⟨-, offset, left, -⟩ := laid.split split at_split
      obtain ⟨plane, at_plane, origin⟩ := passed.of_result member
      obtain ⟨column, width⟩ := columns_of_origin origin
      constructor
      · rw [PlaneState.globalX, offset]
        have nonneg := Int.natCast_nonneg (pstate.plane.layout * split)
        push_cast at nonneg
        omega
      · rw [← column, ← width]
        exact within (by rw [at_split]; exact Option.some_ne_none split) plane at_plane

theorem staged_iff : Staged catalog planes result ↔
    Apart customClient catalog planes ∧ Within planes := by
  refine ⟨fun staged => ⟨passed.dims_iff.mp staged.dims, passed.columns_iff.mp staged.columns⟩,
    fun ⟨apart, within⟩ => ?_⟩
  refine ⟨passed.origins, fun a at_a b at_b le => ?_, fun a at_a b at_b lt => ?_,
    fun _ => passed.range_sde, passed.few_at, ?_, passed.dims_iff.mpr apart,
    fun split at_split pstate member => ((passed.laid pstate member).split split at_split).2,
    passed.columns_iff.mpr within, fun pstate member => (passed.walked pstate member).rows⟩
  · rw [passed.sdeStage_eq at_a, passed.sdeStage_eq at_b]
    exact Nat.add_le_add_right (stageOf_mono customClient planes.list le) _
  · obtain ⟨plane, at_plane, origin⟩ := passed.of_result at_a
    have zpos := zpos_of_origin origin
    rw [passed.sdeStage_eq at_a, passed.sdeStage_eq at_b, ← zpos]
    exact Nat.add_lt_add_right (stageOf_strict customClient at_plane (zpos ▸ lt)) _
  · refine passed.abut.imp_of_mem fun {a b} at_a at_b abut layout stage => abut ?_
    rw [passed.sdeStages a at_a, passed.sdeStages b at_b] at stage
    rw [PState.slot, PState.slot, layout, Nat.add_right_cancel stage]

theorem zeroed (member : pstate ∈ result) :
    Zeroed (numMixers crtc.topologyName) pstate.plane.layout := by
  have laid := passed.laid pstate member
  cases at_split : crtc.layoutSplit with
  | none => exact .inr (laid.whole at_split).1
  | some split => exact .inl (mixers_of_layouts at_split)

theorem entered (stack : ℕ → ℕ → ℕ) (old : ℕ → StageCfg) {order : List PState}
    (perm : order.Perm result) :
    Entered (numMixers crtc.topologyName) stack old order
      (blendSetupMixer (numMixers crtc.topologyName) stack old order) := by
  have entering := entering_blendSetupMixer (numMixers crtc.topologyName) stack old order
  have start : ∀ pstate ∈ order, Zeroed (numMixers crtc.topologyName) pstate.plane.layout :=
    fun pstate member => passed.zeroed (perm.subset member)
  refine ⟨entering.holds, entering.nodup, fun place written => ?_, fun place written => ?_,
    fun place => entering.index_lt start fun layout stage => ?_, fun place written => ?_,
    fun place written => ?_⟩
  · obtain ⟨pstate, member, holds⟩ := entering.exists_held written
    rw [holds.layout]
    exact (passed.laid pstate (perm.subset member)).layout_lt
  · obtain ⟨pstate, member, holds⟩ := entering.exists_held written
    rw [holds.stage]
    exact passed.range_sde (perm.subset member)
  · rw [perm.countP_eq]
    exact (passed.few_at layout stage).trans (by decide)
  · obtain ⟨pstate, member, holds⟩ := entering.exists_held written
    exact cleared_zeroed (holds.layout ▸ start pstate member) _ stack
  · obtain ⟨pstate, member, holds⟩ := entering.exists_held written
    exact cleared_zeroed (holds.layout ▸ start pstate member) _ old

end Passed

/-- The staging of an accepted set of planes is sound exactly where the dim layers are apart and no
    plane reaches over the edge of the mode; the planes are then entered at places of their own. -/
theorem staging_sound_iff
    (ok : atomicCheck customClient catalog others sort crtc planes.list = .ok result) :
    (Staged catalog planes result ∧ ∀ stack old order, order.Perm result →
      Entered (numMixers crtc.topologyName) stack old order
        (blendSetupMixer (numMixers crtc.topologyName) stack old order)) ↔
      Apart customClient catalog planes ∧ Within planes := by
  have passed := passed_of_ok ok
  refine ⟨fun sound => passed.staged_iff.mp sound.1, fun conditions => ?_⟩
  exact ⟨passed.staged_iff.mpr conditions, fun stack old order perm =>
    passed.entered stack old perm⟩

/-! ## One plane in two layouts -/

theorem pstateCmp_total (a b : PState) : pstateCmp a b ≤ 0 ∨ pstateCmp b a ≤ 0 := by
  rw [pstateCmp, pstateCmp]
  by_cases zpos : a.plane.zpos = b.plane.zpos
  · by_cases layout : a.plane.layout = b.plane.layout
    · simp only [zpos, layout, ne_eq, not_true, if_false]
      omega
    · simp only [zpos, layout, Ne.symm layout, ne_eq, not_true, not_false_eq_true,
        if_false, if_true]
      omega
  · simp only [zpos, Ne.symm zpos, ne_eq, not_false_eq_true, if_true]
    omega

theorem pstateCmp_trans {a b c : PState} (ab : pstateCmp a b ≤ 0) (bc : pstateCmp b c ≤ 0) :
    pstateCmp a c ≤ 0 := by
  simp only [pstateCmp] at *
  grind

instance : Std.Total fun a b => pstateCmp a b ≤ 0 := ⟨pstateCmp_total⟩

instance : IsTrans PState fun a b => pstateCmp a b ≤ 0 := ⟨fun _ _ _ => pstateCmp_trans⟩

def insertionSorted : KernelSort where
  sort := List.insertionSort fun a b => pstateCmp a b ≤ 0
  perm := List.perm_insertionSort _
  sorted := List.pairwise_insertionSort _

def quadCrtc : CrtcState where
  topologyName := .quadpipe3dmerge
  mode := ⟨1000, 100, by decide, by decide⟩
  adjustedMode := ⟨1000, 100, by decide, by decide⟩
  dimLayers := []

def tenColumns (x : Int) : PlaneState where
  id := 0
  pipe := .vig0
  isVirtual := false
  zpos := 0
  crtcX := x
  crtcY := 0
  crtcW := 10
  crtcH := 10
  layout := 0
  layoutOffset := 0
  multirectIndex := .rectSolo
  existing := true

def alone (x : Int) : Planes quadCrtc where
  list := [tenColumns x]
  distinct := List.nodup_singleton _
  fresh := fun plane member _ => by
    rw [List.mem_singleton.mp member]
    exact ⟨rfl, rfl⟩
  kept := fun plane member existing => by
    rw [List.mem_singleton.mp member] at existing
    cases existing

def noOthers : Others := ⟨0, fun _ => 0, fun _ => false, fun _ => 0, fun _ => 0, fun _ => 0⟩

/-- A plane to the right of the mode is accepted, in a third layout. -/
theorem accepts_third_layout :
    ∃ result, atomicCheck false ⟨false, false⟩ noOthers insertionSorted quadCrtc (alone 1000).list =
      .ok result ∧ ¬Staged ⟨false, false⟩ (alone 1000) result := by
  refine ⟨[⟨{ tenColumns 0 with layout := 2, layoutOffset := 1000 }, 0, 1⟩], rfl, fun staged => ?_⟩
  have columns := (staged.columns _ (List.mem_singleton_self _)).2
  revert columns
  decide

def dimmedCrtc : CrtcState := { quadCrtc with dimLayers := [⟨0, 0, 1000, 100, 5⟩] }

/-- Two planes side by side in one stage, and one above them in the second layout. -/
def threePlanes : Planes dimmedCrtc where
  list := [{ tenColumns 600 with id := 2, pipe := .dma0, zpos := 1 },
    { tenColumns 110 with id := 1, pipe := .vig1 }, tenColumns 100]
  distinct := by decide
  fresh := fun plane member _ => by
    simp only [List.mem_cons, List.not_mem_nil, or_false] at member
    obtain rfl | rfl | rfl := member <;> exact ⟨rfl, rfl⟩
  kept := fun plane member existing => by
    simp only [List.mem_cons, List.not_mem_nil, or_false] at member
    obtain rfl | rfl | rfl := member <;> cases existing

def threePStates : List PState :=
  [⟨tenColumns 100, 0, 1⟩, ⟨{ tenColumns 110 with id := 1, pipe := .vig1 }, 0, 1⟩,
    ⟨{ tenColumns 100 with id := 2, pipe := .dma0, zpos := 1, layout := 1, layoutOffset := 500 }, 1,
      2⟩]

/-- They are accepted, and both conditions hold. -/
theorem staging_sound_three_planes :
    atomicCheck false ⟨false, false⟩ noOthers insertionSorted dimmedCrtc threePlanes.list =
        .ok threePStates ∧
      Staged ⟨false, false⟩ threePlanes threePStates ∧
      ∀ stack old order, order.Perm threePStates →
        Entered (numMixers dimmedCrtc.topologyName) stack old order
          (blendSetupMixer (numMixers dimmedCrtc.topologyName) stack old order) := by
  have conditions : Apart false ⟨false, false⟩ threePlanes ∧ Within threePlanes := by
    refine ⟨.inr fun dim member => ?_, fun _ plane member => ?_⟩
    · rw [List.mem_singleton.mp member]
      decide
    · simp only [threePlanes, List.mem_cons, List.not_mem_nil, or_false] at member
      obtain rfl | rfl | rfl := member <;> decide
  exact ⟨rfl,
    (@staging_sound_iff false ⟨false, false⟩ noOthers insertionSorted dimmedCrtc threePlanes
    threePStates rfl).mpr conditions⟩

end DisplayDrivers.Blend
