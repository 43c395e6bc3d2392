import DisplayDrivers.Blend.Staging
import Mathlib.Data.Prod.Lex
import Mathlib.Algebra.Order.Ring.Int

/-! # What an accepted set of planes satisfies

Each pass in turn: the positions and the layouts, what the walk over the planes has checked, the
order of the sorted array, the stages as a function of the z positions, the count of each stage, and
the planes that share one.
-/

namespace DisplayDrivers.Blend

open DisplayDrivers.Ctl (Sspp stageMax)
open DisplayDrivers.Lib.Grouped

/-! ## Positions -/

def PlaneState.globalX (plane : PlaneState) : Int := plane.layoutOffset + plane.crtcX

def PlaneState.origin (plane : PlaneState) : PlaneState :=
  { plane with layout := 0, layoutOffset := 0, crtcX := plane.globalX }

structure Laid (crtc : CrtcState) (plane : PlaneState) : Prop where
  whole : crtc.layoutSplit = none → plane.layout = 0 ∧ plane.layoutOffset = 0
  split : ∀ split, crtc.layoutSplit = some split →
    plane.layout < maxLayoutsPerCrtc ∧ plane.layoutOffset = plane.layout * split ∧
      0 ≤ plane.crtcX ∧ plane.crtcX + plane.crtcW ≤ split

/-- One plane object for each pipe and rectangle; a plane that is not part of the atomic state has
    kept the layout that it was given in this topology. -/
structure Planes (crtc : CrtcState) where
  list : List PlaneState
  distinct : (list.map fun plane => (plane.pipe, plane.isVirtual)).Nodup
  fresh : ∀ plane ∈ list, plane.existing = true → plane.layout = 0 ∧ plane.layoutOffset = 0
  kept : ∀ plane ∈ list, plane.existing = false → Laid crtc plane

section Layout

variable {crtc : CrtcState} {plane laid : PlaneState}

theorem checkLayerBounds_ok {offset : Int} {size max : ℕ} :
    checkLayerBounds offset size max = false ↔ 0 ≤ offset ∧ offset + size ≤ max := by
  simp only [checkLayerBounds, Bool.or_eq_false_iff, decide_eq_false_iff_not]
  omega

theorem layoutPlane_ok {split : ℕ} (at_split : crtc.layoutSplit = some split)
    (fresh : plane.existing = true → plane.layout = 0 ∧ plane.layoutOffset = 0)
    (kept : plane.existing = false → Laid crtc plane) (ok : layoutPlane split plane = .ok laid) :
    Laid crtc laid ∧ laid.origin = plane.origin := by
  rw [layoutPlane] at ok
  cases existing : plane.existing with
  | false =>
    simp only [existing, Bool.not_false, if_true, Except.ok.injEq] at ok
    rw [← ok]
    exact ⟨kept existing, rfl⟩
  | true =>
    simp only [existing, Bool.not_true, Bool.false_eq_true, if_false] at ok
    by_cases outside : plane.crtcX.tdiv split < 0 ∨ plane.crtcX.tdiv split ≥ maxLayoutsPerCrtc
    · rw [if_pos outside] at ok
      cases ok
    · rw [if_neg outside] at ok
      obtain ⟨nonneg, below⟩ := not_or.mp outside
      cases bounds : checkLayerBounds (plane.crtcX - plane.crtcX.tdiv split * split)
        plane.crtcW split with
      | true =>
        rw [if_pos bounds] at ok
        cases ok
      | false =>
        rw [if_neg (ne_true_of_eq_false bounds), Except.ok.injEq] at ok
        obtain ⟨left, right⟩ := checkLayerBounds_ok.mp bounds
        obtain ⟨-, no_offset⟩ := fresh existing
        rw [← ok]
        constructor
        · refine ⟨fun whole => ?_, fun other at_other => ?_⟩
          · rw [whole] at at_split
            cases at_split
          · rw [at_split, Option.some.injEq] at at_other
            rw [← at_other]
            refine ⟨?_, ?_, left, right⟩
            · dsimp only
              omega
            · dsimp only
              rw [Int.toNat_of_nonneg (by omega)]
        · have column : plane.crtcX.tdiv split *
            split + (plane.crtcX - plane.crtcX.tdiv split * split) =
              plane.layoutOffset + plane.crtcX := by omega
          simp only [PlaneState.origin, PlaneState.globalX, column, existing]

theorem mapM_layoutPlane_ok {split : ℕ} (at_split : crtc.layoutSplit = some split)
    {planes laid : List PlaneState}
    (fresh : ∀ plane ∈ planes, plane.existing = true → plane.layout = 0 ∧ plane.layoutOffset = 0)
    (kept : ∀ plane ∈ planes, plane.existing = false → Laid crtc plane)
    (ok : planes.mapM (layoutPlane split) = .ok laid) :
    (∀ plane ∈ laid, Laid crtc plane) ∧ laid.map PlaneState.origin =
    planes.map PlaneState.origin := by
  induction planes generalizing laid with
  | nil =>
    cases ok
    exact ⟨List.forall_mem_nil _, rfl⟩
  | cons plane planes ih =>
    rw [List.forall_mem_cons] at fresh kept
    rw [List.mapM_cons] at ok
    cases first : layoutPlane split plane with
    | error rc =>
      rw [first] at ok
      cases ok
    | ok moved =>
      cases others : planes.mapM (layoutPlane split) with
      | error rc =>
        rw [first, others] at ok
        cases ok
      | ok rest =>
        rw [first, others] at ok
        cases ok
        obtain ⟨here, origin⟩ := layoutPlane_ok at_split fresh.1 kept.1 first
        obtain ⟨laidRest, origins⟩ := ih fresh.2 kept.2 others
        refine ⟨List.forall_mem_cons.mpr ⟨here, laidRest⟩, ?_⟩
        rw [List.map_cons, List.map_cons, origin, origins]

theorem checkPlaneLayout_ok (planes : Planes crtc) {laid : List PlaneState}
    (ok : checkPlaneLayout crtc planes.list = .ok laid) :
    (∀ plane ∈ laid, Laid crtc plane) ∧
      laid.map PlaneState.origin = planes.list.map PlaneState.origin := by
  rw [checkPlaneLayout] at ok
  cases at_split : crtc.layoutSplit with
  | none =>
    rw [at_split] at ok
    cases ok
    refine ⟨fun plane member => ?_, rfl⟩
    cases existing : plane.existing with
    | false => exact planes.kept plane member existing
    | true =>
      refine ⟨fun _ => planes.fresh plane member existing, fun split at_other => ?_⟩
      rw [at_split] at at_other
      cases at_other
  | some split =>
    rw [at_split] at ok
    exact mapM_layoutPlane_ok at_split planes.fresh planes.kept ok

end Layout

/-! ## The walk over the planes -/

section Walk

variable {crtc : CrtcState} {catalog : Catalog} {others : Others}

structure Walked (catalog : Catalog) (crtc : CrtcState) (plane : PlaneState) : Prop where
  dims : ∀ dim ∈ crtc.dimLayers, dim.stage ≠ plane.zpos + incSdeStage catalog
  rows : 0 ≤ plane.crtcY ∧ plane.crtcY + plane.crtcH ≤ crtc.adjustedMode.vdisplay
  columns : 0 ≤ plane.crtcX ∧ plane.crtcX + plane.crtcW ≤ crtc.adjustedMode.hdisplay

theorem collect_ok {planes : List PlaneState} {cnt : ℕ} {pstates : List PState}
    (room : cnt + planes.length ≤ pstatesMax)
    (ok : collect catalog others crtc cnt planes = .ok pstates) :
    pstates = planes.map (fun plane => ⟨plane, plane.zpos, plane.zpos⟩) ∧
      ∀ plane ∈ planes, Walked catalog crtc plane := by
  induction planes generalizing cnt pstates with
  | nil =>
    cases ok
    exact ⟨rfl, List.forall_mem_nil _⟩
  | cons plane planes ih =>
    rw [List.length_cons] at room
    rw [collect] at ok
    by_cases rsvps : (!plane.existing && decide (others.hwRsvps plane ≠ 0)) = true
    · rw [if_pos rsvps] at ok
      cases ok
    · rw [if_neg rsvps, if_neg (by omega)] at ok
      by_cases dims : (crtc.dimLayers.any fun dim =>
          decide (dim.stage = plane.zpos + incSdeStage catalog)) = true
      · rw [if_pos dims] at ok
        cases ok
      · rw [if_neg dims] at ok
        by_cases bounds : (checkLayerBounds plane.crtcY plane.crtcH crtc.adjustedMode.vdisplay ||
            checkLayerBounds plane.crtcX plane.crtcW crtc.adjustedMode.hdisplay) = true
        · rw [if_pos bounds] at ok
          cases ok
        · rw [if_neg bounds] at ok
          by_cases over_mixer : others.overMixer plane = true
          · rw [if_pos over_mixer] at ok
            cases ok
          · rw [if_neg over_mixer] at ok
            cases rest : collect catalog others crtc (cnt + 1) planes with
            | error rc =>
              rw [rest] at ok
              cases ok
            | ok taken =>
              rw [rest] at ok
              cases ok
              obtain ⟨all, walked⟩ := ih (by omega) rest
              refine ⟨by rw [all]; rfl, List.forall_mem_cons.mpr ⟨⟨?_, ?_, ?_⟩, walked⟩⟩
              · intro dim member same
                exact dims (List.any_eq_true.mpr ⟨dim, member, by simp [same]⟩)
              · exact checkLayerBounds_ok.mp (by simp at bounds; exact bounds.1)
              · exact checkLayerBounds_ok.mp (by simp at bounds; exact bounds.2)

def allPipes : List Sspp :=
  [.none, .vig0, .vig1, .vig2, .vig3, .rgb0, .rgb1, .rgb2, .rgb3, .dma0, .dma1, .dma2,
    .dma3, .cursor0,
    .cursor1]

theorem length_le_of_distinct {keys : List (Sspp × Bool)} (distinct : keys.Nodup) :
    keys.length ≤ pstatesMax := by
  have listed : ∀ pipe : Sspp, pipe ∈ allPipes := by
    intro pipe
    cases pipe with
    | _ => simp [allPipes]
  have within : keys ⊆ allPipes.flatMap fun pipe => [(pipe, true), (pipe, false)] := by
    intro key _
    refine List.mem_flatMap.mpr ⟨key.1, listed key.1, ?_⟩
    cases key with
    | mk pipe isVirtual => cases isVirtual with
      | true => exact .head _
      | false => exact .tail _ (.head _)
  exact (distinct.subperm within).length_le.trans (by decide)

theorem Planes.length_le (planes : Planes crtc) : planes.list.length ≤ pstatesMax := by
  have few := length_le_of_distinct planes.distinct
  rwa [List.length_map] at few

end Walk

/-! ## The stages -/

section Stages

variable {pstates : List PState}

def stageOf (customClient : Bool) (planes : List PlaneState) (zpos : ℕ) : ℕ :=
  if customClient then zpos else rank PlaneState.zpos planes zpos

theorem stageOf_mono (customClient : Bool) (planes : List PlaneState) {low high : ℕ}
    (le : low ≤ high) : stageOf customClient planes low ≤ stageOf customClient planes high := by
  rw [stageOf, stageOf]
  split
  · exact le
  · exact rank_le planes le

theorem stageOf_strict (customClient : Bool) {planes : List PlaneState} {plane : PlaneState}
    (member : plane ∈ planes) {high : ℕ} (lt : plane.zpos < high) :
    stageOf customClient planes plane.zpos < stageOf customClient planes high := by
  rw [stageOf, stageOf]
  split
  · exact lt
  · exact rank_lt member lt

theorem rank_plane (k : ℕ) (same : ∀ pstate ∈ pstates, pstate.stage = pstate.plane.zpos) :
    rank PState.stage pstates k = rank PlaneState.zpos (pstates.map PState.plane) k := by
  have keys : pstates.map PState.stage = (pstates.map PState.plane).map PlaneState.zpos := by
    rw [List.map_map]
    exact List.map_congr_left same
  rw [rank, rank, keys]

theorem compact_eq (customClient : Bool) (sorted : Sorted PState.stage pstates)
    (same : ∀ pstate ∈ pstates, pstate.stage = pstate.plane.zpos) :
    compact customClient pstates = pstates.map fun pstate =>
      { pstate with
        stage := stageOf customClient (pstates.map PState.plane) pstate.plane.zpos } := by
  rw [compact]
  cases customClient with
  | true =>
    rw [if_pos rfl]
    refine (List.map_id pstates).symm.trans (List.map_congr_left fun pstate member => ?_)
    rw [stageOf, if_pos rfl, ← same pstate member]
    rfl
  | false =>
    rw [if_neg Bool.false_ne_true]
    cases pstates with
    | nil => rfl
    | cons first pstates =>
      rw [List.head?_cons, Option.elim_some, renumber_rank sorted, List.map_map]
      refine List.map_congr_left fun pstate member => ?_
      rw [Function.comp_apply, stageOf, if_neg Bool.false_ne_true, rank_plane _ same,
        same pstate member]

def PState.slot (pstate : PState) : ℕ ×ₗ ℕ := toLex (pstate.stage, pstate.plane.layout)

theorem countStages_ok {catalog : Catalog} {slot : Option (ℕ × ℕ)} {zposCnt : ℕ}
    {counted : List PState} (start : zposCnt ≤ 2)
    (ok : countStages catalog slot zposCnt pstates = .ok counted) :
    counted = pstates.map (fun pstate =>
        { pstate with sdeStage := pstate.stage + incSdeStage catalog }) ∧
      (∀ pstate ∈ pstates, pstate.stage < stageMax - stage0) ∧
      runsWithin PState.slot 2 (slot.map toLex) zposCnt pstates = true := by
  induction pstates generalizing slot zposCnt counted with
  | nil =>
    cases ok
    exact ⟨rfl, List.forall_mem_nil _, rfl⟩
  | cons pstate pstates ih =>
    rw [countStages] at ok
    by_cases high : pstate.stage ≥ stageMax - stage0
    · rw [if_pos high] at ok
      cases ok
    · rw [if_neg high] at ok
      -- the two ways to compare the slot of the last plane
      have same_slot : slot.map toLex = some pstate.slot ↔
          slot = some (pstate.stage, pstate.plane.layout) := by
        cases slot with
        | none => simp
        | some last => simp [PState.slot]
      rw [runsWithin]
      simp only [same_slot]
      have count : (if slot = some (pstate.stage, pstate.plane.layout) then zposCnt
        else 0) ≤ 2 := by
        split
        · exact start
        · exact Nat.zero_le 2
      by_cases full : (if slot = some (pstate.stage, pstate.plane.layout) then zposCnt else 0) = 2
      · rw [if_pos full] at ok
        cases ok
      · rw [if_neg full] at ok
        cases rest : countStages catalog (some (pstate.stage, pstate.plane.layout))
            ((if slot = some (pstate.stage, pstate.plane.layout) then zposCnt else 0) + 1)
              pstates with
        | error rc =>
          rw [rest] at ok
          cases ok
        | ok taken =>
          rw [rest] at ok
          cases ok
          obtain ⟨all, below, within⟩ := ih (by omega) rest
          refine ⟨by rw [all]; rfl, List.forall_mem_cons.mpr ⟨by omega, below⟩, ?_⟩
          rw [Bool.and_eq_true, decide_eq_true_eq]
          exact ⟨by omega, within⟩

end Stages

/-! ## Planes that share a stage -/

structure Abut (a b : PlaneState) : Prop where
  row : a.crtcY = b.crtcY
  height : a.crtcH = b.crtcH
  column : b.crtcX = a.crtcX + a.crtcW ∨ a.crtcX = b.crtcX + b.crtcW

section Pairs

variable {crtc : CrtcState} {catalog : Catalog} {pstates : List PState}

theorem u16_id {n : Int} (nonneg : 0 ≤ n) (below : n < 65536) : u16 n = n :=
  Int.emod_eq_of_lt nonneg below

theorem Walked.u16 {plane : PlaneState} (walked : Walked catalog crtc plane) :
    Blend.u16 plane.crtcX = plane.crtcX ∧ Blend.u16 plane.crtcY = plane.crtcY ∧
      Blend.u16 plane.crtcW = plane.crtcW ∧ Blend.u16 plane.crtcH = plane.crtcH := by
  obtain ⟨-, ⟨top, bottom⟩, left, right⟩ := walked
  have h16 := crtc.adjustedMode.h16
  have v16 := crtc.adjustedMode.v16
  exact ⟨u16_id left (by omega), u16_id top (by omega), u16_id (by omega) (by omega),
    u16_id (by omega) (by omega)⟩

variable {pipeOrderType : Bool}

theorem sideBySide_abut {left right : PlaneState}
    (walkedLeft : Walked catalog crtc left) (walkedRight : Walked catalog crtc right)
    (ok : sideBySide pipeOrderType left right = true) :
    right.crtcX = left.crtcX + left.crtcW ∧ left.crtcY = right.crtcY ∧
    left.crtcH = right.crtcH := by
  obtain ⟨leftX, leftY, leftW, leftH⟩ := walkedLeft.u16
  obtain ⟨rightX, rightY, -, rightH⟩ := walkedRight.u16
  simp only [sideBySide, Bool.and_eq_true, decide_eq_true_eq] at ok
  rw [leftX, leftY, leftW, leftH, rightX, rightY, rightH] at ok
  exact ⟨ok.1.2, ok.2.1, by exact_mod_cast ok.2.2⟩

theorem neighbours_abut {prv cur : PState}
    (walkedPrv : Walked catalog crtc prv.plane) (walkedCur : Walked catalog crtc cur.plane)
    (ok : neighbours pipeOrderType prv cur = true) (same : prv.slot = cur.slot) :
    Abut prv.plane cur.plane := by
  have slot : (prv.stage, prv.plane.layout) = (cur.stage, cur.plane.layout) := same
  obtain ⟨stage, layout⟩ := Prod.mk.inj slot
  rw [neighbours, if_neg (by simp [stage, layout])] at ok
  split at ok
  · obtain ⟨column, row, height⟩ := sideBySide_abut walkedCur walkedPrv ok
    exact ⟨row.symm, height.symm, .inr column⟩
  · obtain ⟨column, row, height⟩ := sideBySide_abut walkedPrv walkedCur ok
    exact ⟨row, height, .inl column⟩

theorem validateSrcSplitOrder_ok (ok : validateSrcSplitOrder pipeOrderType pstates = 0) :
    pstates.IsChain fun prv cur => neighbours pipeOrderType prv cur = true := by
  induction pstates with
  | nil => exact .nil
  | cons prv pstates ih =>
    cases pstates with
    | nil => exact .singleton prv
    | cons cur pstates =>
      rw [validateSrcSplitOrder] at ok
      by_cases here : neighbours pipeOrderType prv cur = true
      · rw [if_pos here] at ok
        exact List.isChain_cons_cons.mpr ⟨here, ih ok⟩
      · rw [if_neg here] at ok
        cases ok

end Pairs

/-! ## The order of the array -/

section Order

theorem pstateCmp_le {a b : PState} (le : pstateCmp a b ≤ 0) :
    a.plane.zpos < b.plane.zpos ∨ a.plane.zpos = b.plane.zpos ∧
    a.plane.layout ≤ b.plane.layout := by
  rw [pstateCmp] at le
  split at le
  · omega
  · split at le
    · omega
    · omega

variable {pstates : List PState}

theorem sorted_zpos (sort : KernelSort)
    (same : ∀ pstate ∈ pstates, pstate.stage = pstate.plane.zpos) :
    Sorted PState.stage (sort.sort pstates) := by
  refine (sort.sorted pstates).imp_of_mem fun {a b} at_a at_b le => ?_
  rw [same a ((sort.perm pstates).subset at_a), same b ((sort.perm pstates).subset at_b)]
  cases pstateCmp_le le with
  | inl lt => exact lt.le
  | inr eq => exact eq.1.le

theorem sorted_slot (sort : KernelSort) {f : ℕ → ℕ} (zposes : ∀ a ∈ pstates, ∀ high,
    a.plane.zpos < high → f a.plane.zpos < f high) :
    Sorted PState.slot ((sort.sort pstates).map fun pstate =>
      { pstate with stage := f pstate.plane.zpos }) := by
  refine List.pairwise_map.mpr ((sort.sorted pstates).imp_of_mem fun {a b} at_a _ le => ?_)
  refine Prod.Lex.le_iff.mpr ?_
  cases pstateCmp_le le with
  | inl lt => exact .inl (zposes a ((sort.perm pstates).subset at_a) _ lt)
  | inr eq => exact .inr ⟨congrArg f eq.1, eq.2⟩

end Order

end DisplayDrivers.Blend
