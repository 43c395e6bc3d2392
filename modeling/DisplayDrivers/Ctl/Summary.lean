import DisplayDrivers.Ctl.Flush
import DisplayDrivers.Lib.Run
import Mathlib.Data.List.GetD

/-! # No flush request is lost

The bit of a group in `pending_flush_mask` is set exactly when the group has pending flushes, so
that `sde_hw_ctl_trigger_flush_v1` writes the register of every group with a request.
-/

namespace DisplayDrivers.Ctl

open DisplayDrivers.Lib
open DisplayDrivers.Lib.TwoLevel

/-- The `update_bitmask_*` operations of a CTL with `SDE_CTL_ACTIVE_CFG`. -/
inductive Block
  | sspp (sspp : ℕ)
  | mixer (lm : ℕ)
  | dspp (dspp : ℕ)
  | dsppPavlut (dspp : ℕ)
  | rot (rot : ℕ)
  | wb (wb : ℕ)
  | intf (intf : ℕ)
  | periph (intf : ℕ)
  | dsc (dsc : ℕ)
  | merge3d (merge3d : ℕ)
  | cdm (cdm : ℕ)
  | cwb (cwb : ℕ)

def Block.updateBitmask : Block → Bool → FlushCfg → Except Errno FlushCfg
  | .sspp id => updateBitmaskSspp id
  | .mixer id => updateBitmaskMixer id
  | .dspp id => updateBitmaskDspp id
  | .dsppPavlut id => updateBitmaskDsppPavlut id
  | .rot id => updateBitmaskRot id
  | .wb id => updateBitmaskWbV1 id
  | .intf id => updateBitmaskIntfV1 id
  | .periph id => updateBitmaskPeriphV1 id
  | .dsc id => updateBitmaskDscV1 id
  | .merge3d id => updateBitmaskMerge3dV1 id
  | .cdm id => updateBitmaskCdmV1 id
  | .cwb id => updateBitmaskCwbV1 id

structure Ctls where
  flush : ℕ → FlushCfg
  obtained : List FlushCfg

/-- Operations on a CTL.  `updatePendingFlush` is given one of the obtained configurations, by its
    number; a number that does not exist stands for a NULL pointer. -/
inductive Call
  | updateBitmask (ctl : ℕ) (block : Block) (enable : Bool)
  | getPendingFlush (ctl : ℕ)
  | updatePendingFlush (ctl : ℕ) (cfg : ℕ)
  | resetPostDisable (ctl : ℕ) (cfg : IntfCfgV1) (merge3dIdx : Fin 4)
  | clearPendingFlush (ctl : ℕ)
  | triggerRotStart (ctl : ℕ)

def Ctls.set (s : Ctls) (ctl : ℕ) (flush : FlushCfg) : Ctls :=
  { s with flush := fun other => if other = ctl then flush else s.flush other }

def Ctls.step (s : Ctls) : Call → Ctls
  | .updateBitmask ctl block enable =>
    match block.updateBitmask enable (s.flush ctl) with
    | .error _ => s
    | .ok flush => s.set ctl flush
  | .getPendingFlush ctl => { s with obtained := s.obtained ++ [s.flush ctl] }
  | .updatePendingFlush ctl cfg =>
    match s.obtained[cfg]? with
    | none => s
    | some cfg => s.set ctl (updatePendingFlushV1 (s.flush ctl) cfg)
  | .resetPostDisable ctl cfg merge3dIdx =>
    s.set ctl (resetPostDisable cfg merge3dIdx (s.flush ctl))
  | .clearPendingFlush ctl => s.set ctl clearPendingFlush
  | .triggerRotStart ctl => s.set ctl (triggerRotStart (s.flush ctl))

/-- CTLs as `sde_hw_ctl_init` leaves them. -/
def Ctls.init : Ctls := { flush := fun _ => Masks.empty, obtained := [] }

def NoneLost (s : Ctls) : Prop :=
  ∀ ctl, Summarised Group.idx (s.flush ctl) ∧
    ∀ g, (s.flush ctl).group g ≠ 0#32 →
      (.group g, (s.flush ctl).group g) ∈ triggerFlushV1 (s.flush ctl)

def ResetShown (flush : FlushCfg) (cfg : IntfCfgV1) (merge3dIdx : Fin 4) : Prop :=
  (merge3dIdx = 0 ∨ flush.group .merge3d ≠ 0#32) ∧
    (cfg.intf = [] ∨ ∃ id ∈ cfg.intf, id ≠ 0) ∧ (cfg.wb = [] ∨ ∃ id ∈ cfg.wb, id ≠ 0)

def CallShown (s : Ctls) : Call → Prop
  | .resetPostDisable ctl cfg merge3dIdx => ResetShown (s.flush ctl) cfg merge3dIdx
  | _ => True

/-! ## The bits of the groups -/

theorem idx_injective (g g' : Group) (same : g.idx = g'.idx) : g = g' := by
  cases g with
  | wb => cases g' with
    | wb => rfl
    | _ => exact nomatch same
  | dsc => cases g' with
    | dsc => rfl
    | _ => exact nomatch same
  | merge3d => cases g' with
    | merge3d => rfl
    | _ => exact nomatch same
  | cdm => cases g' with
    | cdm => rfl
    | _ => exact nomatch same
  | cwb => cases g' with
    | cwb => rfl
    | _ => exact nomatch same
  | intf => cases g' with
    | intf => rfl
    | _ => exact nomatch same
  | periph => cases g' with
    | periph => rfl
    | _ => exact nomatch same

theorem idx_lt (g : Group) : g.idx < 32 := by
  cases g with
  | _ => decide

def Outside (bit : ℕ) : Prop := bit < 32 ∧ ∀ g : Group, g.idx ≠ bit

theorem outside_of_mem {bit : ℕ}
    (listed : bit ∈ [0, 1, 2, 3, 4, 5, 6, 7, 8, 9, 10, 11, 12, 13, 14, 15, 17, 18, 19,
    20, 21, 24, 25,
      27]) : Outside bit := by
  refine ⟨?_, fun g same => ?_⟩
  · simp only [List.mem_cons, List.not_mem_nil, or_false] at listed
    omega
  · subst same
    cases g with
    | _ => exact absurd listed (by decide)

variable {table : List ℕ}

theorem outside_of_all
    (listed : ∀ bit ∈ table, bit ∈ [0, 1, 2, 3, 4, 5, 6, 7, 8, 9, 10, 11, 12, 13, 14, 15, 17, 18,
    19, 20, 21, 24,
      25, 27]) : ∀ bit ∈ table, Outside bit :=
  fun bit mem => outside_of_mem (listed bit mem)

theorem outside_table (outside : ∀ bit ∈ table, Outside bit) (block : ℕ) :
    Outside (table.getD block 0) := by
  by_cases inside : block < table.length
  · rw [List.getD_eq_getElem table 0 inside]
    exact outside _ (List.getElem_mem inside)
  · rw [List.getD_eq_default table 0 (Nat.not_lt.mp inside)]
    exact outside_of_mem (by simp)

variable {flush : FlushCfg}

theorem Summarised.mark_outside (shown : Summarised Group.idx flush) {bit : ℕ}
    (outside : Outside bit) (on : Bool) : Summarised Group.idx (flush.mark bit on) :=
  shown.mark outside.1 outside.2 on

variable {flush' : FlushCfg}

theorem summarised_updatePlain (outside : ∀ bit ∈ table, Outside bit) {block : ℕ}
    {enable : Bool} (shown : Summarised Group.idx flush)
    (updated : updatePlain table block enable flush = .ok flush') :
    Summarised Group.idx flush' := by
  rw [updatePlain] at updated
  split at updated
  · exact nomatch updated
  · cases updated
    exact Summarised.mark_outside shown (outside_table outside block) enable

section

variable (shown : Summarised Group.idx flush)

include shown

theorem summarised_updateGroup (g : Group)
    (bit : ℕ) (enable : Bool) : Summarised Group.idx (updateGroup g bit enable flush) := by
  have stored := shown.store idx_injective (idx_lt g) (setBit (flush.group g) bit enable)
  rw [updateGroup]
  simp only [Masks.setGroup_self]
  cases nonzero : setBit (flush.group g) bit enable != 0#32 with
  | true => rwa [nonzero] at stored
  | false => rwa [nonzero] at stored

/-! ## Operations -/

theorem summarised_updateBitmask {block : Block} {enable : Bool}
    (updated : block.updateBitmask enable flush = .ok flush') : Summarised Group.idx flush' := by
  have group {refused : Prop} [Decidable refused] {g : Group} {bit : ℕ}
      (updated : (if refused then .error .einval else .ok (updateGroup g bit enable flush) :
        Except Errno FlushCfg) = .ok flush') : Summarised Group.idx flush' := by
    split at updated
    · exact nomatch updated
    · cases updated
      exact summarised_updateGroup shown g bit enable
  cases block with
  | sspp id =>
    have outside : ∀ bit ∈ ssppTbl, Outside bit := outside_of_all (by decide)
    exact summarised_updatePlain outside shown updated
  | mixer id =>
    rw [Block.updateBitmask, updateBitmaskMixer] at updated
    cases plain : updatePlain mixerTbl id enable flush with
    | error rc =>
      rw [plain] at updated
      exact nomatch updated
    | ok marked =>
      rw [plain] at updated
      cases updated
      refine Summarised.mark_outside ?_ (outside_of_mem (by simp [ctlFlushMaskCtl])) true
      have outside : ∀ bit ∈ mixerTbl, Outside bit := outside_of_all (by decide)
      exact summarised_updatePlain outside shown plain
  | dspp id =>
    have outside : ∀ bit ∈ dsppTbl, Outside bit := outside_of_all (by decide)
    exact summarised_updatePlain outside shown updated
  | dsppPavlut id =>
    have outside : ∀ bit ∈ dsppPavTbl, Outside bit := outside_of_all (by decide)
    exact summarised_updatePlain outside shown updated
  | rot id =>
    have outside : ∀ bit ∈ rotTbl, Outside bit := outside_of_all (by decide)
    exact summarised_updatePlain outside shown updated
  | wb id => exact group updated
  | intf id => exact group updated
  | periph id => exact group updated
  | dsc id => exact group updated
  | merge3d id => exact group updated
  | cdm id => exact group updated
  | cwb id => exact group updated

theorem summarised_triggerRotStart : Summarised Group.idx (triggerRotStart flush) := by
  rw [triggerRotStart]
  split
  · exact Summarised.mark_outside shown (outside_of_mem (by simp [ctlFlushMaskRot])) false
  · exact shown

theorem triggerFlushV1_writes {g : Group}
    (pending : flush.group g ≠ 0#32) : (.group g, flush.group g) ∈ triggerFlushV1 flush := by
  have listed : g ∈ groups := by
    cases g with
    | _ => decide
  refine List.mem_append_left _ (List.mem_map.mpr ⟨g, List.mem_filter.mpr ⟨listed, ?_⟩, rfl⟩)
  exact (shown g).mpr pending

end

theorem noneLost_iff (s : Ctls) : NoneLost s ↔ ∀ ctl, Summarised Group.idx (s.flush ctl) :=
  ⟨fun kept ctl => (kept ctl).1,
    fun shown ctl => ⟨shown ctl, fun _ => triggerFlushV1_writes (shown ctl)⟩⟩

/-! ## The reset after a disable -/

variable {blocks : List ℕ}

theorem flushBits_ne_zero (valid : ∀ id ∈ blocks, id ≤ 32) :
    flushBits blocks ≠ 0#32 ↔ ∃ id ∈ blocks, id ≠ 0 := by
  have from_mask (mask : BitVec 32) :
      blocks.foldl (fun mask id => if id ≠ 0 then mask ||| BitVec.twoPow 32 (id - 1) else mask)
        mask ≠ 0#32 ↔ mask ≠ 0#32 ∨ ∃ id ∈ blocks, id ≠ 0 := by
    induction blocks generalizing mask with
    | nil => simp
    | cons id blocks ih =>
      rw [List.foldl_cons, ih fun id listed => valid id (.tail _ listed)]
      by_cases named : id = 0
      · simp [named]
      · have bit : BitVec.twoPow 32 (id - 1) ≠ 0#32 := by
          intro zero
          have low := valid id List.mem_cons_self
          have set : (BitVec.twoPow 32 (id - 1)).getLsbD (id - 1) = true := by
            rw [BitVec.getLsbD_twoPow]
            have inside : id - 1 < 32 := by omega
            simp [inside]
          rw [zero] at set
          simp at set
        have set : mask ||| BitVec.twoPow 32 (id - 1) ≠ 0#32 := by
          rw [ne_eq, BitVec.or_eq_zero_iff]
          exact fun both => bit both.2
        rw [if_pos named]
        exact ⟨fun _ => .inr ⟨id, List.mem_cons_self, named⟩, fun _ => .inl set⟩
  rw [flushBits, from_mask]
  simp

theorem shows_blocks (valid : ∀ id ∈ blocks, id ≤ 32) (g other : Group) :
    Shows Group.idx (if blocks.length ≠ 0 then
        (flush.setGroup g (flushBits blocks)).mark g.idx true else flush) other ↔
      if other = g ∧ blocks ≠ [] then ∃ id ∈ blocks, id ≠ 0 else Shows Group.idx flush other := by
  by_cases empty : blocks = []
  · subst empty
    simp
  · have some_block : blocks.length ≠ 0 := by
      rw [ne_eq, List.length_eq_zero_iff]
      exact empty
    rw [if_pos some_block, shows_force idx_injective (idx_lt g), flushBits_ne_zero valid]
    simp [empty]

theorem shows_resetMerge (shown : Summarised Group.idx flush) (merge3dIdx : Fin 4) (other : Group) :
    Shows Group.idx (if merge3dIdx.val ≠ 0 then
        flush.setGroup .merge3d (BitVec.twoPow 32 (merge3dIdx.val - 1)) else flush) other ↔
      if other = .merge3d ∧ merge3dIdx ≠ 0 then flush.group .merge3d ≠ 0#32 else True := by
  by_cases none : merge3dIdx = 0
  · subst none
    simpa using shown other
  · have named : merge3dIdx.val ≠ 0 := fun zero => none (Fin.ext zero)
    have bits : ∀ k : Fin 4, k.val ≠ 0 → BitVec.twoPow 32 (k.val - 1) ≠ 0#32 := by decide
    rw [if_pos named, shows_setGroup]
    by_cases this_one : other = .merge3d
    · have before : flush.summary.getLsbD (Group.idx .merge3d) = true ↔ _ := shown .merge3d
      simp [this_one, none, before, bits merge3dIdx named]
    · simpa [this_one] using shown other

theorem or_of_ite {p q : Prop} [Decidable p] (given : if ¬p then q else True) : p ∨ q := by
  by_cases holds : p
  · exact .inl holds
  · rw [if_pos holds] at given
    exact .inr given

theorem summarised_resetPostDisable (shown : Summarised Group.idx flush)
    (cfg : IntfCfgV1) (merge3dIdx : Fin 4) :
    Summarised Group.idx (resetPostDisable cfg merge3dIdx flush) ↔
      ResetShown flush cfg merge3dIdx := by
  have intf_valid : ∀ id ∈ cfg.intf, id ≤ 32 := fun id listed => by
    have bound := cfg.intf_valid id listed
    omega
  have wb_valid : ∀ id ∈ cfg.wb, id ≤ 32 := fun id listed => by
    have bound := cfg.wb_valid id listed
    omega
  have each (other : Group) : Shows Group.idx (resetPostDisable cfg merge3dIdx flush) other ↔ _ :=
    shows_blocks wb_valid .wb other
  simp only [shows_blocks intf_valid .intf, shows_resetMerge shown] at each
  constructor
  · intro right
    have merge_right := (each .merge3d).mp (right .merge3d)
    have intf_right := (each .intf).mp (right .intf)
    have wb_right := (each .wb).mp (right .wb)
    simp only [reduceCtorEq, false_and, if_false, true_and] at merge_right intf_right wb_right
    exact ⟨or_of_ite merge_right, or_of_ite intf_right, or_of_ite wb_right⟩
  · rintro ⟨merge_shown, intf_shown, wb_shown⟩ other
    rw [each]
    split
    · next wb => exact wb_shown.resolve_left wb.2
    · split
      · next intf => exact intf_shown.resolve_left intf.2
      · split
        · next merge => exact merge_shown.resolve_left merge.2
        · trivial

/-! ## Runs -/

theorem Ctls.set_flush (s : Ctls) (ctl : ℕ) (flush : FlushCfg) (other : ℕ) :
    (s.set ctl flush).flush other = if other = ctl then flush else s.flush other := rfl

variable {s : Ctls}

theorem set_shown (shown : ∀ ctl, Summarised Group.idx (s.flush ctl)) (ctl : ℕ) (flush : FlushCfg) :
    (∀ other, Summarised Group.idx ((s.set ctl flush).flush other)) ↔
      Summarised Group.idx flush := by
  constructor
  · intro every
    have this_one := every ctl
    rwa [Ctls.set_flush, if_pos rfl] at this_one
  · intro right other
    rw [Ctls.set_flush]
    split
    · exact right
    · exact shown other

theorem step_noneLost_iff (obtained : ∀ cfg ∈ s.obtained, Summarised Group.idx cfg)
    (kept : NoneLost s) (call : Call) : NoneLost (s.step call) ↔ CallShown s call := by
  rw [noneLost_iff] at kept ⊢
  cases call with
  | updateBitmask ctl block enable =>
    refine iff_of_true ?_ trivial
    rw [Ctls.step]
    cases updated : block.updateBitmask enable (s.flush ctl) with
    | error rc => exact kept
    | ok flush => exact (set_shown kept ctl flush).mpr (summarised_updateBitmask (kept ctl) updated)
  | getPendingFlush ctl => exact iff_of_true kept trivial
  | updatePendingFlush ctl cfg =>
    refine iff_of_true ?_ trivial
    rw [Ctls.step]
    cases known : s.obtained[cfg]? with
    | none => exact kept
    | some cfg =>
      exact (set_shown kept ctl _).mpr
        ((kept ctl).union (obtained cfg (List.mem_of_getElem? known)))
  | resetPostDisable ctl cfg merge3dIdx =>
    exact (set_shown kept ctl _).trans (summarised_resetPostDisable (kept ctl) cfg merge3dIdx)
  | clearPendingFlush ctl => exact iff_of_true ((set_shown kept ctl _).mpr summarised_empty) trivial
  | triggerRotStart ctl =>
    exact iff_of_true ((set_shown kept ctl _).mpr (summarised_triggerRotStart (kept ctl))) trivial

theorem step_obtained (obtained : ∀ cfg ∈ s.obtained, Summarised Group.idx cfg)
    (kept : NoneLost s) (call : Call) :
    ∀ cfg ∈ (s.step call).obtained, Summarised Group.idx cfg := by
  cases call with
  | getPendingFlush ctl =>
    intro cfg listed
    rcases List.mem_append.mp listed with before | this_one
    · exact obtained cfg before
    · rw [List.mem_singleton.mp this_one]
      exact (kept ctl).1
  | updateBitmask ctl block enable =>
    rw [Ctls.step]
    cases block.updateBitmask enable (s.flush ctl) with
    | error rc => exact obtained
    | ok flush => exact obtained
  | updatePendingFlush ctl cfg =>
    rw [Ctls.step]
    cases s.obtained[cfg]? with
    | none => exact obtained
    | some cfg => exact obtained
  | resetPostDisable | clearPendingFlush | triggerRotStart => exact obtained

/-- In a run of operations on CTLs no request is lost exactly when every reset after a disable names
    a block in each array that is not empty, and a 3D merge block only where one is pending. -/
theorem noneLost_iff_resetsShown (calls : List Call) :
    Run.Throughout Ctls.step NoneLost .init calls ↔
      Run.StepsMeet Ctls.step CallShown .init calls := by
  have start : NoneLost .init := (noneLost_iff _).mpr fun _ => summarised_empty
  have none_obtained : ∀ cfg ∈ Ctls.init.obtained, Summarised Group.idx cfg := by
    intro cfg listed
    exact absurd listed List.not_mem_nil
  exact Run.throughout_iff_stepsMeet_along
    (fun s : Ctls => ∀ cfg ∈ s.obtained, Summarised Group.idx cfg)
    (fun s call obtained kept => step_obtained obtained kept call)
    (fun s call obtained kept => step_noneLost_iff obtained kept call) none_obtained start calls

/-- A reset with a 3D merge block on a fresh CTL: its mask is set, its bit in the summary is not,
    and the trigger does not write its register. -/
theorem not_noneLost_merge3d : ¬∀ calls, Run.Throughout Ctls.step NoneLost .init calls := by
  intro every
  let cfg : IntfCfgV1 := { intf := [1], wb := [], intf_valid := by simp, wb_valid := nofun }
  have lost := (every [.resetPostDisable 0 cfg 1]).2 0
  have pending : ((Ctls.step .init (.resetPostDisable 0 cfg 1)).flush 0).group .merge3d ≠ 0#32 := by
    decide
  exact absurd (lost.2 .merge3d pending) (by decide)

end DisplayDrivers.Ctl
