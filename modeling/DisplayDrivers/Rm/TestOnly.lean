import DisplayDrivers.Rm.Invariant

/-! # Test-only reservations

What a call returns and which blocks it proposes is a function of what its encoder can see
(`forecast`).
-/

namespace DisplayDrivers.Rm

open DisplayDrivers.Lib.Ownership

/-! ## The table of owners -/

variable {rm : SdeRm}

variable {cur : Option Rsvp} {enc : Nat}

theorem moves_release (own : ∀ r, cur = some r → r.encId = enc) :
    Table.Moves enc rm.owner (rm.release cur).owner := by
  have gives : (rm.release cur).owner =
      rm.owner.giveBack {ref | ∃ r, rm.tag ref = some r ∧ some r = cur} := by
    funext ref
    unfold Table.giveBack SdeRm.owner
    rw [SdeRm.tag_release]
    cases tagged : rm.tag ref with
    | none => simp
    | some r =>
      by_cases same : some r = cur
      · subst same
        simp [tagged]
      · simp [tagged, same]
  rw [gives]
  apply Table.Moves.giveBack
  rintro ref ⟨r, tagged, same⟩
  rw [SdeRm.owner, tagged, Option.map_some, own r same.symm]

theorem takeable_iff {t : HwBlkType} {i : Nat} {b : HwBlk t} (at_i : rm.blk t i = some b) :
    rm.owner.Takeable enc (t, i) ↔ b.reservedByOther enc = false := by
  have tagged : rm.tag (t, i) = b.rsvp := by simp [SdeRm.tag, at_i]
  unfold Table.Takeable SdeRm.owner HwBlk.reservedByOther
  rw [tagged]
  cases b.rsvp with
  | none => simp
  | some r => simp

theorem moves_committed {base : SdeRm} {nxt : Rsvp}
    (quiet : base.NothingPending) (other : cur ≠ some nxt)
    (own : ∀ r, cur = some r → r.encId = nxt.encId) {refs : List BlkRef}
    (free : AllFree (base.view nxt.encId) refs) :
    Table.Moves nxt.encId base.owner (committed base cur nxt refs).owner := by
  have takes : (committed base cur nxt refs).owner =
      (base.release cur).owner.take nxt.encId
        {ref | ref ∈ refs ∧ (base.blk ref.1 ref.2).isSome} := by
    funext ref
    unfold Table.take SdeRm.owner
    rw [tag_committed quiet other, SdeRm.tag_release]
    by_cases member : ref ∈ refs ∧ (base.blk ref.1 ref.2).isSome
    · rw [if_pos member, if_pos (by exact member)]
      rfl
    · rw [if_neg member, if_neg (by exact member)]
  rw [takes]
  -- the old reservation is given back, then the proposed blocks are taken
  refine .trans (moves_release own) (.take _ _ ?_)
  rintro ref ⟨member, -⟩
  apply (moves_release own).takeable_iff.mpr
  obtain ⟨b, at_ref, unreserved⟩ := SdeRm.free_view_iff.mp (free ref member)
  exact (takeable_iff at_ref).mpr unreserved

theorem moves_cleared (rm : SdeRm) (call : ReserveCall) (reqs : Requirements) :
    Table.Moves call.enc rm.owner (cleared rm call reqs).owner := by
  unfold cleared
  split
  · exact moves_release fun r found => (getRsvp_some found).2
  · exact .refl _

variable {call : ReserveCall}

variable {mem : Option Nat}

theorem Staged.cur_own {s : Stage}
    (staged : Staged rm call mem s) {r : Rsvp} (own : s.cur = some r) :
    r ∈ rm.rsvps ∧ r.encId = call.enc := by
  rw [staged.cur_eq] at own
  split at own
  · cases own
  · exact getRsvp_some own

theorem moves_reserve (quiet : rm.NothingPending) (call : ReserveCall)
    (mem : Option Nat) : Table.Moves call.enc rm.owner (sdeRmReserve rm call mem).2.owner := by
  have outcome := sdeRmReserve_outcome rm call mem
  generalize sdeRmReserve rm call mem = result at outcome
  cases outcome with
  | early ret => exact .refl _
  | discarded s staged why =>
    have same : (s.rm.releaseRsvp s.nxt).owner = (cleared rm call s.reqs).owner := by
      funext ref
      rw [SdeRm.owner, SdeRm.owner, staged.tag_discarded]
    rw [same]
    exact moves_cleared rm call s.reqs
  | committed s staged answer proposed complete why =>
    have base_quiet := nothingPending_cleared quiet call s.reqs
    have other : s.cur ≠ some s.nxt := fun same =>
      staged.fresh.unlisted (staged.cur_own same).1
    apply Table.Moves.trans (moves_cleared rm call s.reqs)
    have moves := moves_committed base_quiet other
      (fun r own => (staged.cur_own own).2.trans staged.encId.symm)
      (staged.encId.symm ▸ draft_free proposed)
    rwa [staged.encId] at moves

/-! ## What the encoder sees -/

def SdeRm.hw (rm : SdeRm) (t : HwBlkType) (i : Nat) : Option (Nat × Caps t) :=
  (rm.blk t i).map fun b => (b.id, b.caps)

variable {rm' : SdeRm}

theorem hw_eq_of_bare (same : rm'.bare = rm.bare) : rm'.hw = rm.hw := by
  have through : ∀ rm : SdeRm, rm.hw = fun t i => (rm.bare t)[i]?.map fun b => (b.id, b.caps) := by
    intro rm
    funext t i
    rw [SdeRm.hw, SdeRm.bare, List.getElem?_map, Option.map_map]
    rfl
  rw [through, through, same]

theorem view_eq (same : rm'.hw = rm.hw)
    (takeable : ∀ ref, rm'.owner.Takeable enc ref ↔ rm.owner.Takeable enc ref) :
    rm'.view enc = rm.view enc := by
  funext t
  refine List.ext_getElem? fun i => ?_
  have hw : rm'.hw t i = rm.hw t i := by rw [same]
  simp only [SdeRm.view, List.getElem?_mapIdx]
  change (rm'.blk t i).map _ = (rm.blk t i).map _
  simp only [SdeRm.hw] at hw
  cases at_i : rm.blk t i with
  | none =>
    rw [at_i] at hw
    rw [Option.map_eq_none_iff.mp hw]
  | some b =>
    rw [at_i] at hw
    obtain ⟨b', at_i', eq⟩ := Option.map_eq_some_iff.mp hw
    obtain ⟨ids, caps⟩ := Prod.mk.inj eq
    -- `RESERVED_BY_OTHER` is all that a view keeps of the tags
    have reserved : b'.reservedByOther enc = b.reservedByOther enc := by
      have both := takeable (t, i)
      rw [takeable_iff at_i', takeable_iff at_i] at both
      simpa using both
    rw [at_i', Option.map_some, Option.map_some, ids, caps, reserved]

theorem hw_reserve (rm : SdeRm) (call : ReserveCall) (mem : Option Nat) :
    (sdeRmReserve rm call mem).2.hw = rm.hw :=
  hw_eq_of_bare (bare_reserve rm call mem)

theorem view_reserve (quiet : rm.NothingPending) (call : ReserveCall)
    (mem : Option Nat) : (sdeRmReserve rm call mem).2.view call.enc = rm.view call.enc :=
  view_eq (hw_reserve rm call mem) fun _ => (moves_reserve quiet call mem).takeable_iff

theorem view_cleared (rm : SdeRm) (call : ReserveCall) (reqs : Requirements) :
    (cleared rm call reqs).view call.enc = rm.view call.enc :=
  view_eq (hw_eq_of_bare (bare_cleared rm call reqs)) fun _ =>
    (moves_cleared rm call reqs).takeable_iff

/-! ## Requirements -/

variable {reqs : Requirements}

theorem populateRequirements_rq
    (h : populateRequirements rm call = some reqs) {bit : Nat} (low : bit < topctlDspp) :
    reqs.rq bit = call.topologyControl.testBit bit := by
  have adds : ∀ (r : Requirements) (k : Nat), topctlDspp ≤ k → (r.add k).rq bit = r.rq bit := by
    intro r k high
    rw [Requirements.rq_add, decide_eq_false (by omega), Bool.or_false]
  have dspp : ∀ r : Requirements, (r.add topctlDspp).rq bit = r.rq bit :=
    fun r => adds r topctlDspp (Nat.le_refl _)
  have ds : ∀ r : Requirements, (r.add topctlDs).rq bit = r.rq bit :=
    fun r => adds r topctlDs (by decide)
  have dsi : ∀ r : Requirements, (selectForDsi rm call r).rq bit = r.rq bit := by
    intro r
    unfold selectForDsi
    dsimp only
    split
    · split <;> split <;> simp only [ds, dspp]
    · rfl
  have cwb : ∀ r : Requirements, (selectForCwb rm call r).rq bit = r.rq bit := by
    intro r
    unfold selectForCwb
    split
    · exact adds r topctlCwb (by decide)
    · rfl
  unfold populateRequirements at h
  split at h
  · cases h
  · obtain rfl := Option.some.inj h
    rw [cwb, dsi]
    rfl

/-! ## The forecast of a call -/

def proposedBy (rm : SdeRm) (call : ReserveCall) (mem : Option Nat) : Set BlkRef :=
  match sdeRmReserveNext rm call mem with
  | .error _ => ∅
  | .ok s => {ref | s.rm.tagNxt ref = some s.nxt}

def forecast (rm : SdeRm) (view : View) (call : ReserveCall) (hasMem : Bool) : Int × Set BlkRef :=
  if !sdeRmIsDisplayInContSplash call.kms call.enc && !call.needsModeset then (0, ∅)
  else
    match populateRequirements rm call with
    | none => (eInval, ∅)
    | some reqs =>
      if !hasMem then (eNomem, ∅)
      else
        match draft view call reqs with
        | none => (eInval, ∅)
        | some answer => (answer.1, {ref | ref ∈ answer.2})

theorem Stage.finish_fst (s : Stage) (testOnly : Bool) : (s.finish testOnly).1 = s.ret := by
  unfold Stage.finish
  split
  · rfl
  next complete =>
    rw [ne_eq, not_not] at complete
    split
    · rfl
    · exact complete.symm

theorem Staged.proposed {s : Stage} (staged : Staged rm call mem s) :
    (s.ret, {ref | s.rm.tagNxt ref = some s.nxt}) =
      match draft (rm.view call.enc) call s.reqs with
      | none => (eInval, (∅ : Set BlkRef))
      | some answer => (answer.1, {ref | ref ∈ answer.2}) := by
  have drafted_eq := staged.drafted_eq
  have fresh := staged.cleared_fresh
  have same := view_cleared rm call s.reqs
  rw [same] at drafted_eq
  cases proposed : draft (rm.view call.enc) call s.reqs with
  | none =>
    rw [proposed] at drafted_eq
    obtain ⟨ret, lists⟩ := Prod.mk.inj drafted_eq
    rw [ret, lists]
    refine Prod.ext rfl (Set.eq_empty_of_forall_notMem fun ref => ?_)
    exact fresh.unproposed ref
  | some answer =>
    rw [proposed] at drafted_eq
    obtain ⟨ret, lists⟩ := Prod.mk.inj drafted_eq
    rw [ret, lists]
    refine Prod.ext rfl (Set.ext fun ref => ?_)
    show ((_ : SdeRm).propose _ _).tagNxt ref = _ ↔ ref ∈ answer.2
    rw [SdeRm.tagNxt_propose, SdeRm.tagNxt_addRsvp, SdeRm.blk_addRsvp]
    constructor
    · intro tagged
      split at tagged
      next member => exact member.1
      next => exact absurd tagged (fresh.unproposed ref)
    · intro member
      have free := draft_free proposed ref member
      rw [← same] at free
      rw [if_pos ⟨member, SdeRm.exists_blk_of_free free⟩]

theorem reserve_forecast (rm : SdeRm) (call : ReserveCall) (mem : Option Nat) :
    ((sdeRmReserve rm call mem).1, proposedBy rm call mem) =
      forecast rm (rm.view call.enc) call (rm.kzalloc mem).isSome := by
  unfold forecast proposedBy sdeRmReserve
  cases next : sdeRmReserveNext rm call mem with
  | ok s =>
    have staged := sdeRmReserveNext_ok next
    rw [if_neg staged.performs, staged.populated, staged.allocated]
    dsimp only
    rw [Stage.finish_fst, staged.proposed]
    rfl
  | error ret =>
    unfold sdeRmReserveNext at next
    dsimp only
    by_cases flip : (!sdeRmIsDisplayInContSplash call.kms call.enc && !call.needsModeset) = true
    · rw [if_pos flip] at next ⊢
      rw [Except.error.inj next]
    · rw [if_neg flip] at next ⊢
      cases populated : populateRequirements rm call with
      | none =>
        rw [populated] at next
        rw [← Except.error.inj next]
      | some reqs =>
        rw [populated] at next
        cases allocated : rm.kzalloc mem with
        | none =>
          rw [allocated] at next
          rw [← Except.error.inj next]
          rfl
        | some addr =>
          rw [allocated] at next
          cases next

/-! ## Tests -/

def SameReservations (rm rm' : SdeRm) : Prop := rm'.rsvps = rm.rsvps ∧ rm'.hwBlks = rm.hwBlks

theorem cleared_of_clear (populated : populateRequirements rm call = some reqs)
    (noClear : call.topologyControl.testBit topctlReserveClear = false) :
    cleared rm call reqs = rm := by
  have unset : reqs.rqClear = false :=
    (populateRequirements_rq populated (by decide)).trans noClear
  rw [cleared, clears, unset, Bool.and_false]
  rfl

theorem reserve_unchanged (quiet : rm.NothingPending) (call : ReserveCall)
    (mem : Option Nat) (noClear : call.topologyControl.testBit topctlReserveClear = false)
    (undone : (sdeRmReserve rm call mem).1 ≠ 0 ∨
      (call.testOnly = true ∧ call.topologyControl.testBit topctlReserveLock = false)) :
    SameReservations rm (sdeRmReserve rm call mem).2 := by
  have outcome := sdeRmReserve_outcome rm call mem
  generalize sdeRmReserve rm call mem = result at outcome undone
  cases outcome with
  | early ret => exact ⟨rfl, rfl⟩
  | discarded s staged why =>
    obtain ⟨seq, traceless⟩ := staged.discarded quiet
    rw [traceless, cleared_of_clear staged.populated noClear]
    exact ⟨rfl, rfl⟩
  | committed s staged answer proposed complete why =>
    have lock : s.reqs.rqLock = call.topologyControl.testBit topctlReserveLock :=
      populateRequirements_rq staged.populated (by decide)
    rcases undone with failed | ⟨test, unlocked⟩
    · exact absurd rfl failed
    · rw [lock] at why
      simp [test, unlocked] at why

theorem SdeRm.release_catalog (rm : SdeRm) (cur : Option Rsvp) :
    (rm.release cur).topologyTbl = rm.topologyTbl ∧
      (rm.release cur).hasDestScaler = rm.hasDestScaler := by
  cases cur <;> exact ⟨rfl, rfl⟩

theorem reserve_catalog (quiet : rm.NothingPending) (call : ReserveCall) (mem : Option Nat) :
    (sdeRmReserve rm call mem).2.topologyTbl = rm.topologyTbl ∧
      (sdeRmReserve rm call mem).2.hasDestScaler = rm.hasDestScaler := by
  have base : ∀ reqs, (cleared rm call reqs).topologyTbl = rm.topologyTbl ∧
      (cleared rm call reqs).hasDestScaler = rm.hasDestScaler := by
    intro reqs
    unfold cleared
    split
    · exact rm.release_catalog _
    · exact ⟨rfl, rfl⟩
  have outcome := sdeRmReserve_outcome rm call mem
  generalize sdeRmReserve rm call mem = result at outcome
  cases outcome with
  | early ret => exact ⟨rfl, rfl⟩
  | discarded s staged why =>
    obtain ⟨seq, traceless⟩ := staged.discarded quiet
    rw [traceless]
    exact base s.reqs
  | committed s staged answer proposed complete why =>
    obtain ⟨tbl, scaler⟩ :=
      SdeRm.release_catalog (((cleared rm call s.reqs).addRsvp s.nxt).propose s.nxt answer.2) s.cur
    exact ⟨tbl.trans (base s.reqs).1, scaler.trans (base s.reqs).2⟩

theorem forecast_congr (tbl : rm'.topologyTbl = rm.topologyTbl)
    (scaler : rm'.hasDestScaler = rm.hasDestScaler) (view : View) (call : ReserveCall)
    (hasMem testOnly : Bool) :
    forecast rm' view { call with testOnly := testOnly } hasMem = forecast rm view call hasMem := by
  have populated : populateRequirements rm' { call with testOnly := testOnly } =
      populateRequirements rm call := by
    unfold populateRequirements selectForCwb selectForDsi
    rw [tbl, scaler]
  unfold forecast
  rw [populated]
  rfl

/-- A test without LOCK and CLEAR and a failing call without CLEAR change no reservation and no
    tag, and a test predicts what the same call, made right after it in earnest, returns and
    proposes; `kzalloc` has memory for both calls or for neither. -/
theorem test_only_predicts {rm : SdeRm} (quiet : rm.NothingPending) (call : ReserveCall)
    (mem : Option Nat) :
    (call.testOnly = true → call.topologyControl.testBit topctlReserveLock = false →
      call.topologyControl.testBit topctlReserveClear = false →
      SameReservations rm (sdeRmReserve rm call mem).2) ∧
    ((sdeRmReserve rm call mem).1 ≠ 0 →
      call.topologyControl.testBit topctlReserveClear = false →
      SameReservations rm (sdeRmReserve rm call mem).2) ∧
    (call.testOnly = true → ∀ mem',
      ((sdeRmReserve rm call mem).2.kzalloc mem').isSome = (rm.kzalloc mem).isSome →
      (sdeRmReserve (sdeRmReserve rm call mem).2 { call with testOnly := false } mem').1 =
        (sdeRmReserve rm call mem).1 ∧
      proposedBy (sdeRmReserve rm call mem).2 { call with testOnly := false } mem' =
        proposedBy rm call mem) := by
  refine ⟨fun test unlocked noClear => ?_, fun failed noClear => ?_, fun _ mem' sameMem => ?_⟩
  · exact reserve_unchanged quiet call mem noClear (.inr ⟨test, unlocked⟩)
  · exact reserve_unchanged quiet call mem noClear (.inl failed)
  · obtain ⟨tbl, scaler⟩ := reserve_catalog quiet call mem
    have sees := view_reserve quiet call mem
    have before := reserve_forecast rm call mem
    have after := reserve_forecast (sdeRmReserve rm call mem).2 { call with testOnly := false } mem'
    dsimp only at after
    -- the same view, the same memory and the same table give the same forecast
    rw [sees, sameMem, forecast_congr tbl scaler, ← before] at after
    exact Prod.mk.inj after

/-! ### Two mixers and one control path -/

def oneCtl : SdeRm :=
  .sdeRmInit
    (fun
      | .lm => [(1, ⟨1, 0, dsppMax, 1, dsMax, roiMisrMax, 0⟩),
          (2, ⟨2, 0, dsppMax, 2, dsMax, roiMisrMax, 0⟩)]
      | .pingpong => [(1, ⟨0⟩), (2, ⟨0⟩)]
      | .ctl => [(1, ⟨0⟩)]
      | .intf => [(1, ()), (2, ())]
      | _ => [])
    (fun i => gCtlVer1TopTable.getD i ⟨.none, 0, 0, 0, 0, false⟩) false

def singlepipeCall (enc : Nat) (intfs : List IntfMode) (testOnly : Bool) : ReserveCall where
  enc := enc
  needsModeset := true
  topologyControl := 0
  hwRes := ⟨intfs, [], false, false, ⟨1, 0, 1⟩⟩
  connectorIsDsi := false
  isPrimaryDisplay := false
  inCloneMode := false
  numDatapath := 0
  kms := ⟨false, 0, []⟩
  testOnly := testOnly

theorem test_only_predicts_oneCtl :
    (sdeRmReserve (sdeRmReserve oneCtl (singlepipeCall 31 [.video] true) (some 8)).2
      (singlepipeCall 31 [.video] false) (some 8)).1 = 0 :=
  ((test_only_predicts (consistent_init _ _ _).nothingPending (singlepipeCall 31 [.video] true)
    (some 8)).2.2 rfl (some 8) (by decide)).1.trans (by decide)

end DisplayDrivers.Rm
