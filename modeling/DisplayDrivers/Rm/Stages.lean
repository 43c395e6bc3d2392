import DisplayDrivers.Rm.Granted
import DisplayDrivers.Rm.Reserve

/-! # A call of `sde_rm_reserve`, stage by stage

`draft` is the proposal of a call as one answer of all allocators: it depends only on what the
encoder can see.
-/

namespace DisplayDrivers.Rm

/-! ## Tags -/

namespace SdeRm

variable (rm : SdeRm) (rsvp : Rsvp) (refs : List BlkRef) (ref : BlkRef)

theorem tag_mapBlks_same {f : (t : HwBlkType) → Nat → HwBlk t → HwBlk t}
    (keeps : ∀ t i b, (f t i b).rsvp = b.rsvp) : (rm.mapBlks f).tag ref = rm.tag ref := by
  rw [tag, blk_mapBlks, tag]
  cases rm.blk ref.1 ref.2 with
  | none => rfl
  | some b => exact keeps _ _ b

@[simp] theorem tag_propose : (rm.propose rsvp refs).tag ref = rm.tag ref := by
  refine rm.tag_mapBlks_same ref fun t i b => ?_
  split <;> rfl

theorem tagNxt_propose :
    (rm.propose rsvp refs).tagNxt ref =
      if ref ∈ refs ∧ (rm.blk ref.1 ref.2).isSome then some rsvp else rm.tagNxt ref := by
  rw [tagNxt, propose, blk_mapBlks, tagNxt]
  cases rm.blk ref.1 ref.2 with
  | none => simp
  | some b => by_cases member : ref ∈ refs <;> simp [member]

theorem tag_releaseRsvp :
    (rm.releaseRsvp rsvp).tag ref = (rm.tag ref).filter (· ≠ rsvp) := by
  rw [tag, releaseRsvp, blk_mapBlks, tag]
  show ((rm.blk ref.1 ref.2).map _).bind _ = _
  cases rm.blk ref.1 ref.2 with
  | none => rfl
  | some b => cases tagged : b.rsvp <;> simp [tagged, Option.filter, ite_not]

theorem tagNxt_releaseRsvp :
    (rm.releaseRsvp rsvp).tagNxt ref = (rm.tagNxt ref).filter (· ≠ rsvp) := by
  rw [tagNxt, releaseRsvp, blk_mapBlks, tagNxt]
  show ((rm.blk ref.1 ref.2).map _).bind _ = _
  cases rm.blk ref.1 ref.2 with
  | none => rfl
  | some b => cases tagged : b.rsvpNxt <;> simp [tagged, Option.filter, ite_not]

theorem tag_release (cur : Option Rsvp) :
    (rm.release cur).tag ref = (rm.tag ref).filter (fun r => some r ≠ cur) := by
  cases cur with
  | none =>
    rw [release]
    cases rm.tag ref <;> rfl
  | some cur => simp [release, tag_releaseRsvp]

theorem tagNxt_release (cur : Option Rsvp) :
    (rm.release cur).tagNxt ref = (rm.tagNxt ref).filter (fun r => some r ≠ cur) := by
  cases cur with
  | none =>
    rw [release]
    cases rm.tagNxt ref <;> rfl
  | some cur => simp [release, tagNxt_releaseRsvp]

@[simp] theorem tag_commitRsvp : rm.commitRsvp.tag ref = (rm.tagNxt ref).or (rm.tag ref) := by
  rw [tag, commitRsvp, blk_mapBlks, tagNxt, tag]
  cases rm.blk ref.1 ref.2 with
  | none => rfl
  | some b => cases proposed : b.rsvpNxt <;> simp [proposed]

@[simp] theorem tagNxt_commitRsvp : rm.commitRsvp.tagNxt ref = none := by
  rw [tagNxt, commitRsvp, blk_mapBlks]
  cases rm.blk ref.1 ref.2 with
  | none => rfl
  | some b => cases proposed : b.rsvpNxt <;> simp [proposed]

@[simp] theorem tag_addRsvp : (rm.addRsvp rsvp).tag ref = rm.tag ref := rfl
@[simp] theorem tagNxt_addRsvp : (rm.addRsvp rsvp).tagNxt ref = rm.tagNxt ref := rfl
@[simp] theorem blk_addRsvp (t : HwBlkType) (i : Nat) :
    (rm.addRsvp rsvp).blk t i = rm.blk t i := rfl

def NothingPending : Prop := ∀ ref, rm.tagNxt ref = none

variable {rm rsvp}

theorem rsvps_release_subset (cur : Option Rsvp) : (rm.release cur).rsvps ⊆ rm.rsvps := by
  cases cur with
  | none => exact List.Subset.refl _
  | some cur => exact List.erase_subset

theorem Fresh.release (fresh : rm.Fresh rsvp) (cur : Option Rsvp) :
    (rm.release cur).Fresh rsvp := by
  refine ⟨fun listed => fresh.unlisted (rsvps_release_subset cur listed), fun ref tagged => ?_,
    fun ref tagged => ?_⟩
  · rw [tag_release] at tagged
    exact fresh.untagged ref (Option.filter_eq_some_iff.mp tagged).1
  · rw [tagNxt_release] at tagged
    exact fresh.unproposed ref (Option.filter_eq_some_iff.mp tagged).1

theorem NothingPending.release (quiet : rm.NothingPending) (cur : Option Rsvp) :
    (rm.release cur).NothingPending := by
  intro ref
  rw [tagNxt_release, quiet ref]
  rfl

/-! ## What an encoder sees -/

theorem view_propose (encId : Nat) : (rm.propose rsvp refs).view encId = rm.view encId := by
  funext t
  simp only [view, propose, mapBlks, List.mapIdx_mapIdx]
  congr 1
  funext i b
  dsimp only [Function.comp_apply]
  split <;> rfl

theorem view_addRsvp (encId : Nat) : (rm.addRsvp rsvp).view encId = rm.view encId := rfl

theorem free_view_iff {encId : Nat} {ref : BlkRef} :
    Free (rm.view encId) ref ↔
      ∃ b, rm.blk ref.1 ref.2 = some b ∧ b.reservedByOther encId = false := by
  unfold Free view
  constructor
  · rintro ⟨shown, member, same, free⟩
    obtain ⟨i, at_i⟩ := List.mem_iff_getElem?.mp member
    rw [List.getElem?_mapIdx] at at_i
    obtain ⟨b, here, rfl⟩ := Option.map_eq_some_iff.mp at_i
    obtain rfl : i = ref.2 := congrArg Prod.snd same
    exact ⟨b, here, free⟩
  · rintro ⟨b, at_i, free⟩
    refine ⟨⟨ref.2, b.id, b.caps, b.reservedByOther encId⟩, ?_, rfl, free⟩
    refine List.mem_iff_getElem?.mpr ⟨ref.2, ?_⟩
    rw [List.getElem?_mapIdx]
    exact Option.map_eq_some_iff.mpr ⟨b, at_i, rfl⟩

theorem exists_blk_of_free {encId : Nat} {ref : BlkRef} (free : Free (rm.view encId) ref) :
    (rm.blk ref.1 ref.2).isSome := by
  obtain ⟨b, at_i, -⟩ := free_view_iff.mp free
  exact Option.isSome_iff_exists.mpr ⟨b, at_i⟩

theorem propose_nil : rm.propose rsvp [] = rm := by
  simp [propose, mapBlks, List.mapIdx_eq_zipIdx_map]

theorem propose_propose (a b : List BlkRef) :
    (rm.propose rsvp a).propose rsvp b = rm.propose rsvp (a ++ b) := by
  simp only [propose, mapBlks, List.mapIdx_mapIdx]
  congr 1
  funext t
  congr 1
  funext i blk
  by_cases first : (t, i) ∈ a <;> by_cases second : (t, i) ∈ b <;> simp [first, second]

end SdeRm

/-! ## The proposal as one answer -/

def answerAfterLms (lms : Answer) (view : View) (kms : SdeKms) (reqs : Requirements)
    (ctlIds dscIds : Option (Nat → Nat)) : Answer :=
  if lms.1 ≠ 0 then lms
  else
    let rest := ((reserveIntfRelatedHw view reqs.hwRes).andThen
      (reserveDsc view kms reqs.topology dscIds)).andThen (reserveQdss view kms)
    (rest.1, (lms.2 ++ (reserveCtls view reqs reqs.topology ctlIds).2) ++ rest.2)

/-- The answer of `_sde_rm_make_next_rsvp`. -/
def nextAnswer (view : View) (kms : SdeKms) (reqs : Requirements) : Answer :=
  answerAfterLms (reserveLms view kms reqs none) view kms reqs none none

/-- The answer of `_sde_rm_make_next_rsvp_for_cont_splash` for its splash display. -/
def splashAnswer (view : View) (kms : SdeKms) (reqs : Requirements) (d : SplashDisplay) : Answer :=
  let lms := reserveLms view kms reqs (some d.lmIds)
  if lms.1 ≠ 0 ∧ !reqs.rqDspp then
    let again := reserveLms view kms (reqs.add topctlDspp) (some d.lmIds)
    answerAfterLms (again.1, lms.2 ++ again.2) view kms (reqs.add topctlDspp) (some d.ctlIds)
      (some d.dscIds)
  else answerAfterLms lms view kms reqs (some d.ctlIds) (some d.dscIds)

def draft (view : View) (call : ReserveCall) (reqs : Requirements) : Option Answer :=
  if sdeRmIsDisplayInContSplash call.kms call.enc then
    (call.kms.splashDisplay.reverse.find? fun d => d.encoder == some call.enc).map
      (splashAnswer view call.kms reqs)
  else some (nextAnswer view call.kms reqs)

def drafted (rm : SdeRm) (nxt : Rsvp) : Option Answer → Int × SdeRm
  | none => (eInval, rm)
  | some answer => (answer.1, (rm.addRsvp nxt).propose nxt answer.2)

theorem alloc_eq (rm : SdeRm) (rsvp : Rsvp) (allocator : View → Answer) :
    rm.alloc rsvp allocator =
      ((allocator (rm.view rsvp.encId)).1,
        rm.propose rsvp (allocator (rm.view rsvp.encId)).2) := rfl

theorem alloc_propose (rm : SdeRm) (rsvp : Rsvp) (refs : List BlkRef)
    (allocator : View → Answer) :
    (rm.propose rsvp refs).alloc rsvp allocator =
      ((allocator (rm.view rsvp.encId)).1,
        rm.propose rsvp (refs ++ (allocator (rm.view rsvp.encId)).2)) := by
  rw [alloc_eq, SdeRm.view_propose, SdeRm.propose_propose]

theorem andAlloc_propose (rm : SdeRm) (rsvp : Rsvp) (before : List BlkRef) (sofar : Answer)
    (allocator : View → Answer) :
    andAlloc (sofar.1, rm.propose rsvp (before ++ sofar.2)) rsvp allocator =
      ((sofar.andThen (allocator (rm.view rsvp.encId))).1,
        rm.propose rsvp (before ++ (sofar.andThen (allocator (rm.view rsvp.encId))).2)) := by
  unfold andAlloc Answer.andThen
  dsimp only
  split
  · rfl
  · rw [alloc_propose, List.append_assoc]

theorem reserveAfterLms_propose (rm : SdeRm) (kms : SdeKms) (rsvp : Rsvp) (reqs : Requirements)
    (ctlIds dscIds : Option (Nat → Nat)) (retryCtls : Bool) (lms : Answer) :
    reserveAfterLms (lms.1, rm.propose rsvp lms.2) kms rsvp reqs ctlIds dscIds retryCtls =
      ((answerAfterLms lms (rm.view rsvp.encId) kms reqs ctlIds dscIds).1,
        rm.propose rsvp (answerAfterLms lms (rm.view rsvp.encId) kms reqs ctlIds dscIds).2) := by
  unfold reserveAfterLms answerAfterLms
  dsimp only
  by_cases found : lms.1 = 0
  · simp only [ne_eq, found, not_true_eq_false, false_and, if_false, alloc_propose,
      andAlloc_propose]
  · rw [if_pos found, if_pos found]

theorem makeNextRsvp_eq (rm : SdeRm) (kms : SdeKms) (rsvp : Rsvp) (reqs : Requirements) :
    makeNextRsvp rm kms rsvp reqs =
      drafted rm rsvp (some (nextAnswer (rm.view rsvp.encId) kms reqs)) := by
  unfold makeNextRsvp
  dsimp only
  rw [alloc_eq, reserveAfterLms_propose, SdeRm.view_addRsvp]
  rfl

theorem makeNextRsvpForContSplash_eq (rm : SdeRm) (kms : SdeKms) (rsvp : Rsvp)
    (reqs : Requirements) :
    makeNextRsvpForContSplash rm kms rsvp reqs =
      drafted rm rsvp ((kms.splashDisplay.reverse.find? fun d => d.encoder == some rsvp.encId).map
        (splashAnswer (rm.view rsvp.encId) kms reqs)) := by
  unfold makeNextRsvpForContSplash
  split
  next missing => rw [missing]; rfl
  next d found =>
    rw [found, Option.map_some]
    unfold drafted splashAnswer
    dsimp only
    rw [alloc_eq, SdeRm.view_addRsvp]
    dsimp only
    generalize reserveLms (rm.view rsvp.encId) kms reqs (some d.lmIds) = lms
    -- the second try tags on top of what the first one tagged
    by_cases again : lms.1 ≠ 0 ∧ (!reqs.rqDspp) = true
    · rw [if_pos again, if_pos again, alloc_propose, SdeRm.view_addRsvp]
      generalize reserveLms (rm.view rsvp.encId) kms (reqs.add topctlDspp) (some d.lmIds) = more
      rw [reserveAfterLms_propose (rm.addRsvp rsvp) kms rsvp (reqs.add topctlDspp) (some d.ctlIds)
        (some d.dscIds) true (more.1, lms.2 ++ more.2), SdeRm.view_addRsvp]
    · rw [if_neg again, if_neg again, reserveAfterLms_propose, SdeRm.view_addRsvp]

theorem answerAfterLms_free {lms : Answer} {view : View} (free : AllFree view lms.2) (kms : SdeKms)
    (reqs : Requirements) (ctlIds dscIds : Option (Nat → Nat)) :
    AllFree view (answerAfterLms lms view kms reqs ctlIds dscIds).2 := by
  unfold answerAfterLms
  split
  · exact free
  · simp only [allFree_append]
    refine ⟨⟨free, reserveCtls_free _ _ _ _⟩, Answer.andThen_free (Answer.andThen_free ?_ ?_) ?_⟩
    · exact reserveIntfRelatedHw_free view _
    · exact reserveDsc_free view kms _ _
    · exact reserveQdss_free view kms

theorem draft_free {view : View} {call : ReserveCall} {reqs : Requirements} {answer : Answer}
    (h : draft view call reqs = some answer) : AllFree view answer.2 := by
  unfold draft at h
  split at h
  · obtain ⟨d, -, rfl⟩ := Option.map_eq_some_iff.mp h
    unfold splashAnswer
    dsimp only
    split
    · refine answerAfterLms_free ?_ _ _ _ _
      exact (allFree_append _ _ _).mpr ⟨reserveLms_free _ _ _ _, reserveLms_free _ _ _ _⟩
    · exact answerAfterLms_free (reserveLms_free _ _ _ _) _ _ _ _
  · obtain rfl := Option.some.inj h
    exact answerAfterLms_free (reserveLms_free _ _ _ _) _ _ _ _

/-! ## The stage after the proposal -/

def clears (call : ReserveCall) (reqs : Requirements) : Bool := call.testOnly && reqs.rqClear

def cleared (rm : SdeRm) (call : ReserveCall) (reqs : Requirements) : SdeRm :=
  if clears call reqs then rm.release (rm.getRsvp call.enc) else rm

theorem nothingPending_cleared {rm : SdeRm} (quiet : rm.NothingPending) (call : ReserveCall)
    (reqs : Requirements) : (cleared rm call reqs).NothingPending := by
  unfold cleared
  split
  · exact quiet.release _
  · exact quiet

theorem rsvps_cleared_subset (rm : SdeRm) (call : ReserveCall) (reqs : Requirements) :
    (cleared rm call reqs).rsvps ⊆ rm.rsvps := by
  unfold cleared
  split
  · exact SdeRm.rsvps_release_subset _
  · exact List.Subset.refl _

structure Staged (rm : SdeRm) (call : ReserveCall) (mem : Option Nat) (s : Stage) : Prop where
  performs : ¬ (!sdeRmIsDisplayInContSplash call.kms call.enc && !call.needsModeset) = true
  populated : populateRequirements rm call = some s.reqs
  allocated : rm.kzalloc mem = some s.nxt.addr
  cur_eq : s.cur = if clears call s.reqs then none else rm.getRsvp call.enc
  nxt_eq : s.nxt = (cleared rm call s.reqs).newRsvp s.nxt.addr call.enc s.reqs.topology.topName
  drafted_eq : (s.ret, s.rm) = drafted (cleared rm call s.reqs) s.nxt
    (draft ((cleared rm call s.reqs).view call.enc) call s.reqs)

theorem sdeRmReserveNext_ok {rm : SdeRm} {call : ReserveCall} {mem : Option Nat} {s : Stage}
    (h : sdeRmReserveNext rm call mem = .ok s) : Staged rm call mem s := by
  unfold sdeRmReserveNext at h
  split at h
  · cases h
  next performs =>
  split at h
  · cases h
  next reqs populated =>
    split at h
    · cases h
    next addr allocated =>
      dsimp only at h
      obtain rfl := Except.ok.inj h
      refine ⟨performs, populated, allocated, rfl, rfl, ?_⟩
      dsimp only
      unfold draft
      rw [makeNextRsvpForContSplash_eq, makeNextRsvp_eq]
      split <;> rfl

namespace Staged

variable {rm : SdeRm} {call : ReserveCall} {mem : Option Nat} {s : Stage}

theorem encId (staged : Staged rm call mem s) : s.nxt.encId = call.enc := by
  rw [staged.nxt_eq]
  rfl

theorem fresh (staged : Staged rm call mem s) : rm.Fresh s.nxt :=
  SdeRm.fresh_of_kzalloc staged.allocated

theorem cleared_fresh (staged : Staged rm call mem s) :
    (cleared rm call s.reqs).Fresh s.nxt := by
  unfold cleared
  split
  · exact staged.fresh.release _
  · exact staged.fresh

end Staged

/-! ## Discarding and committing a proposal -/

theorem hwBlks_ext {rm rm' : SdeRm} (same : ∀ t i, rm.blk t i = rm'.blk t i) :
    rm.hwBlks = rm'.hwBlks :=
  funext fun t => List.ext_getElem? (same t)

variable {base : SdeRm}

variable {nxt : Rsvp}

theorem releaseRsvp_propose_hwBlks (quiet : base.NothingPending)
    (fresh : base.Fresh nxt) (refs : List BlkRef) :
    ((base.propose nxt refs).releaseRsvp nxt).hwBlks = base.hwBlks := by
  refine hwBlks_ext fun t i => ?_
  rw [SdeRm.releaseRsvp, SdeRm.blk_mapBlks]
  show ((base.propose nxt refs).blk t i).map _ = _
  rw [SdeRm.propose, SdeRm.blk_mapBlks]
  cases at_i : base.blk t i with
  | none => rfl
  | some b =>
    -- a block had no proposal before, and no reservation with the new address
    have pending : b.rsvpNxt = none := by simpa [SdeRm.tagNxt, at_i] using quiet (t, i)
    have other : b.rsvp ≠ some nxt := by simpa [SdeRm.tag, at_i] using fresh.untagged (t, i)
    by_cases member : (t, i) ∈ refs <;> simp [member, other, ← pending]

theorem drafted_release (quiet : base.NothingPending)
    (fresh : base.Fresh nxt) (answer : Option Answer) :
    ∃ seq, (drafted base nxt answer).2.releaseRsvp nxt = { base with rsvpNextSeq := seq } := by
  cases answer with
  | none =>
    refine ⟨base.rsvpNextSeq, ?_⟩
    have rsvps : base.rsvps.erase nxt = base.rsvps := List.erase_of_not_mem fresh.unlisted
    have blks := releaseRsvp_propose_hwBlks quiet fresh []
    rw [SdeRm.propose_nil] at blks
    exact SdeRm.ext rsvps blks rfl rfl rfl
  | some answer =>
    refine ⟨nxt.seq, ?_⟩
    have rsvps : (base.rsvps ++ [nxt]).erase nxt = base.rsvps := by
      rw [List.erase_append_right _ fresh.unlisted, List.erase_cons_head, List.append_nil]
    have blks := releaseRsvp_propose_hwBlks quiet fresh answer.2
    exact SdeRm.ext rsvps blks rfl rfl rfl

def committed (base : SdeRm) (cur : Option Rsvp) (nxt : Rsvp) (refs : List BlkRef) : SdeRm :=
  (((base.addRsvp nxt).propose nxt refs).release cur).commitRsvp

variable {cur : Option Rsvp}

theorem tag_committed_nxt (fresh : base.Fresh nxt)
    (other : cur ≠ some nxt) (refs : List BlkRef) (ref : BlkRef) :
    (committed base cur nxt refs).tag ref = some nxt ↔
      ref ∈ refs ∧ (base.blk ref.1 ref.2).isSome := by
  have unproposed := fresh.unproposed ref
  have untagged := fresh.untagged ref
  rw [committed, SdeRm.tag_commitRsvp, SdeRm.tagNxt_release, SdeRm.tag_release,
    SdeRm.tagNxt_propose, SdeRm.tag_propose, SdeRm.blk_addRsvp, SdeRm.tag_addRsvp,
    SdeRm.tagNxt_addRsvp]
  by_cases member : ref ∈ refs ∧ (base.blk ref.1 ref.2).isSome
  · simp [member, other.symm]
  · simp only [Option.or_eq_some_iff, Option.filter_eq_some_iff, iff_false, member]
    rintro (⟨pending, -⟩ | ⟨-, tagged, -⟩)
    · exact unproposed pending
    · exact untagged tagged

theorem tag_committed
    (quiet : base.NothingPending) (other : cur ≠ some nxt) (refs : List BlkRef) (ref : BlkRef) :
    (committed base cur nxt refs).tag ref =
      if ref ∈ refs ∧ (base.blk ref.1 ref.2).isSome then some nxt
      else (base.tag ref).filter fun r => some r ≠ cur := by
  rw [committed, SdeRm.tag_commitRsvp, SdeRm.tagNxt_release, SdeRm.tag_release,
    SdeRm.tagNxt_propose, SdeRm.tag_propose, SdeRm.blk_addRsvp, SdeRm.tag_addRsvp,
    SdeRm.tagNxt_addRsvp, quiet ref]
  by_cases member : ref ∈ refs ∧ (base.blk ref.1 ref.2).isSome
  · simp [member, other.symm]
  · simp [member]

theorem rsvps_committed_subset (base : SdeRm) (cur : Option Rsvp) (nxt : Rsvp)
    (refs : List BlkRef) : (committed base cur nxt refs).rsvps ⊆ base.rsvps ++ [nxt] :=
  @SdeRm.rsvps_release_subset ((base.addRsvp nxt).propose nxt refs) cur

/-! ## What a call of `sde_rm_reserve` can do -/

namespace Staged

variable {rm : SdeRm} {call : ReserveCall} {mem : Option Nat} {s : Stage}

theorem rm_eq (staged : Staged rm call mem s) :
    s.rm = (drafted (cleared rm call s.reqs) s.nxt
      (draft ((cleared rm call s.reqs).view call.enc) call s.reqs)).2 :=
  congrArg Prod.snd staged.drafted_eq

theorem discarded (staged : Staged rm call mem s) (quiet : rm.NothingPending) :
    ∃ seq, s.rm.releaseRsvp s.nxt = { cleared rm call s.reqs with rsvpNextSeq := seq } := by
  rw [staged.rm_eq]
  exact drafted_release (nothingPending_cleared quiet call s.reqs) staged.cleared_fresh _

theorem rsvps_discarded (staged : Staged rm call mem s) :
    (s.rm.releaseRsvp s.nxt).rsvps = (cleared rm call s.reqs).rsvps := by
  have unlisted := staged.cleared_fresh.unlisted
  rw [staged.rm_eq]
  cases draft ((cleared rm call s.reqs).view call.enc) call s.reqs with
  | none => exact List.erase_of_not_mem unlisted
  | some answer =>
    show ((cleared rm call s.reqs).rsvps ++ [s.nxt]).erase s.nxt = _
    rw [List.erase_append_right _ unlisted, List.erase_cons_head, List.append_nil]

theorem tag_discarded (staged : Staged rm call mem s) (ref : BlkRef) :
    (s.rm.releaseRsvp s.nxt).tag ref = (cleared rm call s.reqs).tag ref := by
  have same : s.rm.tag ref = (cleared rm call s.reqs).tag ref := by
    rw [staged.rm_eq]
    cases draft ((cleared rm call s.reqs).view call.enc) call s.reqs with
    | none => rfl
    | some answer => exact SdeRm.tag_propose _ _ _ ref
  rw [SdeRm.tag_releaseRsvp, same]
  cases tagged : (cleared rm call s.reqs).tag ref with
  | none => rfl
  | some r =>
    have other : r ≠ s.nxt := fun own => staged.cleared_fresh.untagged ref (own ▸ tagged)
    simp [other]

end Staged

inductive Outcome (rm : SdeRm) (call : ReserveCall) (mem : Option Nat) : Int × SdeRm → Prop
  | early (ret : Int) (stopped : sdeRmReserveNext rm call mem = .error ret) :
      Outcome rm call mem (ret, rm)
  | discarded (s : Stage) (staged : Staged rm call mem s)
      (why : s.ret ≠ 0 ∨ (call.testOnly = true ∧ s.reqs.rqLock = false)) :
      Outcome rm call mem (s.ret, s.rm.releaseRsvp s.nxt)
  | committed (s : Stage) (staged : Staged rm call mem s) (answer : Answer)
      (proposed : draft ((cleared rm call s.reqs).view call.enc) call s.reqs = some answer)
      (complete : answer.1 = 0) (why : call.testOnly = false ∨ s.reqs.rqLock = true) :
      Outcome rm call mem (0, Rm.committed (cleared rm call s.reqs) s.cur s.nxt answer.2)

theorem sdeRmReserve_outcome (rm : SdeRm) (call : ReserveCall) (mem : Option Nat) :
    Outcome rm call mem (sdeRmReserve rm call mem) := by
  unfold sdeRmReserve
  cases next : sdeRmReserveNext rm call mem with
  | error ret => exact .early ret next
  | ok s =>
    have staged := sdeRmReserveNext_ok next
    have ret_eq : s.ret = (drafted _ _ _).1 := congrArg Prod.fst staged.drafted_eq
    have rm_eq := staged.rm_eq
    dsimp only
    unfold Stage.finish
    split
    next failed => exact .discarded s staged (.inl failed)
    next complete =>
      rw [ne_eq, not_not] at complete
      split
      next test =>
        rw [Bool.and_eq_true, Bool.not_eq_true'] at test
        exact .discarded s staged (.inr test)
      next commits =>
        rw [Bool.and_eq_true, Bool.not_eq_true', not_and, Bool.not_eq_false] at commits
        -- without a splash display the call fails, so there is a proposal to commit
        cases proposed : draft ((cleared rm call s.reqs).view call.enc) call s.reqs with
        | none =>
          rw [proposed, complete] at ret_eq
          cases ret_eq
        | some answer =>
          rw [proposed] at ret_eq rm_eq
          rw [rm_eq]
          refine .committed s staged answer proposed (ret_eq.symm.trans complete) ?_
          cases test : call.testOnly with
          | false => exact .inl rfl
          | true => exact .inr (commits test)

/-! ## The blocks apart from their reservations -/

def HwBlk.bare {t : HwBlkType} (b : HwBlk t) : HwBlk t := { b with rsvp := none, rsvpNxt := none }

def SdeRm.bare (rm : SdeRm) (t : HwBlkType) : List (HwBlk t) := (rm.hwBlks t).map HwBlk.bare

theorem SdeRm.bare_mapBlks (rm : SdeRm) {f : (t : HwBlkType) → Nat → HwBlk t → HwBlk t}
    (keeps : ∀ t i b, (f t i b).bare = b.bare) : (rm.mapBlks f).bare = rm.bare := by
  funext t
  refine List.ext_getElem? fun i => ?_
  rw [bare, bare, mapBlks, List.getElem?_map, List.getElem?_map, List.getElem?_mapIdx,
    Option.map_map]
  congr 1
  funext b
  exact keeps t i b

theorem SdeRm.bare_release (rm : SdeRm) (cur : Option Rsvp) : (rm.release cur).bare = rm.bare := by
  cases cur with
  | none => rfl
  | some cur => exact SdeRm.bare_mapBlks _ fun t i b => rfl

theorem bare_propose (base : SdeRm) (nxt : Rsvp) (refs : List BlkRef) :
    ((base.addRsvp nxt).propose nxt refs).bare = base.bare := by
  refine SdeRm.bare_mapBlks (base.addRsvp nxt) fun t i b => ?_
  split <;> rfl

theorem bare_committed (base : SdeRm) (cur : Option Rsvp) (nxt : Rsvp) (refs : List BlkRef) :
    (committed base cur nxt refs).bare = base.bare := by
  have commits : ∀ rm : SdeRm, rm.commitRsvp.bare = rm.bare := by
    intro rm
    refine SdeRm.bare_mapBlks rm fun t i b => ?_
    split <;> rfl
  exact (commits _).trans ((SdeRm.bare_release _ cur).trans (bare_propose base nxt refs))

theorem bare_cleared (rm : SdeRm) (call : ReserveCall) (reqs : Requirements) :
    (cleared rm call reqs).bare = rm.bare := by
  unfold cleared
  split
  · exact rm.bare_release _
  · rfl

theorem Staged.bare_discarded {rm : SdeRm} {call : ReserveCall} {mem : Option Nat} {s : Stage}
    (staged : Staged rm call mem s) : (s.rm.releaseRsvp s.nxt).bare = rm.bare := by
  have drafts : s.rm.bare = (cleared rm call s.reqs).bare := by
    rw [staged.rm_eq]
    cases draft ((cleared rm call s.reqs).view call.enc) call s.reqs with
    | none => rfl
    | some answer => exact bare_propose _ _ _
  exact (SdeRm.bare_release s.rm (some s.nxt)).trans (drafts.trans (bare_cleared rm call s.reqs))

theorem bare_reserve (rm : SdeRm) (call : ReserveCall) (mem : Option Nat) :
    (sdeRmReserve rm call mem).2.bare = rm.bare := by
  have outcome := sdeRmReserve_outcome rm call mem
  generalize sdeRmReserve rm call mem = result at outcome
  cases outcome with
  | early ret => rfl
  | discarded s staged why => exact staged.bare_discarded
  | committed s staged answer proposed complete why =>
    exact (bare_committed _ _ _ _).trans (bare_cleared rm call s.reqs)

end DisplayDrivers.Rm
