import DisplayDrivers.Rm.Complete

/-! # External blocks

The manager knows the external blocks of an encoder only by the tag of its reservation.
-/

namespace DisplayDrivers.Rm

open DisplayDrivers.Lib.Run

def SdeRm.createdFor (rm : SdeRm) (ref : BlkRef) : Option Nat :=
  (rm.blk ref.1 ref.2).bind (·.createdFor)

def Exact (rm : SdeRm) : Op → Prop
  | .extDestroy enc => ∀ t, (sdeRmExtBlkDestroy rm enc).2.hwBlks t =
      (rm.hwBlks t).filter fun b => b.createdFor ≠ some enc
  | op => ∀ t, rm.bare t <+: (step rm op).bare t

structure Proposes (rm : SdeRm) (call : ReserveCall) (mem : Option Nat) (reqs : Requirements) :
    Prop where
  performs : (!sdeRmIsDisplayInContSplash call.kms call.enc && !call.needsModeset) = false
  populated : populateRequirements rm call = some reqs
  allocated : (rm.kzalloc mem).isSome

def WillCommit (call : ReserveCall) (reqs : Requirements) (answer : Answer) : Prop :=
  answer.1 = 0 ∧ (call.testOnly = false ∨ reqs.rqLock = true)

/-- The reserve takes the encoder's reservation off the block: it replaces the reservation and
    its allocators do not choose the block, or it is a test that clears the reservation. -/
def Drops (rm : SdeRm) (call : ReserveCall) (mem : Option Nat) (ref : BlkRef) : Prop :=
  ∃ reqs, Proposes rm call mem reqs ∧
    ((∃ answer, draft (rm.view call.enc) call reqs = some answer ∧ WillCommit call reqs answer ∧
        ref ∉ answer.2) ∨
      (clears call reqs = true ∧ ∀ answer, draft (rm.view call.enc) call reqs = some answer →
        ¬WillCommit call reqs answer))

/-- The calls that leave the tags and the locks of external blocks as their encoder has them. -/
def Proper (rm : SdeRm) : Op → Prop
  | .reserve call mem => ∀ ref, rm.createdFor ref = some call.enc → ¬Drops rm call mem ref
  | .release enc connector => ∀ ref, rm.createdFor ref = some enc →
      ∀ topCtrl, connector = some topCtrl → topCtrl.testBit topctlReserveLock = true
  | .extCreate _ _ _ _ => True
  | .extDestroy enc => ∀ t, ∀ b ∈ rm.hwBlks t, b.createdFor = none →
      ∀ r, rm.getRsvp enc = some r → b.rsvp ≠ some r

def Attached (rm : SdeRm) : Prop :=
  ∀ t, ∀ b ∈ rm.hwBlks t, ∀ enc, b.createdFor = some enc → ∃ r, b.rsvp = some r ∧ r.encId = enc

variable {rm : SdeRm}

theorem attached_iff : Attached rm ↔ ∀ ref enc, rm.createdFor ref = some enc →
      ∃ r, rm.tag ref = some r ∧ r.encId = enc := by
  constructor
  · intro attached ref enc created
    obtain ⟨b, at_ref, own⟩ := Option.bind_eq_some_iff.mp created
    obtain ⟨r, tagged, same⟩ := attached ref.1 b (SdeRm.blk_mem at_ref) enc own
    exact ⟨r, Option.bind_eq_some_iff.mpr ⟨b, at_ref, tagged⟩, same⟩
  · intro attached t b member enc created
    obtain ⟨i, at_i⟩ := SdeRm.mem_blk member
    have here : rm.createdFor (t, i) = some enc := by simpa [SdeRm.createdFor, at_i] using created
    obtain ⟨r, tagged, same⟩ := attached (t, i) enc here
    exact ⟨r, by simpa [SdeRm.tag, at_i] using tagged, same⟩

theorem createdFor_eq_of_bare {rm' : SdeRm} (same : rm'.bare = rm.bare) :
    rm'.createdFor = rm.createdFor := by
  have through : ∀ rm : SdeRm,
      rm.createdFor = fun ref => ((rm.bare ref.1)[ref.2]?).bind (·.createdFor) := by
    intro rm
    funext ref
    rw [SdeRm.createdFor, SdeRm.bare, List.getElem?_map, Option.bind_map]
    rfl
  rw [through, through, same]

/-! ## Destroying -/

variable {enc : Nat}

theorem exact_extDestroy (consistent : Consistent rm) (attached : Attached rm)
    (proper : Proper rm (.extDestroy enc)) : Exact rm (.extDestroy enc) := by
  intro t
  unfold sdeRmExtBlkDestroy
  split
  next missing =>
    refine (List.filter_eq_self.mpr fun b member => ?_).symm
    rw [decide_eq_true_iff]
    intro created
    obtain ⟨r, tagged, same⟩ := attached t b member enc created
    exact getRsvp_none missing r ((consistent.blks member).2 r tagged) same
  next rsvp found =>
    refine List.filter_congr fun b member => ?_
    rw [decide_eq_decide, not_iff_not]
    constructor
    · intro tagged
      cases created : b.createdFor with
      | none => exact absurd tagged (proper t b member created rsvp found)
      | some enc' =>
        obtain ⟨r, own, rfl⟩ := attached t b member enc' created
        rw [tagged] at own
        rw [← Option.some.inj own, (getRsvp_some found).2]
    · intro created
      obtain ⟨r, tagged, rfl⟩ := attached t b member enc created
      have own := consistent.getRsvp_eq ((consistent.blks member).2 r tagged)
      rw [found] at own
      rw [tagged, own]

theorem attached_extDestroy (attached : Attached rm) (enc : Nat) :
    Attached (sdeRmExtBlkDestroy rm enc).2 := by
  unfold sdeRmExtBlkDestroy
  split
  · exact attached
  · intro t b member enc' created
    exact attached t b (List.mem_filter.mp member).1 enc' created

/-! ## The other calls -/

theorem attached_extCreate (consistent : Consistent rm) (attached : Attached rm)
    (hw : ExtHw) (enc : Nat) (mem : Option Nat) (blkMem : Bool) :
    Attached (sdeRmExtBlkCreateReserve rm hw enc mem blkMem).2 := by
  unfold sdeRmExtBlkCreateReserve
  split
  · exact attached
  next rsvp rm' found =>
    obtain ⟨blks, own, -, -⟩ := extRsvp_some consistent found
    have attached' : Attached rm' := fun t b member => attached t b (blks ▸ member)
    split
    -- the list gains the block at its end, tagged with the encoder's reservation
    · exact attached'
    · intro t b member enc' created
      dsimp only at member
      by_cases same : t = hw.type
      · subst same
        rw [Function.update_self] at member
        cases List.mem_append.mp member with
        | inl old => exact attached' _ b old enc' created
        | inr new =>
          rw [List.mem_singleton.mp new] at created ⊢
          exact ⟨rsvp, rfl, (getRsvp_some own).2.trans (Option.some.inj created)⟩
      · rw [Function.update_of_ne same] at member
        exact attached' t b member enc' created

theorem attached_of_othersKept {rm' : SdeRm} (attached : Attached rm)
    (same : rm'.bare = rm.bare) (others : OthersKept enc rm rm')
    (own : ∀ ref r, rm.createdFor ref = some enc → rm.tag ref = some r →
      ∃ r', rm'.tag ref = some r' ∧ r'.encId = enc) : Attached rm' := by
  refine attached_iff.mpr fun ref enc' created => ?_
  rw [createdFor_eq_of_bare same] at created
  obtain ⟨r, tagged, rfl⟩ := attached_iff.mp attached ref enc' created
  -- blocks of other encoders are not touched, whoever they were created for
  by_cases mine : r.encId = enc
  · rw [mine] at created ⊢
    exact own ref r created tagged
  · exact ⟨r, others ref r tagged mine, rfl⟩

variable {ref : BlkRef}

theorem getRsvp_of_attached (consistent : Consistent rm) (attached : Attached rm)
    {r : Rsvp} (created : rm.createdFor ref = some enc)
    (tagged : rm.tag ref = some r) : rm.getRsvp enc = some r := by
  obtain ⟨r', own, rfl⟩ := attached_iff.mp attached ref enc created
  obtain rfl := Option.some.inj (tagged.symm.trans own)
  exact consistent.getRsvp_eq (consistent.tagsListed ref r tagged)

variable {call : ReserveCall} {mem : Option Nat}

variable {s : Stage}

theorem Staged.proposes (staged : Staged rm call mem s) : Proposes rm call mem s.reqs where
  performs := Bool.eq_false_of_not_eq_true staged.performs
  populated := staged.populated
  allocated := by simp [staged.allocated]

variable {answer : Answer}

theorem Staged.ret_eq (staged : Staged rm call mem s)
    (proposed : draft (rm.view call.enc) call s.reqs = some answer) : s.ret = answer.1 := by
  have drafted_eq := staged.drafted_eq
  rw [view_cleared, proposed] at drafted_eq
  exact congrArg Prod.fst drafted_eq

theorem Staged.not_willCommit (staged : Staged rm call mem s)
    (why : s.ret ≠ 0 ∨ (call.testOnly = true ∧ s.reqs.rqLock = false))
    (proposed : draft (rm.view call.enc) call s.reqs = some answer) :
    ¬WillCommit call s.reqs answer := by
  rintro ⟨complete, commits⟩
  rcases why with failed | ⟨test, unlocked⟩
  · exact failed ((staged.ret_eq proposed).trans complete)
  · simp [test, unlocked] at commits

theorem attached_reserve (consistent : Consistent rm) (attached : Attached rm)
    (proper : Proper rm (.reserve call mem)) :
    Attached (sdeRmReserve rm call mem).2 := by
  refine attached_of_othersKept attached (bare_reserve rm call mem)
    (othersKept_reserve consistent call mem) fun ref r created tagged => ?_
  have own := getRsvp_of_attached consistent attached created tagged
  have kept := proper ref created
  have outcome := sdeRmReserve_outcome rm call mem
  generalize sdeRmReserve rm call mem = result at outcome
  cases outcome with
  | early ret => exact ⟨r, tagged, (getRsvp_some own).2⟩
  | discarded s staged why =>
    refine ⟨r, ?_, (getRsvp_some own).2⟩
    have uncleared : clears call s.reqs = false := by
      by_contra clear
      exact kept ⟨s.reqs, staged.proposes, .inr ⟨Bool.eq_true_of_not_eq_false clear,
        fun _ proposed => staged.not_willCommit why proposed⟩⟩
    rw [staged.tag_discarded, cleared, uncleared]
    exact tagged
  | committed s staged answer proposed complete why =>
    have other : s.cur ≠ some s.nxt := fun same =>
      staged.fresh.unlisted (staged.cur_own same).1
    have chosen : ref ∈ answer.2 := by
      by_contra unchosen
      exact kept ⟨s.reqs, staged.proposes, .inl ⟨answer, view_cleared rm call s.reqs ▸ proposed,
        ⟨complete, why⟩, unchosen⟩⟩
    refine ⟨s.nxt, ?_, staged.encId⟩
    exact (tag_committed_nxt staged.cleared_fresh other answer.2 ref).mpr
      ⟨chosen, SdeRm.exists_blk_of_free (draft_free proposed ref chosen)⟩

theorem sdeRmRelease_cases (rm : SdeRm) (enc : Nat) (connector : Option Nat) :
    sdeRmRelease rm enc connector = rm ∨
      (sdeRmRelease rm enc connector = rm.release (rm.getRsvp enc) ∧
        ∃ topCtrl, connector = some topCtrl ∧ topCtrl.testBit topctlReserveLock = false) := by
  unfold sdeRmRelease
  split
  · exact .inl rfl
  next rsvp found =>
    split
    · exact .inl rfl
    next topCtrl =>
      split
      · exact .inl rfl
      next unlocked =>
        exact .inr ⟨by rw [found]; rfl, topCtrl, rfl, by simpa using unlocked⟩

theorem attached_sdeRmRelease (attached : Attached rm)
    {connector : Option Nat} (proper : Proper rm (.release enc connector)) :
    Attached (sdeRmRelease rm enc connector) := by
  rcases sdeRmRelease_cases rm enc connector with same | ⟨released, topCtrl, asked, unlocked⟩
  · rw [same]
    exact attached
  · rw [released]
    have others : OthersKept enc rm (rm.release (rm.getRsvp enc)) :=
      othersKept_release fun r own => (getRsvp_some own).2
    refine attached_of_othersKept attached (rm.bare_release _) others fun ref r created _ => ?_
    have locked := proper ref created topCtrl asked
    rw [unlocked] at locked
    cases locked

/-! ## Proper calls -/

theorem attached_step (consistent : Consistent rm) (attached : Attached rm) (op : Op)
    (proper : Proper rm op) : Attached (step rm op) := by
  cases op with
  | reserve call mem => exact attached_reserve consistent attached proper
  | release enc connector => exact attached_sdeRmRelease attached proper
  | extCreate hw enc mem blkMem => exact attached_extCreate consistent attached hw enc mem blkMem
  | extDestroy enc => exact attached_extDestroy attached enc

theorem exact_extCreate (consistent : Consistent rm) (hw : ExtHw) (enc : Nat)
    (mem : Option Nat) (blkMem : Bool) (t : HwBlkType) :
    rm.bare t <+: (sdeRmExtBlkCreateReserve rm hw enc mem blkMem).2.bare t := by
  unfold sdeRmExtBlkCreateReserve
  split
  · exact List.prefix_refl _
  next rsvp rm' found =>
    obtain ⟨blks, -⟩ := extRsvp_some consistent found
    have same : rm'.bare = rm.bare := by
      funext t
      rw [SdeRm.bare, SdeRm.bare, blks]
    split
    · rw [same]
    · rw [← same]
      unfold SdeRm.bare
      dsimp only
      by_cases type : t = hw.type
      · subst type
        rw [Function.update_self, List.map_append]
        exact List.prefix_append _ _
      · rw [Function.update_of_ne type]

theorem exact_step (consistent : Consistent rm) (attached : Attached rm) (op : Op)
    (proper : Proper rm op) : Exact rm op := by
  cases op with
  | reserve call mem =>
    intro t
    show rm.bare t <+: (sdeRmReserve rm call mem).2.bare t
    rw [bare_reserve]
  | release enc connector =>
    intro t
    show rm.bare t <+: (sdeRmRelease rm enc connector).bare t
    rcases sdeRmRelease_cases rm enc connector with same | ⟨released, -⟩
    · rw [same]
    · rw [released, SdeRm.bare_release]
  | extCreate hw enc mem blkMem => exact exact_extCreate consistent hw enc mem blkMem
  | extDestroy enc => exact exact_extDestroy consistent attached proper

theorem attached_init (catalog : (t : HwBlkType) → List (Nat × Caps t))
    (topologyTbl : Nat → TopologyDef) (hasDestScaler : Bool) :
    Attached (.sdeRmInit catalog topologyTbl hasDestScaler) := by
  intro t b member enc created
  obtain ⟨hw, -, rfl⟩ := List.mem_map.mp member
  cases created

/-! ## Improper calls -/

theorem not_exact_of_detached (created : rm.createdFor ref = some enc)
    (detached : ∀ r, rm.getRsvp enc = some r → rm.tag ref ≠ some r) :
    ¬ Exact rm (.extDestroy enc) := by
  intro removes
  obtain ⟨b, at_ref, own⟩ := Option.bind_eq_some_iff.mp created
  have tagged : rm.tag ref = b.rsvp := by simp [SdeRm.tag, at_ref]
  have stays : b ∈ (sdeRmExtBlkDestroy rm enc).2.hwBlks ref.1 := by
    unfold sdeRmExtBlkDestroy
    split
    · exact SdeRm.blk_mem at_ref
    next rsvp found =>
      refine List.mem_filter.mpr ⟨SdeRm.blk_mem at_ref, ?_⟩
      rw [← tagged]
      simpa using detached rsvp found
  rw [removes ref.1] at stays
  simp [own] at stays

theorem not_exact_of_tagged {t : HwBlkType} {b : HwBlk t}
    (member : b ∈ rm.hwBlks t) (created : b.createdFor = none) {r : Rsvp}
    (own : rm.getRsvp enc = some r) (tagged : b.rsvp = some r) :
    ¬ Exact rm (.extDestroy enc) := by
  intro removes
  have kept : b ∈ (rm.hwBlks t).filter fun b => b.createdFor ≠ some enc :=
    List.mem_filter.mpr ⟨member, by simp [created]⟩
  rw [← removes t, sdeRmExtBlkDestroy, own] at kept
  simp [tagged] at kept

theorem Proposes.not_early
    {reqs : Requirements} (proposes : Proposes rm call mem reqs) (ret : Int) :
    sdeRmReserveNext rm call mem ≠ .error ret := by
  obtain ⟨addr, allocated⟩ := Option.isSome_iff_exists.mp proposes.allocated
  unfold sdeRmReserveNext
  rw [proposes.performs, proposes.populated, allocated]
  exact nofun

theorem detached_of_drops (consistent : Consistent rm)
    (drops : Drops rm call mem ref) :
    ∀ r, (sdeRmReserve rm call mem).2.getRsvp call.enc = some r →
      (sdeRmReserve rm call mem).2.tag ref ≠ some r := by
  obtain ⟨reqs, proposes, how⟩ := drops
  have outcome := sdeRmReserve_outcome rm call mem
  generalize sdeRmReserve rm call mem = result at outcome
  cases outcome with
  | early ret stopped => exact absurd stopped (proposes.not_early ret)
  | discarded s staged why =>
    obtain rfl : reqs = s.reqs :=
      Option.some.inj (proposes.populated.symm.trans staged.populated)
    rcases how with ⟨answer, proposed, commits, -⟩ | ⟨clear, -⟩
    · exact absurd commits (staged.not_willCommit why proposed)
    · -- the encoder has no reservation left
      intro r found
      obtain ⟨listed, same⟩ := getRsvp_some found
      rw [staged.rsvps_discarded, cleared, if_pos clear] at listed
      exact absurd same (getRsvp_none (consistent.getRsvp_release call.enc) r listed)
  | committed s staged answer proposed complete why =>
    obtain rfl : reqs = s.reqs :=
      Option.some.inj (proposes.populated.symm.trans staged.populated)
    have cur := staged.cur_getRsvp consistent
    have other : s.cur ≠ some s.nxt := fun same =>
      staged.fresh.unlisted (staged.cur_own same).1
    rw [view_cleared] at proposed
    have unchosen : ref ∉ answer.2 := by
      rcases how with ⟨answer', proposed', -, unchosen⟩ | ⟨-, stays⟩
      · obtain rfl := Option.some.inj (proposed'.symm.trans proposed)
        exact unchosen
      · exact absurd ⟨complete, why⟩ (stays answer proposed)
    intro r found
    obtain ⟨listed, same⟩ := getRsvp_some found
    rw [rsvps_committed_eq _ _ fun r own => (getRsvp_some (cur.symm.trans own)).1] at listed
    -- the commit has taken the encoder's old reservation off the list
    cases List.mem_append.mp listed with
    | inl old =>
      rw [cur] at old
      have base := consistent_cleared consistent call s.reqs
      exact absurd same (getRsvp_none (base.getRsvp_release call.enc) r old)
    | inr new =>
      rw [List.mem_singleton.mp new]
      exact fun tagged =>
        unchosen ((tag_committed_nxt staged.cleared_fresh other answer.2 ref).mp tagged).1

theorem improper_not_exact (consistent : Consistent rm) (attached : Attached rm)
    {op : Op} (improper : ¬ Proper rm op) :
    ∃ enc, ¬ (Exact rm op ∧ Exact (step rm op) (.extDestroy enc)) := by
  cases op with
  | reserve call mem =>
    simp only [Proper, not_forall, not_not] at improper
    obtain ⟨ref, created, drops⟩ := improper
    have created' : (step rm (.reserve call mem)).createdFor ref = some call.enc := by
      rw [← created]
      exact congrFun (createdFor_eq_of_bare (bare_reserve rm call mem)) ref
    have detached := detached_of_drops consistent drops
    exact ⟨call.enc, fun both => not_exact_of_detached created' detached both.2⟩
  | release enc connector =>
    simp only [Proper, not_forall, Bool.not_eq_true] at improper
    obtain ⟨ref, created, topCtrl, asked, unlocked⟩ := improper
    obtain ⟨r, tagged, -⟩ := attached_iff.mp attached ref enc created
    have own := getRsvp_of_attached consistent attached created tagged
    have released : step rm (.release enc connector) = rm.release (rm.getRsvp enc) := by
      simp [step, sdeRmRelease, own, asked, unlocked, SdeRm.release]
    have created' : (step rm (.release enc connector)).createdFor ref = some enc := by
      rw [← created, released]
      exact congrFun (createdFor_eq_of_bare (rm.bare_release _)) ref
    have gone : (step rm (.release enc connector)).getRsvp enc = none := by
      rw [released]
      exact consistent.getRsvp_release enc
    refine ⟨enc, fun both => not_exact_of_detached created' ?_ both.2⟩
    intro r' found
    rw [gone] at found
    cases found
  | extCreate hw enc mem blkMem => exact absurd trivial improper
  | extDestroy enc =>
    simp only [Proper, not_forall, not_not] at improper
    obtain ⟨t, b, member, created, r, own, tagged⟩ := improper
    exact ⟨enc, fun both => not_exact_of_tagged member created own tagged both.1⟩

/-! ## Runs -/

def Tidy (rm : SdeRm) : Prop := Consistent rm ∧ Attached rm

theorem tidy_step (rm : SdeRm) (op : Op) (tidy : Tidy rm) (proper : Proper rm op) :
    Tidy (step rm op) :=
  ⟨consistent_step op tidy.1, attached_step tidy.1 tidy.2 op proper⟩

theorem tidy_init (catalog : (t : HwBlkType) → List (Nat × Caps t))
    (topologyTbl : Nat → TopologyDef) (hasDestScaler : Bool) :
    Tidy (.sdeRmInit catalog topologyTbl hasDestScaler) :=
  ⟨consistent_init _ _ _, attached_init _ _ _⟩

/-- In a run of proper calls, destroying the external blocks of an encoder removes exactly the
    blocks that were created for it, and no other call removes a block. -/
theorem ext_blk_lifetime (catalog : (t : HwBlkType) → List (Nat × Caps t))
    (topologyTbl : Nat → TopologyDef) (hasDestScaler : Bool) (ops : List Op)
    (proper : StepsMeet step Proper (.sdeRmInit catalog topologyTbl hasDestScaler) ops) :
    StepsMeet step Exact (.sdeRmInit catalog topologyTbl hasDestScaler) ops ∧
    ∀ op, ¬ Proper (run step (.sdeRmInit catalog topologyTbl hasDestScaler) ops) op →
      ∃ enc, ¬ StepsMeet step Exact (.sdeRmInit catalog topologyTbl hasDestScaler)
        (ops ++ [op, .extDestroy enc]) := by
  have start := tidy_init catalog topologyTbl hasDestScaler
  constructor
  · exact StepsMeet.imp Tidy tidy_step (fun rm op tidy => exact_step tidy.1 tidy.2 op) start proper
  · intro op improper
    have tidy := run_invariant_of_meets Tidy tidy_step start proper
    obtain ⟨enc, fails⟩ := improper_not_exact tidy.1 tidy.2 improper
    refine ⟨enc, fun all => fails ?_⟩
    obtain ⟨-, here, next, -⟩ := (stepsMeet_append _ _ _).mp all
    exact ⟨here, next⟩

/-! ### A trace block and an external mixer -/

def oneQdss : SdeRm :=
  .sdeRmInit
    (fun
      | .qdss => [(1, ())]
      | _ => [])
    (fun i => gCtlVer1TopTable.getD i ⟨.none, 0, 0, 0, 0, false⟩) false

def noneCall (enc : Nat) : ReserveCall where
  enc := enc
  needsModeset := true
  topologyControl := 0
  hwRes := ⟨[], [], false, false, ⟨0, 0, 0⟩⟩
  connectorIsDsi := false
  isPrimaryDisplay := false
  inCloneMode := false
  numDatapath := 0
  kms := ⟨false, 1, []⟩
  testOnly := false

def extMixer : ExtHw := ⟨.lm, 1, (⟨1, 0, dsppMax, 1, dsMax, roiMisrMax, 0⟩ : LmCfg)⟩

theorem ext_blk_lifetime_oneQdss :
    StepsMeet step Exact oneQdss [.extCreate extMixer 31 (some 8) true, .extDestroy 31] := by
  have untagged : ∀ t ∈ hwBlkTypes,
      ((step oneQdss (.extCreate extMixer 31 (some 8) true)).hwBlks t).all
        (fun b => b.createdFor.isSome || b.rsvp.isNone) = true := by decide
  refine (ext_blk_lifetime _ _ _ [.extCreate extMixer 31 (some 8) true, .extDestroy 31]
    ⟨trivial, fun t b member created r _ tagged => ?_, trivial⟩).1
  have either := List.all_eq_true.mp (untagged t (mem_hwBlkTypes t)) b member
  simp [created, tagged] at either

/-- A reserve before the external mixer is created tags the trace block with the reservation of
    the encoder, and destroying the external blocks removes it too.  A release in between detaches
    the external mixer, and destroying the external blocks leaves it on its list. -/
theorem ext_blk_mixed_up :
    ¬ StepsMeet step Exact oneQdss
        [.reserve (noneCall 31) (some 8), .extCreate extMixer 31 none true, .extDestroy 31] ∧
      ¬ StepsMeet step Exact oneQdss
        [.extCreate extMixer 31 (some 8) true, .release 31 (some 0), .extDestroy 31] := by
  constructor
  · rintro ⟨-, -, removes, -⟩
    have lengths := congrArg List.length (removes .qdss)
    revert lengths
    decide
  · rintro ⟨-, -, removes, -⟩
    have lengths := congrArg List.length (removes .lm)
    revert lengths
    decide

end DisplayDrivers.Rm
