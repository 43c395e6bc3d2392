import Mathlib.Data.List.Nodup
import DisplayDrivers.Lib.Run
import DisplayDrivers.Rm.Stages

/-! # The reservation invariant

`Consistent` holds after any sequence of calls: one reservation per encoder, every block tagged with
a listed reservation or none, and nothing pending.
-/

namespace DisplayDrivers.Rm

open DisplayDrivers.Lib.Run

/-! ## Calls -/

inductive Op
  | reserve (call : ReserveCall) (mem : Option Nat)
  | release (enc : Nat) (connector : Option Nat)
  | extCreate (hw : ExtHw) (enc : Nat) (mem : Option Nat) (blkMem : Bool)
  | extDestroy (enc : Nat)

def step (rm : SdeRm) : Op → SdeRm
  | .reserve call mem => (sdeRmReserve rm call mem).2
  | .release enc connector => sdeRmRelease rm enc connector
  | .extCreate hw enc mem blkMem => (sdeRmExtBlkCreateReserve rm hw enc mem blkMem).2
  | .extDestroy enc => (sdeRmExtBlkDestroy rm enc).2

structure Consistent (rm : SdeRm) : Prop where
  onePerEncoder : (rm.rsvps.map (·.encId)).Nodup
  tagsListed : ∀ ref r, rm.tag ref = some r → r ∈ rm.rsvps
  nothingPending : rm.NothingPending

def OthersKept (enc : Nat) (rm rm' : SdeRm) : Prop :=
  ∀ ref r, rm.tag ref = some r → r.encId ≠ enc → rm'.tag ref = some r

/-! ## The reservation of an encoder -/

variable {rm : SdeRm} {r : Rsvp} {enc : Nat}

theorem getRsvp_some (h : rm.getRsvp enc = some r) : r ∈ rm.rsvps ∧ r.encId = enc :=
  ⟨List.mem_of_find?_eq_some h, by simpa using List.find?_some h⟩

theorem getRsvp_none (h : rm.getRsvp enc = none) : ∀ r ∈ rm.rsvps, r.encId ≠ enc := by
  intro r member same
  exact List.find?_eq_none.mp h r member (by simpa using same)

theorem Consistent.getRsvp_eq (consistent : Consistent rm)
    (member : r ∈ rm.rsvps) : rm.getRsvp r.encId = some r := by
  cases found : rm.getRsvp r.encId with
  | none => exact absurd rfl (getRsvp_none found r member)
  | some r' =>
    obtain ⟨member', same⟩ := getRsvp_some found
    rw [List.inj_on_of_nodup_map consistent.onePerEncoder member' member same]

variable {cur : Option Rsvp}

theorem mem_release (member : r ∈ rm.rsvps)
    (other : some r ≠ cur) : r ∈ (rm.release cur).rsvps := by
  cases cur with
  | none => exact member
  | some cur => exact (List.mem_erase_of_ne fun same => other (congrArg some same)).mpr member

theorem Consistent.not_mem_release (consistent : Consistent rm) (r : Rsvp) :
    r ∉ (rm.release (some r)).rsvps := by
  have nodup : rm.rsvps.Nodup := List.Nodup.of_map _ consistent.onePerEncoder
  exact List.Nodup.not_mem_erase nodup

/-! ## Each call keeps the invariant -/

theorem consistent_release (consistent : Consistent rm) (cur : Option Rsvp) :
    Consistent (rm.release cur) where
  onePerEncoder := by
    refine consistent.onePerEncoder.sublist (List.Sublist.map _ ?_)
    cases cur with
    | none => exact List.Sublist.refl _
    | some cur => exact List.erase_sublist
  tagsListed := by
    intro ref r tagged
    rw [SdeRm.tag_release] at tagged
    obtain ⟨before, other⟩ := Option.filter_eq_some_iff.mp tagged
    exact mem_release (consistent.tagsListed ref r before) (by simpa using other)
  nothingPending := consistent.nothingPending.release cur

theorem Consistent.getRsvp_release (consistent : Consistent rm) (enc : Nat) :
    (rm.release (rm.getRsvp enc)).getRsvp enc = none := by
  cases found : (rm.release (rm.getRsvp enc)).getRsvp enc with
  | none => rfl
  | some r =>
    obtain ⟨member, rfl⟩ := getRsvp_some found
    have own := consistent.getRsvp_eq (SdeRm.rsvps_release_subset _ member)
    rw [own] at member
    exact absurd member (consistent.not_mem_release r)

theorem consistent_cleared (consistent : Consistent rm) (call : ReserveCall)
    (reqs : Requirements) : Consistent (cleared rm call reqs) := by
  unfold cleared
  split
  · exact consistent_release consistent _
  · exact consistent

variable {mem : Option Nat}

theorem Staged.cur_getRsvp {call : ReserveCall} {s : Stage}
    (staged : Staged rm call mem s) (consistent : Consistent rm) :
    s.cur = (cleared rm call s.reqs).getRsvp call.enc := by
  rw [staged.cur_eq, cleared]
  split
  · exact (consistent.getRsvp_release call.enc).symm
  · rfl

theorem rsvps_committed_eq {base : SdeRm} (nxt : Rsvp) (refs : List BlkRef)
    (listed : ∀ r, cur = some r → r ∈ base.rsvps) :
    (committed base cur nxt refs).rsvps = (base.release cur).rsvps ++ [nxt] := by
  cases cur with
  | none => rfl
  | some r => exact List.erase_append_left _ (listed r rfl)

theorem consistent_add (consistent : Consistent rm) {nxt : Rsvp}
    (first : ∀ r ∈ rm.rsvps, r.encId ≠ nxt.encId) :
    ((rm.rsvps ++ [nxt]).map (·.encId)).Nodup := by
  rw [List.map_append, List.map_singleton]
  apply List.Nodup.append consistent.onePerEncoder (List.nodup_singleton _)
  intro enc old new
  obtain ⟨r, member, rfl⟩ := List.mem_map.mp old
  exact first r member (List.mem_singleton.mp new)

theorem consistent_committed {base : SdeRm} (consistent : Consistent base) {nxt : Rsvp}
    (fresh : base.Fresh nxt) (refs : List BlkRef) :
    Consistent (committed base (base.getRsvp nxt.encId) nxt refs) where
  onePerEncoder := by
    rw [rsvps_committed_eq nxt refs fun r own => (getRsvp_some own).1]
    exact consistent_add (consistent_release consistent _)
      (getRsvp_none (consistent.getRsvp_release nxt.encId))
  tagsListed := by
    have other : base.getRsvp nxt.encId ≠ some nxt := fun own =>
      fresh.unlisted (getRsvp_some own).1
    intro ref r tagged
    rw [rsvps_committed_eq nxt refs fun r own => (getRsvp_some own).1]
    rw [tag_committed consistent.nothingPending other] at tagged
    split at tagged
    · obtain rfl := Option.some.inj tagged
      exact List.mem_append_right _ List.mem_cons_self
    · obtain ⟨before, kept⟩ := Option.filter_eq_some_iff.mp tagged
      exact List.mem_append_left _
        (mem_release (consistent.tagsListed ref r before) (by simpa using kept))
  nothingPending := fun ref => SdeRm.tagNxt_commitRsvp _ ref

theorem consistent_reserve (consistent : Consistent rm) (call : ReserveCall)
    (mem : Option Nat) : Consistent (sdeRmReserve rm call mem).2 := by
  have outcome := sdeRmReserve_outcome rm call mem
  generalize sdeRmReserve rm call mem = result at outcome
  cases outcome with
  | early ret => exact consistent
  | discarded s staged why =>
    obtain ⟨seq, undone⟩ := staged.discarded consistent.nothingPending
    have base := consistent_cleared consistent call s.reqs
    rw [undone]
    exact ⟨base.onePerEncoder, base.tagsListed, base.nothingPending⟩
  | committed s staged answer proposed complete why =>
    show Consistent (committed _ s.cur _ _)
    -- the reservation that goes and the one that comes are the same encoder's
    rw [staged.cur_getRsvp consistent, ← staged.encId]
    exact consistent_committed (consistent_cleared consistent call s.reqs) staged.cleared_fresh _

theorem consistent_sdeRmRelease (consistent : Consistent rm) (enc : Nat)
    (connector : Option Nat) : Consistent (sdeRmRelease rm enc connector) := by
  unfold sdeRmRelease
  split
  · exact consistent
  next rsvp found =>
    split
    · exact consistent
    · split
      · exact consistent
      · exact consistent_release consistent (some rsvp)

/-! ## External blocks -/

theorem tag_mem {ref : BlkRef} (tagged : rm.tag ref = some r) :
    ∃ b ∈ rm.hwBlks ref.1, b.rsvp = some r := by
  obtain ⟨b, at_ref, own⟩ := Option.bind_eq_some_iff.mp tagged
  exact ⟨b, SdeRm.blk_mem at_ref, own⟩

theorem mem_tag {t : HwBlkType} {b : HwBlk t} (member : b ∈ rm.hwBlks t)
    (tagged : b.rsvp = some r) : ∃ i, rm.tag (t, i) = some r := by
  obtain ⟨i, at_i⟩ := SdeRm.mem_blk member
  exact ⟨i, Option.bind_eq_some_iff.mpr ⟨b, at_i, tagged⟩⟩

theorem nothingPending_iff : rm.NothingPending ↔ ∀ t, ∀ b ∈ rm.hwBlks t, b.rsvpNxt = none := by
  constructor
  · intro quiet t b member
    obtain ⟨i, at_i⟩ := SdeRm.mem_blk member
    simpa [SdeRm.tagNxt, at_i] using quiet (t, i)
  · intro quiet ref
    cases at_ref : rm.blk ref.1 ref.2 with
    | none => simp [SdeRm.tagNxt, at_ref]
    | some b => simpa [SdeRm.tagNxt, at_ref] using quiet ref.1 b (SdeRm.blk_mem at_ref)

theorem Consistent.of_blks (onePerEncoder : (rm.rsvps.map (·.encId)).Nodup)
    (blks : ∀ t, ∀ b ∈ rm.hwBlks t, b.rsvpNxt = none ∧ ∀ r, b.rsvp = some r → r ∈ rm.rsvps) :
    Consistent rm where
  onePerEncoder := onePerEncoder
  tagsListed := by
    intro ref r tagged
    obtain ⟨b, member, own⟩ := tag_mem tagged
    exact (blks ref.1 b member).2 r own
  nothingPending := nothingPending_iff.mpr fun t b member => (blks t b member).1

theorem Consistent.blks (consistent : Consistent rm) {t : HwBlkType} {b : HwBlk t}
    (member : b ∈ rm.hwBlks t) : b.rsvpNxt = none ∧ ∀ r, b.rsvp = some r → r ∈ rm.rsvps := by
  refine ⟨nothingPending_iff.mp consistent.nothingPending t b member, fun r own => ?_⟩
  obtain ⟨i, tagged⟩ := mem_tag member own
  exact consistent.tagsListed (t, i) r tagged

theorem extRsvp_some {rm' : SdeRm} (consistent : Consistent rm)
    {rsvp : Rsvp} (h : extRsvp rm enc mem = some (rsvp, rm')) :
    rm'.hwBlks = rm.hwBlks ∧ rm'.getRsvp enc = some rsvp ∧ rm.rsvps ⊆ rm'.rsvps ∧
      Consistent rm' := by
  unfold extRsvp at h
  split at h
  next found =>
    obtain ⟨rfl, rfl⟩ := Prod.mk.inj (Option.some.inj h)
    exact ⟨rfl, found, List.Subset.refl _, consistent⟩
  next missing =>
    split at h
    · cases h
    next addr allocated =>
      obtain ⟨rfl, rfl⟩ := Prod.mk.inj (Option.some.inj h)
      have first := getRsvp_none missing
      have nodup : ((rm.addRsvp (rm.newRsvp addr enc .none)).rsvps.map (·.encId)).Nodup :=
        consistent_add consistent first
      have added : Consistent (rm.addRsvp (rm.newRsvp addr enc .none)) := by
        refine .of_blks nodup fun t b member => ?_
        obtain ⟨quiet, listed⟩ := consistent.blks member
        exact ⟨quiet, fun r own => List.mem_append_left _ (listed r own)⟩
      refine ⟨rfl, ?_, List.subset_append_left _ _, added⟩
      exact added.getRsvp_eq (List.mem_append_right _ List.mem_cons_self)

theorem consistent_extCreate (consistent : Consistent rm) (hw : ExtHw) (enc : Nat)
    (mem : Option Nat) (blkMem : Bool) :
    Consistent (sdeRmExtBlkCreateReserve rm hw enc mem blkMem).2 := by
  unfold sdeRmExtBlkCreateReserve
  split
  · exact consistent
  next rsvp rm' found =>
    obtain ⟨-, own, -, consistent'⟩ := extRsvp_some consistent found
    split
    · exact consistent'
    · refine .of_blks consistent'.onePerEncoder fun t b member => ?_
      by_cases same : t = hw.type
      · subst same
        dsimp only at member
        rw [Function.update_self] at member
        cases List.mem_append.mp member with
        | inl old => exact consistent'.blks old
        | inr new =>
          rw [List.mem_singleton.mp new]
          refine ⟨rfl, fun r tagged => ?_⟩
          rw [← Option.some.inj tagged]
          exact (getRsvp_some own).1
      · dsimp only at member
        rw [Function.update_of_ne same] at member
        exact consistent'.blks member

theorem consistent_extDestroy (consistent : Consistent rm) (enc : Nat) :
    Consistent (sdeRmExtBlkDestroy rm enc).2 := by
  unfold sdeRmExtBlkDestroy
  split
  · exact consistent
  next rsvp found =>
    refine .of_blks ?_ fun t b member => ?_
    · exact consistent.onePerEncoder.sublist (List.Sublist.map _ List.erase_sublist)
    · obtain ⟨listed, kept⟩ := List.mem_filter.mp member
      obtain ⟨quiet, tagged⟩ := consistent.blks listed
      refine ⟨quiet, fun r own => ?_⟩
      have other : r ≠ rsvp := by
        rintro rfl
        simp [own] at kept
      exact (List.mem_erase_of_ne other).mpr (tagged r own)

theorem consistent_step (op : Op) (consistent : Consistent rm) : Consistent (step rm op) := by
  cases op with
  | reserve call mem => exact consistent_reserve consistent call mem
  | release enc connector => exact consistent_sdeRmRelease consistent enc connector
  | extCreate hw enc mem blkMem => exact consistent_extCreate consistent hw enc mem blkMem
  | extDestroy enc => exact consistent_extDestroy consistent enc

theorem consistent_init (catalog : (t : HwBlkType) → List (Nat × Caps t))
    (topologyTbl : Nat → TopologyDef) (hasDestScaler : Bool) :
    Consistent (.sdeRmInit catalog topologyTbl hasDestScaler) := by
  refine .of_blks List.nodup_nil fun t b member => ?_
  obtain ⟨hw, -, rfl⟩ := List.mem_map.mp member
  exact ⟨rfl, fun r own => by cases own⟩

theorem consistent_run (catalog : (t : HwBlkType) → List (Nat × Caps t))
    (topologyTbl : Nat → TopologyDef) (hasDestScaler : Bool) (ops : List Op) :
    Consistent (run step (.sdeRmInit catalog topologyTbl hasDestScaler) ops) :=
  run_invariant Consistent (fun _ op => consistent_step op)
    (consistent_init catalog topologyTbl hasDestScaler) ops

/-! ## Other encoders' blocks -/

theorem othersKept_release
    (own : ∀ r, cur = some r → r.encId = enc) : OthersKept enc rm (rm.release cur) := by
  intro ref r tagged other
  rw [SdeRm.tag_release, tagged]
  refine Option.filter_eq_some_iff.mpr ⟨rfl, ?_⟩
  simpa using fun same => other (own r same.symm)

theorem othersKept_cleared (rm : SdeRm) (call : ReserveCall) (reqs : Requirements) :
    OthersKept call.enc rm (cleared rm call reqs) := by
  unfold cleared
  split
  · exact othersKept_release fun r own => (getRsvp_some own).2
  · exact fun _ _ tagged _ => tagged

theorem not_free_of_other {ref : BlkRef}
    (tagged : rm.tag ref = some r) (other : r.encId ≠ enc) : ¬ Free (rm.view enc) ref := by
  intro free
  obtain ⟨b, at_ref, unreserved⟩ := SdeRm.free_view_iff.mp free
  have own : b.rsvp = some r := by simpa [SdeRm.tag, at_ref] using tagged
  simp [HwBlk.reservedByOther, own, other] at unreserved

theorem othersKept_reserve (consistent : Consistent rm) (call : ReserveCall)
    (mem : Option Nat) : OthersKept call.enc rm (sdeRmReserve rm call mem).2 := by
  have outcome := sdeRmReserve_outcome rm call mem
  generalize sdeRmReserve rm call mem = result at outcome
  cases outcome with
  | early ret => exact fun _ _ tagged _ => tagged
  | discarded s staged why =>
    intro ref r tagged other
    rw [staged.tag_discarded]
    exact othersKept_cleared rm call s.reqs ref r tagged other
  | committed s staged answer proposed complete why =>
    intro ref r tagged other
    have base := othersKept_cleared rm call s.reqs ref r tagged other
    have quiet := (consistent_cleared consistent call s.reqs).nothingPending
    have cur := staged.cur_getRsvp consistent
    have fresh : s.cur ≠ some s.nxt := by
      intro same
      exact staged.cleared_fresh.unlisted (getRsvp_some (cur.symm.trans same)).1
    -- the allocators choose free blocks, and this one is another encoder's
    have apart : ref ∉ answer.2 := fun member =>
      not_free_of_other base other (draft_free proposed ref member)
    show (committed _ _ _ _).tag ref = _
    rw [tag_committed quiet fresh, if_neg fun member => apart member.1, base]
    refine Option.filter_eq_some_iff.mpr ⟨rfl, ?_⟩
    rw [cur]
    simpa using fun own => other (getRsvp_some own.symm).2

/-- After any sequence of calls there is at most one reservation per encoder, every block's tag
    is empty or a listed reservation, nothing is pending, and a reserve that succeeds changes no
    block reserved by another encoder. -/
theorem reservation_invariant (catalog : (t : HwBlkType) → List (Nat × Caps t))
    (topologyTbl : Nat → TopologyDef) (hasDestScaler : Bool) (ops : List Op) :
    Consistent (run step (.sdeRmInit catalog topologyTbl hasDestScaler) ops) ∧
    ∀ call mem,
      (sdeRmReserve (run step (.sdeRmInit catalog topologyTbl hasDestScaler) ops) call mem).1 = 0 →
      OthersKept call.enc (run step (.sdeRmInit catalog topologyTbl hasDestScaler) ops)
        (sdeRmReserve (run step (.sdeRmInit catalog topologyTbl hasDestScaler) ops)
          call mem).2 := by
  have consistent := consistent_run catalog topologyTbl hasDestScaler ops
  exact ⟨consistent, fun call mem _ => othersKept_reserve consistent call mem⟩

end DisplayDrivers.Rm
