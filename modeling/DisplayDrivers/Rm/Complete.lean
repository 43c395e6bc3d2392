import Mathlib.Data.Set.Card
import DisplayDrivers.Rm.TestOnly

/-! # Completeness of a successful reservation

A call that returns 0 has proposed what the topology asks for (`Complete`) exactly when there were
enough control paths and, where DSCs come with the mixers' roi misrs, as many DSCs as mixers are
asked for (`proposed_complete_iff`).
-/

namespace DisplayDrivers.Rm

open DisplayDrivers.Lib.PairSearch

/-! ## Complete sets of blocks -/

abbrev Hw := (t : HwBlkType) → Nat → Option (Nat × Caps t)

def Contains (hw : Hw) (set : Set BlkRef) (id : Nat) (t : HwBlkType) : Prop :=
  ∃ i blk, hw t i = some blk ∧ blk.1 = id ∧ (t, i) ∈ set

/-- A set of blocks is what the requirements ask for: as many mixers, control paths and DSCs as
    the topology has, the pingpong of each mixer, and each interface and writeback. -/
structure Complete (hw : Hw) (set : Set BlkRef) (reqs : Requirements) : Prop where
  lms : {ref ∈ set | ref.1 = .lm}.ncard = reqs.topology.numLm
  ctls : {ref ∈ set | ref.1 = .ctl}.ncard = reqs.topology.numCtl
  pingpongs : ∀ i lm, hw .lm i = some lm → (.lm, i) ∈ set →
    Contains hw set lm.2.pingpong .pingpong
  intfs : ∀ asked ∈ reqs.hwRes.requested, Contains hw set asked.1 asked.2
  dscs : {ref ∈ set | ref.1 = .dsc}.ncard = reqs.topology.numCompEnc

theorem ncard_of_list {all refs : List BlkRef} {t : HwBlkType} (nodup : refs.Nodup)
    (same : ∀ ref, ref ∈ all ∧ ref.1 = t ↔ ref ∈ refs) :
    {ref ∈ {ref | ref ∈ all} | ref.1 = t}.ncard = refs.length := by
  have eq : {ref ∈ {ref | ref ∈ all} | ref.1 = t} = (refs.toFinset : Set BlkRef) := by
    ext ref
    rw [List.coe_toFinset]
    exact same ref
  rw [eq, Set.ncard_coe_finset, List.toFinset_card_of_nodup nodup]

/-! ## Blocks through the view -/

variable {rm : SdeRm} {enc : Nat}

theorem view_hw {t : HwBlkType} {b : IterBlk t}
    (member : b ∈ rm.view enc t) : rm.hw t b.pos = some (b.id, b.caps) := by
  obtain ⟨i, at_i⟩ := List.mem_iff_getElem?.mp member
  rw [SdeRm.view, List.getElem?_mapIdx] at at_i
  obtain ⟨blk, here, rfl⟩ := Option.map_eq_some_iff.mp at_i
  exact Option.map_eq_some_iff.mpr ⟨blk, here, rfl⟩

theorem eq_of_ref_eq {t : HwBlkType} {b c : IterBlk t}
    (hb : b ∈ rm.view enc t) (hc : c ∈ rm.view enc t) (same : b.ref = c.ref) :
    b.id = c.id ∧ b.caps = c.caps := by
  have pos : b.pos = c.pos := congrArg Prod.snd same
  have eq := view_hw hb
  rw [pos, view_hw hc] at eq
  obtain ⟨ids, caps⟩ := Prod.mk.inj (Option.some.inj eq)
  exact ⟨ids.symm, caps.symm⟩

theorem contains_of_ref {t : HwBlkType} {b : IterBlk t}
    (member : b ∈ rm.view enc t) {set : Set BlkRef} (tagged : b.ref ∈ set) :
    Contains rm.hw set b.id t :=
  ⟨b.pos, (b.id, b.caps), view_hw member, rfl, tagged⟩

theorem view_refs_nodup (rm : SdeRm) (enc : Nat) (t : HwBlkType) :
    ((rm.view enc t).map (·.ref)).Nodup := by
  have refs : (rm.view enc t).map (·.ref) =
      (List.range (rm.hwBlks t).length).map fun i => (t, i) := by
    refine List.ext_getElem (by simp [SdeRm.view]) fun i _ _ => ?_
    simp [SdeRm.view, IterBlk.ref]
  rw [refs]
  exact List.nodup_range.map fun i j same => congrArg Prod.snd same

theorem refs_nodup {t : HwBlkType} {β : Type} {found : List β}
    {source : β → IterBlk t} (listed : ∀ b ∈ found, source b ∈ rm.view enc t)
    (apart : (found.map fun b => (source b).id % 32).Nodup) :
    (found.map fun b => (source b).ref).Nodup := by
  refine List.pairwise_map.mpr ((List.pairwise_map.mp apart).imp_of_mem ?_)
  intro b c hb hc different same
  exact different (by rw [(eq_of_ref_eq (listed b hb) (listed c hc) same).1])

/-! ## Which types an allocator tags -/

variable {ref : BlkRef}

variable {m : Mixer}

theorem Mixer.mem_refs :
    ref ∈ m.refs ↔ ref = m.lm.ref ∨ ref = m.pp.ref ∨ (∃ b, m.dspp = some b ∧ ref = b.ref) ∨
      (∃ b, m.ds = some b ∧ ref = b.ref) ∨ (∃ b, m.roiMisr = some b ∧ ref = b.ref) ∨
      ∃ b, m.dsc = some b ∧ ref = b.ref := by
  simp only [Mixer.refs, List.mem_append, List.mem_cons, List.not_mem_nil, or_false,
    Option.mem_toList, Option.map_eq_some_iff, or_assoc]
  simp only [eq_comm]

structure Chosen (view : View) (kms : SdeKms) (top : TopologyDef) (found : List Mixer) : Prop where
  count : found.length = top.numLm
  listed : ∀ m ∈ found, m.lm ∈ view .lm
  connected : ∀ m ∈ found, Connected view kms top m
  apart : (found.map fun m => m.lm.id % 32).Nodup

theorem reserveLms_ok {view : View} {kms : SdeKms} {reqs : Requirements}
    {lmIds : Option (Nat → Nat)} (ok : (reserveLms view kms reqs lmIds).1 = 0) :
    ∃ slaves, Chosen view kms reqs.topology (findMixers view kms reqs lmIds) ∧
      (∀ ref ∈ slaves, ref.1 = .pingpong) ∧
      (reserveLms view kms reqs lmIds).2 =
        (findMixers view kms reqs lmIds).flatMap Mixer.refs ++ slaves := by
  obtain ⟨mask, sound⟩ := findMixers_sound view kms reqs lmIds
  have chosen (count : (findMixers view kms reqs lmIds).length = reqs.topology.numLm) :
      Chosen view kms reqs.topology (findMixers view kms reqs lmIds) :=
    ⟨count, sound.listed, sound.good, sound.apart⟩
  unfold reserveLms at ok ⊢
  split
  next noLm =>
    have none : findMixers view kms reqs lmIds = [] :=
      List.eq_nil_of_length_eq_zero (Nat.eq_zero_of_le_zero (noLm ▸ sound.fits))
    exact ⟨[], chosen (by rw [none, noLm, List.length_nil]), by simp, by rw [none]; rfl⟩
  next someLm =>
    rw [if_neg someLm] at ok
    dsimp only at ok ⊢
    split
    next short =>
      rw [if_pos short] at ok
      cases ok
    next enough =>
      rw [if_neg enough] at ok
      split
      next split =>
        rw [if_pos split] at ok
        split
        next isNone =>
          rw [isNone] at ok
          cases ok
        next slave found =>
          exact ⟨[slave.ref], chosen (not_not.mp enough), by simp [IterBlk.ref], rfl⟩
      · exact ⟨[], chosen (not_not.mp enough), by simp, by rw [List.append_nil]⟩

variable {top : TopologyDef}

theorem reserveCtls_type {view : View} {reqs : Requirements} {ctlIds : Option (Nat → Nat)}
    (member : ref ∈ (reserveCtls view reqs top ctlIds).2) : ref.1 = .ctl := by
  unfold reserveCtls at member
  split at member
  · cases member
  dsimp only at member
  split at member
  · cases member
  · obtain ⟨b, -, rfl⟩ := List.mem_map.mp member
    rfl

variable {dscIds : Option (Nat → Nat)}

theorem reserveDsc_type {view : View} {kms : SdeKms}
    (member : ref ∈ (reserveDsc view kms top dscIds).2) : ref.1 = .dsc := by
  unfold reserveDsc at member
  split at member
  · cases member
  split at member
  · cases member
  dsimp only at member
  split at member
  · cases member
  · obtain ⟨b, -, rfl⟩ := List.mem_map.mp member
    rfl

theorem reserveQdss_type {view : View} {kms : SdeKms}
    (member : ref ∈ (reserveQdss view kms).2) : ref.1 = .qdss := by
  unfold reserveQdss at member
  split at member
  · rw [List.mem_singleton.mp member]
    rfl
  · split at member <;> cases member

theorem Answer.mem_andThen {a b : Answer} (member : ref ∈ (a.andThen b).2) :
    ref ∈ a.2 ∨ ref ∈ b.2 := by
  unfold Answer.andThen at member
  split at member
  · exact .inl member
  · exact List.mem_append.mp member

theorem Answer.andThen_ok {a b : Answer} (ok : (a.andThen b).1 = 0) :
    a.1 = 0 ∧ b.1 = 0 ∧ (a.andThen b).2 = a.2 ++ b.2 := by
  unfold Answer.andThen at ok ⊢
  split
  next failed =>
    rw [if_pos failed] at ok
    exact absurd ok failed
  next passed =>
    rw [if_neg passed] at ok
    exact ⟨not_not.mp passed, ok, rfl⟩

variable {hwRes : HwResources}

theorem requested_type {asked : Nat × HwBlkType}
    (member : asked ∈ hwRes.requested) : asked.2 = .intf ∨ asked.2 = .wb := by
  cases List.mem_append.mp member with
  | inl intf =>
    obtain ⟨m, -, rfl⟩ := List.mem_map.mp intf
    exact .inl rfl
  | inr wb =>
    obtain ⟨m, -, rfl⟩ := List.mem_map.mp wb
    exact .inr rfl

theorem reserveIntfOrWb_type {view : View} {id : Nat} {type : HwBlkType} {needsCdm : Bool}
    (member : ref ∈ (reserveIntfOrWb view id type needsCdm).2) :
    ref.1 = type ∨ ref.1 = .cdm := by
  unfold reserveIntfOrWb at member
  split at member
  · cases member
  split at member
  · cases member
  cases Answer.mem_andThen member with
  | inl own =>
    rw [List.mem_singleton.mp own]
    exact .inl rfl
  | inr cdm =>
    split at cdm
    · unfold reserveCdm at cdm
      dsimp only at cdm
      split at cdm
      · rw [List.mem_singleton.mp cdm]
        exact .inr rfl
      · cases cdm
    · cases cdm

theorem reserveIntfRelatedHw_type {view : View}
    (member : ref ∈ (reserveIntfRelatedHw view hwRes).2) :
    ref.1 = .intf ∨ ref.1 = .wb ∨ ref.1 = .cdm := by
  -- only blocks that were asked for are tagged, so the type is known of each
  suffices general : ∀ l ⊆ hwRes.requested, ref ∈ (l.foldr
      (fun r rest => (reserveIntfOrWb view r.1 r.2 hwRes.needsCdm).andThen rest) (0, [])).2 →
      ref.1 = .intf ∨ ref.1 = .wb ∨ ref.1 = .cdm from
    general _ (List.Subset.refl _) member
  intro l
  induction l with
  | nil =>
    intro _ isNone
    cases isNone
  | cons asked rest ih =>
    intro sub tagged
    cases Answer.mem_andThen tagged with
    | inl first =>
      have type := requested_type (sub List.mem_cons_self)
      cases reserveIntfOrWb_type first with
      | inl own =>
        rw [own]
        exact type.imp_right .inl
      | inr cdm => exact .inr (.inr cdm)
    | inr later => exact ih (fun x member => sub (List.mem_cons_of_mem _ member)) later

theorem reserveIntfRelatedHw_ok {view : View} (ok : (reserveIntfRelatedHw view hwRes).1 = 0) :
    ∀ asked ∈ hwRes.requested, ∃ b ∈ view asked.2, b.id = asked.1 ∧
      b.ref ∈ (reserveIntfRelatedHw view hwRes).2 := by
  unfold reserveIntfRelatedHw at ok ⊢
  generalize hwRes.requested = l at ok ⊢
  induction l with
  | nil => simp
  | cons first rest ih =>
    obtain ⟨first_ok, rest_ok, refs⟩ := Answer.andThen_ok ok
    rw [List.foldr_cons, refs]
    intro asked member
    rcases List.mem_cons.mp member with rfl | later
    · unfold reserveIntfOrWb at first_ok ⊢
      split
      next missing =>
        rw [missing] at first_ok
        cases first_ok
      next b found =>
        rw [found] at first_ok
        dsimp only at first_ok
        split
        next taken =>
          rw [if_pos taken] at first_ok
          cases first_ok
        next free =>
          rw [if_neg free] at first_ok
          refine ⟨b, List.mem_of_find?_eq_some found, by simpa using List.find?_some found, ?_⟩
          rw [(Answer.andThen_ok first_ok).2.2]
          simp
    · obtain ⟨b, listed, same, tagged⟩ := ih rest_ok asked later
      exact ⟨b, listed, same, List.mem_append_right _ tagged⟩

/-! ## Control paths and DSCs -/

def suitableCtls (rm : SdeRm) (enc : Nat) (reqs : Requirements) : List (IterBlk .ctl) :=
  (rm.view enc .ctl).filter (ctlSuits reqs reqs.topology false)

theorem reserveCtls_nodup (rm : SdeRm) (enc : Nat) (reqs : Requirements) (top : TopologyDef) :
    (reserveCtls (rm.view enc) reqs top none).2.Nodup := by
  unfold reserveCtls
  split
  · exact List.nodup_nil
  dsimp only
  split
  · exact List.nodup_nil
  · exact ((pick_sublist _ _ _).map _).nodup (view_refs_nodup rm enc .ctl)

theorem reserveCtls_count (rm : SdeRm) (enc : Nat) (reqs : Requirements) :
    (reserveCtls (rm.view enc) reqs reqs.topology none).2.length = reqs.topology.numCtl ↔
      reqs.topology.numCtl ≤ (suitableCtls rm enc reqs).length := by
  -- without splash ids the place does not matter
  have picked : pick reqs.topology.numCtl
      (fun i ctl => ctlSuits reqs reqs.topology (none : Option (Nat → Nat)).isSome ctl &&
        idMatches none i ctl.id) (rm.view enc .ctl) =
      (suitableCtls rm enc reqs).take reqs.topology.numCtl := by
    simp only [idMatches, Bool.and_true, Option.isSome_none]
    exact pick_eq_take _ _ _
  unfold reserveCtls
  dsimp only
  rw [picked, List.length_take]
  by_cases noCtl : reqs.topology.numCtl = 0
  · simp [noCtl]
  · rw [if_neg noCtl]
    by_cases enough : reqs.topology.numCtl ≤ (suitableCtls rm enc reqs).length
    · simp [enough]
    · have short : min reqs.topology.numCtl (suitableCtls rm enc reqs).length ≠
          reqs.topology.numCtl := fun same => enough (min_eq_left_iff.mp same)
      rw [if_pos short]
      simp [enough, Ne.symm noCtl]

theorem reserveDsc_nodup (rm : SdeRm) (enc : Nat) (kms : SdeKms) (top : TopologyDef)
    (dscIds : Option (Nat → Nat)) :
    (reserveDsc (rm.view enc) kms top dscIds).2.Nodup := by
  unfold reserveDsc
  split
  · exact List.nodup_nil
  split
  · exact List.nodup_nil
  dsimp only
  split
  · exact List.nodup_nil
  · have sound := findDscs_sound (rm.view enc) top.numCompEnc dscIds
    exact refs_nodup sound.listed sound.apart

theorem reserveDsc_count {view : View} {kms : SdeKms}
    (ok : (reserveDsc view kms top dscIds).1 = 0)
    (pool : kms.hasRoiMisr = false) :
    (reserveDsc view kms top dscIds).2.length = top.numCompEnc := by
  unfold reserveDsc at ok ⊢
  split
  next isNone => exact isNone.symm
  next notNone =>
    rw [if_neg notNone, if_neg (by simp [pool])] at ok
    rw [if_neg (by simp [pool])]
    dsimp only at ok ⊢
    split
    next short =>
      rw [if_pos short] at ok
      cases ok
    next enough =>
      rw [List.length_map]
      exact not_not.mp enough

/-- Two mixers with different ids are not wired to one roi misr that has a DSC.
    `sde_mixer_parse_dt` numbers the roi misrs of the mixers one after the other. -/
def WiredApart (rm : SdeRm) : Prop :=
  ∀ i j lm lm', rm.hw .lm i = some lm → rm.hw .lm j = some lm' → lm.1 ≠ lm'.1 →
    lm.2.roiMisr = lm'.2.roiMisr → ∀ k dsc, rm.hw .dsc k = some dsc → dsc.1 ≠ lm.2.roiMisr

/-! ## The proposal, type by type -/

structure Proposal (view : View) (kms : SdeKms) (reqs : Requirements) (found : List Mixer)
    (slaves : List BlkRef) : Prop where
  chosen : Chosen view kms reqs.topology found
  slaves_type : ∀ ref ∈ slaves, ref.1 = .pingpong
  intf_ok : (reserveIntfRelatedHw view reqs.hwRes).1 = 0
  dsc_ok : (reserveDsc view kms reqs.topology none).1 = 0
  refs_eq : (nextAnswer view kms reqs).2 =
    ((found.flatMap Mixer.refs ++ slaves) ++ (reserveCtls view reqs reqs.topology none).2) ++
      (((reserveIntfRelatedHw view reqs.hwRes).2 ++ (reserveDsc view kms reqs.topology none).2) ++
        (reserveQdss view kms).2)

theorem nextAnswer_ok {view : View} {kms : SdeKms} {reqs : Requirements}
    (ok : (nextAnswer view kms reqs).1 = 0) :
    ∃ found slaves, Proposal view kms reqs found slaves := by
  have lms_ok : (reserveLms view kms reqs none).1 = 0 := by
    by_contra failed
    rw [nextAnswer, answerAfterLms, if_pos failed] at ok
    exact failed ok
  have eq : nextAnswer view kms reqs = _ := if_neg (not_not.mpr lms_ok)
  rw [eq] at ok
  obtain ⟨before_ok, -, refs⟩ := Answer.andThen_ok ok
  obtain ⟨intf_ok, dsc_ok, refs'⟩ := Answer.andThen_ok before_ok
  obtain ⟨slaves, chosen, slaves_type, lms_refs⟩ := reserveLms_ok lms_ok
  refine ⟨_, slaves, chosen, slaves_type, intf_ok, dsc_ok, ?_⟩
  rw [eq]
  dsimp only
  rw [refs, refs', lms_refs]

namespace Proposal

variable {view : View} {kms : SdeKms} {reqs : Requirements} {found : List Mixer}
  {slaves : List BlkRef}

section

variable (p : Proposal view kms reqs found slaves)

include p

theorem mem_iff (ref : BlkRef) : ref ∈ (nextAnswer view kms reqs).2 ↔
      (∃ m ∈ found, ref ∈ m.refs) ∨ ref ∈ slaves ∨
        ref ∈ (reserveCtls view reqs reqs.topology none).2 ∨
        ref ∈ (reserveIntfRelatedHw view reqs.hwRes).2 ∨
        ref ∈ (reserveDsc view kms reqs.topology none).2 ∨ ref ∈ (reserveQdss view kms).2 := by
  rw [p.refs_eq]
  simp only [List.mem_append, List.mem_flatMap, or_assoc]

theorem mem_cases (member : ref ∈ (nextAnswer view kms reqs).2) :
    (∃ m ∈ found, ref = m.lm.ref) ∨ (∃ m ∈ found, ∃ b, m.dsc = some b ∧ ref = b.ref) ∨
      ref ∈ (reserveCtls view reqs reqs.topology none).2 ∨
      ref ∈ (reserveDsc view kms reqs.topology none).2 ∨
      (ref.1 ≠ .lm ∧ ref.1 ≠ .ctl ∧ ref.1 ≠ .dsc) := by
  rcases (p.mem_iff ref).mp member with ⟨m, chosen, own⟩ | slave | ctl | intf | dsc | qdss
  · rcases Mixer.mem_refs.mp own with
      rfl | rfl | ⟨b, -, rfl⟩ | ⟨b, -, rfl⟩ | ⟨b, -, rfl⟩ | ⟨b, wired, rfl⟩
    · exact .inl ⟨m, chosen, rfl⟩
    · simp [IterBlk.ref]
    · simp [IterBlk.ref]
    · simp [IterBlk.ref]
    · simp [IterBlk.ref]
    · exact .inr (.inl ⟨m, chosen, b, wired, rfl⟩)
  · simp [p.slaves_type ref slave]
  · exact .inr (.inr (.inl ctl))
  · rcases reserveIntfRelatedHw_type intf with own | own | own <;> simp [own]
  · exact .inr (.inr (.inr (.inl dsc)))
  · simp [reserveQdss_type qdss]

theorem mem_lm (ref : BlkRef) :
    ref ∈ (nextAnswer view kms reqs).2 ∧ ref.1 = .lm ↔ ref ∈ found.map fun m => m.lm.ref := by
  constructor
  · rintro ⟨member, type⟩
    rcases p.mem_cases member with ⟨m, chosen, rfl⟩ | ⟨m, -, b, -, rfl⟩ | ctl | dsc | other
    · exact List.mem_map_of_mem chosen
    · cases type
    · cases (reserveCtls_type ctl).symm.trans type
    · cases (reserveDsc_type dsc).symm.trans type
    · exact absurd type other.1
  · intro member
    obtain ⟨m, chosen, rfl⟩ := List.mem_map.mp member
    exact ⟨(p.mem_iff _).mpr (.inl ⟨m, chosen, Mixer.mem_refs.mpr (.inl rfl)⟩), rfl⟩

theorem mem_ctl (ref : BlkRef) : ref ∈ (nextAnswer view kms reqs).2 ∧ ref.1 = .ctl ↔
      ref ∈ (reserveCtls view reqs reqs.topology none).2 := by
  constructor
  · rintro ⟨member, type⟩
    rcases p.mem_cases member with ⟨m, -, rfl⟩ | ⟨m, -, b, -, rfl⟩ | ctl | dsc | other
    · cases type
    · cases type
    · exact ctl
    · cases (reserveDsc_type dsc).symm.trans type
    · exact absurd type other.2.1
  · intro member
    exact ⟨(p.mem_iff ref).mpr (.inr (.inr (.inl member))), reserveCtls_type member⟩

theorem mem_dsc (ref : BlkRef) : ref ∈ (nextAnswer view kms reqs).2 ∧ ref.1 = .dsc ↔
      (∃ m ∈ found, ∃ b, m.dsc = some b ∧ ref = b.ref) ∨
        ref ∈ (reserveDsc view kms reqs.topology none).2 := by
  constructor
  · rintro ⟨member, type⟩
    rcases p.mem_cases member with ⟨m, -, rfl⟩ | wired | ctl | dsc | other
    · cases type
    · exact .inl wired
    · cases (reserveCtls_type ctl).symm.trans type
    · exact .inr dsc
    · exact absurd type other.2.2
  · rintro (⟨m, chosen, b, wired, rfl⟩ | member)
    · have own := Mixer.mem_refs.mpr (.inr (.inr (.inr (.inr (.inr ⟨b, wired, rfl⟩)))))
      exact ⟨(p.mem_iff _).mpr (.inl ⟨m, chosen, own⟩), rfl⟩
    · refine ⟨(p.mem_iff ref).mpr (.inr (.inr (.inr (.inr (.inl member))))), ?_⟩
      exact reserveDsc_type member

end

end Proposal

theorem Connected.no_dsc {view : View} {kms : SdeKms} (connected : Connected view kms top m)
    (pool : (top.numCompEnc != 0 && kms.hasRoiMisr) = false) : m.dsc = none := by
  have wired := connected.dsc_wired
  rw [pool] at wired
  exact (Option.some.inj wired).symm

theorem Connected.has_dsc {view : View} {kms : SdeKms} (connected : Connected view kms top m)
    (roi : (top.numCompEnc != 0 && kms.hasRoiMisr) = true) :
    ∃ b ∈ view .dsc, m.dsc = some b ∧ b.id = m.lm.caps.roiMisr := by
  have wired := connected.dsc_wired
  rw [roi, connectedBlkIf, if_pos rfl] at wired
  obtain ⟨b, got, same⟩ := Option.map_eq_some_iff.mp wired
  obtain ⟨found, listed, -⟩ := connectedBlk_some got
  exact ⟨b, listed, same.symm, by simpa using List.find?_some found⟩

def Mixer.dscRef (m : Mixer) : BlkRef :=
  match m.dsc with
  | some b => b.ref
  | none => (.dsc, 0)

theorem Mixer.dscRef_eq {b : IterBlk .dsc} (wired : m.dsc = some b) : m.dscRef = b.ref := by
  rw [dscRef, wired]

theorem dscRefs_nodup {kms : SdeKms}
    {found : List Mixer} (chosen : Chosen (rm.view enc) kms top found) (wired : WiredApart rm)
    (roi : (top.numCompEnc != 0 && kms.hasRoiMisr) = true) : (found.map Mixer.dscRef).Nodup := by
  refine List.pairwise_map.mpr ((List.pairwise_map.mp chosen.apart).imp_of_mem ?_)
  intro m m' member member' different same
  obtain ⟨b, listed, own, id⟩ := (chosen.connected m member).has_dsc roi
  obtain ⟨b', listed', own', id'⟩ := (chosen.connected m' member').has_dsc roi
  rw [Mixer.dscRef_eq own, Mixer.dscRef_eq own'] at same
  -- one DSC for both would be the DSC of one roi misr
  have shared := (eq_of_ref_eq listed listed' same).1
  refine wired _ _ _ _ (view_hw (chosen.listed m member)) (view_hw (chosen.listed m' member'))
    (fun ids => different (congrArg (· % 32) ids)) ?_ _ _ (view_hw listed) id
  exact id.symm.trans (shared.trans id')

theorem Proposal.dsc_count {kms : SdeKms} {reqs : Requirements}
    {found : List Mixer} {slaves : List BlkRef}
    (p : Proposal (rm.view enc) kms reqs found slaves)
    (wired : kms.hasRoiMisr = true → WiredApart rm) :
    {ref ∈ {ref | ref ∈ (nextAnswer (rm.view enc) kms reqs).2} | ref.1 = .dsc}.ncard =
      if (reqs.topology.numCompEnc != 0 && kms.hasRoiMisr) = true then reqs.topology.numLm
      else reqs.topology.numCompEnc := by
  split
  next roi =>
    have roi' := roi
    rw [Bool.and_eq_true, bne_iff_ne] at roi'
    have pool : (reserveDsc (rm.view enc) kms reqs.topology none).2 = [] := by
      rw [reserveDsc, if_neg roi'.1, if_pos roi'.2]
    rw [ncard_of_list (dscRefs_nodup p.chosen (wired roi'.2) roi), List.length_map, p.chosen.count]
    intro ref
    rw [p.mem_dsc, pool, List.mem_map]
    constructor
    · rintro (⟨m, member, b, own, rfl⟩ | isNone)
      · exact ⟨m, member, Mixer.dscRef_eq own⟩
      · cases isNone
    · rintro ⟨m, member, rfl⟩
      obtain ⟨b, -, own, -⟩ := (p.chosen.connected m member).has_dsc roi
      exact .inl ⟨m, member, b, own, Mixer.dscRef_eq own⟩
  next noRoi =>
    rw [Bool.not_eq_true] at noRoi
    have count : (reserveDsc (rm.view enc) kms reqs.topology none).2.length =
        reqs.topology.numCompEnc := by
      by_cases isNone : reqs.topology.numCompEnc = 0
      · rw [reserveDsc, if_pos isNone]
        exact isNone.symm
      · exact reserveDsc_count p.dsc_ok (by simpa [isNone] using noRoi)
    rw [ncard_of_list (reserveDsc_nodup rm enc kms _ none), count]
    intro ref
    rw [p.mem_dsc]
    constructor
    · rintro (⟨m, member, b, own, rfl⟩ | member)
      · rw [(p.chosen.connected m member).no_dsc noRoi] at own
        cases own
      · exact member
    · exact .inr

/-! ## When a call that returns 0 is complete -/

structure Enough (rm : SdeRm) (enc : Nat) (kms : SdeKms) (reqs : Requirements) : Prop where
  ctls : reqs.topology.numCtl ≤ (suitableCtls rm enc reqs).length
  dscs : kms.hasRoiMisr = true →
    reqs.topology.numCompEnc = 0 ∨ reqs.topology.numCompEnc = reqs.topology.numLm

theorem nextAnswer_complete_iff {kms : SdeKms} {reqs : Requirements}
    (ok : (nextAnswer (rm.view enc) kms reqs).1 = 0)
    (wired : kms.hasRoiMisr = true → WiredApart rm) :
    Complete rm.hw {ref | ref ∈ (nextAnswer (rm.view enc) kms reqs).2} reqs ↔
      Enough rm enc kms reqs := by
  obtain ⟨found, slaves, p⟩ := nextAnswer_ok ok
  have lms : {ref ∈ {ref | ref ∈ (nextAnswer (rm.view enc) kms reqs).2} | ref.1 = .lm}.ncard =
      reqs.topology.numLm := by
    rw [ncard_of_list (refs_nodup p.chosen.listed p.chosen.apart) p.mem_lm, List.length_map,
      p.chosen.count]
  have ctls : {ref ∈ {ref | ref ∈ (nextAnswer (rm.view enc) kms reqs).2} | ref.1 = .ctl}.ncard =
      reqs.topology.numCtl ↔ reqs.topology.numCtl ≤ (suitableCtls rm enc reqs).length := by
    rw [ncard_of_list (reserveCtls_nodup rm enc reqs _) p.mem_ctl]
    exact reserveCtls_count rm enc reqs
  have dscs : {ref ∈ {ref | ref ∈ (nextAnswer (rm.view enc) kms reqs).2} | ref.1 = .dsc}.ncard =
      reqs.topology.numCompEnc ↔ (kms.hasRoiMisr = true →
        reqs.topology.numCompEnc = 0 ∨ reqs.topology.numCompEnc = reqs.topology.numLm) := by
    rw [p.dsc_count wired]
    cases kms.hasRoiMisr with
    | false => simp
    | true =>
      by_cases isNone : reqs.topology.numCompEnc = 0
      · simp [isNone]
      · simpa [isNone] using eq_comm
  constructor
  · intro complete
    exact ⟨ctls.mp complete.ctls, dscs.mp complete.dscs⟩
  · intro enough
    refine ⟨lms, ctls.mpr enough.ctls, ?_, ?_, dscs.mpr enough.dscs⟩
    · intro i lm at_i tagged
      -- a tagged mixer is a chosen one, and its pingpong was tagged with it
      obtain ⟨m, chosen, same⟩ := List.mem_map.mp ((p.mem_lm _).mp ⟨tagged, rfl⟩)
      obtain rfl : m.lm.pos = i := congrArg Prod.snd same
      have wiring := view_hw (p.chosen.listed m chosen)
      obtain rfl := Option.some.inj (wiring.symm.trans at_i)
      obtain ⟨first, listed, -⟩ := connectedBlk_some (p.chosen.connected m chosen).pp_wired
      have id : m.pp.id = m.lm.caps.pingpong := by simpa using List.find?_some first
      have own : m.pp.ref ∈ m.refs := Mixer.mem_refs.mpr (.inr (.inl rfl))
      have proposed : m.pp.ref ∈ (nextAnswer (rm.view enc) kms reqs).2 :=
        (p.mem_iff _).mpr (.inl ⟨m, chosen, own⟩)
      rw [← id]
      exact contains_of_ref listed proposed
    · intro asked member
      obtain ⟨b, listed, id, tagged⟩ := reserveIntfRelatedHw_ok p.intf_ok asked member
      have proposed : b.ref ∈ (nextAnswer (rm.view enc) kms reqs).2 :=
        (p.mem_iff _).mpr (.inr (.inr (.inr (.inl tagged))))
      rw [← id]
      exact contains_of_ref listed proposed

def Commits (enc : Nat) (rm rm' : SdeRm) (r : Rsvp) : Prop :=
  r ∈ rm'.rsvps ∧ r.encId = enc ∧ r ∉ rm.rsvps

def CommitsNothing (rm rm' : SdeRm) : Prop :=
  rm'.rsvps ⊆ rm.rsvps ∧ ∀ ref r, rm'.tag ref = some r → rm.tag ref = some r

theorem cleared_commitsNothing (rm : SdeRm) (call : ReserveCall) (reqs : Requirements) :
    CommitsNothing rm (cleared rm call reqs) := by
  refine ⟨rsvps_cleared_subset rm call reqs, ?_⟩
  unfold cleared
  split
  · intro ref r tagged
    rw [SdeRm.tag_release] at tagged
    exact (Option.filter_eq_some_iff.mp tagged).1
  · exact fun _ _ tagged => tagged

theorem failed_commitsNothing (rm : SdeRm) (call : ReserveCall) (mem : Option Nat)
    (failed : (sdeRmReserve rm call mem).1 ≠ 0) :
    CommitsNothing rm (sdeRmReserve rm call mem).2 := by
  have outcome := sdeRmReserve_outcome rm call mem
  generalize sdeRmReserve rm call mem = result at outcome failed
  cases outcome with
  | early ret => exact ⟨List.Subset.refl _, fun _ _ tagged => tagged⟩
  | discarded s staged why =>
    have base := cleared_commitsNothing rm call s.reqs
    refine ⟨staged.rsvps_discarded ▸ base.1, fun ref r tagged => base.2 ref r ?_⟩
    exact (staged.tag_discarded ref).symm.trans tagged
  | committed s staged answer proposed complete why => exact absurd rfl failed

variable {call : ReserveCall} {mem : Option Nat}

theorem commits_proposed {r : Rsvp} (commits : Commits call.enc rm (sdeRmReserve rm call mem).2 r) :
    (sdeRmReserve rm call mem).1 = 0 ∧
      ¬ (!sdeRmIsDisplayInContSplash call.kms call.enc && !call.needsModeset) = true ∧
      {ref | (sdeRmReserve rm call mem).2.tag ref = some r} = proposedBy rm call mem := by
  have foreseen : proposedBy rm call mem = _ := congrArg Prod.snd (reserve_forecast rm call mem)
  have outcome := sdeRmReserve_outcome rm call mem
  generalize sdeRmReserve rm call mem = result at outcome commits
  obtain ⟨listed, -, new⟩ := commits
  cases outcome with
  | early ret => exact absurd listed new
  | discarded s staged why =>
    rw [staged.rsvps_discarded] at listed
    exact absurd (rsvps_cleared_subset rm call s.reqs listed) new
  | committed s staged answer proposed complete why =>
    have other : s.cur ≠ some s.nxt := fun same =>
      staged.fresh.unlisted (staged.cur_own same).1
    -- the only reservation that was not on the list before is the proposed one
    obtain rfl : r = s.nxt := by
      cases List.mem_append.mp (rsvps_committed_subset _ _ _ _ listed) with
      | inl old => exact absurd (rsvps_cleared_subset rm call s.reqs old) new
      | inr own => exact List.mem_singleton.mp own
    refine ⟨rfl, staged.performs, ?_⟩
    have seen := proposed
    rw [view_cleared] at seen
    rw [foreseen, forecast, if_neg staged.performs, staged.populated, staged.allocated]
    simp only [Option.isSome_some, Bool.not_true, Bool.false_eq_true, if_false, seen]
    refine Set.ext fun ref => ?_
    refine (tag_committed_nxt staged.cleared_fresh other answer.2 ref).trans
      ⟨And.left, fun member => ?_⟩
    exact ⟨member, SdeRm.exists_blk_of_free (draft_free proposed ref member)⟩

theorem proposed_complete_iff
    {reqs : Requirements} (populated : populateRequirements rm call = some reqs)
    (notSplash : sdeRmIsDisplayInContSplash call.kms call.enc = false)
    (performs : ¬ (!sdeRmIsDisplayInContSplash call.kms call.enc && !call.needsModeset) = true)
    (ok : (sdeRmReserve rm call mem).1 = 0)
    (wired : call.kms.hasRoiMisr = true → WiredApart rm) :
    Complete rm.hw (proposedBy rm call mem) reqs ↔ Enough rm call.enc call.kms reqs := by
  have foreseen := reserve_forecast rm call mem
  rw [forecast, if_neg performs, populated] at foreseen
  dsimp only at foreseen
  cases hasMem : (rm.kzalloc mem).isSome with
  | false =>
    rw [hasMem, ok] at foreseen
    cases (Prod.mk.inj foreseen).1
  | true =>
    rw [hasMem, draft, notSplash, ok] at foreseen
    obtain ⟨ret, proposed⟩ := Prod.mk.inj foreseen
    rw [proposed]
    exact nextAnswer_complete_iff ret.symm wired

/-- Outside continuous splash a call that fails commits nothing.  What a call that returns 0
    commits, or proposes where it is a test, is what the requirements ask for exactly when there
    is enough. -/
theorem reserve_complete_iff (rm : SdeRm) (call : ReserveCall) (mem : Option Nat)
    (notSplash : sdeRmIsDisplayInContSplash call.kms call.enc = false)
    (wired : call.kms.hasRoiMisr = true → WiredApart rm) :
    ((sdeRmReserve rm call mem).1 ≠ 0 → CommitsNothing rm (sdeRmReserve rm call mem).2) ∧
    ∀ reqs, populateRequirements rm call = some reqs →
      (∀ r, Commits call.enc rm (sdeRmReserve rm call mem).2 r →
        (Complete (sdeRmReserve rm call mem).2.hw
          {ref | (sdeRmReserve rm call mem).2.tag ref = some r} reqs ↔
          Enough rm call.enc call.kms reqs)) ∧
      (call.needsModeset = true → (sdeRmReserve rm call mem).1 = 0 →
        (Complete rm.hw (proposedBy rm call mem) reqs ↔ Enough rm call.enc call.kms reqs)) := by
  refine ⟨failed_commitsNothing rm call mem, fun reqs populated => ?_⟩
  refine ⟨fun r commits => ?_, fun modeset ok => ?_⟩
  · obtain ⟨ok, performs, tagged⟩ := commits_proposed commits
    rw [tagged, hw_reserve]
    exact proposed_complete_iff populated notSplash performs ok wired
  · exact proposed_complete_iff populated notSplash (by simp [modeset]) ok wired

theorem reserve_complete_iff_oneCtl :
    Complete oneCtl.hw (proposedBy oneCtl (singlepipeCall 31 [.video] false) (some 8))
      ⟨0, ⟨.singlepipe, 1, 0, 1, 1, false⟩, (singlepipeCall 31 [.video] false).hwRes⟩ :=
  (((reserve_complete_iff oneCtl (singlepipeCall 31 [.video] false) (some 8) rfl
    (fun roi => by cases roi)).2 _ rfl).2 rfl (by decide)).mpr
    ⟨by decide, fun roi => by cases roi⟩

def ctlTaken : SdeRm := (sdeRmReserve oneCtl (singlepipeCall 31 [.video] false) (some 8)).2

/-- Encoder 32 gets a mixer and an interface, but no control path, and the call returns 0. -/
theorem commits_without_ctl :
    (sdeRmReserve ctlTaken (singlepipeCall 32 [.none, .video] false) (some 9)).1 = 0 ∧
    ∃ r reqs, populateRequirements ctlTaken (singlepipeCall 32 [.none, .video] false) = some reqs ∧
      Commits 32 ctlTaken
        (sdeRmReserve ctlTaken (singlepipeCall 32 [.none, .video] false) (some 9)).2 r ∧
      ¬ Complete (sdeRmReserve ctlTaken (singlepipeCall 32 [.none, .video] false) (some 9)).2.hw
        {ref | (sdeRmReserve ctlTaken (singlepipeCall 32 [.none, .video] false) (some 9)).2.tag
          ref = some r} reqs := by
  refine ⟨by decide, ⟨9, 2, 32, .singlepipe⟩,
    ⟨0, ⟨.singlepipe, 1, 0, 1, 1, false⟩, (singlepipeCall 32 [.none, .video] false).hwRes⟩, rfl,
    ⟨by decide, rfl, by decide⟩, ?_⟩
  intro complete
  have count := complete.ctls
  rw [Set.eq_empty_of_forall_notMem (s := {ref ∈ _ | _}) ?_, Set.ncard_empty] at count
  · cases count
  · rintro ⟨t, i⟩ ⟨tagged, rfl⟩
    obtain ⟨b, member, own⟩ := tag_mem tagged
    have listed := List.mem_map_of_mem (f := (·.rsvp)) member
    rw [own] at listed
    dsimp only at listed
    revert listed
    decide

end DisplayDrivers.Rm
