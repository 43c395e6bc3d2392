import Mathlib.Data.Option.Basic
import DisplayDrivers.Rm.Select

/-! # What the allocators grant

Every block an allocator tags is on its list and not reserved by another encoder
(`nextAnswer_free`). Where the mixers, the control paths and the DSCs are found, each is as many
different blocks as the topology asks for.
-/

namespace DisplayDrivers.Rm

open DisplayDrivers.Lib.PairSearch

def Free (view : View) (ref : BlkRef) : Prop :=
  ∃ b ∈ view ref.1, b.ref = ref ∧ b.reservedByOther = false

variable {view : View}

theorem free_of_mem {t : HwBlkType} {b : IterBlk t} (member : b ∈ view t)
    (free : b.reservedByOther = false) : Free view b.ref :=
  ⟨b, member, rfl, free⟩

def AllFree (view : View) (refs : List BlkRef) : Prop := ∀ ref ∈ refs, Free view ref

@[simp] theorem allFree_nil (view : View) : AllFree view [] := by simp [AllFree]

@[simp] theorem allFree_singleton (view : View) (ref : BlkRef) :
    AllFree view [ref] ↔ Free view ref := by simp [AllFree]

@[simp] theorem allFree_append (view : View) (a b : List BlkRef) :
    AllFree view (a ++ b) ↔ AllFree view a ∧ AllFree view b := by
  simp only [AllFree, List.mem_append, or_imp, forall_and]

theorem allFree_toList {t : HwBlkType} {o : Option (IterBlk t)}
    (free : ∀ b, o = some b → Free view b.ref) : AllFree view (o.map (·.ref)).toList := by
  cases o with
  | none => simp
  | some b => simpa using free b rfl

theorem Answer.andThen_free {a b : Answer} (ha : AllFree view a.2)
    (hb : AllFree view b.2) : AllFree view (a.andThen b).2 := by
  unfold Answer.andThen
  split
  · exact ha
  · exact (allFree_append view a.2 b.2).mpr ⟨ha, hb⟩

/-! ## Layer mixers -/

theorem connectedBlk_some {t : HwBlkType} {blks : List (IterBlk t)} {id : Nat} {b : IterBlk t}
    (h : connectedBlk blks id = some b) :
    blks.find? (fun b => b.id == id) = some b ∧ b ∈ blks ∧ b.reservedByOther = false := by
  obtain ⟨found, free⟩ := Option.filter_eq_some_iff.mp h
  exact ⟨found, List.mem_of_find?_eq_some found, by simpa using free⟩

theorem connectedBlkIf_free {t : HwBlkType} {needed : Bool} {id : Nat}
    {o : Option (IterBlk t)} (h : connectedBlkIf needed (view t) id = some o) :
    ∀ b, o = some b → Free view b.ref := by
  rintro b rfl
  unfold connectedBlkIf at h
  split at h
  · obtain ⟨b', found, same⟩ := Option.map_eq_some_iff.mp h
    obtain rfl := Option.some.inj same
    obtain ⟨-, member, free⟩ := connectedBlk_some found
    exact free_of_mem member free
  · cases h

structure Connected (view : View) (kms : SdeKms) (top : TopologyDef) (m : Mixer) : Prop where
  lm_free : m.lm.reservedByOther = false
  dspp_free : ∀ b, m.dspp = some b → Free view b.ref
  ds_free : ∀ b, m.ds = some b → Free view b.ref
  roiMisr_free : ∀ b, m.roiMisr = some b → Free view b.ref
  pp_wired : connectedBlk (view .pingpong) m.lm.caps.pingpong = some m.pp
  dsc_wired : connectedBlkIf (top.numCompEnc != 0 && kms.hasRoiMisr) (view .dsc)
    m.lm.caps.roiMisr = some m.dsc

theorem checkLm_some {kms : SdeKms} {reqs : Requirements} {lm : IterBlk .lm}
    {primaryLm : Option (IterBlk .lm)} {m : Mixer}
    (h : checkLmAndGetConnectedBlks view kms reqs lm primaryLm = some m) :
    m.lm = lm ∧ Connected view kms reqs.topology m := by
  simp only [checkLmAndGetConnectedBlks, Option.bind_eq_bind, Option.bind_eq_some_iff,
    Option.guard_eq_some', Bool.not_eq_true'] at h
  obtain ⟨-, -, -, -, -, lm_free, dspp, got_dspp, ds, got_ds, pp, got_pp, misr, got_misr, dsc,
    got_dsc, -, -, made⟩ := h
  obtain rfl := Option.some.inj made
  refine ⟨rfl, lm_free, connectedBlkIf_free got_dspp, connectedBlkIf_free got_ds, ?_, got_pp,
    got_dsc⟩
  intro b same
  split at same
  · cases same
  · exact connectedBlkIf_free got_misr b same

theorem Connected.allFree {kms : SdeKms} {top : TopologyDef} {m : Mixer}
    (connected : Connected view kms top m) (listed : m.lm ∈ view .lm) : AllFree view m.refs := by
  obtain ⟨-, pp_listed, pp_free⟩ := connectedBlk_some connected.pp_wired
  simp only [Mixer.refs, allFree_append]
  refine ⟨⟨⟨⟨?_, allFree_toList connected.dspp_free⟩, allFree_toList connected.ds_free⟩,
    allFree_toList connected.roiMisr_free⟩,
    allFree_toList (connectedBlkIf_free connected.dsc_wired)⟩
  intro ref member
  rcases List.mem_pair.mp member with rfl | rfl
  · exact free_of_mem listed connected.lm_free
  · exact free_of_mem pp_listed pp_free

theorem lmWalks_topology {reqs walk : Requirements} (member : walk ∈ lmWalks reqs) :
    walk.topology = reqs.topology := by
  unfold lmWalks at member
  split at member <;> split at member <;>
    · simp only [List.mem_cons, List.not_mem_nil, or_false] at member
      rcases member with rfl | rfl | rfl <;> rfl

theorem findMixers_sound (view : View) (kms : SdeKms) (reqs : Requirements)
    (lmIds : Option (Nat → Nat)) :
    ∃ mask, Sound reqs.topology.numLm (·.id) Mixer.lm (Connected view kms reqs.topology)
      (view .lm) ⟨mask, findMixers view kms reqs lmIds⟩ := by
  -- all walks share the topology, which is what the search is sound for
  suffices general : ∀ walks ⊆ lmWalks reqs, ∀ s,
      Sound reqs.topology.numLm (·.id) Mixer.lm (Connected view kms reqs.topology) (view .lm) s →
      Sound reqs.topology.numLm (·.id) Mixer.lm (Connected view kms reqs.topology) (view .lm)
        (walks.foldl (fun s walk =>
          pass reqs.topology.numLm (·.id) (primaryMixer view kms walk lmIds)
            (peerMixer view kms walk lmIds) (view .lm) s) s) from
    ⟨_, general _ (List.Subset.refl _) _ sound_start⟩
  intro walks
  induction walks with
  | nil => exact fun _ s sound => sound
  | cons walk rest ih =>
    intro sub s sound
    have same : walk.topology = reqs.topology := lmWalks_topology (sub List.mem_cons_self)
    refine ih (fun w member => sub (List.mem_cons_of_mem _ member)) _ (sound_pass ?_ sound)
    constructor
    · intro n lm m offered
      unfold primaryMixer at offered
      split at offered
      · exact same ▸ checkLm_some offered
      · cases offered
    · intro n primary lm m offered
      exact same ▸ checkLm_some (Option.filter_eq_some_iff.mp offered).1

theorem findMixers_free (view : View) (kms : SdeKms) (reqs : Requirements)
    (lmIds : Option (Nat → Nat)) :
    AllFree view ((findMixers view kms reqs lmIds).flatMap Mixer.refs) := by
  obtain ⟨mask, sound⟩ := findMixers_sound view kms reqs lmIds
  intro ref member
  obtain ⟨m, chosen, own⟩ := List.mem_flatMap.mp member
  exact (sound.good m chosen).allFree (sound.listed m chosen) ref own

theorem reserveLms_free (view : View) (kms : SdeKms) (reqs : Requirements)
    (lmIds : Option (Nat → Nat)) : AllFree view (reserveLms view kms reqs lmIds).2 := by
  unfold reserveLms
  split
  · simp
  dsimp only
  split
  · simp
  split
  · split
    · exact findMixers_free view kms reqs lmIds
    next slave found =>
      refine (allFree_append _ _ _).mpr ⟨findMixers_free view kms reqs lmIds, ?_⟩
      have free : slave.reservedByOther = false := by
        have fits := List.find?_some found
        simp only [isFreeSlave, Bool.and_eq_true, Bool.not_eq_true'] at fits
        exact fits.2
      simpa using free_of_mem (List.mem_of_find?_eq_some found) free
  · exact findMixers_free view kms reqs lmIds

/-! ## The other allocators -/

theorem allFree_map_ref {t : HwBlkType} {blks : List (IterBlk t)}
    (listed : ∀ b ∈ blks, b ∈ view t) (free : ∀ b ∈ blks, b.reservedByOther = false) :
    AllFree view (blks.map (·.ref)) := by
  intro ref member
  obtain ⟨b, chosen, rfl⟩ := List.mem_map.mp member
  exact free_of_mem (listed b chosen) (free b chosen)

theorem reserveCtls_free (view : View) (reqs : Requirements) (top : TopologyDef)
    (ctlIds : Option (Nat → Nat)) : AllFree view (reserveCtls view reqs top ctlIds).2 := by
  unfold reserveCtls
  split
  · simp
  dsimp only
  split
  · simp
  · refine allFree_map_ref (fun b chosen => (pick_sublist _ _ _).subset chosen) ?_
    intro b chosen
    obtain ⟨n, fits⟩ := pick_fits chosen
    rw [Bool.and_eq_true] at fits
    simp only [ctlSuits, Bool.and_eq_true, Bool.not_eq_true'] at fits
    exact fits.1.1

theorem offeredDsc_some {dscIds : Option (Nat → Nat)} {pairedDsc : Option (IterBlk .dsc)} {n : Nat}
    {dsc d : IterBlk .dsc} (h : offeredDsc dscIds pairedDsc n dsc = some d) :
    d = dsc ∧ d.reservedByOther = false := by
  unfold offeredDsc at h
  split at h
  next fits =>
    obtain rfl := Option.some.inj h
    simp only [checkDsc, Bool.and_eq_true, Bool.not_eq_true'] at fits
    exact ⟨rfl, fits.2.1⟩
  · cases h

theorem findDscs_sound (view : View) (want : Nat) (dscIds : Option (Nat → Nat)) :
    Sound want (·.id) id (fun d => d.reservedByOther = false) (view .dsc)
      (pass want (·.id) (offeredDsc dscIds none)
        (fun n primary => offeredDsc dscIds (some primary) n) (view .dsc) Search.start) := by
  refine sound_pass ?_ sound_start
  exact ⟨fun offered => offeredDsc_some offered, fun offered => offeredDsc_some offered⟩

theorem reserveDsc_free (view : View) (kms : SdeKms) (top : TopologyDef)
    (dscIds : Option (Nat → Nat)) : AllFree view (reserveDsc view kms top dscIds).2 := by
  unfold reserveDsc
  split
  · simp
  split
  · simp
  dsimp only
  split
  · simp
  · have sound := findDscs_sound view top.numCompEnc dscIds
    exact allFree_map_ref sound.listed sound.good

theorem reserveQdss_free (view : View) (kms : SdeKms) : AllFree view (reserveQdss view kms).2 := by
  unfold reserveQdss
  split
  next b found =>
    have free : b.reservedByOther = false := by simpa using List.find?_some found
    simpa using free_of_mem (List.mem_of_find?_eq_some found) free
  · split <;> simp

theorem reserveCdm_free (view : View) (id : Nat) (type : HwBlkType) :
    AllFree view (reserveCdm view id type).2 := by
  unfold reserveCdm
  dsimp only
  split
  next b found =>
    have free : b.reservedByOther = false := by
      have fits := List.find?_some found
      rw [Bool.and_eq_true, Bool.not_eq_true'] at fits
      exact fits.1
    simpa using free_of_mem (List.mem_of_find?_eq_some found) free
  · simp

theorem reserveIntfOrWb_free (view : View) (id : Nat) (type : HwBlkType) (needsCdm : Bool) :
    AllFree view (reserveIntfOrWb view id type needsCdm).2 := by
  unfold reserveIntfOrWb
  split
  · simp
  next b found =>
    split
    · simp
    next free =>
      refine Answer.andThen_free ?_ ?_
      · simpa using free_of_mem (List.mem_of_find?_eq_some found) (by simpa using free)
      · split
        · exact reserveCdm_free view id type
        · simp

theorem reserveIntfRelatedHw_free (view : View) (hwRes : HwResources) :
    AllFree view (reserveIntfRelatedHw view hwRes).2 := by
  unfold reserveIntfRelatedHw
  induction hwRes.requested with
  | nil => simp
  | cons r rest ih => exact Answer.andThen_free (reserveIntfOrWb_free view _ _ _) ih

end DisplayDrivers.Rm
