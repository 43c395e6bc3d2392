import DisplayDrivers.Rm.Complete
import DisplayDrivers.Rm.LmSearch

/-! # What `_sde_rm_reserve_lms` selects

The search ends, and if the call returns 0 it has tagged as many different mixers as the topology
asks for, two and two of them peers (`lms_selected`).
-/

namespace DisplayDrivers.Rm

open DisplayDrivers.Lib.PairSearch

/-! ## Peers -/

def PeerOf (primary peer : Mixer) : Prop :=
  primary.lm.caps.lmPairMask.testBit (peer.lm.caps : LmCfg).id = true

variable {reqs : Requirements}

theorem peerOf_of_checked {view : View} {kms : SdeKms} {primary lm : IterBlk .lm} {m : Mixer}
    (checked : checkLmAndGetConnectedBlks view kms reqs lm (some primary) = some m) :
    primary.caps.lmPairMask.testBit (m.lm.caps : LmCfg).id = true := by
  have same := (checkLm_some checked).1
  simp only [checkLmAndGetConnectedBlks, Option.bind_eq_bind, Option.bind_eq_some_iff,
    Option.guard_eq_some', Option.all_some] at checked
  obtain ⟨-, peer, -⟩ := checked
  rwa [same]

theorem findMixers_coupled (view : View) (kms : SdeKms) (reqs : Requirements)
    (lmIds : Option (Nat → Nat)) :
    Coupled reqs.topology.numLm PeerOf (findMixers view kms reqs lmIds) := by
  suffices general : ∀ walks : List Requirements, ∀ s : Search Mixer,
      Coupled reqs.topology.numLm PeerOf s.found →
      Coupled reqs.topology.numLm PeerOf (walks.foldl (fun s walk =>
        pass reqs.topology.numLm (·.id) (primaryMixer view kms walk lmIds)
          (peerMixer view kms walk lmIds) (view .lm) s) s).found from
    general _ _ coupled_nil
  intro walks
  induction walks with
  | nil => exact fun s coupled => coupled
  | cons walk walks ih =>
    intro s coupled
    refine ih _ (coupled_pass ?_ coupled)
    intro n k primary b lm d first second
    have own : b.lm = primary := by
      rw [primaryMixer] at first
      split at first
      · exact (checkLm_some first).1
      · cases first
    rw [PeerOf, own]
    exact peerOf_of_checked (Option.filter_eq_some_iff.mp second).1

/-! ## The mixers that are tagged -/

structure Selected (rm : SdeRm) (rsvp : Rsvp) (numLm : ℕ) (rm' : SdeRm) (sel : List ℕ) : Prop where
  count : sel.length = numLm
  distinct : sel.Nodup
  tagged : ∀ i, rm'.tagNxt (.lm, i) = if i ∈ sel then some rsvp else rm.tagNxt (.lm, i)
  free : ∀ i ∈ sel, ∀ r, rm.tag (.lm, i) = some r → r.encId = rsvp.encId
  peers : ∀ k i j, sel[2 * k]? = some i → sel[2 * k + 1]? = some j →
    ∃ primary peer, rm.blk .lm i = some primary ∧ rm.blk .lm j = some peer ∧
      (primary.caps : LmCfg).lmPairMask.testBit (peer.caps : LmCfg).id = true

/-- `_sde_rm_reserve_lms` for a reservation in a number of turns: its return code, the manager and
    the `top_ctrl` after it. -/
def SdeRm.reserveLmsIn (rm : SdeRm) (rsvp : Rsvp) (kms : SdeKms) (reqs : Requirements)
    (lmIds : Option (Nat → Nat)) (lm : ℕ → Option (IterBlk .lm)) (wired : ℕ → Wired) (turns : ℕ) :
    Option (Int × SdeRm × ℕ) :=
  (Rm.reserveLmsIn (rm.view rsvp.encId) kms reqs lmIds lm wired turns).map fun (answer, topCtrl) =>
    (answer.1, rm.propose rsvp answer.2, topCtrl)

theorem blk_of_view {rm : SdeRm} {enc : ℕ} {t : HwBlkType} {b : IterBlk t}
    (member : b ∈ rm.view enc t) :
    ∃ blk, rm.blk t b.pos = some blk ∧ blk.caps = b.caps ∧
      blk.reservedByOther enc = b.reservedByOther := by
  obtain ⟨i, at_i⟩ := List.mem_iff_getElem?.mp member
  rw [SdeRm.view, List.getElem?_mapIdx] at at_i
  obtain ⟨blk, here, rfl⟩ := Option.map_eq_some_iff.mp at_i
  exact ⟨blk, here, rfl, rfl⟩

variable {slaves : List BlkRef} {found : List Mixer}

theorem mem_mixers (pingpongs : ∀ ref ∈ slaves, ref.1 = .pingpong) {i : ℕ} :
    ((.lm, i) : BlkRef) ∈ found.flatMap Mixer.refs ++ slaves ↔
      ∃ m ∈ found, ((.lm, i) : BlkRef) = m.lm.ref := by
  rw [List.mem_append, List.mem_flatMap]
  constructor
  · rintro (⟨m, chosen, own⟩ | slave)
    · refine ⟨m, chosen, ?_⟩
      rw [Mixer.mem_refs] at own
      simpa [IterBlk.ref] using own
    · cases pingpongs _ slave
  · rintro ⟨m, chosen, same⟩
    exact .inl ⟨m, chosen, Mixer.mem_refs.mpr (.inl same)⟩

theorem selected_of_found {rm : SdeRm} {rsvp : Rsvp} {kms : SdeKms} {top : TopologyDef}
        (chosen : Chosen (rm.view rsvp.encId) kms top found)
          (coupled : Coupled top.numLm PeerOf found)
    (pingpongs : ∀ ref ∈ slaves, ref.1 = .pingpong) :
    Selected rm rsvp top.numLm (rm.propose rsvp (found.flatMap Mixer.refs ++ slaves))
      (found.map fun m => m.lm.pos) := by
  constructor
  case count => rw [List.length_map, chosen.count]
  case distinct =>
    have apart : (found.map fun m => m.lm.ref).Nodup := refs_nodup chosen.listed chosen.apart
    refine List.Nodup.of_map (fun pos => ((.lm, pos) : BlkRef)) ?_
    rwa [List.map_map]
  case tagged =>
    intro i
    rw [SdeRm.tagNxt_propose]
    congr 1
    rw [mem_mixers pingpongs, List.mem_map, eq_iff_iff]
    constructor
    · rintro ⟨⟨m, chosen', same⟩, -⟩
      exact ⟨m, chosen', (congrArg Prod.snd same).symm⟩
    · rintro ⟨m, chosen', rfl⟩
      obtain ⟨blk, here, -⟩ := blk_of_view (chosen.listed m chosen')
      exact ⟨⟨m, chosen', rfl⟩, Option.isSome_iff_exists.mpr ⟨blk, here⟩⟩
  case free =>
    intro i member r tagged
    obtain ⟨m, chosen', rfl⟩ := List.mem_map.mp member
    obtain ⟨blk, here, -, reserved⟩ := blk_of_view (chosen.listed m chosen')
    rw [(chosen.connected m chosen').lm_free] at reserved
    have own : blk.rsvp = some r := by
      simpa [SdeRm.tag, here] using tagged
    simpa [HwBlk.reservedByOther, own] using reserved
  case peers =>
    intro k i j first second
    rw [List.getElem?_map] at first second
    obtain ⟨primary, at_first, rfl⟩ := Option.map_eq_some_iff.mp first
    obtain ⟨peer, at_second, rfl⟩ := Option.map_eq_some_iff.mp second
    obtain ⟨b, here, caps, -⟩ := blk_of_view (chosen.listed primary (List.mem_of_getElem? at_first))
    obtain ⟨c, there, caps', -⟩ := blk_of_view (chosen.listed peer (List.mem_of_getElem? at_second))
    refine ⟨b, c, here, there, ?_⟩
    rw [caps, caps']
    exact coupled.pairs k primary peer at_first at_second

/-- The call ends, with the `top_ctrl` that it was given.  If it returns 0, it has tagged as many
    different mixers as the topology has, none of them another encoder's, and the mixers of each
    pair are peers. -/
theorem lms_selected (rm : SdeRm) (rsvp : Rsvp) (kms : SdeKms) (reqs : Requirements)
    (lmIds : Option (Nat → Nat)) (lm : ℕ → Option (IterBlk .lm)) (wired : ℕ → Wired) :
    ∃ rc rm', (∃ n, ∀ turns ≥ n,
        rm.reserveLmsIn rsvp kms reqs lmIds lm wired turns = some (rc, rm', reqs.topCtrl)) ∧
      (rc = 0 → ∃ sel, Selected rm rsvp reqs.topology.numLm rm' sel) := by
  obtain ⟨n, ends⟩ := reserveLmsIn_ends (rm.view rsvp.encId) kms reqs lmIds lm wired
  refine ⟨_, _, ⟨n, fun turns enough => by rw [SdeRm.reserveLmsIn, ends turns enough]; rfl⟩, ?_⟩
  intro ok
  obtain ⟨slaves, chosen, pingpongs, refs⟩ := reserveLms_ok ok
  rw [refs]
  exact ⟨_, selected_of_found chosen (findMixers_coupled _ kms reqs lmIds) pingpongs⟩

/-! ## The slave of a split pingpong -/

def firstMixer (view : View) (kms : SdeKms) (reqs : Requirements) (lmIds : Option (Nat → Nat)) :
    Option Mixer :=
  (lmWalks reqs).findSome? fun walk => (view .lm).findSome? (primaryMixer view kms walk lmIds 0)

def firstSlave (view : View) : Option (IterBlk .pingpong) := (view .pingpong).find? isFreeSlave

theorem findMixers_one (view : View) (kms : SdeKms) (lmIds : Option (Nat → Nat))
    (one : reqs.topology.numLm = 1) :
    findMixers view kms reqs lmIds = (firstMixer view kms reqs lmIds).toList := by
  suffices general : ∀ walks : List Requirements,
      (searchFrom view kms lmIds 1 walks .start).found = (walks.findSome? fun walk =>
        (view .lm).findSome? (primaryMixer view kms walk lmIds 0)).toList by
    rw [findMixers, firstMixer, one]
    exact general (lmWalks reqs)
  intro walks
  induction walks with
  | nil => rfl
  | cons walk walks ih =>
    rw [searchFrom, List.foldl_cons, List.findSome?_cons]
    rcases pass_one (·.id) (primaryMixer view kms walk lmIds)
      (peerMixer view kms walk lmIds) (view .lm) with ⟨none, same⟩ | ⟨m, some, found⟩
    · rw [none, same]
      exact ih
    · rw [some]
      have one_found : (pass 1 (·.id) (primaryMixer view kms walk lmIds)
        (peerMixer view kms walk lmIds)
          (view .lm) .start).found.length = 1 := by rw [found]; rfl
      have full := searchFrom_full view kms lmIds 1 walks one_found
      rw [searchFrom] at full
      rw [full, found]
      rfl

def SlaveApart (answer : Answer) : Prop :=
  answer.1 = 0 → ∀ tagged slave, answer.2 = tagged ++ [slave] → slave ∉ tagged

theorem slaveApart_append {tagged : List BlkRef} {slave : BlkRef} :
    SlaveApart (0, tagged ++ [slave]) ↔ slave ∉ tagged := by
  constructor
  · exact fun apart => apart rfl tagged slave rfl
  · intro apart _ tagged' slave' same
    obtain ⟨rfl, last⟩ := List.append_inj' same rfl
    cases last
    exact apart

theorem slave_mem_refs {m : Mixer} {slave : IterBlk .pingpong} :
    slave.ref ∈ m.refs ↔ m.pp.pos = slave.pos := by
  rw [Mixer.mem_refs]
  simp [IterBlk.ref, eq_comm]

/-- For a split pingpong the slave is another block than those of the mixer exactly when the first
    block that can be a slave is not wired to the first mixer that passes the checks. -/
theorem slave_apart_iff (rm : SdeRm) (enc : ℕ) (kms : SdeKms) (reqs : Requirements)
    (lmIds : Option (Nat → Nat)) (listed : reqs.topology ∈ gTopTable ++ gCtlVer1TopTable)
    (split : reqs.topology.topName = .ppsplit) :
    SlaveApart (reserveLms (rm.view enc) kms reqs lmIds) ↔
      ∀ m slave, firstMixer (rm.view enc) kms reqs lmIds = some m →
        firstSlave (rm.view enc) = some slave → m.pp.pos ≠ slave.pos := by
  have one : reqs.topology.numLm = 1 := by
    have table : ∀ top ∈ gTopTable ++ gCtlVer1TopTable, top.topName = .ppsplit → top.numLm = 1 := by
      decide
    exact table _ listed split
  have found := findMixers_one (rm.view enc) kms lmIds one
  rw [reserveLms, one, if_neg one_ne_zero, found]
  simp only [if_pos split]
  cases mixer : firstMixer (rm.view enc) kms reqs lmIds with
  | none =>
    refine iff_of_true (fun ok => ?_) (by simp)
    cases ok
  | some m =>
    rw [Option.toList_some, List.length_singleton, if_neg (not_not_intro rfl),
      List.flatMap_singleton]
    cases free : firstSlave (rm.view enc) with
    | none =>
      have left : (rm.view enc .pingpong).find? isFreeSlave = none := free
      rw [left]
      refine iff_of_true (fun ok => ?_) (by simp)
      cases ok
    | some slave =>
      have left : (rm.view enc .pingpong).find? isFreeSlave = some slave := free
      rw [left, slaveApart_append, slave_mem_refs]
      simp

def splitCatalog (pingpongs : List (Nat × Caps .pingpong)) : SdeRm :=
  .sdeRmInit
    (fun
      | .lm => [(1, ⟨1, 0, dsppMax, 1, dsMax, roiMisrMax, 0⟩)]
      | .pingpong => pingpongs
      | _ => [])
    (fun i => gCtlVer1TopTable.getD i ⟨.none, 0, 0, 0, 0, false⟩) false

def splitReqs : Requirements where
  topCtrl := 0
  topology := ⟨.ppsplit, 1, 0, 2, 1, false⟩
  hwRes := ⟨[.cmd], [], false, false, ⟨1, 0, 2⟩⟩

def apartCatalog : SdeRm :=
  splitCatalog [(1, ⟨1 <<< pingpongSplit⟩), (2, ⟨1 <<< pingpongSlave⟩), (3, ⟨1 <<< pingpongSlave⟩)]

theorem slave_apart_iff_splitReqs :
    splitReqs.topology ∈ gTopTable ++ gCtlVer1TopTable ∧ splitReqs.topology.topName = .ppsplit ∧
      (reserveLms (apartCatalog.view 31) ⟨false, 0, []⟩ splitReqs none).1 = 0 ∧
      SlaveApart (reserveLms (apartCatalog.view 31) ⟨false, 0, []⟩ splitReqs none) := by
  refine ⟨by decide, rfl, by decide,
    (slave_apart_iff apartCatalog 31 ⟨false, 0, []⟩ splitReqs none (by decide) rfl).mpr ?_⟩
  intro m slave mixer free
  cases mixer
  cases free
  decide

/-- The pingpong of the mixer is tagged as its own slave, though another one is left. -/
theorem slave_is_own_pingpong :
    ¬SlaveApart (reserveLms
      ((splitCatalog [(1, ⟨1 <<< pingpongSplit ||| 1 <<< pingpongSlave⟩),
        (2, ⟨1 <<< pingpongSlave⟩)]).view 31)
      ⟨false, 0, []⟩ splitReqs none) := by
  intro apart
  exact apart (by decide) [(.lm, 0), (.pingpong, 0)] (.pingpong, 0) (by decide) (by decide)

end DisplayDrivers.Rm
