import DisplayDrivers.Lib.Probe
import DisplayDrivers.Rm.Reserve

/-! # Looking a topology up

`sde_rm_init` installs one of two tables of topologies. Five functions look an entry up in the table
that is installed, and all of them go through it up to `SDE_RM_TOPOLOGY_MAX`. Here each of them is a
`Probe` of the memory from `rm->topology_tbl` on, so that what it reads is part of it.
-/

namespace DisplayDrivers.Rm

open DisplayDrivers.Lib Probe

/-! ## The tables -/

/-- The table that `sde_rm_init` installs; `ctlRev100` is `IS_SDE_CTL_REV_100(cat->ctl_rev)`. -/
def topologyTable (ctlRev100 : Bool) : List TopologyDef :=
  if ctlRev100 then gCtlVer1TopTable else gTopTable

/-- `rm->topology_tbl` from then on: the table and what lies behind it. -/
def installedTbl (ctlRev100 : Bool) (behind : Nat → TopologyDef) : Nat → TopologyDef :=
  fun i => (topologyTable ctlRev100)[i]?.getD (behind i)

/-- The value of an `enum sde_rm_topology_name`. -/
def TopologyName.value (name : TopologyName) : Nat := name.ctorIdx

def sdeRmIsDscmergeCase (topName : Nat) : Bool :=
  topName == TopologyName.dualpipeDscmerge.value ||
    topName == TopologyName.quadpipeDscmerge.value ||
    topName == TopologyName.sixpipeDscmerge.value

/-! ## The five functions -/

namespace SdeRm

def findTopology (rm : SdeRm) (found : TopologyDef → Bool) : Probe Nat (Option Nat) :=
  search rm.topologyTbl found (List.range topologyMax)

def lookup {α : Type} (rm : SdeRm) (found : TopologyDef → Bool) (missing : α)
    (use : Nat → Probe Nat α) : Probe Nat α := do
  match ← rm.findTopology found with
  | some i => use i
  | none => pure missing

end SdeRm

variable (rm : SdeRm)

def sdeRmGetTopologyName (topology : DisplayTopology) : Probe Nat TopologyName :=
  rm.lookup (isTopologyMatch · topology) .none fun i => do
    return (← read rm.topologyTbl i).topName

def sdeRmGetTopologyNumEncoders (topology : Nat) : Probe Nat Nat :=
  rm.lookup (·.topName.value == topology) 0 fun i => do
    return (← read rm.topologyTbl i).numCompEnc

def sdeRmGetRoiMisrNum (topology : Nat) : Probe Nat Nat :=
  rm.lookup (·.topName.value == topology) 0 fun i =>
    if topology == TopologyName.ppsplit.value then pure 0
    else do
      let numIntf := (← read rm.topologyTbl i).numIntf
      if sdeRmIsDscmergeCase topology then pure (numIntf * 2) else pure numIntf

/-- `sde_rm_update_topology`: the name that the connector's property is set to.  `connState` and
    `topology` tell whether the pointers are `NULL`. -/
def sdeRmUpdateTopology (connState : Bool) (topology : Option DisplayTopology) :
    Probe Nat (Except Int TopologyName) :=
  if !connState then pure (.error eInval)
  else
    match topology with
    | none => pure (.ok .none)
    | some top =>
      rm.lookup (isTopologyMatch · top) (.ok .none) fun i => do
        return .ok (← read rm.topologyTbl i).topName

/-- The end of `_sde_rm_populate_requirements`: concurrent writeback replaces the entry by one at a
    fixed place. -/
def overrideForCwb (call : ReserveCall) (reqs : Requirements) : Probe Nat Requirements :=
  if !reqs.rqCwb && call.inCloneMode then do
    let topology ← read rm.topologyTbl (if call.numDatapath = 1 then 1 else 5)
    return { reqs.add topctlCwb with topology := topology }
  else pure reqs

/-- `_sde_rm_populate_requirements`, where none stands for `-EINVAL`. -/
def sdeRmPopulateRequirements (call : ReserveCall) : Probe Nat (Option Requirements) :=
  rm.lookup (isTopologyMatch · call.hwRes.topology) none fun i => do
    let entry ← read rm.topologyTbl i
    let reqs ← overrideForCwb rm call
      (selectForDsi rm call ⟨call.topologyControl, entry, call.hwRes⟩)
    return some reqs

/-! ## Requests -/

inductive Lookup
  | getTopologyName (topology : DisplayTopology)
  | getTopologyNumEncoders (topology : Nat)
  | getRoiMisrNum (topology : Nat)
  | updateTopology (connState : Bool) (topology : Option DisplayTopology)
  | populateRequirements (call : ReserveCall)

namespace Lookup

def wanted : Lookup → Option (TopologyDef → Bool)
  | getTopologyName topology => some (isTopologyMatch · topology)
  | getTopologyNumEncoders topology => some (·.topName.value == topology)
  | getRoiMisrNum topology => some (·.topName.value == topology)
  | updateTopology connState topology =>
    if connState then topology.map fun top => (isTopologyMatch · top) else none
  | populateRequirements call => some (isTopologyMatch · call.hwRes.topology)

def reads (rm : SdeRm) : Lookup → List Nat
  | getTopologyName topology => (sdeRmGetTopologyName rm topology).reads
  | getTopologyNumEncoders topology => (sdeRmGetTopologyNumEncoders rm topology).reads
  | getRoiMisrNum topology => (sdeRmGetRoiMisrNum rm topology).reads
  | updateTopology connState topology => (sdeRmUpdateTopology rm connState topology).reads
  | populateRequirements call => (sdeRmPopulateRequirements rm call).reads

/-- The answer is `SDE_RM_TOPOLOGY_NONE`, 0 or `-EINVAL`. -/
def Misses (rm : SdeRm) : Lookup → Prop
  | getTopologyName topology => (sdeRmGetTopologyName rm topology).value = .none
  | getTopologyNumEncoders topology => (sdeRmGetTopologyNumEncoders rm topology).value = 0
  | getRoiMisrNum topology => (sdeRmGetRoiMisrNum rm topology).value = 0
  | updateTopology connState topology =>
    (sdeRmUpdateTopology rm connState topology).value = .ok .none
  | populateRequirements call => (sdeRmPopulateRequirements rm call).value = none

def Listed (call : Lookup) (table : List TopologyDef) : Prop :=
  ∀ found ∈ call.wanted, ∃ entry ∈ table, found entry = true

structure Sound (rm : SdeRm) (table : List TopologyDef) (call : Lookup) : Prop where
  inTable : ∀ i ∈ call.reads rm, i < table.length
  misses : ¬call.Listed table → call.Misses rm

end Lookup

/-! ## The loop over an installed table -/

variable {rm} {found : TopologyDef → Bool}

variable {i : Nat}

theorem findTopology_some (stops : (rm.findTopology found).value = some i) :
    i < topologyMax ∧ found (rm.topologyTbl i) = true ∧ i ∈ (rm.findTopology found).reads := by
  have hit := stops
  rw [SdeRm.findTopology, value_search] at hit
  obtain ⟨matching, front, back, split, -⟩ := List.find?_eq_some_iff_append.mp hit
  have member : i ∈ List.range topologyMax := by simp [split]
  exact ⟨List.mem_range.mp member, matching, mem_reads_search stops⟩

theorem mem_lookup_reads {α : Type} {missing : α} {use : Nat → Probe Nat α}
    (member : i ∈ (rm.findTopology found).reads) : i ∈ (rm.lookup found missing use).reads := by
  rw [SdeRm.lookup, reads_bind]
  exact List.mem_append_left _ member

theorem lookup_reads {α : Type} {missing : α} {use : Nat → Probe Nat α}
    (member : i ∈ (rm.lookup found missing use).reads) :
    i ∈ (rm.findTopology found).reads ∨
      ∃ k, (rm.findTopology found).value = some k ∧ i ∈ (use k).reads := by
  rw [SdeRm.lookup, reads_bind, List.mem_append] at member
  cases stops : (rm.findTopology found).value with
  | none => simpa [stops] using member
  | some k => simpa [stops] using member

theorem lookup_missing {α : Type} {missing : α} {use : Nat → Probe Nat α}
    (stops : (rm.findTopology found).value = none) :
    (rm.lookup found missing use).value = missing := by
  rw [SdeRm.lookup, value_bind, stops]
  rfl

namespace Lookup

variable {call : Lookup}

theorem mem_reads (wants : found ∈ call.wanted)
    (member : i ∈ (rm.findTopology found).reads) : i ∈ call.reads rm := by
  cases call with
  | getTopologyName topology => cases wants; exact mem_lookup_reads member
  | getTopologyNumEncoders topology => cases wants; exact mem_lookup_reads member
  | getRoiMisrNum topology => cases wants; exact mem_lookup_reads member
  | populateRequirements request => cases wants; exact mem_lookup_reads member
  | updateTopology connState topology =>
    cases connState with
    | false => cases wants
    | true =>
      cases topology with
      | none => cases wants
      | some top => cases wants; exact mem_lookup_reads member

theorem reads_cases (member : i ∈ call.reads rm) :
    (∃ found ∈ call.wanted, i ∈ (rm.findTopology found).reads) ∨ i = 1 ∨ i = 5 := by
  have entry {α : Type} {found : TopologyDef → Bool} {missing : α} {use : Nat → Probe Nat α}
      (wants : found ∈ call.wanted) (fixed : ∀ k, ∀ j ∈ (use k).reads, j = k ∨ j = 1 ∨ j = 5)
      (member : i ∈ (rm.lookup found missing use).reads) :
      (∃ found ∈ call.wanted, i ∈ (rm.findTopology found).reads) ∨ i = 1 ∨ i = 5 := by
    rcases lookup_reads member with early | ⟨k, stops, late⟩
    · exact .inl ⟨found, wants, early⟩
    · rcases fixed k i late with rfl | elsewhere
      · exact .inl ⟨found, wants, (findTopology_some stops).2.2⟩
      · exact .inr elsewhere
  cases call with
  | getTopologyName topology => exact entry rfl (by simp) member
  | getTopologyNumEncoders topology => exact entry rfl (by simp) member
  | getRoiMisrNum topology =>
    refine entry rfl (fun k j inUse => ?_) member
    by_cases split : topology == TopologyName.ppsplit.value
    · simp [split] at inUse
    · cases merge : sdeRmIsDscmergeCase topology <;> simp_all
  | populateRequirements request =>
    refine entry rfl (fun k j inUse => ?_) member
    rw [reads_bind, List.mem_append] at inUse
    rcases inUse with here | override
    · exact .inl (by simpa using here)
    · simp only [overrideForCwb] at override
      split at override
      · by_cases single : request.numDatapath = 1 <;> simp_all
      · simp at override
  | updateTopology connState topology =>
    cases connState with
    | false => cases member
    | true =>
      cases topology with
      | none => cases member
      | some top => exact entry rfl (by simp) member

theorem misses_of_none (wants : found ∈ call.wanted)
    (stops : (rm.findTopology found).value = none) : call.Misses rm := by
  cases call with
  | getTopologyName topology => cases wants; exact lookup_missing stops
  | getTopologyNumEncoders topology => cases wants; exact lookup_missing stops
  | getRoiMisrNum topology => cases wants; exact lookup_missing stops
  | populateRequirements request => cases wants; exact lookup_missing stops
  | updateTopology connState topology =>
    cases connState with
    | false => cases wants
    | true =>
      cases topology with
      | none => cases wants
      | some top => cases wants; exact lookup_missing stops

end Lookup

/-! ## The bound and the tables -/

section Installed

variable (ctlRev100 : Bool) (behind : Nat → TopologyDef)

variable {entry : TopologyDef}

theorem installedTbl_eq (listed : (topologyTable ctlRev100)[i]? = some entry) :
    installedTbl ctlRev100 behind i = entry := by
  simp [installedTbl, listed]

theorem installedTbl_of_mem (member : entry ∈ topologyTable ctlRev100) :
    ∃ k < (topologyTable ctlRev100).length, installedTbl ctlRev100 behind k = entry := by
  obtain ⟨k, at_k⟩ := List.mem_iff_getElem?.mp member
  exact ⟨k, (List.getElem?_eq_some_iff.mp at_k).1, installedTbl_eq ctlRev100 behind at_k⟩

theorem installedTbl_mem (inside : i < (topologyTable ctlRev100).length) :
    installedTbl ctlRev100 behind i ∈ topologyTable ctlRev100 := by
  rw [installedTbl_eq ctlRev100 behind (List.getElem?_eq_getElem inside)]
  exact List.getElem_mem inside

theorem length_le_topologyMax : (topologyTable ctlRev100).length ≤ topologyMax := by
  cases ctlRev100 <;> decide

theorem fixed_places : 5 < (topologyTable ctlRev100).length := by
  cases ctlRev100 <;> decide

variable {ctlRev100 behind}

section

variable (installed : rm.topologyTbl = installedTbl ctlRev100 behind)

include installed

theorem misses_of_unlisted (unlisted : ¬∃ entry ∈ topologyTable ctlRev100, found entry = true)
    (inside : i < (topologyTable ctlRev100).length) : found (rm.topologyTbl i) = false := by
  rw [installed]
  apply Bool.eq_false_of_not_eq_true
  intro hit
  exact unlisted ⟨_, installedTbl_mem ctlRev100 behind inside, hit⟩

theorem Lookup.full_or_listed {call : Lookup}
    (sound : call.Sound rm (topologyTable ctlRev100)) :
    ctlRev100 = true ∨ call.Listed (topologyTable ctlRev100) := by
  by_contra neither
  obtain ⟨short, notListed⟩ := not_or.mp neither
  simp only [Lookup.Listed, not_forall] at notListed
  obtain ⟨found, wants, unlisted⟩ := notListed
  have bound : (topologyTable ctlRev100).length < topologyMax := by
    rw [Bool.eq_false_of_not_eq_true short]
    decide
  have miss : ∀ i < (topologyTable ctlRev100).length, found (rm.topologyTbl i) = false :=
    fun i inside => misses_of_unlisted installed unlisted inside
  have outside := Lookup.mem_reads wants (mem_reads_search_range bound miss)
  exact Nat.lt_irrefl _ (sound.inTable _ outside)

theorem Lookup.reads_inTable {call : Lookup}
    (condition : ctlRev100 = true ∨ call.Listed (topologyTable ctlRev100))
    (member : i ∈ call.reads rm) : i < (topologyTable ctlRev100).length := by
  have fixed := fixed_places ctlRev100
  rcases Lookup.reads_cases member with ⟨found, wants, inLoop⟩ | rfl | rfl
  · rcases condition with rfl | listed
    · -- the table has an entry for each place of the loop
      exact List.mem_range.mp ((reads_search_leading _ _ _).subset inLoop)
    · -- the loop stops at the listed entry at the latest
      obtain ⟨entry, inTable, hit⟩ := listed found wants
      obtain ⟨k, inside, at_k⟩ := installedTbl_of_mem ctlRev100 behind inTable
      have bound := Nat.lt_of_lt_of_le inside (length_le_topologyMax ctlRev100)
      rw [← at_k, ← installed] at hit
      exact Nat.lt_of_le_of_lt (reads_search_range_le bound hit i inLoop) inside
  · omega
  · omega

theorem Lookup.misses_of_not_listed {call : Lookup}
    (full : ctlRev100 = true)
    (notListed : ¬call.Listed (topologyTable ctlRev100)) : call.Misses rm := by
  subst full
  simp only [Lookup.Listed, not_forall] at notListed
  obtain ⟨found, wants, unlisted⟩ := notListed
  apply Lookup.misses_of_none wants
  have all : (topologyTable true).length = topologyMax := rfl
  have miss : ∀ i < topologyMax, found (rm.topologyTbl i) = false :=
    fun i inside => misses_of_unlisted installed unlisted (all ▸ inside)
  rw [SdeRm.findTopology, value_search]
  simpa using miss

end

variable (ctlRev100 behind)

/-- The lookups stay in the installed table and a request that it does not list fails, exactly if
    the table has an entry for each place of the loop or the request is listed. -/
theorem topology_lookups_iff (call : Lookup) :
    call.Sound { rm with topologyTbl := installedTbl ctlRev100 behind } (topologyTable ctlRev100) ↔
      ctlRev100 = true ∨ call.Listed (topologyTable ctlRev100) := by
  constructor
  · exact fun sound => Lookup.full_or_listed rfl sound
  · intro condition
    refine ⟨fun i member => Lookup.reads_inTable rfl condition member, fun notListed => ?_⟩
    have full := condition.resolve_right notListed
    exact Lookup.misses_of_not_listed rfl full notListed

end Installed

def olderCtl : SdeRm :=
  .sdeRmInit (fun _ => []) (installedTbl false fun _ => ⟨.none, 0, 0, 0, 0, false⟩) false

/-- Three mixers on three interfaces: the loop reads on behind the nine entries. -/
theorem triplepipe_read_behind_table :
    ¬(Lookup.getTopologyName ⟨3, 0, 3⟩).Sound olderCtl gTopTable := by
  intro sound
  have ninth : 9 ∈ (Lookup.getTopologyName ⟨3, 0, 3⟩).reads olderCtl := by decide
  exact absurd (sound.inTable 9 ninth) (by decide)

end DisplayDrivers.Rm
