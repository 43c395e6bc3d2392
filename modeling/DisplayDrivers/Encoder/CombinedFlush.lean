import DisplayDrivers.Ctl.Summary
import DisplayDrivers.Encoder.PhysCmd
import Mathlib.Data.List.Induction

/-! # One flush for several physical encoders

Where one flush is to reach the whole screen, the physical encoders leave their pending masks to the
master. `pending_flush` is one structure, and every encoder that leaves its masks there stores over
those of the encoder before.
-/

namespace DisplayDrivers.Encoder.Kickoff

open DisplayDrivers.Ctl DisplayDrivers.Lib.TwoLevel

/-! ## What a flush writes -/

def word (flush : FlushCfg) : FlushReg → BitVec 32
  | .flush => flush.summary
  | .group g => flush.group g

def Written (activeCfg : Bool) (flush : FlushCfg) (reg : FlushReg) (bit : ℕ) : Prop :=
  ∃ value, (reg, value) ∈ writes activeCfg flush ∧ value.getLsbD bit = true

theorem written_iff {activeCfg : Bool} {flush : FlushCfg} {reg : FlushReg} {bit : ℕ} :
    Written activeCfg flush reg bit ↔ (word flush reg).getLsbD bit = true ∧
      ∀ g, reg = .group g → activeCfg = true ∧ flush.summary.getLsbD g.idx = true := by
  have listed : ∀ g : Group, g ∈ groups := by
    intro g
    cases g <;> simp [groups]
  cases activeCfg with
  | false =>
    simp only [Written, writes, triggerFlush, Bool.false_eq_true, if_false]
    cases reg with
    | flush => simp [word]
    | group g => simp
  | true =>
    simp only [Written, writes, triggerFlushV1, if_true]
    cases reg with
    | flush => simp [word]
    | group g => simp [word, listed, and_comm]

theorem word_le {m n : FlushCfg} (le : m.Le n) (reg : FlushReg) {bit : ℕ}
    (set : (word m reg).getLsbD bit = true) : (word n reg).getLsbD bit = true := by
  cases reg with
  | flush => exact le.summary bit set
  | group g => exact le.group g bit set

theorem written_mono {activeCfg : Bool} {m n : FlushCfg} (le : m.Le n) {reg : FlushReg} {bit : ℕ}
    (written : Written activeCfg m reg bit) : Written activeCfg n reg bit := by
  obtain ⟨set, shown⟩ := written_iff.mp written
  refine written_iff.mpr ⟨word_le le reg set, fun g same => ?_⟩
  exact ⟨(shown g same).1, le.summary _ (shown g same).2⟩

theorem updateGroup_on (g : Group) {bit : ℕ} (inside : bit < 32) (flush : FlushCfg) :
    updateGroup g bit true flush =
      (flush.setGroup g (setBit (flush.group g) bit true)).mark g.idx true := by
  have nonzero : setBit (flush.group g) bit true ≠ 0#32 := by
    intro zero
    have set := getLsbD_setBit (flush.group g) true inside bit
    simp [zero] at set
  rw [updateGroup, Masks.setGroup_self, if_pos (by simpa using nonzero)]

theorem le_periphFlush (activeCfg : Bool) (phys : Phys) (flush : FlushCfg) :
    flush.Le (phys.periphFlush activeCfg flush) := by
  rw [Phys.periphFlush]
  cases phys.dpDscIntf with
  | none => exact le_refl flush
  | some intf =>
    cases activeCfg with
    | false => exact le_refl flush
    | true =>
      by_cases invalid : intf = 0 ∨ 8 ≤ intf
      · simpa [updateBitmaskPeriphV1, invalid] using le_refl flush
      · have inside : intfFlushTbl.getD intf 0 < 32 := by
          have small : intf < 8 := by omega
          revert small
          clear invalid
          revert intf
          decide
        simp only [updateBitmaskPeriphV1, invalid, if_false, if_true]
        rw [updateGroup_on .periph inside]
        exact le_setGroup_mark flush .periph inside (idx_lt .periph)

theorem le_mergeFlush (activeCfg : Bool) (flush cfg : FlushCfg) :
    flush.Le (mergeFlush activeCfg flush cfg) := by
  cases activeCfg with
  | true => exact le_union_left flush cfg
  | false => exact ⟨fun i set => by simp [mergeFlush, updatePendingFlush, set], fun _ _ set => set⟩

theorem le_flushOf (activeCfg : Bool) (phys : Phys) (flush extra : FlushCfg) :
    (phys.periphFlush activeCfg flush).Le (phys.flushOf activeCfg flush extra) := by
  rw [Phys.flushOf]
  split
  · exact le_mergeFlush activeCfg _ extra
  · exact le_refl _

/-! ## The first loop -/

def Phys.flushesOwn (phys : Phys) : Bool :=
  phys.enabled && !phys.needsSingleFlush && phys.flushable

def Phys.leaves (phys : Phys) : Bool :=
  phys.enabled && phys.needsSingleFlush && phys.hwCtl.isSome

def Phys.visited (phys : Phys) : Phys :=
  if phys.enabled && phys.hwCtl.isSome then
    if phys.flushesOwn then phys.setBusy.countRetire else phys.setBusy
  else phys

def markOwn (activeCfg : Bool) (ctls : CtlFlushes) (phys : Phys) : CtlFlushes :=
  match phys.hwCtl with
  | none => ctls
  | some ctl =>
    if phys.flushesOwn then Function.update ctls ctl (phys.periphFlush activeCfg (ctls ctl))
    else ctls

def marked (activeCfg : Bool) (physEncs : List Phys) (ctls : CtlFlushes) : CtlFlushes :=
  physEncs.foldl (markOwn activeCfg) ctls

def upToLast (physEncs : List Phys) : List Phys :=
  physEncs.reverse.dropWhile fun phys => !phys.leaves

def lastMasks (activeCfg : Bool) (physEncs : List Phys) (ctls : CtlFlushes) : FlushCfg :=
  match upToLast physEncs with
  | [] => Masks.empty
  | last :: before =>
    match last.hwCtl with
    | none => Masks.empty
    | some ctl => marked activeCfg before.reverse ctls ctl

section Fields

variable (phys : Phys)

@[simp] theorem setBusy_flushable : phys.setBusy.flushable = phys.flushable := by
  rw [Phys.setBusy]
  split <;> rfl

@[simp] theorem setBusy_hwCtl : phys.setBusy.hwCtl = phys.hwCtl := by
  rw [Phys.setBusy]
  split <;> rfl

@[simp] theorem setBusy_dpDscIntf : phys.setBusy.dpDscIntf = phys.dpDscIntf := by
  rw [Phys.setBusy]
  split <;> rfl

@[simp] theorem countRetire_flushable : phys.countRetire.flushable = phys.flushable := by
  rw [Phys.countRetire]
  split <;> rfl

@[simp] theorem countRetire_hwCtl : phys.countRetire.hwCtl = phys.hwCtl := by
  rw [Phys.countRetire]
  split <;> rfl

@[simp] theorem countRetire_dpDscIntf : phys.countRetire.dpDscIntf = phys.dpDscIntf := by
  rw [Phys.countRetire]
  split <;> rfl

@[simp] theorem visited_flushable : phys.visited.flushable = phys.flushable := by
  rw [Phys.visited]
  split_ifs <;> simp

@[simp] theorem visited_hwCtl : phys.visited.hwCtl = phys.hwCtl := by
  rw [Phys.visited]
  split_ifs <;> simp

@[simp] theorem visited_dpDscIntf : phys.visited.dpDscIntf = phys.dpDscIntf := by
  rw [Phys.visited]
  split_ifs <;> simp

end Fields

section Visit

variable {activeCfg : Bool} {phys : Phys} {ctl : ℕ}

theorem triggerPhys_sent (i : ℕ) (combined : Bool) (ctls : CtlFlushes) (extra : FlushCfg)
    (flushable : phys.flushable = true) (at_ctl : phys.hwCtl = some ctl) :
    triggerPhys activeCfg i combined phys ctls extra =
      (phys.countRetire, Function.update ctls ctl (phys.flushOf activeCfg (ctls ctl) extra),
        [⟨i, combined, ctl, phys.flushOf activeCfg (ctls ctl) extra⟩]) := by
  rw [triggerPhys, if_neg (not_not.mpr flushable), at_ctl]

theorem triggerPhys_refused (i : ℕ) (combined : Bool) (ctls : CtlFlushes) (extra : FlushCfg)
    (refused : phys.flushable = false) :
    triggerPhys activeCfg i combined phys ctls extra = (phys, ctls, []) := by
  rw [triggerPhys, if_pos (by simp [refused])]

theorem periphFlush_congr {phys phys' : Phys} (same : phys'.dpDscIntf = phys.dpDscIntf) :
    phys'.periphFlush activeCfg = phys.periphFlush activeCfg := by
  funext flush
  rw [Phys.periphFlush, Phys.periphFlush, same]

theorem flushOf_congr {phys phys' : Phys} (same : phys'.dpDscIntf = phys.dpDscIntf) :
    phys'.flushOf activeCfg = phys.flushOf activeCfg := by
  funext flush extra
  rw [Phys.flushOf, Phys.flushOf, periphFlush_congr same]

theorem flushOf_empty (flush : FlushCfg) :
    phys.flushOf activeCfg flush Masks.empty = phys.periphFlush activeCfg flush := by
  rw [Phys.flushOf, if_neg (by simp [Masks.empty])]

theorem visit_eq (v : Visited) (phys : Phys) :
    visit activeCfg v phys =
      { physEncs := v.physEncs ++ [phys.visited]
        ctls := markOwn activeCfg v.ctls phys
        pending :=
          match phys.hwCtl with
          | none => v.pending
          | some ctl => if phys.leaves then v.ctls ctl else v.pending
        flushes := v.flushes ++
          match phys.hwCtl with
          | none => []
          | some ctl =>
            if phys.flushesOwn then
              [⟨v.physEncs.length, false, ctl, phys.periphFlush activeCfg (v.ctls ctl)⟩]
            else [] } := by
  rw [visit]
  by_cases enabled : phys.enabled = true
  · rw [if_neg (not_not.mpr enabled)]
    cases at_ctl : phys.hwCtl with
    | none => simp [markOwn, at_ctl, Phys.visited]
    | some ctl =>
      by_cases single : phys.needsSingleFlush = true
      · have shared : phys.flushesOwn = false := by simp [Phys.flushesOwn, single]
        simp [single, markOwn, at_ctl, shared, Phys.visited, enabled, Phys.leaves]
      · have alone : phys.leaves = false := by simp [Phys.leaves, single]
        cases flushable : phys.flushable with
        | false =>
          have unsent : phys.flushesOwn = false := by simp [Phys.flushesOwn, flushable]
          simp [single, triggerPhys_refused _ _ _ _ ((setBusy_flushable phys).trans flushable),
            markOwn, at_ctl, unsent, Phys.visited, enabled, alone]
        | true =>
          have own : phys.flushesOwn = true := by
            simp [Phys.flushesOwn, enabled, single, flushable]
          have sent := @triggerPhys_sent activeCfg _ _ v.physEncs.length false v.ctls Masks.empty
            ((setBusy_flushable phys).trans flushable) ((setBusy_hwCtl phys).trans at_ctl)
          rw [flushOf_congr (setBusy_dpDscIntf phys), flushOf_empty] at sent
          simp [single, sent, markOwn, at_ctl, own, Phys.visited, enabled, alone]
  · have disabled : phys.enabled = false := by simpa using enabled
    cases at_ctl : phys.hwCtl with
    | none => simp [disabled, markOwn, at_ctl, Phys.visited]
    | some ctl =>
      simp [disabled, markOwn, at_ctl, Phys.visited, Phys.flushesOwn, Phys.leaves]

end Visit

section VisitAll

variable {activeCfg : Bool} {physEncs : List Phys} {ctls : CtlFlushes}

theorem visitAll_append (phys : Phys) :
    visitAll activeCfg (physEncs ++ [phys]) ctls =
      visit activeCfg (visitAll activeCfg physEncs ctls) phys := by
  rw [visitAll, List.foldl_append]
  rfl

theorem physEncs_visitAll :
    (visitAll activeCfg physEncs ctls).physEncs = physEncs.map Phys.visited := by
  induction physEncs using List.reverseRecOn with
  | nil => rfl
  | append_singleton physEncs phys ih =>
    rw [visitAll_append, visit_eq, List.map_append, ← ih]
    rfl

theorem marked_append (phys : Phys) :
    marked activeCfg (physEncs ++ [phys]) ctls =
      markOwn activeCfg (marked activeCfg physEncs ctls) phys := by
  rw [marked, List.foldl_append]
  rfl

theorem ctls_visitAll :
    (visitAll activeCfg physEncs ctls).ctls = marked activeCfg physEncs ctls := by
  induction physEncs using List.reverseRecOn with
  | nil => rfl
  | append_singleton physEncs phys ih => rw [visitAll_append, visit_eq, marked_append, ih]

theorem pending_visitAll :
    (visitAll activeCfg physEncs ctls).pending = lastMasks activeCfg physEncs ctls := by
  induction physEncs using List.reverseRecOn with
  | nil => rfl
  | append_singleton physEncs phys ih =>
    rw [visitAll_append, visit_eq, lastMasks, upToLast, List.reverse_append]
    by_cases leaves : phys.leaves = true
    · obtain ⟨ctl, at_ctl⟩ := Option.isSome_iff_exists.mp (show phys.hwCtl.isSome = true by
        simp only [Phys.leaves, Bool.and_eq_true] at leaves
        exact leaves.2)
      simp [leaves, at_ctl, ctls_visitAll]
    · have stays : phys.leaves = false := by simpa using leaves
      rw [lastMasks, upToLast] at ih
      simp only [List.reverse_singleton, List.singleton_append, List.dropWhile_cons, stays,
        Bool.not_false, if_true, ← ih]
      cases phys.hwCtl with
      | none => rfl
      | some ctl => simp

theorem flushes_append (phys : Phys) :
    (visitAll activeCfg (physEncs ++ [phys]) ctls).flushes =
      (visitAll activeCfg physEncs ctls).flushes ++
        match phys.hwCtl with
        | none => []
        | some ctl =>
          if phys.flushesOwn then
            [⟨physEncs.length, false, ctl,
              phys.periphFlush activeCfg (marked activeCfg physEncs ctls ctl)⟩]
          else [] := by
  rw [visitAll_append, visit_eq, ctls_visitAll, physEncs_visitAll, List.length_map]

theorem flushesOwn_ctl {phys : Phys} (own : phys.flushesOwn = true) :
    ∃ ctl, phys.hwCtl = some ctl := by
  refine Option.isSome_iff_exists.mp ?_
  simp only [Phys.flushesOwn, Phys.flushable, Bool.and_eq_true] at own
  exact own.2.1.2

theorem flushes_append_own {phys : Phys} (own : phys.flushesOwn = true) {ctl : ℕ}
    (at_ctl : phys.hwCtl = some ctl) :
    (visitAll activeCfg (physEncs ++ [phys]) ctls).flushes =
      (visitAll activeCfg physEncs ctls).flushes ++
        [⟨physEncs.length, false, ctl, marked activeCfg (physEncs ++ [phys]) ctls ctl⟩] := by
  rw [flushes_append, marked_append]
  simp [at_ctl, own, markOwn]

theorem flushes_append_other {phys : Phys} (other : phys.flushesOwn = false) :
    (visitAll activeCfg (physEncs ++ [phys]) ctls).flushes =
        (visitAll activeCfg physEncs ctls).flushes ∧
      marked activeCfg (physEncs ++ [phys]) ctls = marked activeCfg physEncs ctls := by
  rw [flushes_append, marked_append, markOwn]
  cases phys.hwCtl with
  | none => simp
  | some ctl => simp [other]

theorem le_marked_append (phys : Phys) (ctl : ℕ) :
    (marked activeCfg physEncs ctls ctl).Le (marked activeCfg (physEncs ++ [phys]) ctls ctl) := by
  rw [marked_append, markOwn]
  cases phys.hwCtl with
  | none => exact le_refl _
  | some own =>
    dsimp only
    split
    · by_cases same : ctl = own
      · subst same
        rw [Function.update_self]
        exact le_periphFlush activeCfg phys _
      · rw [Function.update_of_ne same]
        exact le_refl _
    · exact le_refl _

theorem own_of_mem {t : Trigger} (sent : t ∈ (visitAll activeCfg physEncs ctls).flushes) :
    (∃ phys ∈ physEncs, phys.flushesOwn = true ∧ phys.hwCtl = some t.ctl) ∧
      t.combined = false ∧ t.flush.Le (marked activeCfg physEncs ctls t.ctl) := by
  induction physEncs using List.reverseRecOn with
  | nil => cases sent
  | append_singleton physEncs phys ih =>
    have split : t ∈ (visitAll activeCfg physEncs ctls).flushes ∨
        ∃ ctl, phys.flushesOwn = true ∧ phys.hwCtl = some ctl ∧
          t = ⟨physEncs.length, false, ctl, marked activeCfg (physEncs ++ [phys]) ctls ctl⟩ := by
      cases own : phys.flushesOwn with
      | false => exact .inl ((flushes_append_other own).1 ▸ sent)
      | true =>
        obtain ⟨ctl, at_ctl⟩ := flushesOwn_ctl own
        rw [flushes_append_own own at_ctl] at sent
        exact (List.mem_append.mp sent).imp id fun last =>
          ⟨ctl, rfl, at_ctl, List.mem_singleton.mp last⟩
    cases split with
    | inl before =>
      obtain ⟨⟨p, member, own⟩, single, le⟩ := ih before
      exact ⟨⟨p, List.mem_append_left _ member, own⟩, single,
        le_trans le (le_marked_append phys t.ctl)⟩
    | inr last =>
      obtain ⟨ctl, own, at_ctl, rfl⟩ := last
      exact ⟨⟨phys, List.mem_append_right _ List.mem_cons_self, own, at_ctl⟩, rfl, le_refl _⟩

theorem mem_of_own {phys : Phys} {ctl : ℕ} (member : phys ∈ physEncs)
    (own : phys.flushesOwn = true) (at_ctl : phys.hwCtl = some ctl) :
    ∃ t ∈ (visitAll activeCfg physEncs ctls).flushes,
      t.ctl = ctl ∧ t.flush = marked activeCfg physEncs ctls ctl := by
  induction physEncs using List.reverseRecOn with
  | nil => cases member
  | append_singleton physEncs last ih =>
    have earlier : last.flushesOwn = false ∨ last.hwCtl ≠ some ctl → phys ∈ physEncs := by
      intro other
      cases List.mem_append.mp member with
      | inl before => exact before
      | inr now =>
        obtain rfl := List.mem_singleton.mp now
        cases other with
        | inl unsent => rw [own] at unsent; cases unsent
        | inr apart => exact absurd at_ctl apart
    cases sends : last.flushesOwn with
    | false =>
      obtain ⟨same, kept⟩ := @flushes_append_other activeCfg physEncs ctls last sends
      rw [same, kept]
      exact ih (earlier (.inl sends))
    | true =>
      obtain ⟨other, at_other⟩ := flushesOwn_ctl sends
      rw [flushes_append_own sends at_other]
      by_cases here : other = ctl
      · subst here
        exact ⟨_, List.mem_append_right _ List.mem_cons_self, rfl, rfl⟩
      · obtain ⟨t, before, same, flush⟩ := ih (earlier (.inr fun now => here (by
          rw [at_other] at now
          exact Option.some.inj now)))
        refine ⟨t, List.mem_append_left _ before, same, ?_⟩
        rw [flush, marked_append]
        simp [markOwn, at_other, sends, Function.update_of_ne (Ne.symm here)]

theorem count_own (i : ℕ) :
    (visitAll activeCfg physEncs ctls).flushes.countP (fun t => t.phys = i && !t.combined) =
      if (physEncs[i]?).any Phys.flushesOwn then 1 else 0 := by
  induction physEncs using List.reverseRecOn with
  | nil => rfl
  | append_singleton physEncs phys ih =>
    rw [flushes_append, List.countP_append, ih]
    by_cases inside : i < physEncs.length
    · have apart : physEncs.length ≠ i := by omega
      rw [List.getElem?_append_left inside]
      cases phys.hwCtl with
      | none => simp
      | some ctl =>
        dsimp only
        split <;> simp [apart]
    · have absent : physEncs[i]? = none := List.getElem?_eq_none (by omega)
      rw [absent, List.getElem?_append_right (by omega)]
      by_cases here : i = physEncs.length
      · subst here
        cases own : phys.flushesOwn with
        | false =>
          cases phys.hwCtl with
          | none => simp [own]
          | some ctl => simp [own]
        | true =>
          obtain ⟨ctl, at_ctl⟩ := flushesOwn_ctl own
          simp [at_ctl, own]
      · have apart : physEncs.length ≠ i := fun same => here same.symm
        rw [List.getElem?_eq_none (by simp; omega)]
        simp only [Option.any_none, Bool.false_eq_true, if_false]
        cases phys.hwCtl with
        | none => rfl
        | some ctl =>
          dsimp only
          split <;> simp [apart]

end VisitAll

/-! ## The kickoff -/

def Enc.master (e : Enc) : Option Phys := e.curMaster.bind fun m => e.physEncs[m]?

def Enc.masterCtl (e : Enc) : Option ℕ := e.master.bind (·.hwCtl)

def Enc.lastMasks (e : Enc) : FlushCfg := Kickoff.lastMasks e.activeCfg e.physEncs e.ctls

def Enc.marked (e : Enc) (ctl : ℕ) : FlushCfg := Kickoff.marked e.activeCfg e.physEncs e.ctls ctl

def Enc.combines (e : Enc) : Bool :=
  e.lastMasks.summary ≠ 0#32 && e.master.any Phys.flushable

/-- All that the master's CTL is told to flush: its own masks and those of the last encoder that
    leaves them to the master, or its own masks where an encoder flushes the same CTL itself. -/
def Enc.sent (e : Enc) (ctl : ℕ) : FlushCfg :=
  match e.master with
  | none => Masks.empty
  | some master =>
    if e.combines then master.flushOf e.activeCfg (e.marked ctl) e.lastMasks
    else if e.physEncs.any fun phys => phys.flushesOwn && phys.hwCtl = some ctl then e.marked ctl
    else Masks.empty

def Enc.MasterSends (e : Enc) (reg : FlushReg) (bit : ℕ) : Prop :=
  ∃ t ∈ (kickoffPhys e).2, some t.ctl = e.masterCtl ∧ Written e.activeCfg t.flush reg bit

/-- Every pending bit of the encoders that need a single flush is written by a flush of the master's
    CTL, the bits of the groups on CTLs that have them, and every other encoder that takes part
    makes its own flush once. -/
structure NothingLost (e : Enc) : Prop where
  union : ∀ phys ∈ e.physEncs, phys.enabled = true → phys.needsSingleFlush = true →
    ∀ ctl, phys.hwCtl = some ctl → ∀ reg bit, reg = .flush ∨ e.activeCfg = true →
      (word (e.ctls ctl) reg).getLsbD bit = true → e.MasterSends reg bit
  own : ∀ i phys, e.physEncs[i]? = some phys → phys.enabled = true →
    phys.needsSingleFlush = false → phys.splitRole ≠ .skip →
      (kickoffPhys e).2.countP (fun t => t.phys = i && !t.combined) = 1

structure Collected (e : Enc) : Prop where
  told : ∀ phys ∈ e.physEncs, phys.leaves = true → ∀ ctl, phys.hwCtl = some ctl →
    ∀ reg bit, reg = .flush ∨ e.activeCfg = true → (word (e.ctls ctl) reg).getLsbD bit = true →
      ∃ main, e.masterCtl = some main ∧ Written e.activeCfg (e.sent main) reg bit
  equipped : ∀ phys ∈ e.physEncs, phys.enabled = true → phys.needsSingleFlush = false →
    phys.splitRole ≠ .skip → phys.hwPp = true ∧ phys.hwCtl.isSome = true

/-! ## What a kickoff makes of the physical encoders -/

def Phys.raised (phys : Phys) : Phys := if phys.enabled then phys.incPending else phys

theorem raised_countRetire (phys : Phys) : phys.countRetire.raised = phys.raised.countRetire := by
  have enabled : phys.countRetire.enabled = phys.enabled := by
    rw [Phys.countRetire]
    split_ifs <;> rfl
  have commutes : phys.countRetire.incPending = phys.incPending.countRetire := by
    have role : phys.incPending.isMaster = phys.isMaster := rfl
    rw [Phys.countRetire, Phys.countRetire, role]
    split_ifs <;> rfl
  rw [Phys.raised, Phys.raised, enabled, commutes]
  split_ifs <;> rfl

section Physical

variable {α : Type*} (g : Phys → α)

theorem map_setPhys (e : Enc) {i : ℕ} {phys phys' : Phys} (here : e.physEncs[i]? = some phys)
    (same : g phys' = g phys) : (e.setPhys i phys').physEncs.map g = e.physEncs.map g := by
  have inside := (List.getElem?_eq_some_iff.mp here).1
  refine List.ext_getElem? fun j => ?_
  rw [Enc.setPhys, List.getElem?_map, List.getElem?_map, List.getElem?_set]
  by_cases at_i : i = j
  · subst at_i
    rw [if_pos rfl, if_pos inside, here, Option.map_some, Option.map_some, same]
  · rw [if_neg at_i]

variable {g} (retire : ∀ phys : Phys, g phys.countRetire = g phys)
include retire

theorem map_triggerPhys (activeCfg : Bool) (i : ℕ) (combined : Bool) (phys : Phys)
    (ctls : CtlFlushes) (extra : FlushCfg) :
    g (triggerPhys activeCfg i combined phys ctls extra).1 = g phys := by
  rw [triggerPhys]
  split
  · rfl
  · split
    · rfl
    · exact retire phys

theorem map_combinedFlush (e : Enc) (pending : FlushCfg) :
    (combinedFlush e pending).1.physEncs.map g = e.physEncs.map g := by
  rw [combinedFlush]
  split
  · rfl
  · cases e.curMaster with
    | none => rfl
    | some m =>
      cases here : e.physEncs[m]? with
      | none => simp [here]
      | some master =>
        simp only [here]
        exact map_setPhys g e here (map_triggerPhys retire _ _ _ _ _ _)

omit retire in
theorem physEncs_startMaster (e : Enc) : (startMaster e).physEncs = e.physEncs := by
  rw [startMaster]
  cases e.curMaster.bind fun m => e.physEncs[m]? with
  | none => rfl
  | some master =>
    dsimp only
    split_ifs
    · rfl
    · cases master.hwCtl with
      | none => rfl
      | some ctl => rfl

theorem map_kickoffPhys (e : Enc) :
    (kickoffPhys e).1.physEncs.map g = e.physEncs.map fun phys => g phys.visited.raised := by
  have raised : ∀ phys : Phys, g phys.countRetire.raised = g phys.raised := fun phys => by
    rw [raised_countRetire, retire]
  have same := @map_combinedFlush α (fun phys => g phys.raised) raised
    { e with
      physEncs := (visitAll e.activeCfg e.physEncs e.ctls).physEncs
      ctls := (visitAll e.activeCfg e.physEncs e.ctls).ctls }
    (visitAll e.activeCfg e.physEncs e.ctls).pending
  rw [kickoffPhys, physEncs_startMaster, raisePending, List.map_map]
  refine Eq.trans same ?_
  rw [physEncs_visitAll, List.map_map]
  rfl

end Physical

section Kickoff

variable {e : Enc} {reg : FlushReg} {bit : ℕ}

def Enc.visited (e : Enc) : Enc :=
  { e with physEncs := e.physEncs.map Phys.visited, ctls := e.marked }

theorem kickoffPhys_flushes (e : Enc) :
    (kickoffPhys e).2 =
      (visitAll e.activeCfg e.physEncs e.ctls).flushes ++
        (combinedFlush e.visited e.lastMasks).2 := by
  rw [kickoffPhys, physEncs_visitAll, ctls_visitAll, pending_visitAll]
  rfl

theorem combined_eq (e : Enc) :
    (combinedFlush e.visited e.lastMasks).2 = [] ∧ e.combines = false ∨
      ∃ m master main, e.curMaster = some m ∧ e.master = some master ∧
        master.hwCtl = some main ∧ e.combines = true ∧
        (combinedFlush e.visited e.lastMasks).2 =
          [⟨m, true, main, master.flushOf e.activeCfg (e.marked main) e.lastMasks⟩] := by
  rw [combinedFlush, Enc.combines]
  by_cases nothing : e.lastMasks.summary = 0#32
  · left
    simp [nothing]
  · rw [if_neg nothing]
    cases at_m : e.curMaster with
    | none =>
      left
      simp [Enc.visited, Enc.master, at_m]
    | some m =>
      cases present : e.physEncs[m]? with
      | none =>
        left
        simp [Enc.visited, Enc.master, at_m, present]
      | some master =>
        have here : e.master = some master := by simp [Enc.master, at_m, present]
        cases flushable : master.flushable with
        | false =>
          left
          simp [Enc.visited, at_m, present, here, flushable,
            triggerPhys_refused _ _ _ _ ((visited_flushable master).trans flushable)]
        | true =>
          right
          obtain ⟨main, at_main⟩ := Option.isSome_iff_exists.mp (show master.hwCtl.isSome = true by
            simp only [Phys.flushable, Bool.and_eq_true] at flushable
            exact flushable.1.2)
          have sent := @triggerPhys_sent e.activeCfg _ _ m true e.marked e.lastMasks
            ((visited_flushable master).trans flushable) ((visited_hwCtl master).trans at_main)
          rw [flushOf_congr (visited_dpDscIntf master)] at sent
          refine ⟨m, master, main, rfl, here, at_main, by simp [nothing, here, flushable], ?_⟩
          simp [Enc.visited, at_m, present, sent]

theorem masterSends_iff :
    e.MasterSends reg bit ↔
      ∃ main, e.masterCtl = some main ∧ Written e.activeCfg (e.sent main) reg bit := by
  rw [Enc.MasterSends, kickoffPhys_flushes]
  rcases combined_eq e with ⟨none, off⟩ | ⟨m, master, main, -, here, at_main, on, one⟩
  · rw [none, List.append_nil]
    constructor
    · rintro ⟨t, sent, same, written⟩
      obtain ⟨⟨phys, member, own, at_ctl⟩, -, le⟩ := own_of_mem sent
      refine ⟨t.ctl, same.symm, ?_⟩
      obtain ⟨master, here, -⟩ := Option.bind_eq_some_iff.mp same.symm
      have shared : (e.physEncs.any fun phys => phys.flushesOwn && phys.hwCtl = some t.ctl) =
        true :=
        List.any_eq_true.mpr ⟨phys, member, by simp [own, at_ctl]⟩
      rw [Enc.sent, here]
      simp only [off, Bool.false_eq_true, if_false]
      rw [if_pos shared]
      exact written_mono le written
    · rintro ⟨main, same, written⟩
      obtain ⟨master, here, -⟩ := Option.bind_eq_some_iff.mp same
      rw [Enc.sent, here] at written
      simp only [off, Bool.false_eq_true, if_false] at written
      split at written
      next shared =>
        obtain ⟨phys, member, both⟩ := List.any_eq_true.mp shared
        simp only [Bool.and_eq_true, decide_eq_true_eq] at both
        obtain ⟨t, sent, at_ctl, flush⟩ := mem_of_own member both.1 both.2
        exact ⟨t, sent, by rw [at_ctl, same], flush ▸ written⟩
      next =>
        have set := (written_iff.mp written).1
        cases reg with
        | flush => simp [word, Masks.empty] at set
        | group g => simp [word, Masks.empty] at set
  · have same : e.masterCtl = some main := Option.bind_eq_some_iff.mpr ⟨master, here, at_main⟩
    have all : e.sent main = master.flushOf e.activeCfg (e.marked main) e.lastMasks := by
      rw [Enc.sent, here]
      simp only [on, if_true]
    rw [one]
    constructor
    · rintro ⟨t, sent, at_main', written⟩
      refine ⟨main, same, ?_⟩
      rw [all]
      cases List.mem_append.mp sent with
      | inl own =>
        -- the combined flush has what the own flushes of the CTL have
        have here' : t.ctl = main := Option.some.inj (at_main'.trans same)
        have le := (own_of_mem own).2.2
        rw [here'] at le
        exact written_mono (le_trans le (le_trans (le_periphFlush _ master _)
          (le_flushOf _ master _ _))) written
      | inr last =>
        rw [List.mem_singleton.mp last] at written
        exact written
    · rintro ⟨main', same', written⟩
      obtain rfl : main = main' := Option.some.inj (same.symm.trans same')
      rw [all] at written
      exact ⟨_, List.mem_append_right _ List.mem_cons_self, same.symm, written⟩

theorem count_kickoff (i : ℕ) :
    (kickoffPhys e).2.countP (fun t => t.phys = i && !t.combined) =
      if (e.physEncs[i]?).any Phys.flushesOwn then 1 else 0 := by
  rw [kickoffPhys_flushes, List.countP_append, count_own]
  rcases combined_eq e with ⟨none, -⟩ | ⟨m, master, main, -, -, -, -, one⟩
  · simp [none]
  · simp [one]

/-- For every number of physical encoders, whichever of them need a single flush, whatever is
    pending in their CTLs: a kickoff loses nothing exactly when the master's CTL and the last
    encoder's masks have it all. -/
theorem nothingLost_iff_collected (e : Enc) : NothingLost e ↔ Collected e := by
  constructor
  · rintro ⟨union, own⟩
    refine ⟨fun phys member leaves ctl at_ctl reg bit has set => ?_,
      fun phys member enabled many role => ?_⟩
    · simp only [Phys.leaves, Bool.and_eq_true] at leaves
      exact masterSends_iff.mp
        (union phys member leaves.1.1 leaves.1.2 ctl at_ctl reg bit has set)
    · obtain ⟨i, at_i⟩ := List.mem_iff_getElem?.mp member
      have once := own i phys at_i enabled many role
      rw [count_kickoff, at_i] at once
      have sends : phys.flushesOwn = true := by
        by_contra unsent
        simp [unsent] at once
      simp only [Phys.flushesOwn, Phys.flushable, Bool.and_eq_true] at sends
      exact ⟨sends.2.1.1, sends.2.1.2⟩
  · rintro ⟨told, equipped⟩
    refine ⟨fun phys member enabled single ctl at_ctl reg bit has set => ?_,
      fun i phys at_i enabled many role => ?_⟩
    · have leaves : phys.leaves = true := by simp [Phys.leaves, enabled, single, at_ctl]
      exact masterSends_iff.mpr (told phys member leaves ctl at_ctl reg bit has set)
    · obtain ⟨pp, ctl⟩ := equipped phys (List.mem_of_getElem? at_i) enabled many role
      have sends : phys.flushesOwn = true := by
        simp [Phys.flushesOwn, Phys.flushable, enabled, many, pp, ctl, role]
      rw [count_kickoff, at_i]
      simp [sends]

end Kickoff

/-! ### Two interfaces of four mixers -/

/-- `SDE_RM_TOPOLOGY_QUADPIPE_DSCMERGE`: two interfaces share a CTL, which four mixers feed. -/
def quadPipe : Enc where
  activeCfg := true
  physEncs := [singleFlush .master 0, { singleFlush .slave 0 with intfIdx := 1 }]
  curMaster := some 0
  intfsSwapped := false
  inlineAsync := false
  ctls _ := ⟨BitVec.twoPow 32 6, fun _ => 0#32⟩

/-- An update of the right half is one of the mixers two and three, and both encoders skip the
    frame. -/
theorem not_nothingLost_rightHalf : ¬∀ e : Enc, NothingLost e := by
  intro always
  have union := (always (updateMaster 0b1100 quadPipe)).union (singleFlush .skip 0)
    (List.mem_of_getElem? (i := 0) rfl) rfl rfl 0 rfl .flush 6 (.inl rfl) (by decide)
  obtain ⟨main, same, written⟩ := masterSends_iff.mp union
  obtain rfl : 0 = main := Option.some.inj same
  exact absurd (written_iff.mp written).1 (by decide)

end DisplayDrivers.Encoder.Kickoff
