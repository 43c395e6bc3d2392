import DisplayDrivers.Lib.Run
import DisplayDrivers.DsiClk.Manager
import Mathlib.Data.List.Nodup

/-! # The manager follows its clients' votes

`dsiUpdateClkState_states` is all that the votes need to know about the clock sequences: an update
that returns 0 has moved the manager to the states it was called with.
-/

namespace DisplayDrivers.DsiClk

open DisplayDrivers.Lib.Run

/-! ## What an update and a recheck leave behind -/

structure SameClients (m m' : DsiClkMngr) : Prop where
  info : m'.info = m.info
  clientList : m'.clientList = m.clientList
  made : m'.made = m.made

theorem SameClients.refl (m : DsiClkMngr) : SameClients m m := ⟨rfl, rfl, rfl⟩

variable {m : DsiClkMngr}

variable {m' : DsiClkMngr}

theorem SameClients.trans {m'' : DsiClkMngr} (first : SameClients m m')
    (second : SameClients m' m'') : SameClients m m'' :=
  ⟨second.info.trans first.info, second.clientList.trans first.clientList,
    second.made.trans first.made⟩

theorem turnCoreOn_sameClients (m : DsiClkMngr) (cClks : Bool) (cState : DsiClkState) :
    SameClients m (turnCoreOn m cClks cState).1 := by
  unfold turnCoreOn
  split
  · dsimp only
    split <;> exact ⟨rfl, rfl, rfl⟩
  · exact .refl m

theorem updateLink_sameClients (m : DsiClkMngr) (cClks : Bool) (cState : DsiClkState)
    (lClks : Bool) (lState : DsiClkState) (rc : Int) :
    SameClients m (updateLink m cClks cState lClks lState rc).1 := by
  unfold updateLink
  split
  · split
    · dsimp only
      split <;> exact ⟨rfl, rfl, rfl⟩
    · dsimp only
      split <;> exact ⟨rfl, rfl, rfl⟩
  · exact .refl m

theorem turnCoreOff_sameClients (m : DsiClkMngr) (cClks : Bool) (cState : DsiClkState)
    (lCOn : Bool) (rc : Int) : SameClients m (turnCoreOff m cClks cState lCOn rc).1 := by
  unfold turnCoreOff
  split
  · dsimp only
    split <;> exact ⟨rfl, rfl, rfl⟩
  · exact .refl m

theorem dsiUpdateClkState_sameClients (m : DsiClkMngr) (cClks : Bool) (cState : DsiClkState)
    (lClks : Bool) (lState : DsiClkState) :
    SameClients m (dsiUpdateClkState m cClks cState lClks lState).1 := by
  have first := turnCoreOn_sameClients m cClks cState
  unfold dsiUpdateClkState
  generalize turnCoreOn m cClks cState = on at first ⊢
  rcases on with ⟨m₁, rc | rc⟩
  · exact first
  · have second := updateLink_sameClients m₁ cClks cState lClks lState rc
    dsimp only
    generalize updateLink m₁ cClks cState lClks lState rc = link at second ⊢
    rcases link with ⟨m₂, rc' | ⟨rc', lCOn⟩⟩
    · exact first.trans second
    · exact (first.trans second).trans (turnCoreOff_sameClients m₂ cClks cState lCOn rc')

variable {cState : DsiClkState} {cClks : Bool} {rc : Int}

theorem turnCoreOn_error (outcome : turnCoreOn m cClks cState = (m', .error rc)) : rc ≠ 0 := by
  unfold turnCoreOn at outcome
  split at outcome
  · dsimp only at outcome
    split at outcome
    next failed =>
      obtain ⟨-, rfl⟩ := outcome
      exact failed
    next => cases outcome
  · cases outcome

theorem turnCoreOn_ok (outcome : turnCoreOn m cClks cState = (m', .ok rc)) :
    m'.linkClkState = m.linkClkState ∧
      m'.coreClkState = if cClks ∧ cState = .on then .on else m.coreClkState := by
  unfold turnCoreOn at outcome
  split at outcome
  next turnsOn =>
    rw [if_pos turnsOn]
    dsimp only at outcome
    split at outcome
    next => cases outcome
    next =>
      obtain ⟨rfl, -⟩ := outcome
      exact ⟨rfl, rfl⟩
  next staysOff =>
    rw [if_neg staysOff]
    obtain ⟨rfl, -⟩ := outcome
    exact ⟨rfl, rfl⟩

theorem updateLink_error {lClks : Bool} {lState : DsiClkState}
    {rc' : Int} (outcome : updateLink m cClks cState lClks lState rc = (m', .error rc')) :
    rc' ≠ 0 := by
  unfold updateLink at outcome
  split at outcome
  · dsimp only at outcome
    split at outcome <;> split at outcome
    next failed =>
      obtain ⟨-, rfl⟩ := outcome
      exact failed
    next => cases outcome
    next failed =>
      obtain ⟨-, rfl⟩ := outcome
      exact failed
    next => cases outcome
  · cases outcome

theorem updateLink_ok {lClks : Bool} {lState : DsiClkState} {result : Int × Bool}
    (outcome : updateLink m cClks cState lClks lState rc = (m', .ok result)) :
    m'.coreClkState = m.coreClkState ∧
      m'.linkClkState = if lClks then lState else m.linkClkState := by
  unfold updateLink at outcome
  split at outcome
  next moves =>
    rw [if_pos moves]
    dsimp only at outcome
    split at outcome <;> split at outcome
    next => cases outcome
    next =>
      obtain ⟨rfl, -⟩ := outcome
      exact ⟨rfl, rfl⟩
    next => cases outcome
    next =>
      obtain ⟨rfl, -⟩ := outcome
      exact ⟨rfl, rfl⟩
  next stays =>
    rw [if_neg stays]
    obtain ⟨rfl, -⟩ := outcome
    exact ⟨rfl, rfl⟩

theorem turnCoreOff_states (m : DsiClkMngr) (cClks : Bool) (cState : DsiClkState) (lCOn : Bool)
    (rc : Int) (success : (turnCoreOff m cClks cState lCOn rc).2 = 0) :
    (turnCoreOff m cClks cState lCOn rc).1.linkClkState = m.linkClkState ∧
      (turnCoreOff m cClks cState lCOn rc).1.coreClkState =
        if cClks ∧ cState ≠ .on then cState else m.coreClkState := by
  unfold turnCoreOff at success ⊢
  by_cases turnsOff : cClks ∧ cState ≠ .on
  · rw [if_pos turnsOff] at success
    rw [if_pos turnsOff, if_pos turnsOff]
    dsimp only at success ⊢
    split at success
    next failed => exact absurd success failed
    next passed =>
      rw [if_neg passed]
      exact ⟨rfl, rfl⟩
  · rw [if_neg turnsOff, if_neg turnsOff]
    exact ⟨rfl, rfl⟩

theorem dsiUpdateClkState_states (m : DsiClkMngr) (cClks : Bool) (cState : DsiClkState)
    (lClks : Bool) (lState : DsiClkState)
    (success : (dsiUpdateClkState m cClks cState lClks lState).2 = 0) :
    (dsiUpdateClkState m cClks cState lClks lState).1.coreClkState =
        (if cClks then cState else m.coreClkState) ∧
      (dsiUpdateClkState m cClks cState lClks lState).1.linkClkState =
        (if lClks then lState else m.linkClkState) := by
  unfold dsiUpdateClkState at success ⊢
  rcases on : turnCoreOn m cClks cState with ⟨m₁, rc | rc⟩
  · rw [on] at success
    exact absurd success (turnCoreOn_error on)
  · have first := turnCoreOn_ok on
    rw [on] at success
    dsimp only at success ⊢
    rcases link : updateLink m₁ cClks cState lClks lState rc with ⟨m₂, rc' | ⟨rc', lCOn⟩⟩
    · rw [link] at success
      exact absurd success (updateLink_error link)
    · have second := updateLink_ok link
      rw [link] at success
      have third := turnCoreOff_states m₂ cClks cState lCOn rc' success
      refine ⟨?_, ?_⟩
      · rw [third.2, second.1, first.2]
        cases cClks <;> cases cState <;> simp
      · rw [third.1, second.2, first.1]

theorem dsiRecheckClkState_states (m : DsiClkMngr) (success : (dsiRecheckClkState m).2 = 0) :
    (dsiRecheckClkState m).1.coreClkState = newCoreClkState m.clientList ∧
      (dsiRecheckClkState m).1.linkClkState = newLinkClkState m.clientList := by
  unfold dsiRecheckClkState at success ⊢
  dsimp only at success ⊢
  split at success
  next moves =>
    rw [if_pos moves]
    obtain ⟨core, link⟩ := dsiUpdateClkState_states m _ _ _ _ success
    refine ⟨core.trans ?_, link.trans ?_⟩
    · by_cases same : newCoreClkState m.clientList = m.coreClkState <;> simp [same]
    · by_cases same : newLinkClkState m.clientList = m.linkClkState <;> simp [same]
  next stays =>
    rw [if_neg stays]
    push Not at stays
    exact ⟨stays.1.symm, stays.2.symm⟩

theorem dsiRecheckClkState_sameClients (m : DsiClkMngr) :
    SameClients m (dsiRecheckClkState m).1 := by
  unfold dsiRecheckClkState
  dsimp only
  split
  · exact dsiUpdateClkState_sameClients m _ _ _ _
  · exact .refl m

/-! ## Aggregation -/

theorem newClkState_eq (state : DsiClkState) (states : List DsiClkState) :
    newClkState state states =
      if .on ∈ states then .on else if .earlyGate ∈ states then .earlyGate else state := by
  induction states generalizing state with
  | nil => simp [newClkState]
  | cons s rest ih =>
    cases s with
    | on => simp [newClkState]
    | earlyGate =>
      simp only [newClkState, ih]
      simp
    | off =>
      simp only [newClkState, ih]
      simp

theorem newClkState_congr {states states' : List DsiClkState}
    (same : ∀ s, s ≠ .off → (s ∈ states ↔ s ∈ states')) :
    newClkState .off states = newClkState .off states' := by
  rw [newClkState_eq, newClkState_eq]
  simp only [same .on (by decide), same .earlyGate (by decide)]

/-! ## Votes -/

def Vote.Settled (v : Vote) : Prop := v.clkState ≠ .on → v.refcount = 0

def Vote.Counted (v : Vote) : Prop := v.clkState = .on ↔ 0 < v.refcount.toNat

def REFCOUNT_MAX : U32 := 0xFFFFFFFF

variable {state : DsiClkState}

variable {v : Vote}

theorem Vote.request_unchanged {named : Bool} (unchanged : (v.request named state).2 = false) :
    (v.request named state).1.clkState = v.clkState := by
  unfold Vote.request at unchanged ⊢
  split_ifs at unchanged ⊢ with unnamed turnsOn
  · rfl
  · exact (not_not.mp (of_decide_eq_false unchanged)).symm
  · rfl
  · rfl

theorem Vote.request_settled (settled : v.Settled) (named : Bool)
    (state : DsiClkState) : (v.request named state).1.Settled := by
  unfold Vote.request
  split_ifs with unnamed turnsOn empty gate last
  · exact settled
  · exact fun notOn => absurd rfl notOn
  · exact fun _ => empty
  · exact settled
  · exact fun _ => rfl
  · intro notOn
    exact absurd (settled notOn) empty

theorem Vote.toNat_pos_iff (refcount : U32) : 0 < refcount.toNat ↔ refcount ≠ 0 := by
  rw [Nat.pos_iff_ne_zero, ne_eq, ne_eq, BitVec.toNat_eq]
  rfl

theorem Vote.request_counted {named : Bool}
    (counted : v.Counted) (noWrap : named → state = .on → v.refcount ≠ REFCOUNT_MAX) :
    (v.request named state).1.Counted := by
  obtain ⟨refcount, clkState⟩ := v
  unfold Vote.request
  split_ifs with unnamed turnsOn empty gate last
  · exact counted
  · have room : refcount ≠ REFCOUNT_MAX := noWrap (by simpa using unnamed) turnsOn
    refine iff_of_true rfl ((Vote.toNat_pos_iff _).mpr ?_)
    -- only the largest count becomes 0 when it is incremented
    intro wrapped
    have back : refcount = 0 - 1 := wrapped ▸ (BitVec.add_sub_cancel refcount 1).symm
    exact room back
  · subst empty
    exact iff_of_false nofun (Nat.lt_irrefl 0)
  · exact counted
  · exact iff_of_false turnsOn (Nat.lt_irrefl 0)
  · have held : clkState = .on := counted.mpr ((Vote.toNat_pos_iff _).mpr empty)
    exact iff_of_true held ((Vote.toNat_pos_iff _).mpr last)

/-! ## The manager agrees with its clients -/

structure Clients (m : DsiClkMngr) : Prop where
  handles : (m.clientList.map (·.handle)).Nodup
  fresh : ∀ c ∈ m.clientList, c.handle < m.made
  settled : ∀ c ∈ m.clientList, c.core.Settled ∧ c.link.Settled

structure Consistent (m : DsiClkMngr) : Prop extends Clients m where
  core : m.coreClkState = newCoreClkState m.clientList
  link : m.linkClkState = newLinkClkState m.clientList

variable {c : DsiClkClientInfo}

variable {d : DsiClkClientInfo}

theorem Clients.eq_of_handle (clients : Clients m)
    (hc : c ∈ m.clientList) (hd : d ∈ m.clientList) (same : d.handle = c.handle) : d = c :=
  List.inj_on_of_nodup_map clients.handles hd hc same

theorem Clients.of_same (clients : Clients m) (same : SameClients m m') : Clients m' := by
  constructor
  · rw [same.clientList]
    exact clients.handles
  · rw [same.clientList, same.made]
    exact clients.fresh
  · rw [same.clientList]
    exact clients.settled

theorem mem_store (member : d ∈ (m.store c).clientList) :
    d = c ∨ d ∈ m.clientList ∧ d.handle ≠ c.handle := by
  obtain ⟨e, old, rfl⟩ := List.mem_map.mp member
  by_cases same : e.handle = c.handle
  · exact .inl (if_pos same)
  · rw [if_neg same]
    exact .inr ⟨old, same⟩

theorem store_handles (m : DsiClkMngr) (c : DsiClkClientInfo) :
    (m.store c).clientList.map (·.handle) = m.clientList.map (·.handle) := by
  rw [DsiClkMngr.store, List.map_map]
  refine List.map_congr_left fun d _ => ?_
  by_cases same : d.handle = c.handle <;> simp [same]

theorem clients_store (clients : Clients m)
    (known : c.handle < m.made) (settled : c.core.Settled ∧ c.link.Settled) :
    Clients (m.store c) where
  handles := by
    rw [store_handles]
    exact clients.handles
  fresh := by
    intro d member
    rcases mem_store member with rfl | ⟨old, -⟩
    · exact known
    · exact clients.fresh d old
  settled := by
    intro d member
    rcases mem_store member with rfl | ⟨old, -⟩
    · exact settled
    · exact clients.settled d old

theorem store_states (clients : Clients m) {c' : DsiClkClientInfo}
    (member : c ∈ m.clientList) (handle : c'.handle = c.handle)
    (vote : DsiClkClientInfo → Vote) (same : (vote c').clkState = (vote c).clkState) :
    (m.store c').clientList.map (fun d => (vote d).clkState) =
      m.clientList.map fun d => (vote d).clkState := by
  rw [DsiClkMngr.store, List.map_map]
  refine List.map_congr_left fun d onList => ?_
  by_cases isClient : d.handle = c'.handle
  · obtain rfl := clients.eq_of_handle member onList (isClient.trans handle)
    simpa [isClient] using same
  · simp [isClient]

theorem consistent_recheck (clients : Clients m)
    (success : (dsiRecheckClkState m).2 = 0) : Consistent (dsiRecheckClkState m).1 := by
  have same := dsiRecheckClkState_sameClients m
  obtain ⟨core, link⟩ := dsiRecheckClkState_states m success
  refine { toClients := clients.of_same same, core := ?_, link := ?_ }
  · rw [core, same.clientList]
  · rw [link, same.clientList]

def requested (c : DsiClkClientInfo) (clk : DsiClkType) (state : DsiClkState) :
    DsiClkClientInfo × Bool :=
  let core := c.core.request (clk &&& DSI_CORE_CLK ≠ 0) state
  let link := c.link.request (clk &&& DSI_LINK_CLK ≠ 0) state
  ({ c with core := core.1, link := link.1 }, core.2 || link.2)

@[simp] theorem requested_handle (c : DsiClkClientInfo) (clk : DsiClkType) (state : DsiClkState) :
    (requested c clk state).1.handle = c.handle := rfl

theorem requested_settled (settled : c.core.Settled ∧ c.link.Settled)
    (clk : DsiClkType) (state : DsiClkState) :
    (requested c clk state).1.core.Settled ∧ (requested c clk state).1.link.Settled :=
  ⟨Vote.request_settled settled.1 _ state, Vote.request_settled settled.2 _ state⟩

theorem requested_unchanged {clk : DsiClkType} (unchanged : (requested c clk state).2 = false) :
    (requested c clk state).1.core.clkState = c.core.clkState ∧
      (requested c clk state).1.link.clkState = c.link.clkState := by
  obtain ⟨core, link⟩ := Bool.or_eq_false_iff.mp unchanged
  exact ⟨Vote.request_unchanged core, Vote.request_unchanged link⟩

theorem dsiClkReqState_cases (m : DsiClkMngr) (client : Nat) (clk : DsiClkType)
    (state : DsiClkState) :
    dsiClkReqState m client clk state = (m, -EINVAL) ∧
        (clk = 0 ∨ 3 < clk ∨ ∀ c ∈ m.clientList, c.handle ≠ client) ∨
      ∃ c ∈ m.clientList, c.handle = client ∧ clk ≠ 0 ∧ clk ≤ 3 ∧
        dsiClkReqState m client clk state =
          if (requested c clk state).2 then dsiRecheckClkState (m.store (requested c clk state).1)
          else (m.store (requested c clk state).1, 0) := by
  unfold dsiClkReqState
  cases found : m.clientList.find? (fun c => c.handle = client) with
  | none => exact .inl ⟨rfl, .inr (.inr (by simpa using List.find?_eq_none.mp found))⟩
  | some c =>
    dsimp only
    by_cases invalid : clk = 0 ∨ clk > DSI_CORE_CLK ||| DSI_LINK_CLK
    · exact .inl ⟨if_pos invalid, invalid.imp id .inl⟩
    · rw [if_neg invalid]
      rw [not_or] at invalid
      exact .inr ⟨c, List.mem_of_find?_eq_some found, by simpa using List.find?_some found,
        invalid.1, Nat.le_of_not_gt invalid.2, rfl⟩

theorem consistent_reqState (consistent : Consistent m) {client : Nat} {clk : DsiClkType}
    (success : (dsiClkReqState m client clk state).2 = 0) :
    Consistent (dsiClkReqState m client clk state).1 := by
  rcases dsiClkReqState_cases m client clk state with ⟨rejected, -⟩ | ⟨c, member, -, -, -, outcome⟩
  · rw [rejected]
    exact consistent
  · rw [outcome] at success ⊢
    have clients : Clients (m.store (requested c clk state).1) :=
      clients_store consistent.toClients (consistent.fresh c member)
        (requested_settled (consistent.settled c member) clk state)
    cases changed : (requested c clk state).2 with
    | true =>
      rw [changed] at success
      exact consistent_recheck clients success
    | false =>
      obtain ⟨core, link⟩ := requested_unchanged changed
      have handle := requested_handle c clk state
      refine { toClients := clients, core := ?_, link := ?_ }
      · have same := store_states consistent.toClients member handle (·.core) core
        exact consistent.core.trans (congrArg _ same).symm
      · have same := store_states consistent.toClients member handle (·.link) link
        exact consistent.link.trans (congrArg _ same).symm

def silenced (c : DsiClkClientInfo) : DsiClkClientInfo :=
  { c with core := { c.core with clkState := .off }, link := { c.link with clkState := .off } }

theorem dsiDeregisterClkHandle_cases (m : DsiClkMngr) (client : Nat) :
    dsiDeregisterClkHandle m client = (m, -EINVAL) ∧ (∀ c ∈ m.clientList, c.handle ≠ client) ∨
      ∃ c ∈ m.clientList, c.handle = client ∧
        dsiDeregisterClkHandle m client =
          let done := dsiRecheckClkState (m.store (silenced c))
          if done.2 ≠ 0 then done
          else
            ({ done.1 with
                clientList := done.1.clientList.eraseP (fun c => c.handle = client) }, 0) := by
  unfold dsiDeregisterClkHandle
  cases found : m.clientList.find? (fun c => c.handle = client) with
  | none => exact .inl ⟨rfl, by simpa using List.find?_eq_none.mp found⟩
  | some c =>
    refine .inr ⟨c, List.mem_of_find?_eq_some found, by simpa using List.find?_some found, ?_⟩
    show (if _ then _ else _) = if (dsiRecheckClkState (m.store (silenced c))).2 ≠ 0 then _ else _
    by_cases failed : (dsiRecheckClkState (m.store (silenced c))).2 ≠ 0
    · rw [if_pos failed]
      exact if_pos failed
    · rw [if_neg failed]
      exact (if_neg failed).trans (Prod.ext rfl (not_not.mp failed))

theorem mem_eraseP_silenced
    (vote : DsiClkClientInfo → Vote) (quiet : (vote (silenced c)).clkState = .off)
    (member : d ∈ (m.store (silenced c)).clientList) (loud : (vote d).clkState ≠ .off) :
    d ∈ (m.store (silenced c)).clientList.eraseP (fun d => d.handle = c.handle) := by
  refine (List.mem_eraseP_of_neg ?_).mpr member
  rcases mem_store member with rfl | ⟨-, differ⟩
  · exact absurd quiet loud
  · simpa [silenced] using differ

theorem newClkState_eraseP (m : DsiClkMngr) (c : DsiClkClientInfo)
    (vote : DsiClkClientInfo → Vote) (quiet : (vote (silenced c)).clkState = .off) :
    newClkState .off (((m.store (silenced c)).clientList.eraseP
        (fun d => d.handle = c.handle)).map fun d => (vote d).clkState) =
      newClkState .off ((m.store (silenced c)).clientList.map fun d => (vote d).clkState) := by
  refine newClkState_congr fun s loud => ?_
  simp only [List.mem_map]
  constructor
  · rintro ⟨d, left, rfl⟩
    exact ⟨d, List.mem_of_mem_eraseP left, rfl⟩
  · rintro ⟨d, member, rfl⟩
    exact ⟨d, mem_eraseP_silenced vote quiet member loud, rfl⟩

theorem mem_eraseP_handle (clients : Clients m) {d : DsiClkClientInfo}
    (left : d ∈ (m.store (silenced c)).clientList.eraseP (fun d => d.handle = c.handle)) :
    d ∈ m.clientList ∧ d.handle ≠ c.handle := by
  have handles : ((m.store (silenced c)).clientList.map (·.handle)).Nodup := by
    rw [store_handles]
    exact clients.handles
  -- `eraseP` takes the first client with the handle, and there is no second
  have differ : d.handle ≠ c.handle := by
    intro same
    rcases List.exists_or_eq_self_of_eraseP
      (fun d : DsiClkClientInfo => decide (d.handle = c.handle))
      (m.store (silenced c)).clientList with
      untouched | ⟨gone, front, back, early, isGone, split, rest⟩
    · rw [untouched] at left
      have none := List.eraseP_eq_self_iff.mp untouched d left
      simp [same] at none
    · have goneHandle : gone.handle = c.handle := by simpa using isGone
      rw [split] at handles
      rw [rest] at left
      simp only [List.map_append, List.map_cons] at handles
      have apart := (List.nodup_middle.mp handles)
      apply (List.nodup_cons.mp apart).1
      rw [goneHandle, ← same, ← List.map_append]
      exact List.mem_map_of_mem left
  rcases mem_store (List.mem_of_mem_eraseP left) with rfl | ⟨old, -⟩
  · exact absurd rfl differ
  · exact ⟨old, differ⟩

theorem consistent_deregister (consistent : Consistent m) {client : Nat}
    (success : (dsiDeregisterClkHandle m client).2 = 0) :
    Consistent (dsiDeregisterClkHandle m client).1 := by
  rcases dsiDeregisterClkHandle_cases m client with ⟨rejected, -⟩ | ⟨c, member, rfl, outcome⟩
  · rw [rejected]
    exact consistent
  · dsimp only at outcome
    have passed : (dsiRecheckClkState (m.store (silenced c))).2 = 0 := by
      by_contra failed
      rw [outcome, if_pos failed] at success
      exact failed success
    rw [outcome, if_neg (not_not.mpr passed)]
    have same := dsiRecheckClkState_sameClients (m.store (silenced c))
    obtain ⟨core, link⟩ := dsiRecheckClkState_states _ passed
    -- the votes were counted with the silenced client still on the list
    have left : ∀ d ∈ (dsiRecheckClkState (m.store (silenced c))).1.clientList.eraseP
        (fun d => d.handle = c.handle), d ∈ m.clientList := by
      rw [same.clientList]
      exact fun d member => (mem_eraseP_handle consistent.toClients member).1
    constructor
    · constructor
      · dsimp only
        rw [same.clientList]
        apply List.Nodup.sublist (List.eraseP_sublist.map _)
        rw [store_handles]
        exact consistent.handles
      · dsimp only
        rw [same.made]
        exact fun d member => consistent.fresh d (left d member)
      · exact fun d member => consistent.settled d (left d member)
    · dsimp only
      rw [core, same.clientList]
      exact (newClkState_eraseP m c (·.core) rfl).symm
    · dsimp only
      rw [link, same.clientList]
      exact (newClkState_eraseP m c (·.link) rfl).symm

theorem consistent_register (consistent : Consistent m) (allocated : Bool) :
    Consistent (dsiRegisterClkHandle m allocated) := by
  cases allocated with
  | false => exact consistent
  | true =>
    constructor
    · constructor
      · show (m.made :: m.clientList.map (·.handle)).Nodup
        refine List.nodup_cons.mpr ⟨fun taken => ?_, consistent.handles⟩
        obtain ⟨c, member, handle⟩ := List.mem_map.mp taken
        exact absurd handle (Nat.ne_of_lt (consistent.fresh c member))
      · intro c member
        rcases List.mem_cons.mp member with rfl | old
        · exact Nat.lt_succ_self m.made
        · exact Nat.lt_succ_of_lt (consistent.fresh c old)
      · intro c member
        rcases List.mem_cons.mp member with rfl | old
        · exact ⟨fun _ => rfl, fun _ => rfl⟩
        · exact consistent.settled c old
    · exact consistent.core
    · exact consistent.link

theorem consistent_perform (consistent : Consistent m) {call : Call}
    {answers : Nat → Int} (success : (perform m call answers).2 = 0) :
    Consistent (perform m call answers).1 := by
  have ready : Consistent { m with device := { m.device with answers := answers } } :=
    ⟨⟨consistent.handles, consistent.fresh, consistent.settled⟩, consistent.core, consistent.link⟩
  cases call with
  | register allocated => exact consistent_register ready allocated
  | reqState client clk state => exact consistent_reqState ready success
  | deregister client => exact consistent_deregister ready success

/-! ## Vote aggregation -/

/-- `s` is the strongest of the votes, and each vote is ON exactly while it is counted. -/
structure Aggregates (s : DsiClkState) (votes : List Vote) : Prop where
  on_iff : s = .on ↔ ∃ v ∈ votes, 0 < v.refcount.toNat
  gate_iff : s = .earlyGate ↔
    (∀ v ∈ votes, v.refcount.toNat = 0) ∧ ∃ v ∈ votes, v.clkState = .earlyGate
  off_iff : s = .off ↔
    (∀ v ∈ votes, v.refcount.toNat = 0) ∧ ∀ v ∈ votes, v.clkState ≠ .earlyGate
  counted : ∀ v ∈ votes, v.clkState = .on ↔ 0 < v.refcount.toNat

structure VotesAggregated (m : DsiClkMngr) : Prop where
  core : Aggregates m.coreClkState (m.clientList.map (·.core))
  link : Aggregates m.linkClkState (m.clientList.map (·.link))

theorem aggregates_of_counted (votes : List Vote) (counted : ∀ v ∈ votes, v.Counted) :
    Aggregates (newClkState .off (votes.map (·.clkState))) votes := by
  have on : .on ∈ votes.map (·.clkState) ↔ ∃ v ∈ votes, 0 < v.refcount.toNat := by
    rw [List.mem_map]
    exact exists_congr fun v => and_congr_right fun member => counted v member
  have gate : .earlyGate ∈ votes.map (·.clkState) ↔ ∃ v ∈ votes, v.clkState = .earlyGate :=
    List.mem_map
  have none : .on ∉ votes.map (·.clkState) ↔ ∀ v ∈ votes, v.refcount.toNat = 0 := by
    rw [on]
    simp only [not_exists, not_and]
    exact forall₂_congr fun v _ => Nat.not_lt.trans Nat.le_zero
  have ungated : .earlyGate ∉ votes.map (·.clkState) ↔ ∀ v ∈ votes, v.clkState ≠ .earlyGate := by
    rw [gate]
    simp only [not_exists, not_and, ne_eq]
  rw [newClkState_eq]
  refine ⟨?_, ?_, ?_, counted⟩
  · rw [← on]
    by_cases someOn : .on ∈ votes.map (·.clkState)
    · simp [someOn]
    · by_cases someGate : .earlyGate ∈ votes.map (·.clkState) <;> simp only [someOn, someGate] <;>
        decide
  · rw [← gate, ← none]
    by_cases someOn : .on ∈ votes.map (·.clkState)
    · simp [someOn]
    · by_cases someGate : .earlyGate ∈ votes.map (·.clkState) <;> simp only [someOn, someGate] <;>
        decide
  · rw [← none, ← ungated]
    by_cases someOn : .on ∈ votes.map (·.clkState)
    · simp [someOn]
    · by_cases someGate : .earlyGate ∈ votes.map (·.clkState) <;> simp only [someOn, someGate] <;>
        decide

/-! ## Whole runs -/

abbrev Input := Call × (Nat → Int)

def step (m : DsiClkMngr) (input : Input) : DsiClkMngr := (perform m input.1 input.2).1

def Succeeds (m : DsiClkMngr) (input : Input) : Prop := (perform m input.1 input.2).2 = 0

instance (m : DsiClkMngr) (input : Input) : Decidable (Succeeds m input) :=
  inferInstanceAs (Decidable (_ = _))

def NoWrap (m : DsiClkMngr) : Call → Prop
  | .reqState client clk .on => ∀ c ∈ m.clientList, c.handle = client →
      (clk &&& DSI_CORE_CLK ≠ 0 → c.core.refcount ≠ REFCOUNT_MAX) ∧
        (clk &&& DSI_LINK_CLK ≠ 0 → c.link.refcount ≠ REFCOUNT_MAX)
  | _ => True

def AllCounted (m : DsiClkMngr) : Prop := ∀ c ∈ m.clientList, c.core.Counted ∧ c.link.Counted

theorem allCounted_of_same (counted : AllCounted m) (same : SameClients m m') : AllCounted m' := by
  intro c member
  rw [same.clientList] at member
  exact counted c member

theorem allCounted_step (consistent : Consistent m) (counted : AllCounted m)
    {input : Input} (success : Succeeds m input) (noWrap : NoWrap m input.1) :
    AllCounted (step m input) := by
  obtain ⟨call, answers⟩ := input
  cases call with
  | register allocated =>
    cases allocated with
    | false => exact counted
    | true =>
      intro c member
      rcases List.mem_cons.mp member with rfl | old
      · exact ⟨iff_of_false nofun (Nat.lt_irrefl 0), iff_of_false nofun (Nat.lt_irrefl 0)⟩
      · exact counted c old
  | reqState client clk state =>
    change AllCounted (dsiClkReqState { m with device := { m.device with answers := answers } }
      client clk state).1
    rcases dsiClkReqState_cases { m with device := { m.device with answers := answers } } client
      clk state with ⟨rejected, -⟩ | ⟨c, member, isClient, -, -, outcome⟩
    · rw [rejected]
      exact counted
    · have room := fun (turnsOn : state = .on) => (turnsOn ▸ noWrap) c member isClient
      have stored : AllCounted (DsiClkMngr.store
          { m with device := { m.device with answers := answers } } (requested c clk state).1) := by
        intro d onList
        rcases mem_store onList with rfl | ⟨old, -⟩
        · have held := counted c member
          exact ⟨Vote.request_counted held.1 fun named turnsOn =>
              (room turnsOn).1 (of_decide_eq_true named),
            Vote.request_counted held.2 fun named turnsOn =>
              (room turnsOn).2 (of_decide_eq_true named)⟩
        · exact counted d old
      rw [outcome]
      cases (requested c clk state).2 with
      | true => exact allCounted_of_same stored (dsiRecheckClkState_sameClients _)
      | false => exact stored
  | deregister client =>
    change (dsiDeregisterClkHandle { m with device := { m.device with answers := answers } }
      client).2 = 0 at success
    change AllCounted (dsiDeregisterClkHandle
      { m with device := { m.device with answers := answers } } client).1
    rcases dsiDeregisterClkHandle_cases { m with device := { m.device with answers := answers } }
      client with ⟨rejected, -⟩ | ⟨c, member, rfl, outcome⟩
    · rw [rejected]
      exact counted
    · dsimp only at outcome
      rw [outcome] at success ⊢
      split at success
      next failed => exact absurd success failed
      next passed =>
        rw [if_neg passed]
        intro d left
        dsimp only at left
        rw [(dsiRecheckClkState_sameClients _).clientList] at left
        have clients : Clients { m with device := { m.device with answers := answers } } :=
          ⟨consistent.handles, consistent.fresh, consistent.settled⟩
        exact counted d (mem_eraseP_handle clients left).1

theorem consistent_idle (info : DsiClkInfo) : Consistent (idle info) where
  handles := List.nodup_nil
  fresh := nofun
  settled := nofun
  core := rfl
  link := rfl

/-- Vote aggregation.  After any run of successful calls in which no reference count wraps, the
    manager's core and link state are the strongest of its clients' votes, and a client's state is
    ON exactly while its reference count is positive. -/
theorem votes_aggregated (info : DsiClkInfo) (inputs : List Input)
    (meets : StepsMeet step (fun m input => Succeeds m input ∧ NoWrap m input.1) (idle info)
      inputs) : VotesAggregated (run step (idle info) inputs) := by
  have last : Consistent (run step (idle info) inputs) ∧ AllCounted (run step (idle info) inputs) :=
    run_invariant_of_meets (fun m => Consistent m ∧ AllCounted m)
      (fun m input inv meets => ⟨consistent_perform inv.1 meets.1,
        allCounted_step inv.1 inv.2 meets.1 meets.2⟩)
      ⟨consistent_idle info, nofun⟩ meets
  obtain ⟨consistent, counted⟩ := last
  constructor
  · rw [consistent.core, newCoreClkState]
    have votes := aggregates_of_counted ((run step (idle info) inputs).clientList.map (·.core))
      (List.forall_mem_map.mpr fun c member => (counted c member).1)
    rwa [List.map_map] at votes
  · rw [consistent.link, newLinkClkState]
    have votes := aggregates_of_counted ((run step (idle info) inputs).clientList.map (·.link))
      (List.forall_mem_map.mpr fun c member => (counted c member).2)
    rwa [List.map_map] at votes

def oneCtrl : DsiClkInfo where
  dsiCtrlCount := 1
  masterNdx := 0
  hasCoreClk _ clk := clk = .mdpCoreClk
  hasBusHandle _ := false
  hasByteIntfClk _ := true
  postClkonCb := true
  preClkoffCb := true
  postClkoffCb := true
  isContSplashEnabled := false
  ctrlCount_le := by decide
  masterNdx_lt := by decide

def granted (call : Call) : Input := (call, fun _ => 0)

instance (m : DsiClkMngr) (call : Call) : Decidable (NoWrap m call) := by
  unfold NoWrap
  split <;> infer_instance

/-- Two clients: one keeps the core clocks on while the other one gates all its clocks. -/
def twoClients : List Input :=
  [granted (.register true), granted (.register true), granted (.reqState 0 3 .on),
    granted (.reqState 1 DSI_CORE_CLK .on), granted (.reqState 0 3 .earlyGate)]

theorem votes_aggregated_twoClients :
    VotesAggregated (run step (idle oneCtrl) twoClients) ∧
      (run step (idle oneCtrl) twoClients).coreClkState = .on ∧
      (run step (idle oneCtrl) twoClients).linkClkState = .earlyGate :=
  ⟨votes_aggregated oneCtrl twoClients (by decide), by decide, by decide⟩

/-! ## A reference count wraps -/

/-- The only client votes ON for the core clocks and holds `r` references, modulo wrapping. -/
def OneVoter (r : U32) (m : DsiClkMngr) : Prop :=
  m.clientList = [{ handle := 0, core := { refcount := r, clkState := .on } }] ∧
    m.coreClkState = .on

def again : Input := granted (.reqState 0 DSI_CORE_CLK .on)

theorem oneVoter_again {r : U32} (voter : OneVoter r m) :
    OneVoter (r + 1) (step m again) ∧ Succeeds m again := by
  obtain ⟨info, clientList, coreClkState, linkClkState, device, made⟩ := m
  obtain ⟨rfl, rfl⟩ : clientList = _ ∧ coreClkState = _ := voter
  exact ⟨⟨rfl, rfl⟩, rfl⟩

theorem oneVoter_run {r : U32} (voter : OneVoter r m) (n : Nat) :
    OneVoter (r + BitVec.ofNat 32 n) (run step m (List.replicate n again)) ∧
      StepsMeet step Succeeds m (List.replicate n again) := by
  induction n generalizing r m with
  | zero => simpa using voter
  | succ n ih =>
    obtain ⟨next, succeeds⟩ := oneVoter_again voter
    obtain ⟨last, later⟩ := ih next
    have count : r + BitVec.ofNat 32 (n + 1) = r + 1 + BitVec.ofNat 32 n := by
      rw [Nat.add_comm, BitVec.ofNat_add, BitVec.add_assoc]
      rfl
    rw [List.replicate_succ, run_cons, count]
    exact ⟨last, succeeds, later⟩

/-- The aggregation does not hold of all successful runs: after `2 ^ 32` ON requests of one client
    the core clocks are ON and its reference count is 0 again. -/
theorem refcount_wraps :
    ¬∀ (info : DsiClkInfo) (inputs : List Input), StepsMeet step Succeeds (idle info) inputs →
      VotesAggregated (run step (idle info) inputs) := by
  intro every
  have first : OneVoter 1 (run step (idle oneCtrl) [granted (.register true), again]) := by
    constructor <;> decide
  -- by induction on the number of requests: the run itself is never evaluated
  obtain ⟨voter, succeeds⟩ := oneVoter_run first (2 ^ 32 - 1)
  have wrapped : (1 : U32) + BitVec.ofNat 32 (2 ^ 32 - 1) = 0 := by decide
  rw [wrapped, ← run_append] at voter
  have start : StepsMeet step Succeeds (idle oneCtrl) [granted (.register true), again] :=
    ⟨by decide, by decide, trivial⟩
  have aggregated := every oneCtrl _ ((stepsMeet_append _ _ _).mpr ⟨start, succeeds⟩)
  obtain ⟨v, member, positive⟩ := aggregated.core.on_iff.mp voter.2
  rw [voter.1] at member
  obtain rfl := List.mem_singleton.mp member
  exact Nat.lt_irrefl 0 positive

end DisplayDrivers.DsiClk
