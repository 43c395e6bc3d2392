import DisplayDrivers.Lib.Balance
import DisplayDrivers.DsiClk.Sequences
import DisplayDrivers.DsiClk.Votes

/-! # Enables and disables of every clock

On a device that grants everything, a clock should be enabled once more than disabled exactly while
the manager's state for it is ON. The core clocks keep this balance on every transition that the
votes can bring about (`coreMoves_balance`); the link clocks lose it on the way from EARLY_GATE to
OFF, where `DSI_LINK_LP_CLK & DSI_LINK_HS_CLK` enables none of them before they are disabled
(`linkMoves_balance`).
-/

namespace DisplayDrivers.DsiClk

open DisplayDrivers.Lib.Requests DisplayDrivers.Lib.Run DisplayDrivers.Lib.Balance

/-! ## What an update shows -/

variable {m : DsiClkMngr}

variable {clk : Clk}

theorem update_after (granted : Granted m) (has : m.info.Has clk)
    (cClks : Bool) (cState : DsiClkState) (lClks : Bool) (lState : DsiClkState) :
    (dsiUpdateClkState m cClks cState lClks lState).2 = 0 ∧
      After clk m (dsiUpdateClkState m cClks cState lClks lState).1
        (updateShown clk m.coreClkState m.linkClkState cClks cState lClks lState) := by
  obtain ⟨m₁, on, after₁⟩ := turnCoreOn_after granted has cClks cState
  obtain ⟨link₁, core₁⟩ := turnCoreOn_ok on
  have has₁ : m₁.info.Has clk := by
    have same := (turnCoreOn_sameClients m cClks cState).info
    rw [on] at same
    exact same ▸ has
  obtain ⟨m₂, link, after₂⟩ := updateLink_after after₁.granted has₁ cClks cState lClks lState
  have core₂ := (updateLink_ok link).1
  have has₂ : m₂.info.Has clk := by
    have same := (updateLink_sameClients m₁ cClks cState lClks lState 0).info
    rw [link] at same
    exact same ▸ has₁
  obtain ⟨rc, after₃⟩ := turnCoreOff_after after₂.granted has₂ cClks cState
    (lCOnAfter m₁.coreClkState m₁.linkClkState cClks cState lClks lState)
  have whole : dsiUpdateClkState m cClks cState lClks lState = turnCoreOff m₂ cClks cState
      (lCOnAfter m₁.coreClkState m₁.linkClkState cClks cState lClks lState) 0 := by
    rw [dsiUpdateClkState, on]
    dsimp only
    rw [link]
  rw [whole]
  refine ⟨rc, ?_⟩
  rw [core₂] at after₃
  have first : coreFirst m.coreClkState cClks cState = m₁.coreClkState := core₁.symm
  rw [updateShown, first, ← link₁]
  exact after₁.trans (after₂.trans after₃)

/-! ## One transition -/

def isOn (s : DsiClkState) : Int := if s = .on then 1 else 0

theorem coreMoves_balance (i : Nat) (k : CoreClk) (core link cState lState : DsiClkState)
    (reachable : ¬(core = .off ∧ cState = .earlyGate)) :
    StaysNonneg (isOn core)
        (updateShown (.core i k) core link (cState ≠ core) cState (lState ≠ link) lState) ∧
      isOn core +
        (updateShown (.core i k) core link (cState ≠ core) cState (lState ≠ link) lState).sum =
          isOn cState := by
  -- the moves depend on the four states only, so all 81 combinations are computed
  have anyClk : updateShown (.core i k) = updateShown (.core 0 .mdpCoreClk) := rfl
  rw [anyClk]
  revert reachable
  cases core <;> cases link <;> cases cState <;> cases lState <;> decide

theorem linkMoves (i : Nat) (k : LinkClk) (core link cState lState : DsiClkState) :
    updateShown (.link i k) core link (cState ≠ core) cState (lState ≠ link) lState =
      if lState = link then [] else if lState = .on then [1] else [-1] := by
  -- as for the core clocks, but the esc clock is of another type than the rest
  have anyCtrl : updateShown (.link i k) = updateShown (.link 0 k) := rfl
  rw [anyCtrl]
  cases k <;> cases core <;> cases link <;> cases cState <;> cases lState <;> rfl

/-! ## One call -/

def DsiClkMngr.grant (m : DsiClkMngr) : DsiClkMngr := { m with device := granting m.device.log }

def okStep (m : DsiClkMngr) (call : Call) : DsiClkMngr := step m (granted call)

def Updated (clk : Clk) (m m' : DsiClkMngr) : Prop :=
  After clk m m' (updateShown clk m.coreClkState m.linkClkState
    (m'.coreClkState ≠ m.coreClkState) m'.coreClkState
    (m'.linkClkState ≠ m.linkClkState) m'.linkClkState)

theorem updateShown_self (clk : Clk) (core link : DsiClkState) :
    updateShown clk core link (core ≠ core) core (link ≠ link) link = [] := by
  rw [decide_eq_false (not_not.mpr rfl), decide_eq_false (not_not.mpr rfl)]
  simp [updateShown, onShown, linkUpdateShown, offShown]

variable {m' : DsiClkMngr}

theorem updated_of_same (granted : Granted m)
    (device : m'.device = m.device) (core : m'.coreClkState = m.coreClkState)
    (link : m'.linkClkState = m.linkClkState) : Updated clk m m' := by
  rw [Updated, core, link, updateShown_self]
  refine ⟨?_, ?_⟩
  · rw [Granted, device]
    exact granted
  · rw [DsiClkMngr.moves, device, List.append_nil]
    rfl

theorem recheck_updated (granted : Granted m) (has : m.info.Has clk) :
    (dsiRecheckClkState m).2 = 0 ∧ Updated clk m (dsiRecheckClkState m).1 := by
  have update := update_after granted has
    (newCoreClkState m.clientList ≠ m.coreClkState) (newCoreClkState m.clientList)
    (newLinkClkState m.clientList ≠ m.linkClkState) (newLinkClkState m.clientList)
  have success : (dsiRecheckClkState m).2 = 0 := by
    unfold dsiRecheckClkState
    dsimp only
    split
    · exact update.1
    · rfl
  obtain ⟨core, link⟩ := dsiRecheckClkState_states m success
  refine ⟨success, ?_⟩
  by_cases moves : newCoreClkState m.clientList ≠ m.coreClkState ∨
      newLinkClkState m.clientList ≠ m.linkClkState
  · rw [Updated, core, link, dsiRecheckClkState, if_pos moves]
    exact update.2
  · have stays : (dsiRecheckClkState m).1 = m := by
      rw [dsiRecheckClkState, if_neg moves]
    rw [stays]
    exact updated_of_same granted rfl rfl rfl

theorem hasEscClk (info : DsiClkInfo) : info.Has (.link info.masterNdx .escClk) :=
  ⟨List.mem_cons_self, rfl⟩

/-- What a call does that nothing stops: the manager still agrees with its clients, and every
    clock has moved as in an update between the manager's states. -/
structure Outcome (m m' : DsiClkMngr) : Prop where
  consistent : Consistent m'
  info : m'.info = m.info
  updated : ∀ clk, m.info.Has clk → Updated clk m.grant m'

theorem consistent_grant (consistent : Consistent m) : Consistent m.grant :=
  ⟨⟨consistent.handles, consistent.fresh, consistent.settled⟩, consistent.core, consistent.link⟩

theorem recheck_success (granted : Granted m) : (dsiRecheckClkState m).2 = 0 :=
  (recheck_updated granted (hasEscClk m.info)).1

theorem okStep_outcome (consistent : Consistent m) (call : Call) : Outcome m (okStep m call) := by
  have start := consistent_grant consistent
  cases call with
  | register allocated =>
    refine ⟨consistent_register start allocated, ?_, fun clk _ => ?_⟩
    · cases allocated <;> rfl
    · cases allocated <;> exact updated_of_same rfl rfl rfl rfl
  | reqState client clk state =>
    show Outcome m (dsiClkReqState m.grant client clk state).1
    rcases dsiClkReqState_cases m.grant client clk state with
      ⟨rejected, -⟩ | ⟨c, member, -, -, -, outcome⟩
    · rw [rejected]
      exact ⟨start, rfl, fun _ _ => updated_of_same rfl rfl rfl rfl⟩
    · cases changed : (requested c clk state).2 with
      | false =>
        rw [changed] at outcome
        refine ⟨consistent_reqState start (by rw [outcome]; rfl), ?_, fun _ _ => ?_⟩
        · rw [outcome]
          rfl
        · rw [outcome]
          exact updated_of_same rfl rfl rfl rfl
      | true =>
        have granted : Granted (m.grant.store (requested c clk state).1) := rfl
        rw [changed, if_pos rfl] at outcome
        refine ⟨consistent_reqState start ?_, ?_, fun other has => ?_⟩
        · rw [outcome]
          exact recheck_success granted
        · rw [outcome]
          exact (dsiRecheckClkState_sameClients _).info
        · rw [outcome]
          have updated := (recheck_updated granted has).2
          exact ⟨updated.granted, updated.moves⟩
  | deregister client =>
    show Outcome m (dsiDeregisterClkHandle m.grant client).1
    rcases dsiDeregisterClkHandle_cases m.grant client with
      ⟨rejected, -⟩ | ⟨c, member, isClient, outcome⟩
    · rw [rejected]
      exact ⟨start, rfl, fun _ _ => updated_of_same rfl rfl rfl rfl⟩
    · have granted : Granted (m.grant.store (silenced c)) := rfl
      have success := recheck_success granted
      dsimp only at outcome
      rw [if_neg (not_not.mpr success)] at outcome
      refine ⟨consistent_deregister start (by rw [outcome]), ?_, fun other has => ?_⟩
      · rw [outcome]
        exact (dsiRecheckClkState_sameClients (m.grant.store (silenced c))).info
      · rw [outcome]
        have updated := (recheck_updated granted has).2
        exact ⟨updated.granted, updated.moves⟩

/-! ## What the votes can bring about -/

theorem newClkState_off_iff (states : List DsiClkState) :
    newClkState .off states = .off ↔ ∀ s ∈ states, s = .off := by
  rw [newClkState_eq]
  constructor
  · intro off s member
    cases s with
    | off => rfl
    | on => simp [member] at off
    | earlyGate =>
      by_cases someOn : .on ∈ states <;> simp [member, someOn] at off
  · intro allOff
    have noOn : .on ∉ states := fun member => absurd (allOff _ member) (by decide)
    have noGate : .earlyGate ∉ states := fun member => absurd (allOff _ member) (by decide)
    rw [if_neg noOn, if_neg noGate]

theorem newClkState_gate_iff (states : List DsiClkState) :
    newClkState .off states = .earlyGate ↔ .on ∉ states ∧ .earlyGate ∈ states := by
  rw [newClkState_eq]
  by_cases someOn : .on ∈ states
  · simp [someOn]
  · by_cases someGate : .earlyGate ∈ states <;> simp [someOn, someGate]

theorem Vote.request_of_off {v : Vote} (settled : v.Settled) (off : v.clkState = .off)
    (named : Bool) (state : DsiClkState) : (v.request named state).1.clkState ≠ .earlyGate := by
  have empty : v.refcount = 0 := settled (by rw [off]; decide)
  unfold Vote.request
  split_ifs with unnamed turnsOn gate
  · rw [off]
    decide
  · exact nofun
  · exact nofun
  · rw [off]
    decide

theorem Vote.request_of_gate {v : Vote} (settled : v.Settled) (gate : v.clkState = .earlyGate)
    (named : Bool) (state : DsiClkState) :
    (v.request named state).1.clkState = .off ↔ named = true ∧ state = .off := by
  have empty : v.refcount = 0 := settled (by rw [gate]; decide)
  cases named with
  | false => simp [Vote.request, gate]
  | true => cases state <;> simp [Vote.request, gate, empty]

theorem okStep_clients (consistent : Consistent m) (call : Call) :
    ∀ d ∈ (okStep m call).clientList, d ∈ m.clientList ∨ d = { handle := m.made } ∨
      ∃ c ∈ m.clientList, ∃ clk state, d = (requested c clk state).1 := by
  have start := consistent_grant consistent
  cases call with
  | register allocated =>
    cases allocated with
    | false => exact fun d member => .inl member
    | true =>
      intro d member
      rcases List.mem_cons.mp member with rfl | old
      · exact .inr (.inl rfl)
      · exact .inl old
  | reqState client clk state =>
    intro d member
    change d ∈ (dsiClkReqState m.grant client clk state).1.clientList at member
    rcases dsiClkReqState_cases m.grant client clk state with
      ⟨rejected, -⟩ | ⟨c, known, -, -, -, outcome⟩
    · rw [rejected] at member
      exact .inl member
    · have stored : d ∈ (m.grant.store (requested c clk state).1).clientList := by
        rw [outcome] at member
        split at member
        · rwa [(dsiRecheckClkState_sameClients _).clientList] at member
        · exact member
      rcases mem_store stored with rfl | ⟨old, -⟩
      · exact .inr (.inr ⟨c, known, clk, state, rfl⟩)
      · exact .inl old
  | deregister client =>
    intro d member
    change d ∈ (dsiDeregisterClkHandle m.grant client).1.clientList at member
    rcases dsiDeregisterClkHandle_cases m.grant client with
      ⟨rejected, -⟩ | ⟨c, known, rfl, outcome⟩
    · rw [rejected] at member
      exact .inl member
    · have granted : Granted (m.grant.store (silenced c)) := rfl
      dsimp only at outcome
      rw [if_neg (not_not.mpr (recheck_success granted))] at outcome
      rw [outcome] at member
      dsimp only at member
      rw [(dsiRecheckClkState_sameClients _).clientList] at member
      exact .inl (mem_eraseP_handle start.toClients member).1

theorem okStep_no_gate (consistent : Consistent m) (call : Call) (vote : DsiClkClientInfo → Vote)
    (settled : ∀ c ∈ m.clientList, (vote c).Settled) (fresh : vote { handle := m.made } = {})
    (asked : ∀ c clk state, ∃ named, vote (requested c clk state).1 =
      ((vote c).request named state).1)
    (off : newClkState .off (m.clientList.map fun c => (vote c).clkState) = .off) :
    newClkState .off ((okStep m call).clientList.map fun c => (vote c).clkState) ≠
      .earlyGate := by
  rw [newClkState_off_iff] at off
  have wasOff : ∀ c ∈ m.clientList, (vote c).clkState = .off :=
    fun c member => off _ (List.mem_map_of_mem member)
  rw [ne_eq, newClkState_gate_iff]
  rintro ⟨-, someGate⟩
  obtain ⟨d, member, gate⟩ := List.mem_map.mp someGate
  rcases okStep_clients consistent call d member with old | rfl | ⟨c, known, clk, state, rfl⟩
  · rw [wasOff d old] at gate
    exact absurd gate (by decide)
  · rw [fresh] at gate
    exact absurd gate (by decide)
  · obtain ⟨named, same⟩ := asked c clk state
    rw [same] at gate
    exact Vote.request_of_off (settled c known) (wasOff c known) named state gate

def LastGate (m : DsiClkMngr) (client : Nat) : Prop :=
  (∃ c ∈ m.clientList, c.handle = client ∧ c.link.clkState = .earlyGate) ∧
    ∀ d ∈ m.clientList, d.handle ≠ client → d.link.clkState = .off

def WithdrawsLastGate (m : DsiClkMngr) : Call → Prop
  | .register _ => False
  | .reqState client clk state =>
    state = .off ∧ clk ≤ 3 ∧ clk &&& DSI_LINK_CLK ≠ 0 ∧ LastGate m client
  | .deregister client => LastGate m client

theorem link_gate_iff (consistent : Consistent m) : m.linkClkState = .earlyGate ↔
      (∀ c ∈ m.clientList, c.link.clkState ≠ .on) ∧
        ∃ c ∈ m.clientList, c.link.clkState = .earlyGate := by
  rw [consistent.link, newLinkClkState, newClkState_gate_iff]
  simp [List.mem_map]

theorem link_off_iff (consistent : Consistent m) :
    m.linkClkState = .off ↔ ∀ c ∈ m.clientList, c.link.clkState = .off := by
  rw [consistent.link, newLinkClkState, newClkState_off_iff]
  simp [List.mem_map]

variable {client : Nat}

theorem LastGate.link_gate (consistent : Consistent m)
    (last : LastGate m client) : m.linkClkState = .earlyGate := by
  obtain ⟨⟨c, member, rfl, gate⟩, others⟩ := last
  refine (link_gate_iff consistent).mpr ⟨fun d known => ?_, c, member, gate⟩
  by_cases same : d.handle = c.handle
  · rw [consistent.toClients.eq_of_handle member known same, gate]
    decide
  · rw [others d known same]
    decide

theorem mem_store_of_ne {c d : DsiClkClientInfo} (member : d ∈ m.clientList)
    (differ : d.handle ≠ c.handle) : d ∈ (m.store c).clientList :=
  List.mem_map.mpr ⟨d, member, if_neg differ⟩

theorem mem_store_self {c c' : DsiClkClientInfo} (member : c ∈ m.clientList)
    (handle : c'.handle = c.handle) : c' ∈ (m.store c').clientList :=
  List.mem_map.mpr ⟨c, member, if_pos handle.symm⟩

theorem withdraw_iff (consistent : Consistent m) (consistent' : Consistent m')
    {c : DsiClkClientInfo} (member : c ∈ m.clientList) (gone : Prop)
    (others : ∀ d ∈ m.clientList, d.handle ≠ c.handle → d ∈ m'.clientList)
    (back : ∀ d ∈ m'.clientList, d ∈ m.clientList ∧ d.handle ≠ c.handle ∨
      (c.link.clkState = .earlyGate → gone → d.link.clkState = .off))
    (self : c.link.clkState = .earlyGate →
      (∀ d ∈ m'.clientList, d.link.clkState = .off) → gone) :
    m.linkClkState = .earlyGate ∧ m'.linkClkState = .off ↔ gone ∧ LastGate m c.handle := by
  rw [link_gate_iff consistent, link_off_iff consistent']
  constructor
  · rintro ⟨⟨-, e, known, gate⟩, allOff⟩
    have isClient : e.handle = c.handle := by
      by_contra differ
      rw [allOff e (others e known differ)] at gate
      exact absurd gate (by decide)
    obtain rfl := consistent.toClients.eq_of_handle member known isClient
    exact ⟨self gate allOff, ⟨e, known, rfl, gate⟩,
      fun d onList differ => allOff d (others d onList differ)⟩
  · rintro ⟨isGone, last⟩
    obtain ⟨⟨e, known, isClient, gate⟩, otherOff⟩ := last
    obtain rfl := consistent.toClients.eq_of_handle member known isClient
    refine ⟨(link_gate_iff consistent).mp
      (LastGate.link_gate consistent ⟨⟨e, known, rfl, gate⟩, otherOff⟩), fun d onList => ?_⟩
    rcases back d onList with ⟨old, differ⟩ | off
    · exact otherOff d old differ
    · exact off gate isGone

theorem not_withdrawn_of_same (same : m'.linkClkState = m.linkClkState) :
    ¬(m.linkClkState = .earlyGate ∧ m'.linkClkState = .off) := by
  rintro ⟨gate, off⟩
  rw [same, gate] at off
  exact absurd off (by decide)

theorem reqState_withdraws_iff (consistent : Consistent m) {clk : DsiClkType} {state : DsiClkState}
    (after : Consistent (dsiClkReqState m.grant client clk state).1) :
    m.linkClkState = .earlyGate ∧
        (dsiClkReqState m.grant client clk state).1.linkClkState = .off ↔
      WithdrawsLastGate m (.reqState client clk state) := by
  rcases dsiClkReqState_cases m.grant client clk state with
    ⟨rejected, why⟩ | ⟨c, member, rfl, -, small, outcome⟩
  · rw [rejected]
    refine iff_of_false (not_withdrawn_of_same rfl) ?_
    rintro ⟨-, small, named, ⟨c, member, isClient, -⟩, -⟩
    rcases why with rfl | big | unknown
    · exact named (by decide)
    · exact absurd small (Nat.not_le.mpr big)
    · exact unknown c member isClient
  · have clients : (dsiClkReqState m.grant c.handle clk state).1.clientList =
        (m.grant.store (requested c clk state).1).clientList := by
      rw [outcome]
      split
      · exact (dsiRecheckClkState_sameClients _).clientList
      · rfl
    have asked := Vote.request_of_gate (consistent.settled c member).2
    have withdraw := withdraw_iff consistent after member
      (state = .off ∧ clk &&& DSI_LINK_CLK ≠ 0) ?_ ?_ ?_
    · rw [withdraw]
      constructor
      · rintro ⟨⟨off, named⟩, last⟩
        exact ⟨off, small, named, last⟩
      · rintro ⟨off, -, named, last⟩
        exact ⟨⟨off, named⟩, last⟩
    · intro d known differ
      rw [clients]
      exact mem_store_of_ne known differ
    · intro d onList
      rw [clients] at onList
      rcases mem_store onList with rfl | ⟨old, differ⟩
      · exact .inr fun gate gone => (asked gate _ state).mpr ⟨decide_eq_true gone.2, gone.1⟩
      · exact .inl ⟨old, differ⟩
    · intro gate allOff
      have stored : (requested c clk state).1 ∈
          (m.grant.store (requested c clk state).1).clientList :=
        mem_store_self member (requested_handle c clk state)
      have off := (asked gate _ state).mp (allOff _ (clients ▸ stored))
      exact ⟨off.2, of_decide_eq_true off.1⟩

theorem deregister_withdraws_iff (consistent : Consistent m)
    (after : Consistent (dsiDeregisterClkHandle m.grant client).1) :
    m.linkClkState = .earlyGate ∧
        (dsiDeregisterClkHandle m.grant client).1.linkClkState = .off ↔
      WithdrawsLastGate m (.deregister client) := by
  rcases dsiDeregisterClkHandle_cases m.grant client with
    ⟨rejected, unknown⟩ | ⟨c, member, rfl, outcome⟩
  · rw [rejected]
    refine iff_of_false (not_withdrawn_of_same rfl) ?_
    rintro ⟨⟨c, member, isClient, -⟩, -⟩
    exact unknown c member isClient
  · have start := consistent_grant consistent
    have granted : Granted (m.grant.store (silenced c)) := rfl
    have clients : (dsiDeregisterClkHandle m.grant c.handle).1.clientList =
        (m.grant.store (silenced c)).clientList.eraseP fun d => d.handle = c.handle := by
      dsimp only at outcome
      rw [outcome, if_neg (not_not.mpr (recheck_success granted))]
      dsimp only
      rw [(dsiRecheckClkState_sameClients _).clientList]
    -- a client that is deregistered is gone whatever it voted for
    have withdraw := withdraw_iff consistent after member True ?_ ?_ ?_
    · rw [withdraw, true_and]
      exact Iff.rfl
    · intro d known differ
      rw [clients]
      apply (List.mem_eraseP_of_neg (by simpa using differ)).mpr
      exact mem_store_of_ne known differ
    · intro d onList
      rw [clients] at onList
      exact .inl (mem_eraseP_handle start.toClients onList)
    · exact fun _ _ => trivial

theorem okStep_withdraws_iff (consistent : Consistent m) (call : Call) :
    m.linkClkState = .earlyGate ∧ (okStep m call).linkClkState = .off ↔
      WithdrawsLastGate m call := by
  have after := (okStep_outcome consistent call).consistent
  cases call with
  | register allocated =>
    refine iff_of_false (not_withdrawn_of_same ?_) id
    cases allocated <;> rfl
  | reqState client clk state => exact reqState_withdraws_iff consistent after
  | deregister client => exact deregister_withdraws_iff consistent after

/-! ## Balance of whole runs -/

def DsiClkMngr.stateOf (m : DsiClkMngr) : Clk → DsiClkState
  | .core _ _ => m.coreClkState
  | .link _ _ => m.linkClkState

/-- Every clock that exists was enabled once more than disabled if the manager's state for it is
    ON and as often otherwise, and never disabled more often than enabled before. -/
structure Balanced (m : DsiClkMngr) : Prop where
  net : ∀ clk, m.info.Has clk → (m.moves clk).sum = isOn (m.stateOf clk)
  nonneg : ∀ clk, m.info.Has clk → StaysNonneg 0 (m.moves clk)

theorem balanced_idle (info : DsiClkInfo) : Balanced (idle info) where
  net := by
    intro clk _
    cases clk <;> rfl
  nonneg := fun _ _ => Int.le_refl 0

theorem okStep_core (consistent : Consistent m) (balanced : Balanced m)
    (call : Call) {i : Nat} {k : CoreClk} (has : m.info.Has (.core i k)) :
    ((okStep m call).moves (.core i k)).sum = isOn (okStep m call).coreClkState ∧
      StaysNonneg 0 ((okStep m call).moves (.core i k)) := by
  obtain ⟨after, -, updated⟩ := okStep_outcome consistent call
  have reachable : ¬(m.coreClkState = .off ∧ (okStep m call).coreClkState = .earlyGate) := by
    rw [consistent.core, after.core]
    rintro ⟨off, gate⟩
    exact okStep_no_gate consistent call (·.core) (fun c member => (consistent.settled c member).1)
      rfl (fun c clk state => ⟨clk &&& DSI_CORE_CLK ≠ 0, rfl⟩) off gate
  obtain ⟨stays, total⟩ := coreMoves_balance i k m.coreClkState m.linkClkState
    (okStep m call).coreClkState (okStep m call).linkClkState reachable
  have net : (m.moves (.core i k)).sum = isOn m.coreClkState := balanced.net _ has
  have moved : (okStep m call).moves (.core i k) = m.moves (.core i k) ++ _ :=
    (updated _ has).moves
  rw [moved, List.sum_append, staysNonneg_append, net, zero_add]
  exact ⟨total, balanced.nonneg _ has, stays⟩

theorem okStep_link (consistent : Consistent m) (balanced : Balanced m)
    (call : Call) {i : Nat} {k : LinkClk} (has : m.info.Has (.link i k)) :
    (((okStep m call).moves (.link i k)).sum = isOn (okStep m call).linkClkState ∧
      StaysNonneg 0 ((okStep m call).moves (.link i k))) ↔
    ¬(m.linkClkState = .earlyGate ∧ (okStep m call).linkClkState = .off) := by
  obtain ⟨after, -, updated⟩ := okStep_outcome consistent call
  have reachable : ¬(m.linkClkState = .off ∧ (okStep m call).linkClkState = .earlyGate) := by
    rw [consistent.link, after.link]
    rintro ⟨off, gate⟩
    exact okStep_no_gate consistent call (·.link) (fun c member => (consistent.settled c member).2)
      rfl (fun c clk state => ⟨clk &&& DSI_LINK_CLK ≠ 0, rfl⟩) off gate
  have net : (m.moves (.link i k)).sum = isOn m.linkClkState := balanced.net _ has
  have nonneg := balanced.nonneg _ has
  have moved : (okStep m call).moves (.link i k) = m.moves (.link i k) ++ _ :=
    (updated _ has).moves.trans (congrArg _ (linkMoves i k _ _ _ _))
  rw [moved, List.sum_append, staysNonneg_append, net, zero_add, and_iff_right nonneg]
  change _ + List.sum (if (okStep m call).linkClkState = m.linkClkState then _ else _) = _ ∧
    StaysNonneg _ (if (okStep m call).linkClkState = m.linkClkState then _ else _) ↔ _
  -- what is left is a table over the link states before and after the call
  revert reachable
  generalize m.linkClkState = link
  generalize (okStep m call).linkClkState = link'
  cases link <;> cases link' <;> decide

theorem balanced_okStep_iff (consistent : Consistent m) (balanced : Balanced m)
    (call : Call) : Balanced (okStep m call) ↔ ¬WithdrawsLastGate m call := by
  have info := (okStep_outcome consistent call).info
  rw [← okStep_withdraws_iff consistent call]
  constructor
  · intro next
    -- one link clock is enough to tell, and the master's esc clock always exists
    have has : (okStep m call).info.Has (.link m.info.masterNdx .escClk) :=
      info.symm ▸ hasEscClk m.info
    exact (okStep_link consistent balanced call (hasEscClk m.info)).mp
      ⟨next.net _ has, next.nonneg _ has⟩
  · intro stays
    have both : ∀ clk, m.info.Has clk →
        ((okStep m call).moves clk).sum = isOn ((okStep m call).stateOf clk) ∧
          StaysNonneg 0 ((okStep m call).moves clk) := by
      intro clk has
      cases clk with
      | core i k => exact okStep_core consistent balanced call has
      | link i k => exact (okStep_link consistent balanced call has).mpr stays
    exact ⟨fun clk has => (both clk (info ▸ has)).1, fun clk has => (both clk (info ▸ has)).2⟩

/-- Clock enable balance.  Where nothing fails, the clocks are balanced in every state of a run
    exactly if no call of the run takes back the last EARLY_GATE vote for the link clocks. -/
theorem clocks_balanced_iff (info : DsiClkInfo) (calls : List Call) :
    Throughout okStep Balanced (idle info) calls ↔
      StepsMeet okStep (fun m call => ¬WithdrawsLastGate m call) (idle info) calls :=
  throughout_iff_stepsMeet Consistent
    (fun _ call consistent => (okStep_outcome consistent call).consistent)
    (fun _ call consistent balanced => balanced_okStep_iff consistent balanced call)
    (consistent_idle info) (balanced_idle info) calls

def linkGateOff : List Call :=
  [.register true, .reqState 0 3 .on, .reqState 0 2 .earlyGate, .reqState 0 2 .off]

/-- The clocks are not balanced in every run: the escape clock is disabled twice. -/
theorem link_disabled_twice :
    ¬∀ (info : DsiClkInfo) (calls : List Call), Throughout okStep Balanced (idle info) calls := by
  intro every
  have last : Balanced (run okStep (idle oneCtrl) linkGateOff) :=
    throughout_iff_prefix.mp (every oneCtrl linkGateOff) linkGateOff [] rfl
  have net := last.net (.link 0 .escClk) ⟨by decide, by decide⟩
  exact absurd net (by decide)

end DisplayDrivers.DsiClk
