import Mathlib.Order.Nat
import DisplayDrivers.Lib.Published
import DisplayDrivers.Perf.Model

/-! # Totals of the bandwidth

The vote of a client class for a bus is a total of the shares of its powered CRTCs.  What a call
votes for is published on the board of these totals; every other target is left alone.
-/

namespace DisplayDrivers.Perf

open DisplayDrivers.Lib.Published DisplayDrivers.Power
open DisplayDrivers.Rsc (RscPriv sdeRscClientVote asked_triggerVote)

/-! ## Shares and totals -/

abbrev Target := CrtcClientType × BusId

def Kms.clientOf (kms : Kms) (c : CrtcId) : CrtcClientType :=
  getSdeClientType kms.perf (kms.crtc c).clientType

def CorePerfParams.amounts (p : CorePerfParams) (b : BusId) : ℕ × ℕ :=
  ((p.bwCtl b).toNat, (p.maxPerPipeIb b).toNat)

/-- What a CRTC of the class contributes while it is powered: `bw_ctl` and `max_per_pipe_ib` of
    its `cur_perf`. -/
def CorePerf.share (perf : CorePerf) (g : Target) (crtc : Crtc) : ℕ × ℕ :=
  if crtc.enabled ∧ getSdeClientType perf crtc.clientType = g.1 then crtc.curPerf.amounts g.2
  else (0, 0)

def Kms.share (kms : Kms) (g : Target) (c : CrtcId) : ℕ × ℕ := kms.perf.share g (kms.crtc c)

theorem share_setCrtc (kms : Kms) (c : CrtcId) (crtc : Crtc) (g : Target) (d : CrtcId) :
    (kms.setCrtc c crtc).share g d = if d = c then kms.perf.share g crtc else kms.share g d := by
  by_cases same : d = c
  · subst same
    simp [Kms.share, Kms.setCrtc]
  · simp [Kms.share, Kms.setCrtc, same]

variable {perf : CorePerf} {g : Target}

theorem share_congr {crtc crtc' : Crtc}
    (enabled : crtc'.enabled = crtc.enabled) (klass : crtc'.clientType = crtc.clientType)
    (amounts : crtc'.curPerf.amounts g.2 = crtc.curPerf.amounts g.2) :
    perf.share g crtc' = perf.share g crtc := by
  simp only [CorePerf.share, enabled, klass, amounts]

theorem share_mono {crtc crtc' : Crtc}
    (enabled : crtc'.enabled = crtc.enabled) (klass : crtc'.clientType = crtc.clientType)
    (amounts : crtc'.curPerf.amounts g.2 ≤ crtc.curPerf.amounts g.2) :
    perf.share g crtc' ≤ perf.share g crtc := by
  simp only [CorePerf.share, enabled, klass]
  split
  · exact amounts
  · exact le_refl ((0, 0) : ℕ × ℕ)

theorem share_other {crtc : Crtc}
    (other : g.1 ≠ getSdeClientType perf crtc.clientType) : perf.share g crtc = (0, 0) := by
  simp [CorePerf.share, Ne.symm other]

def Kms.voted (kms : Kms) : Target → U64 × U64
  | (.nrt, b) => kms.power.asked kms.coreClient .nrt b
  | (.rt, b) => kms.power.asked kms.coreClient .rt b
  | (.rtRsc, b) =>
    match kms.rsc with
    | none => (0, 0)
    | some r => (r.bwConfig.newAbVote b, r.bwConfig.newIbVote b)

def total (minBusVote : U64) (crtcs : List CrtcId) (share : CrtcId → ℕ × ℕ) : U64 × U64 :=
  (maxU64 (BitVec.ofNat 64 (crtcs.map fun c => (share c).1).sum) minBusVote,
    BitVec.ofNat 64 ((crtcs.map fun c => (share c).2).foldl max 0))

theorem isCrtcClientTypeMatches_iff (perf : CorePerf) (tmp : Crtc) (curr : CrtcClientType) :
    isCrtcClientTypeMatches perf tmp curr ↔
      getSdeClientType perf tmp.clientType = getSdeClientType perf curr := by
  cases primary : perf.byClient with
  | false => simp [isCrtcClientTypeMatches, getSdeClientType, primary]
  | true => simp [isCrtcClientTypeMatches, getSdeClientType, primary, eq_comm]

theorem foldl_members (member : CrtcId → Bool) (ab ib : CrtcId → U64) (crtcs : List CrtcId)
    (start : U64 × U64) :
    let result := crtcs.foldl
      (fun total d => if member d then (total.1 + ab d, maxU64 total.2 (ib d)) else total) start
    result.1.toNat =
        (start.1.toNat + (crtcs.map fun d => if member d then (ab d).toNat else 0).sum) % 2 ^ 64 ∧
      result.2.toNat =
        (crtcs.map fun d => if member d then (ib d).toNat else 0).foldl max start.2.toNat := by
  induction crtcs generalizing start with
  | nil =>
    constructor
    · simpa using (Nat.mod_eq_of_lt start.1.isLt).symm
    · rfl
  | cons d rest ih =>
    by_cases this : member d
    · obtain ⟨sum, top⟩ := ih (start.1 + ab d, maxU64 start.2 (ib d))
      simp only [List.foldl_cons, List.map_cons, List.sum_cons, this, if_true]
      rw [sum, top, BitVec.toNat_add, toNat_maxU64, Nat.mod_add_mod, Nat.add_assoc]
      exact ⟨rfl, rfl⟩
    · simpa [this] using ih start

theorem busTotals_eq (kms : Kms) (c : CrtcId) (b : BusId) :
    kms.busTotals (kms.crtc c).clientType b =
      (BitVec.ofNat 64 (kms.crtcList.map fun d => (kms.share (kms.clientOf c, b) d).1).sum,
        BitVec.ofNat 64
          ((kms.crtcList.map fun d => (kms.share (kms.clientOf c, b) d).2).foldl max 0)) := by
  let member := fun d : CrtcId =>
    (kms.crtc d).enabled && isCrtcClientTypeMatches kms.perf (kms.crtc d) (kms.crtc c).clientType
  have share : ∀ d, kms.share (kms.clientOf c, b) d =
      (if member d then ((kms.crtc d).curPerf.bwCtl b).toNat else 0,
        if member d then ((kms.crtc d).curPerf.maxPerPipeIb b).toNat else 0) := by
    intro d
    have classes := isCrtcClientTypeMatches_iff kms.perf (kms.crtc d) (kms.crtc c).clientType
    by_cases this : member d
    · have contributes := this
      simp only [member, Bool.and_eq_true, classes] at contributes
      rw [if_pos this, if_pos this, Kms.share, CorePerf.share]
      exact if_pos contributes
    · have leaves := this
      simp only [member, Bool.and_eq_true, classes] at leaves
      rw [if_neg this, if_neg this, Kms.share, CorePerf.share]
      exact if_neg leaves
  have sums := foldl_members member (fun d => (kms.crtc d).curPerf.bwCtl b)
    (fun d => (kms.crtc d).curPerf.maxPerPipeIb b) kms.crtcList (0, 0)
  have sum : (kms.busTotals (kms.crtc c).clientType b).1.toNat = _ := sums.1
  have top : (kms.busTotals (kms.crtc c).clientType b).2.toNat = _ := sums.2
  have fits := (kms.busTotals (kms.crtc c).clientType b).2.isLt
  simp only [share]
  apply Prod.ext
  · apply BitVec.eq_of_toNat_eq
    simpa using sum
  · apply BitVec.eq_of_toNat_eq
    rw [top] at fits ⊢
    rw [BitVec.toNat_ofNat]
    exact (Nat.mod_eq_of_lt fits).symm

/-! ## What the calls do to the CRTCs -/

theorem crtc_vote (kms : Kms) (k : CrtcClientType) (b : BusId) (quota : U64 × U64) (answer : Int) :
    (kms.vote k b quota answer).crtc = kms.crtc := by
  cases k <;> rfl

theorem crtc_updateBus (kms : Kms) (c : CrtcId) (answer : BusId → Int) (b : BusId) :
    (sdeCorePerfCrtcUpdateBus kms c answer b).crtc = kms.crtc := by
  have clear : ∀ kms : Kms, (kms.clearOldPath c b (answer b)).crtc = kms.crtc := by
    intro kms
    simp only [Kms.clearOldPath]
    split
    · rfl
    · split
      · rfl
      · split <;> rfl
      · rfl
  rw [sdeCorePerfCrtcUpdateBus, clear, crtc_vote]

theorem crtc_voteBuses (kms : Kms) (c : CrtcId) (updateBus : BusId → Bool) (paramsChanged : Bool)
    (ans : Answers) : (kms.voteBuses c updateBus paramsChanged ans).crtc = kms.crtc := by
  have loop : ∀ (buses : List BusId) (kms : Kms),
      (buses.foldl (fun kms b =>
        if updateBus b then sdeCorePerfCrtcUpdateBus kms c ans.quota b else kms) kms).crtc =
      kms.crtc := by
    intro buses
    induction buses with
    | nil => intro kms; rfl
    | cons b rest ih =>
      intro kms
      rw [List.foldl_cons, ih]
      split
      · exact crtc_updateBus kms c ans.quota b
      · rfl
  simp only [Kms.voteBuses]
  split <;> exact loop BusId.all kms

theorem crtc_update (kms : Kms) (c : CrtcId) (paramsChanged stopReq : Bool) (ans : Answers) :
    (sdeCorePerfCrtcUpdate kms c paramsChanged stopReq ans).crtc =
      Function.update kms.crtc c
        ((kms.crtc c).request kms.solver paramsChanged stopReq).crtc := by
  have votes := crtc_voteBuses
    (kms.setCrtc c ((kms.crtc c).request kms.solver paramsChanged stopReq).crtc) c
    ((kms.crtc c).request kms.solver paramsChanged stopReq).updateBus paramsChanged ans
  simp only [sdeCorePerfCrtcUpdate]
  split <;> exact votes

def Crtc.released (crtc : Crtc) : Crtc :=
  { crtc with curPerf := { crtc.curPerf with bwCtl := fun _ => 0 } }

theorem crtc_releaseBw (kms : Kms) (c : CrtcId) (answer : BusId → Int) :
    (sdeCorePerfCrtcReleaseBw kms c answer).crtc =
      if kms.releases c then Function.update kms.crtc c (kms.crtc c).released else kms.crtc := by
  rw [sdeCorePerfCrtcReleaseBw]
  split
  · simp only [BusId.all, List.foldl_cons, List.foldl_nil, crtc_updateBus, Kms.dropBw,
      Kms.setCrtc, Function.update_self, Function.update_idem]
    congr 1
    simp only [Crtc.released, Crtc.mk.injEq, CorePerfParams.mk.injEq, true_and, and_true]
    funext b
    cases b <;> simp [Function.update]
  · rfl

/-! ## One vote -/

structure Ready (crtcs : List CrtcId) (kms : Kms) : Prop where
  crtcList : kms.crtcList = crtcs
  perfTune : kms.perf.perfTune = .normal
  settled : kms.perf.bwVoteModeUpdated = false
  registered : kms.coreClient ∈ kms.power.handle.powerClientClist
  available : kms.perf.sdeRscAvailable → kms.rsc.isSome

def board (crtcs : List CrtcId) : Board Kms Target CrtcId (U64 × U64) (ℕ × ℕ) :=
  { share := Kms.share, published := Kms.voted, total := total PerfTune.normal.minBusVote crtcs }

variable {crtcs : List CrtcId} {kms : Kms}

theorem Ready.rsc_of_clientOf (ready : Ready crtcs kms) {c : CrtcId}
    (rsc : kms.clientOf c = .rtRsc) : kms.rsc.isSome := by
  apply ready.available
  simp only [Kms.clientOf, getSdeClientType, CorePerf.byClient, Bool.and_eq_true] at rsc
  split at rsc
  · rename_i primary
    exact primary.2
  · split at rsc
    · rename_i voting
      exact voting.2
    · cases rsc

theorem Ready.setQuota (ready : Ready crtcs kms) (j : BusClient) (b : BusId)
    (quota : U64 × U64) (answer : Int) : Ready crtcs (kms.setQuota j b quota answer) where
  crtcList := ready.crtcList
  perfTune := ready.perfTune
  settled := ready.settled
  registered := by
    have kept := keeps_setQuota kms.coreClient kms.power.handle j b quota.1 quota.2 answer
    simp only [Kms.setQuota, Ledger.step, Power.step, if_pos ready.registered, kept.clist]
    exact ready.registered
  available := ready.available

theorem Ready.vote (ready : Ready crtcs kms) (k : CrtcClientType) (b : BusId) (quota : U64 × U64)
    (answer : Int) : Ready crtcs (kms.vote k b quota answer) := by
  cases k with
  | nrt => exact ready.setQuota .nrt b quota answer
  | rt => exact ready.setQuota .rt b quota answer
  | rtRsc =>
    refine ⟨ready.crtcList, ready.perfTune, ready.settled, ready.registered, fun available => ?_⟩
    simpa [Kms.vote, Kms.rscVote] using ready.available available

theorem share_vote (kms : Kms) (k : CrtcClientType) (b : BusId) (quota : U64 × U64)
    (answer : Int) : (kms.vote k b quota answer).share = kms.share := by
  cases k <;> rfl

theorem clientOf_vote (kms : Kms) (k : CrtcClientType) (b : BusId) (quota : U64 × U64)
    (answer : Int) : (kms.vote k b quota answer).clientOf = kms.clientOf := by
  cases k <;> rfl

theorem voted_vote (ready : Ready crtcs kms) {k : CrtcClientType}
    (present : k = .rtRsc → kms.rsc.isSome) (b : BusId) (quota : U64 × U64) (answer : Int)
    (g : Target) :
    (kms.vote k b quota answer).voted g = if g = (k, b) then quota else kms.voted g := by
  obtain ⟨k', b'⟩ := g
  cases k with
  | nrt =>
    cases k' with
    | nrt =>
      simp [Kms.vote, Kms.setQuota, Kms.voted, Ledger.step, ready.registered, record]
    | rt | rtRsc =>
      simp [Kms.vote, Kms.setQuota, Kms.voted, Ledger.step, ready.registered, record]
  | rt =>
    cases k' with
    | rt =>
      simp [Kms.vote, Kms.setQuota, Kms.voted, Ledger.step, ready.registered, record]
    | nrt | rtRsc =>
      simp [Kms.vote, Kms.setQuota, Kms.voted, Ledger.step, ready.registered, record]
  | rtRsc =>
    obtain ⟨r, rsc⟩ := Option.isSome_iff_exists.mp (present rfl)
    cases k' with
    | rtRsc =>
      by_cases same : b' = b
      · subst same
        simp [Kms.vote, Kms.rscVote, Kms.voted, rsc, sdeRscClientVote]
      · simp [Kms.vote, Kms.rscVote, Kms.voted, rsc, sdeRscClientVote, same]
    | nrt | rt => simp [Kms.vote, Kms.rscVote, Kms.voted]

theorem sdeCorePerfCrtcUpdateBus_eq (ready : Ready crtcs kms) (c : CrtcId) (answer : BusId → Int)
    (b : BusId) :
    sdeCorePerfCrtcUpdateBus kms c answer b =
      kms.vote (kms.clientOf c) b ((board crtcs).total (kms.share (kms.clientOf c, b)))
        (answer b) := by
  have settled := (ready.vote (kms.clientOf c) b
    ((board crtcs).total (kms.share (kms.clientOf c, b))) (answer b)).settled
  have clear : ∀ kms' : Kms, kms'.perf.bwVoteModeUpdated = false →
      kms'.clearOldPath c b (answer b) = kms' := by
    intro kms' settled
    simp [Kms.clearOldPath, settled]
  simp only [sdeCorePerfCrtcUpdateBus, busTotals_eq, ready.perfTune, ready.crtcList]
  exact clear _ settled

theorem ready_updateBus (ready : Ready crtcs kms) (c : CrtcId) (answer : BusId → Int) (b : BusId) :
    Ready crtcs (sdeCorePerfCrtcUpdateBus kms c answer b) := by
  rw [sdeCorePerfCrtcUpdateBus_eq ready]
  exact ready.vote _ _ _ _

theorem clientOf_updateBus (ready : Ready crtcs kms) (c : CrtcId) (answer : BusId → Int)
    (b : BusId) : (sdeCorePerfCrtcUpdateBus kms c answer b).clientOf = kms.clientOf := by
  rw [sdeCorePerfCrtcUpdateBus_eq ready, clientOf_vote]

theorem publishes_updateBus (ready : Ready crtcs kms) (c : CrtcId) (answer : BusId → Int)
    (b : BusId) :
    Publishes (board crtcs) (fun g => g = (kms.clientOf c, b)) kms
      (sdeCorePerfCrtcUpdateBus kms c answer b) := by
  have voted := voted_vote ready (ready.rsc_of_clientOf (c := c)) b
    ((board crtcs).total (kms.share (kms.clientOf c, b))) (answer b)
  rw [sdeCorePerfCrtcUpdateBus_eq ready]
  constructor
  · rintro g rfl
    have shares := congrFun (share_vote kms (kms.clientOf c) b
      ((board crtcs).total (kms.share (kms.clientOf c, b))) (answer b)) (kms.clientOf c, b)
    simp only [board] at voted shares ⊢
    rw [voted, if_pos rfl, shares]
  · intro g other
    exact congrFun (share_vote _ _ _ _ _) g
  · intro g other
    exact (voted g).trans (if_neg other)

/-! ## The votes of a call -/

theorem voted_mapRsc (kms : Kms) {f : RscPriv → RscPriv}
    (asked : ∀ r, (f r).bwConfig.newAbVote = r.bwConfig.newAbVote ∧
      (f r).bwConfig.newIbVote = r.bwConfig.newIbVote) :
    { kms with rsc := kms.rsc.map f }.voted = kms.voted := by
  funext g
  obtain ⟨k, b⟩ := g
  cases k with
  | nrt | rt => rfl
  | rtRsc =>
    cases rsc : kms.rsc with
    | none => simp [Kms.voted, rsc]
    | some r => simp [Kms.voted, rsc, asked r]

theorem Ready.mapRsc (ready : Ready crtcs kms) (f : RscPriv → RscPriv) :
    Ready crtcs { kms with rsc := kms.rsc.map f } :=
  ⟨ready.crtcList, ready.perfTune, ready.settled, ready.registered,
    fun available => by simpa using ready.available available⟩

theorem Ready.setCrtc (ready : Ready crtcs kms) (c : CrtcId) (crtc : Crtc) :
    Ready crtcs (kms.setCrtc c crtc) :=
  ⟨ready.crtcList, ready.perfTune, ready.settled, ready.registered, ready.available⟩

theorem publishes_voteBuses (ready : Ready crtcs kms) (c : CrtcId) (updateBus : BusId → Bool)
    (paramsChanged : Bool) (ans : Answers) :
    Ready crtcs (kms.voteBuses c updateBus paramsChanged ans) ∧
      Publishes (board crtcs) (fun g => g.1 = kms.clientOf c ∧ updateBus g.2) kms
        (kms.voteBuses c updateBus paramsChanged ans) := by
  obtain ⟨⟨readyAfter, -⟩, publishes⟩ := publishes_foldl (B := board crtcs)
    (fun s => Ready crtcs s ∧ s.clientOf c = kms.clientOf c)
    (f := fun s b => if updateBus b then sdeCorePerfCrtcUpdateBus s c ans.quota b else s)
    (R := fun b g => updateBus b ∧ g = (kms.clientOf c, b))
    (by
      rintro s b ⟨ready, client⟩
      split
      · exact ⟨ready_updateBus ready c ans.quota b, by rw [clientOf_updateBus ready, client]⟩
      · exact ⟨ready, client⟩)
    (by
      rintro s b ⟨ready, client⟩
      cases bit : updateBus b with
      | false => exact (Publishes.refl s).congr fun g => by simp
      | true => exact (publishes_updateBus ready c ans.quota b).congr fun g => by simp [client])
    BusId.all (s := kms) ⟨ready, rfl⟩
  have listed : ∀ g : Target, (∃ b ∈ BusId.all, updateBus b = true ∧ g = (kms.clientOf c, b)) ↔
      g.1 = kms.clientOf c ∧ updateBus g.2 := by
    rintro ⟨k, b⟩
    constructor
    · rintro ⟨b', -, bit, same⟩
      obtain ⟨rfl, rfl⟩ := Prod.mk.inj same
      exact ⟨rfl, bit⟩
    · rintro ⟨rfl, bit⟩
      exact ⟨b, b.mem_all, bit, rfl⟩
  have votes := publishes.congr listed
  simp only [Kms.voteBuses]
  split
  · have kept := voted_mapRsc (BusId.all.foldl
      (fun s b => if updateBus b then sdeCorePerfCrtcUpdateBus s c ans.quota b else s) kms)
      fun r => asked_triggerVote r (BusId.all.any updateBus) ans.trigger
    refine ⟨readyAfter.mapRsc _, fun g this => ?_, votes.shares, fun g out => ?_⟩
    · exact (congrFun kept g).trans (votes.inside g this)
    · exact (congrFun kept g).trans (votes.others g out)
  · exact ⟨readyAfter, votes⟩

theorem publishes_update (ready : Ready crtcs kms) (c : CrtcId) (paramsChanged stopReq : Bool)
    (ans : Answers) :
    let req := (kms.crtc c).request kms.solver paramsChanged stopReq
    Ready crtcs (sdeCorePerfCrtcUpdate kms c paramsChanged stopReq ans) ∧
      Publishes (board crtcs) (fun g => g.1 = kms.clientOf c ∧ req.updateBus g.2)
        (kms.setCrtc c req.crtc) (sdeCorePerfCrtcUpdate kms c paramsChanged stopReq ans) := by
  intro req
  have client : (kms.setCrtc c req.crtc).clientOf c = kms.clientOf c := by
    simp only [Kms.clientOf, Kms.setCrtc_same, req, Crtc.request]
    split <;> rfl
  have votes := publishes_voteBuses (ready.setCrtc c req.crtc) c req.updateBus paramsChanged ans
  rw [client] at votes
  obtain ⟨readyAfter, publishes⟩ := votes
  simp only [sdeCorePerfCrtcUpdate]
  split
  · exact ⟨⟨readyAfter.crtcList, readyAfter.perfTune, readyAfter.settled, readyAfter.registered,
      readyAfter.available⟩, publishes.inside, publishes.shares, publishes.others⟩
  · exact ⟨readyAfter, publishes⟩

theorem clientOf_dropBw (kms : Kms) (c : CrtcId) (b : BusId) :
    (kms.dropBw c b).clientOf c = kms.clientOf c := by
  simp [Kms.clientOf, Kms.dropBw, Crtc.clientType, Kms.setCrtc]

theorem share_dropBw (kms : Kms) (c : CrtcId) (b : BusId)
    (other : g ≠ (kms.clientOf c, b)) : (kms.dropBw c b).share g = kms.share g := by
  funext d
  rw [Kms.dropBw, share_setCrtc]
  split
  · rename_i same
    subst same
    by_cases klass : g.1 = kms.clientOf d
    · have elsewhere : g.2 ≠ b := fun bus => other (Prod.ext klass bus)
      show kms.perf.share g _ = kms.perf.share g (kms.crtc d)
      apply share_congr
      · rfl
      · rfl
      · simp [CorePerfParams.amounts, elsewhere]
    · rw [Kms.share, share_other klass]
      exact share_other klass
  · rfl

theorem publishes_releaseBw (ready : Ready crtcs kms) {c : CrtcId} (answer : BusId → Int)
    (releases : kms.releases c) :
    Ready crtcs (sdeCorePerfCrtcReleaseBw kms c answer) ∧
      Publishes (board crtcs) (fun g => g.1 = kms.clientOf c) kms
        (sdeCorePerfCrtcReleaseBw kms c answer) := by
  obtain ⟨⟨readyAfter, -⟩, publishes⟩ := publishes_foldl (B := board crtcs)
    (fun s => Ready crtcs s ∧ s.clientOf c = kms.clientOf c)
    (f := fun s b => sdeCorePerfCrtcUpdateBus (s.dropBw c b) c answer b)
    (R := fun b g => g = (kms.clientOf c, b))
    (by
      rintro s b ⟨ready, client⟩
      have dropped : Ready crtcs (s.dropBw c b) := ready.setCrtc c _
      refine ⟨ready_updateBus dropped c answer b, ?_⟩
      rw [clientOf_updateBus dropped, clientOf_dropBw, client])
    (by
      rintro s b ⟨ready, client⟩
      have dropped : Ready crtcs (s.dropBw c b) := ready.setCrtc c _
      have votes := publishes_updateBus dropped c answer b
      rw [clientOf_dropBw, client] at votes
      refine ⟨votes.inside, fun g other => ?_, fun g other => votes.others g other⟩
      exact (votes.shares g other).trans (share_dropBw s c b (client ▸ other)))
    BusId.all (s := kms) ⟨ready, rfl⟩
  rw [sdeCorePerfCrtcReleaseBw, if_pos releases]
  refine ⟨readyAfter, publishes.congr ?_⟩
  rintro ⟨k, b⟩
  constructor
  · rintro ⟨b', -, same⟩
    exact (Prod.mk.inj same).1
  · rintro rfl
    exact ⟨b, b.mem_all, rfl⟩

end DisplayDrivers.Perf
