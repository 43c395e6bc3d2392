import DisplayDrivers.Power.Quota
import DisplayDrivers.Rsc.Model

/-! # Performance of the core (`msm/sde/sde_core_perf.c`)

Each CRTC keeps the performance it is voted with (`cur_perf`) and the one its last commit asked for
(`new_perf`).

`rsc` is the display RSC, where there is one.
-/

namespace DisplayDrivers.Perf

open DisplayDrivers.Power
open DisplayDrivers.Rsc (RscPriv RscState sdeRscClientVote sdeRscClientTriggerVote
  sdeRscClientStateUpdate)

def E2BIG : Int := 7

/-- `enum sde_crtc_client_type`. -/
inductive CrtcClientType
  | rt
  | nrt
  | rtRsc
deriving DecidableEq

/-- `enum sde_intf_mode`. -/
inductive IntfMode
  | none
  | cmd
  | video
  | wbBlock
  | wbLine
deriving DecidableEq

/-- `enum sde_perf_mode`. -/
inductive PerfMode
  | normal
  | minimum
  | fixed
deriving DecidableEq

/-- `enum sde_perf_vote_mode`. -/
inductive VoteMode
  | appsRsc
  | dispRsc
  | dispRscPrimary
deriving DecidableEq

/-- The performance properties among `enum msm_mdp_crtc_property`. -/
inductive CrtcProp
  | coreClk
  | coreAb
  | coreIb
  | llccAb
  | llccIb
  | dramAb
  | dramIb

/-- `struct sde_core_perf_params`. -/
structure CorePerfParams where
  maxPerPipeIb : BusId → U64
  bwCtl : BusId → U64
  coreClkRate : U64

def CorePerfParams.zero : CorePerfParams :=
  { maxPerPipeIb := fun _ => 0, bwCtl := fun _ => 0, coreClkRate := 0 }

def CorePerfParams.on (p : CorePerfParams) (b : BusId) : U64 × U64 := (p.bwCtl b, p.maxPerPipeIb b)

/-- `struct sde_crtc_state`. -/
structure CrtcState where
  rscClient : Option ClientId
  bwControl : Bool
  bwSplitVote : Bool
  property : CrtcProp → U64
  newPerf : CorePerfParams

abbrev CrtcId := Nat

/-- `struct sde_crtc`; `enabled` is that of its `drm_crtc`, and `intfMode` the mode of the encoder
    that drives it. -/
structure Crtc where
  enabled : Bool
  intfMode : IntfMode
  state : CrtcState
  curPerf : CorePerfParams
  newPerf : CorePerfParams

/-- `struct sde_core_perf_tune`. -/
structure PerfTune where
  mode : PerfMode
  minCoreClk : U64
  minBusVote : U64

def PerfTune.normal : PerfTune := { mode := .normal, minCoreClk := 0, minBusVote := 0 }

/-- `struct sde_core_perf`. -/
structure CorePerf where
  coreClkRate : U64
  maxCoreClkRate : U64
  perfTune : PerfTune
  enableBwRelease : Bool
  fixCoreClkRate : U64
  fixCoreIbVote : U64
  fixCoreAbVote : U64
  bwVoteMode : VoteMode
  sdeRscAvailable : Bool
  bwVoteModeUpdated : Bool

/-- `struct sde_kms`, with the CRTCs of the device and `max_bw_high` of the catalog. -/
structure Kms where
  crtcList : List CrtcId
  crtc : CrtcId → Crtc
  maxBwHigh : U32
  perf : CorePerf
  power : Ledger
  coreClient : ClientId
  rsc : Option RscPriv

def Kms.setCrtc (kms : Kms) (c : CrtcId) (crtc : Crtc) : Kms :=
  { kms with crtc := Function.update kms.crtc c crtc }

@[simp] theorem Kms.setCrtc_same (kms : Kms) (c : CrtcId) (crtc : Crtc) :
    (kms.setCrtc c crtc).crtc c = crtc := by
  simp [setCrtc]

def Crtc.clientType (crtc : Crtc) : CrtcClientType :=
  if crtc.intfMode = .wbLine then .nrt else if crtc.state.rscClient.isSome then .rtRsc else .rt

/-- `get_sde_rsc_current_state(SDE_RSC_INDEX)`. -/
def getSdeRscCurrentState (kms : Kms) : RscState := (kms.rsc.map (·.currentState)).getD .idle

/-! ## Admission -/

def sdeCorePerfCalcCrtc (kms : Kms) (state : CrtcState) : CorePerfParams :=
  if !state.bwControl then
    let bw : U64 := kms.maxBwHigh.setWidth 64 * 1000
    { bwCtl := fun _ => bw, maxPerPipeIb := fun _ => bw, coreClkRate := kms.perf.maxCoreClkRate }
  else
    match kms.perf.perfTune.mode with
    | .minimum => .zero
    | .fixed =>
      { bwCtl := fun _ => kms.perf.fixCoreAbVote
        maxPerPipeIb := fun _ => kms.perf.fixCoreIbVote
        coreClkRate := kms.perf.fixCoreClkRate }
    | .normal =>
      { bwCtl := fun
          | .mnoc => state.property .coreAb
          | .llcc => state.property (if state.bwSplitVote then .llccAb else .coreAb)
          | .ebi => state.property (if state.bwSplitVote then .dramAb else .coreAb)
        maxPerPipeIb := fun
          | .mnoc => state.property .coreIb
          | .llcc => state.property (if state.bwSplitVote then .llccIb else .coreIb)
          | .ebi => state.property (if state.bwSplitVote then .dramIb else .coreIb)
        coreClkRate := state.property .coreClk }

def Kms.counts (kms : Kms) (c tmp : CrtcId) : Bool :=
  (kms.crtc tmp).enabled && (kms.crtc tmp).clientType = (kms.crtc c).clientType && tmp ≠ c &&
    (kms.crtc tmp).state.bwControl

/-- `bw_sum_of_intfs` of `sde_core_perf_crtc_check`. -/
def bwSumOfIntfs (kms : Kms) (c : CrtcId) (b : BusId) (newBw : U64) : U64 :=
  kms.crtcList.foldl
    (fun sum tmp =>
      if kms.counts c tmp then sum + (kms.crtc tmp).state.newPerf.bwCtl b else sum) newBw

def toKb (bw : U64) : U32 := ((bw + 999) / 1000).setWidth 32

/-- The loop over the data buses in `sde_core_perf_crtc_check`. -/
def checkBuses (kms : Kms) (c : CrtcId) (bwControl : Bool) (newPerf : CorePerfParams) :
    List BusId → Int
  | [] => 0
  | b :: rest =>
    let bw := toKb (bwSumOfIntfs kms c b (newPerf.bwCtl b))
    if !bwControl then checkBuses kms c bwControl newPerf rest
    else if kms.maxBwHigh = 0 then -E2BIG
    else if kms.maxBwHigh < bw then -E2BIG
    else checkBuses kms c bwControl newPerf rest

/-- `sde_core_perf_crtc_check`: the new state with its performance, and the return code. -/
def sdeCorePerfCrtcCheck (kms : Kms) (c : CrtcId) (state : CrtcState) : CrtcState × Int :=
  let newPerf := sdeCorePerfCalcCrtc kms state
  ({ state with newPerf := newPerf }, checkBuses kms c state.bwControl newPerf BusId.all)

/-! ## Votes for the data buses -/

/-- The test of both `_is_crtc_client_type_matches` and `_get_sde_client_type`. -/
def CorePerf.byClient (perf : CorePerf) : Bool :=
  perf.bwVoteMode = .dispRscPrimary && perf.sdeRscAvailable

def isCrtcClientTypeMatches (perf : CorePerf) (tmp : Crtc) (curr : CrtcClientType) : Bool :=
  if perf.byClient then curr = tmp.clientType else true

def getSdeClientType (perf : CorePerf) (curr : CrtcClientType) : CrtcClientType :=
  if perf.byClient then curr
  else if perf.bwVoteMode ≠ .appsRsc ∧ perf.sdeRscAvailable then .rtRsc
  else .rt

/-- `sde_power_data_bus_set_quota` for the core client. -/
def Kms.setQuota (kms : Kms) (k : BusClient) (b : BusId) (quota : U64 × U64) (answer : Int) :
    Kms :=
  { kms with power := kms.power.step (.setQuota kms.coreClient k b quota.1 quota.2 answer) }

/-- `sde_rsc_client_vote`, which fails where there is no RSC. -/
def Kms.rscVote (kms : Kms) (b : BusId) (quota : U64 × U64) : Kms :=
  { kms with rsc := kms.rsc.map fun r => sdeRscClientVote r b quota.1 quota.2 }

/-- The `switch (client_vote)` of `_sde_core_perf_crtc_update_bus`. -/
def Kms.vote (kms : Kms) (client : CrtcClientType) (b : BusId) (quota : U64 × U64) (answer : Int) :
    Kms :=
  match client with
  | .nrt => kms.setQuota .nrt b quota answer
  | .rt => kms.setQuota .rt b quota answer
  | .rtRsc => kms.rscVote b quota

/-- The end of `_sde_core_perf_crtc_update_bus`: the path voted on before is given up. -/
def Kms.clearOldPath (kms : Kms) (c : CrtcId) (b : BusId) (answer : Int) : Kms :=
  let done := fun kms : Kms => { kms with perf := { kms.perf with bwVoteModeUpdated := false } }
  if !kms.perf.bwVoteModeUpdated then kms
  else
    match kms.perf.bwVoteMode with
    | .dispRsc => done ((kms.setQuota .nrt b (0, 0) answer).setQuota .rt b (0, 0) answer)
    | .appsRsc =>
      if (kms.crtc c).state.rscClient.isSome then done (kms.rscVote b (0, 0)) else kms
    | .dispRscPrimary => kms

/-- The loop over the CRTCs in `_sde_core_perf_crtc_update_bus`: the sum of the AB and the
    greatest IB. -/
def Kms.busTotals (kms : Kms) (curr : CrtcClientType) (b : BusId) : U64 × U64 :=
  kms.crtcList.foldl
    (fun total tmp =>
      let crtc := kms.crtc tmp
      if crtc.enabled && isCrtcClientTypeMatches kms.perf crtc curr then
        (total.1 + crtc.curPerf.bwCtl b, maxU64 total.2 (crtc.curPerf.maxPerPipeIb b))
      else total) (0, 0)

def sdeCorePerfCrtcUpdateBus (kms : Kms) (c : CrtcId) (answer : BusId → Int) (b : BusId) : Kms :=
  let curr := (kms.crtc c).clientType
  let total := kms.busTotals curr b
  let quota :=
    if kms.perf.perfTune.mode = .fixed then (kms.perf.fixCoreAbVote, kms.perf.fixCoreIbVote)
    else (maxU64 total.1 kms.perf.perfTune.minBusVote, total.2)
  (kms.vote (getSdeClientType kms.perf curr) b quota (answer b)).clearOldPath c b (answer b)

def Kms.videoPresent (kms : Kms) : Bool :=
  kms.crtcList.any fun tmp => (kms.crtc tmp).enabled && (kms.crtc tmp).intfMode = .video

/-- The tests of `sde_core_perf_crtc_release_bw`. -/
def Kms.releases (kms : Kms) (c : CrtcId) : Bool :=
  let crtc := kms.crtc c
  (crtc.intfMode = .cmd || crtc.clientType = .rtRsc) &&
    !(crtc.intfMode = .cmd && kms.videoPresent) && kms.perf.enableBwRelease

def Kms.dropBw (kms : Kms) (c : CrtcId) (b : BusId) : Kms :=
  let crtc := kms.crtc c
  let curPerf := { crtc.curPerf with bwCtl := Function.update crtc.curPerf.bwCtl b 0 }
  kms.setCrtc c { crtc with curPerf := curPerf }

def sdeCorePerfCrtcReleaseBw (kms : Kms) (c : CrtcId) (answer : BusId → Int) : Kms :=
  if kms.releases c then
    BusId.all.foldl (fun kms b => sdeCorePerfCrtcUpdateBus (kms.dropBw c b) c answer b) kms
  else kms

/-! ## The update -/

/-- The comparison of the update loop: up for `params_changed`, down without. -/
def moves (paramsChanged : Bool) (new old : U64) : Bool :=
  (paramsChanged && old < new) || (!paramsChanged && new < old)

def follow (paramsChanged : Bool) (new old : U64) : U64 :=
  if moves paramsChanged new old then new else old

def busRequest (paramsChanged solver : Bool) (new old : U64 × U64) : (U64 × U64) × Bool :=
  let cur := (follow paramsChanged new.1 old.1, follow paramsChanged new.2 old.2)
  let bit := moves paramsChanged new.1 old.1 || moves paramsChanged new.2 old.2
  if solver then
    -- every new bandwidth is voted for, and no reduction after the frame is
    if paramsChanged && (new.1 ≠ cur.1 || new.2 ≠ cur.2) then (new, true)
    else if !paramsChanged then (cur, false)
    else (cur, bit)
  else (cur, bit)

/-- `bw_vote_mode` and the RSC are those of solver mode. -/
def Kms.solver (kms : Kms) : Bool :=
  kms.perf.bwVoteMode = .dispRsc && getSdeRscCurrentState kms = .cmd

/-- The CRTC with its performance rewritten, `update_bus` and `update_clk`. -/
structure Request where
  crtc : Crtc
  updateBus : BusId → Bool
  updateClk : Bool

def Crtc.cachedPerf (crtc : Crtc) (paramsChanged : Bool) : CorePerfParams :=
  if paramsChanged then crtc.state.newPerf else crtc.newPerf

/-- What `sde_core_perf_crtc_update` does to the CRTC. -/
def Crtc.request (crtc : Crtc) (solver paramsChanged stopReq : Bool) : Request :=
  if crtc.enabled && !stopReq then
    let new := crtc.cachedPerf paramsChanged
    let old := crtc.curPerf
    let bus := fun b => busRequest paramsChanged solver (new.on b) (old.on b)
    { crtc := { crtc with
        newPerf := new
        curPerf :=
          { bwCtl := fun b => (bus b).1.1
            maxPerPipeIb := fun b => (bus b).1.2
            coreClkRate := follow paramsChanged new.coreClkRate old.coreClkRate } }
      updateBus := fun b => (bus b).2
      updateClk := moves paramsChanged new.coreClkRate old.coreClkRate }
  else
    { crtc := { crtc with newPerf := .zero, curPerf := .zero }
      updateBus := fun _ => true
      updateClk := true }

/-- Answers during a call of `sde_core_perf_crtc_update`; `roundRate` is `clk_round_rate`. -/
structure Answers where
  quota : BusId → Int
  trigger : Rsc.VoteAnswers
  roundRate : U64 → U64
  setRate : Int

def sdeCorePerfGetCoreClkRate (kms : Kms) (roundRate : U64 → U64) : U64 :=
  let rate := kms.crtcList.foldl
    (fun rate tmp =>
      if (kms.crtc tmp).enabled then
        roundRate (maxU64 (kms.crtc tmp).curPerf.coreClkRate rate)
      else rate) kms.perf.perfTune.minCoreClk
  if kms.perf.perfTune.mode = .fixed then kms.perf.fixCoreClkRate else rate

/-- The condition of `sde_rsc_client_trigger_vote`; without an RSC the version is 0 and the state
    idle. -/
def Kms.triggers (kms : Kms) (paramsChanged updateBus : Bool) : Bool :=
  kms.perf.bwVoteMode = .dispRsc &&
    (kms.rsc.all (·.version ≠ .rev3) ||
      (getSdeRscCurrentState kms ≠ .clk && paramsChanged) ||
      (getSdeRscCurrentState kms = .clk && updateBus))

def Kms.voteBuses (kms : Kms) (c : CrtcId) (updateBus : BusId → Bool) (paramsChanged : Bool)
    (ans : Answers) : Kms :=
  let kms := BusId.all.foldl
    (fun kms b => if updateBus b then sdeCorePerfCrtcUpdateBus kms c ans.quota b else kms) kms
  let any := BusId.all.any updateBus
  if kms.triggers paramsChanged any then
    { kms with rsc := kms.rsc.map fun r => (sdeRscClientTriggerVote r any ans.trigger).1 }
  else kms

def sdeCorePerfCrtcUpdate (kms : Kms) (c : CrtcId) (paramsChanged stopReq : Bool) (ans : Answers) :
    Kms :=
  let req := (kms.crtc c).request kms.solver paramsChanged stopReq
  let kms := (kms.setCrtc c req.crtc).voteBuses c req.updateBus paramsChanged ans
  if req.updateClk ∧ ans.setRate = 0 then
    { kms with
      perf := { kms.perf with coreClkRate := sdeCorePerfGetCoreClkRate kms ans.roundRate } }
  else kms

/-! ## Calls -/

/-- The calls of the driver, and what happens to the CRTCs and to the RSC between them:
    `swapState` is a commit, `modeset` switches a CRTC on or off. -/
inductive Call
  | swapState (c : CrtcId) (state : CrtcState)
  | modeset (c : CrtcId) (enabled : Bool) (intfMode : IntfMode)
  | stateUpdate (req : Rsc.Request) (ans : Rsc.Answers)
  | update (c : CrtcId) (paramsChanged stopReq : Bool) (ans : Answers)
  | releaseBw (c : CrtcId) (answer : BusId → Int)

def step (kms : Kms) : Call → Kms
  | .swapState c state => kms.setCrtc c { kms.crtc c with state := state }
  | .modeset c enabled intfMode =>
    kms.setCrtc c { kms.crtc c with enabled := enabled, intfMode := intfMode }
  | .stateUpdate req ans =>
    { kms with rsc := kms.rsc.map fun r => (sdeRscClientStateUpdate r req ans).1 }
  | .update c paramsChanged stopReq ans =>
    sdeCorePerfCrtcUpdate kms c paramsChanged stopReq ans
  | .releaseBw c answer => sdeCorePerfCrtcReleaseBw kms c answer

end DisplayDrivers.Perf
