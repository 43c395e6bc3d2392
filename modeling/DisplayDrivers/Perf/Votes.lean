import Mathlib.Tactic.Common
import DisplayDrivers.Perf.Model
import DisplayDrivers.Perf.Frame

/-! # Admission and votes

`sde_core_perf_crtc_check` adds up the bandwidth of the CRTCs in an `u64`, rounds the sum up to kB
and compares it as an `u32`. Both steps drop high bits: a sum past the limit is admitted where what
is left of it is small.

The total that was voted last for a bus is the one of the current values of the CRTCs, or, where
solver mode left out a reduction, of values that they do not exceed. A CRTC that is switched on or
off shows in the votes with the next update that votes.
-/

namespace DisplayDrivers.Perf

open DisplayDrivers.Lib.Run DisplayDrivers.Lib.Published DisplayDrivers.Power

/-! ## The sum -/

def trueSum (kms : Kms) (c : CrtcId) (state : CrtcState) (b : BusId) : Nat :=
  ((sdeCorePerfCalcCrtc kms state).bwCtl b).toNat +
    ((kms.crtcList.filter (kms.counts c)).map
      fun tmp => ((kms.crtc tmp).state.newPerf.bwCtl b).toNat).sum

theorem toNat_bwSumOfIntfs (kms : Kms) (c : CrtcId) (state : CrtcState) (b : BusId) :
    (bwSumOfIntfs kms c b ((sdeCorePerfCalcCrtc kms state).bwCtl b)).toNat =
      trueSum kms c state b % 2 ^ 64 := by
  rw [bwSumOfIntfs, ← List.foldl_filter, toNat_foldl_add, trueSum]

/-! ## Rounding -/

theorem toNat_toKb (bw : U64) : (toKb bw).toNat = (bw.toNat + 999) % 2 ^ 64 / 1000 % 2 ^ 32 := by
  simp [toKb]

/-- The sums whose remains are at most `threshold` kB: the addition of the rounding wraps, or the
    kilobytes exceed a multiple of `2 ^ 32` by no more than that. -/
def Aliases (threshold total : Nat) : Prop :=
  2 ^ 64 - 999 ≤ total % 2 ^ 64 ∨
    ∃ j, j * 2 ^ 32 * 1000 < total % 2 ^ 64 + 1000 ∧
      total % 2 ^ 64 ≤ (j * 2 ^ 32 + threshold) * 1000

theorem toKb_le_iff {bw : U64} {total : Nat} (threshold : Nat)
    (kept : bw.toNat = total % 2 ^ 64) : (toKb bw).toNat ≤ threshold ↔ Aliases threshold total := by
  have small : bw.toNat < 2 ^ 64 := bw.isLt
  rw [toNat_toKb, Aliases, ← kept]
  by_cases wraps : 2 ^ 64 - 999 ≤ bw.toNat
  · have nothing : (bw.toNat + 999) % 2 ^ 64 / 1000 = 0 := by omega
    rw [nothing]
    exact iff_of_true (Nat.zero_le _) (.inl wraps)
  · have rounded : (bw.toNat + 999) % 2 ^ 64 = bw.toNat + 999 := by omega
    rw [rounded]
    constructor
    · intro left
      -- the multiple of `2 ^ 32` that the `u32` drops
      exact .inr ⟨(bw.toNat + 999) / 1000 / 2 ^ 32, by omega, by omega⟩
    · rintro (exceeds | ⟨j, above, below⟩)
      · omega
      · omega

/-! ## The check -/

variable {kms : Kms}

theorem checkBuses_cases (c : CrtcId) (newPerf : CorePerfParams)
    (limited : kms.maxBwHigh ≠ 0) (buses : List BusId) :
    checkBuses kms c true newPerf buses = 0 ∧
        (∀ b ∈ buses, ¬ kms.maxBwHigh < toKb (bwSumOfIntfs kms c b (newPerf.bwCtl b))) ∨
      checkBuses kms c true newPerf buses = -E2BIG ∧
        ∃ b ∈ buses, kms.maxBwHigh < toKb (bwSumOfIntfs kms c b (newPerf.bwCtl b)) := by
  induction buses with
  | nil => simp [checkBuses]
  | cons b rest ih =>
    by_cases exceeds : kms.maxBwHigh < toKb (bwSumOfIntfs kms c b (newPerf.bwCtl b))
    · have refused : checkBuses kms c true newPerf (b :: rest) = -E2BIG := by
        simp [checkBuses, exceeds]
      exact .inr ⟨refused, b, List.mem_cons_self, exceeds⟩
    · have passed : checkBuses kms c true newPerf (b :: rest) =
          checkBuses kms c true newPerf rest := by
        simp only [checkBuses, Bool.not_true, Bool.false_eq_true, if_false, if_neg limited,
          if_neg exceeds]
      rw [passed]
      obtain ⟨admitted, below⟩ | ⟨refused, b', listed, above⟩ := ih
      · exact .inl ⟨admitted, List.forall_mem_cons.mpr ⟨exceeds, below⟩⟩
      · exact .inr ⟨refused, b', List.mem_cons_of_mem b listed, above⟩

theorem sdeCorePerfCrtcCheck_cases (c : CrtcId) {state : CrtcState}
    (controlled : state.bwControl) (limited : kms.maxBwHigh ≠ 0) :
    (sdeCorePerfCrtcCheck kms c state).2 = 0 ∧
        (∀ b, Aliases kms.maxBwHigh.toNat (trueSum kms c state b)) ∨
      (sdeCorePerfCrtcCheck kms c state).2 = -E2BIG ∧
        ∃ b, ¬ Aliases kms.maxBwHigh.toNat (trueSum kms c state b) := by
  have judged : ∀ b, Aliases kms.maxBwHigh.toNat (trueSum kms c state b) ↔
      ¬ kms.maxBwHigh < toKb (bwSumOfIntfs kms c b ((sdeCorePerfCalcCrtc kms state).bwCtl b)) := by
    intro b
    rw [← toKb_le_iff kms.maxBwHigh.toNat (toNat_bwSumOfIntfs kms c state b), BitVec.lt_def,
      Nat.not_lt]
  simp only [sdeCorePerfCrtcCheck, controlled, judged]
  obtain ⟨admitted, below⟩ | ⟨refused, b, -, above⟩ :=
    checkBuses_cases c (sdeCorePerfCalcCrtc kms state) limited BusId.all
  · exact .inl ⟨admitted, fun b => below b b.mem_all⟩
  · exact .inr ⟨refused, b, not_not.mpr above⟩

/-- The new bandwidth is admitted where on each bus the true sum, rounded up to kB, is at most
    `max_bw_high`, and is refused otherwise. -/
def AdmitsExactly (kms : Kms) (c : CrtcId) (state : CrtcState) : Prop :=
  (sdeCorePerfCrtcCheck kms c state).2 =
    if ∀ b, (trueSum kms c state b + 999) / 1000 ≤ kms.maxBwHigh.toNat then 0 else -E2BIG

theorem aliases_of_fits {threshold total : Nat} (bound : threshold < 2 ^ 32)
    (fits : (total + 999) / 1000 ≤ threshold) : Aliases threshold total := by
  have small : total % 2 ^ 64 = total := by omega
  rw [Aliases, small]
  exact .inr ⟨0, by simp, by omega⟩

/-- Admission is exact where all sums are within the limit, or where one of them still shows in
    32 bits of kB that it is not. -/
theorem admitsExactly_iff (kms : Kms) (c : CrtcId) (state : CrtcState)
    (controlled : state.bwControl) (limited : kms.maxBwHigh ≠ 0) :
    AdmitsExactly kms c state ↔
      (∀ b, trueSum kms c state b ≤ 1000 * kms.maxBwHigh.toNat) ∨
        ∃ b, ¬ Aliases kms.maxBwHigh.toNat (trueSum kms c state b) := by
  have within : (∀ b, (trueSum kms c state b + 999) / 1000 ≤ kms.maxBwHigh.toNat) ↔
      ∀ b, trueSum kms c state b ≤ 1000 * kms.maxBwHigh.toNat :=
    forall_congr' fun b => by omega
  have bound : kms.maxBwHigh.toNat < 2 ^ 32 := kms.maxBwHigh.isLt
  rw [AdmitsExactly]
  obtain ⟨admitted, aliases⟩ | ⟨refused, b, shows⟩ :=
    sdeCorePerfCrtcCheck_cases c controlled limited
  · have hidden : ¬ ∃ b, ¬ Aliases kms.maxBwHigh.toNat (trueSum kms c state b) := by
      rintro ⟨b, shows⟩
      exact shows (aliases b)
    rw [admitted, ← within]
    by_cases fits : ∀ b, (trueSum kms c state b + 999) / 1000 ≤ kms.maxBwHigh.toNat
    · simp [fits]
    · simp [fits, hidden, E2BIG]
  · have exceeds : ¬ ∀ b, (trueSum kms c state b + 999) / 1000 ≤ kms.maxBwHigh.toNat :=
      fun fits => shows (aliases_of_fits bound (fits b))
    rw [refused, if_neg exceeds]
    exact iff_of_true rfl (.inr ⟨b, shows⟩)

/-! ## Two displays -/

def asking (ab : U64) : CrtcState :=
  { rscClient := none, bwControl := true, bwSplitVote := false
    property := fun
      | .coreAb => ab
      | _ => 0
    newPerf := { CorePerfParams.zero with bwCtl := fun _ => ab } }

def twoDisplays : Kms :=
  { crtcList := [0, 1]
    crtc := fun _ =>
      { enabled := true, intfMode := .video, state := asking 3000, curPerf := .zero,
        newPerf := .zero }
    maxBwHigh := 5
    perf :=
      { coreClkRate := 0, maxCoreClkRate := 320000000, perfTune := .normal,
        enableBwRelease := false, fixCoreClkRate := 0, fixCoreIbVote := 0, fixCoreAbVote := 0,
        bwVoteMode := .appsRsc, sdeRscAvailable := false, bwVoteModeUpdated := false }
    power := .start 0 fun _ => bareBus
    coreClient := 0
    rsc := none }

theorem admitsExactly_iff_twoDisplays :
    AdmitsExactly twoDisplays 0 (asking 2000) ∧
      (sdeCorePerfCrtcCheck twoDisplays 0 (asking 2000)).2 = 0 :=
  ⟨(admitsExactly_iff twoDisplays 0 (asking 2000) rfl (by decide)).mpr (.inl (by decide)),
    by decide⟩

/-- `2 ^ 32` kB are admitted: of them and the other display's, 3 kB are left. -/
theorem impossible_bandwidth_admitted :
    ¬ AdmitsExactly twoDisplays 0 (asking 4294967296000) := by
  unfold AdmitsExactly
  decide

variable {crtcs : List CrtcId}

/-! ## What an update leaves to be covered -/

def Kms.dropsReduction (kms : Kms) : Call → Target → Bool
  | .update c paramsChanged stopReq _, (k, b) =>
    let crtc := kms.crtc c
    k = kms.clientOf c && crtc.enabled && !stopReq && kms.solver && !paramsChanged &&
      (crtc.newPerf.bwCtl b < crtc.curPerf.bwCtl b ||
        crtc.newPerf.maxPerPipeIb b < crtc.curPerf.maxPerPipeIb b)
  | _, _ => false

theorem share_request (kms : Kms) (c : CrtcId) (paramsChanged stopReq : Bool) (ans : Answers)
    {g : Target}
    (silent : ¬ (g.1 = kms.clientOf c ∧
      ((kms.crtc c).request kms.solver paramsChanged stopReq).updateBus g.2)) :
    kms.perf.share g ((kms.crtc c).request kms.solver paramsChanged stopReq).crtc ≤
        kms.share g c ∧
      (kms.dropsReduction (.update c paramsChanged stopReq ans) g = false →
        kms.perf.share g ((kms.crtc c).request kms.solver paramsChanged stopReq).crtc =
          kms.share g c) := by
  obtain ⟨k, b⟩ := g
  have enabled : ((kms.crtc c).request kms.solver paramsChanged stopReq).crtc.enabled =
      (kms.crtc c).enabled := by
    simp only [Crtc.request]
    split <;> rfl
  have klass : ((kms.crtc c).request kms.solver paramsChanged stopReq).crtc.clientType =
      (kms.crtc c).clientType := by
    simp only [Crtc.request]
    split <;> rfl
  by_cases mine : k = kms.clientOf c
  · have clear : ((kms.crtc c).request kms.solver paramsChanged stopReq).updateBus b = false := by
      simpa [mine] using silent
    cases updates : (kms.crtc c).enabled && !stopReq with
    | false => simp [Crtc.request, updates] at clear
    | true =>
      simp only [Crtc.request, updates, if_true] at clear ⊢
      obtain ⟨lower, same⟩ := busRequest_clear clear
      constructor
      · exact share_mono rfl rfl lower
      · intro kept
        have reduces : (kms.solver && !paramsChanged &&
            ((kms.crtc c).newPerf.bwCtl b < (kms.crtc c).curPerf.bwCtl b ||
              (kms.crtc c).newPerf.maxPerPipeIb b < (kms.crtc c).curPerf.maxPerPipeIb b)) =
            false := by
          obtain ⟨on, going⟩ := Bool.and_eq_true_iff.mp updates
          simpa [Kms.dropsReduction, mine, on, going] using kept
        have values := same (by
          cases paramsChanged with
          | true => simp
          | false => exact reduces)
        show kms.perf.share (k, b) _ = kms.perf.share (k, b) (kms.crtc c)
        apply share_congr
        · rfl
        · rfl
        · show ((busRequest _ _ _ _).1.1.toNat, (busRequest _ _ _ _).1.2.toNat) = _
          rw [values]
          rfl
  · have before : kms.share (k, b) c = (0, 0) := share_other mine
    have after := share_other (g := (k, b)) (by rw [klass]; exact mine)
    rw [after, before]
    exact ⟨le_refl ((0, 0) : ℕ × ℕ), fun _ => rfl⟩

/-! ## The tally -/

def Kms.votesFor (kms : Kms) : Call → Target → Bool
  | .update c paramsChanged stopReq _, (k, b) =>
    k = kms.clientOf c && ((kms.crtc c).request kms.solver paramsChanged stopReq).updateBus b
  | .releaseBw c _, (k, _) => k = kms.clientOf c && kms.releases c
  | _, _ => false

/-- A CRTC that is switched on or off, or moved to another class, with bandwidth on the bus. -/
def Kms.shifts (kms : Kms) (call : Call) (g : Target) : Bool :=
  match call with
  | .swapState c _ => (step kms call).share g c ≠ kms.share g c
  | .modeset c _ _ => (step kms call).share g c ≠ kms.share g c
  | _ => false

/-- The shares that the last vote for each target has counted, and whether since then a reduction
    was dropped or a CRTC shifted. -/
structure Tally where
  kms : Kms
  counted : Target → CrtcId → ℕ × ℕ
  dropped : Target → Bool
  shifted : Target → Bool

def Tally.step (t : Tally) (call : Call) : Tally :=
  { kms := Perf.step t.kms call
    counted := fun g =>
      if t.kms.votesFor call g then (Perf.step t.kms call).share g else t.counted g
    dropped := fun g => !t.kms.votesFor call g && (t.dropped g || t.kms.dropsReduction call g)
    shifted := fun g => !t.kms.votesFor call g && (t.shifted g || t.kms.shifts call g) }

def Kms.start (kms : Kms) : Kms :=
  let noVote : BusId → U64 := fun _ => 0
  let idle := fun crtc : Crtc =>
    { crtc with curPerf := { CorePerfParams.zero with coreClkRate := crtc.curPerf.coreClkRate } }
  let bwConfig : Rsc.BwConfig :=
    { abVote := noVote, ibVote := noVote, newAbVote := noVote, newIbVote := noVote }
  { kms with
    crtc := fun c => idle (kms.crtc c)
    perf := { kms.perf with
      perfTune := .normal
      sdeRscAvailable := kms.rsc.isSome
      bwVoteModeUpdated := false }
    power :=
      { handle := sdePowerClientCreate kms.power.handle, asked := fun _ _ _ => (0, 0) }
    coreClient := kms.power.handle.nextId
    rsc := kms.rsc.map fun r => { r with bwConfig := bwConfig } }

def Tally.start (kms : Kms) : Tally :=
  { kms := kms.start, counted := fun _ _ => (0, 0), dropped := fun _ => false,
    shifted := fun _ => false }

structure Tally.Sound (crtcs : List CrtcId) (t : Tally) : Prop where
  ready : Ready crtcs t.kms
  tracks : Tracks (board crtcs) t.kms t.counted (fun g => t.dropped g) fun g => t.shifted g

theorem share_unshifted {call : Call} {c : CrtcId} {crtc : Crtc} {g : Target}
    (steps : step kms call = kms.setCrtc c crtc)
    (watched : kms.shifts call g = decide ((step kms call).share g c ≠ kms.share g c))
    (unshifted : kms.shifts call g = false) : (step kms call).share g = kms.share g := by
  have here : (step kms call).share g c = kms.share g c := by
    rw [watched] at unshifted
    simpa using unshifted
  rw [steps] at here ⊢
  funext d
  by_cases same : d = c
  · rw [same, here]
  · rw [share_setCrtc, if_neg same]

theorem total_zero (crtcs : List CrtcId) : total 0 crtcs (fun _ => (0, 0)) = (0, 0) := by
  have sum : (crtcs.map fun _ => 0).sum = 0 := by simp
  have top : (crtcs.map fun _ => 0).foldl max 0 = 0 := by
    induction crtcs with
    | nil => rfl
    | cons c rest ih => exact ih (by simp)
  rw [total, sum, top]
  rfl

theorem sound_start (kms : Kms) : (Tally.start kms).Sound kms.crtcList where
  ready :=
    { crtcList := rfl
      perfTune := rfl
      settled := rfl
      registered := List.mem_cons_self
      available := fun available => by simpa [Tally.start, Kms.start] using available }
  tracks := by
    have idle : ∀ g c, (Tally.start kms).kms.share g c = (0, 0) := by
      intro g c
      simp [Kms.share, CorePerf.share, CorePerfParams.amounts, Tally.start, Kms.start,
        CorePerfParams.zero]
    refine ⟨?_, fun g _ c => ?_, fun g _ _ => (funext (idle g)).symm⟩
    · rintro ⟨k, b⟩
      have nothing : (board kms.crtcList).total (fun _ => (0, 0)) = (0, 0) :=
        total_zero kms.crtcList
      show (Tally.start kms).kms.voted (k, b) = (board kms.crtcList).total fun _ => (0, 0)
      rw [nothing]
      cases k with
      | nrt | rt => rfl
      | rtRsc => cases rsc : kms.rsc <;> simp [Tally.start, Kms.start, Kms.voted, rsc]
    · show (Tally.start kms).kms.share g c ≤ (0, 0)
      rw [idle]

variable {t : Tally}

theorem Tally.Sound.silent (sound : t.Sound crtcs) (call : Call)
    (votes : t.kms.votesFor call = fun _ => false)
    (drops : t.kms.dropsReduction call = fun _ => false)
    (ready : Ready crtcs (Perf.step t.kms call))
    (voted : (Perf.step t.kms call).voted = t.kms.voted)
    (share : ∀ g, t.kms.shifts call g = false → (Perf.step t.kms call).share g = t.kms.share g) :
    (t.step call).Sound crtcs where
  ready := ready
  tracks := by
    have after : Tracks (board crtcs) (Perf.step t.kms call) t.counted (fun g => t.dropped g)
        fun g => t.shifted g || t.kms.shifts call g := by
      refine sound.tracks.idle (congrFun voted) fun g unshifted => ?_
      obtain ⟨was, now⟩ : t.shifted g = false ∧ t.kms.shifts call g = false := by
        simpa using unshifted
      exact ⟨by simp [was], share g now⟩
    simpa [Tally.step, votes, drops] using after

theorem sound_update (sound : t.Sound crtcs) (c : CrtcId)
    (paramsChanged stopReq : Bool) (ans : Answers) :
    (t.step (.update c paramsChanged stopReq ans)).Sound crtcs := by
  obtain ⟨ready, publishes⟩ := publishes_update sound.ready c paramsChanged stopReq ans
  refine ⟨ready, ?_⟩
  have voting : ∀ g : Target, t.kms.votesFor (.update c paramsChanged stopReq ans) g = true ↔
      g.1 = t.kms.clientOf c ∧
        ((t.kms.crtc c).request t.kms.solver paramsChanged stopReq).updateBus g.2 := by
    rintro ⟨k, b⟩
    simp [Kms.votesFor]
  have votes := publishes.congr fun g => (voting g).symm
  have unpublished : ∀ g, (board crtcs).published
      (t.kms.setCrtc c ((t.kms.crtc c).request t.kms.solver paramsChanged stopReq).crtc) g =
        (board crtcs).published t.kms g := fun _ => rfl
  refine sound.tracks.update unpublished (fun g silent unshifted => ⟨?_, fun d => ?_⟩)
    (fun g silent fresh _ => ?_) votes
  · have quiet : t.kms.votesFor (.update c paramsChanged stopReq ans) g = false := by
      simpa using silent
    simpa [Tally.step, quiet, Kms.shifts] using unshifted
  · -- the shares of the other CRTCs stay as they are
    show (t.kms.setCrtc c _).share g d ≤ t.kms.share g d
    rw [share_setCrtc]
    split
    · rename_i here
      subst here
      exact (share_request t.kms d paramsChanged stopReq ans (mt (voting g).mpr silent)).1
    · exact le_refl (t.kms.share g d)
  · have quiet : t.kms.votesFor (.update c paramsChanged stopReq ans) g = false := by
      simpa using silent
    obtain ⟨wasFresh, kept⟩ : t.dropped g = false ∧
        t.kms.dropsReduction (.update c paramsChanged stopReq ans) g = false := by
      simpa [Tally.step, quiet] using fresh
    refine ⟨by simp [wasFresh], funext fun d => ?_⟩
    show (t.kms.setCrtc c _).share g d = t.kms.share g d
    rw [share_setCrtc]
    split
    · rename_i here
      subst here
      exact (share_request t.kms d paramsChanged stopReq ans (mt (voting g).mpr silent)).2 kept
    · rfl

theorem sound_releaseBw (sound : t.Sound crtcs) (c : CrtcId) (answer : BusId → Int) :
    (t.step (.releaseBw c answer)).Sound crtcs := by
  cases releases : t.kms.releases c with
  | false =>
    have unchanged : Perf.step t.kms (.releaseBw c answer) = t.kms := by
      simp [Perf.step, sdeCorePerfCrtcReleaseBw, releases]
    apply sound.silent (.releaseBw c answer)
    · funext g
      obtain ⟨k, b⟩ := g
      simp [Kms.votesFor, releases]
    · rfl
    · rw [unchanged]; exact sound.ready
    · rw [unchanged]
    · intro g _
      rw [unchanged]
  | true =>
    obtain ⟨ready, publishes⟩ := publishes_releaseBw sound.ready answer releases
    refine ⟨ready, ?_⟩
    have voting : ∀ g : Target, t.kms.votesFor (.releaseBw c answer) g = true ↔
        g.1 = t.kms.clientOf c := by
      rintro ⟨k, b⟩
      simp [Kms.votesFor, releases]
    have votes := publishes.congr fun g => (voting g).symm
    refine sound.tracks.update (fun _ => rfl)
      (fun g silent unshifted => ⟨?_, fun d => le_refl (t.kms.share g d)⟩)
      (fun g silent fresh _ => ?_) votes
    · have quiet : t.kms.votesFor (.releaseBw c answer) g = false := by simpa using silent
      simpa [Tally.step, quiet, Kms.shifts] using unshifted
    have quiet : t.kms.votesFor (.releaseBw c answer) g = false := by simpa using silent
    have wasFresh : t.dropped g = false ∧ t.kms.dropsReduction (.releaseBw c answer) g = false := by
      simpa [Tally.step, quiet] using fresh
    exact ⟨by simp [wasFresh.1], rfl⟩

theorem sound_step (sound : t.Sound crtcs) (call : Call) : (t.step call).Sound crtcs := by
  cases call with
  | swapState c state =>
    apply sound.silent (.swapState c state) rfl rfl (sound.ready.setCrtc c _) rfl
    exact fun g => share_unshifted rfl rfl
  | modeset c enabled intfMode =>
    apply sound.silent (.modeset c enabled intfMode) rfl rfl (sound.ready.setCrtc c _) rfl
    exact fun g => share_unshifted rfl rfl
  | stateUpdate req ans =>
    apply sound.silent (.stateUpdate req ans) rfl rfl (sound.ready.mapRsc _) _ fun _ _ => rfl
    exact voted_mapRsc t.kms fun r => by simp
  | update c paramsChanged stopReq ans => exact sound_update sound c paramsChanged stopReq ans
  | releaseBw c answer => exact sound_releaseBw sound c answer

/-! ## The votes cover the frame -/

def Kms.aggregate (kms : Kms) (g : Target) : U64 × U64 :=
  total kms.perf.perfTune.minBusVote kms.crtcList (kms.share g)

/-- The votes are the totals of what was counted for them, which covers what the CRTCs hold now,
    unless one of them has been switched on or off since; where no reduction was dropped since
    either, they are the totals of what the CRTCs hold. -/
structure Tally.Covered (t : Tally) : Prop where
  counted : ∀ g,
    t.kms.voted g = total t.kms.perf.perfTune.minBusVote t.kms.crtcList (t.counted g)
  covers : ∀ g, t.shifted g = false → ∀ c, t.kms.share g c ≤ t.counted g c
  exact_of_kept : ∀ g, t.shifted g = false → t.dropped g = false →
    t.kms.voted g = t.kms.aggregate g

theorem Tally.Sound.covered (sound : t.Sound crtcs) : t.Covered := by
  have floor : t.kms.perf.perfTune.minBusVote = PerfTune.normal.minBusVote := by
    rw [sound.ready.perfTune]
  have counted : ∀ g,
      t.kms.voted g = total t.kms.perf.perfTune.minBusVote t.kms.crtcList (t.counted g) := by
    intro g
    rw [floor, sound.ready.crtcList]
    exact sound.tracks.published g
  refine ⟨counted, fun g unshifted => ?_, fun g unshifted kept => ?_⟩
  · exact sound.tracks.covers g (by simp [unshifted])
  · have shares : t.counted g = t.kms.share g :=
      sound.tracks.exact_of_fresh g (by simp [kept]) (by simp [unshifted])
    rw [counted g, shares]
    rfl

/-- In every run the votes cover what the CRTCs hold; an update before a frame raises it, and the
    matching one settles it. -/
theorem votes_cover (kms : Kms) :
    (∀ calls, Throughout Tally.step Tally.Covered (.start kms) calls) ∧
    (∀ s c ans, RaisesBefore s c ans) ∧
    ∀ s c ans between ans', SettlesAfter s c ans between ans' :=
  ⟨throughout_of_invariant (Tally.Sound kms.crtcList) (fun _ call sound => sound_step sound call)
    (fun _ sound => sound.covered) (sound_start kms), raisesBefore, settlesAfter⟩

def Answers.fine : Answers :=
  { quota := fun _ => 0
    trigger := { clkOn := ⟨0, 0⟩, clkOff := ⟨0, 0⟩, tcsWait := 0, dataBus := fun _ => 0 }
    roundRate := id
    setRate := 0 }

def commandPanel : Kms :=
  { twoDisplays with
    crtcList := [0]
    crtc := fun _ =>
      { enabled := true, intfMode := .cmd, state := { asking 200 with rscClient := some 0 },
        curPerf := .zero, newPerf := .zero }
    perf := { twoDisplays.perf with enableBwRelease := true, bwVoteMode := .dispRsc }
    rsc := some (run Rsc.step (.start .rev3 (fun _ => bareBus) 0) [.create .primaryDisp, .bind]) }

def toCmdState : Call :=
  .stateUpdate { caller := 0, state := .cmd, config := false, crtcId := 0, hasPointer := false }
    { init := ⟨0, ⟨0, 0⟩, ⟨0, 0⟩⟩, clkOn := ⟨0, 0⟩, clkOff := ⟨0, 0⟩, update := none, resets := 0 }

/-- A frame with a smaller vote, in command state. -/
def smallerFrame : List Call :=
  [.update 0 true false .fine, .swapState 0 { asking 100 with rscClient := some 0 },
    .update 0 true false .fine, toCmdState, .update 0 false false .fine]

theorem votes_cover_smallerFrame :
    Throughout Tally.step Tally.Covered (.start commandPanel) smallerFrame ∧
      (run step commandPanel.start smallerFrame).voted (.rtRsc, .mnoc) = (200, 0) ∧
      ((run step commandPanel.start smallerFrame).crtc 0).curPerf.on .mnoc = (100, 0) :=
  ⟨(votes_cover commandPanel).1 smallerFrame, by decide, by decide⟩

/-- The second display is switched off in continuous splash, where nothing asks for a stop, and an
    update of the first one returns. -/
def secondOff : List Call :=
  [.update 0 true false .fine, .update 1 true false .fine, .modeset 1 false .video,
    .update 0 true false .fine]

def panelAfter (calls : List Call) : Crtc := (run step commandPanel.start calls).crtc 0

/-- The smaller frame is not voted for, and a display that is switched off is voted for still; a
    stop takes the values of the CRTC away, whether or not its parameters changed; a release before
    the second update leaves no bandwidth. -/
theorem votes_not_exact :
    (run step commandPanel.start smallerFrame).voted (.rtRsc, .mnoc) ≠
        (run step commandPanel.start smallerFrame).aggregate (.rtRsc, .mnoc) ∧
      (run step twoDisplays.start secondOff).voted (.rt, .mnoc) ≠
        (run step twoDisplays.start secondOff).aggregate (.rt, .mnoc) ∧
      (commandPanel.start.solver = false ∧
        (panelAfter [.update 0 true false .fine, .update 0 true true .fine]).curPerf.bwCtl .mnoc <
          (panelAfter [.update 0 true false .fine]).curPerf.bwCtl .mnoc) ∧
      (panelAfter [.update 0 true false .fine, .releaseBw 0 fun _ => 0,
          .update 0 false false .fine]).curPerf.bwCtl .mnoc ≠
        (panelAfter [.update 0 true false .fine, .releaseBw 0 fun _ => 0,
          .update 0 false false .fine]).newPerf.bwCtl .mnoc := by
  decide

end DisplayDrivers.Perf
