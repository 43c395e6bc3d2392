import DisplayDrivers.Power.Refcount
import DisplayDrivers.Rsc.Arbitration

/-! # Power-ups that fail

`sde_power_resource_enable` counts the client's reference and moves its vote before the first step
that can fail, and none of its labels takes that back: whichever step fails, the call leaves a
trace.
-/

namespace DisplayDrivers.Power

/-! ## The steps that can fail -/

inductive PowerStep
  | dataBus (b : BusId)
  | vreg
  | regBus
  | rsc
  | clk

/-- The steps in the order of `sde_power_resource_enable`. -/
def PowerStep.all : List PowerStep := BusId.all.map .dataBus ++ [.vreg, .regBus, .rsc, .clk]

def PowerHandle.rscClientOf (h : PowerHandle) (ans : Answers) : Bool :=
  (sdePowerRscClientInit h ans.rscClient).rscClient

def PowerStep.rc (h : PowerHandle) (ans : Answers) : PowerStep → Int
  | .dataBus b => ((h.dataBusHandle b).update true (ans.dataBus b)).2
  | .vreg => ans.vreg
  | .regBus => if h.regBusHdl ≠ 0 then ans.regBus else 0
  | .rsc => if h.rscClientOf ans then ans.rsc else 0
  | .clk => ans.clk

def PowerHandle.turnsOn (h : PowerHandle) (c : ClientId) : Bool :=
  resourceChanged h.currentUsecaseNdx (h.setClient c ((h.client c).count true)).maxUsecaseNdx

def failedStep (h : PowerHandle) (c : ClientId) (ans : Answers) : Option PowerStep :=
  if h.turnsOn c then PowerStep.all.find? fun step => step.rc h ans ≠ 0 else none

/-- What `powerUp` asks of the RSC client, in order; at `rsc_err` the state that was refused stays
    the last one. -/
def powerUpRsc (h : PowerHandle) (c : ClientId) (maxUsecaseNdx : U32) (ans : Answers) :
    List Rsc.RscState :=
  let buses := updateDataBuses h true ans.dataBus BusId.all
  let scaled := sdePowerScaleRegBus (buses.1.enableVreg true) c maxUsecaseNdx true ans.regBus
  let asked := fun state => if scaled.1.rscClient then [state] else []
  -- the call does not get to the RSC
  if buses.2 ≠ 0 ∨ ans.vreg ≠ 0 ∨ scaled.2 ≠ 0 then []
  else if sdePowerRscUpdate scaled.1 ans.rsc = 0 ∧ ans.clk ≠ 0 then
    asked Rsc.RscState.clk ++ asked Rsc.RscState.idle
  else asked Rsc.RscState.clk

def rscStateAfter (h : PowerHandle) (c : ClientId) (ans : Answers) (before : Rsc.RscState) :
    Rsc.RscState :=
  let max := (h.setClient c ((h.client c).count true)).maxUsecaseNdx
  let called := (h.setClient c ((h.client c).count true)).setCurrent max
  if h.turnsOn c then
    (powerUpRsc (sdePowerRscClientInit called ans.rscClient) c max ans).getLastD before
  else before

/-! ## What the steps return -/

section

variable (h : PowerHandle) (answer : BusId → Int) (code : BusId → Int)

variable {h} in
theorem update_setDataBus_other (other : b' ≠ b) (bus : DataBusHandle) :
    (h.setDataBus b bus).dataBusHandle b' = h.dataBusHandle b' := by
  simp [PowerHandle.setDataBus, other]

variable {h answer code} in
theorem codes_setDataBus (fresh : b ∉ rest) (bus : DataBusHandle)
    (codes : ∀ b' ∈ b :: rest, ((h.dataBusHandle b').update true (answer b')).2 = code b') :
    ∀ b' ∈ rest, (((h.setDataBus b bus).dataBusHandle b').update true (answer b')).2 = code b' := by
  intro b' member
  have other : b' ≠ b := fun same => fresh (same ▸ member)
  rw [update_setDataBus_other other]
  exact codes b' (List.mem_cons_of_mem _ member)

theorem updateDataBuses_rc (buses : List BusId) (nodup : buses.Nodup)
    (codes : ∀ b ∈ buses, ((h.dataBusHandle b).update true (answer b)).2 = code b) :
    (updateDataBuses h true answer buses).2 =
      ((buses.find? fun b => code b ≠ 0).map code).getD 0 := by
  induction buses generalizing h with
  | nil => rfl
  | cons b rest ih =>
    obtain ⟨fresh, nodup⟩ := List.nodup_cons.mp nodup
    have first := codes b List.mem_cons_self
    by_cases granted : code b = 0
    · simp only [updateDataBuses, first, granted, ne_eq, not_true, if_false]
      rw [ih _ nodup (codes_setDataBus fresh _ codes), List.find?_cons_of_neg
        (by simpa using granted)]
    · rw [List.find?_cons_of_pos (by simpa using granted)]
      simp [updateDataBuses, first, granted]

theorem regBus_updateDataBuses (buses : List BusId) :
    (updateDataBuses h true answer buses).1.regBusHdl = h.regBusHdl ∧
      (updateDataBuses h true answer buses).1.regBusVote = h.regBusVote ∧
      (updateDataBuses h true answer buses).1.rscClient = h.rscClient := by
  induction buses generalizing h with
  | nil => exact ⟨rfl, rfl, rfl⟩
  | cons b rest ih =>
    simp only [updateDataBuses]
    split
    · exact ⟨rfl, rfl, rfl⟩
    · exact ih _

end

theorem regBusUpdate_rc (h : PowerHandle) (usecaseNdx : U32) (answer : Int) :
    (sdePowerRegBusUpdate h usecaseNdx answer).2 = if h.regBusHdl ≠ 0 then answer else 0 := by
  simp only [sdePowerRegBusUpdate]
  split
  · split
    · rename_i granted
      exact granted.symm
    · rfl
  · rfl

theorem scaleRegBus_eq (h : PowerHandle) (c : ClientId) (usecaseNdx : U32) (answer : Int) :
    sdePowerScaleRegBus h c usecaseNdx true answer =
      sdePowerRegBusUpdate
        (h.setClient c { h.client c with usecaseNdx := usecaseNdx.setWidth 16 })
        (h.setClient c { h.client c with usecaseNdx := usecaseNdx.setWidth 16 }).maxUsecaseNdx
        answer := by
  simp [sdePowerScaleRegBus]

theorem rscClient_regBusUpdate (h : PowerHandle) (usecaseNdx : U32) (answer : Int) :
    (sdePowerRegBusUpdate h usecaseNdx answer).1.rscClient = h.rscClient := by
  simp only [sdePowerRegBusUpdate]
  split
  · split <;> rfl
  · rfl

theorem powerUp_rc {h : PowerHandle} {c : ClientId} {max prev : U32} {ans : Answers}
    (created : h.rscClientOf ans = h.rscClient) :
    (powerUp h c max prev ans).2 =
      ((PowerStep.all.find? fun step => step.rc h ans ≠ 0).map (·.rc h ans)).getD 0 := by
  have kept := regBus_updateDataBuses h ans.dataBus BusId.all
  have buses := updateDataBuses_rc h ans.dataBus (fun b => (PowerStep.dataBus b).rc h ans) BusId.all
    (by decide) fun _ _ => rfl
  have scaled : (sdePowerScaleRegBus ((updateDataBuses h true ans.dataBus BusId.all).1.enableVreg
      true) c max true ans.regBus).2 = PowerStep.regBus.rc h ans := by
    rw [scaleRegBus_eq, regBusUpdate_rc]
    show (if (updateDataBuses h true ans.dataBus BusId.all).1.regBusHdl ≠ 0 then _ else _) = _
    rw [kept.1]
    rfl
  have rsc : sdePowerRscUpdate (sdePowerScaleRegBus
      ((updateDataBuses h true ans.dataBus BusId.all).1.enableVreg true) c max true ans.regBus).1
      ans.rsc = PowerStep.rsc.rc h ans := by
    rw [scaleRegBus_eq, sdePowerRscUpdate, rscClient_regBusUpdate, PowerStep.rc, created]
    show (if (updateDataBuses h true ans.dataBus BusId.all).1.rscClient then _ else _) = _
    rw [kept.2.2]
  have inOrder : PowerStep.all.find? (fun step => step.rc h ans ≠ 0) =
      ((BusId.all.find? fun b => (PowerStep.dataBus b).rc h ans ≠ 0).map PowerStep.dataBus).or
        ([.vreg, .regBus, .rsc, .clk].find? fun step => PowerStep.rc h ans step ≠ 0) := by
    rw [PowerStep.all, List.find?_append, List.find?_map]
    rfl
  have vreg : ans.vreg = PowerStep.vreg.rc h ans := rfl
  have clk : ans.clk = PowerStep.clk.rc h ans := rfl
  simp only [powerUp, buses, scaled, rsc, inOrder, vreg, clk]
  -- either a data bus ends the call, or the four steps behind them decide
  cases found : BusId.all.find? fun b => (PowerStep.dataBus b).rc h ans ≠ 0 with
  | some b =>
    have refused : (PowerStep.dataBus b).rc h ans ≠ 0 := by simpa using List.find?_some found
    simp [refused]
  | none =>
    simp only [Option.map_none, Option.getD_none, ne_eq, not_true, if_false, Option.none_or,
      List.find?_cons, List.find?_nil]
    split
    · simp_all
    · split
      · simp_all
      · split
        · simp_all
        · split <;> simp_all

def PowerHandle.begun (h : PowerHandle) (c : ClientId) (ans : Answers) : PowerHandle :=
  let called := h.setClient c ((h.client c).count true)
  sdePowerRscClientInit (called.setCurrent called.maxUsecaseNdx) ans.rscClient

theorem begun_eq (h : PowerHandle) (c : ClientId) (ans : Answers) :
    h.begun c ans =
      { h.setClient c ((h.client c).count true) with
        currentUsecaseNdx := (h.setClient c ((h.client c).count true)).maxUsecaseNdx
        rscClient := h.rscClientOf ans
        rscClientInit := true } := by
  cases init : h.rscClientInit <;>
    simp [PowerHandle.begun, sdePowerRscClientInit, PowerHandle.rscClientOf,
      PowerHandle.setCurrent, PowerHandle.setClient, init]

theorem rc_begun (h : PowerHandle) (c : ClientId) (ans : Answers) (step : PowerStep) :
    step.rc (h.begun c ans) ans = step.rc h ans := by
  rw [begun_eq]
  cases step with
  | rsc =>
    simp only [PowerStep.rc, PowerHandle.rscClientOf, sdePowerRscClientInit, if_true]
    rfl
  | _ => rfl

theorem resourceEnable_eq (h : PowerHandle) (c : ClientId) (ans : Answers) :
    sdePowerResourceEnable h c true ans =
      if h.turnsOn c then
        powerUp (h.begun c ans) c (h.setClient c ((h.client c).count true)).maxUsecaseNdx
          h.currentUsecaseNdx ans
      else (h.setClient c ((h.client c).count true), 0) := rfl

theorem resourceEnable_rc (h : PowerHandle) (c : ClientId) (ans : Answers) :
    (sdePowerResourceEnable h c true ans).2 =
      ((failedStep h c ans).map (·.rc h ans)).getD 0 := by
  have created : (h.begun c ans).rscClientOf ans = (h.begun c ans).rscClient := by
    rw [begun_eq]
    rfl
  rw [resourceEnable_eq, failedStep]
  split
  · rw [powerUp_rc created]
    simp only [rc_begun]
  · rfl

theorem failed_iff (h : PowerHandle) (c : ClientId) (ans : Answers) :
    (sdePowerResourceEnable h c true ans).2 ≠ 0 ↔ failedStep h c ans ≠ none := by
  rw [resourceEnable_rc]
  cases failed : failedStep h c ans with
  | none => simp
  | some step =>
    have refused : step.rc h ans ≠ 0 := by
      rw [failedStep] at failed
      split at failed
      · simpa using List.find?_some failed
      · cases failed
    simp [refused]

/-! ## The trace -/

structure NoTrace (c : ClientId) (h h' : PowerHandle) (rsc rsc' : Rsc.RscState) : Prop where
  refcount : (h'.client c).refcount = (h.client c).refcount
  vote : (h'.client c).usecaseNdx = (h.client c).usecaseNdx
  current : h'.currentUsecaseNdx = h.currentUsecaseNdx
  dataBuses : ∀ b, (h'.dataBusHandle b).enable = (h.dataBusHandle b).enable
  regBus : h'.regBusVote = h.regBusVote
  vregs : h'.vregs = h.vregs
  rscClient : h'.rscClient = h.rscClient
  rscState : rsc' = rsc

def FailsWithoutTrace (h : PowerHandle) (c : ClientId) (ans : Answers) (rsc : Rsc.RscState) :
    Prop :=
  (sdePowerResourceEnable h c true ans).2 ≠ 0 →
    NoTrace c h (sdePowerResourceEnable h c true ans).1 rsc (rscStateAfter h c ans rsc)

theorem refcount_resourceEnable (h : PowerHandle) (c : ClientId) (ans : Answers) :
    ((sdePowerResourceEnable h c true ans).1.client c).refcount = (h.client c).refcount + 1 := by
  rw [(keeps_resourceEnable c h true ans).refcount c, PowerHandle.setClient_same]
  rfl

/-- No failing power-up is without a trace: only those of which no step fails meet the rule. -/
theorem fails_without_trace_iff (h : PowerHandle) (c : ClientId) (ans : Answers)
    (rsc : Rsc.RscState) :
    FailsWithoutTrace h c ans rsc ↔ failedStep h c ans = none := by
  rw [FailsWithoutTrace, failed_iff]
  constructor
  · intro traceless
    -- the reference alone tells
    by_contra failed
    have same := (traceless failed).refcount
    rw [refcount_resourceEnable] at same
    simp at same
  · exact fun granted failed => absurd granted failed

/-- One client of a handle without buses, whose clocks do not come on: its reference stays
    counted. -/
theorem clock_failure_keeps_reference :
    ¬∀ (h : PowerHandle) (c : ClientId) (ans : Answers) (rsc : Rsc.RscState),
      FailsWithoutTrace h c ans rsc := by
  intro every
  let h := sdePowerClientCreate (sdePowerResourceInit 0 fun _ => bareBus)
  let ans : Answers :=
    { rscClient := true, dataBus := fun _ => 0, vreg := 0, regBus := 0, rsc := 0, clk := -5 }
  have failed : (sdePowerResourceEnable h 0 true ans).2 ≠ 0 := by decide
  have kept := (every h 0 ans .idle failed).refcount
  rw [refcount_resourceEnable] at kept
  simp at kept

end DisplayDrivers.Power
