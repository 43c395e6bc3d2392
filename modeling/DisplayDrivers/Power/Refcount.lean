import DisplayDrivers.Lib.Run
import DisplayDrivers.Power.Handle

/-! # The power resource and the reference counts of its clients

`sde_power_resource_enable` decides by the votes of the clients, not by their reference counts, and
`sde_power_scale_reg_bus` lets a client that holds a reference vote for anything.
-/

namespace DisplayDrivers.Power

open DisplayDrivers.Lib.Run

/-! ## Votes -/

def PowerClient.Votes (p : PowerClient) : Prop := p.usecaseNdx.toInt < 4 ∧ p.usecaseNdx ≠ 0

instance (p : PowerClient) : Decidable p.Votes :=
  inferInstanceAs (Decidable (p.usecaseNdx.toInt < 4 ∧ p.usecaseNdx ≠ 0))

def PowerClient.Holds (p : PowerClient) : Prop := 0 < p.refcount.toInt

instance (p : PowerClient) : Decidable p.Holds := inferInstanceAs (Decidable (0 < p.refcount.toInt))

theorem signExtend_eq_zero {u : Short} : u.signExtend 32 = 0 ↔ u = 0 := by
  constructor
  · intro zero
    have ints := congrArg BitVec.toInt zero
    rw [BitVec.toInt_signExtend_of_le (by omega)] at ints
    exact BitVec.eq_of_toInt_eq ints
  · rintro rfl
    rfl

theorem higherVote_eq_zero (found : U32) (u : Short) :
    (if u.toInt < VOTE_INDEX_MAX.toInt ∧ found < u.signExtend 32 then u.signExtend 32 else found)
      = 0 ↔ found = 0 ∧ ¬(u.toInt < 4 ∧ u ≠ 0) := by
  have max : VOTE_INDEX_MAX.toInt = 4 := rfl
  rw [max]
  by_cases higher : u.toInt < 4 ∧ found < u.signExtend 32
  · rw [if_pos higher, signExtend_eq_zero]
    have nonzero : u ≠ 0 := by
      rintro rfl
      have := higher.2
      simp at this
    exact ⟨fun zero => absurd zero nonzero, fun h => absurd ⟨higher.1, nonzero⟩ h.2⟩
  · rw [if_neg higher]
    constructor
    · rintro rfl
      refine ⟨rfl, fun votes => higher ⟨votes.1, ?_⟩⟩
      have : u.signExtend 32 ≠ 0 := fun zero => votes.2 (signExtend_eq_zero.mp zero)
      bv_omega
    · exact fun h => h.1

theorem maxUsecaseNdx_eq_zero (h : PowerHandle) :
    h.maxUsecaseNdx = VOTE_INDEX_DISABLE ↔ ∀ c ∈ h.powerClientClist, ¬ (h.client c).Votes := by
  suffices loop : ∀ (clients : List ClientId) (start : U32),
      clients.foldl (fun found c =>
        let ndx := (h.client c).usecaseNdx
        if ndx.toInt < VOTE_INDEX_MAX.toInt ∧ found < ndx.signExtend 32 then ndx.signExtend 32
        else found) start = 0 ↔ start = 0 ∧ ∀ c ∈ clients, ¬ (h.client c).Votes by
    rw [PowerHandle.maxUsecaseNdx, VOTE_INDEX_DISABLE, loop]
    simp
  intro clients
  induction clients with
  | nil => simp
  | cons c rest ih =>
    intro start
    rw [List.foldl_cons, ih, higherVote_eq_zero]
    simp [PowerClient.Votes, and_assoc]

theorem resourceChanged_iff (current max : U32) :
    resourceChanged current max = true ↔
    ¬(current = VOTE_INDEX_DISABLE ↔ max = VOTE_INDEX_DISABLE) := by
  simp only [resourceChanged, Bool.or_eq_true, Bool.and_eq_true, decide_eq_true_eq]
  simp only [VOTE_INDEX_LOW, VOTE_INDEX_DISABLE]
  constructor
  · rintro (⟨low, rfl⟩ | ⟨rfl, low⟩)
    · intro same
      have off := same.mpr rfl
      bv_omega
    · intro same
      have off := same.mp rfl
      bv_omega
  · intro differ
    by_cases off : current = 0
    · refine Or.inr ⟨off, ?_⟩
      have : max ≠ 0 := fun zero => differ ⟨fun _ => zero, fun _ => off⟩
      bv_omega
    · refine Or.inl ⟨by bv_omega, ?_⟩
      by_contra on
      exact differ ⟨fun h => absurd h off, fun h => absurd h on⟩

/-! ## The condition of the resource -/

def PowerHandle.power (h : PowerHandle) : U32 × Int × Int := (h.currentUsecaseNdx, h.vregs, h.clks)

def PowerHandle.Held (h : PowerHandle) : Prop := ∃ c ∈ h.powerClientClist, (h.client c).Holds

structure Follows (h : PowerHandle) : Prop where
  on_iff : sdePowerResourceIsEnabled h = true ↔ h.Held
  vregs : h.vregs = if sdePowerResourceIsEnabled h then 1 else 0
  clks : h.clks = if sdePowerResourceIsEnabled h then 1 else 0

def DataBusHandle.CanVote (bus : DataBusHandle) : Prop :=
  bus.dataBusHdl ≠ 0 →
    bus.hasScaleTable = true ∧ bus.dataPathsCnt ≠ 0 ∧ bus.dataPathsCnt ≤ MAX_AXI_PORT_COUNT

def Granted : Call → Prop
  | .enable _ _ ans =>
    (∀ b, ans.dataBus b = 0) ∧ ans.vreg = 0 ∧ ans.regBus = 0 ∧ ans.rsc = 0 ∧ ans.clk = 0
  | .scaleRegBus _ _ answer => answer = 0
  | _ => True

def LeavesVote (h : PowerHandle) : Call → Prop
  | .enable c true _ => (h.client c).refcount ≠ 32767
  | .enable c false _ =>
    (h.client c).refcount.toInt ≤ 1 →
      (∃ d ∈ h.powerClientClist, d ≠ c ∧ (h.client d).Holds) →
      ∃ d ∈ h.powerClientClist, d ≠ c ∧ (h.client d).Votes
  | _ => True

structure Sound (h : PowerHandle) : Prop where
  follows : Follows h
  nonneg : ∀ c ∈ h.powerClientClist, 0 ≤ (h.client c).refcount.toInt
  silent : ∀ c ∈ h.powerClientClist, (h.client c).refcount = 0 → (h.client c).usecaseNdx = 0
  ids : ∀ c ∈ h.powerClientClist, c < h.nextId
  canVote : ∀ b, (h.dataBusHandle b).CanVote

/-! ## What the power sequences do when everything is granted -/

section

variable (h : PowerHandle)

@[simp] theorem power_setDataBus (b : BusId) (bus : DataBusHandle) :
    (h.setDataBus b bus).power = h.power := rfl

@[simp] theorem power_setClient (c : ClientId) (p : PowerClient) :
    (h.setClient c p).power = h.power := rfl

@[simp] theorem power_regBusUpdate (usecaseNdx : U32) (answer : Int) :
    (sdePowerRegBusUpdate h usecaseNdx answer).1.power = h.power := by
  simp only [sdePowerRegBusUpdate]
  split
  · split <;> rfl
  · rfl

@[simp] theorem power_scaleRegBus (c : ClientId) (usecaseNdx : U32) (skipLock : Bool)
    (answer : Int) : (sdePowerScaleRegBus h c usecaseNdx skipLock answer).1.power = h.power := by
  simp only [sdePowerScaleRegBus]
  split
  · rfl
  · rw [power_regBusUpdate, power_setClient]

@[simp] theorem power_updateDataBuses (enable : Bool) (answer : BusId → Int)
    (buses : List BusId) : (updateDataBuses h enable answer buses).1.power = h.power := by
  induction buses generalizing h with
  | nil => rfl
  | cons b rest ih =>
    simp only [updateDataBuses]
    split
    · rfl
    · rw [ih, power_setDataBus]

@[simp] theorem power_dropDataBuses (answer : BusId → Int) :
    (dropDataBuses h answer).power = h.power := rfl

@[simp] theorem power_rscClientInit (created : Bool) :
    (sdePowerRscClientInit h created).power = h.power := by
  simp only [sdePowerRscClientInit]
  split <;> rfl

@[simp] theorem power_setCurrent (usecaseNdx : U32) :
    (h.setCurrent usecaseNdx).power = (usecaseNdx, h.power.2) := rfl

@[simp] theorem power_enableVreg (enable : Bool) : (h.enableVreg enable).power =
    (h.power.1, if enable then h.power.2.1 + 1 else h.power.2.1 - 1, h.power.2.2) := rfl

@[simp] theorem power_enableClk (enable : Bool) : (h.enableClk enable).power =
    (h.power.1, h.power.2.1, if enable then h.power.2.2 + 1 else h.power.2.2 - 1) := rfl

end

theorem DataBusHandle.CanVote.of_wiring {bus bus' : DataBusHandle} (can : bus.CanVote)
    (same : bus'.wiring = bus.wiring) : bus'.CanVote := by
  simp only [DataBusHandle.wiring, Prod.mk.injEq] at same
  simpa only [DataBusHandle.CanVote, same] using can

theorem DataBusHandle.update_granted {bus : DataBusHandle} (can : bus.CanVote) (enable : Bool) :
    (bus.update enable 0).2 = 0 := by
  simp only [DataBusHandle.update]
  split
  · rename_i registered
    obtain ⟨table, some, few⟩ := can registered
    have atLeastOne : ¬ bus.dataBusHdl < 1 := fun zero => registered (by bv_omega)
    have notMany : ¬ MAX_AXI_PORT_COUNT < bus.dataPathsCnt := by
      simpa only [BitVec.not_lt] using few
    simp only [DataBusHandle.setQuota, if_neg atLeastOne]
    split
    · rfl
    · rw [if_neg (by simpa [table, notMany] using some)]
  · rfl

theorem updateDataBuses_granted {h : PowerHandle} (can : ∀ b, (h.dataBusHandle b).CanVote)
    (enable : Bool) {answer : BusId → Int} (granted : ∀ b, answer b = 0) (buses : List BusId) :
    (updateDataBuses h enable answer buses).2 = 0 := by
  induction buses generalizing h with
  | nil => rfl
  | cons b rest ih =>
    have voted := DataBusHandle.update_granted (can b) enable
    simp only [updateDataBuses, granted b, voted, ne_eq, not_true, if_false]
    apply ih
    intro b'
    exact (can b').of_wiring ((keeps_setDataBus 0 h b (by simp)).wiring b')

theorem scaleRegBus_granted (h : PowerHandle) (c : ClientId) (usecaseNdx : U32) :
    (sdePowerScaleRegBus h c usecaseNdx true 0).2 = 0 := by
  simp only [sdePowerScaleRegBus, sdePowerRegBusUpdate]
  simp
  split <;> rfl

theorem rscUpdate_granted (h : PowerHandle) : sdePowerRscUpdate h 0 = 0 := by
  simp [sdePowerRscUpdate]

variable {c : ClientId} {ans : Answers}

theorem powerUp_granted {h : PowerHandle} (can : ∀ b, (h.dataBusHandle b).CanVote)
    {on : Bool} (granted : Granted (.enable c on ans)) (max prev : U32) :
    (powerUp h c max prev ans).1.power = (h.power.1, h.power.2.1 + 1, h.power.2.2 + 1) := by
  obtain ⟨buses, vreg, regBus, rsc, clk⟩ := granted
  simp only [powerUp, updateDataBuses_granted can true buses, vreg, regBus, rsc, clk,
    scaleRegBus_granted, rscUpdate_granted, ne_eq, not_true, if_false, power_enableClk,
    power_scaleRegBus, power_enableVreg, power_updateDataBuses]
  rfl

theorem powerDown_power (h : PowerHandle) (c : ClientId) (max : U32) (ans : Answers) :
    (powerDown h c max ans).power = (h.power.1, h.power.2.1 - 1, h.power.2.2 - 1) := by
  simp only [powerDown, power_dropDataBuses, power_enableVreg, power_scaleRegBus, power_enableClk]
  rfl

theorem powerDown_usecase (h : PowerHandle) (c : ClientId) (max : U32) (ans : Answers) :
    ((powerDown h c max ans).client c).usecaseNdx = max.setWidth 16 := by
  have dropped : ∀ (h : PowerHandle) answer, (dropDataBuses h answer).client = h.client :=
    fun _ _ => rfl
  have voted : ∀ (h : PowerHandle) ndx answer, (sdePowerRegBusUpdate h ndx answer).1.client =
      h.client := by
    intro h ndx answer
    simp only [sdePowerRegBusUpdate]
    split
    · split <;> rfl
    · rfl
  simp [powerDown, dropped, PowerHandle.enableVreg, sdePowerScaleRegBus, voted]

/-! ## The reference count -/

variable {p : PowerClient}

theorem count_up (nonneg : 0 ≤ p.refcount.toInt) (room : p.refcount ≠ 32767) :
    (p.count true).Holds ∧ (p.count true).Votes ∧ (p.count true).refcount ≠ 0 := by
  have below : p.refcount.toInt ≠ 32767 := fun full =>
    room (BitVec.eq_of_toInt_eq (by rw [full]; rfl))
  have more : (p.refcount + 1).toInt = p.refcount.toInt + 1 := by
    rw [BitVec.toInt_add]
    have := BitVec.toInt_lt (x := p.refcount)
    simp [Int.bmod_def]
    omega
  have positive : 0 < (p.count true).refcount.toInt := by
    simp only [PowerClient.count, if_true, more]
    omega
  have nonzero : (p.count true).refcount ≠ 0 := by
    intro zero
    simp [zero] at positive
  have voting : (p.count true).usecaseNdx = 1 := by
    simp only [PowerClient.count, if_true] at nonzero ⊢
    rw [if_pos nonzero]
    rfl
  refine ⟨positive, ?_, nonzero⟩
  rw [PowerClient.Votes, voting]
  decide

theorem count_down_more (many : 1 < p.refcount.toInt) :
    (p.count false).Holds ∧ (p.count false).Votes := by
  have some : p.refcount ≠ 0 := by
    intro zero
    simp [zero] at many
  have less : (p.refcount - 1).toInt = p.refcount.toInt - 1 := by
    rw [BitVec.toInt_sub]
    have := BitVec.toInt_lt (x := p.refcount)
    simp [Int.bmod_def]
    omega
  have nonzero : p.refcount - 1 ≠ 0 := by
    intro zero
    rw [zero] at less
    simp at less
    omega
  constructor
  · simp only [PowerClient.Holds, PowerClient.count, Bool.false_eq_true, if_false,
      if_pos some, less]
    omega
  · simp only [PowerClient.Votes, PowerClient.count, Bool.false_eq_true, if_false, if_pos some,
      if_pos nonzero]
    decide

theorem count_down_last (nonneg : 0 ≤ p.refcount.toInt) (last : p.refcount.toInt ≤ 1) :
    (p.count false).refcount = 0 ∧ (p.count false).usecaseNdx = 0 := by
  have none : (p.count false).refcount = 0 := by
    simp only [PowerClient.count, Bool.false_eq_true, if_false]
    split
    · rename_i some
      have one : p.refcount.toInt = 1 := by
        have : p.refcount.toInt ≠ 0 := fun zero => some (BitVec.eq_of_toInt_eq zero)
        omega
      rw [BitVec.eq_of_toInt_eq (y := 1) one]
      rfl
    · rename_i zero
      simpa using zero
  refine ⟨none, ?_⟩
  simp only [PowerClient.count] at none ⊢
  rw [if_neg (by simpa using none)]
  rfl

/-! ## One call -/

theorem Keeps.held {h h' : PowerHandle} (keeps : Keeps c h h') : h'.Held ↔ h.Held := by
  simp only [PowerHandle.Held, PowerClient.Holds, keeps.clist, keeps.refcount]

theorem exists_setClient {h : PowerHandle} (member : c ∈ h.powerClientClist)
    (p : PowerClient) (P : PowerClient → Prop) :
    (∃ d ∈ h.powerClientClist, P ((h.setClient c p).client d)) ↔
      P p ∨ ∃ d ∈ h.powerClientClist, d ≠ c ∧ P (h.client d) := by
  constructor
  · rintro ⟨d, listed, has⟩
    by_cases same : d = c
    · subst same
      exact Or.inl (by simpa using has)
    · rw [h.setClient_other p same] at has
      exact Or.inr ⟨d, listed, same, has⟩
  · rintro (has | ⟨d, listed, ne, has⟩)
    · exact ⟨c, member, by simpa using has⟩
    · exact ⟨d, listed, by rwa [h.setClient_other p ne]⟩

theorem max_setClient {h : PowerHandle} (member : c ∈ h.powerClientClist) (p : PowerClient) :
    (h.setClient c p).maxUsecaseNdx ≠ VOTE_INDEX_DISABLE ↔
      p.Votes ∨ ∃ d ∈ h.powerClientClist, d ≠ c ∧ (h.client d).Votes := by
  rw [ne_eq, maxUsecaseNdx_eq_zero, ← exists_setClient member p PowerClient.Votes]
  simp [PowerHandle.setClient]

theorem on_iff_current (h : PowerHandle) :
    sdePowerResourceIsEnabled h = true ↔ h.power.1 ≠ VOTE_INDEX_DISABLE := by
  simp [sdePowerResourceIsEnabled, PowerHandle.power]

theorem follows_of_power {h : PowerHandle} (on_iff : h.power.1 ≠ VOTE_INDEX_DISABLE ↔ h.Held)
    (counts : h.power.2 = if h.power.1 ≠ VOTE_INDEX_DISABLE then (1, 1) else (0, 0)) :
    Follows h := by
  have on := on_iff_current h
  refine ⟨on.trans on_iff, ?_, ?_⟩
  · have := congrArg Prod.fst counts
    by_cases enabled : h.power.1 ≠ VOTE_INDEX_DISABLE
    · simp_all [PowerHandle.power]
    · simp_all [PowerHandle.power]
  · have := congrArg Prod.snd counts
    by_cases enabled : h.power.1 ≠ VOTE_INDEX_DISABLE
    · simp_all [PowerHandle.power]
    · simp_all [PowerHandle.power]

theorem Follows.counts {h : PowerHandle} (follows : Follows h) :
    h.power.2 = if h.power.1 ≠ VOTE_INDEX_DISABLE then (1, 1) else (0, 0) := by
  have on := on_iff_current h
  show (h.vregs, h.clks) = _
  rw [follows.vregs, follows.clks]
  by_cases enabled : h.power.1 ≠ VOTE_INDEX_DISABLE
  · simp [on.mpr enabled, if_pos enabled]
  · have off : sdePowerResourceIsEnabled h = false := by
      simpa using fun e => enabled (on.mp e)
    simp [off, if_neg enabled]

theorem Follows.current {h : PowerHandle} (follows : Follows h) :
    h.power.1 ≠ VOTE_INDEX_DISABLE ↔ h.Held := (on_iff_current h).symm.trans follows.on_iff

theorem Sound.after {h h' : PowerHandle} (sound : Sound h)
    (keeps : Keeps c (h.setClient c p) h') (nonneg : 0 ≤ p.refcount.toInt)
    (silent : p.refcount = 0 → (h'.client c).usecaseNdx = 0) (follows : Follows h') :
    Sound h' where
  follows := follows
  nonneg d listed := by
    rw [keeps.clist] at listed
    rw [keeps.refcount]
    by_cases same : d = c
    · subst same; simpa using nonneg
    · rw [h.setClient_other p same]; exact sound.nonneg d listed
  silent d listed zero := by
    rw [keeps.clist] at listed
    rw [keeps.refcount] at zero
    by_cases same : d = c
    · subst same; exact silent (by simpa using zero)
    · rw [h.setClient_other p same] at zero
      rw [keeps.others d same, h.setClient_other p same]
      exact sound.silent d listed zero
  ids d listed := by
    rw [keeps.clist] at listed
    rw [keeps.nextId]
    exact sound.ids d listed
  canVote b := (sound.canVote b).of_wiring (keeps.wiring b)

theorem resourceEnable_unchanged {h : PowerHandle} {enable : Bool}
    (same : h.currentUsecaseNdx = VOTE_INDEX_DISABLE ↔
      (h.setClient c ((h.client c).count enable)).maxUsecaseNdx = VOTE_INDEX_DISABLE)
    (ans : Answers) :
    (sdePowerResourceEnable h c enable ans).1 = h.setClient c ((h.client c).count enable) := by
  have unchanged := fun changed => (resourceChanged_iff _ _).mp changed same
  simp only [sdePowerResourceEnable]
  rw [if_neg (by exact unchanged)]

theorem resourceEnable_up {h : PowerHandle}
    (can : ∀ b, (h.dataBusHandle b).CanVote) (granted : Granted (.enable c true ans))
    (off : h.currentUsecaseNdx = VOTE_INDEX_DISABLE)
    (voted : (h.setClient c ((h.client c).count true)).maxUsecaseNdx ≠ VOTE_INDEX_DISABLE) :
    (sdePowerResourceEnable h c true ans).1.power =
      ((h.setClient c ((h.client c).count true)).maxUsecaseNdx, h.power.2.1 + 1,
        h.power.2.2 + 1) := by
  generalize headEq : h.setClient c ((h.client c).count true) = head at voted
  have current : head.currentUsecaseNdx = h.currentUsecaseNdx := by rw [← headEq]; rfl
  have power : head.power = h.power := by rw [← headEq, power_setClient]
  have changed := (resourceChanged_iff head.currentUsecaseNdx head.maxUsecaseNdx).mpr
    (by simp [current, off, voted])
  have begun := keeps_rscClientInit c (head.setCurrent head.maxUsecaseNdx) ans.rscClient
  have canVote : ∀ b, ((sdePowerRscClientInit (head.setCurrent head.maxUsecaseNdx)
      ans.rscClient).dataBusHandle b).CanVote := fun b =>
    (can b).of_wiring ((begun.wiring b).trans (by rw [← headEq]; rfl))
  simp only [sdePowerResourceEnable, headEq, changed, if_true, powerUp_granted canVote granted,
    power_rscClientInit, power_setCurrent, power]

theorem resourceEnable_down {h : PowerHandle} (ans : Answers)
    (on : h.currentUsecaseNdx ≠ VOTE_INDEX_DISABLE)
    (unvoted : (h.setClient c ((h.client c).count false)).maxUsecaseNdx = VOTE_INDEX_DISABLE) :
    (sdePowerResourceEnable h c false ans).1.power =
      (VOTE_INDEX_DISABLE, h.power.2.1 - 1, h.power.2.2 - 1) := by
  generalize headEq : h.setClient c ((h.client c).count false) = head at unvoted
  have current : head.currentUsecaseNdx = h.currentUsecaseNdx := by rw [← headEq]; rfl
  have power : head.power = h.power := by rw [← headEq, power_setClient]
  have changed := (resourceChanged_iff head.currentUsecaseNdx head.maxUsecaseNdx).mpr
    (by simp [current, on, unvoted])
  simp only [sdePowerResourceEnable, headEq, changed, if_true, Bool.false_eq_true, if_false,
    powerDown_power, power_rscClientInit, power_setCurrent, power]
  rw [unvoted]

theorem resourceEnable_silent {h : PowerHandle} (silent : ((h.client c).count false).usecaseNdx = 0)
    (noRise : h.currentUsecaseNdx = VOTE_INDEX_DISABLE →
      (h.setClient c ((h.client c).count false)).maxUsecaseNdx = VOTE_INDEX_DISABLE) :
    ((sdePowerResourceEnable h c false ans).1.client c).usecaseNdx = 0 := by
  simp only [sdePowerResourceEnable]
  split
  · rename_i changed
    have unvoted : (h.setClient c ((h.client c).count false)).maxUsecaseNdx =
        VOTE_INDEX_DISABLE := by
      by_contra voted
      exact (resourceChanged_iff _ _).mp changed ⟨noRise, fun off => absurd off voted⟩
    simp only [Bool.false_eq_true, if_false, powerDown_usecase, unvoted]
    rfl
  · simpa using silent

theorem sound_up {h : PowerHandle} (sound : Sound h)
    (member : c ∈ h.powerClientClist) (granted : Granted (.enable c true ans))
    (room : (h.client c).refcount ≠ 32767) : Sound (sdePowerResourceEnable h c true ans).1 := by
  obtain ⟨holds, votes, nonzero⟩ := count_up (sound.nonneg c member) room
  have keeps := keeps_resourceEnable c h true ans
  have voted := (max_setClient member ((h.client c).count true)).mpr (Or.inl votes)
  have held : (h.setClient c ((h.client c).count true)).Held :=
    (exists_setClient member _ PowerClient.Holds).mpr (Or.inl holds)
  apply sound.after keeps (Int.le_of_lt holds) (fun zero => absurd zero nonzero)
  by_cases on : h.currentUsecaseNdx = VOTE_INDEX_DISABLE
  · -- the first vote: supplies and clocks were off
    have counts := sound.follows.counts
    rw [if_neg (by simpa [PowerHandle.power] using on)] at counts
    have power := resourceEnable_up sound.canVote granted on voted
    apply follows_of_power
    · rw [power, keeps.held]
      exact iff_of_true voted held
    · rw [power, if_pos voted, counts]
      rfl
  · rw [resourceEnable_unchanged (iff_of_false on voted) ans]
    exact follows_of_power (iff_of_true on held) sound.follows.counts

theorem sound_down_more {h : PowerHandle} (sound : Sound h)
    (member : c ∈ h.powerClientClist) (ans : Answers) (many : 1 < (h.client c).refcount.toInt) :
    Sound (sdePowerResourceEnable h c false ans).1 := by
  obtain ⟨holds, votes⟩ := count_down_more many
  have nonzero : ((h.client c).count false).refcount ≠ 0 := by
    intro zero
    simp [PowerClient.Holds, zero] at holds
  have voted := (max_setClient member ((h.client c).count false)).mpr (Or.inl votes)
  have held : (h.setClient c ((h.client c).count false)).Held :=
    (exists_setClient member _ PowerClient.Holds).mpr (Or.inl holds)
  have on : h.power.1 ≠ VOTE_INDEX_DISABLE :=
    sound.follows.current.mpr ⟨c, member, by simp only [PowerClient.Holds]; omega⟩
  apply sound.after (keeps_resourceEnable c h false ans) (Int.le_of_lt holds) fun zero =>
    absurd zero nonzero
  rw [resourceEnable_unchanged (iff_of_false on voted) ans]
  exact follows_of_power (iff_of_true on held) sound.follows.counts

theorem Sound.holds {h : PowerHandle} (sound : Sound h) {d : ClientId}
    (listed : d ∈ h.powerClientClist) (votes : (h.client d).Votes) : (h.client d).Holds := by
  have counted : (h.client d).refcount ≠ 0 := fun zero => votes.2 (sound.silent d listed zero)
  have nonneg := sound.nonneg d listed
  have nonzero : (h.client d).refcount.toInt ≠ 0 := fun zero =>
    counted (BitVec.eq_of_toInt_eq zero)
  simp only [PowerClient.Holds]
  omega

theorem sound_down {h : PowerHandle} (sound : Sound h) (member : c ∈ h.powerClientClist)
    (leaves : LeavesVote h (.enable c false ans)) :
    Sound (sdePowerResourceEnable h c false ans).1 := by
  by_cases many : 1 < (h.client c).refcount.toInt
  · exact sound_down_more sound member ans many
  have keeps := keeps_resourceEnable c h false ans
  obtain ⟨none, silent⟩ := count_down_last (sound.nonneg c member) (by omega)
  have gone : ¬ ((h.client c).count false).Holds := by simp [PowerClient.Holds, none]
  have mute : ¬ ((h.client c).count false).Votes := fun votes => votes.2 silent
  have voted := max_setClient member ((h.client c).count false)
  have held := exists_setClient member ((h.client c).count false) PowerClient.Holds
  rw [or_iff_right mute] at voted
  rw [or_iff_right gone] at held
  by_cases others : ∃ d ∈ h.powerClientClist, d ≠ c ∧ (h.client d).Votes
  · -- another client votes, so it holds a reference
    obtain ⟨d, listed, ne, votes⟩ := others
    have holds := sound.holds listed votes
    have on : h.power.1 ≠ VOTE_INDEX_DISABLE := sound.follows.current.mpr ⟨d, listed, holds⟩
    apply sound.after keeps (by simp [none]) fun _ =>
      resourceEnable_silent silent fun off => absurd off on
    rw [resourceEnable_unchanged (iff_of_false on (voted.mpr ⟨d, listed, ne, votes⟩)) ans]
    exact follows_of_power (iff_of_true on (held.mpr ⟨d, listed, ne, holds⟩))
      sound.follows.counts
  · -- no vote is left, so by the condition no reference is
    have unvoted : (h.setClient c ((h.client c).count false)).maxUsecaseNdx =
        VOTE_INDEX_DISABLE := by
      by_contra some
      exact others (voted.mp some)
    have unheld : ¬ (h.setClient c ((h.client c).count false)).Held := fun some =>
      others (leaves (by omega) (held.mp some))
    apply sound.after keeps (by simp [none]) fun _ =>
      resourceEnable_silent silent fun _ => unvoted
    by_cases on : h.currentUsecaseNdx = VOTE_INDEX_DISABLE
    · rw [resourceEnable_unchanged (iff_of_true on unvoted) ans]
      exact follows_of_power (iff_of_false (not_not.mpr on) unheld) sound.follows.counts
    · have counts := sound.follows.counts
      rw [if_pos (by simpa [PowerHandle.power] using on)] at counts
      have power := resourceEnable_down ans on unvoted
      apply follows_of_power
      · rw [power, keeps.held]
        exact iff_of_false (by simp) unheld
      · rw [power, counts]
        rfl

theorem Sound.of_keeps {h h' : PowerHandle} (sound : Sound h)
    (keeps : Keeps c h h') (power : h'.power = h.power) (member : c ∈ h.powerClientClist)
    (silent : (h.client c).refcount = 0 → (h'.client c).usecaseNdx = 0) : Sound h' := by
  have self : h.setClient c (h.client c) = h := by simp [PowerHandle.setClient]
  have counts := sound.follows.counts
  apply sound.after (self.symm ▸ keeps) (sound.nonneg c member) silent
  apply follows_of_power
  · rw [power, keeps.held]
    exact sound.follows.current
  · rwa [power]

theorem mem_create {h : PowerHandle} :
    c ∈ (sdePowerClientCreate h).powerClientClist ↔ c = h.nextId ∨ c ∈ h.powerClientClist :=
  List.mem_cons

theorem sound_create {h : PowerHandle} (sound : Sound h) : Sound (sdePowerClientCreate h) := by
  have older : ∀ c ∈ h.powerClientClist, (sdePowerClientCreate h).client c = h.client c :=
    fun c listed => h.setClient_other _ (Nat.ne_of_lt (sound.ids c listed))
  have newer : (sdePowerClientCreate h).client h.nextId = .fresh := h.setClient_same _ _
  have held : (sdePowerClientCreate h).Held ↔ h.Held := by
    constructor
    · rintro ⟨c, listed, holds⟩
      rcases mem_create.mp listed with rfl | listed
      · rw [newer] at holds
        exact absurd holds (by decide)
      · exact ⟨c, listed, by rwa [older c listed] at holds⟩
    · rintro ⟨c, listed, holds⟩
      exact ⟨c, mem_create.mpr (Or.inr listed), by rwa [older c listed]⟩
  refine ⟨follows_of_power (sound.follows.current.trans held.symm) sound.follows.counts, ?_, ?_,
    ?_, sound.canVote⟩
  · intro c listed
    rcases mem_create.mp listed with rfl | listed
    · rw [newer]; decide
    · rw [older c listed]; exact sound.nonneg c listed
  · intro c listed zero
    rcases mem_create.mp listed with rfl | listed
    · rw [newer]; rfl
    · rw [older c listed] at zero ⊢; exact sound.silent c listed zero
  · intro c listed
    rcases mem_create.mp listed with rfl | listed
    · exact Nat.lt_succ_self _
    · exact Nat.lt_succ_of_lt (sound.ids c listed)

theorem sound_step {h : PowerHandle} (sound : Sound h) {call : Call} (granted : Granted call)
    (leaves : LeavesVote h call) : Sound (step h call) := by
  cases call with
  | create => exact sound_create sound
  | enable c on ans =>
    simp only [step]
    split
    · rename_i member
      cases on with
      | true => exact sound_up sound member granted leaves
      | false => exact sound_down sound member leaves
    · exact sound
  | scaleRegBus c usecaseNdx answer =>
    simp only [step]
    split
    · rename_i member
      apply sound.of_keeps (keeps_scaleRegBus c h usecaseNdx false answer)
        (power_scaleRegBus h c usecaseNdx false answer) member
      -- a client without a reference is turned away
      intro none
      simp [sdePowerScaleRegBus, none, sound.silent c member none]
    · exact sound
  | setQuota c k b ab ib answer =>
    simp only [step]
    split
    · rename_i member
      have voteless : ((sdePowerDataBusSetQuota h c k b ab ib answer).1.client c).usecaseNdx =
          (h.client c).usecaseNdx := by
        simp only [sdePowerDataBusSetQuota]
        split <;> simp [PowerHandle.setDataBus, PowerHandle.setSlot, PowerHandle.setClient]
      apply sound.of_keeps (keeps_setQuota c h k b ab ib answer) ?_ member
      · intro none
        rw [voteless, sound.silent c member none]
      · simp only [sdePowerDataBusSetQuota]
        split <;> rfl
    · exact sound

theorem sound_init (regBusHdl : U32) {buses : BusId → DataBusHandle}
    (can : ∀ b, (buses b).CanVote) : Sound (sdePowerResourceInit regBusHdl buses) where
  follows := by
    refine ⟨?_, rfl, rfl⟩
    simp [sdePowerResourceInit, sdePowerResourceIsEnabled, PowerHandle.Held]
  nonneg c listed := by simp [sdePowerResourceInit] at listed
  silent c listed := by simp [sdePowerResourceInit] at listed
  ids c listed := by simp [sdePowerResourceInit] at listed
  canVote := can

/-- The resource follows the clients after each call, in every run in which the hardware grants
    everything and no call takes the last vote away from under a reference. -/
theorem resource_follows_clients (regBusHdl : U32) {buses : BusId → DataBusHandle}
    (can : ∀ b, (buses b).CanVote) (calls : List Call)
    (meets : StepsMeet step (fun h call => Granted call ∧ LeavesVote h call)
      (sdePowerResourceInit regBusHdl buses) calls) :
    Throughout step Follows (sdePowerResourceInit regBusHdl buses) calls :=
  throughout_of_meets Sound (fun _ _ sound met => sound_step sound met.1 met.2)
    (fun _ sound => sound.follows) (sound_init regBusHdl can) meets

def grants : Answers :=
  { rscClient := true, dataBus := fun _ => 0, vreg := 0, regBus := 0, rsc := 0, clk := 0 }

instance (h : PowerHandle) : (call : Call) → Decidable (LeavesVote h call)
  | .enable c true _ => inferInstanceAs (Decidable ((h.client c).refcount ≠ 32767))
  | .enable c false _ =>
    inferInstanceAs (Decidable ((h.client c).refcount.toInt ≤ 1 →
      (∃ d ∈ h.powerClientClist, d ≠ c ∧ (h.client d).Holds) →
      ∃ d ∈ h.powerClientClist, d ≠ c ∧ (h.client d).Votes))
  | .create | .scaleRegBus .. | .setQuota .. => inferInstanceAs (Decidable True)

theorem resource_follows_clients_twoClients :
    Throughout step Follows (sdePowerResourceInit 0 fun _ => bareBus)
      [.create, .create, .enable 0 true grants, .scaleRegBus 0 3 0, .enable 1 true grants,
        .enable 1 false grants, .enable 0 false grants] := by
  apply resource_follows_clients 0 (fun _ registered => absurd rfl registered)
  simp only [stepsMeet_cons, stepsMeet_nil, and_true, Granted, grants, implies_true]
  decide

/-- A client drops its vote and keeps its reference: the next client to leave turns the resource
    off under it. -/
theorem resource_off_under_reference :
    ¬ Follows (run step (sdePowerResourceInit 0 fun _ => bareBus)
      [.create, .create, .enable 0 true grants, .scaleRegBus 0 0 0, .enable 1 true grants,
        .enable 1 false grants]) := by
  intro follows
  exact absurd (follows.on_iff.mpr ⟨0, by decide, by decide⟩) (by decide)

end DisplayDrivers.Power
