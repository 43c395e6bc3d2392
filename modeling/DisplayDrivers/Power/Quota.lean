import Mathlib.Algebra.BigOperators.Group.List.Basic
import Mathlib.Algebra.GroupWithZero.Nat
import DisplayDrivers.Lib.Run
import DisplayDrivers.Power.Handle

/-! # Bandwidth requests on the data buses

A client keeps one quota for each bus client, whichever bus it asked for last.
-/

namespace DisplayDrivers.Power

open DisplayDrivers.Lib.Run

/-! ## Sums of 64-bit quotas -/

theorem toNat_foldl_add {α : Type} (f : α → U64) (xs : List α) (start : U64) :
    (xs.foldl (fun total x => total + f x) start).toNat =
      (start.toNat + (xs.map fun x => (f x).toNat).sum) % 2 ^ 64 := by
  induction xs generalizing start with
  | nil => simpa using (Nat.mod_eq_of_lt start.isLt).symm
  | cons x rest ih =>
    rw [List.foldl_cons, ih, BitVec.toNat_add, List.map_cons, List.sum_cons, Nat.mod_add_mod,
      Nat.add_assoc]

theorem toNat_foldl_max {α : Type} (f : α → U64) (xs : List α) (start : U64) :
    (xs.foldl (fun top x => maxU64 top (f x)) start).toNat =
      (xs.map fun x => (f x).toNat).foldl max start.toNat := by
  induction xs generalizing start with
  | nil => rfl
  | cons x rest ih => rw [List.foldl_cons, ih, toNat_maxU64, List.map_cons, List.foldl_cons]

structure Aggregate where
  abRt : Nat
  abNrt : Nat
  ibRt : Nat
  ibNrt : Nat
deriving DecidableEq

/-- The aggregate of given quotas: `ab` and `ib` of each client for each bus client. -/
def aggregate (clients : List ClientId) (quota : ClientId → BusClient → U64 × U64) : Aggregate :=
  { abRt := (clients.map fun c => (quota c .rt).1.toNat).sum
    abNrt := (clients.map fun c => (quota c .nrt).1.toNat).sum
    ibRt := (clients.map fun c => (quota c .rt).2.toNat).foldl max 0
    ibNrt := (clients.map fun c => (quota c .nrt).2.toNat).sum }

def Aggregate.Fits (a : Aggregate) : Prop := a.abRt < 2 ^ 64 ∧ a.abNrt < 2 ^ 64 ∧ a.ibNrt < 2 ^ 64

instance (a : Aggregate) : Decidable a.Fits :=
  inferInstanceAs (Decidable (a.abRt < 2 ^ 64 ∧ a.abNrt < 2 ^ 64 ∧ a.ibNrt < 2 ^ 64))

def Quota.amounts (q : Quota) : Aggregate :=
  { abRt := q.abRt.toNat, abNrt := q.abNrt.toNat, ibRt := q.ibRt.toNat, ibNrt := q.ibNrt.toNat }

def PowerClient.slot (p : PowerClient) (k : BusClient) : U64 × U64 := (p.ab k, p.ib k)

theorem foldl_addClient (client : ClientId → PowerClient) (clients : List ClientId)
    (start : Quota) :
    clients.foldl (fun total c => total.addClient (client c)) start =
      { abRt := clients.foldl (fun t c => t + (client c).ab .rt) start.abRt
        abNrt := clients.foldl (fun t c => t + (client c).ab .nrt) start.abNrt
        ibRt := clients.foldl (fun t c => maxU64 t ((client c).ib .rt)) start.ibRt
        ibNrt := clients.foldl (fun t c => t + (client c).ib .nrt) start.ibNrt } := by
  induction clients generalizing start with
  | nil => rfl
  | cons c rest ih => rw [List.foldl_cons, ih]; rfl

variable (h : PowerHandle)

theorem totals_amounts (fits : (aggregate h.powerClientClist fun c => (h.client c).slot).Fits) :
    h.totals.amounts = aggregate h.powerClientClist fun c => (h.client c).slot := by
  obtain ⟨abRt, abNrt, ibNrt⟩ := fits
  simp only [aggregate, PowerClient.slot] at abRt abNrt ibNrt
  simp only [PowerHandle.totals, foldl_addClient, Quota.amounts, aggregate, PowerClient.slot,
    Quota.zero, toNat_foldl_add, toNat_foldl_max, BitVec.toNat_zero, Nat.zero_add,
    BitVec.ofNat_eq_ofNat]
  rw [Nat.mod_eq_of_lt abRt, Nat.mod_eq_of_lt abNrt, Nat.mod_eq_of_lt ibNrt]

/-! ## The ledger of requests -/

structure Ledger where
  handle : PowerHandle
  asked : ClientId → BusClient → BusId → U64 × U64

def Ledger.askedOn (l : Ledger) (b : BusId) : ClientId → BusClient → U64 × U64 :=
  fun c k => l.asked c k b

def record (asked : ClientId → BusClient → BusId → U64 × U64) (c : ClientId) (k : BusClient)
    (b : BusId) (quota : U64 × U64) : ClientId → BusClient → BusId → U64 × U64 :=
  fun c' k' b' => if c' = c ∧ k' = k ∧ b' = b then quota else asked c' k' b'

def Ledger.step (l : Ledger) (call : Call) : Ledger :=
  { handle := Power.step l.handle call
    asked := match call with
      | .setQuota c k b ab ib _ =>
        if c ∈ l.handle.powerClientClist then record l.asked c k b (ab, ib) else l.asked
      | _ => l.asked }

def Ledger.start (regBusHdl : U32) (buses : BusId → DataBusHandle) : Ledger :=
  { handle := sdePowerResourceInit regBusHdl buses, asked := fun _ _ _ => (0, 0) }

/-- The totals that bus `b` was handed last are the aggregate of what each client last asked for
    on that bus. -/
def Ledger.HandedAggregate (l : Ledger) (b : BusId) : Prop :=
  (l.handle.dataBusHandle b).quota.amounts =
    aggregate l.handle.powerClientClist (l.askedOn b)

/-- A request for bus `b` hands it the aggregate.  A bus that is not registered is handed
    nothing. -/
def HandsAggregate (l : Ledger) : Call → Prop
  | .setQuota c k b ab ib answer =>
    c ∈ l.handle.powerClientClist → (l.handle.dataBusHandle b).dataBusHdl ≠ 0 →
      (l.step (.setQuota c k b ab ib answer)).HandedAggregate b
  | _ => True

/-- Every quota other than the one being set is what its client last asked for on the same bus,
    and the sums of what the clients ask for there fit in 64 bits. -/
def Unmixed (l : Ledger) : Call → Prop
  | .setQuota c k b ab ib _ =>
    (∀ d ∈ l.handle.powerClientClist, ∀ j, ¬(d = c ∧ j = k) →
      (l.handle.client d).slot j = l.askedOn b d j) ∧
    (aggregate l.handle.powerClientClist fun d j => record l.asked c k b (ab, ib) d j b).Fits
  | _ => True

instance (l : Ledger) : (call : Call) → Decidable (HandsAggregate l call)
  | .setQuota c k b ab ib answer =>
    inferInstanceAs (Decidable (c ∈ l.handle.powerClientClist →
      (l.handle.dataBusHandle b).dataBusHdl ≠ 0 →
      ((l.step (.setQuota c k b ab ib answer)).handle.dataBusHandle b).quota.amounts = _))
  | .create | .enable .. | .scaleRegBus .. => inferInstanceAs (Decidable True)

instance (l : Ledger) : (call : Call) → Decidable (Unmixed l call)
  | .setQuota c k b ab ib _ =>
    inferInstanceAs (Decidable ((∀ d ∈ l.handle.powerClientClist, ∀ j, ¬(d = c ∧ j = k) →
      (l.handle.client d).slot j = l.askedOn b d j) ∧
      (aggregate l.handle.powerClientClist fun d j => record l.asked c k b (ab, ib) d j b).Fits))
  | .create | .enable .. | .scaleRegBus .. => inferInstanceAs (Decidable True)

def concernsBus (b : BusId) : Call → Bool
  | .create => true
  | .setQuota _ _ b' _ _ _ => b' = b
  | _ => false

theorem aggregate_congr {clients : List ClientId}
    {quota quota' : ClientId → BusClient → U64 × U64}
    (same : ∀ c ∈ clients, ∀ k, quota c k = quota' c k) :
    aggregate clients quota = aggregate clients quota' := by
  have rt : ∀ c ∈ clients, quota c .rt = quota' c .rt := fun c member => same c member .rt
  have nrt : ∀ c ∈ clients, quota c .nrt = quota' c .nrt := fun c member => same c member .nrt
  simp only [aggregate, Aggregate.mk.injEq]
  refine ⟨?_, ?_, ?_, ?_⟩
  · rw [List.map_congr_left fun c member => by rw [rt c member]]
  · rw [List.map_congr_left fun c member => by rw [nrt c member]]
  · rw [List.map_congr_left fun c member => by rw [rt c member]]
  · rw [List.map_congr_left fun c member => by rw [nrt c member]]

/-! ## What one call hands to a bus -/

theorem DataBusHandle.setQuota_quota {bus : DataBusHandle} (registered : bus.dataBusHdl ≠ 0)
    (q : Quota) (answer : Int) : (bus.setQuota q answer).1.quota = q := by
  have atLeastOne : ¬ bus.dataBusHdl < 1 := by
    intro zero
    exact registered (by bv_omega)
  simp only [DataBusHandle.setQuota, if_neg atLeastOne]
  split
  · rfl
  · split <;> rfl

theorem slot_setSlot (c : ClientId) (k : BusClient) (ab ib : U64) (d : ClientId) (j : BusClient) :
    ((h.setSlot c k ab ib).client d).slot j =
      if d = c ∧ j = k then (ab, ib) else (h.client d).slot j := by
  by_cases client : d = c
  · subst client
    by_cases bus : j = k
    · subst bus
      simp [PowerHandle.setSlot, PowerClient.slot]
    · simp [PowerHandle.setSlot, PowerClient.slot, bus]
  · simp [PowerHandle.setSlot, h.setClient_other _ client, client]

variable {b : BusId}

theorem setQuota_handed (c : ClientId) (k : BusClient)
    (ab ib : U64) (answer : Int) (registered : (h.dataBusHandle b).dataBusHdl ≠ 0) :
    ((sdePowerDataBusSetQuota h c k b ab ib answer).1.dataBusHandle b).quota =
      (h.setSlot c k ab ib).totals := by
  have still : ((h.setSlot c k ab ib).dataBusHandle b).dataBusHdl ≠ 0 := registered
  simp only [sdePowerDataBusSetQuota, if_pos still, PowerHandle.setDataBus, Function.update_self]
  exact DataBusHandle.setQuota_quota still _ _

theorem Unmixed.slots {l : Ledger} {c : ClientId} {k : BusClient} {ab ib : U64}
    {answer : Int} (unmixed : Unmixed l (.setQuota c k b ab ib answer)) :
    ∀ d ∈ l.handle.powerClientClist, ∀ j,
      ((l.handle.setSlot c k ab ib).client d).slot j = record l.asked c k b (ab, ib) d j b := by
  intro d member j
  rw [slot_setSlot]
  by_cases this : d = c ∧ j = k
  · simp [record, this]
  · simp only [if_neg this, unmixed.1 d member j this]
    simp only [Ledger.askedOn, record, and_true, if_neg this]

theorem handsAggregate_of_unmixed {l : Ledger} {call : Call} (unmixed : Unmixed l call) :
    HandsAggregate l call := by
  cases call with
  | create => trivial
  | enable => trivial
  | scaleRegBus => trivial
  | setQuota c k b ab ib answer =>
    intro member registered
    have slots := unmixed.slots
    have fits := unmixed.2
    have clist : (l.step (.setQuota c k b ab ib answer)).handle.powerClientClist =
        l.handle.powerClientClist := by
      simp [Ledger.step, step, member, (keeps_setQuota c l.handle k b ab ib answer).clist]
    have asked : (l.step (.setQuota c k b ab ib answer)).askedOn b =
        fun d j => record l.asked c k b (ab, ib) d j b := by
      simp only [Ledger.step, if_pos member]
      rfl
    rw [← aggregate_congr slots] at fits
    rw [Ledger.HandedAggregate, clist, asked, ← aggregate_congr slots]
    simp only [Ledger.step, step, if_pos member, setQuota_handed _ _ _ _ _ _ registered]
    exact totals_amounts (l.handle.setSlot c k ab ib) fits

/-! ## Other buses do not matter -/

def Ledger.viewOf (b : BusId) (l : Ledger) :
    List ClientId × Nat × (ClientId → BusClient → U64 × U64) :=
  (l.handle.powerClientClist, l.handle.nextId, fun c k => l.asked c k b)

theorem viewOf_frame (b : BusId) (l : Ledger) (call : Call) (other : concernsBus b call = false) :
    (l.step call).viewOf b = l.viewOf b := by
  cases call with
  | create => simp [concernsBus] at other
  | enable c on ans =>
    have keeps := keeps_resourceEnable c l.handle on ans
    simp only [Ledger.viewOf, Ledger.step, step]
    split
    · simp [keeps.clist, keeps.nextId, PowerHandle.setClient]
    · rfl
  | scaleRegBus c usecaseNdx answer =>
    have keeps := keeps_scaleRegBus c l.handle usecaseNdx false answer
    simp only [Ledger.viewOf, Ledger.step, step]
    split
    · simp [keeps.clist, keeps.nextId]
    · rfl
  | setQuota c k b' ab ib answer =>
    have elsewhere : ¬ b' = b := by simpa [concernsBus] using other
    simp only [Ledger.viewOf, Ledger.step, step]
    split
    · have unasked : ∀ d j, record l.asked c k b' (ab, ib) d j b = l.asked d j b := by
        intro d j
        simp [record, Ne.symm elsewhere]
      have keeps := keeps_setQuota c l.handle k b' ab ib answer
      simp [keeps.clist, keeps.nextId, unasked]
    · rfl

theorem viewOf_congr (b : BusId) (l m : Ledger) (call : Call) (same : l.viewOf b = m.viewOf b) :
    (l.step call).viewOf b = (m.step call).viewOf b := by
  cases concern : concernsBus b call with
  | false => rw [viewOf_frame b l call concern, viewOf_frame b m call concern, same]
  | true =>
    simp only [Ledger.viewOf, Prod.mk.injEq] at same
    obtain ⟨clist, nextId, asked⟩ := same
    cases call with
    | create =>
      simp [Ledger.viewOf, Ledger.step, step, sdePowerClientCreate, PowerHandle.setClient, clist,
        nextId, asked]
    | enable c on ans => simp [concernsBus] at concern
    | scaleRegBus c usecaseNdx answer => simp [concernsBus] at concern
    | setQuota c k b' ab ib answer =>
      have here : ∀ d j, l.asked d j b = m.asked d j b := fun d j => congrFun (congrFun asked d) j
      simp only [Ledger.viewOf, Ledger.step, step, clist]
      split
      · have keeps := keeps_setQuota c l.handle k b' ab ib answer
        have keeps' := keeps_setQuota c m.handle k b' ab ib answer
        simp [keeps.clist, keeps.nextId, keeps'.clist, keeps'.nextId, clist, nextId, record, here]
      · simp [clist, nextId, here]

theorem HandsAggregate.handed {l m : Ledger} {c : ClientId} {k : BusClient}
    {ab ib : U64} {answer : Int} (hands : HandsAggregate l (.setQuota c k b ab ib answer))
    (hands' : HandsAggregate m (.setQuota c k b ab ib answer)) (same : l.viewOf b = m.viewOf b)
    (member : c ∈ l.handle.powerClientClist)
    (registered : (l.handle.dataBusHandle b).dataBusHdl ≠ 0)
    (registered' : (m.handle.dataBusHandle b).dataBusHdl ≠ 0) :
    ((l.step (.setQuota c k b ab ib answer)).handle.dataBusHandle b).quota.amounts =
      ((m.step (.setQuota c k b ab ib answer)).handle.dataBusHandle b).quota.amounts := by
  have after := viewOf_congr b l m (.setQuota c k b ab ib answer) same
  simp only [Ledger.viewOf, Prod.mk.injEq] at same after
  have member' : c ∈ m.handle.powerClientClist := same.1 ▸ member
  have first := hands member registered
  have second := hands' member' registered'
  simp only [Ledger.HandedAggregate] at first second
  rw [first, second, after.1]
  exact aggregate_congr fun d _ j => congrFun (congrFun after.2.2 d) j

theorem wiring_step (call : Call) (b : BusId) :
    ((step h call).dataBusHandle b).wiring = (h.dataBusHandle b).wiring := by
  cases call with
  | create => rfl
  | enable c on ans =>
    simp only [step]
    split
    · exact (keeps_resourceEnable c h on ans).wiring b
    · rfl
  | scaleRegBus c usecaseNdx answer =>
    simp only [step]
    split
    · exact (keeps_scaleRegBus c h usecaseNdx false answer).wiring b
    · rfl
  | setQuota c k b' ab ib answer =>
    simp only [step]
    split
    · exact (keeps_setQuota c h k b' ab ib answer).wiring b
    · rfl

theorem wiring_run (l : Ledger) (calls : List Call) (b : BusId) :
    ((run Ledger.step l calls).handle.dataBusHandle b).wiring = (l.handle.dataBusHandle b).wiring :=
  run_invariant (fun m : Ledger => (m.handle.dataBusHandle b).wiring = _)
    (fun m call same => (wiring_step m.handle call b).trans same) rfl calls

def Ledger.handedTo (l : Ledger) (b : BusId) : Aggregate :=
  (l.handle.dataBusHandle b).quota.amounts

/-- Two runs that made the same requests for bus `b` hand it the same totals at the same call. -/
def OthersDoNotMatter (start : Ledger) : Prop :=
  ∀ calls calls' c k b ab ib answer,
    StepsMeet Ledger.step Unmixed start (calls ++ [.setQuota c k b ab ib answer]) →
    StepsMeet Ledger.step Unmixed start (calls' ++ [.setQuota c k b ab ib answer]) →
    calls.filter (concernsBus b) = calls'.filter (concernsBus b) →
    c ∈ (run Ledger.step start calls).handle.powerClientClist →
    (start.handle.dataBusHandle b).dataBusHdl ≠ 0 →
    (run Ledger.step start (calls ++ [.setQuota c k b ab ib answer])).handedTo b =
      (run Ledger.step start (calls' ++ [.setQuota c k b ab ib answer])).handedTo b

theorem othersDoNotMatter (start : Ledger) : OthersDoNotMatter start := by
  intro calls calls' c k b ab ib answer meets meets' agree member registered
  have unmixed := ((stepsMeet_append _ _ _).mp meets).2.1
  have unmixed' := ((stepsMeet_append _ _ _).mp meets').2.1
  have wired : ∀ calls, ((run Ledger.step start calls).handle.dataBusHandle b).dataBusHdl ≠ 0 := by
    intro calls
    have same := congrArg Prod.fst (wiring_run start calls b)
    simp only [DataBusHandle.wiring] at same
    rwa [same]
  simp only [run_append, run_cons, run_nil]
  exact (handsAggregate_of_unmixed unmixed).handed (handsAggregate_of_unmixed unmixed')
    (view_run_eq (viewOf_frame b) (viewOf_congr b) start agree) member (wired calls) (wired calls')

/-- Where no request meets a quota left by a request for another bus, every bus is handed the
    aggregate of what was asked for on it, and requests for other buses change nothing there. -/
theorem bus_handed_what_was_asked (regBusHdl : U32) (buses : BusId → DataBusHandle) :
    (∀ calls, StepsMeet Ledger.step Unmixed (.start regBusHdl buses) calls →
      StepsMeet Ledger.step HandsAggregate (.start regBusHdl buses) calls) ∧
    OthersDoNotMatter (.start regBusHdl buses) := by
  constructor
  · intro calls meets
    exact meets.imp (fun _ => True) (fun _ _ _ _ => trivial)
      (fun _ _ _ unmixed => handsAggregate_of_unmixed unmixed) trivial
  · exact othersDoNotMatter _

def plainBus : DataBusHandle :=
  { dataBusHdl := 1, hasScaleTable := true, numUsecases := 3, dataPathsCnt := 1,
    nrtDataPathsCnt := 0, currBwUcIdx := 0, quota := .zero, enable := true,
    vectors := fun _ => [] }

def oneBusCalls : List Call :=
  [.create, .create, .setQuota 0 .rt .mnoc 100 7 0, .setQuota 1 .rt .mnoc 5 9 0]

theorem bus_handed_what_was_asked_oneBus :
    StepsMeet Ledger.step HandsAggregate (.start 0 fun _ => plainBus) oneBusCalls ∧
      (run Ledger.step (.start 0 fun _ => plainBus) oneBusCalls).handedTo .mnoc =
        { abRt := 105, abNrt := 0, ibRt := 9, ibNrt := 0 } :=
  ⟨(bus_handed_what_was_asked 0 fun _ => plainBus).1 oneBusCalls (by decide), by decide⟩

/-- Two clients, each with a bus of its own: the second bus is handed the first one's share. -/
theorem bus_handed_other_request :
    ¬ StepsMeet Ledger.step HandsAggregate (.start 0 fun _ => plainBus)
      [.create, .create, .setQuota 0 .rt .mnoc 100 7 0, .setQuota 1 .rt .llcc 5 9 0] := by
  decide

end DisplayDrivers.Power
