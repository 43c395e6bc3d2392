import Mathlib.Data.List.Basic

/-! # The power handle (`msm/sde_power_handle.c`)

Clients of a handle share its regulators and clocks, its register bus and its data buses.
-/

namespace DisplayDrivers.Power

abbrev Short := BitVec 16
abbrev U32 := BitVec 32
abbrev U64 := BitVec 64

def EINVAL : Int := 22
def MAX_AXI_PORT_COUNT : U32 := 3

def SDE_POWER_HANDLE_ENABLE_BUS_AB_QUOTA : U64 := 0
def SDE_POWER_HANDLE_DISABLE_BUS_AB_QUOTA : U64 := 0
def SDE_POWER_HANDLE_ENABLE_BUS_IB_QUOTA : U64 := 400000000
def SDE_POWER_HANDLE_ENABLE_NRT_BUS_IB_QUOTA : U64 := 0
def SDE_POWER_HANDLE_DISABLE_BUS_IB_QUOTA : U64 := 0

/-- `enum mdss_bus_vote_type`. -/
def VOTE_INDEX_DISABLE : U32 := 0
def VOTE_INDEX_LOW : U32 := 1
def VOTE_INDEX_MAX : U32 := 4

/-- `enum sde_power_handle_data_bus_client`. -/
inductive BusClient
  | rt
  | nrt
deriving DecidableEq

instance (p : BusClient → Prop) [DecidablePred p] : Decidable (∀ k, p k) :=
  decidable_of_iff (p .rt ∧ p .nrt)
    ⟨fun both k => by cases k with | rt => exact both.1 | nrt => exact both.2,
      fun each => ⟨each .rt, each .nrt⟩⟩

/-- `enum SDE_POWER_HANDLE_DBUS_ID`. -/
inductive BusId
  | mnoc
  | llcc
  | ebi
deriving DecidableEq

/-- The order of the loops over `SDE_POWER_HANDLE_DBUS_ID_MAX`. -/
def BusId.all : List BusId := [.mnoc, .llcc, .ebi]

theorem BusId.mem_all (b : BusId) : b ∈ BusId.all := by
  cases b <;> simp [BusId.all]

instance (p : BusId → Prop) [DecidablePred p] : Decidable (∀ b, p b) :=
  decidable_of_iff (∀ b ∈ BusId.all, p b)
    ⟨fun listed b => listed b b.mem_all, fun every b _ => every b⟩

def maxU64 (a b : U64) : U64 := if a < b then b else a

def minU64 (a b : U64) : U64 := if b < a then b else a

theorem toNat_maxU64 (a b : U64) : (maxU64 a b).toNat = max a.toNat b.toNat := by
  simp only [maxU64, BitVec.lt_def]
  split <;> omega

abbrev ClientId := Nat

/-- `struct sde_power_client`. -/
structure PowerClient where
  usecaseNdx : Short
  refcount : Short
  ab : BusClient → U64
  ib : BusClient → U64

/-- `kzalloc` and `VOTE_INDEX_DISABLE`. -/
def PowerClient.fresh : PowerClient :=
  { usecaseNdx := 0, refcount := 0, ab := fun _ => 0, ib := fun _ => 0 }

/-- The totals that `sde_power_data_bus_set_quota` hands to a bus. -/
structure Quota where
  abRt : U64
  abNrt : U64
  ibRt : U64
  ibNrt : U64
deriving DecidableEq

def Quota.zero : Quota := { abRt := 0, abNrt := 0, ibRt := 0, ibNrt := 0 }

/-- `struct sde_power_data_bus_handle` and the bus table it votes with: `vectors` holds, for each
    use case, the `ab` and `ib` of each path. -/
structure DataBusHandle where
  dataBusHdl : U32
  hasScaleTable : Bool
  numUsecases : Nat
  dataPathsCnt : U32
  nrtDataPathsCnt : U32
  currBwUcIdx : Nat
  quota : Quota
  enable : Bool
  vectors : Nat → List (U64 × U64)

def bareBus : DataBusHandle :=
  { dataBusHdl := 0, hasScaleTable := false, numUsecases := 0, dataPathsCnt := 0,
    nrtDataPathsCnt := 0, currBwUcIdx := 0, quota := .zero, enable := false,
    vectors := fun _ => [] }

def DataBusHandle.wiring (bus : DataBusHandle) : U32 × Bool × Nat × U32 × U32 :=
  (bus.dataBusHdl, bus.hasScaleTable, bus.numUsecases, bus.dataPathsCnt, bus.nrtDataPathsCnt)

/-- `struct sde_power_handle`. -/
structure PowerHandle where
  powerClientClist : List ClientId
  client : ClientId → PowerClient
  nextId : Nat
  currentUsecaseNdx : U32
  regBusHdl : U32
  regBusVote : U32
  dataBusHandle : BusId → DataBusHandle
  rscClient : Bool
  rscClientInit : Bool
  vregs : Int
  clks : Int

namespace PowerHandle

def setClient (h : PowerHandle) (c : ClientId) (p : PowerClient) : PowerHandle :=
  { h with client := Function.update h.client c p }

def setDataBus (h : PowerHandle) (b : BusId) (bus : DataBusHandle) : PowerHandle :=
  { h with dataBusHandle := Function.update h.dataBusHandle b bus }

def setCurrent (h : PowerHandle) (usecaseNdx : U32) : PowerHandle :=
  { h with currentUsecaseNdx := usecaseNdx }

/-- `msm_dss_enable_vreg` when it succeeds. -/
def enableVreg (h : PowerHandle) (enable : Bool) : PowerHandle :=
  { h with vregs := if enable then h.vregs + 1 else h.vregs - 1 }

/-- `msm_dss_enable_clk` when it succeeds. -/
def enableClk (h : PowerHandle) (enable : Bool) : PowerHandle :=
  { h with clks := if enable then h.clks + 1 else h.clks - 1 }

@[simp] theorem setClient_same (h : PowerHandle) (c : ClientId) (p : PowerClient) :
    (h.setClient c p).client c = p := by
  simp [setClient]

theorem setClient_other (h : PowerHandle) {c d : ClientId} (p : PowerClient) (ne : d ≠ c) :
    (h.setClient c p).client d = h.client d := by
  simp [setClient, ne]

end PowerHandle

/-- The handle after `sde_power_resource_init`: no client, everything off. -/
def sdePowerResourceInit (regBusHdl : U32) (buses : BusId → DataBusHandle) : PowerHandle :=
  { powerClientClist := [], client := fun _ => .fresh, nextId := 0,
    currentUsecaseNdx := VOTE_INDEX_DISABLE, regBusHdl := regBusHdl, regBusVote := 0,
    dataBusHandle := buses, rscClient := false, rscClientInit := false, vregs := 0, clks := 0 }

def sdePowerClientCreate (h : PowerHandle) : PowerHandle :=
  let h := h.setClient h.nextId .fresh
  { h with powerClientClist := h.nextId :: h.powerClientClist, nextId := h.nextId + 1 }

/-! ## Data buses -/

/-- The floors and ceilings of `_sde_power_data_bus_set_quota`. -/
def DataBusHandle.clamp (bus : DataBusHandle) (q : Quota) : Quota :=
  if bus.enable then
    { abRt := maxU64 q.abRt SDE_POWER_HANDLE_ENABLE_BUS_AB_QUOTA
      ibRt := maxU64 q.ibRt SDE_POWER_HANDLE_ENABLE_BUS_IB_QUOTA
      abNrt := maxU64 q.abNrt SDE_POWER_HANDLE_ENABLE_BUS_AB_QUOTA
      ibNrt := maxU64 q.ibNrt SDE_POWER_HANDLE_ENABLE_NRT_BUS_IB_QUOTA }
  else
    { abRt := minU64 q.abRt SDE_POWER_HANDLE_DISABLE_BUS_AB_QUOTA
      ibRt := minU64 q.ibRt SDE_POWER_HANDLE_DISABLE_BUS_IB_QUOTA
      abNrt := minU64 q.abNrt SDE_POWER_HANDLE_DISABLE_BUS_AB_QUOTA
      ibNrt := minU64 q.ibNrt SDE_POWER_HANDLE_DISABLE_BUS_IB_QUOTA }

/-- `ab_quota[]` and `ib_quota[]`: the quota of each path of the bus. -/
def DataBusHandle.pathQuotas (bus : DataBusHandle) (q : Quota) : List (U64 × U64) :=
  let total := bus.dataPathsCnt.setWidth 64
  let nrt := bus.nrtDataPathsCnt.setWidth 64
  let rt := (bus.dataPathsCnt - bus.nrtDataPathsCnt).setWidth 64
  (List.range bus.dataPathsCnt.toNat).map fun i =>
    if bus.nrtDataPathsCnt ≠ 0 then
      if i < rt.toNat then (q.abRt / rt, q.ibRt / rt) else (q.abNrt / nrt, q.ibNrt / nrt)
    else ((q.abRt + q.abNrt) / total, (q.ibRt + q.ibNrt) / total)

/-- `_sde_power_data_bus_set_quota`; `answer` is what the bus framework returns. -/
def DataBusHandle.setQuota (bus : DataBusHandle) (q : Quota) (answer : Int) :
    DataBusHandle × Int :=
  if bus.dataBusHdl < 1 then (bus, -EINVAL)
  else
    let bus := { bus with quota := q }
    let voted := bus.clamp q
    if voted = Quota.zero then ({ bus with currBwUcIdx := 0 }, answer)
    else if !bus.hasScaleTable || bus.dataPathsCnt = 0 || MAX_AXI_PORT_COUNT < bus.dataPathsCnt then
      (bus, -EINVAL)
    else
      let newUcIdx := bus.currBwUcIdx % (bus.numUsecases - 1) + 1
      ({ bus with
          vectors := Function.update bus.vectors newUcIdx (bus.pathQuotas voted)
          currBwUcIdx := newUcIdx }, answer)

@[simp] theorem DataBusHandle.wiring_setQuota (bus : DataBusHandle) (q : Quota) (answer : Int) :
    (bus.setQuota q answer).1.wiring = bus.wiring := by
  simp only [setQuota]
  split
  · rfl
  · split
    · rfl
    · split <;> rfl

def DataBusHandle.update (bus : DataBusHandle) (enable : Bool) (answer : Int) :
    DataBusHandle × Int :=
  let bus := { bus with enable := enable }
  if bus.dataBusHdl ≠ 0 then bus.setQuota bus.quota answer else (bus, 0)

@[simp] theorem DataBusHandle.wiring_update (bus : DataBusHandle) (enable : Bool) (answer : Int) :
    (bus.update enable answer).1.wiring = bus.wiring := by
  simp only [update]
  split
  · rw [wiring_setQuota]; rfl
  · rfl

/-- The loop body over the clients in `sde_power_data_bus_set_quota`. -/
def Quota.addClient (total : Quota) (p : PowerClient) : Quota :=
  { abRt := total.abRt + p.ab .rt
    ibRt := maxU64 total.ibRt (p.ib .rt)
    abNrt := total.abNrt + p.ab .nrt
    ibNrt := total.ibNrt + p.ib .nrt }

def PowerHandle.totals (h : PowerHandle) : Quota :=
  h.powerClientClist.foldl (fun total c => total.addClient (h.client c)) .zero

def PowerHandle.setSlot (h : PowerHandle) (c : ClientId) (busClient : BusClient) (ab ib : U64) :
    PowerHandle :=
  let p := h.client c
  h.setClient c
    { p with ab := Function.update p.ab busClient ab, ib := Function.update p.ib busClient ib }

def sdePowerDataBusSetQuota (h : PowerHandle) (c : ClientId) (busClient : BusClient) (b : BusId)
    (ab ib : U64) (answer : Int) : PowerHandle × Int :=
  let h := h.setSlot c busClient ab ib
  if (h.dataBusHandle b).dataBusHdl ≠ 0 then
    let done := (h.dataBusHandle b).setQuota h.totals answer
    (h.setDataBus b done.1, done.2)
  else (h, 0)

def sdePowerDataBusStateUpdate (h : PowerHandle) (enable : Bool) : PowerHandle :=
  { h with dataBusHandle := fun b => { h.dataBusHandle b with enable := enable } }

/-! ## The register bus -/

def sdePowerRegBusUpdate (h : PowerHandle) (usecaseNdx : U32) (answer : Int) : PowerHandle × Int :=
  if h.regBusHdl ≠ 0 then
    if answer = 0 then ({ h with regBusVote := usecaseNdx }, 0) else (h, answer)
  else (h, 0)

/-- The loop over the clients of `sde_power_scale_reg_bus` and `sde_power_resource_enable`.  The
    first comparison is signed, the second converts the `short` to an `u32`. -/
def PowerHandle.maxUsecaseNdx (h : PowerHandle) : U32 :=
  h.powerClientClist.foldl
    (fun found c =>
      let ndx := (h.client c).usecaseNdx
      if ndx.toInt < VOTE_INDEX_MAX.toInt ∧ found < ndx.signExtend 32 then ndx.signExtend 32
      else found)
    VOTE_INDEX_DISABLE

def sdePowerScaleRegBus (h : PowerHandle) (c : ClientId) (usecaseNdx : U32) (skipLock : Bool)
    (answer : Int) : PowerHandle × Int :=
  if !skipLock ∧ (h.client c).refcount = 0 then (h, -EINVAL)
  else
    let h := h.setClient c { h.client c with usecaseNdx := usecaseNdx.setWidth 16 }
    sdePowerRegBusUpdate h h.maxUsecaseNdx answer

/-! ## The power resource -/

/-- Return codes of the frameworks during a call of `sde_power_resource_enable`; `rscClient` tells
    whether `sde_rsc_client_create` gives a client. -/
structure Answers where
  rscClient : Bool
  dataBus : BusId → Int
  vreg : Int
  regBus : Int
  rsc : Int
  clk : Int

def resourceChanged (currentUsecaseNdx maxUsecaseNdx : U32) : Bool :=
  (VOTE_INDEX_LOW ≤ currentUsecaseNdx && maxUsecaseNdx = VOTE_INDEX_DISABLE) ||
    (currentUsecaseNdx = VOTE_INDEX_DISABLE && VOTE_INDEX_LOW ≤ maxUsecaseNdx)

def sdePowerRscClientInit (h : PowerHandle) (created : Bool) : PowerHandle :=
  if h.rscClientInit then h else { h with rscClient := created, rscClientInit := true }

/-- `sde_power_rsc_update`: without an RSC client there is nothing to update. -/
def sdePowerRscUpdate (h : PowerHandle) (answer : Int) : Int := if h.rscClient then answer else 0

def updateDataBuses (h : PowerHandle) (enable : Bool) (answer : BusId → Int) :
    List BusId → PowerHandle × Int
  | [] => (h, 0)
  | b :: rest =>
    let done := (h.dataBusHandle b).update enable (answer b)
    if done.2 ≠ 0 then (h.setDataBus b done.1, done.2)
    else updateDataBuses (h.setDataBus b done.1) enable answer rest

def dropDataBuses (h : PowerHandle) (answer : BusId → Int) : PowerHandle :=
  BusId.all.foldl (fun h b => h.setDataBus b ((h.dataBusHandle b).update false (answer b)).1) h

/-- The `enable` half of `sde_power_resource_enable`, with its error labels. -/
def powerUp (h : PowerHandle) (c : ClientId) (maxUsecaseNdx prevUsecaseNdx : U32) (ans : Answers) :
    PowerHandle × Int :=
  let buses := updateDataBuses h true ans.dataBus BusId.all
  -- `data_bus_hdl_err`: the buses already enabled stay enabled
  if buses.2 ≠ 0 then (buses.1.setCurrent prevUsecaseNdx, buses.2)
  -- `vreg_err`
  else if ans.vreg ≠ 0 then
    ((dropDataBuses buses.1 ans.dataBus).setCurrent prevUsecaseNdx, ans.vreg)
  else
    let scaled := sdePowerScaleRegBus (buses.1.enableVreg true) c maxUsecaseNdx true ans.regBus
    let vregErr := fun h : PowerHandle =>
      (dropDataBuses (h.enableVreg false) ans.dataBus).setCurrent prevUsecaseNdx
    let rscErr := fun h => vregErr (sdePowerScaleRegBus h c maxUsecaseNdx true ans.regBus).1
    let rsc := sdePowerRscUpdate scaled.1 ans.rsc
    -- `reg_bus_hdl_err`, `rsc_err` and `clk_err`
    if scaled.2 ≠ 0 then (vregErr scaled.1, scaled.2)
    else if rsc ≠ 0 then (rscErr scaled.1, rsc)
    else if ans.clk ≠ 0 then (rscErr scaled.1, ans.clk)
    else (scaled.1.enableClk true, 0)

def powerDown (h : PowerHandle) (c : ClientId) (maxUsecaseNdx : U32) (ans : Answers) :
    PowerHandle :=
  let scaled := sdePowerScaleRegBus (h.enableClk false) c maxUsecaseNdx true ans.regBus
  dropDataBuses (scaled.1.enableVreg false) ans.dataBus

/-- The head of `sde_power_resource_enable`: the reference count and the vote of the client. -/
def PowerClient.count (p : PowerClient) (enable : Bool) : PowerClient :=
  let refcount :=
    if enable then p.refcount + 1 else if p.refcount ≠ 0 then p.refcount - 1 else p.refcount
  { p with
    refcount := refcount
    usecaseNdx := if refcount ≠ 0 then VOTE_INDEX_LOW.setWidth 16
      else VOTE_INDEX_DISABLE.setWidth 16 }

def sdePowerResourceEnable (h : PowerHandle) (c : ClientId) (enable : Bool) (ans : Answers) :
    PowerHandle × Int :=
  let h := h.setClient c ((h.client c).count enable)
  let maxUsecaseNdx := h.maxUsecaseNdx
  if resourceChanged h.currentUsecaseNdx maxUsecaseNdx then
    let prevUsecaseNdx := h.currentUsecaseNdx
    let h := sdePowerRscClientInit (h.setCurrent maxUsecaseNdx) ans.rscClient
    if enable then powerUp h c maxUsecaseNdx prevUsecaseNdx ans
    else (powerDown h c maxUsecaseNdx ans, 0)
  else (h, 0)

/-! ## What the power sequences leave alone -/

/-- Nothing but the vote of client `c` changes among the clients, and the buses stay as they were
    parsed. -/
structure Keeps (c : ClientId) (h h' : PowerHandle) : Prop where
  clist : h'.powerClientClist = h.powerClientClist
  nextId : h'.nextId = h.nextId
  refcount : ∀ d, (h'.client d).refcount = (h.client d).refcount
  others : ∀ d, d ≠ c → h'.client d = h.client d
  wiring : ∀ b, (h'.dataBusHandle b).wiring = (h.dataBusHandle b).wiring

theorem Keeps.of_same {c : ClientId} {h h' : PowerHandle}
    (clist : h'.powerClientClist = h.powerClientClist) (nextId : h'.nextId = h.nextId)
    (client : h'.client = h.client) (buses : h'.dataBusHandle = h.dataBusHandle) :
    Keeps c h h' :=
  ⟨clist, nextId, fun d => by rw [client], fun d _ => by rw [client], fun b => by rw [buses]⟩

theorem Keeps.trans {c : ClientId} {h₁ h₂ h₃ : PowerHandle} (front : Keeps c h₁ h₂)
    (back : Keeps c h₂ h₃) : Keeps c h₁ h₃ where
  clist := back.clist.trans front.clist
  nextId := back.nextId.trans front.nextId
  refcount d := (back.refcount d).trans (front.refcount d)
  others d ne := (back.others d ne).trans (front.others d ne)
  wiring b := (back.wiring b).trans (front.wiring b)

section

variable (c : ClientId) (h : PowerHandle)

theorem keeps_setDataBus (b : BusId) {bus : DataBusHandle}
    (same : bus.wiring = (h.dataBusHandle b).wiring) : Keeps c h (h.setDataBus b bus) where
  clist := rfl
  nextId := rfl
  refcount _ := rfl
  others _ _ := rfl
  wiring b' := by
    by_cases this : b' = b
    · subst this; simpa [PowerHandle.setDataBus] using same
    · simp [PowerHandle.setDataBus, this]

theorem keeps_setCurrent (usecaseNdx : U32) : Keeps c h (h.setCurrent usecaseNdx) :=
  .of_same rfl rfl rfl rfl

theorem keeps_enableVreg (enable : Bool) : Keeps c h (h.enableVreg enable) :=
  .of_same rfl rfl rfl rfl

theorem keeps_enableClk (enable : Bool) : Keeps c h (h.enableClk enable) := .of_same rfl rfl rfl rfl

theorem keeps_regBusUpdate (usecaseNdx : U32) (answer : Int) :
    Keeps c h (sdePowerRegBusUpdate h usecaseNdx answer).1 := by
  simp only [sdePowerRegBusUpdate]
  split
  · split <;> exact .of_same rfl rfl rfl rfl
  · exact .of_same rfl rfl rfl rfl

theorem keeps_setUsecase (usecaseNdx : Short) :
    Keeps c h (h.setClient c { h.client c with usecaseNdx := usecaseNdx }) where
  clist := rfl
  nextId := rfl
  refcount d := by
    by_cases same : d = c
    · subst same; simp
    · rw [h.setClient_other _ same]
  others d ne := h.setClient_other _ ne
  wiring _ := rfl

theorem keeps_scaleRegBus (usecaseNdx : U32) (skipLock : Bool) (answer : Int) :
    Keeps c h (sdePowerScaleRegBus h c usecaseNdx skipLock answer).1 := by
  simp only [sdePowerScaleRegBus]
  split
  · exact .of_same rfl rfl rfl rfl
  · exact (keeps_setUsecase c h _).trans (keeps_regBusUpdate c _ _ _)

theorem keeps_setQuota (busClient : BusClient) (b : BusId) (ab ib : U64) (answer : Int) :
    Keeps c h (sdePowerDataBusSetQuota h c busClient b ab ib answer).1 := by
  have slot : Keeps c h (h.setSlot c busClient ab ib) := by
    refine ⟨rfl, rfl, fun d => ?_, fun d ne => h.setClient_other _ ne, fun _ => rfl⟩
    by_cases same : d = c
    · subst same; simp [PowerHandle.setSlot]
    · rw [PowerHandle.setSlot, h.setClient_other _ same]
  simp only [sdePowerDataBusSetQuota]
  split
  · exact slot.trans (keeps_setDataBus c _ b (by simp))
  · exact slot

theorem keeps_updateDataBuses (enable : Bool) (answer : BusId → Int) (buses : List BusId) :
    Keeps c h (updateDataBuses h enable answer buses).1 := by
  induction buses generalizing h with
  | nil => exact .of_same rfl rfl rfl rfl
  | cons b rest ih =>
    simp only [updateDataBuses]
    split
    · exact keeps_setDataBus c h b (by simp)
    · exact (keeps_setDataBus c h b (by simp)).trans (ih _)

theorem keeps_dropDataBuses (answer : BusId → Int) : Keeps c h (dropDataBuses h answer) :=
  ((keeps_setDataBus c h _ (by simp)).trans (keeps_setDataBus c _ _ (by simp))).trans
    (keeps_setDataBus c _ _ (by simp))

theorem keeps_rscClientInit (created : Bool) : Keeps c h (sdePowerRscClientInit h created) := by
  simp only [sdePowerRscClientInit]
  split <;> exact .of_same rfl rfl rfl rfl

theorem keeps_powerUp (maxUsecaseNdx prevUsecaseNdx : U32) (ans : Answers) :
    Keeps c h (powerUp h c maxUsecaseNdx prevUsecaseNdx ans).1 := by
  have buses := keeps_updateDataBuses c h true ans.dataBus BusId.all
  have scaled := (buses.trans (keeps_enableVreg c _ true)).trans
    (keeps_scaleRegBus c _ maxUsecaseNdx true ans.regBus)
  have vregErr : ∀ {h'}, Keeps c h h' → Keeps c h
      ((dropDataBuses (h'.enableVreg false) ans.dataBus).setCurrent prevUsecaseNdx) := fun kept =>
    ((kept.trans (keeps_enableVreg c _ false)).trans (keeps_dropDataBuses c _ _)).trans
      (keeps_setCurrent c _ _)
  have again := scaled.trans (keeps_scaleRegBus c _ maxUsecaseNdx true ans.regBus)
  simp only [powerUp]
  -- one case for each label
  split
  · exact buses.trans (keeps_setCurrent c _ _)
  · split
    · exact (buses.trans (keeps_dropDataBuses c _ _)).trans (keeps_setCurrent c _ _)
    · split
      · exact vregErr scaled
      · split
        · exact vregErr again
        · split
          · exact vregErr again
          · exact scaled.trans (keeps_enableClk c _ true)

theorem keeps_powerDown (maxUsecaseNdx : U32) (ans : Answers) :
    Keeps c h (powerDown h c maxUsecaseNdx ans) :=
  (((keeps_enableClk c h false).trans (keeps_scaleRegBus c _ maxUsecaseNdx true ans.regBus)).trans
    (keeps_enableVreg c _ false)).trans (keeps_dropDataBuses c _ _)

theorem keeps_resourceEnable (enable : Bool) (ans : Answers) :
    Keeps c (h.setClient c ((h.client c).count enable))
      (sdePowerResourceEnable h c enable ans).1 := by
  simp only [sdePowerResourceEnable]
  split
  · have begun := (keeps_setCurrent c (h.setClient c ((h.client c).count enable))
      (h.setClient c ((h.client c).count enable)).maxUsecaseNdx).trans
        (keeps_rscClientInit c _ ans.rscClient)
    split
    · exact begun.trans (keeps_powerUp c _ _ _ _)
    · exact begun.trans (keeps_powerDown c _ _ _)
  · exact .of_same rfl rfl rfl rfl

end

def sdePowerResourceIsEnabled (h : PowerHandle) : Bool := h.currentUsecaseNdx ≠ VOTE_INDEX_DISABLE

/-! ## Calls -/

inductive Call
  | create
  | enable (c : ClientId) (on : Bool) (ans : Answers)
  | scaleRegBus (c : ClientId) (usecaseNdx : U32) (answer : Int)
  | setQuota (c : ClientId) (busClient : BusClient) (b : BusId) (ab ib : U64) (answer : Int)

def step (h : PowerHandle) : Call → PowerHandle
  | .create => sdePowerClientCreate h
  | .enable c on ans =>
    if c ∈ h.powerClientClist then (sdePowerResourceEnable h c on ans).1 else h
  | .scaleRegBus c usecaseNdx answer =>
    if c ∈ h.powerClientClist then (sdePowerScaleRegBus h c usecaseNdx false answer).1 else h
  | .setQuota c busClient b ab ib answer =>
    if c ∈ h.powerClientClist then
      (sdePowerDataBusSetQuota h c busClient b ab ib answer).1
    else h

end DisplayDrivers.Power
