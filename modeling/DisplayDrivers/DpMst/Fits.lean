import DisplayDrivers.DpMst.Builders
import Mathlib.Data.List.Forall2

/-! # Which replies fit

`down_rep.msg` and `down_req.msg` have 256 bytes.  No builder compares the length of its reply with
that, and only one of them walks over the request with strides that the request gives.
-/

namespace DisplayDrivers.DpMst

open DisplayDrivers.Lib

def Inside (ctx : SimContext) : Place → Prop
  | .request i => i < 256
  | .edid port k => ∃ p ∈ ctx.ports[port]?, p.edid.isSome ∧ k < p.edidSize.toNat

structure Reply.Fits (ctx : SimContext) (reply : Reply) : Prop where
  writes : reply.value.length ≤ 256
  reads : reply.Within (Inside ctx)

/-! ## What the request asks for -/

section

variable (request : Nat → U8)

def portNumber : Nat := (request 1 >>> 4).toNat

def numTransactions : Nat := (request 1 &&& 0x3).toNat

def layoutEnd : (n idx : Nat) → Nat
  | 0, idx => idx
  | n + 1, idx => layoutEnd n (idx + 3 + (request (idx + 1)).toNat)

def asksFor : Nat → Option (Nat × Nat)
  | 1 =>
    if request 2 &&& 0x7f = DDC_ADDR ∧ request 3 = 1 then
      some ((request 4).toNat, (request 7).toNat)
    else none
  | 2 =>
    if (request 2 &&& 0x7f = DDC_SEGMENT_ADDR ∧ request 3 = 1) ∧
        request 6 &&& 0x7f = DDC_ADDR ∧ request 7 = 1 then
      some ((request 4).toNat * EDID_LENGTH * 2 + (request 8).toNat, (request 11).toNat)
    else none
  | _ => none

end

/-- When a builder stays inside: there are at most eleven output ports; the transactions of a read,
    its device and its length end in the request, and no more than 253 bytes are read. -/
def Builder.FitsWhen (ports : List SimPort) (request : Nat → U8) : Builder → Prop
  | .linkAddress => ports.countP (fun port => !port.input) ≤ 11
  | .remoteI2cRead => ∀ port ∈ ports[portNumber request]?,
      layoutEnd request (numTransactions request) 2 + 2 ≤ 256 ∧
        ∀ start len, asksFor request (numTransactions request) = some (start, len) →
          start + len ≤ port.edidSize.toNat → len ≤ 253
  | _ => True

/-! ## Accepted tables -/

structure Accepted (port port' : SimPort) : Prop where
  input : port'.input = port.input
  edidSize : port'.edidSize = port.edidSize
  edid : port'.edidSize ≠ 0 → port'.edid.isSome

variable {allocated : Nat → Bool}

theorem copyPorts_ok {ports ports' : List SimPort} {k : Nat}
    (copied : copyPorts allocated k ports = .ok ports') : List.Forall₂ Accepted ports ports' := by
  induction ports generalizing k ports' with
  | nil =>
    cases copied
    exact .nil
  | cons port rest ih =>
    by_cases empty : port.edidSize = 0
    · simp only [copyPorts, empty, ne_eq, not_true_eq_false, if_false] at copied
      cases tail : copyPorts allocated k rest with
      | error code => simp [tail, Except.map] at copied
      | ok rest' =>
        simp only [tail, Except.map, Except.ok.injEq] at copied
        subst copied
        exact .cons ⟨rfl, rfl, fun nonempty => absurd empty nonempty⟩ (ih tail)
    · simp only [copyPorts, ne_eq, empty, not_false_eq_true, if_true] at copied
      cases pointer : port.edid with
      | none => simp [pointer] at copied
      | some edid =>
        cases got : allocated k with
        | false => simp [pointer, got] at copied
        | true =>
          cases tail : copyPorts allocated (k + 1) rest with
          | error code => simp [pointer, got, tail, Except.map] at copied
          | ok rest' =>
            simp [pointer, got, tail, Except.map] at copied
            subst copied
            have accepted : Accepted port port.copied :=
              ⟨rfl, rfl, fun _ => by simp [SimPort.copied, pointer]⟩
            exact .cons accepted (ih tail)

theorem update_ok {ctx ctx' : SimContext} {ports : List SimPort}
    (accepted : msmDpMstSimUpdate ctx ports allocated = .ok ctx') :
    ports.length < 15 ∧ List.Forall₂ Accepted ports ctx'.ports := by
  unfold msmDpMstSimUpdate at accepted
  by_cases large : 15 ≤ ports.length
  · simp [large] at accepted
  · cases table : allocated 0 with
    | false => simp [large, table] at accepted
    | true =>
      cases loop : copyPorts allocated 1 ports with
      | error code => simp [large, table, loop, Except.map] at accepted
      | ok ports' =>
        simp [large, table, loop, Except.map] at accepted
        subst accepted
        exact ⟨by omega, copyPorts_ok loop⟩

section

variable {ports ports' : List SimPort}

theorem countP_accepted (same : List.Forall₂ Accepted ports ports') :
    ports'.countP (fun port => !port.input) = ports.countP fun port => !port.input := by
  induction same with
  | nil => rfl
  | cons accepted rest ih => simp [List.countP_cons, ih, accepted.input]

theorem getElem?_accepted (same : List.Forall₂ Accepted ports ports') (i : Nat) :
    (ports[i]? = none ∧ ports'[i]? = none) ∨
      ∃ port port', ports[i]? = some port ∧ ports'[i]? = some port' ∧ Accepted port port' := by
  induction same generalizing i with
  | nil => simp
  | cons accepted rest ih =>
    cases i with
    | zero => exact .inr ⟨_, _, rfl, rfl, accepted⟩
    | succ i => simpa using ih i

end

/-! ## Reads and writes -/

section

variable (ctx : SimContext) (request : Nat → U8)

@[simp] theorem value_downReq (i : Nat) : (ctx.downReq request i).value = request i := rfl

@[simp] theorem within_downReq (i : Nat) :
    (ctx.downReq request i).Within (Inside ctx) ↔ i < 256 := Probe.within_read _ _

variable {ctx}

@[simp] theorem fits_pure {bytes : List U8} :
    Reply.Fits ctx (pure bytes) ↔ bytes.length ≤ 256 :=
  ⟨fun fits => fits.writes, fun short => ⟨short, Probe.within_pure _⟩⟩

@[simp] theorem fits_bind {α : Type} {c : Probe Place α} {f : α → Reply} :
    Reply.Fits ctx (c >>= f) ↔ c.Within (Inside ctx) ∧ (f c.value).Fits ctx := by
  constructor
  · rintro ⟨writes, reads⟩
    rw [Probe.within_bind] at reads
    exact ⟨reads.1, writes, reads.2⟩
  · rintro ⟨first, writes, reads⟩
    exact ⟨writes, (Probe.within_bind c f).mpr ⟨first, reads⟩⟩

theorem fits_ite {c : Prop} [Decidable c] {a b : Reply} :
    Reply.Fits ctx (if c then a else b) ↔ (c → a.Fits ctx) ∧ (¬c → b.Fits ctx) := by
  by_cases yes : c
  · simp [yes]
  · simp [yes]

variable (ctx)

theorem nak_fits : (msmDpSidebandBuildNakRep ctx request).Fits ctx := by
  simp [msmDpSidebandBuildNakRep, ctx.guid.length_toList]

/-! ### Link addresses -/

theorem length_portInfo (i : Nat) (port : SimPort) :
    (portInfo i port).length = if port.input then 2 else 20 := by
  cases kind : port.input with
  | true => simp [portInfo, kind]
  | false => simp [portInfo, kind, port.peerGuid.length_toList]

theorem length_portInfos (ports : List SimPort) (f : Nat → Nat) :
    (ports.mapIdx fun i port => portInfo (f i) port).flatten.length =
      2 * ports.length + 18 * ports.countP fun port => !port.input := by
  induction ports generalizing f with
  | nil => rfl
  | cons port rest ih =>
    have tail := ih (f ∘ Nat.succ)
    rw [List.mapIdx_cons, List.flatten_cons, List.length_append, length_portInfo]
    simp only [Function.comp_apply, Nat.succ_eq_add_one] at tail
    rw [tail, List.countP_cons, List.length_cons]
    cases port.input with
    | true => simp; omega
    | false => simp; omega

theorem linkAddress_fits_iff (few : ctx.ports.length < 15) :
    (msmDpSidebandBuildLinkAddressRep ctx).Fits ctx ↔
      ctx.ports.countP (fun port => !port.input) ≤ 11 := by
  have size : (msmDpSidebandBuildLinkAddressRep ctx).value.length =
      18 + (2 * ctx.ports.length + 18 * ctx.ports.countP fun port => !port.input) := by
    have infos := length_portInfos ctx.ports id
    simp only [id_eq] at infos
    rw [msmDpSidebandBuildLinkAddressRep, Probe.value_pure, List.length_append, infos]
    simp [ctx.guid.length_toList]
  -- fourteen ports of which eleven are outputs take 18 + 28 + 198 bytes
  have outputs := ctx.ports.countP_le_length (p := fun port => !port.input)
  constructor
  · intro fits
    have writes := fits.writes
    omega
  · intro eleven
    exact ⟨by omega, Probe.within_pure _⟩

/-! ### Remote I2C reads -/

theorem le_layoutEnd (n idx : Nat) : idx ≤ layoutEnd request n idx := by
  induction n generalizing idx with
  | zero => exact Nat.le_refl idx
  | succ n ih =>
    have rest := ih (idx + 3 + (request (idx + 1)).toNat)
    rw [layoutEnd]
    omega

@[simp] theorem end_readTransactions (n idx : Nat) :
    (readTransactions ctx request n idx).value.2 = layoutEnd request n idx := by
  induction n generalizing idx with
  | zero => rfl
  | succ n ih => simp [readTransactions, layoutEnd, ih]

theorem within_readTransactions {n idx : Nat} (inside : layoutEnd request n idx ≤ 256) :
    (readTransactions ctx request n idx).Within (Inside ctx) := by
  induction n generalizing idx with
  | zero => exact Probe.within_pure _
  | succ n ih =>
    -- the strides only add up, so the end bounds every byte of this transaction
    rw [layoutEnd] at inside
    have reached := le_layoutEnd request n (idx + 3 + (request (idx + 1)).toNat)
    have rest := ih inside
    simp [readTransactions, rest]
    omega

theorem startOf_spec (n : Nat) :
    (startOf ctx request (readTransactions ctx request n 2).value.1).value =
        (asksFor request n).map Prod.fst ∧
      (startOf ctx request (readTransactions ctx request n 2).value.1).Within (Inside ctx) := by
  match n with
  | 0 => exact ⟨rfl, Probe.within_pure _⟩
  | 1 =>
    by_cases sets : request 2 &&& 0x7f#8 = DDC_ADDR ∧ request 3 = 1#8
    · simp [readTransactions, startOf, I2cTransaction.Sets, asksFor, sets]
    · simp [readTransactions, startOf, I2cTransaction.Sets, asksFor, sets]
  | 2 =>
    by_cases segment : request 2 &&& 0x7f#8 = DDC_SEGMENT_ADDR ∧ request 3 = 1#8
    · -- The segment takes one byte, so that the address is at index 6.
      by_cases address : request 6 &&& 0x7f#8 = DDC_ADDR ∧ request 7 = 1#8
      · simp [readTransactions, startOf, I2cTransaction.Sets, asksFor, segment, address]
      · simp [readTransactions, startOf, I2cTransaction.Sets, asksFor, segment, address]
    · simp [readTransactions, startOf, I2cTransaction.Sets, asksFor, segment]
  | n + 3 => simp [readTransactions, startOf, asksFor]

theorem len_of_asksFor {n start len : Nat} (asks : asksFor request n = some (start, len)) :
    len = (request (layoutEnd request n 2 + 1)).toNat := by
  match n with
  | 0 => cases asks
  | 1 =>
    by_cases sets : request 2 &&& 0x7f#8 = DDC_ADDR ∧ request 3 = 1#8
    · simp [asksFor, sets] at asks
      simp [layoutEnd, sets, ← asks.2]
    · simp [asksFor, sets] at asks
  | 2 =>
    by_cases segment : request 2 &&& 0x7f#8 = DDC_SEGMENT_ADDR ∧ request 3 = 1#8
    · by_cases address : request 6 &&& 0x7f#8 = DDC_ADDR ∧ request 7 = 1#8
      · simp [asksFor, segment, address] at asks
        simp [layoutEnd, segment, address, ← asks.2]
      · simp [asksFor, segment, address] at asks
    · simp [asksFor, segment] at asks
  | n + 3 => cases asks

theorem within_edidBytes {i start len : Nat} {port : SimPort} (found : ctx.ports[i]? = some port)
    (copied : port.edidSize ≠ 0 → port.edid.isSome) (long : start + len ≤ port.edidSize.toNat) :
    (edidBytes ctx request i start len).Within (Inside ctx) := by
  rw [edidBytes, Probe.within_readAll]
  intro place member
  obtain ⟨k, early, rfl⟩ := List.mem_map.mp member
  have early := List.mem_range.mp early
  have nonempty : port.edidSize ≠ 0 := by
    intro empty
    rw [empty] at long
    have zero : start + len ≤ 0 := long
    omega
  exact ⟨port, found, copied nonempty, by omega⟩

theorem remoteI2cRead_fits_iff {port : SimPort} (found : ctx.ports[portNumber request]? = some port)
    (copied : port.edidSize ≠ 0 → port.edid.isSome) :
    (msmDpSidebandBuildRemoteI2cReadRep ctx request).Fits ctx ↔
      layoutEnd request (numTransactions request) 2 + 2 ≤ 256 ∧
        ∀ start len, asksFor request (numTransactions request) = some (start, len) →
          start + len ≤ port.edidSize.toNat → len ≤ 253 := by
  obtain ⟨start, startWithin⟩ := startOf_spec ctx request (numTransactions request)
  have nak := nak_fits ctx request
  rw [portNumber] at found
  rw [numTransactions] at start startWithin ⊢
  simp only [msmDpSidebandBuildRemoteI2cReadRep, fits_bind, value_downReq, found,
    end_readTransactions, within_downReq, start, startWithin]
  generalize stop : layoutEnd request (request 1 &&& 0x3).toNat 2 = e
  have walk : e ≤ 256 →
      (readTransactions ctx request (request 1 &&& 0x3).toNat 2).Within (Inside ctx) :=
    fun inside => within_readTransactions ctx request (stop ▸ inside)
  constructor
  · rintro ⟨-, -, -, inside, -, fits⟩
    refine ⟨inside, ?_⟩
    intro first len asks long
    have size := len_of_asksFor request asks
    rw [stop] at size
    simp only [asks, Option.map_some, ← size, fits_ite, fits_bind] at fits
    -- three bytes are in front of the data
    have written := (fits.2 (Nat.not_lt.mpr long)).2
    simp [edidBytes] at written
    omega
  · rintro ⟨inside, short⟩
    refine ⟨by decide, walk (by omega), by omega, inside, trivial, ?_⟩
    cases asks : asksFor request (request 1 &&& 0x3).toNat with
    | none => exact nak
    | some asked =>
      have size := len_of_asksFor request asks
      rw [stop] at size
      simp only [Option.map_some, ← size, fits_ite, fits_bind]
      refine ⟨fun _ => nak, fun long => ?_⟩
      have long := Nat.le_of_not_lt long
      have few := short asked.1 asked.2 asks long
      have data := within_edidBytes ctx request found copied long
      refine ⟨data, ?_⟩
      simp [edidBytes]
      omega

theorem remoteI2cRead_refused (missing : ctx.ports[portNumber request]? = none) :
    (msmDpSidebandBuildRemoteI2cReadRep ctx request).Fits ctx := by
  have nak := nak_fits ctx request
  rw [portNumber] at missing
  simp only [msmDpSidebandBuildRemoteI2cReadRep, fits_bind, value_downReq, missing, within_downReq]
  exact ⟨by decide, nak⟩

/-! ### The other replies -/

theorem enumPathResources_fits : (msmDpSidebandBuildEnumPathResourcesRep ctx request).Fits ctx := by
  have nak := nak_fits ctx request
  simp only [msmDpSidebandBuildEnumPathResourcesRep, fits_bind, value_downReq, within_downReq]
  refine ⟨by decide, ?_⟩
  cases ctx.ports[(request 1 >>> 4).toNat]? with
  | none => exact nak
  | some port => simp

theorem within_readSinks {n : Nat} (few : n < 16) :
    (readSinks ctx request n 5).Within (Inside ctx) := by
  rw [readSinks, Probe.within_readAll]
  intro place member
  obtain ⟨k, early, rfl⟩ := List.mem_map.mp member
  have early := List.mem_range.mp early
  show 5 + k < 256
  omega

theorem allocatePayload_fits : (msmDpSidebandBuildAllocatePayloadRep ctx request).Fits ctx := by
  have nak := nak_fits ctx request
  have sinks : (readSinks ctx request (request 1 &&& 0xF).toNat 5).Within (Inside ctx) := by
    apply within_readSinks
    have small : ∀ x : U8, (x &&& 0xF).toNat < 16 := by decide
    exact small (request 1)
  simp only [msmDpSidebandBuildAllocatePayloadRep, fits_bind, fits_ite, within_downReq]
  refine ⟨by decide, by decide, by decide, by decide, sinks, fun _ => nak, ?_⟩
  simp

theorem powerUpdownPhy_fits : (msmDpSidebandBuildPowerUpdownPhyRep ctx request).Fits ctx := by
  have nak := nak_fits ctx request
  simp only [msmDpSidebandBuildPowerUpdownPhyRep, fits_bind, fits_ite, within_downReq]
  refine ⟨by decide, fun _ => nak, ?_⟩
  simp

theorem clearPayloadIdTable_fits : msmDpSidebandBuildClearPayloadIdTableRep.Fits ctx := by
  simp [msmDpSidebandBuildClearPayloadIdTableRep]

end

/-! ## Every builder -/

/-- For an accepted table, each builder stays inside exactly where its own condition holds. -/
theorem builders_fit_iff {ctx ctx' : SimContext} {ports : List SimPort} {allocated : Nat → Bool}
    (accepted : msmDpMstSimUpdate ctx ports allocated = .ok ctx') (request : Nat → U8)
    (builder : Builder) :
    (builder.build ctx' request).Fits ctx' ↔ builder.FitsWhen ports request := by
  obtain ⟨few, same⟩ := update_ok accepted
  cases builder with
  | nak => exact iff_of_true (nak_fits ctx' request) trivial
  | linkAddress =>
    rw [Builder.FitsWhen, ← countP_accepted same]
    exact linkAddress_fits_iff ctx' (same.length_eq ▸ few)
  | remoteI2cRead =>
    rcases getElem?_accepted same (portNumber request) with
      ⟨missing, missing'⟩ | ⟨port, port', found, found', shared⟩
    · have refused := remoteI2cRead_refused ctx' request missing'
      exact iff_of_true refused (by simp [Builder.FitsWhen, missing])
    · have reads := remoteI2cRead_fits_iff ctx' request found' shared.edid
      simp only [Builder.FitsWhen, found, Option.mem_some_iff, forall_eq']
      rw [shared.edidSize] at reads
      exact reads
  | enumPathResources => exact iff_of_true (enumPathResources_fits ctx' request) trivial
  | allocatePayload => exact iff_of_true (allocatePayload_fits ctx' request) trivial
  | powerUpdownPhy => exact iff_of_true (powerUpdownPhy_fits ctx' request) trivial
  | clearPayloadIdTable => exact iff_of_true (clearPayloadIdTable_fits ctx') trivial

/-- An output port as `dp_mst_sim` sets it up, without an EDID. -/
def outputPort : SimPort :=
  { input := false, mcs := false, ddps := true, pdt := 3, ldps := false, dpcdRev := 0x12
    peerGuid := Buffer.replicate 16 0, numSdpStreams := 0, numSdpStreamSinks := 0, fullPbn := 2520
    availPbn := 2520, edid := none, edidSize := 0 }

def simWith (n : Nat) : SimContext :=
  { guid := Buffer.replicate 16 0, ports := List.replicate n outputPort }

/-- Eleven output ports, and a request for their addresses. -/
theorem builders_fit_iff_elevenOutputs :
    (Builder.linkAddress.build (simWith 11) fun _ => 0x01).Fits (simWith 11) ↔
      Builder.linkAddress.FitsWhen (List.replicate 11 outputPort) fun _ => 0x01 :=
  @builders_fit_iff (simWith 0) (simWith 11) _ (fun _ => true) rfl _ _

/-- The addresses of twelve output ports take 258 bytes. -/
theorem twelve_outputs_overflow :
    ¬∀ (ctx ctx' : SimContext) (ports : List SimPort) (allocated : Nat → Bool),
      msmDpMstSimUpdate ctx ports allocated = .ok ctx' →
        ∀ (request : Nat → U8) (builder : Builder), (builder.build ctx' request).Fits ctx' := by
  intro every
  have fits := every (simWith 0) (simWith 12) (List.replicate 12 outputPort) (fun _ => true) rfl
    (fun _ => 0x01) .linkAddress
  have eleven := (linkAddress_fits_iff (simWith 12) (by decide)).mp fits
  exact absurd eleven (by decide)

end DisplayDrivers.DpMst
