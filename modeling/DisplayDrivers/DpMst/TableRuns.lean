import DisplayDrivers.Lib.Run
import DisplayDrivers.DpMst.Tables

/-! # The port table over whole runs

A request of the host is put into a queue. The work that handles it takes no lock while it builds
the reply from the table and its EDIDs, and `msm_dp_mst_sim_destroy` frees the table before it
drains the queue.
-/

namespace DisplayDrivers.DpMst

open DisplayDrivers.Lib DisplayDrivers.Lib.Run

def TableContext.pointerOf (ctx : TableContext) : Place → Option Ptr
  | .request _ => none
  | .edid port _ => ctx.entries[port]?.map Entry.edid

/-- The reply to a request; one that is refused counts as a look at the table like the others. -/
def msmDpMstSimReply (ctx : TableContext) (request : Nat → U8) : TableContext :=
  if ctx.entries = [] then ctx
  else
    let reads := ((Builder.ofCommand (request 0)).build ctx.simContext request).reads
    { ctx with heap := ctx.heap.accessAll (ctx.ports :: reads.filterMap ctx.pointerOf) }

/-! ## Runs -/

/-- The context, the arguments of an update that has freed the old table, the requests in the queue,
    and whether the context has been destroyed. `kept` is whether every update that failed has left
    the context without ports or with its previous table. -/
structure Session where
  ctx : TableContext
  updating : Option (List SimPort × (Nat → Bool))
  queue : List (Nat → U8)
  destroyed : Bool
  kept : Prop

/-- The context of `msm_dp_mst_sim_create`. -/
def Session.init (guid : Buffer U8 16) : Session :=
  { ctx := { heap := Heap.empty, guid, ports := .null, entries := [] }
    updating := none, queue := [], destroyed := false, kept := True }

/-- `update` runs until the old table is freed, `build` is the rest of it; `transfer` is the write
    that completes a request, and `work` handles the first one in the queue. -/
inductive Call
  | update (ports : List SimPort) (allocated : Nat → Bool)
  | build
  | transfer (request : Nat → U8)
  | work
  | destroy

def TableContext.Keeps (before after : TableContext) : Prop :=
  after.entries = [] ∨ (after.ports = before.ports ∧ after.entries = before.entries)

def step (s : Session) : Call → Session
  | .update ports allocated =>
    -- one update holds `session_lock`, and a destroyed context is given no calls
    if s.destroyed ∨ s.updating.isSome then s
    else if 15 ≤ ports.length then s
    else { s with ctx := s.ctx.freed, updating := some (ports, allocated) }
  | .build =>
    match s.updating with
    | none => s
    | some (ports, allocated) =>
      let built := buildTable s.ctx ports allocated
      { s with
        ctx := built.1
        updating := none
        kept := s.kept ∧ (built.2 ≠ 0 → s.ctx.Keeps built.1) }
  | .transfer request =>
    if s.destroyed ∨ s.ctx.entries = [] then s else { s with queue := s.queue ++ [request] }
  | .work =>
    match s.queue with
    | [] => s
    | request :: rest => { s with ctx := msmDpMstSimReply s.ctx request, queue := rest }
  -- `destroy_workqueue` has the works that are left run on
  | .destroy => if s.destroyed then s else { s with ctx := s.ctx.freed, destroyed := true }

structure Safe (s : Session) : Prop where
  clean : s.ctx.heap.faults = []
  kept : s.kept

/-- The updates that are refused, those that fail before the table is built, and those that build
    one: every port has an EDID or neither a size nor a pointer, and every allocation succeeds. -/
def Call.Fits (ports : List SimPort) (allocated : Nat → Bool) : Prop :=
  15 ≤ ports.length ∨ allocated 0 = false ∨
    ((∀ port ∈ ports, port.edidSize = 0 ↔ port.edid = none) ∧
      ∀ i < ports.countP (·.edidSize ≠ 0), allocated (1 + i) = true)

/-- An update fits, and neither it nor the destruction has a request to be handled beside it. -/
def Call.Meets (s : Session) : Call → Prop
  | .update ports allocated => s.queue = [] ∧ Fits ports allocated
  | .transfer _ => s.updating.isSome → s.ctx.entries = []
  | .destroy => s.queue = [] ∧ s.updating = none
  | .build => True
  | .work => True

/-! ## Building a reply -/

section Reply
variable (ctx : SimContext) (request : Nat → U8)

def InTable : Place → Prop
  | .request _ => True
  | .edid port k => ∃ p ∈ ctx.ports[port]?, k < p.edidSize.toNat

@[simp] theorem inTable_downReq (i : Nat) : (ctx.downReq request i).Within (InTable ctx) :=
  (Probe.within_read _ _).mpr trivial

theorem inTable_ite {α : Type} {c : Prop} [Decidable c] {a b : Probe Place α}
    (yes : c → a.Within (InTable ctx)) (no : ¬ c → b.Within (InTable ctx)) :
    (if c then a else b).Within (InTable ctx) := by
  by_cases holds : c
  · simpa [holds] using yes holds
  · simpa [holds] using no holds

theorem inTable_nak : (msmDpSidebandBuildNakRep ctx request).Within (InTable ctx) := by
  simp [msmDpSidebandBuildNakRep]

theorem inTable_readTransactions (n idx : Nat) :
    (readTransactions ctx request n idx).Within (InTable ctx) := by
  induction n generalizing idx with
  | zero => exact Probe.within_pure _
  | succ n ih => simp [readTransactions, ih]

theorem inTable_startOf (transactions : List I2cTransaction) :
    (startOf ctx request transactions).Within (InTable ctx) := by
  match transactions with
  | [] => exact Probe.within_pure _
  | [address] =>
    apply inTable_ite
    · simp
    · simp
  | [segment, address] =>
    apply inTable_ite
    · simp
    · simp
  | _ :: _ :: _ :: _ => exact Probe.within_pure _

theorem inTable_edidBytes {i start len : Nat} {port : SimPort} (found : ctx.ports[i]? = some port)
    (long : start + len ≤ port.edidSize.toNat) :
    (edidBytes ctx request i start len).Within (InTable ctx) := by
  rw [edidBytes, Probe.within_readAll]
  intro place member
  obtain ⟨k, early, rfl⟩ := List.mem_map.mp member
  have early := List.mem_range.mp early
  exact ⟨port, found, by omega⟩

theorem inTable_remoteI2cRead :
    (msmDpSidebandBuildRemoteI2cReadRep ctx request).Within (InTable ctx) := by
  have nak := inTable_nak ctx request
  simp only [msmDpSidebandBuildRemoteI2cReadRep, Probe.within_bind, inTable_downReq, true_and]
  cases found : ctx.ports[((ctx.downReq request 1).value >>> 4).toNat]? with
  | none => exact nak
  | some port =>
    simp only [Probe.within_bind, inTable_downReq, inTable_readTransactions, inTable_startOf,
      true_and]
    split
    · exact nak
    · apply inTable_ite
      · exact fun _ => nak
      · intro long
        simp only [Probe.within_bind, Probe.within_pure, and_true]
        exact inTable_edidBytes ctx request found (Nat.le_of_not_lt long)

theorem inTable_build (builder : Builder) : (builder.build ctx request).Within (InTable ctx) := by
  have nak := inTable_nak ctx request
  cases builder with
  | nak => exact nak
  | linkAddress => exact Probe.within_pure _
  | remoteI2cRead => exact inTable_remoteI2cRead ctx request
  | enumPathResources =>
    simp only [Builder.build, msmDpSidebandBuildEnumPathResourcesRep, Probe.within_bind,
      inTable_downReq, true_and]
    split
    · exact nak
    · exact Probe.within_pure _
  | allocatePayload =>
    have sinks (n idx : Nat) : (readSinks ctx request n idx).Within (InTable ctx) := by
      rw [readSinks, Probe.within_readAll]
      intro place member
      obtain ⟨k, -, rfl⟩ := List.mem_map.mp member
      trivial
    simp only [Builder.build, msmDpSidebandBuildAllocatePayloadRep, Probe.within_bind,
      inTable_downReq, sinks, true_and]
    exact inTable_ite ctx (fun _ => nak) fun _ => Probe.within_pure _
  | powerUpdownPhy =>
    simp only [Builder.build, msmDpSidebandBuildPowerUpdownPhyRep, Probe.within_bind,
      inTable_downReq, true_and]
    apply inTable_ite
    · exact fun _ => nak
    · simp
  | clearPayloadIdTable => exact Probe.within_pure _

end Reply

/-! ## Whole runs -/

section Step
variable {ctx : TableContext} {ports : List SimPort} {allocated : Nat → Bool}

theorem Owned.reply (owned : Owned ctx) (request : Nat → U8) :
    msmDpMstSimReply ctx request = ctx := by
  by_cases some : ctx.entries = []
  · simp [msmDpMstSimReply, some]
  have inside := inTable_build ctx.simContext request (Builder.ofCommand (request 0))
  have same : ctx.heap.accessAll (ctx.ports ::
      (((Builder.ofCommand (request 0)).build ctx.simContext request).reads.filterMap
        ctx.pointerOf)) = ctx.heap := by
    apply owned.holds.accessAll
    intro p touched
    cases touched with
    | head => exact ⟨by simp, owned.table some⟩
    | tail _ later =>
      obtain ⟨place, read, found⟩ := List.mem_filterMap.mp later
      cases place with
      -- a byte of the request lies in the context, behind no pointer
      | request i => cases found
      | edid i k =>
        -- a byte that is read lies within a size, so the size is not 0 and the EDID was copied
        obtain ⟨port, listed, early⟩ := inside _ read
        obtain ⟨entry, there, rfl⟩ := Option.map_eq_some_iff.mp found
        have member : entry ∈ ctx.entries := List.mem_of_getElem? there
        have size : entry.port.edidSize ≠ 0 := by
          intro empty
          have same : entry.port = port := by
            simpa [TableContext.simContext, there] using listed
          rw [← same, empty] at early
          exact Nat.not_lt_zero k early
        exact ⟨List.mem_append_left _ (List.mem_map_of_mem member), owned.copied entry member size⟩
  simp [msmDpMstSimReply, some, same]

/-- The old table is freed, and the next one not built yet. -/
structure Freed (ctx : TableContext) : Prop where
  holds : ctx.heap.Holds []
  clean : ctx.heap.faults = []

theorem Owned.freed (owned : Owned ctx) : Freed ctx.freed :=
  ⟨owned.freeTable.1, owned.freeTable.2⟩

theorem Freed.build (freed : Freed ctx) (small : ¬15 ≤ ports.length)
    (fits : Call.Fits ports allocated) :
    Owned (buildTable ctx ports allocated).1 ∧
      ((buildTable ctx ports allocated).2 ≠ 0 → ctx.Keeps (buildTable ctx ports allocated).1) := by
  cases got : allocated 0 with
  | false =>
    simp only [buildTable, got]
    refine ⟨{ holds := ?_, table := ?_, copied := ?_, clean := freed.clean }, fun _ => .inl rfl⟩
    · exact Heap.holds_null_cons.mpr freed.holds
    · intro some
      exact absurd rfl some
    · intro entry member
      cases member
  | true =>
    simp only [Call.Fits, small, false_or, got, Bool.true_eq_false] at fits
    obtain ⟨edids, allocations⟩ := fits
    have ok : (fillPorts allocated 1 ports ctx.heap.alloc).rc = 0 := by
      rw [fillPorts_rc_iff]
      exact ⟨fun port member size empty => size ((edids port member).mpr empty), allocations⟩
    have holds := holds_fillPorts ok (fun port member => (edids port member).mp) freed.holds.alloc
    simp only [buildTable, got, if_true, ok, ne_eq, not_true_eq_false, if_false]
    refine ⟨{ holds := holds, table := ?_, copied := copied_fillPorts ok, clean := ?_ }, False.elim⟩
    · simp
    · simp [freed.clean]

end Step

/-- Between the calls the table is owned; while an update or after the destruction has freed it, no
    request is left to be handled. -/
inductive Session.Stage (s : Session) : Prop
  | ready (owned : Owned s.ctx) (idle : s.updating = none) (live : s.destroyed = false)
  | freed (ports : List SimPort) (allocated : Nat → Bool) (freed : Freed s.ctx)
      (updating : s.updating = some (ports, allocated)) (small : ¬15 ≤ ports.length)
      (fits : Call.Fits ports allocated) (handled : s.queue = []) (live : s.destroyed = false)
  | destroyed (freed : Freed s.ctx) (handled : s.queue = []) (idle : s.updating = none)
      (dead : s.destroyed = true)

structure Sound (s : Session) : Prop where
  stage : s.Stage
  kept : s.kept

variable {s : Session}

theorem Sound.safe (sound : Sound s) : Safe s where
  clean := by
    cases sound.stage with
    | ready owned => exact owned.clean
    | freed _ _ freed => exact freed.clean
    | destroyed freed => exact freed.clean
  kept := sound.kept

theorem Sound.work (sound : Sound s) : Sound (step s .work) := by
  cases queue : s.queue with
  | nil =>
    have same : step s .work = s := by rw [step, queue]
    rwa [same]
  | cons request rest =>
    have worked : step s .work =
        { s with ctx := msmDpMstSimReply s.ctx request, queue := rest } := by
      rw [step, queue]
    rw [worked]
    cases sound.stage with
    | ready owned idle live =>
      refine ⟨.ready ?_ idle live, sound.kept⟩
      show Owned (msmDpMstSimReply s.ctx request)
      rwa [owned.reply request]
    -- a table that is freed has no request left
    | freed _ _ _ _ _ _ handled => rw [queue] at handled; cases handled
    | destroyed _ handled => rw [queue] at handled; cases handled

theorem Sound.transfer (sound : Sound s) {request : Nat → U8}
    (meets : (Call.transfer request).Meets s) : Sound (step s (.transfer request)) := by
  rw [step]
  split
  · exact sound
  · rename_i taken
    obtain ⟨live, some⟩ := not_or.mp taken
    cases sound.stage with
    | ready owned idle live => exact ⟨.ready owned idle live, sound.kept⟩
    | freed _ _ _ updating => exact absurd (meets (by rw [updating]; rfl)) some
    | destroyed _ _ _ dead => exact absurd dead live

theorem Sound.update (sound : Sound s) {ports : List SimPort}
    {allocated : Nat → Bool} (meets : (Call.update ports allocated).Meets s) :
    Sound (step s (.update ports allocated)) := by
  rw [step]
  split
  · exact sound
  · rename_i begins
    obtain ⟨live, idle⟩ := not_or.mp begins
    split
    · exact sound
    · rename_i small
      cases sound.stage with
      | ready owned idle live =>
        exact ⟨.freed ports allocated owned.freed rfl small meets.2 meets.1 live, sound.kept⟩
      | freed _ _ _ updating => exact absurd (by rw [updating]; rfl) idle
      | destroyed _ _ _ dead => exact absurd dead live

theorem Sound.build (sound : Sound s) : Sound (step s .build) := by
  cases sound.stage with
  | ready _ idle =>
    have same : step s .build = s := by rw [step, idle]
    rwa [same]
  | destroyed _ _ idle =>
    have same : step s .build = s := by rw [step, idle]
    rwa [same]
  | freed ports allocated freed updating small fits handled live =>
    obtain ⟨owned, kept⟩ := freed.build small fits
    rw [step, updating]
    exact ⟨.ready owned rfl live, sound.kept, kept⟩

theorem Sound.destroy (sound : Sound s) (meets : Call.destroy.Meets s) :
    Sound (step s .destroy) := by
  rw [step]
  split
  · exact sound
  · rename_i live
    cases sound.stage with
    | ready owned idle => exact ⟨.destroyed owned.freed meets.1 idle rfl, sound.kept⟩
    | freed _ _ _ updating => rw [meets.2] at updating; cases updating
    | destroyed _ _ _ dead => exact absurd dead live

theorem Sound.step {call : Call} (sound : Sound s) (meets : call.Meets s) :
    Sound (step s call) := by
  cases call with
  | update ports allocated => exact sound.update meets
  | build => exact sound.build
  | transfer request => exact sound.transfer meets
  | work => exact sound.work
  | destroy => exact sound.destroy meets

theorem sound_init (guid : Buffer U8 16) : Sound (Session.init guid) where
  stage := .ready
    { holds := Heap.holds_null_cons.mpr Heap.holds_empty
      table := fun some => absurd rfl some
      copied := fun _ member => nomatch member
      clean := rfl } rfl rfl
  kept := trivial

/-- From its creation to its destruction and the end of its works, the simulator frees and touches
    only live memory of its own, and an update that fails leaves no ports or the previous table, in
    every run in which every update fits and neither an update nor the destruction overlaps with a
    request. -/
theorem safe_throughout (guid : Buffer U8 16) (calls : List Call)
    (meets : StepsMeet step Call.Meets (Session.init guid) calls) :
    Throughout step Safe (Session.init guid) calls :=
  throughout_of_meets Sound (fun _ _ => Sound.step) (fun _ => Sound.safe) (sound_init guid) meets

def monitor : SimPort := { Entry.zero.port with edid := some fun _ => 0, edidSize := 128 }

def linkAddress : Nat → U8 := fun _ => 1

/-- A table is built, a request is handled, the table is emptied, and the context destroyed. -/
theorem safe_throughout_monitor :
    Throughout step Safe (Session.init (Buffer.replicate 16 0))
      [.update [monitor] fun _ => true, .build, .transfer linkAddress, .work,
        .update [] fun _ => true, .build, .destroy] := by
  refine safe_throughout _ _ ⟨⟨rfl, .inr (.inr ⟨?_, fun _ _ => rfl⟩)⟩, trivial, nofun, trivial,
    ⟨rfl, .inr (.inr ⟨nofun, fun _ _ => rfl⟩)⟩, trivial, ⟨rfl, rfl⟩, trivial⟩
  intro port member
  rw [List.mem_singleton.mp member]
  simp [monitor]

def missingEdid : SimPort := { Entry.zero.port with edidSize := 128 }

/-- The update that is given a size without an EDID returns `-EINVAL`, and the context is not to be
    destroyed; nor is it while a request waits. -/
theorem not_safe_throughout :
    ¬Throughout step Safe (Session.init (Buffer.replicate 16 0))
        [.update [missingEdid] fun _ => true, .build, .destroy] ∧
      ¬Throughout step Safe (Session.init (Buffer.replicate 16 0))
        [.update [monitor] fun _ => true, .build, .transfer linkAddress, .destroy, .work] := by
  constructor
  · intro safe
    have last := ( throughout_iff_prefix.mp safe _ [] (List.append_nil _).symm).clean
    exact absurd (congrArg List.length last) (by decide)
  · intro safe
    have last := ( throughout_iff_prefix.mp safe _ [] (List.append_nil _).symm).clean
    exact absurd (congrArg List.length last) (by decide)

end DisplayDrivers.DpMst
