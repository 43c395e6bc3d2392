import DisplayDrivers.Lib.Heap
import DisplayDrivers.DpMst.Builders

/-! # The memory of the port table

`msm_dp_mst_sim_update` frees the table and the EDIDs of its ports before it builds the next table.
While it builds, an entry holds the pointer of the caller until a copy takes its place.
-/

namespace DisplayDrivers.DpMst

open DisplayDrivers.Lib

structure Entry where
  port : SimPort
  edid : Ptr

def Entry.given (port : SimPort) : Entry :=
  { port, edid := if port.edid.isSome then .foreign else .null }

def Entry.zero : Entry :=
  { port :=
      { input := false, mcs := false, ddps := false, pdt := 0, ldps := false, dpcdRev := 0
        peerGuid := Buffer.replicate 16 0, numSdpStreams := 0, numSdpStreamSinks := 0, fullPbn := 0
        availPbn := 0, edid := none, edidSize := 0 }
    edid := .null }

/-- The fields of `struct msm_dp_mst_sim_context` for the table, and the heap; `port_num` is the
    length of `entries`. -/
structure TableContext where
  heap : Heap
  guid : Buffer U8 16
  ports : Ptr
  entries : List Entry

def TableContext.simContext (ctx : TableContext) : SimContext :=
  { guid := ctx.guid, ports := ctx.entries.map Entry.port }

/-- `for (i = 0; i < ctx->port_num; i++) kfree(ctx->ports[i].edid); kfree(ctx->ports);` -/
def TableContext.freeTable (ctx : TableContext) : Heap :=
  (ctx.entries.foldl (fun heap entry => (heap.access ctx.ports).free entry.edid) ctx.heap).free
    ctx.ports

structure Filled where
  entries : List Entry
  heap : Heap
  rc : Int

def Filled.cons (entry : Entry) (filled : Filled) : Filled :=
  { filled with entries := entry :: filled.entries }

/-- The loop of `msm_dp_mst_sim_update`; `allocated k` is whether the `k`-th allocation succeeds. -/
def fillPorts (allocated : Nat → Bool) : Nat → List SimPort → Heap → Filled
  | _, [], heap => { entries := [], heap, rc := 0 }
  | k, port :: rest, heap =>
    -- the entry at hand has the caller's pointer, the ones behind it are as `kcalloc` left them
    let stopped (rc : Int) : Filled :=
      { entries := Entry.given port :: rest.map fun _ => Entry.zero, heap, rc }
    if port.edidSize ≠ 0 then
      if port.edid.isNone then stopped (-EINVAL)
      else if allocated k then
        (fillPorts allocated (k + 1) rest heap.alloc).cons
          { port := port.copied, edid := .block heap.next }
      else stopped (-ENOMEM)
    else (fillPorts allocated k rest heap).cons (Entry.given port)

/-- What `msm_dp_mst_sim_update` does after the old table is freed, and what it returns. -/
def buildTable (ctx : TableContext) (ports : List SimPort) (allocated : Nat → Bool) :
    TableContext × Int :=
  if allocated 0 then
    let filled := fillPorts allocated 1 ports ctx.heap.alloc
    let built : TableContext :=
      { heap := filled.heap, guid := ctx.guid, ports := .block ctx.heap.next
        entries := filled.entries }
    -- `ports` and `port_num` keep their values when the table is freed again
    if filled.rc ≠ 0 then ({ built with heap := built.freeTable }, filled.rc) else (built, 0)
  else ({ heap := ctx.heap, guid := ctx.guid, ports := .null, entries := [] }, -ENOMEM)

/-- The loop that `msm_dp_mst_sim_update` begins with, and `msm_dp_mst_sim_destroy`; the context
    still has the address and the length of the table. -/
def TableContext.freed (ctx : TableContext) : TableContext := { ctx with heap := ctx.freeTable }

/-! ## Freeing the table -/

structure Owned (ctx : TableContext) : Prop where
  holds : ctx.heap.Holds (ctx.entries.map Entry.edid ++ [ctx.ports])
  table : ctx.entries ≠ [] → ctx.ports ≠ .null
  copied : ∀ entry ∈ ctx.entries, entry.port.edidSize ≠ 0 → entry.edid ≠ .null
  clean : ctx.heap.faults = []

section Free
variable {heap : Heap} {entries : List Entry} {ports : Ptr}

def freeEntry (ports : Ptr) (heap : Heap) (entry : Entry) : Heap :=
  (heap.access ports).free entry.edid

theorem freeTable_eq (ctx : TableContext) :
    ctx.freeTable = (ctx.entries.foldl (freeEntry ctx.ports) ctx.heap).free ctx.ports := rfl

theorem foldl_freeEntry_of_holds (holds : heap.Holds (entries.map Entry.edid ++ [ports]))
    (table : entries ≠ [] → ports ≠ .null) :
    (entries.foldl (freeEntry ports) heap).Holds [ports] ∧
      (entries.foldl (freeEntry ports) heap).faults = heap.faults := by
  induction entries generalizing heap with
  | nil => exact ⟨holds, rfl⟩
  | cons entry rest ih =>
    -- the table itself is held to the end of the loop, so every round may look at it
    have looked : heap.access ports = heap := holds.access (by simp) (table (by simp))
    obtain ⟨after, none⟩ := Heap.Holds.free holds
    obtain ⟨last, same⟩ := ih after fun _ => table (by simp)
    simp only [List.foldl_cons, freeEntry, looked]
    exact ⟨last, same.trans none⟩

theorem Owned.freeTable {ctx : TableContext} (owned : Owned ctx) :
    ctx.freeTable.Holds [] ∧ ctx.freeTable.faults = [] := by
  obtain ⟨after, none⟩ := foldl_freeEntry_of_holds owned.holds owned.table
  obtain ⟨last, same⟩ := Heap.Holds.free after
  rw [freeTable_eq]
  exact ⟨last, same.trans (none.trans owned.clean)⟩

end Free

/-! ## Building the table -/

section Fill
variable {allocated : Nat → Bool} {k : ℕ} {port : SimPort} {rest : List SimPort} {heap : Heap}

theorem fillPorts_bare (empty : port.edidSize = 0) :
    fillPorts allocated k (port :: rest) heap =
      (fillPorts allocated k rest heap).cons (Entry.given port) := by
  simp [fillPorts, empty]

theorem fillPorts_copied (size : port.edidSize ≠ 0) (edid : port.edid ≠ none)
    (got : allocated k = true) :
    fillPorts allocated k (port :: rest) heap =
      (fillPorts allocated (k + 1) rest heap.alloc).cons
        { port := port.copied, edid := .block heap.next } := by
  simp only [fillPorts, ne_eq, size, not_false_eq_true, if_true, got]
  simp [edid]

theorem fillPorts_stopped (size : port.edidSize ≠ 0)
    (stops : port.edid = none ∨ allocated k = false) :
    fillPorts allocated k (port :: rest) heap =
      { entries := Entry.given port :: rest.map fun _ => Entry.zero, heap
        rc := if port.edid = none then -EINVAL else -ENOMEM } := by
  simp only [fillPorts, ne_eq, size, not_false_eq_true, if_true]
  cases edid : port.edid with
  | none => simp
  | some edid =>
    have failed : allocated k = false := by simpa [edid] using stops
    simp [failed]

theorem fill_induction {motive : ℕ → List SimPort → Heap → Filled → Prop}
    (nil : ∀ k heap, motive k [] heap { entries := [], heap, rc := 0 })
    (bare : ∀ k port rest heap filled, port.edidSize = 0 → motive k rest heap filled →
      motive k (port :: rest) heap (filled.cons (Entry.given port)))
    (copied : ∀ k port rest heap filled, port.edidSize ≠ 0 → port.edid ≠ none →
      allocated k = true → motive (k + 1) rest heap.alloc filled →
      motive k (port :: rest) heap
        (filled.cons { port := port.copied, edid := .block heap.next }))
    (stopped : ∀ k port rest heap, port.edidSize ≠ 0 →
      port.edid = none ∨ allocated k = false →
      motive k (port :: rest) heap
        { entries := Entry.given port :: rest.map fun _ => Entry.zero, heap
          rc := if port.edid = none then -EINVAL else -ENOMEM })
    (k : ℕ) (ports : List SimPort) (heap : Heap) :
    motive k ports heap (fillPorts allocated k ports heap) := by
  induction ports generalizing k heap with
  | nil => exact nil k heap
  | cons port rest ih =>
    by_cases size : port.edidSize = 0
    · rw [fillPorts_bare size]
      exact bare k port rest heap _ size (ih k heap)
    by_cases edid : port.edid = none
    · rw [fillPorts_stopped size (.inl edid)]
      exact stopped k port rest heap size (.inl edid)
    cases got : allocated k with
    | false =>
      rw [fillPorts_stopped size (.inr got)]
      exact stopped k port rest heap size (.inr got)
    | true =>
      rw [fillPorts_copied size edid got]
      exact copied k port rest heap _ size edid got (ih (k + 1) heap.alloc)

theorem rc_stopped_ne (port : SimPort) : (if port.edid = none then -EINVAL else -ENOMEM) ≠ 0 := by
  split <;> decide

def copies (ports : List SimPort) : ℕ := ports.countP (·.edidSize ≠ 0)

theorem copies_cons_of_pos (size : port.edidSize ≠ 0) : copies (port :: rest) = copies rest + 1 :=
  List.countP_cons_of_pos (by simpa using size)

theorem copies_cons_of_neg (empty : port.edidSize = 0) : copies (port :: rest) = copies rest :=
  List.countP_cons_of_neg (by simpa using empty)

theorem forall_lt_succ_iff {n : ℕ} :
    (∀ i < n + 1, allocated (k + i) = true) ↔
      allocated k = true ∧ ∀ i < n, allocated (k + 1 + i) = true := by
  constructor
  · intro every
    exact ⟨every 0 (Nat.succ_pos n), fun i early => by
      rw [Nat.add_assoc, Nat.add_comm 1 i]
      exact every (i + 1) (Nat.succ_lt_succ early)⟩
  · rintro ⟨first, later⟩ i early
    cases i with
    | zero => exact first
    | succ i =>
      rw [Nat.add_comm i 1, ← Nat.add_assoc]
      exact later i (Nat.lt_of_succ_lt_succ early)

theorem fillPorts_rc_iff (k : ℕ) (ports : List SimPort) (heap : Heap) :
    (fillPorts allocated k ports heap).rc = 0 ↔
      (∀ port ∈ ports, port.edidSize ≠ 0 → port.edid ≠ none) ∧
        ∀ i < copies ports, allocated (k + i) = true := by
  apply fill_induction (motive := fun k ports _ filled => filled.rc = 0 ↔
    (∀ port ∈ ports, port.edidSize ≠ 0 → port.edid ≠ none) ∧
      ∀ i < copies ports, allocated (k + i) = true)
  · simp [copies]
  · intro k port rest heap filled empty ih
    rw [copies_cons_of_neg empty]
    simpa [Filled.cons, empty] using ih
  · intro k port rest heap filled size edid got ih
    rw [copies_cons_of_pos size, forall_lt_succ_iff]
    simpa [Filled.cons, edid, got] using ih
  · intro k port rest heap size stops
    rw [copies_cons_of_pos size, forall_lt_succ_iff]
    refine iff_of_false (rc_stopped_ne port) fun every => ?_
    -- what stops the loop is the one or the other of the two conditions
    have edid := every.1 port List.mem_cons_self size
    simp [edid, every.2.1] at stops

@[simp] theorem faults_fillPorts (k : ℕ) (ports : List SimPort) (heap : Heap) :
    (fillPorts allocated k ports heap).heap.faults = heap.faults := by
  apply fill_induction (motive := fun _ _ heap filled => filled.heap.faults = heap.faults)
  · simp
  · exact fun _ _ _ _ _ _ ih => ih
  · exact fun _ _ _ _ _ _ _ _ ih => ih
  · simp

theorem filled_induction {motive : List SimPort → Heap → Filled → Prop}
    (nil : ∀ heap, motive [] heap { entries := [], heap, rc := 0 })
    (bare : ∀ port rest heap filled, port.edidSize = 0 → motive rest heap filled →
      motive (port :: rest) heap (filled.cons (Entry.given port)))
    (copied : ∀ port rest heap filled, port.edidSize ≠ 0 → motive rest heap.alloc filled →
      motive (port :: rest) heap
        (filled.cons { port := port.copied, edid := .block heap.next }))
    {ports : List SimPort} (ok : (fillPorts allocated k ports heap).rc = 0) :
    motive ports heap (fillPorts allocated k ports heap) := by
  revert ok
  apply fill_induction (motive := fun _ ports heap filled =>
    filled.rc = 0 → motive ports heap filled)
  · exact fun _ heap _ => nil heap
  · exact fun k port rest heap filled size ih ok => bare port rest heap filled size (ih ok)
  · exact fun k port rest heap filled size _ _ ih ok => copied port rest heap filled size (ih ok)
  · exact fun k port rest heap _ _ ok => absurd ok (rc_stopped_ne port)

theorem holds_fillPorts {ports : List SimPort} {pointers : List Ptr}
    (ok : (fillPorts allocated k ports heap).rc = 0)
    (none : ∀ port ∈ ports, port.edidSize = 0 → port.edid = none)
    (holds : heap.Holds pointers) :
    (fillPorts allocated k ports heap).heap.Holds
      ((fillPorts allocated k ports heap).entries.map Entry.edid ++ pointers) := by
  revert none pointers
  refine filled_induction (motive := fun ports heap filled => ∀ {pointers : List Ptr},
    (∀ port ∈ ports, port.edidSize = 0 → port.edid = .none) → heap.Holds pointers →
      filled.heap.Holds (filled.entries.map Entry.edid ++ pointers)) ?_ ?_ ?_ ok
  · intro heap pointers _ holds
    exact holds
  · intro port rest heap filled empty ih pointers none holds
    have given : (Entry.given port).edid = .null := by
      simp [Entry.given, none port List.mem_cons_self empty]
    have tail := ih (fun other member => none other (.tail port member)) holds
    show Heap.Holds filled.heap ((Entry.given port).edid :: _)
    rw [given]
    exact Heap.holds_null_cons.mpr tail
  · intro port rest heap filled size ih pointers none holds
    have tail := ih (fun other member => none other (.tail port member)) holds.alloc
    -- the new block was held in front of the pointers, and goes in front of the later copies
    exact tail.perm List.perm_middle

theorem copied_fillPorts {ports : List SimPort} (ok : (fillPorts allocated k ports heap).rc = 0) :
    ∀ entry ∈ (fillPorts allocated k ports heap).entries,
      entry.port.edidSize ≠ 0 → entry.edid ≠ .null := by
  refine filled_induction (motive := fun _ _ filled => ∀ entry ∈ filled.entries,
    entry.port.edidSize ≠ 0 → entry.edid ≠ .null) ?_ ?_ ?_ ok
  · intro heap entry none
    cases none
  · intro port rest heap filled empty ih entry member
    cases member with
    | head => intro size; exact absurd empty size
    | tail _ later => exact ih entry later
  · intro port rest heap filled size ih entry member
    cases member with
    | head => simp
    | tail _ later => exact ih entry later

end Fill

end DisplayDrivers.DpMst
