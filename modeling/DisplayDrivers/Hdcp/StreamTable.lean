import Mathlib.Data.List.Perm.Basic
import Mathlib.Data.List.Dedup
import DisplayDrivers.Lib.Run
import DisplayDrivers.Hdcp.Frames

/-! # The table of streams and the handles that are open

`stream_handles` has an entry for every stream the client wants open and for every stream that is
still to be closed.
-/

namespace DisplayDrivers.Hdcp

open DisplayDrivers.Lib.Run

abbrev Pair := U8 × U8

def Stream.pair (entry : Stream) : Pair := (entry.virtualChannel, entry.streamId)

def StreamInfo.pair (info : StreamInfo) : Pair := (info.virtualChannel, info.streamId)

theorem isFor_iff {info : StreamInfo} {entry : Stream} :
    Stream.isFor info entry = true ↔ entry.pair = info.pair := by
  simp [Stream.isFor, Stream.pair, StreamInfo.pair]

structure Ledger where
  held : List (U32 × Pair)
  reopened : Bool
  reclosed : Bool

def Ledger.empty : Ledger := ⟨[], false, false⟩

def Ledger.record (ledger : Ledger) : StreamCall → Ledger
  | .opened virtualChannel streamId handle =>
    { ledger with
      held := (handle, (virtualChannel, streamId)) :: ledger.held
      reopened := ledger.reopened || ledger.held.any (·.2 = (virtualChannel, streamId)) }
  | .closed handle =>
    { ledger with
      held := ledger.held.filter (·.1 ≠ handle)
      reclosed := ledger.reclosed || !ledger.held.any (·.1 = handle) }

def FreshCall (ledger : Ledger) : StreamCall → Prop
  | .opened _ _ handle => handle ≠ 0 ∧ handle ∉ ledger.held.map Prod.fst
  | .closed _ => True

instance (ledger : Ledger) : (call : StreamCall) → Decidable (FreshCall ledger call)
  | .opened _ _ handle =>
    inferInstanceAs (Decidable (handle ≠ 0 ∧ handle ∉ ledger.held.map Prod.fst))
  | .closed _ => inferInstanceAs (Decidable True)

structure Table (ledger : Ledger) (entries : List Stream) : Prop where
  once : (entries.map Stream.pair).Nodup
  unique : (ledger.held.map Prod.fst).Nodup
  closing : ∀ entry ∈ entries, entry.active = false → entry.streamHandle ≠ 0
  held_iff : ∀ handle pair, (handle, pair) ∈ ledger.held ↔
    handle ≠ 0 ∧ ∃ entry ∈ entries, entry.pair = pair ∧ entry.streamHandle = handle
  proper : ledger.reopened = false ∧ ledger.reclosed = false

theorem table_empty : Table .empty [] where
  once := List.nodup_nil
  unique := List.nodup_nil
  closing := by simp
  held_iff := by simp [Ledger.empty]
  proper := ⟨rfl, rfl⟩

namespace Table

variable {ledger : Ledger} {entry : Stream} {entries others : List Stream}

theorem perm (table : Table ledger entries) (same : entries.Perm others) :
    Table ledger others where
  once := (same.map Stream.pair).nodup_iff.mp table.once
  unique := table.unique
  closing e listed := table.closing e (same.mem_iff.mpr listed)
  held_iff handle pair := by
    rw [table.held_iff]
    simp only [same.mem_iff]
  proper := table.proper

theorem fresh_pair (table : Table ledger (entry :: others)) {other : Stream}
    (listed : other ∈ others) : other.pair ≠ entry.pair := by
  have fresh := (List.nodup_cons.mp table.once).1
  intro same
  exact fresh (same ▸ List.mem_map_of_mem listed)

theorem same_pair (table : Table ledger entries) {handle : U32} {one two : Pair}
    (first : (handle, one) ∈ ledger.held) (second : (handle, two) ∈ ledger.held) : one = two := by
  have same := List.inj_on_of_nodup_map table.unique first second rfl
  exact congrArg Prod.snd same

/-- An entry without a handle holds none. -/
theorem owned_cons (closed : entry.streamHandle = 0) (handle : U32) (pair : Pair) :
    (handle ≠ 0 ∧ ∃ e ∈ entry :: others, e.pair = pair ∧ e.streamHandle = handle) ↔
      handle ≠ 0 ∧ ∃ e ∈ others, e.pair = pair ∧ e.streamHandle = handle := by
  refine and_congr_right fun nonzero => ?_
  simp only [List.exists_mem_cons_iff, or_iff_right_iff_imp]
  exact fun own => absurd (own.2.symm.trans closed) nonzero

theorem add (table : Table ledger others) (closed : entry.streamHandle = 0)
    (active : entry.active = true) (fresh : entry.pair ∉ others.map Stream.pair) :
    Table ledger (entry :: others) where
  once := List.nodup_cons.mpr ⟨fresh, table.once⟩
  unique := table.unique
  closing e listed inactive := by
    cases List.mem_cons.mp listed with
    | inl same =>
      subst same
      rw [active] at inactive
      exact absurd inactive (by decide)
    | inr listed => exact table.closing e listed inactive
  held_iff handle pair := (table.held_iff handle pair).trans (owned_cons closed handle pair).symm
  proper := table.proper

section

variable (table : Table ledger (entry :: others))

include table

theorem drop (closed : entry.streamHandle = 0) : Table ledger others where
  once := (List.nodup_cons.mp table.once).2
  unique := table.unique
  closing e listed := table.closing e (.tail _ listed)
  held_iff handle pair := (table.held_iff handle pair).trans (owned_cons closed handle pair)
  proper := table.proper

theorem deactivate (opened : entry.streamHandle ≠ 0) :
    Table ledger ({ entry with active := false } :: others) where
  once := table.once
  unique := table.unique
  closing e listed inactive := by
    cases List.mem_cons.mp listed with
    | inl same =>
      subst same
      exact opened
    | inr listed => exact table.closing e (.tail _ listed) inactive
  held_iff handle pair := by
    rw [table.held_iff]
    simp [Stream.pair]
  proper := table.proper

theorem opened (closed : entry.streamHandle = 0) {handle : U32} (fresh : FreshCall ledger
      (.opened entry.virtualChannel entry.streamId handle)) :
    Table (ledger.record (.opened entry.virtualChannel entry.streamId handle))
      ({ entry with streamHandle := handle } :: others) where
  once := table.once
  unique := List.nodup_cons.mpr ⟨fresh.2, table.unique⟩
  closing e listed inactive := by
    cases List.mem_cons.mp listed with
    | inl same =>
      subst same
      exact fresh.1
    | inr listed => exact table.closing e (.tail _ listed) inactive
  held_iff number pair := by
    simp only [Ledger.record, List.mem_cons, table.held_iff, Prod.mk.injEq, exists_eq_or_imp,
      Stream.pair]
    constructor
    · intro either
      cases either with
      | inl new => exact ⟨new.1 ▸ fresh.1, .inl ⟨new.2.symm, new.1.symm⟩⟩
      | inr old =>
        obtain ⟨nonzero, rest⟩ := old
        exact ⟨nonzero, .inr (rest.resolve_left fun own => nonzero (own.2.symm.trans closed))⟩
    · intro ⟨nonzero, either⟩
      cases either with
      | inl own => exact .inl ⟨own.2.symm, own.1.symm⟩
      | inr rest => exact .inr ⟨nonzero, .inr rest⟩
  proper := by
    -- the stream has one entry, and that has no handle
    have single : ledger.held.any (·.2 = (entry.virtualChannel, entry.streamId)) = false := by
      rw [List.any_eq_false]
      intro ⟨number, pair⟩ held own
      obtain rfl : pair = (entry.virtualChannel, entry.streamId) := by simpa using own
      obtain ⟨nonzero, e, listed, owner⟩ := (table.held_iff number _).mp held
      cases List.mem_cons.mp listed with
      | inl same =>
        subst same
        exact nonzero (owner.2.symm.trans closed)
      | inr listed => exact table.fresh_pair listed owner.1
    exact ⟨by simp only [Ledger.record, table.proper.1, single, Bool.or_false], table.proper.2⟩

theorem closed (opened : entry.streamHandle ≠ 0) :
    Table (ledger.record (.closed entry.streamHandle)) others where
  once := (List.nodup_cons.mp table.once).2
  unique := table.unique.sublist (List.filter_sublist.map Prod.fst)
  closing e listed := table.closing e (.tail _ listed)
  held_iff number pair := by
    have own : (entry.streamHandle, entry.pair) ∈ ledger.held :=
      (table.held_iff _ _).mpr ⟨opened, entry, List.mem_cons_self, rfl, rfl⟩
    simp only [Ledger.record, List.mem_filter, decide_eq_true_eq]
    constructor
    · intro ⟨held, other⟩
      obtain ⟨nonzero, e, listed, owner⟩ := (table.held_iff number pair).mp held
      cases List.mem_cons.mp listed with
      | inl same =>
        subst same
        exact absurd owner.2.symm other
      | inr listed => exact ⟨nonzero, e, listed, owner⟩
    · intro ⟨nonzero, e, listed, owner⟩
      have held := (table.held_iff number pair).mpr ⟨nonzero, e, .tail _ listed, owner⟩
      constructor
      · exact held
      · intro same
        subst same
        exact table.fresh_pair listed (owner.1.trans (table.same_pair held own))
  proper := by
    have known : ledger.held.any (·.1 = entry.streamHandle) = true := by
      rw [List.any_eq_true]
      exact ⟨(entry.streamHandle, entry.pair),
        (table.held_iff _ _).mpr ⟨opened, entry, List.mem_cons_self, rfl, rfl⟩, by simp⟩
    exact ⟨table.proper.1, by simp [Ledger.record, table.proper.2, known]⟩

end

end Table

/-! ## The walk of the work -/

section Walk
variable {ledger : Ledger} {entries kept : List Stream} (env : Env)

def staying (entries : List Stream) : List Stream :=
  entries.filterMap fun entry => (manageEntry env entry).1

def walkCalls (entries : List Stream) : List StreamCall :=
  entries.flatMap fun entry => (manageEntry env entry).2.1

theorem manageStreams_eq (entries : List Stream) (hdcp : Hdcp2x) :
    (manageStreams env entries hdcp).2.1 = staying env entries ∧
      (manageStreams env entries hdcp).1.streamCalls =
        hdcp.streamCalls ++ walkCalls env entries := by
  induction entries generalizing hdcp with
  | nil => simp [manageStreams, staying, walkCalls]
  | cons entry rest ih =>
    simp only [manageStreams, ih]
    constructor
    · cases result : (manageEntry env entry).1 <;> simp [staying, result]
    · simp [walkCalls]

def Opens (env : Env) : Prop := ∀ virtualChannel streamId,
  (env.openStream virtualChannel streamId).isSome = true

variable {env}

theorem manageEntry_inactive {entry : Stream} (inactive : entry.active = false) :
    manageEntry env entry = (none, [.closed entry.streamHandle], true) := by
  simp [manageEntry, inactive]

theorem manageEntry_open {entry : Stream} (active : entry.active = true)
    (opened : entry.streamHandle ≠ 0) : manageEntry env entry = (some entry, [], false) := by
  unfold manageEntry
  rw [if_neg (by simp [active]), if_neg opened]

theorem manageEntry_new (opens : Opens env) {entry : Stream} (active : entry.active = true)
    (closed : entry.streamHandle = 0) : ∃ handle, manageEntry env entry =
      (some { entry with streamHandle := handle },
        [.opened entry.virtualChannel entry.streamId handle], true) := by
  obtain ⟨handle, answer⟩ :=
    Option.isSome_iff_exists.mp (opens entry.virtualChannel entry.streamId)
  exact ⟨handle, by simp [manageEntry, active, closed, answer]⟩

theorem walk_table (opens : Opens env) (table : Table ledger (entries ++ kept))
    (fresh : StepsMeet Ledger.record FreshCall ledger (walkCalls env entries)) :
    Table (run Ledger.record ledger (walkCalls env entries)) (staying env entries ++ kept) := by
  induction entries generalizing ledger kept with
  | nil => exact table
  | cons entry rest ih =>
    cases active : entry.active with
    | false =>
      simp only [walkCalls, staying, List.flatMap_cons, List.filterMap_cons,
        manageEntry_inactive active, List.singleton_append, stepsMeet_cons, run_cons] at fresh ⊢
      exact ih (table.closed (table.closing entry List.mem_cons_self active)) fresh.2
    | true =>
      by_cases closed : entry.streamHandle = 0
      · obtain ⟨handle, managed⟩ := manageEntry_new opens active closed
        simp only [walkCalls, staying, List.flatMap_cons, List.filterMap_cons, managed,
          List.singleton_append, stepsMeet_cons, run_cons] at fresh ⊢
        have moved := (table.opened closed fresh.1).perm List.perm_middle.symm
        exact (ih moved fresh.2).perm List.perm_middle
      · simp only [walkCalls, staying, List.flatMap_cons, List.filterMap_cons,
          manageEntry_open active closed, List.nil_append] at fresh ⊢
        exact (ih (table.perm List.perm_middle.symm) fresh).perm List.perm_middle

theorem staying_pairs (entries : List Stream) (opens : Opens env) :
    (staying env entries).map Stream.pair = (entries.filter (·.active)).map Stream.pair := by
  induction entries with
  | nil => rfl
  | cons entry rest ih =>
    cases active : entry.active with
    | false =>
      simp only [staying, List.filterMap_cons, manageEntry_inactive active] at ih ⊢
      rw [List.filter_cons_of_neg (by simp [active])]
      exact ih
    | true =>
      rw [List.filter_cons_of_pos (by simpa using active)]
      by_cases closed : entry.streamHandle = 0
      · obtain ⟨handle, managed⟩ := manageEntry_new opens active closed
        simp only [staying, List.filterMap_cons, managed, List.map_cons] at ih ⊢
        rw [ih]
        rfl
      · simp only [staying, List.filterMap_cons, manageEntry_open active closed,
          List.map_cons] at ih ⊢
        rw [ih]

theorem staying_open (opens : Opens env)
    (fresh : StepsMeet Ledger.record FreshCall ledger (walkCalls env entries)) :
    ∀ entry ∈ staying env entries, entry.active = true ∧ entry.streamHandle ≠ 0 := by
  induction entries generalizing ledger with
  | nil => simp [staying]
  | cons entry rest ih =>
    cases active : entry.active with
    | false =>
      simp only [walkCalls, staying, List.flatMap_cons, List.filterMap_cons,
        manageEntry_inactive active, List.singleton_append, stepsMeet_cons] at fresh ⊢
      exact ih fresh.2
    | true =>
      by_cases closed : entry.streamHandle = 0
      · obtain ⟨handle, managed⟩ := manageEntry_new opens active closed
        simp only [walkCalls, staying, List.flatMap_cons, List.filterMap_cons, managed,
          List.singleton_append, stepsMeet_cons, List.forall_mem_cons] at fresh ⊢
        exact ⟨⟨active, fresh.1.1⟩, ih fresh.2⟩
      · simp only [walkCalls, staying, List.flatMap_cons, List.filterMap_cons,
          manageEntry_open active closed, List.nil_append, List.forall_mem_cons] at fresh ⊢
        exact ⟨⟨active, closed⟩, ih fresh⟩

theorem manageStreams_count (hdcp : Hdcp2x) (opens : Opens env) (before : ℕ)
    (counted : hdcp.streamCount = BitVec.ofNat 8 (before + entries.length)) :
    (manageStreams env entries hdcp).1.streamCount =
      BitVec.ofNat 8 (before + (staying env entries).length) := by
  induction entries generalizing hdcp before with
  | nil => exact counted
  | cons entry rest ih =>
    cases active : entry.active with
    | false =>
      simp only [manageStreams, staying, List.filterMap_cons, manageEntry_inactive active] at ih ⊢
      apply ih
      simp only [counted, List.length_cons, Option.isNone_none, if_true]
      bv_omega
    | true =>
      have stays : ∃ e calls query, manageEntry env entry = (some e, calls, query) := by
        by_cases closed : entry.streamHandle = 0
        · obtain ⟨handle, managed⟩ := manageEntry_new opens active closed
          exact ⟨_, _, _, managed⟩
        · exact ⟨_, _, _, manageEntry_open active closed⟩
      obtain ⟨e, calls, query, managed⟩ := stays
      have moved (n : ℕ) : before + (n + 1) = before + 1 + n := by omega
      have same : hdcp.streamCount = BitVec.ofNat 8 (before + 1 + rest.length) := by
        rw [counted, List.length_cons, moved]
      simp only [manageStreams, staying, List.filterMap_cons, managed, List.length_cons] at ih ⊢
      rw [moved]
      apply ih
      exact same

end Walk

/-! ## The commands -/

section Commands
variable {ledger : Ledger} {entries : List Stream} {info : StreamInfo}

theorem present_iff : entries.any (Stream.isFor info) = true ↔
    info.pair ∈ entries.map Stream.pair := by
  simp only [List.any_eq_true, isFor_iff, List.mem_map]

theorem removeEntry_perm (present : info.pair ∈ entries.map Stream.pair) :
    ∃ entry others, entry.pair = info.pair ∧ entries.Perm (entry :: others) ∧
      (removeEntry info entries).Perm
        (if entry.streamHandle = 0 then others
        else { entry with active := false } :: others) := by
  induction entries with
  | nil => simp at present
  | cons first rest ih =>
    simp only [removeEntry]
    by_cases own : first.pair = info.pair
    · rw [if_pos (isFor_iff.mpr own)]
      exact ⟨first, rest, own, List.Perm.refl _, List.Perm.refl _⟩
    · rw [if_neg (by simpa [isFor_iff] using own)]
      have later : info.pair ∈ rest.map Stream.pair := by
        cases List.mem_cons.mp present with
        | inl same => exact absurd same.symm own
        | inr later => exact later
      obtain ⟨entry, others, same, before, after⟩ := ih later
      refine ⟨entry, first :: others, same, ?_, ?_⟩
      · exact (before.cons first).trans (List.Perm.swap entry first others)
      · split
        case isTrue closed =>
          rw [if_pos closed] at after
          exact after.cons first
        case isFalse opened =>
          rw [if_neg opened] at after
          exact (after.cons first).trans (List.Perm.swap _ first others)

/-- The table of the engine: besides the entries, `stream_count` counts them in eight bits. -/
structure Counted (ledger : Ledger) (hdcp : Hdcp2x) : Prop where
  table : Table ledger hdcp.streamHandles
  count : hdcp.streamCount = BitVec.ofNat 8 hdcp.streamHandles.length

abbrev pairs (hdcp : Hdcp2x) : List Pair := hdcp.streamHandles.map Stream.pair

def addStream (info : StreamInfo) (hdcp : Hdcp2x) : Hdcp2x :=
  { hdcp with
    streamHandles := ⟨info.virtualChannel, info.streamId, 0, true⟩ :: hdcp.streamHandles
    streamCount := hdcp.streamCount + 1 }

variable {hdcp : Hdcp2x}

variable {rest : List StreamInfo}

theorem addStreams_cons (allocated : info.allocated = true) : addStreams (info :: rest) hdcp =
      if info.pair ∈ pairs hdcp then addStreams rest hdcp
      else ((addStreams rest (addStream info hdcp)).1, true) := by
  simp only [addStreams, present_iff, allocated, Bool.not_true, Bool.false_eq_true, if_false]
  rfl

theorem addStream_counted (counted : Counted ledger hdcp)
    (fresh : info.pair ∉ pairs hdcp) : Counted ledger (addStream info hdcp) where
  table := counted.table.add rfl rfl fresh
  count := by
    simp only [addStream, counted.count, List.length_cons]
    bv_omega

variable {infos : List StreamInfo}

theorem addStreams_counted
    (allocated : ∀ info ∈ infos, info.allocated = true) (counted : Counted ledger hdcp) :
    Counted ledger (addStreams infos hdcp).1 := by
  induction infos generalizing hdcp with
  | nil => exact counted
  | cons info rest ih =>
    rw [addStreams_cons (allocated info List.mem_cons_self)]
    have later := fun info listed => allocated info (.tail _ listed)
    split
    case isTrue => exact ih later counted
    case isFalse fresh => exact ih later (addStream_counted counted fresh)

theorem mem_pairs_addStreams (allocated : ∀ info ∈ infos, info.allocated = true) (pair : Pair) :
    pair ∈ pairs (addStreams infos hdcp).1 ↔ pair ∈ pairs hdcp ∨
    pair ∈ infos.map StreamInfo.pair := by
  induction infos generalizing hdcp with
  | nil => simp [addStreams]
  | cons info rest ih =>
    rw [addStreams_cons (allocated info List.mem_cons_self)]
    have later := fun info listed => allocated info (.tail _ listed)
    split
    case isTrue present =>
      rw [ih later, List.map_cons, List.mem_cons]
      constructor
      · intro either
        exact either.imp_right .inr
      · intro either
        rcases either with old | rfl | new
        · exact .inl old
        · exact .inl present
        · exact .inr new
    case isFalse =>
      have added : pairs (addStream info hdcp) = info.pair :: pairs hdcp := rfl
      rw [ih later, added]
      simp only [List.map_cons, List.mem_cons]
      tauto

theorem addStreams_changed (hdcp : Hdcp2x) (allocated : ∀ info ∈ infos, info.allocated = true) :
    (addStreams infos hdcp).2 = true ↔ ∃ info ∈ infos, info.pair ∉ pairs hdcp := by
  induction infos with
  | nil => simp [addStreams]
  | cons info rest ih =>
    rw [addStreams_cons (allocated info List.mem_cons_self)]
    split
    case isTrue present =>
      rw [ih fun info listed => allocated info (.tail _ listed)]
      simp only [List.mem_cons, exists_eq_or_imp, present, not_true_eq_false, false_or]
    case isFalse fresh =>
      simp only [true_iff]
      exact ⟨info, List.mem_cons_self, fresh⟩

theorem addStreams_unchanged (hdcp : Hdcp2x)
    (listed : ∀ info ∈ infos, info.pair ∈ pairs hdcp) : addStreams infos hdcp = (hdcp, false) := by
  induction infos with
  | nil => rfl
  | cons info rest ih =>
    rw [addStreams, if_pos (present_iff.mpr (listed info List.mem_cons_self))]
    exact ih fun info named => listed info (.tail _ named)

theorem mem_addStreams {entry : Stream} (allocated : ∀ info ∈ infos, info.allocated = true)
    (listed : entry ∈ (addStreams infos hdcp).1.streamHandles) :
    entry ∈ hdcp.streamHandles ∨ entry.pair ∈ infos.map StreamInfo.pair := by
  induction infos generalizing hdcp with
  | nil => exact .inl listed
  | cons info rest ih =>
    rw [addStreams_cons (allocated info List.mem_cons_self)] at listed
    have later := fun info listed => allocated info (.tail _ listed)
    split at listed
    case isTrue =>
      exact (ih later listed).imp_right (.tail _)
    case isFalse =>
      cases ih later listed with
      | inl old =>
        cases List.mem_cons.mp old with
        | inl new =>
          subst new
          exact .inr (.head _)
        | inr old => exact .inl old
      | inr new => exact .inr (.tail _ new)

def removeStream (info : StreamInfo) (hdcp : Hdcp2x) : Hdcp2x :=
  { hdcp with
    streamHandles := removeEntry info hdcp.streamHandles
    streamCount :=
      if (removeEntry info hdcp.streamHandles).length < hdcp.streamHandles.length then
        hdcp.streamCount - 1
      else hdcp.streamCount }

theorem removeStreams_cons : removeStreams (info :: rest) hdcp =
      if info.pair ∈ pairs hdcp then ((removeStreams rest (removeStream info hdcp)).1, true)
      else removeStreams rest hdcp := by
  simp only [removeStreams, present_iff]
  rfl

theorem removeStream_counted (counted : Counted ledger hdcp)
    (present : info.pair ∈ pairs hdcp) : Counted ledger (removeStream info hdcp) := by
  obtain ⟨entry, others, same, before, after⟩ := removeEntry_perm present
  have table := counted.table.perm before
  by_cases closed : entry.streamHandle = 0
  · rw [if_pos closed] at after
    have shorter : (removeEntry info hdcp.streamHandles).length + 1 =
        hdcp.streamHandles.length := by rw [after.length_eq, before.length_eq]; rfl
    constructor
    · exact (table.drop closed).perm after.symm
    · simp only [removeStream, counted.count, ← shorter]
      rw [if_pos (by omega)]
      bv_omega
  · rw [if_neg closed] at after
    have equal : (removeEntry info hdcp.streamHandles).length = hdcp.streamHandles.length := by
      rw [after.length_eq, before.length_eq]; rfl
    constructor
    · exact (table.deactivate closed).perm after.symm
    · simp only [removeStream, equal, counted.count]
      rw [if_neg (by omega)]

theorem removeStreams_counted
    (counted : Counted ledger hdcp) : Counted ledger (removeStreams infos hdcp).1 := by
  induction infos generalizing hdcp with
  | nil => exact counted
  | cons info rest ih =>
    rw [removeStreams_cons]
    split
    case isTrue present => exact ih (removeStream_counted counted present)
    case isFalse => exact ih counted

theorem removeStreams_changed (infos : List StreamInfo) (hdcp : Hdcp2x) :
    (removeStreams infos hdcp).2 = true ↔ ∃ info ∈ infos, info.pair ∈ pairs hdcp := by
  induction infos with
  | nil => simp [removeStreams]
  | cons info rest ih =>
    rw [removeStreams_cons]
    split
    case isTrue present => simp only [List.mem_cons, exists_eq_or_imp, present, true_or]
    case isFalse absent => simp only [ih, List.mem_cons, exists_eq_or_imp, absent, false_or]

theorem removeStreams_unchanged (hdcp : Hdcp2x) (absent : ∀ info ∈ infos, info.pair ∉ pairs hdcp) :
    removeStreams infos hdcp = (hdcp, false) := by
  induction infos with
  | nil => rfl
  | cons info rest ih =>
    rw [removeStreams_cons, if_neg (absent info List.mem_cons_self)]
    exact ih fun info named => absent info (.tail _ named)

theorem removeStreams_length (infos : List StreamInfo) (hdcp : Hdcp2x) :
    (removeStreams infos hdcp).1.streamHandles.length ≤ hdcp.streamHandles.length := by
  have one (info : StreamInfo) (entries : List Stream) :
      (removeEntry info entries).length ≤ entries.length := by
    induction entries with
    | nil => exact Nat.le_refl 0
    | cons entry rest ih =>
      simp only [removeEntry]
      split
      · split <;> simp
      · simpa using ih
  induction infos generalizing hdcp with
  | nil => exact Nat.le_refl _
  | cons info rest ih =>
    rw [removeStreams_cons]
    split
    · exact Nat.le_trans (ih (removeStream info hdcp)) (one info hdcp.streamHandles)
    · exact ih hdcp

theorem removeStream_rest (counted : Counted ledger hdcp) (present : info.pair ∈ pairs hdcp) :
    (∀ pair ∈ pairs hdcp, pair ≠ info.pair → pair ∈ pairs (removeStream info hdcp)) ∧
      ∀ entry ∈ (removeStream info hdcp).streamHandles, entry.active = true →
        entry ∈ hdcp.streamHandles ∧ entry.pair ≠ info.pair := by
  obtain ⟨own, others, same, before, after⟩ := removeEntry_perm present
  have table := counted.table.perm before
  have kept : ∀ entry ∈ others, entry ∈ (removeStream info hdcp).streamHandles := by
    intro entry listed
    rw [removeStream, after.mem_iff]
    split
    · exact listed
    · exact .tail _ listed
  constructor
  · intro pair listed other
    obtain ⟨entry, owned, rfl⟩ := List.mem_map.mp listed
    cases List.mem_cons.mp (before.mem_iff.mp owned) with
    | inl named => exact absurd (named ▸ same) other
    | inr listed => exact List.mem_map_of_mem (kept entry listed)
  · intro entry listed active
    have other : entry ∈ others := by
      rw [removeStream, after.mem_iff] at listed
      split at listed
      · exact listed
      · cases List.mem_cons.mp listed with
        | inl named =>
          subst named
          exact nomatch active
        | inr listed => exact listed
    exact ⟨before.mem_iff.mpr (.tail _ other), fun named =>
      table.fresh_pair other (named.trans same.symm)⟩

theorem removeStreams_rest (infos : List StreamInfo) (counted : Counted ledger hdcp) :
    (∀ pair ∈ pairs hdcp, pair ∉ infos.map StreamInfo.pair →
        pair ∈ pairs (removeStreams infos hdcp).1) ∧
      ∀ entry ∈ (removeStreams infos hdcp).1.streamHandles, entry.active = true →
        entry ∈ hdcp.streamHandles ∧ entry.pair ∉ infos.map StreamInfo.pair := by
  induction infos generalizing hdcp with
  | nil => exact ⟨fun _ listed _ => listed, fun _ listed _ => ⟨listed, List.not_mem_nil⟩⟩
  | cons info rest ih =>
    rw [removeStreams_cons]
    simp only [List.map_cons, List.mem_cons, not_or]
    split
    case isTrue present =>
      have one := removeStream_rest counted present
      have more := ih (removeStream_counted counted present)
      constructor
      · intro pair listed other
        exact more.1 pair (one.1 pair listed other.1) other.2
      · intro entry listed active
        obtain ⟨left, unnamed⟩ := more.2 entry listed active
        obtain ⟨old, other⟩ := one.2 entry left active
        exact ⟨old, other, unnamed⟩
    case isFalse absent =>
      have more := ih counted
      constructor
      · intro pair listed other
        exact more.1 pair listed other.2
      · intro entry listed active
        obtain ⟨old, unnamed⟩ := more.2 entry listed active
        have other : entry.pair ≠ info.pair := fun same =>
          absent (same ▸ List.mem_map_of_mem old)
        exact ⟨old, other, unnamed⟩

end Commands

end DisplayDrivers.Hdcp
