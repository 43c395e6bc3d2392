import DisplayDrivers.Lib.Loop
import DisplayDrivers.Lib.Ring
import DisplayDrivers.Lib.Run
import Mathlib.Data.BitVec

/-! # The event log (`msm/sde_dbg_evtlog.c`)

`sde_evtlog_log` writes into a ring; `sde_evtlog_dump_all` prints what has been logged since it
printed last, at most `SDE_EVTLOG_PRINT_ENTRY` entries.
-/

namespace DisplayDrivers.Dbg.EvtLog

open DisplayDrivers.Lib.Loop
open DisplayDrivers.Lib.Ring
open DisplayDrivers.Lib.Run

abbrev U32 := BitVec 32
abbrev U64 := BitVec 64

def SDE_EVTLOG_PRINT_ENTRY : ℕ := 256
def SDE_EVTLOG_ENTRY : ℕ := SDE_EVTLOG_PRINT_ENTRY * 8
def SDE_EVTLOG_MAX_DATA : ℕ := 15
def SDE_EVTLOG_DATA_LIMITER : U32 := 0xC0DEBEEF

/-- `struct sde_dbg_evtlog_log`; the data is what `data_cnt` says is valid. -/
structure EvtlogLog where
  time : U64
  name : Option (List Char)
  line : Int
  data : List U32
  pid : Int

def EvtlogLog.zero : EvtlogLog := ⟨0, none, 0, [], 0⟩

/-- `struct sde_dbg_evtlog`; the cursors are numbers of 32 bits. -/
structure DbgEvtlog where
  logs : ℕ → EvtlogLog
  first : ℕ
  last : ℕ
  lastDump : ℕ
  curr : ℕ
  next : ℕ
  enable : U32
  filterList : List (List Char)

/-- A call of `sde_evtlog_log`, with the time and the process it is made at. -/
structure Event where
  name : Option (List Char)
  line : Int
  flag : U32
  args : List U32
  time : U64
  pid : Int

def isFilteredNoLock (evtlog : DbgEvtlog) : Option (List Char) → Bool
  | none => true
  | some str => !evtlog.filterList.isEmpty && !evtlog.filterList.any fun filter => filter <:+: str

def isEnabled (evtlog : DbgEvtlog) (flag : U32) : Bool := evtlog.enable &&& flag != 0

def entryOf (evtlog : DbgEvtlog) (event : Event) : Option EvtlogLog :=
  if !isEnabled evtlog event.flag then none
  else if isFilteredNoLock evtlog event.name then none
  else some
    { time := event.time, name := event.name, line := event.line,
      data := (event.args.takeWhile (· ≠ SDE_EVTLOG_DATA_LIMITER)).take SDE_EVTLOG_MAX_DATA
      pid := event.pid }

def evtlogLog (evtlog : DbgEvtlog) (event : Event) : DbgEvtlog :=
  match entryOf evtlog event with
  | none => evtlog
  | some entry =>
    { evtlog with
      logs := Function.update evtlog.logs evtlog.curr entry
      curr := (evtlog.curr + 1) % SDE_EVTLOG_ENTRY
      last := (evtlog.last + 1) % 2 ^ 32 }

def sub32 (a b : ℕ) : ℕ := (a + 2 ^ 32 - b) % 2 ^ 32

/-- The cursors `first` and `last_dump` behind the special case of a counter that has wrapped. -/
def unwrapped (first lastDump : ℕ) : ℕ × ℕ :=
  if lastDump < first then
    if lastDump < first % SDE_EVTLOG_ENTRY then
      (first % SDE_EVTLOG_ENTRY, (lastDump + SDE_EVTLOG_ENTRY) % 2 ^ 32)
    else (first % SDE_EVTLOG_ENTRY, lastDump)
  else (first, lastDump)

def dumpCalcRange (evtlog : DbgEvtlog) (updateLastEntry fullDump : Bool) : DbgEvtlog × Bool :=
  let maxEntries := if fullDump then SDE_EVTLOG_ENTRY else SDE_EVTLOG_PRINT_ENTRY
  let lastDump := if updateLastEntry then evtlog.last else evtlog.lastDump
  if lastDump = evtlog.next then ({ evtlog with first := evtlog.next, lastDump }, false)
  else
    let range := unwrapped evtlog.next lastDump
    let first := if sub32 range.2 range.1 > maxEntries then sub32 range.2 maxEntries else range.1
    ({ evtlog with first, lastDump := range.2, next := (first + 1) % 2 ^ 32 }, true)

structure Line where
  index : ℕ
  log : EvtlogLog
  sincePrev : U64

/-- `sde_evtlog_dump_to_buffer`; a line that is printed is not empty. -/
def dumpToBuffer (evtlog : DbgEvtlog) (updateLastEntry fullDump : Bool) : DbgEvtlog × Option Line :=
  match dumpCalcRange evtlog updateLastEntry fullDump with
  | (evtlog, false) => (evtlog, none)
  | (evtlog, true) =>
    let log := evtlog.logs (evtlog.first % SDE_EVTLOG_ENTRY)
    let prevLog := evtlog.logs (sub32 evtlog.first 1 % SDE_EVTLOG_ENTRY)
    (evtlog, some { index := evtlog.first, log, sincePrev := log.time - prevLog.time })

/-- One turn of the loop of `sde_evtlog_dump_all`, with `update_last_entry` and what is printed. -/
def dumpStep : DbgEvtlog × Bool × List Line → (DbgEvtlog × Bool × List Line) ⊕
    (DbgEvtlog × List Line)
  | (evtlog, updateLastEntry, lines) =>
    match dumpToBuffer evtlog updateLastEntry false with
    | (evtlog, some line) => .inl (evtlog, false, lines ++ [line])
    | (evtlog, none) => .inr (evtlog, lines)

/-- `sde_evtlog_dump_all`, cut after a number of turns. -/
def dumpAll (fuel : ℕ) (evtlog : DbgEvtlog) : Option (DbgEvtlog × List Line) :=
  loop dumpStep fuel (evtlog, true, [])

/-- `sde_evtlog_init`; what is enabled and filtered is set through debugfs. -/
def evtlogInit (enable : U32) (filterList : List (List Char)) : DbgEvtlog :=
  { logs := fun _ => .zero, first := 0, last := 0, lastDump := 0, curr := 0, next := 0
    enable, filterList }

/-! ## Runs -/

def lineAt (entries : List EvtlogLog) (k : ℕ) : Line :=
  let log := entries.getD k .zero
  let prevLog := if k = 0 then .zero else entries.getD (k - 1) .zero
  { index := k % 2 ^ 32, log, sincePrev := log.time - prevLog.time }

/-- The lines of the last entries, of those that were logged after the first `shown`. -/
def recentLines (entries : List EvtlogLog) (shown : ℕ) : List Line :=
  let many := min (entries.length - shown) SDE_EVTLOG_PRINT_ENTRY
  (List.range' (entries.length - many) many).map (lineAt entries)

inductive Call
  | log (event : Event)
  | dumpAll

/-- The log with all entries that were made, how many of them there were when one was printed last,
    what the last dump has printed if it has ended, and what it should have printed. -/
structure Trace where
  evtlog : DbgEvtlog
  entries : List EvtlogLog
  shown : ℕ
  printed : Option (List Line)
  wanted : List Line

def step (s : Trace) : Call → Trace
  | .log event =>
    { s with
      evtlog := evtlogLog s.evtlog event, entries := s.entries ++ (entryOf s.evtlog event).toList }
  | .dumpAll =>
    match dumpAll SDE_EVTLOG_ENTRY s.evtlog with
    | none => { s with printed := none, wanted := recentLines s.entries s.shown }
    | some (evtlog, lines) =>
      { evtlog, entries := s.entries
        shown := if lines.isEmpty then s.shown else s.entries.length
        printed := some lines, wanted := recentLines s.entries s.shown }

def start (enable : U32) (filterList : List (List Char)) : Trace :=
  { evtlog := evtlogInit enable filterList, entries := [], shown := 0, printed := some []
    wanted := [] }

def PrintedRight (s : Trace) : Prop := s.printed = some s.wanted

/-- The two cursors tell how many entries are to be printed: their difference is the number of
    entries since the last one, or at least enough for a whole dump. -/
def Tells (s : Trace) : Call → Prop
  | .log _ => True
  | .dumpAll =>
    (s.evtlog.next ≤ s.evtlog.last ∧ (s.shown + (s.evtlog.last - s.evtlog.next) = s.entries.length ∨
        s.evtlog.next + SDE_EVTLOG_PRINT_ENTRY ≤ s.evtlog.last)) ∨
      (s.evtlog.last < s.evtlog.next ∧
        s.evtlog.next % SDE_EVTLOG_ENTRY + SDE_EVTLOG_PRINT_ENTRY ≤ s.evtlog.last)

instance (s : Trace) : (call : Call) → Decidable (Tells s call)
  | .log _ => inferInstanceAs (Decidable True)
  | .dumpAll => inferInstanceAs (Decidable (_ ∨ _))

/-! ## One dump -/

variable {evtlog : DbgEvtlog} {s : Trace}

theorem sub32_of_le {a b : ℕ} (le : b ≤ a) (small : a < 2 ^ 32) : sub32 a b = a - b := by
  unfold sub32
  omega

def slotLine (logs : ℕ → EvtlogLog) (j : ℕ) : Line :=
  { index := j, log := logs (j % SDE_EVTLOG_ENTRY),
    sincePrev := (logs (j % SDE_EVTLOG_ENTRY)).time - (logs (sub32 j 1 % SDE_EVTLOG_ENTRY)).time }

theorem dumpToBuffer_of_range {update : Bool} {last first many : ℕ} (small : last < 2 ^ 32)
    (ends : (if update then evtlog.last else evtlog.lastDump) = last) (some : last ≠ evtlog.next)
    (range : unwrapped evtlog.next last = (first, last)) (before : first ≤ last)
    (count : many = min (last - first) SDE_EVTLOG_PRINT_ENTRY) (positive : 0 < many) :
    dumpToBuffer evtlog update false =
      ({ evtlog with first := last - many, lastDump := last, next := last - many + 1 },
        Option.some (slotLine evtlog.logs (last - many))) := by
  have entry : SDE_EVTLOG_PRINT_ENTRY = 256 := rfl
  have start : (if sub32 last first > SDE_EVTLOG_PRINT_ENTRY then sub32 last
    SDE_EVTLOG_PRINT_ENTRY else first) =
      last - many := by
    rw [sub32_of_le before small]
    by_cases many_more : last - first > SDE_EVTLOG_PRINT_ENTRY
    · rw [if_pos many_more, sub32_of_le (by omega) small]
      omega
    · rw [if_neg many_more]
      omega
  have follows : (last - many + 1) % 2 ^ 32 = last - many + 1 := Nat.mod_eq_of_lt (by omega)
  have calc_range : dumpCalcRange evtlog update false =
      ({ evtlog with first := last - many, lastDump := last, next := last - many + 1 }, true) := by
    simp only [dumpCalcRange, ends, if_neg some, range, Bool.false_eq_true, if_false,
      start, follows]
  rw [dumpToBuffer, calc_range]
  rfl

theorem dumpToBuffer_none {update : Bool} {last : ℕ}
    (ends : (if update then evtlog.last else evtlog.lastDump) = last) (same : last = evtlog.next) :
    dumpToBuffer evtlog update false = ({ evtlog with first := last, lastDump := last }, none) := by
  subst same
  simp only [dumpToBuffer, dumpCalcRange, ends, if_true]

theorem dumpLoop_eq (many : ℕ) {last fuel : ℕ} (small : last < 2 ^ 32)
    (ends : evtlog.lastDump = last) (from_next : evtlog.next + many = last)
    (few : many ≤ SDE_EVTLOG_PRINT_ENTRY) (enough : many < fuel) (lines : List Line) :
    loop dumpStep fuel (evtlog, false, lines) =
      some ({ evtlog with first := last, lastDump := last, next := last },
        lines ++ (List.range' evtlog.next many).map (slotLine evtlog.logs)) := by
  induction many generalizing evtlog fuel lines with
  | zero =>
    obtain ⟨fuel, rfl⟩ := Nat.exists_eq_succ_of_ne_zero (Nat.ne_of_gt enough)
    have same : last = evtlog.next := from_next.symm
    have nothing : dumpToBuffer evtlog false false =
      ({ evtlog with first := last, lastDump := last }, none) :=
      dumpToBuffer_none ends same
    rw [loop_succ, dumpStep, nothing, ← same, List.range'_zero, List.map_nil, List.append_nil]
  | succ many ih =>
    obtain ⟨fuel, rfl⟩ :=
      Nat.exists_eq_succ_of_ne_zero (Nat.ne_of_gt (Nat.lt_of_le_of_lt (Nat.zero_le _) enough))
    have plain : unwrapped evtlog.next last = (evtlog.next, last) := if_neg (by omega)
    have here : last - (many + 1) = evtlog.next := by omega
    have line :=
      @dumpToBuffer_of_range evtlog false last evtlog.next (many + 1) small ends (by omega) plain
      (by omega) (by omega) (by omega)
    rw [here] at line
    rw [loop_succ, dumpStep, line]
    dsimp only
    rw [ih rfl (by dsimp only; omega) (by omega) (by omega), List.range'_succ, List.map_cons,
      List.append_assoc]
    rfl

theorem dumpAll_of_range {first many : ℕ} (small : evtlog.last < 2 ^ 32)
    (some : evtlog.last ≠ evtlog.next)
    (range : unwrapped evtlog.next evtlog.last = (first, evtlog.last))
    (before : first ≤ evtlog.last)
    (count : many = min (evtlog.last - first) SDE_EVTLOG_PRINT_ENTRY) (positive : 0 < many) :
    dumpAll SDE_EVTLOG_ENTRY evtlog =
      Option.some
        ({ evtlog with first := evtlog.last, lastDump := evtlog.last, next := evtlog.last },
        (List.range' (evtlog.last - many) many).map (slotLine evtlog.logs)) := by
  have line := @dumpToBuffer_of_range evtlog true _ _ _ small rfl some range before count positive
  have few : many ≤ 256 := by
    rw [count]
    exact Nat.min_le_right _ _
  obtain ⟨rest, rfl⟩ : ∃ rest, many = rest + 1 := ⟨many - 1, by omega⟩
  show loop dumpStep (2047 + 1) (evtlog, true, []) = _
  rw [loop_succ, dumpStep, line]
  dsimp only
  rw [dumpLoop_eq rest small rfl (by dsimp only; omega) (by show rest ≤ 256; omega) (by omega),
    List.range'_succ,
    List.map_cons]
  rfl

theorem dumpAll_nothing (same : evtlog.last = evtlog.next) :
    dumpAll SDE_EVTLOG_ENTRY evtlog =
      some ({ evtlog with first := evtlog.last, lastDump := evtlog.last }, []) := by
  have nothing : dumpToBuffer evtlog true false =
      ({ evtlog with first := evtlog.last, lastDump := evtlog.last }, none) :=
        dumpToBuffer_none rfl same
  show loop dumpStep (2047 + 1) (evtlog, true, []) = _
  rw [loop_succ, dumpStep, nothing]

/-! ## Runs of calls -/

structure Synced (s : Trace) : Prop where
  ring : Retains SDE_EVTLOG_ENTRY .zero s.evtlog.logs s.entries
  curr : s.evtlog.curr = s.entries.length % SDE_EVTLOG_ENTRY
  last : s.evtlog.last = s.entries.length % 2 ^ 32
  next : s.evtlog.next = s.shown % 2 ^ 32
  shown : s.shown ≤ s.entries.length

theorem synced_start (enable : U32) (filterList : List (List Char)) :
    Synced (start enable filterList) :=
  ⟨retains_nil _ _, rfl, rfl, rfl, Nat.le_refl 0⟩

theorem synced_log (synced : Synced s) (event : Event) : Synced (step s (.log event)) := by
  cases entry : entryOf s.evtlog event with
  | none =>
    have same : step s (.log event) = s := by
      rw [step, evtlogLog, entry]
      simp
    rw [same]
    exact synced
  | some log =>
    have next : step s (.log event) = { s with
        evtlog := { s.evtlog with
          logs := Function.update s.evtlog.logs s.evtlog.curr log
          curr := (s.evtlog.curr + 1) % SDE_EVTLOG_ENTRY
          last := (s.evtlog.last + 1) % 2 ^ 32 }
        entries := s.entries ++ [log] } := by
      rw [step, evtlogLog, entry]
      rfl
    have longer : (s.entries ++ [log]).length = s.entries.length + 1 := List.length_append
    have below := synced.shown
    rw [next]
    refine ⟨?_, ?_, ?_, synced.next, ?_⟩
    · show Retains _ _ (Function.update s.evtlog.logs s.evtlog.curr log) (s.entries ++ [log])
      rw [synced.curr]
      exact synced.ring.push log
    · show (s.evtlog.curr + 1) % SDE_EVTLOG_ENTRY = (s.entries ++ [log]).length % SDE_EVTLOG_ENTRY
      rw [synced.curr, longer, Nat.mod_add_mod]
    · show (s.evtlog.last + 1) % 2 ^ 32 = (s.entries ++ [log]).length % 2 ^ 32
      rw [synced.last, longer, Nat.mod_add_mod]
    · show s.shown ≤ (s.entries ++ [log]).length
      omega

theorem slotLine_eq (synced : Synced s) {k : ℕ} (inside : k < s.entries.length)
    (near : s.entries.length ≤ k + SDE_EVTLOG_PRINT_ENTRY) :
    slotLine s.evtlog.logs (k % 2 ^ 32) = lineAt s.entries k := by
  have print : SDE_EVTLOG_PRINT_ENTRY = 256 := rfl
  have size : SDE_EVTLOG_ENTRY = 2048 := rfl
  have slot : k % 2 ^ 32 % SDE_EVTLOG_ENTRY = k % SDE_EVTLOG_ENTRY := by
    rw [size]
    omega
  have here : s.evtlog.logs (k % SDE_EVTLOG_ENTRY) = s.entries.getD k .zero := by
    rw [List.getD_eq_getElem?_getD, List.getElem?_eq_getElem inside]
    exact synced.ring.kept k inside (by omega)
  have prev : s.evtlog.logs (sub32 (k % 2 ^ 32) 1 % SDE_EVTLOG_ENTRY) =
      if k = 0 then .zero else s.entries.getD (k - 1) .zero := by
    by_cases first : k = 0
    · subst first
      rw [if_pos rfl]
      exact synced.ring.unwritten 2047 (by omega) (by omega)
    · have before : sub32 (k % 2 ^ 32) 1 % SDE_EVTLOG_ENTRY = (k - 1) % SDE_EVTLOG_ENTRY := by
        rw [sub32, size]
        omega
      have inside' : k - 1 < s.entries.length := by omega
      rw [if_neg first, before, List.getD_eq_getElem?_getD, List.getElem?_eq_getElem inside']
      exact synced.ring.kept (k - 1) inside' (by omega)
  rw [slotLine, lineAt, slot, here, prev]

theorem lines_eq (synced : Synced s) {many : ℕ} (few : many ≤ SDE_EVTLOG_PRINT_ENTRY)
    (fits : many ≤ s.evtlog.last) :
    (List.range' (s.evtlog.last - many) many).map (slotLine s.evtlog.logs) =
      (List.range' (s.entries.length - many) many).map (lineAt s.entries) := by
  have last := synced.last
  rw [List.range'_eq_map_range, List.range'_eq_map_range, List.map_map, List.map_map]
  refine List.map_congr_left fun i below => ?_
  rw [List.mem_range] at below
  have index : s.evtlog.last - many + i = (s.entries.length - many + i) % 2 ^ 32 := by omega
  show slotLine s.evtlog.logs (s.evtlog.last - many + i) = lineAt s.entries
    (s.entries.length - many + i)
  rw [index]
  exact slotLine_eq synced (by omega) (by omega)

theorem unwrapped_of_tells (synced : Synced s) (tells : Tells s .dumpAll)
    (some : s.shown < s.entries.length) :
    ∃ first, unwrapped s.evtlog.next s.evtlog.last = (first, s.evtlog.last) ∧
    first ≤ s.evtlog.last ∧
      min (s.entries.length - s.shown) SDE_EVTLOG_PRINT_ENTRY =
        min (s.evtlog.last - first) SDE_EVTLOG_PRINT_ENTRY ∧ s.evtlog.last ≠ s.evtlog.next := by
  have print : SDE_EVTLOG_PRINT_ENTRY = 256 := rfl
  have size : SDE_EVTLOG_ENTRY = 2048 := rfl
  have last := synced.last
  have next := synced.next
  obtain ⟨le, count⟩ | ⟨wrapped, count⟩ := tells
  · refine ⟨s.evtlog.next, if_neg (Nat.not_lt_of_le le), le, ?_, ?_⟩
    · omega
    · omega
  · have plain : ¬s.evtlog.last < s.evtlog.next % SDE_EVTLOG_ENTRY := by omega
    refine ⟨s.evtlog.next % SDE_EVTLOG_ENTRY, ?_, by omega, ?_, ?_⟩
    · rw [unwrapped, if_pos wrapped, if_neg plain]
    · omega
    · omega

theorem dump_right (synced : Synced s) (tells : Tells s .dumpAll) :
    Synced (step s .dumpAll) ∧ PrintedRight (step s .dumpAll) := by
  have print : SDE_EVTLOG_PRINT_ENTRY = 256 := rfl
  have below := synced.shown
  by_cases nothing : s.shown = s.entries.length
  · have same : s.evtlog.last = s.evtlog.next := by rw [synced.last, synced.next, nothing]
    rw [step, dumpAll_nothing same]
    refine ⟨⟨synced.ring, synced.curr, synced.last, synced.next, synced.shown⟩, ?_⟩
    show some [] = some (recentLines s.entries s.shown)
    rw [recentLines, nothing, Nat.sub_self, Nat.zero_min]
    rfl
  · obtain ⟨first, range, before, count, differ⟩ := unwrapped_of_tells synced tells (by omega)
    have last := synced.last
    rw [step, dumpAll_of_range (by omega) differ range before count (by omega)]
    have few : min (s.entries.length - s.shown) SDE_EVTLOG_PRINT_ENTRY ≤ SDE_EVTLOG_PRINT_ENTRY :=
      Nat.min_le_right _ _
    have lines := lines_eq synced few (by omega)
    have printed : ((List.range'
      (s.evtlog.last - min (s.entries.length - s.shown) SDE_EVTLOG_PRINT_ENTRY)
        (min (s.entries.length - s.shown) SDE_EVTLOG_PRINT_ENTRY)).map
          (slotLine s.evtlog.logs)).isEmpty = false := by
      rw [List.isEmpty_eq_false_iff, ne_eq, List.map_eq_nil_iff, List.range'_eq_nil_iff]
      omega
    dsimp only
    rw [printed, if_neg Bool.false_ne_true]
    exact ⟨⟨synced.ring, synced.curr, synced.last, synced.last, Nat.le_refl _⟩, congrArg some lines⟩

/-- Every dump of a run prints what it should, as long as the cursors tell how much that is. -/
theorem dumps_printedRight (enable : U32) (filterList : List (List Char)) (calls : List Call)
    (tells : StepsMeet step Tells (start enable filterList) calls) :
    Throughout step PrintedRight (start enable filterList) calls := by
  have keeps : ∀ s call, Synced s ∧ PrintedRight s → Tells s call →
      Synced (step s call) ∧ PrintedRight (step s call) := by
    rintro s call ⟨synced, right⟩ tells
    cases call with
    | log event => exact ⟨synced_log synced event, right⟩
    | dumpAll => exact dump_right synced tells
  exact throughout_of_meets _ keeps (fun _ both => both.2)
    ⟨synced_start enable filterList, rfl⟩ tells

def plainEvent : Event :=
  { name := some ['f'], line := 1, flag := 1, args := [SDE_EVTLOG_DATA_LIMITER], time := 5
    pid := 1 }

theorem dumps_printedRight_twice :
    Throughout step PrintedRight (start 3 []) [.log plainEvent, .log plainEvent,
    .dumpAll, .dumpAll] :=
  dumps_printedRight 3 [] _ (by decide)

/-! ## A counter that wraps -/

theorem run_logs (n : ℕ) : ∃ logs curr entries, entries.length = n ∧
    run step (start 3 []) (List.replicate n (.log plainEvent)) =
      { start 3 [] with
        evtlog := { evtlogInit 3 [] with logs, curr, last := n % 2 ^ 32 }
        entries } := by
  induction n with
  | zero => exact ⟨_, _, [], rfl, rfl⟩
  | succ n ih =>
    obtain ⟨logs, curr, entries, length, state⟩ := ih
    have accepted : entryOf { evtlogInit 3 [] with logs, curr, last := n % 2 ^ 32 } plainEvent =
        some { time := 5, name := some ['f'], line := 1, data := [], pid := 1 } := by
      simp [entryOf, isEnabled, isFilteredNoLock, plainEvent, evtlogInit]
    rw [List.replicate_succ', run_append, state, run_cons, run_nil, ← Nat.mod_add_mod,
      step, evtlogLog,
      accepted]
    exact ⟨_, _, entries ++ [_], by rw [List.length_append, length]; rfl, rfl⟩

theorem not_printedRight_round {n : ℕ} (round : n % 2 ^ 32 = 0) (some : 0 < n) :
    ¬PrintedRight (run step (start 3 []) (List.replicate n (.log plainEvent) ++ [.dumpAll])) := by
  obtain ⟨logs, curr, entries, length, state⟩ := run_logs n
  have nothing := @dumpAll_nothing { evtlogInit 3 [] with logs, curr, last := n % 2 ^ 32 } round
  rw [run_append, state, run_cons, run_nil, step, nothing]
  intro right
  have none : ([] : List Line) = recentLines entries 0 := Option.some.inj right
  rw [recentLines, eq_comm, List.map_eq_nil_iff, List.range'_eq_nil_iff, length] at none
  have print : SDE_EVTLOG_PRINT_ENTRY = 256 := rfl
  omega

/-- After 2^32 entries the counter is where it started, and nothing is printed. -/
theorem not_dumps_printedRight :
    ¬∀ (enable : U32) (filterList : List (List Char)) (calls : List Call),
      Throughout step PrintedRight (start enable filterList) calls := by
  intro every
  have right := throughout_iff_prefix.mp
    (every 3 [] (List.replicate (2 ^ 32) (.log plainEvent) ++ [.dumpAll])) _ []
      (List.append_nil _).symm
  exact not_printedRight_round (n := 2 ^ 32) (by decide) (by decide) right

end DisplayDrivers.Dbg.EvtLog
