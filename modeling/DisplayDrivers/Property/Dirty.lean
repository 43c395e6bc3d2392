import DisplayDrivers.Lib.Arrival
import DisplayDrivers.Property.Model

/-! # Dirty tracking

The intrusive dirty list of a state represents a queue of indices (`Dirty`): setting a property
dirty appends its index unless it is there, a pop takes the first.
-/

namespace DisplayDrivers.Property

open DisplayDrivers.Lib.ListHead DisplayDrivers.Lib.Run DisplayDrivers.Lib.Arrival

/-! ## The dirty list of one state -/

def IsValueNode (count : Nat) : DirtyNode → Prop
  | .head => False
  | .value idx => idx < count

def Dirty (count : Nat) (st : PropertyState) (xs : List Nat) : Prop :=
  Tracks st.links .head (IsValueNode count) (xs.map .value)

theorem value_mem_map (xs : List Nat) (idx : Nat) :
    DirtyNode.value idx ∈ xs.map DirtyNode.value ↔ idx ∈ xs := by
  simp

variable {st : PropertyState} {xs : List Nat} {count idx : Nat}

section

variable (dirty : Dirty count st xs)

include dirty

theorem Dirty.lt_count (member : idx ∈ xs) : idx < count :=
  dirty.on_list (.value idx) ((value_mem_map xs idx).mpr member)

theorem Dirty.nodup : xs.Nodup :=
  List.Nodup.of_map _ (List.nodup_cons.mp dirty.toRing.nodup).2

theorem Dirty.length_le : xs.length ≤ count := by
  have within : xs ⊆ List.range count := fun idx member =>
    List.mem_range.mpr (dirty.lt_count member)
  simpa using (List.subperm_of_subset dirty.nodup within).length_le

def dirtyIndices (count : Nat) (st : PropertyState) : List Nat :=
  (nodes st.links .head count).map fun node => node.offset.toNat

theorem Dirty.dirtyIndices_eq : dirtyIndices count st = xs := by
  have walked : nodes st.links .head count = xs.map .value :=
    Tracks.nodes_eq dirty (by simpa using dirty.length_le)
  rw [dirtyIndices, walked, List.map_map]
  exact List.map_id'' (fun _ => rfl) xs

theorem Dirty.of_links {st' : PropertyState}
    (same : st'.links = st.links) : Dirty count st' xs := by
  unfold Dirty
  rw [same]
  exact dirty

end

theorem dirty_init (info : PropertyInfo) (values : List PropertyValue) (links : Links DirtyNode) :
    Dirty info.propertyCount { values := values, links := initDirtyList info links } [] := by
  refine tracks_init ?_ links .head (by simp)
  intro node isNode
  cases node with
  | head => exact isNode.elim
  | value idx => exact (value_mem_map _ idx).mpr (List.mem_range.mpr isNode)

variable {info : PropertyInfo}

theorem Dirty.isDirty_iff (dirty : Dirty info.propertyCount st xs) (idx : Nat) :
    msmPropertyIsDirty info st idx = true ↔ idx ∈ xs := by
  unfold msmPropertyIsDirty
  by_cases inRange : idx ≥ info.propertyCount
  · rw [if_pos inRange]
    exact iff_of_false nofun fun member => absurd (dirty.lt_count member) (Nat.not_lt.mpr inRange)
  · have empty := Tracks.listEmpty_iff dirty (a := .value idx) (Nat.lt_of_not_ge inRange) nofun
    rw [if_neg inRange, ← value_mem_map xs idx]
    cases on : listEmpty st.links (.value idx) with
    | true => simpa [on] using empty
    | false => simpa [on] using empty

theorem Dirty.setDirty (dirty : Dirty info.propertyCount st xs) (idx : Nat) :
    Dirty info.propertyCount (msmPropertySetDirtyNoLock info st idx)
      (if idx < info.propertyCount ∧ idx ∉ xs then xs ++ [idx] else xs) := by
  unfold msmPropertySetDirtyNoLock
  by_cases inRange : idx ≥ info.propertyCount
  · rw [if_pos inRange, if_neg fun both => absurd both.1 (Nat.not_lt.mpr inRange)]
    exact dirty
  · have node : IsValueNode info.propertyCount (.value idx) := Nat.lt_of_not_ge inRange
    have empty := Tracks.listEmpty_iff dirty node nofun
    rw [value_mem_map] at empty
    rw [if_neg inRange]
    by_cases there : idx ∈ xs
    · have flag : ¬listEmpty st.links (.value idx) = true := by
        rw [empty]
        exact not_not.mpr there
      rw [if_pos (by simpa using flag), if_neg fun both => both.2 there]
      exact dirty
    · have flag : ¬(!listEmpty st.links (.value idx)) = true := by
        rw [empty.mpr there]
        decide
      rw [if_neg flag, if_pos ⟨node, there⟩]
      have added := Tracks.addTail dirty node nofun (by rwa [value_mem_map])
      show Tracks _ _ _ ((xs ++ [idx]).map DirtyNode.value)
      rw [List.map_append]
      exact added

theorem Dirty.pop_nil (dirty : Dirty count st []) : msmPropertyPopDirty st = (st, -EAGAIN) :=
  if_pos ((ring_nil_iff dirty.toRing).mpr rfl)

theorem Dirty.pop_cons (dirty : Dirty count st (idx :: xs)) :
    (msmPropertyPopDirty st).2 = idx ∧ Dirty count (msmPropertyPopDirty st).1 xs := by
  have first : st.links.next .head = .value idx := dirty.linked.1
  have filled : ¬listEmpty st.links .head = true := by
    rw [ring_nil_iff dirty.toRing]
    exact nofun
  unfold msmPropertyPopDirty
  rw [if_neg filled, first]
  exact ⟨rfl, Tracks.delFirst dirty⟩

theorem popDirty_values (st : PropertyState) : (msmPropertyPopDirty st).1.values = st.values := by
  unfold msmPropertyPopDirty
  split <;> rfl

theorem setDirtyNoLock_values (info : PropertyInfo) (st : PropertyState) (idx : Nat) :
    (msmPropertySetDirtyNoLock info st idx).values = st.values := by
  unfold msmPropertySetDirtyNoLock
  split
  · rfl
  · split <;> rfl

/-- The return codes of `msm_property_pop_dirty`, called until it returns `-EAGAIN`. -/
inductive PopsUntilEagain : PropertyState → List Int → Prop
  | again {st : PropertyState} (empty : (msmPropertyPopDirty st).2 = -EAGAIN) :
      PopsUntilEagain st []
  | pop {st : PropertyState} {rest : List Int} (found : (msmPropertyPopDirty st).2 ≠ -EAGAIN)
      (later : PopsUntilEagain (msmPropertyPopDirty st).1 rest) :
      PopsUntilEagain st ((msmPropertyPopDirty st).2 :: rest)

theorem Dirty.popsUntilEagain_iff (dirty : Dirty count st xs) (popped : List Int) :
    PopsUntilEagain st popped ↔ popped = xs.map Int.ofNat := by
  induction xs generalizing st popped with
  | nil =>
    have none := dirty.pop_nil
    constructor
    · intro pops
      cases pops with
      | again empty => rfl
      | pop found later => exact absurd (congrArg Prod.snd none) found
    · rintro rfl
      exact .again (congrArg Prod.snd none)
  | cons idx xs ih =>
    obtain ⟨first, rest⟩ := dirty.pop_cons
    have notAgain : (msmPropertyPopDirty st).2 ≠ -EAGAIN := by
      rw [first, EAGAIN]
      omega
    constructor
    · intro pops
      cases pops with
      | again empty => exact absurd empty notAgain
      | pop found later =>
        rw [(ih rest _).mp later, first]
        rfl
    · rintro rfl
      have pops := PopsUntilEagain.pop notAgain ((ih rest _).mpr rfl)
      rw [first] at pops
      exact pops

/-! ## The dirty lists of a world -/

variable {property : DrmProperty}

theorem indexLoop_lt {start : Nat}
    (found : indexLoop info property count start = some idx) : idx < info.propertyCount := by
  induction count generalizing start with
  | zero => cases found
  | succ count ih =>
    rw [indexLoop] at found
    split at found
    next here =>
      obtain rfl := Option.some.inj found
      rw [← info.array_length]
      exact (List.getElem?_eq_some_iff.mp here).1
    next => exact ih found

theorem msmPropertyIndex_lt
    (found : (msmPropertyIndex info property).2 = some idx) : idx < info.propertyCount := by
  unfold msmPropertyIndex at found
  split at found
  next idx' hit =>
    obtain rfl := Option.some.inj found
    exact indexLoop_lt hit
  next => cases found

theorem msmPropertyIndex_info (info : PropertyInfo) (property : DrmProperty) :
    ∃ recentIdx, (msmPropertyIndex info property).1 = { info with recentIdx := recentIdx } := by
  unfold msmPropertyIndex
  split
  · exact ⟨_, rfl⟩
  · exact ⟨info.recentIdx, rfl⟩

theorem msmPropertyAtomicSet_cases (info : PropertyInfo) (refs : Refs) (st : PropertyState)
    (property : DrmProperty) (val : U64) (found : Option DrmBlob) :
    (∃ recentIdx, (msmPropertyAtomicSet info refs st property val found).1 =
        { info with recentIdx := recentIdx }) ∧
    (((msmPropertyIndex info property).2 = none ∧
        (msmPropertyAtomicSet info refs st property val found).2 = (refs, st, -EINVAL)) ∨
      ∃ idx, (msmPropertyIndex info property).2 = some idx ∧
        (msmPropertyAtomicSet info refs st property val found).2 =
          if property.blob ∧ idx < info.blobCount then
            ((saveBlob refs st idx val found).1,
              updateValue info (saveBlob refs st idx val found).2.1 idx
                (saveBlob refs st idx val found).2.2, 0)
          else (refs, updateValue info st idx val, 0)) := by
  obtain ⟨recentIdx, same⟩ := msmPropertyIndex_info info property
  unfold msmPropertyAtomicSet
  rcases looked : msmPropertyIndex info property with ⟨info', none | idx⟩
  · rw [looked] at same
    exact ⟨⟨recentIdx, same⟩, .inl ⟨rfl, rfl⟩⟩
  · rw [looked] at same
    obtain rfl : info' = _ := same
    dsimp only
    by_cases extra : property.blob ∧ idx < info.blobCount
    · rw [if_pos extra]
      refine ⟨⟨recentIdx, rfl⟩, .inr ⟨idx, rfl, ?_⟩⟩
      rw [if_pos extra]
      rfl
    · rw [if_neg extra]
      refine ⟨⟨recentIdx, rfl⟩, .inr ⟨idx, rfl, ?_⟩⟩
      rw [if_neg extra]
      rfl

theorem saveBlob_links (refs : Refs) (st : PropertyState) (idx : Nat) (val : U64)
    (found : Option DrmBlob) : (saveBlob refs st idx val found).2.1.links = st.links := by
  unfold saveBlob
  dsimp only
  split <;> rfl

theorem Dirty.updateValue (dirty : Dirty info.propertyCount st xs) (idx : Nat) (val : U64) :
    Dirty info.propertyCount (Property.updateValue info st idx val)
      (if (((st.valueAt idx).value ≠ val ∨ (info.propertyData[idx]?.getD {}).forceDirty) ∧
          idx < info.propertyCount) ∧ idx ∉ xs then xs ++ [idx] else xs) := by
  unfold Property.updateValue
  by_cases updates : (st.valueAt idx).value ≠ val ∨ (info.propertyData[idx]?.getD {}).forceDirty
  · rw [if_pos updates]
    have stored : Dirty info.propertyCount
        (st.setValue idx { st.valueAt idx with value := val }) xs := dirty.of_links rfl
    simpa only [updates, true_and] using stored.setDirty idx
  · rw [if_neg updates, if_neg fun all => updates all.1.1]
    exact dirty

def Appended (xs ys : List Nat) : Prop := ys = xs ∨ ∃ idx, idx ∉ xs ∧ ys = xs ++ [idx]

theorem appended_ite (xs : List Nat) (idx : Nat) (cond : Prop) [Decidable cond] :
    Appended xs (if cond ∧ idx ∉ xs then xs ++ [idx] else xs) := by
  split
  next both => exact .inr ⟨idx, both.2, rfl⟩
  next => exact .inl rfl

theorem valueAt_setValue_value (st : PropertyState) (idx : Nat) (v : PropertyValue)
    (same : v.value = (st.valueAt idx).value) :
    ((st.setValue idx v).valueAt idx).value = (st.valueAt idx).value := by
  by_cases inRange : idx < st.values.length
  · have stored : (st.setValue idx v).valueAt idx = v := by
      simp [PropertyState.valueAt, PropertyState.setValue, inRange]
    rw [stored, same]
  · simp [PropertyState.valueAt, PropertyState.setValue, inRange]

theorem saveBlob_value (refs : Refs) (st : PropertyState) (idx : Nat) (val : U64)
    (found : Option DrmBlob) :
    ((saveBlob refs st idx val found).2.1.valueAt idx).value = (st.valueAt idx).value := by
  unfold saveBlob
  dsimp only
  split
  · rfl
  · exact valueAt_setValue_value st idx _ rfl

theorem Dirty.updateValue_isDirty
    (dirty : Dirty info.propertyCount st xs) (inRange : idx < info.propertyCount)
    {val : U64}
    (changes : ((Property.updateValue info st idx val).valueAt idx).value ≠
        (st.valueAt idx).value ∨ (info.propertyData[idx]?.getD {}).forceDirty) :
    msmPropertyIsDirty info (Property.updateValue info st idx val) idx = true := by
  -- without an update nothing changes, so an update was made
  have updates : (st.valueAt idx).value ≠ val ∨ (info.propertyData[idx]?.getD {}).forceDirty := by
    by_contra none
    have still : Property.updateValue info st idx val = st := if_neg none
    rw [still] at changes
    exact changes.elim (fun differ => differ rfl) fun forced => none (.inr forced)
  rw [(dirty.updateValue idx val).isDirty_iff]
  split
  next => exact List.mem_append_right _ (List.mem_singleton_self idx)
  next stays =>
    by_contra absent
    exact stays ⟨⟨updates, inRange⟩, absent⟩

theorem Dirty.atomicSet
    (dirty : Dirty info.propertyCount st xs) (refs : Refs) (property : DrmProperty) (val : U64)
    (found : Option DrmBlob) :
    ∃ ys, Appended xs ys ∧
      Dirty info.propertyCount (msmPropertyAtomicSet info refs st property val found).2.2.1 ys := by
  rcases (msmPropertyAtomicSet_cases info refs st property val found).2 with
    ⟨-, outcome⟩ | ⟨idx, -, outcome⟩
  · rw [outcome]
    exact ⟨xs, .inl rfl, dirty⟩
  · rw [outcome]
    split
    · have saved : Dirty info.propertyCount (saveBlob refs st idx val found).2.1 xs :=
        dirty.of_links (saveBlob_links refs st idx val found)
      exact ⟨_, appended_ite _ _ _, saved.updateValue idx (saveBlob refs st idx val found).2.2⟩
    · exact ⟨_, appended_ite _ _ _, dirty.updateValue idx val⟩

def Tracked (w : World) : Prop :=
  ∀ a ∈ w.live, ∃ xs, Dirty w.info.propertyCount (w.mem a) xs

def queueOf (w : World) (a : Nat) : List Nat :=
  if a ∈ w.live then dirtyIndices w.info.propertyCount (w.mem a) else []

variable {w : World}

variable {a : Nat}

theorem queueOf_eq (live : a ∈ w.live)
    (dirty : Dirty w.info.propertyCount (w.mem a) xs) : queueOf w a = xs := by
  rw [queueOf, if_pos live, dirty.dirtyIndices_eq]

theorem Tracked.dirty (tracked : Tracked w) (live : a ∈ w.live) :
    Dirty w.info.propertyCount (w.mem a) (queueOf w a) := by
  obtain ⟨xs, dirty⟩ := tracked a live
  rw [queueOf_eq live dirty]
  exact dirty

structure DirtyStep (w w' : World) : Prop where
  tracked : Tracked w'
  fifo : ∀ a, FifoStep (queueOf w a) (queueOf w' a)
  count : w'.info.propertyCount = w.info.propertyCount

theorem Appended.fifoStep {ys : List Nat} (appended : Appended xs ys) : FifoStep xs ys := by
  rcases appended with rfl | ⟨idx, fresh, grown⟩
  · exact .refl _
  · exact .inr ⟨idx, fresh, grown⟩

theorem dirtyStep_write {w' : World} (tracked : Tracked w) {addr : Nat}
    (count : w'.info.propertyCount = w.info.propertyCount) (live : w'.live = insert addr w.live)
    (mem : w'.mem = Function.update w.mem addr st) {ys : List Nat}
    (dirty : Dirty w.info.propertyCount st ys) (fifo : FifoStep (queueOf w addr) ys) :
    DirtyStep w w' := by
  have written : Dirty w'.info.propertyCount (w'.mem addr) ys := by
    rw [count, mem, Function.update_self]
    exact dirty
  -- the other states are where they were
  have others : ∀ a ≠ addr, (a ∈ w'.live ↔ a ∈ w.live) ∧ w'.mem a = w.mem a := by
    intro a differ
    rw [live, mem, Function.update_of_ne differ]
    exact ⟨by simp [differ], rfl⟩
  refine ⟨fun a isLive => ?_, fun a => ?_, count⟩
  · by_cases same : a = addr
    · exact same ▸ ⟨ys, written⟩
    · obtain ⟨xs, old⟩ := tracked a ((others a same).1.mp isLive)
      exact ⟨xs, by rw [count, (others a same).2]; exact old⟩
  · by_cases same : a = addr
    · subst same
      have isLive : a ∈ w'.live := by
        rw [live]
        exact Finset.mem_insert_self _ _
      rw [queueOf_eq isLive written]
      exact fifo
    · have unchanged : queueOf w' a = queueOf w a := by
        rw [queueOf, queueOf, count, (others a same).2]
        simp only [(others a same).1]
      rw [unchanged]
      exact .refl _

theorem dirtyStep_refl (tracked : Tracked w) : DirtyStep w w :=
  ⟨tracked, fun _ => .refl _, rfl⟩

theorem dirtyStep_destroy (tracked : Tracked w) (addr : Nat) :
    DirtyStep w (step w (.destroy addr)) := by
  simp only [step]
  split
  next live =>
    have others : ∀ a ≠ addr, (Function.update w.mem addr
        (msmPropertyDestroyState w.refs (w.mem addr)).2) a = w.mem a :=
      fun a differ => Function.update_of_ne differ _ _
    refine ⟨fun a isLive => ?_, fun a => ?_, rfl⟩
    · obtain ⟨differ, wasLive⟩ := Finset.mem_erase.mp isLive
      obtain ⟨xs, old⟩ := tracked a wasLive
      exact ⟨xs, by simpa only [others a differ] using old⟩
    · by_cases same : a = addr
      · subst same
        refine .inl ?_
        rw [queueOf]
        simp
      · have unchanged : queueOf { w with
            live := w.live.erase addr
            mem := Function.update w.mem addr (msmPropertyDestroyState w.refs (w.mem addr)).2
            refs := (msmPropertyDestroyState w.refs (w.mem addr)).1 } a = queueOf w a := by
          rw [queueOf, queueOf]
          simp only [others a same, Finset.mem_erase, ne_eq, same, not_false_eq_true, true_and]
        rw [unchanged]
        exact .refl _
  next => exact dirtyStep_refl tracked

theorem dirtyStep_step (tracked : Tracked w) (op : Op) : DirtyStep w (step w op) := by
  cases op with
  | reset addr =>
    exact dirtyStep_write tracked rfl rfl rfl (dirty_init w.info _ _) (.inl List.nil_suffix)
  | duplicate old addr =>
    simp only [step]
    split
    · exact dirtyStep_write tracked rfl rfl rfl (dirty_init w.info _ _) (.inl List.nil_suffix)
    · exact dirtyStep_refl tracked
  | atomicSet addr property val found =>
    simp only [step]
    split
    next live =>
      obtain ⟨ys, appended, dirty⟩ :=
        (tracked.dirty live).atomicSet w.refs property val found
      obtain ⟨⟨recentIdx, info⟩, -⟩ :=
        msmPropertyAtomicSet_cases w.info w.refs (w.mem addr) property val found
      have count : (msmPropertyAtomicSet w.info w.refs (w.mem addr) property val
          found).1.propertyCount = w.info.propertyCount := by
        rw [info]
      exact dirtyStep_write tracked count rfl rfl dirty appended.fifoStep
    next => exact dirtyStep_refl tracked
  | setDirty addr idx =>
    simp only [step]
    split
    next live =>
      exact dirtyStep_write tracked rfl rfl rfl ((tracked.dirty live).setDirty idx)
        (appended_ite _ _ _).fifoStep
    next => exact dirtyStep_refl tracked
  | popDirty addr =>
    simp only [step]
    split
    next live =>
      have dirty := tracked.dirty live
      rcases queue : queueOf w addr with _ | ⟨idx, rest⟩
      · rw [queue] at dirty
        -- an empty list is left alone
        have same : Dirty w.info.propertyCount (msmPropertyPopDirty (w.mem addr)).1 [] := by
          rw [dirty.pop_nil]
          exact dirty
        exact dirtyStep_write tracked rfl rfl rfl same (.inl List.nil_suffix)
      · rw [queue] at dirty
        refine dirtyStep_write tracked rfl rfl rfl dirty.pop_cons.2 (.inl ?_)
        rw [queue]
        exact List.suffix_cons idx rest
    next => exact dirtyStep_refl tracked
  | destroy addr => exact dirtyStep_destroy tracked addr

/-! ## Whole runs -/

theorem tracked_fresh (info : PropertyInfo) : Tracked (fresh info) :=
  fun _ live => absurd live (Finset.notMem_empty _)

theorem tracked_run (info : PropertyInfo) (ops : List Op) :
    Tracked (run step (fresh info) ops) :=
  run_invariant Tracked (fun _ op tracked => (dirtyStep_step tracked op).tracked)
    (tracked_fresh info) ops

def worldAt (info : PropertyInfo) (ops : List Op) (k : Nat) : World :=
  run step (fresh info) (ops.take k)

def dirtyAt (info : PropertyInfo) (ops : List Op) (a k : Nat) : List Nat :=
  queueOf (worldAt info ops k) a

theorem dirtyAt_fifo (info : PropertyInfo) (ops : List Op) (a k : Nat) (less : k < ops.length) :
    FifoStep (dirtyAt info ops a k) (dirtyAt info ops a (k + 1)) := by
  have next : worldAt info ops (k + 1) = step (worldAt info ops k) ops[k] := by
    rw [worldAt, List.take_succ_eq_append_getElem less, run_append]
    rfl
  rw [dirtyAt, dirtyAt, next]
  exact (dirtyStep_step (tracked_run info (ops.take k)) ops[k]).fifo a

/-- `msm_property_atomic_set` on state `a` changes the value that it holds for `idx`, or `idx` is
    to be flagged in any case. -/
def SetsDirty (w : World) (a : Nat) (property : DrmProperty) (val : U64)
    (found : Option DrmBlob) (idx : Nat) : Prop :=
  (msmPropertyIndex w.info property).2 = some idx ∧
    ((((step w (.atomicSet a property val found)).mem a).valueAt idx).value ≠
        ((w.mem a).valueAt idx).value ∨
      (w.info.propertyData[idx]?.getD {}).forceDirty)

theorem setsDirty_isDirty (tracked : Tracked w) (live : a ∈ w.live)
    {val : U64} {found : Option DrmBlob}
    (sets : SetsDirty w a property val found idx) :
    msmPropertyIsDirty (step w (.atomicSet a property val found)).info
      ((step w (.atomicSet a property val found)).mem a) idx = true := by
  obtain ⟨looked, changes⟩ := sets
  have inRange := msmPropertyIndex_lt looked
  obtain ⟨⟨recentIdx, info⟩, outcome⟩ :=
    msmPropertyAtomicSet_cases w.info w.refs (w.mem a) property val found
  have written : (step w (.atomicSet a property val found)).mem a =
      (msmPropertyAtomicSet w.info w.refs (w.mem a) property val found).2.2.1 := by
    simp only [step, if_pos live]
    exact Function.update_self ..
  have count : (step w (.atomicSet a property val found)).info.propertyCount =
      w.info.propertyCount := (dirtyStep_step tracked _).count
  have sameTest : ∀ st, msmPropertyIsDirty (step w (.atomicSet a property val found)).info st idx =
      msmPropertyIsDirty w.info st idx := by
    intro st
    rw [msmPropertyIsDirty, msmPropertyIsDirty, count]
  rw [written] at changes
  rw [sameTest, written]
  rcases outcome with ⟨unknown, -⟩ | ⟨idx', known, outcome⟩
  · rw [unknown] at looked
    cases looked
  · obtain rfl : idx' = idx := Option.some.inj (known.symm.trans looked)
    have dirty := tracked.dirty live
    rw [outcome] at changes ⊢
    split at changes
    next extra =>
      rw [if_pos extra]
      have saved : Dirty w.info.propertyCount (saveBlob w.refs (w.mem a) idx' val found).2.1 _ :=
        dirty.of_links (saveBlob_links w.refs (w.mem a) idx' val found)
      -- the value that is compared is the one before the blob was saved
      rw [← saveBlob_value w.refs (w.mem a) idx' val found] at changes
      exact saved.updateValue_isDirty inRange changes
    next plain =>
      rw [if_neg plain]
      exact dirty.updateValue_isDirty inRange changes

/-- The dirty list holds each index at most once and exactly the ones flagged dirty, setting a
    property does not lose a change, and popping until `-EAGAIN` returns the list. -/
structure DirtyTracking (info : PropertyInfo) (ops : List Op) (w : World) (a : Nat) : Prop where
  once : (queueOf w a).Nodup
  flag : ∀ idx, msmPropertyIsDirty w.info (w.mem a) idx = true ↔ idx ∈ queueOf w a
  sets : ∀ property val found idx, SetsDirty w a property val found idx →
    msmPropertyIsDirty (step w (.atomicSet a property val found)).info
      ((step w (.atomicSet a property val found)).mem a) idx = true
  pops : ∀ popped, PopsUntilEagain (w.mem a) popped ↔ popped = (queueOf w a).map Int.ofNat
  arrived : ∀ idx ∈ queueOf w a, ∃ k, ArrivedAt (dirtyAt info ops a) ops.length idx k
  ordered : (queueOf w a).Pairwise fun i j =>
    ∀ k l, ArrivedAt (dirtyAt info ops a) ops.length i k →
      ArrivedAt (dirtyAt info ops a) ops.length j l → k < l

/-- Dirty tracking neither loses nor duplicates a property, in any state of any run. -/
theorem dirty_tracking (info : PropertyInfo) (ops : List Op) (a : Nat)
    (live : a ∈ (run step (fresh info) ops).live) :
    DirtyTracking info ops (run step (fresh info) ops) a := by
  have tracked := tracked_run info ops
  have dirty := tracked.dirty live
  have last : dirtyAt info ops a ops.length = queueOf (run step (fresh info) ops) a := by
    rw [dirtyAt, worldAt, List.take_length]
  obtain ⟨arrived, ordered⟩ :=
    arrival_order rfl ops.length (dirtyAt_fifo info ops a)
  rw [last] at arrived ordered
  exact {
    once := dirty.nodup
    flag := dirty.isDirty_iff
    sets := fun _ _ _ _ sets => setsDirty_isDirty tracked live sets
    pops := dirty.popsUntilEagain_iff
    arrived := arrived
    ordered := ordered }

def twoProperties : PropertyInfo where
  propertyCount := 2
  propertyArray := [some 10, some 11]
  propertyData := [{ defaultValue := 0 }, { defaultValue := 0, forceDirty := true }]
  blobCount := 0
  array_length := rfl
  data_length := rfl

theorem dirty_tracking_twoProperties :
    DirtyTracking twoProperties
      [.reset 0, .setDirty 0 1, .atomicSet 0 { id := 10, blob := false } 5 none]
      (run step (fresh twoProperties)
        [.reset 0, .setDirty 0 1, .atomicSet 0 { id := 10, blob := false } 5 none]) 0 :=
  dirty_tracking twoProperties _ 0 (by decide)

end DisplayDrivers.Property
