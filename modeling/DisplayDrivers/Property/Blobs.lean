import DisplayDrivers.Property.Dirty
import Mathlib.Algebra.BigOperators.Group.Finset.Basic
import Mathlib.Tactic.Ring

/-! # Blob references

The states should hold as many references on a blob as there are slots of live states that point to
it (`Balanced`). `msm_property_atomic_set` drops the reference of a slot before it looks the new
blob up, and leaves the slot as it is where the lookup fails: a blob id that does not exist, set on
a slot that holds a blob, breaks the balance, and so does a reset or a copy over a live state.
-/

namespace DisplayDrivers.Property

open DisplayDrivers.Lib.Run

/-! ## Slots -/

def held (st : PropertyState) (b : DrmBlob) : Nat := st.values.countP fun v => v.blob = some b

def slots (w : World) (b : DrmBlob) : Nat := ∑ a ∈ w.live, held (w.mem a) b

def Balanced (w : World) : Prop := ∀ b, w.refs b = slots w b

def HoldsNoBlob (st : PropertyState) : Prop := ∀ v ∈ st.values, v.blob = none

theorem holdsNoBlob_iff (st : PropertyState) : HoldsNoBlob st ↔ ∀ b, held st b = 0 := by
  constructor
  · intro none b
    rw [held, List.countP_eq_zero]
    intro v member
    simp [none v member]
  · intro zero v member
    cases slot : v.blob with
    | none => rfl
    | some b =>
      have absent := List.countP_eq_zero.mp (zero b) v member
      simp [slot] at absent

@[simp] theorem refs_add (refs : Refs) (blob : Option DrmBlob) (n : Int) (b : DrmBlob) :
    (refs.add blob n) b = refs b + if blob = some b then n else 0 := by
  cases blob with
  | none => simp [Refs.add]
  | some c =>
    by_cases same : c = b
    · subst same
      simp [Refs.add]
    · have apart : b ≠ c := fun h => same h.symm
      simp [Refs.add, apart, same]

theorem refs_foldl (refs : Refs) (values : List PropertyValue) (n : Int) (b : DrmBlob) :
    (values.foldl (fun refs v => refs.add v.blob n) refs) b =
      refs b + n * (values.countP fun v => v.blob = some b : Nat) := by
  induction values generalizing refs with
  | nil => simp
  | cons v values ih =>
    rw [List.foldl_cons, ih, refs_add, List.countP_cons]
    by_cases same : v.blob = some b
    · simp [same]
      ring
    · simp [same]

variable {addr : Nat}

theorem slots_erase (w : World) (live : addr ∈ w.live) (b : DrmBlob)
    (mem : Nat → PropertyState) (same : ∀ a ≠ addr, mem a = w.mem a) :
    ∑ a ∈ w.live.erase addr, held (mem a) b + held (w.mem addr) b = slots w b := by
  rw [slots, ← Finset.sum_erase_add _ _ live]
  congr 1
  refine Finset.sum_congr rfl fun a member => ?_
  rw [same a (Finset.mem_erase.mp member).1]

def overwritten (w : World) (addr : Nat) (b : DrmBlob) : Nat :=
  if addr ∈ w.live then held (w.mem addr) b else 0

theorem slots_write (w : World) (addr : Nat) (st : PropertyState) (b : DrmBlob) :
    slots (w.write addr st) b + overwritten w addr b = slots w b + held st b := by
  rw [overwritten]
  have same : ∀ a ≠ addr, (w.write addr st).mem a = w.mem a :=
    fun a differ => Function.update_of_ne differ _ _
  have self : (w.write addr st).mem addr = st := Function.update_self ..
  -- a state that is live already gives its place in the sum to the new one
  by_cases live : addr ∈ w.live
  · have erased := slots_erase w live b (w.write addr st).mem same
    rw [if_pos live, ← erased, slots, World.write, Finset.insert_eq_of_mem live,
      ← Finset.sum_erase_add _ _ live]
    change _ + held ((w.write addr st).mem addr) b + _ = _
    rw [self]
    exact Nat.add_right_comm _ _ _
  · rw [if_neg live, add_zero]
    show ∑ a ∈ insert addr w.live, held ((w.write addr st).mem a) b = _
    rw [Finset.sum_insert live, self, add_comm]
    congr 1
    refine Finset.sum_congr rfl fun a member => ?_
    rw [same a fun isAddr => live (isAddr ▸ member)]

def Sized (w : World) : Prop := ∀ a ∈ w.live, (w.mem a).values.length = w.info.propertyCount

/-! ## One call -/

variable {st : PropertyState}

theorem held_of_values {st' : PropertyState} (same : st'.values = st.values) (b : DrmBlob) :
    held st' b = held st b := by
  rw [held, held, same]

variable {idx : Nat}

theorem held_set (inRange : idx < st.values.length) (v : PropertyValue) (b : DrmBlob) :
    held (st.setValue idx v) b + (if (st.valueAt idx).blob = some b then 1 else 0) =
      held st b + if v.blob = some b then 1 else 0 := by
  have old : st.valueAt idx = st.values[idx] := by
    simp [PropertyState.valueAt, inRange]
  have atLeast : (if (st.values[idx]).blob = some b then 1 else 0) ≤ held st b := by
    split
    next slot =>
      exact List.countP_pos_iff.mpr ⟨st.values[idx], List.getElem_mem inRange, by simp [slot]⟩
    next => exact Nat.zero_le _
  rw [held, PropertyState.setValue_values, List.countP_set inRange, old]
  simp only [decide_eq_true_eq]
  rw [held] at atLeast ⊢
  omega

variable (info : PropertyInfo)

theorem held_updateValue (inRange : idx < st.values.length) (val : U64) (b : DrmBlob) :
    held (updateValue info st idx val) b = held st b := by
  unfold updateValue
  split
  · rw [held_of_values (setDirtyNoLock_values info _ idx)]
    exact Nat.add_right_cancel (held_set inRange { st.valueAt idx with value := val } b)
  · rfl

theorem saveBlob_refs (refs : Refs)
    (inRange : idx < st.values.length) (val : U64) (found : Option DrmBlob) (b : DrmBlob) :
    (saveBlob refs st idx val found).1 b =
        refs b - (if (st.valueAt idx).blob = some b then 1 else 0) +
          (if found = some b then 1 else 0) ∧
      (held (saveBlob refs st idx val found).2.1 b : Int) =
        if val ≠ 0 ∧ found = none then (held st b : Int)
        else held st b - (if (st.valueAt idx).blob = some b then 1 else 0) +
          (if found = some b then 1 else 0) := by
  have stored := held_set inRange { st.valueAt idx with blob := found } b
  have taken : (drmPropertyBlobGet (drmPropertyBlobPut refs (st.valueAt idx).blob) found) b =
      refs b - (if (st.valueAt idx).blob = some b then 1 else 0) +
        (if found = some b then 1 else 0) := by
    rw [drmPropertyBlobGet, drmPropertyBlobPut, refs_add, refs_add]
    split_ifs <;> ring
  unfold saveBlob
  by_cases missed : val ≠ 0 ∧ found = none
  · rw [if_pos missed]
    dsimp only
    rw [if_pos missed]
    exact ⟨taken, rfl⟩
  · rw [if_neg missed]
    dsimp only at stored ⊢
    rw [if_neg missed]
    refine ⟨taken, ?_⟩
    split_ifs at stored ⊢ <;> omega

theorem saveBlob_length (refs : Refs) (st : PropertyState) (idx : Nat) (val : U64)
    (found : Option DrmBlob) :
    (saveBlob refs st idx val found).2.1.values.length = st.values.length := by
  unfold saveBlob
  dsimp only
  split
  · rfl
  · exact List.length_set

theorem updateValue_length (st : PropertyState) (idx : Nat) (val : U64) :
    (updateValue info st idx val).values.length = st.values.length := by
  unfold updateValue
  split
  · rw [setDirtyNoLock_values]
    exact List.length_set
  · rfl

theorem atomicSet_length (refs : Refs) (st : PropertyState)
    (property : DrmProperty) (val : U64) (found : Option DrmBlob) :
    (msmPropertyAtomicSet info refs st property val found).2.2.1.values.length =
      st.values.length := by
  rcases (msmPropertyAtomicSet_cases info refs st property val found).2 with
    ⟨-, outcome⟩ | ⟨idx, -, outcome⟩
  · rw [outcome]
  · rw [outcome]
    split
    · exact (updateValue_length _ _ _ _).trans (saveBlob_length _ _ _ _ _)
    · exact updateValue_length _ _ _ _

def MissesOverBlob (w : World) (addr : Nat) (property : DrmProperty) (val : U64)
    (found : Option DrmBlob) : Prop :=
  ∃ idx, (msmPropertyIndex w.info property).2 = some idx ∧
    (property.blob ∧ idx < w.info.blobCount) ∧ (val ≠ 0 ∧ found = none) ∧
      ((w.mem addr).valueAt idx).blob ≠ none

/-- The calls that keep the balance: no blob id is looked up in vain for a slot that holds a blob,
    and no live state that holds blobs is overwritten by a new one. -/
def BlobOk (w : World) : Op → Prop
  | .reset addr => addr ∈ w.live → HoldsNoBlob (w.mem addr)
  | .duplicate old addr => old ∈ w.live → addr ∈ w.live → HoldsNoBlob (w.mem addr)
  | .atomicSet addr property val found =>
    addr ∈ w.live → ¬MissesOverBlob w addr property val found
  | _ => True

variable {w : World}

theorem balanced_write_iff (balanced : Balanced w) (w' : World) (addr : Nat)
    (st : PropertyState) (sameSlots : ∀ b, slots w' b = slots (w.write addr st) b) :
    Balanced w' ↔ ∀ b, w'.refs b = w.refs b + held st b - overwritten w addr b := by
  refine forall_congr' fun b => ?_
  have total := slots_write w addr st b
  rw [sameSlots b, balanced b]
  constructor <;> intro h <;> omega

theorem overwritten_iff (w : World) (addr : Nat) :
    (∀ b, overwritten w addr b = 0) ↔ (addr ∈ w.live → HoldsNoBlob (w.mem addr)) := by
  by_cases live : addr ∈ w.live
  · simp [overwritten, live, holdsNoBlob_iff]
  · simp [overwritten, live]

theorem overwritten_of_live (live : addr ∈ w.live) (b : DrmBlob) :
    overwritten w addr b = held (w.mem addr) b := if_pos live

theorem balanced_same {w' : World} (balanced : Balanced w)
    (live : addr ∈ w.live) (sameSlots : ∀ b, slots w' b = slots (w.write addr st) b)
    (refs : w'.refs = w.refs) (same : ∀ b, held st b = held (w.mem addr) b) : Balanced w' := by
  refine (balanced_write_iff balanced w' addr st sameSlots).mpr fun b => ?_
  rw [refs, overwritten_of_live live, same b]
  ring

theorem held_reset (st : PropertyState) (b : DrmBlob) :
    held (msmPropertyResetState info st) b = 0 := by
  rw [held, List.countP_eq_zero]
  intro v member
  obtain ⟨data, -, rfl⟩ := List.mem_map.mp member
  simp

theorem balanced_atomicSet_iff (sized : Sized w) (balanced : Balanced w)
    (live : addr ∈ w.live) (property : DrmProperty) (val : U64) (found : Option DrmBlob) :
    Balanced (step w (.atomicSet addr property val found)) ↔
      ¬MissesOverBlob w addr property val found := by
  have written := balanced_write_iff balanced (step w (.atomicSet addr property val found)) addr
    (msmPropertyAtomicSet w.info w.refs (w.mem addr) property val found).2.2.1
    (fun b => by simp only [step, if_pos live]; rfl)
  have refs : (step w (.atomicSet addr property val found)).refs =
      (msmPropertyAtomicSet w.info w.refs (w.mem addr) property val found).2.1 := by
    simp only [step, if_pos live]
    rfl
  rw [written, refs]
  simp only [overwritten_of_live live]
  rcases (msmPropertyAtomicSet_cases w.info w.refs (w.mem addr) property val found).2 with
    ⟨unknown, outcome⟩ | ⟨idx, known, outcome⟩
  · rw [outcome]
    refine iff_of_true (fun b => by ring) ?_
    rintro ⟨idx, looked, -⟩
    rw [unknown] at looked
    cases looked
  · have inRange : idx < (w.mem addr).values.length := by
      rw [sized addr live]
      exact msmPropertyIndex_lt known
    rw [outcome]
    by_cases extra : property.blob ∧ idx < w.info.blobCount
    · rw [if_pos extra]
      have inRange' : idx < (saveBlob w.refs (w.mem addr) idx val found).2.1.values.length := by
        rwa [saveBlob_length]
      have moved := saveBlob_refs w.refs inRange val found
      simp only [held_updateValue w.info inRange', moved]
      by_cases missed : val ≠ 0 ∧ found = none
      · -- the reference of the slot is gone, the slot still points to the blob
        have nothing : ∀ b, (if found = some b then (1 : Int) else 0) = 0 := by
          simp [missed.2]
        simp only [if_pos missed, nothing]
        constructor
        · rintro kept ⟨idx', looked, -, -, full⟩
          obtain rfl : idx = idx' := Option.some.inj (known.symm.trans looked)
          obtain ⟨b, slot⟩ := Option.ne_none_iff_exists'.mp full
          have lost := kept b
          rw [if_pos slot] at lost
          omega
        · intro fine b
          have empty : ((w.mem addr).valueAt idx).blob = none := by
            by_contra full
            exact fine ⟨idx, known, extra, missed, full⟩
          rw [empty]
          simp
      · refine iff_of_true (fun b => ?_) ?_
        · rw [if_neg missed]
          ring
        · rintro ⟨-, -, -, both, -⟩
          exact missed both
    · rw [if_neg extra]
      refine iff_of_true (fun b => ?_) ?_
      · rw [held_updateValue w.info inRange]
        ring
      · rintro ⟨idx', looked, both, -⟩
        obtain rfl : idx = idx' := Option.some.inj (known.symm.trans looked)
        exact extra both

theorem balanced_reset_iff (balanced : Balanced w) (addr : Nat) :
    Balanced (step w (.reset addr)) ↔ BlobOk w (.reset addr) := by
  have written := balanced_write_iff balanced (step w (.reset addr)) addr _ (fun b => rfl)
  show Balanced _ ↔ (addr ∈ w.live → HoldsNoBlob (w.mem addr))
  rw [written, ← overwritten_iff]
  refine forall_congr' fun b => ?_
  rw [held_reset]
  change w.refs b = _ ↔ _
  constructor <;> intro h <;> omega

theorem balanced_duplicate_iff (balanced : Balanced w) {old : Nat}
    (live : old ∈ w.live) (addr : Nat) :
    Balanced (step w (.duplicate old addr)) ↔ (addr ∈ w.live → HoldsNoBlob (w.mem addr)) := by
  have written := balanced_write_iff balanced (step w (.duplicate old addr)) addr
    (msmPropertyDuplicateState w.info w.refs (w.mem old)).2
    (fun b => by simp only [step, if_pos live]; rfl)
  have refs : ∀ b, (step w (.duplicate old addr)).refs b =
      w.refs b + held (w.mem old) b := by
    intro b
    simp only [step, if_pos live]
    exact (refs_foldl w.refs (w.mem old).values 1 b).trans (by rw [one_mul]; rfl)
  rw [written, ← overwritten_iff]
  refine forall_congr' fun b => ?_
  rw [refs b]
  change _ = w.refs b + (held (w.mem old) b : Int) - _ ↔ _
  constructor <;> intro h <;> omega

theorem balanced_destroy (balanced : Balanced w) (addr : Nat) :
    Balanced (step w (.destroy addr)) := by
  simp only [step]
  split
  next live =>
    intro b
    have erased := slots_erase w live b
      (Function.update w.mem addr (msmPropertyDestroyState w.refs (w.mem addr)).2)
      fun a differ => Function.update_of_ne differ _ _
    have put : (msmPropertyDestroyState w.refs (w.mem addr)).1 b =
        w.refs b + -1 * (held (w.mem addr) b : Nat) :=
      refs_foldl w.refs (w.mem addr).values (-1) b
    dsimp only
    rw [put, balanced b, ← erased, slots]
    push_cast
    ring
  next => exact balanced

theorem balanced_step_iff (sized : Sized w) (balanced : Balanced w) (op : Op) :
    Balanced (step w op) ↔ BlobOk w op := by
  cases op with
  | reset addr => exact balanced_reset_iff balanced addr
  | duplicate old addr =>
    by_cases live : old ∈ w.live
    · rw [balanced_duplicate_iff balanced live]
      exact ⟨fun fine _ => fine, fun fine => fine live⟩
    · have same : step w (.duplicate old addr) = w := if_neg live
      rw [same]
      exact iff_of_true balanced fun isLive => absurd isLive live
  | atomicSet addr property val found =>
    by_cases live : addr ∈ w.live
    · rw [balanced_atomicSet_iff sized balanced live]
      exact ⟨fun fine _ => fine, fun fine => fine live⟩
    · have same : step w (.atomicSet addr property val found) = w := if_neg live
      rw [same]
      exact iff_of_true balanced fun isLive => absurd isLive live
  | setDirty addr idx =>
    refine iff_of_true ?_ trivial
    simp only [step]
    split
    next live =>
      exact balanced_same balanced live (fun _ => rfl) rfl
        fun b => held_of_values (setDirtyNoLock_values w.info (w.mem addr) idx) b
    next => exact balanced
  | popDirty addr =>
    refine iff_of_true ?_ trivial
    simp only [step]
    split
    next live =>
      exact balanced_same balanced live (fun _ => rfl) rfl
        fun b => held_of_values (popDirty_values (w.mem addr)) b
    next => exact balanced
  | destroy addr => exact iff_of_true (balanced_destroy balanced addr) trivial

/-! ## Whole runs -/

theorem sized_write {w' : World} (sized : Sized w)
    (count : w'.info.propertyCount = w.info.propertyCount) (live : w'.live = insert addr w.live)
    (mem : w'.mem = Function.update w.mem addr st)
    (length : st.values.length = w.info.propertyCount) : Sized w' := by
  intro a isLive
  rw [count, mem]
  by_cases same : a = addr
  · rw [same, Function.update_self]
    exact length
  · rw [Function.update_of_ne same]
    rw [live] at isLive
    exact sized a ((Finset.mem_insert.mp isLive).resolve_left same)

theorem sized_step (sized : Sized w) (op : Op) : Sized (step w op) := by
  cases op with
  | reset addr =>
    exact sized_write sized rfl rfl rfl (by rw [msmPropertyResetState, List.length_map,
      w.info.data_length])
  | duplicate old addr =>
    simp only [step]
    split
    next live => exact sized_write sized rfl rfl rfl (sized old live)
    next => exact sized
  | atomicSet addr property val found =>
    simp only [step]
    split
    next live =>
      obtain ⟨⟨recentIdx, info⟩, -⟩ :=
        msmPropertyAtomicSet_cases w.info w.refs (w.mem addr) property val found
      have count : (msmPropertyAtomicSet w.info w.refs (w.mem addr) property val
          found).1.propertyCount = w.info.propertyCount := by
        rw [info]
      exact sized_write sized count rfl rfl ((atomicSet_length _ _ _ _ _ _).trans (sized addr live))
    next => exact sized
  | setDirty addr idx =>
    simp only [step]
    split
    next live =>
      exact sized_write sized rfl rfl rfl (by rw [setDirtyNoLock_values]; exact sized addr live)
    next => exact sized
  | popDirty addr =>
    simp only [step]
    split
    next live =>
      exact sized_write sized rfl rfl rfl (by rw [popDirty_values]; exact sized addr live)
    next => exact sized
  | destroy addr =>
    simp only [step]
    split
    next live =>
      intro a isLive
      obtain ⟨differ, wasLive⟩ := Finset.mem_erase.mp isLive
      dsimp only
      rw [Function.update_of_ne differ]
      exact sized a wasLive
    next => exact sized

/-- Blob reference conservation.  The states hold one reference for every slot that points to a
    blob, in every state of a run, exactly if no blob id is looked up in vain for a slot that
    holds a blob and no live state that holds blobs is overwritten. -/
theorem blobs_balanced_iff (info : PropertyInfo) (ops : List Op) :
    Throughout step Balanced (fresh info) ops ↔ StepsMeet step BlobOk (fresh info) ops :=
  throughout_iff_stepsMeet Sized (fun _ op sized => sized_step sized op)
    (fun _ op sized balanced => balanced_step_iff sized balanced op)
    (fun _ live => absurd live (Finset.notMem_empty _)) (fun _ => rfl) ops

def oneBlobProperty : PropertyInfo where
  propertyCount := 1
  propertyArray := [some 10]
  propertyData := [{}]
  blobCount := 1
  array_length := rfl
  data_length := rfl

def missingBlob : List Op :=
  [.reset 0, .atomicSet 0 { id := 10, blob := true } 7 (some { addr := 0, id := 7 }),
   .atomicSet 0 { id := 10, blob := true } 8 none]

/-- The references do not follow the slots in every run: the slot still points to blob 7, whose
    reference it has dropped. -/
theorem blob_reference_lost :
    ¬∀ (info : PropertyInfo) (ops : List Op), Throughout step Balanced (fresh info) ops := by
  intro every
  have last : Balanced (run step (fresh oneBlobProperty) missingBlob) :=
    throughout_iff_prefix.mp (every oneBlobProperty missingBlob) missingBlob [] rfl
  exact absurd (last { addr := 0, id := 7 }) (by decide)

end DisplayDrivers.Property
