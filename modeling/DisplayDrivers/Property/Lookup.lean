import DisplayDrivers.Lib.Probe
import DisplayDrivers.Property.Blobs

/-! # Looking properties up

`msm_property_index` goes down the array of properties from the place of the last match, and once
round it. Here the search is a `Probe` of the array, and a history is any sequence of lookups, sets
and gets on the states that share an info.
-/

namespace DisplayDrivers.Property

open DisplayDrivers.Lib Probe

/-! ## The search -/

/-- The places `msm_property_index` looks at, `count` of them down from `idx`. -/
def indexPlaces (propertyCount : Nat) : Nat → Nat → List Nat
  | 0, _ => []
  | count + 1, idx =>
    idx :: indexPlaces propertyCount count (if idx = 0 then propertyCount - 1 else idx - 1)

/-- The loop of `msm_property_index` over the array. -/
def searchIndex (info : PropertyInfo) (property : DrmProperty) : Probe Nat (Option Nat) :=
  search (fun i => info.propertyArray[i]?) (· == some (some property.id))
    (indexPlaces info.propertyCount info.propertyCount info.recentIdx)

/-- `msm_property_index` with what it reads; the property may be `NULL`, which matches no slot. -/
def probeIndex (info : PropertyInfo) (property : Option DrmProperty) :
    Probe Nat (PropertyInfo × Option Nat) :=
  match property with
  | none => pure (info, none)
  | some property => do
    match ← searchIndex info property with
    | some idx => pure ({ info with recentIdx := idx }, some idx)
    | none => pure (info, none)

theorem length_indexPlaces (propertyCount count idx : Nat) :
    (indexPlaces propertyCount count idx).length = count := by
  induction count generalizing idx with
  | zero => rfl
  | succ count ih => simp [indexPlaces, ih]

theorem indexLoop_eq (info : PropertyInfo) (property : DrmProperty) (count idx : Nat) :
    indexLoop info property count idx =
      (search (fun i => info.propertyArray[i]?) (· == some (some property.id))
        (indexPlaces info.propertyCount count idx)).value := by
  induction count generalizing idx with
  | zero => rfl
  | succ count ih =>
    simp only [value_search] at ih ⊢
    by_cases here : info.propertyArray[idx]? = some (some property.id)
    · simp [indexLoop, indexPlaces, here]
    · simp [indexLoop, indexPlaces, here, ih]

theorem value_probeIndex (info : PropertyInfo) (property : DrmProperty) :
    (probeIndex info (some property)).value = msmPropertyIndex info property := by
  simp only [probeIndex, msmPropertyIndex, value_bind, searchIndex, indexLoop_eq]
  cases (search (fun i => info.propertyArray[i]?) (· == some (some property.id))
    (indexPlaces info.propertyCount info.propertyCount info.recentIdx)).value with
  | none => rfl
  | some idx => rfl

/-! ## Every slot once -/

variable {idx : Nat}

variable {propertyCount : Nat}

theorem indexPlaces_lt {count : Nat} (inRange : idx < propertyCount) :
    ∀ j ∈ indexPlaces propertyCount count idx, j < propertyCount := by
  induction count generalizing idx with
  | zero => simp [indexPlaces]
  | succ count ih =>
    have next : (if idx = 0 then propertyCount - 1 else idx - 1) < propertyCount := by
      split <;> omega
    simpa [indexPlaces, inRange] using ih next

theorem mem_indexPlaces_below {count j : Nat} (below : j ≤ idx)
    (near : idx < j + count) : j ∈ indexPlaces propertyCount count idx := by
  induction count generalizing idx with
  | zero => omega
  | succ count ih =>
    rcases Nat.eq_or_lt_of_le below with rfl | less
    · simp [indexPlaces]
    · have nonzero : idx ≠ 0 := by omega
      have further := @ih (idx - 1) (by omega) (by omega)
      simp [indexPlaces, nonzero, further]

theorem mem_indexPlaces_above {count j : Nat} (inside : j < propertyCount)
    (near : idx + propertyCount < j + count) : j ∈ indexPlaces propertyCount count idx := by
  induction idx generalizing count with
  | zero =>
    cases count with
    | zero => omega
    | succ count =>
      have last : j ∈ indexPlaces propertyCount count (propertyCount - 1) :=
        mem_indexPlaces_below (by omega) (by omega)
      simp [indexPlaces, last]
  | succ idx ih =>
    cases count with
    | zero => omega
    | succ count =>
      have further : j ∈ indexPlaces propertyCount count idx := ih (by omega)
      simp [indexPlaces, further]

theorem mem_indexPlaces {j : Nat} (start : idx < propertyCount)
    (inside : j < propertyCount) : j ∈ indexPlaces propertyCount propertyCount idx := by
  by_cases below : j ≤ idx
  · exact mem_indexPlaces_below below (by omega)
  · exact mem_indexPlaces_above inside (by omega)

def PropertyInfo.Ready (info : PropertyInfo) : Prop :=
  info.propertyCount = 0 ∨ info.recentIdx < info.propertyCount

structure Finds (info : PropertyInfo) (property : Option DrmProperty) : Prop where
  inside : (probeIndex info property).Within (· < info.propertyCount)
  short : (probeIndex info property).reads.length ≤ info.propertyCount
  found : ∀ idx ∈ (probeIndex info property).value.2,
    ∃ p, property = some p ∧ info.propertyArray[idx]? = some (some p.id)
  complete : (probeIndex info property).value.2 = none →
    ∀ p, property = some p → some p.id ∉ info.propertyArray
  ready : (probeIndex info property).value.1.Ready

theorem reads_probeIndex (info : PropertyInfo) (property : DrmProperty) :
    (probeIndex info (some property)).reads = (searchIndex info property).reads := by
  simp only [probeIndex, reads_bind]
  cases (searchIndex info property).value with
  | none => simp
  | some idx => simp

variable {property : DrmProperty}

theorem searchIndex_complete {info : PropertyInfo} (ready : info.Ready)
    (missed : (searchIndex info property).value = none) :
    some property.id ∉ info.propertyArray := by
  intro installed
  -- the walk comes to every place, wherever it starts
  obtain ⟨j, at_j⟩ := List.mem_iff_getElem?.mp installed
  have inside : j < info.propertyCount := by
    rw [← info.array_length]
    exact (List.getElem?_eq_some_iff.mp at_j).1
  have start : info.recentIdx < info.propertyCount := ready.resolve_left (by omega)
  rw [searchIndex, value_search, List.find?_eq_none] at missed
  exact missed j (mem_indexPlaces start inside) (by simp [at_j])

theorem finds_of_ready {info : PropertyInfo} (ready : info.Ready) (property : Option DrmProperty) :
    Finds info property := by
  cases property with
  | none =>
    exact { inside := by simp [probeIndex]
            short := by simp [probeIndex]
            found := by simp [probeIndex]
            complete := by simp
            ready := ready }
  | some property =>
    have visits := reads_search_leading (fun i => info.propertyArray[i]?)
      (· == some (some property.id))
        (indexPlaces info.propertyCount info.propertyCount info.recentIdx)
    refine { inside := ?_, short := ?_, found := ?_, complete := ?_, ready := ?_ }
    · intro i member
      rw [reads_probeIndex] at member
      rcases ready with empty | start
      · -- without properties the walk has no place
        have nowhere := visits.subset member
        simp [empty, indexPlaces] at nowhere
      · exact indexPlaces_lt start i (visits.subset member)
    · rw [reads_probeIndex, searchIndex]
      simpa [length_indexPlaces] using visits.length_le
    · intro idx hit
      simp only [probeIndex, value_bind] at hit
      cases looked : (searchIndex info property).value with
      | none => simp [looked] at hit
      | some idx' =>
        simp only [looked, value_pure, Option.mem_def, Option.some.injEq] at hit
        subst hit
        rw [searchIndex, value_search] at looked
        have matching := List.find?_some looked
        exact ⟨property, rfl, by simpa using matching⟩
    · intro missed p same
      cases same
      simp only [probeIndex, value_bind] at missed
      cases looked : (searchIndex info property).value with
      | none => exact searchIndex_complete ready looked
      | some idx => simp [looked] at missed
    · simp only [probeIndex, value_bind]
      cases looked : (searchIndex info property).value with
      | none => exact ready
      | some idx =>
        apply Or.inr
        show idx < info.propertyCount
        rcases ready with empty | start
        · simp [searchIndex, value_search, empty, indexPlaces] at looked
        · rw [searchIndex, value_search] at looked
          exact indexPlaces_lt start idx (List.mem_of_find?_eq_some looked)

/-! ## The array -/

/-- How `msm_property_install_range`, `_enum` and `_blob` fill a slot in: a property is created
    once, `created` is the object, if there is memory for one. -/
def installProperty (array : List (Option Nat)) (idx : Nat) (created : Option Nat) :
    List (Option Nat) :=
  if array[idx]? = some none then array.set idx created else array

inductive Installed : List (Option Nat) → Prop
  | zeroed (count : Nat) : Installed (List.replicate count none)
  | install {array : List (Option Nat)} (idx : Nat) (created : Option Nat)
      (before : Installed array) (new : ∀ id ∈ created, some id ∉ array) :
      Installed (installProperty array idx created)

variable {array : List (Option Nat)}

theorem Installed.unique (installed : Installed array) {i j id : Nat}
    (at_i : array[i]? = some (some id)) (at_j : array[j]? = some (some id)) : i = j := by
  induction installed with
  | zeroed count => simp [List.getElem?_replicate] at at_i
  | @install array idx created before new ih =>
    rw [installProperty] at at_i at_j
    split at at_i
    next empty =>
      rw [if_pos empty] at at_j
      -- a slot other than the new one held the property before, so it is not the created one
      have elsewhere {k : Nat} (other : k ≠ idx)
        (at_k : (array.set idx created)[k]? = some (some id)) :
          array[k]? = some (some id) := by
        rwa [List.getElem?_set_ne (Ne.symm other)] at at_k
      have here (at_idx : (array.set idx created)[idx]? = some (some id)) : created = some id := by
        have inside := (List.getElem?_eq_some_iff.mp empty).1
        simpa [List.getElem?_set, inside] using at_idx
      by_cases i_new : i = idx
      · by_cases j_new : j = idx
        · rw [i_new, j_new]
        · subst i_new
          exact absurd (List.mem_of_getElem? (elsewhere j_new at_j)) (new id (here at_i))
      · by_cases j_new : j = idx
        · subst j_new
          exact absurd (List.mem_of_getElem? (elsewhere i_new at_i)) (new id (here at_j))
        · exact ih (elsewhere i_new at_i) (elsewhere j_new at_j)
    next full =>
      rw [if_neg full] at at_j
      exact ih at_i at_j

/-! ## Gets and sets -/

/-- `msm_property_atomic_get`; none is `-EINVAL`. -/
def msmPropertyAtomicGet (info : PropertyInfo) (st : PropertyState) (property : DrmProperty) :
    PropertyInfo × Option U64 :=
  match msmPropertyIndex info property with
  | (info, none) => (info, none)
  | (info, some idx) => (info, some (st.valueAt idx).value)

def PropertyInfo.setDefault (info : PropertyInfo) (idx : Nat) (val : U64) : PropertyInfo :=
  { info with
    propertyData := info.propertyData.modify idx fun data => { data with defaultValue := val }
    data_length := by simp [info.data_length] }

/-- `msm_property_set_property`; the flags of a property that is not installed are read through
    `NULL`: there is no state after that. -/
def msmPropertySetProperty (immutable : Nat → Bool) (info : PropertyInfo) (st : PropertyState)
    (idx : Nat) (val : U64) (answer : Int) : Option (PropertyInfo × PropertyState × Int) :=
  if info.propertyCount ≤ idx ∨ idx < info.blobCount then some (info, st, -EINVAL)
  else
    match info.propertyArray[idx]? with
    | some (some id) =>
      let st := st.setValue idx { st.valueAt idx with value := val }
      some (if immutable id then info.setDefault idx val else info, st, answer)
    | _ => none

/-! ## Histories -/

structure Store where
  info : PropertyInfo
  mem : Nat → PropertyState
  refs : Refs

inductive Access
  | index (property : DrmProperty)
  | atomicSet (addr : Nat) (property : DrmProperty) (val : U64) (found : Option DrmBlob)
  | atomicGet (addr : Nat) (property : DrmProperty)
  | setProperty (addr idx : Nat) (val : U64) (answer : Int)

/-- What `msm_property_init` and `msm_property_reset_state` leave, on memory that held `garbage`. -/
def Store.start (info : PropertyInfo) (garbage : Nat → PropertyState) : Store where
  info := { info with recentIdx := 0 }
  mem addr := msmPropertyResetState info (garbage addr)
  refs _ := 0

variable (immutable : Nat → Bool)

def Store.access (s : Store) : Access → Option Store
  | .index property => some { s with info := (msmPropertyIndex s.info property).1 }
  | .atomicGet addr property =>
    some { s with info := (msmPropertyAtomicGet s.info (s.mem addr) property).1 }
  | .atomicSet addr property val found =>
    let done := msmPropertyAtomicSet s.info s.refs (s.mem addr) property val found
    some { info := done.1, refs := done.2.1, mem := Function.update s.mem addr done.2.2.1 }
  | .setProperty addr idx val answer => do
    let done ← msmPropertySetProperty immutable s.info (s.mem addr) idx val answer
    return { s with info := done.1, mem := Function.update s.mem addr done.2.1 }

/-- A history, where none of its calls reads through `NULL`. -/
def Store.history (s : Store) (accesses : List Access) : Option Store :=
  accesses.foldlM (Store.access immutable) s

/-- What `msm_property_atomic_set` stores for a value: for a blob property the id of the blob that
    was found, and 0 where none was. -/
def storedValue (blobSlot : Bool) (val : U64) (found : Option DrmBlob) : U64 :=
  if blobSlot then
    match found with
    | some blob => blob.id.setWidth 64
    | none => 0
  else val

/-- What a call stores for a property of the state at `addr`, if it stores anything. -/
def Access.stores (info : PropertyInfo) (addr : Nat) (property : DrmProperty) : Access → Option U64
  | .atomicSet a p val found =>
    if a = addr ∧ p.id = property.id then
      let slot := info.propertyArray.idxOf (some p.id)
      some (storedValue (p.blob && slot < info.blobCount) val found)
    else none
  | .setProperty a idx val _ =>
    if a = addr ∧ info.blobCount ≤ idx ∧ info.propertyArray[idx]? = some (some property.id) then
      some val
    else none
  | _ => none

def lastStored (info : PropertyInfo) (addr : Nat) (property : DrmProperty) (initial : U64)
    (accesses : List Access) : U64 :=
  accesses.foldl (fun value a => (a.stores info addr property).getD value) initial

/-! ## One call -/

variable {st : PropertyState}

theorem valueAt_setValue (inside : idx < st.values.length) (v : PropertyValue) (j : Nat) :
    (st.setValue idx v).valueAt j = if j = idx then v else st.valueAt j := by
  by_cases same : j = idx
  · subst same
    simp [PropertyState.valueAt, inside]
  · simp [PropertyState.valueAt, same, List.getElem?_set_ne (Ne.symm same)]

theorem updateValue_valueAt (info : PropertyInfo)
    (inside : idx < st.values.length) (val : U64) (j : Nat) :
    ((updateValue info st idx val).valueAt j).value =
      if j = idx then val else (st.valueAt j).value := by
  rw [updateValue]
  split
  next =>
    have kept : (msmPropertySetDirtyNoLock info
        (st.setValue idx { st.valueAt idx with value := val }) idx).values = _ :=
      setDirtyNoLock_values info _ idx
    rw [PropertyState.valueAt, kept, ← PropertyState.valueAt, valueAt_setValue inside]
    split <;> rfl
  next still =>
    split
    next same =>
      subst same
      simpa using (not_or.mp still).1
    next => rfl

theorem saveBlob_stored (refs : Refs) (st : PropertyState) (idx : Nat) (val : U64)
    (found : Option DrmBlob) :
    (saveBlob refs st idx val found).2.2 = storedValue true val found := by
  unfold saveBlob
  dsimp only
  split
  next missed => rw [missed.2]; rfl
  next hit =>
    cases found with
    | some blob => rfl
    | none => simpa [storedValue] using hit

theorem saveBlob_valueAt (refs : Refs)
    (inside : idx < st.values.length) (val : U64) (found : Option DrmBlob) (j : Nat) :
    ((saveBlob refs st idx val found).2.1.valueAt j).value = (st.valueAt j).value := by
  unfold saveBlob
  dsimp only
  split
  · rfl
  · rw [valueAt_setValue inside]
    split
    next same => rw [same]
    next => rfl

theorem atomicSet_valueAt {info : PropertyInfo} (refs : Refs)
    (at_idx : (msmPropertyIndex info property).2 = some idx)
    (inside : idx < st.values.length) (val : U64) (found : Option DrmBlob) (j : Nat) :
    ((msmPropertyAtomicSet info refs st property val found).2.2.1.valueAt j).value =
      if j = idx then storedValue (property.blob && idx < info.blobCount) val found
      else (st.valueAt j).value := by
  rcases (msmPropertyAtomicSet_cases info refs st property val found).2 with
    ⟨missed, -⟩ | ⟨idx', here, outcome⟩
  · simp [missed] at at_idx
  · obtain rfl : idx' = idx := Option.some.inj (here.symm.trans at_idx)
    rw [outcome]
    by_cases slot : property.blob ∧ idx' < info.blobCount
    · have inside' : idx' < (saveBlob refs st idx' val found).2.1.values.length := by
        rw [saveBlob_length]
        exact inside
      have kept := saveBlob_valueAt refs inside val found j
      simp [slot, updateValue_valueAt info inside', saveBlob_stored, kept]
    · have plain : (property.blob && decide (idx' < info.blobCount)) = false := by
        simpa using slot
      simp only [slot, plain, if_false]
      exact updateValue_valueAt info inside val j

theorem atomicSet_missed {info : PropertyInfo} {refs : Refs}
    (missed : (msmPropertyIndex info property).2 = none) (val : U64)
    (found : Option DrmBlob) :
    (msmPropertyAtomicSet info refs st property val found).2.2.1 = st := by
  rcases (msmPropertyAtomicSet_cases info refs st property val found).2 with
    ⟨-, outcome⟩ | ⟨idx, here, -⟩
  · rw [outcome]
  · simp [missed] at here

/-! ## What a history keeps -/

structure Store.Of (info : PropertyInfo) (s : Store) : Prop where
  array : s.info.propertyArray = info.propertyArray
  count : s.info.propertyCount = info.propertyCount
  blobCount : s.info.blobCount = info.blobCount
  ready : s.info.Ready
  sized : ∀ addr, (s.mem addr).values.length = info.propertyCount

theorem Store.of_start (info : PropertyInfo) (garbage : Nat → PropertyState) :
    (Store.start info garbage).Of info where
  array := rfl
  count := rfl
  blobCount := rfl
  ready := Nat.eq_zero_or_pos info.propertyCount
  sized addr := by simp [Store.start, msmPropertyResetState, info.data_length]

theorem Store.Of.index {info : PropertyInfo} {s : Store} (of : s.Of info) (property : DrmProperty) :
    Store.Of info { s with info := (msmPropertyIndex s.info property).1 } := by
  obtain ⟨recentIdx, same⟩ := msmPropertyIndex_info s.info property
  have ready := (finds_of_ready of.ready (some property)).ready
  rw [value_probeIndex] at ready
  exact { array := by rw [same]; exact of.array
          count := by rw [same]; exact of.count
          blobCount := by rw [same]; exact of.blobCount
          ready := ready
          sized := of.sized }

theorem Store.Of.finds {info : PropertyInfo} (installed : Installed info.propertyArray) {s : Store}
    (of : s.Of info)
    (at_idx : info.propertyArray[idx]? = some (some property.id)) :
    (msmPropertyIndex s.info property).2 = some idx := by
  have finds := finds_of_ready of.ready (some property)
  rw [← of.array] at at_idx installed
  cases looked : (msmPropertyIndex s.info property).2 with
  | none =>
    have missed := finds.complete (by rw [value_probeIndex]; exact looked) property rfl
    exact absurd (List.mem_of_getElem? at_idx) missed
  | some j =>
    obtain ⟨p, same, at_j⟩ := finds.found j (by rw [value_probeIndex]; exact looked)
    cases same
    rw [installed.unique at_j at_idx]

theorem atomicSet_info (info : PropertyInfo) (refs : Refs) (st : PropertyState)
    (property : DrmProperty) (val : U64) (found : Option DrmBlob) :
    (msmPropertyAtomicSet info refs st property val found).1 =
      (msmPropertyIndex info property).1 := by
  unfold msmPropertyAtomicSet
  rcases msmPropertyIndex info property with ⟨info', none | idx⟩
  · rfl
  · dsimp only
    split <;> rfl

theorem atomicGet_info (info : PropertyInfo) (st : PropertyState) (property : DrmProperty) :
    (msmPropertyAtomicGet info st property).1 = (msmPropertyIndex info property).1 := by
  unfold msmPropertyAtomicGet
  rcases msmPropertyIndex info property with ⟨info', none | idx⟩ <;> rfl

theorem Installed.idxOf_eq (installed : Installed array) {id : Nat}
    (at_idx : array[idx]? = some (some id)) : array.idxOf (some id) = idx := by
  have member := List.mem_of_getElem? at_idx
  have at_first : array[array.idxOf (some id)]? = some (some id) := by
    rw [List.getElem?_eq_getElem (List.idxOf_lt_length_iff.mpr member), List.getElem_idxOf]
  exact installed.unique at_first at_idx

section OneCall

variable {info : PropertyInfo} {s : Store}

theorem Store.Of.lt_length (of : s.Of info) {addr id : Nat}
    (at_idx : info.propertyArray[idx]? = some (some id)) :
    idx < (s.mem addr).values.length := by
  rw [of.sized, ← info.array_length]
  exact (List.getElem?_eq_some_iff.mp at_idx).1

theorem Store.Of.atomicSet (of : s.Of info) (addr : Nat) (property : DrmProperty) (val : U64)
    (found : Option DrmBlob) (refs : Refs) :
    Store.Of info
      { info := (msmPropertyAtomicSet s.info s.refs (s.mem addr) property val found).1
        mem := Function.update s.mem addr
          (msmPropertyAtomicSet s.info s.refs (s.mem addr) property val found).2.2.1
        refs := refs } := by
  have looked := of.index property
  rw [atomicSet_info]
  refine { looked with sized := fun a => ?_ }
  by_cases here : a = addr
  · subst here
    simpa [atomicSet_length] using of.sized a
  · simpa [here] using of.sized a

theorem Store.Of.atomicSet_value (of : s.Of info) (installed : Installed info.propertyArray)
    (addr : Nat) (p : DrmProperty) (val : U64) (found : Option DrmBlob)
    (at_idx : info.propertyArray[idx]? = some (some property.id)) :
    ((msmPropertyAtomicSet s.info s.refs (s.mem addr) p val found).2.2.1.valueAt idx).value =
      ((Access.atomicSet addr p val found).stores info addr property).getD
        ((s.mem addr).valueAt idx).value := by
  by_cases same : p.id = property.id
  · have slot := installed.idxOf_eq at_idx
    rw [← same] at at_idx
    have looked := of.finds installed at_idx
    rw [atomicSet_valueAt s.refs looked (of.lt_length at_idx) val found idx, of.blobCount]
    simp only [Access.stores, slot, same, and_self, if_true, Option.getD_some]
  · cases looked : (msmPropertyIndex s.info p).2 with
    | none => simp [atomicSet_missed looked, Access.stores, same]
    | some j =>
      -- another property is at another slot
      have finds := finds_of_ready of.ready (some p)
      obtain ⟨q, is_p, at_j⟩ := finds.found j (by rw [value_probeIndex]; exact looked)
      cases is_p
      rw [of.array] at at_j
      have apart : idx ≠ j := by
        rintro rfl
        rw [at_idx] at at_j
        exact same (by simpa using at_j.symm)
      rw [atomicSet_valueAt s.refs looked (of.lt_length at_j) val found idx]
      simp [Access.stores, same, apart]

variable {immutable}

variable {info' : PropertyInfo}

theorem setProperty_cases {st' : PropertyState} {val : U64} {answer rc : Int}
    (done : msmPropertySetProperty immutable info st idx val answer = some (info', st', rc)) :
    ((info.propertyCount ≤ idx ∨ idx < info.blobCount) ∧ info' = info ∧ st' = st) ∨
      ∃ id, info.blobCount ≤ idx ∧ info.propertyArray[idx]? = some (some id) ∧
        (info' = info ∨ info' = info.setDefault idx val) ∧
        st' = st.setValue idx { st.valueAt idx with value := val } := by
  unfold msmPropertySetProperty at done
  split at done
  next refused =>
    cases done
    exact .inl ⟨refused, rfl, rfl⟩
  next inRange =>
    split at done
    next id at_idx =>
      have which : info' = info ∨ info' = info.setDefault idx val := by
        cases flag : immutable id with
        | true => simp_all
        | false => simp_all
      cases done
      exact .inr ⟨id, by omega, at_idx, which, rfl⟩
    next => cases done

theorem Store.Of.setProperty (of : s.Of info) {val : U64}
    (which : info' = s.info ∨ info' = s.info.setDefault idx val) (addr slot : Nat)
    (v : PropertyValue) :
    Store.Of info
      { s with
        info := info'
        mem := Function.update s.mem addr ((s.mem addr).setValue slot v) } := by
  have sized (a : Nat) :
      (Function.update s.mem addr ((s.mem addr).setValue slot v) a).values.length =
        info.propertyCount := by
    by_cases here : a = addr
    · subst here
      simpa using of.sized a
    · simpa [here] using of.sized a
  rcases which with rfl | rfl
  · exact { of with sized := sized }
  · exact { array := of.array, count := of.count, blobCount := of.blobCount, ready := of.ready,
            sized := sized }

theorem stores_setProperty_refused (refused : info.propertyCount ≤ idx ∨ idx < info.blobCount)
    (addr addr' : Nat) (val : U64) (answer : Int) (property : DrmProperty) :
    (Access.setProperty addr idx val answer).stores info addr' property = none := by
  rw [Access.stores, if_neg]
  rintro ⟨-, above, at_idx⟩
  have inside := (List.getElem?_eq_some_iff.mp at_idx).1
  rw [info.array_length] at inside
  omega

theorem Store.Of.setProperty_value (of : s.Of info) (installed : Installed info.propertyArray)
    {addr id : Nat} (above : info.blobCount ≤ idx)
    (at_slot : info.propertyArray[idx]? = some (some id)) (val : U64) (answer : Int)
    {j : Nat} (at_j : info.propertyArray[j]? = some (some property.id)) :
    (((s.mem addr).setValue idx { (s.mem addr).valueAt idx with value := val }).valueAt j).value =
      ((Access.setProperty addr idx val answer).stores info addr property).getD
        ((s.mem addr).valueAt j).value := by
  rw [valueAt_setValue (of.lt_length at_slot)]
  by_cases same : j = idx
  · subst same
    simp [Access.stores, above, at_j]
  · -- the property of slot `j` is not the one that was set
    have apart : info.propertyArray[idx]? ≠ some (some property.id) :=
      fun at_idx => same (installed.unique at_j at_idx)
    simp [Access.stores, same, apart]

end OneCall

theorem Store.Of.access {info : PropertyInfo} {s s' : Store} (of : s.Of info) {a : Access}
    (done : s.access immutable a = some s') :
    s'.Of info ∧ (Installed info.propertyArray → ∀ addr property idx,
      info.propertyArray[idx]? = some (some property.id) →
        ((s'.mem addr).valueAt idx).value =
          (a.stores info addr property).getD ((s.mem addr).valueAt idx).value) := by
  -- lookups and reads store nothing; the two writes store at one address
  cases a with
  | index p =>
    cases done
    exact ⟨of.index p, fun _ addr property idx at_idx => rfl⟩
  | atomicGet addr p =>
    cases done
    rw [atomicGet_info]
    exact ⟨of.index p, fun _ addr property idx at_idx => rfl⟩
  | atomicSet addr p val found =>
    cases done
    refine ⟨of.atomicSet addr p val found _, fun installed addr' property idx at_idx => ?_⟩
    by_cases here : addr' = addr
    · subst here
      simpa using of.atomicSet_value installed addr' p val found at_idx
    · simp [here, Access.stores, Ne.symm here]
  | setProperty addr idx val answer =>
    obtain ⟨⟨info', st', rc⟩, set, stored⟩ := Option.bind_eq_some_iff.mp done
    cases stored
    rcases setProperty_cases set with ⟨refused, rfl, rfl⟩ | ⟨id, above, at_slot, which, rfl⟩
    · rw [Function.update_eq_self]
      refine ⟨{ of with }, fun _ addr' property j at_j => ?_⟩
      rw [of.count, of.blobCount] at refused
      rw [stores_setProperty_refused refused]
      rfl
    · rw [of.array] at at_slot
      rw [of.blobCount] at above
      refine ⟨of.setProperty which addr idx _, fun installed addr' property j at_j => ?_⟩
      by_cases here : addr' = addr
      · subst here
        simpa using of.setProperty_value installed above at_slot val answer at_j
      · simp [here, Access.stores, Ne.symm here]

/-! ## Whole histories -/

theorem Store.Of.history {info : PropertyInfo} {accesses : List Access} {s s' : Store}
    (of : s.Of info) (done : s.history immutable accesses = some s') :
    s'.Of info ∧ (Installed info.propertyArray → ∀ addr property idx,
      info.propertyArray[idx]? = some (some property.id) →
        ((s'.mem addr).valueAt idx).value =
          lastStored info addr property ((s.mem addr).valueAt idx).value accesses) := by
  induction accesses generalizing s with
  | nil =>
    cases done
    exact ⟨of, fun _ addr property idx at_idx => rfl⟩
  | cons a rest ih =>
    obtain ⟨mid, first, later⟩ := Option.bind_eq_some_iff.mp done
    obtain ⟨ofMid, stored⟩ := of.access immutable first
    obtain ⟨ofEnd, last⟩ := ih ofMid later
    refine ⟨ofEnd, fun installed addr property idx at_idx => ?_⟩
    rw [last installed addr property idx at_idx, stored installed addr property idx at_idx]
    rfl

/-- `info->property_data[idx].default_value` -/
def PropertyInfo.defaultAt (info : PropertyInfo) (idx : Nat) : U64 :=
  (info.propertyData[idx]?.getD ({} : PropertyData)).defaultValue

/-- After every history a search of the array is exact, and in an array that was filled in by the
    install functions a get returns what was stored last, or the default. -/
theorem gets_return_last_stored (info : PropertyInfo) (garbage : Nat → PropertyState)
    {accesses : List Access} {s : Store}
    (done : (Store.start info garbage).history immutable accesses = some s) :
    (∀ property, Finds s.info property) ∧ (Installed info.propertyArray →
      ∀ addr property idx, info.propertyArray[idx]? = some (some property.id) →
        (msmPropertyAtomicGet s.info (s.mem addr) property).2 =
          some (lastStored info addr property (info.defaultAt idx) accesses)) := by
  obtain ⟨of, last⟩ := (Store.of_start info garbage).history immutable done
  refine ⟨fun property => finds_of_ready of.ready property,
    fun installed addr property idx at_idx => ?_⟩
  have looked := of.finds installed at_idx
  have initial : ((Store.start info garbage).mem addr).valueAt idx =
      { value := info.defaultAt idx, blob := none } := by
    have inside : idx < info.propertyData.length := by
      rw [info.data_length, ← info.array_length]
      exact (List.getElem?_eq_some_iff.mp at_idx).1
    simp [Store.start, msmPropertyResetState, PropertyState.valueAt, PropertyInfo.defaultAt, inside]
  have value := last installed addr property idx at_idx
  rw [initial] at value
  rw [← value]
  unfold msmPropertyAtomicGet
  rcases found : msmPropertyIndex s.info property with ⟨info', none | j⟩
  · simp [found] at looked
  · have same : j = idx := by simpa [found] using looked
    rw [same]

def plainProperties : PropertyInfo where
  propertyCount := 2
  propertyArray := [some 7, some 9]
  propertyData := [{}, {}]
  blobCount := 0
  array_length := rfl
  data_length := rfl

theorem installed_plainProperties : Installed plainProperties.propertyArray := by
  have first := Installed.install 0 (some 7) (.zeroed 2) (by simp)
  exact Installed.install 1 (some 9) first (by simp [installProperty])

def twoSets : List Access :=
  [.atomicSet 0 ⟨9, false⟩ 5 none, .setProperty 0 0 8 0, .index ⟨7, false⟩]

/-- The search for the second property goes round the array and gets what was stored. -/
theorem gets_return_last_stored_twoSets :
    ((Store.start plainProperties fun _ => {}).history (fun _ => false) twoSets).map
      (fun s => (msmPropertyAtomicGet s.info (s.mem 0) ⟨9, false⟩).2) = some (some 5) := by
  obtain ⟨s, done⟩ : ∃ s, (Store.start plainProperties fun _ => {}).history
    (fun _ => false) twoSets =
      some s := ⟨_, rfl⟩
  rw [done]
  exact congrArg some
    ((gets_return_last_stored _ _ _ done).2 installed_plainProperties 0 ⟨9, false⟩ 1 rfl)

end DisplayDrivers.Property
