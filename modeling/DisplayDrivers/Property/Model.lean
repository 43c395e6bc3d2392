import DisplayDrivers.Lib.ListHead
import DisplayDrivers.Lib.Run
import Mathlib.Data.Finset.Basic

/-! # The property cache (`msm/msm_prop.c`)

A `struct msm_property_info` describes the properties of a DRM object; each of the object's states
caches a value, and for blob properties a reference to a blob, for every property.

Pointers to states, infos and properties are not NULL, as in every caller.
-/

namespace DisplayDrivers.Property

open DisplayDrivers.Lib.ListHead

abbrev U64 := BitVec 64

def EINVAL : Int := 22
def EAGAIN : Int := 11

/-! ## Data -/

/-- `struct msm_property_data`. -/
structure PropertyData where
  defaultValue : U64 := 0
  forceDirty : Bool := false

/-- `struct drm_property`: which it is, and whether `DRM_MODE_PROP_BLOB` is among its flags. -/
structure DrmProperty where
  id : Nat
  blob : Bool

/-- `struct drm_property_blob`: which it is, and the id of its mode object. -/
structure DrmBlob where
  addr : Nat
  id : BitVec 32
deriving DecidableEq

/-- `struct msm_property_info`.  `propertyArray` holds the installed properties. -/
structure PropertyInfo where
  propertyCount : Nat
  propertyArray : List (Option Nat)
  propertyData : List PropertyData
  blobCount : Nat
  recentIdx : Nat := 0
  array_length : propertyArray.length = propertyCount
  data_length : propertyData.length = propertyCount

/-- The list nodes of a state: the head of its dirty list and the `dirty_node` of each value. -/
inductive DirtyNode
  | head
  | value (idx : Nat)
deriving DecidableEq

/-- `container_of(item, struct msm_property_value, dirty_node) - property_state->values`. -/
def DirtyNode.offset : DirtyNode → Int
  | .head => -1
  | .value idx => idx

/-- `struct msm_property_value`, without its list node. -/
structure PropertyValue where
  value : U64 := 0
  blob : Option DrmBlob := none

/-- `struct msm_property_state`. -/
structure PropertyState where
  values : List PropertyValue := []
  links : Links DirtyNode := { next := id, prev := id }

namespace PropertyState

def valueAt (st : PropertyState) (idx : Nat) : PropertyValue := st.values[idx]?.getD {}

def setValue (st : PropertyState) (idx : Nat) (v : PropertyValue) : PropertyState :=
  { st with values := st.values.set idx v }

@[simp] theorem setValue_values (st : PropertyState) (idx : Nat) (v : PropertyValue) :
    (st.setValue idx v).values = st.values.set idx v := rfl

end PropertyState

/-! ## The dirty list -/

def msmPropertyPopDirty (st : PropertyState) : PropertyState × Int :=
  if listEmpty st.links .head then (st, -EAGAIN)
  else
    let item := st.links.next .head
    ({ st with links := listDelInit st.links item }, item.offset)

def msmPropertySetDirtyNoLock (info : PropertyInfo) (st : PropertyState) (idx : Nat) :
    PropertyState :=
  if idx ≥ info.propertyCount then st
  else if !listEmpty st.links (.value idx) then st
  else { st with links := listAddTail st.links (.value idx) .head }

def msmPropertyIsDirty (info : PropertyInfo) (st : PropertyState) (idx : Nat) : Bool :=
  if idx ≥ info.propertyCount then false else !listEmpty st.links (.value idx)

/-! ## Looking a property up -/

/-- The loop of `msm_property_index`: `count` more steps down from `idx`, round the array. -/
def indexLoop (info : PropertyInfo) (property : DrmProperty) : Nat → Nat → Option Nat
  | 0, _ => none
  | count + 1, idx =>
    if info.propertyArray[idx]? = some (some property.id) then some idx
    else
      indexLoop info property count (if idx = 0 then info.propertyCount - 1 else idx - 1)

/-- `msm_property_index`; `none` is `-EINVAL`.  The search starts at the last match. -/
def msmPropertyIndex (info : PropertyInfo) (property : DrmProperty) : PropertyInfo × Option Nat :=
  match indexLoop info property info.propertyCount info.recentIdx with
  | some idx => ({ info with recentIdx := idx }, some idx)
  | none => (info, none)

/-! ## References -/

abbrev Refs := DrmBlob → Int

def Refs.add (refs : Refs) (blob : Option DrmBlob) (n : Int) : Refs :=
  match blob with
  | some b => Function.update refs b (refs b + n)
  | none => refs

/-- `drm_property_blob_get`, and what `drm_property_lookup_blob` does with what it returns. -/
def drmPropertyBlobGet (refs : Refs) (blob : Option DrmBlob) : Refs := refs.add blob 1

def drmPropertyBlobPut (refs : Refs) (blob : Option DrmBlob) : Refs := refs.add blob (-1)

/-! ## Setting a property -/

/-- "extra handling for incoming properties": the previous reference is dropped, the blob that
    `drm_property_lookup_blob` `found` for the id is stored.  A blob id that is not found leaves
    the slot as it is and counts as value 0. -/
def saveBlob (refs : Refs) (st : PropertyState) (idx : Nat) (val : U64) (found : Option DrmBlob) :
    Refs × PropertyState × U64 :=
  let refs := drmPropertyBlobPut refs (st.valueAt idx).blob
  let refs := drmPropertyBlobGet refs found
  -- the slot is not cleared here, although its reference has just been put
  if val ≠ 0 ∧ found = none then (refs, st, 0)
  else
    (refs, st.setValue idx { st.valueAt idx with blob := found },
      match found with
      | some blob => blob.id.setWidth 64
      | none => val)

def updateValue (info : PropertyInfo) (st : PropertyState) (idx : Nat) (val : U64) :
    PropertyState :=
  if (st.valueAt idx).value ≠ val ∨ (info.propertyData[idx]?.getD {}).forceDirty then
    msmPropertySetDirtyNoLock info (st.setValue idx { st.valueAt idx with value := val }) idx
  else st

/-- `msm_property_atomic_set`; `found` is the answer of `drm_property_lookup_blob`. -/
def msmPropertyAtomicSet (info : PropertyInfo) (refs : Refs) (st : PropertyState)
    (property : DrmProperty) (val : U64) (found : Option DrmBlob) :
    PropertyInfo × Refs × PropertyState × Int :=
  match msmPropertyIndex info property with
  | (info, none) => (info, refs, st, -EINVAL)
  | (info, some idx) =>
    if property.blob ∧ idx < info.blobCount then
      let (refs, st, val) := saveBlob refs st idx val found
      (info, refs, updateValue info st idx val, 0)
    else (info, refs, updateValue info st idx val, 0)

/-! ## Creating and releasing states -/

/-- `INIT_LIST_HEAD` of the dirty list and of the nodes of all values. -/
def initDirtyList (info : PropertyInfo) (links : Links DirtyNode) : Links DirtyNode :=
  ((List.range info.propertyCount).map DirtyNode.value).foldl initListHead
    (initListHead links .head)

/-- `msm_property_reset_state` on the memory of `st`. -/
def msmPropertyResetState (info : PropertyInfo) (st : PropertyState) : PropertyState where
  values := info.propertyData.map fun data => { value := data.defaultValue, blob := none }
  links := initDirtyList info st.links

/-- `msm_property_duplicate_state`: a copy of `old` with references of its own. -/
def msmPropertyDuplicateState (info : PropertyInfo) (refs : Refs) (old : PropertyState) :
    Refs × PropertyState :=
  (old.values.foldl (fun refs v => drmPropertyBlobGet refs v.blob) refs,
    { values := old.values, links := initDirtyList info old.links })

def msmPropertyDestroyState (refs : Refs) (st : PropertyState) : Refs × PropertyState :=
  (st.values.foldl (fun refs v => drmPropertyBlobPut refs v.blob) refs,
    { st with values := st.values.map fun v => { v with blob := none } })

/-! ## Runs -/

structure World where
  info : PropertyInfo
  live : Finset Nat := ∅
  mem : Nat → PropertyState := fun _ => {}
  refs : Refs := fun _ => 0

inductive Op
  | reset (addr : Nat)
  | duplicate (old addr : Nat)
  | atomicSet (addr : Nat) (property : DrmProperty) (val : U64) (found : Option DrmBlob)
  | setDirty (addr idx : Nat)
  | popDirty (addr : Nat)
  | destroy (addr : Nat)

def World.write (w : World) (addr : Nat) (st : PropertyState) : World :=
  { w with live := insert addr w.live, mem := Function.update w.mem addr st }

def step (w : World) : Op → World
  | .reset addr => w.write addr (msmPropertyResetState w.info (w.mem addr))
  | .duplicate old addr =>
    if old ∈ w.live then
      let made := msmPropertyDuplicateState w.info w.refs (w.mem old)
      { w with refs := made.1 }.write addr made.2
    else w
  | .atomicSet addr property val found =>
    if addr ∈ w.live then
      let done := msmPropertyAtomicSet w.info w.refs (w.mem addr) property val found
      { w with info := done.1, refs := done.2.1 }.write addr done.2.2.1
    else w
  | .setDirty addr idx =>
    if addr ∈ w.live then w.write addr (msmPropertySetDirtyNoLock w.info (w.mem addr) idx) else w
  | .popDirty addr =>
    if addr ∈ w.live then w.write addr (msmPropertyPopDirty (w.mem addr)).1 else w
  | .destroy addr =>
    if addr ∈ w.live then
      let done := msmPropertyDestroyState w.refs (w.mem addr)
      { w with live := w.live.erase addr, mem := Function.update w.mem addr done.2,
               refs := done.1 }
    else w

def fresh (info : PropertyInfo) : World := { info := info }

end DisplayDrivers.Property
