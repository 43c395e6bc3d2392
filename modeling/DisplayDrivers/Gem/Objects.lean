import DisplayDrivers.Lib.Run
import Mathlib.Data.List.Nodup
import Mathlib.Logic.Function.Basic

/-! # GEM objects and their mappings (`msm/msm_gem.c`, `msm/msm_gem_vma.c`, `msm/sde/sde_kms.c`)

An object has a `vma` for each address space that it is mapped in, and one node with which it is on
the active list of one address space.
-/

namespace DisplayDrivers.Gem

def eNoMem : Int := -12

def eFault : Int := -14

def eBusy : Int := -16

def eInval : Int := -22

/-- `msm_obj->madv` -/
inductive Madv
  | willneed
  | dontneed
  | purged
deriving DecidableEq

/-- `obj->import_attach`: `NULL`, the device that is attached, or the error of `dma_buf_attach`,
    which is not taken away. -/
inductive ImportAttach
  | null
  | dev (device : ℕ)
  | err
deriving DecidableEq

inductive Life
  | unborn
  | live
  | freed
deriving DecidableEq

/-- `struct msm_gem_object`; of each `vma` its address space. -/
structure GemObject where
  life : Life := .unborn
  importAttach : ImportAttach := .null
  dmaBuf : Bool := false
  extbuf : Bool := false
  madv : Madv := .willneed
  pages : Bool := false
  sgt : Bool := false
  vmas : List (Option ℕ) := []
  aspace : Option ℕ := none
  inActiveList : Bool := false

/-- `obj->import_attach` is there. -/
def GemObject.imported (obj : GemObject) : Bool := obj.importAttach ≠ .null

/-- What the calls answer that `msm_gem_get_iova` makes. -/
structure Answers where
  dmaBufAttach : Bool := true
  dmaBufMapAttachment : Int := 0
  kzalloc : Bool := true
  drmGemGetPages : Int := 0
  drmPrimePagesToSg : Int := 0
  mapDmaBuf : Int := 0

/-! ## One object -/

/-- `msm_gem_delayed_import`; a call that follows an error pointer ends with `eFault`. -/
def GemObject.delayedImport (obj : GemObject) (answers : Answers) : GemObject × Int :=
  match obj.importAttach with
  | .null => (obj, eInval)
  | .err => (obj, eFault)
  | .dev _ =>
    if answers.dmaBufMapAttachment ≠ 0 then (obj, answers.dmaBufMapAttachment)
    else ({ obj with sgt := true, pages := false }, 0)

/-- `msm_gem_get_iova` where it performs the import that was put off; `some` is what it returns
    there. -/
def GemObject.importDelayed (obj : GemObject) (reattach : Bool) (answers : Answers) :
    GemObject × Option Int :=
  if (obj.extbuf && !obj.sgt) || reattach then
    let (obj, ret) := obj.delayedImport answers
    (obj, if ret ≠ 0 then some ret else none)
  else (obj, none)

/-- `msm_gem_get_iova` where it attaches the device of the address space. -/
def GemObject.attachDevice (obj : GemObject) (device : Option ℕ) (answers : Answers) :
    GemObject × Option Int :=
  match device, obj.importAttach with
  | some _, .err => (obj, some eFault)
  | some new, .dev old =>
    if new = old then obj.importDelayed false answers
    -- the error is not in `ret`
    else if !answers.dmaBufAttach then ({ obj with importAttach := .err }, some 0)
    else { obj with importAttach := .dev new }.importDelayed true answers
  | _, _ => obj.importDelayed false answers

def GemObject.getPages (obj : GemObject) (answers : Answers) : GemObject × Int :=
  if obj.imported then (obj, 0)
  else if obj.pages then (obj, 0)
  else if answers.drmGemGetPages ≠ 0 then (obj, answers.drmGemGetPages)
  else if answers.drmPrimePagesToSg ≠ 0 then ({ obj with pages := true, sgt := false },
    answers.drmPrimePagesToSg)
  else ({ obj with pages := true, sgt := true }, 0)

/-- `msm_gem_map_vma` with `smmu_aspace_map_vma` -/
def mapVma (aspace : Option ℕ) (domainAttached : Bool) (answers : Answers) : Int :=
  if aspace = none ∨ domainAttached = false then eInval else answers.mapDmaBuf

/-- `msm_gem_get_iova` for an object that has no `vma` in the address space. -/
def GemObject.map (obj : GemObject) (aspace device : Option ℕ) (domainAttached : Bool)
    (answers : Answers) :
    GemObject × Option Int :=
  match obj.attachDevice device answers with
  | (obj, some ret) => (obj, some ret)
  | (obj, none) =>
    if !answers.kzalloc then (obj, some eNoMem)
    else
      -- where it fails from here on, `del_vma` takes away what `add_vma` has added
      let (obj, ret) := obj.getPages answers
      if ret ≠ 0 then (obj, some ret)
      else
        let ret := mapVma aspace domainAttached answers
        if ret ≠ 0 then (obj, some ret) else ({ obj with vmas := obj.vmas ++ [aspace] }, none)

/-- `put_iova`: the address space of the last `vma` is kept. -/
def GemObject.putIova (obj : GemObject) : GemObject :=
  { obj with vmas := [], aspace := obj.vmas.foldl (fun _ vma => vma) obj.aspace }

def GemObject.isPurgeable (obj : GemObject) : Bool :=
  obj.madv = .dontneed && obj.sgt && !obj.dmaBuf && !obj.imported

/-! ## Objects and address spaces -/

/-- The objects, and of each address space its device, its list and whether its domain is attached.
    `pending` is not part of the driver: the objects that were mapped in an address space when it
    was detached, until it is attached again. -/
structure GemState where
  objects : ℕ → GemObject := fun _ => {}
  device : ℕ → Option ℕ
  activeList : ℕ → List ℕ := fun _ => []
  domainAttached : ℕ → Bool := fun _ => false
  pending : ℕ → ℕ → Bool := fun _ _ => false

def GemState.Mapped (s : GemState) (id a : ℕ) : Prop := some a ∈ (s.objects id).vmas

instance (s : GemState) (id a : ℕ) : Decidable (s.Mapped id a) :=
  inferInstanceAs (Decidable (_ ∈ _))

def GemState.setObject (s : GemState) (id : ℕ) (obj : GemObject) : GemState :=
  { s with objects := Function.update s.objects id obj }

/-- `smmu_aspace_add_to_active`: the node leaves the list that it is on. -/
def GemState.addToActive (s : GemState) (a id : ℕ) : GemState :=
  { s.setObject id { s.objects id with inActiveList := true } with
    activeList := fun b => (s.activeList b).erase id ++ if b = a then [id] else [] }

/-- `smmu_aspace_remove_from_active`: the node is looked for on the list of the address space. -/
def GemState.removeFromActive (s : GemState) (a id : ℕ) : GemState :=
  if id ∈ s.activeList a then
    { s.setObject id { s.objects id with inActiveList := false } with
      activeList := Function.update s.activeList a ((s.activeList a).erase id) }
  else s

/-- The end of `msm_gem_get_iova`. -/
def GemState.activate (s : GemState) (id : ℕ) (aspace : Option ℕ) : GemState :=
  match aspace with
  | none => s
  | some a => if (s.objects id).inActiveList then s else s.addToActive a id

def GemState.getIova (s : GemState) (id : ℕ) (aspace : Option ℕ) (answers : Answers) :
    GemState × Int :=
  let obj := s.objects id
  if obj.madv ≠ .willneed then (s, eBusy)
  else if aspace ∈ obj.vmas then (s.activate id aspace, 0)
  else
    match obj.map aspace (aspace.bind s.device) (aspace.any s.domainAttached) answers with
    | (obj, some ret) => (s.setObject id obj, ret)
    | (obj, none) => ((s.setObject id obj).activate id aspace, 0)

/-- What `msm_gem_free_object` and `msm_gem_purge` do to the mappings. -/
def GemState.dropMappings (s : GemState) (id : ℕ) : GemState :=
  let s := s.setObject id (s.objects id).putIova
  match (s.objects id).aspace with
  | none => s
  | some a => s.removeFromActive a id

def GemState.freeObject (s : GemState) (id : ℕ) : GemState :=
  let s := s.dropMappings id
  { s.setObject id { s.objects id with life := .freed } with
    pending := fun a j => s.pending a j && j ≠ id }

def GemState.purge (s : GemState) (id : ℕ) : GemState :=
  let s := s.dropMappings id
  { s.setObject id { s.objects id with pages := false, madv := .purged } with
    pending := fun a j => s.pending a j && j ≠ id }

def GemState.mapActive (s : GemState) (a : ℕ) (answers : ℕ → Answers) : List ℕ → GemState
  | [] => s
  | id :: rest =>
    let (s, ret) := s.getIova id (some a) (answers id)
    if ret ≠ 0 then s else s.mapActive a answers rest

def GemState.unmapActive (s : GemState) : List ℕ → GemState
  | [] => s
  | id :: rest =>
    let obj := s.objects id
    (if obj.imported then s.setObject id obj.putIova else s).unmapActive rest

/-- `msm_gem_aspace_domain_attach_detach_update`, without the callbacks of the clients. -/
def GemState.aspaceDomainAttachDetachUpdate (s : GemState) (a : ℕ) (isDetach : Bool)
    (answers : ℕ → Answers) : GemState :=
  if isDetach then s.unmapActive (s.activeList a) else s.mapActive a answers (s.activeList a)

/-- The body of the loop in `sde_kms_mmu_detach`. -/
def GemState.detach (s : GemState) (a : ℕ) : GemState :=
  { s.aspaceDomainAttachDetachUpdate a true (fun _ => {}) with
    domainAttached := Function.update s.domainAttached a false
    pending := fun b id => s.pending b id || (b = a && s.Mapped id a) }

/-- The body of the loop in `sde_kms_mmu_attach`. -/
def GemState.attach (s : GemState) (a : ℕ) (answers : ℕ → Answers) : GemState :=
  let s : GemState := { s with domainAttached := Function.update s.domainAttached a true }
  let s := s.aspaceDomainAttachDetachUpdate a false answers
  { s with pending := fun b id => s.pending b id && !(b = a && s.Mapped id a) }

/-! ## Runs -/

inductive Input
  | gemNew (id : ℕ) (useVram : Bool)
  | primeImport (id device : ℕ) (cached : Bool)
  | primeExport (id : ℕ)
  | madvise (id : ℕ) (dontneed : Bool)
  | getIova (id : ℕ) (aspace : Option ℕ) (answers : Answers)
  | purge (id : ℕ)
  | free (id : ℕ)
  | detach (a : ℕ)
  | attach (a : ℕ) (answers : ℕ → Answers)

/-- `msm_gem_new`; an object in the reserved memory has a `vma` without an address space. -/
def newObject (useVram : Bool) : GemObject :=
  { life := .live, pages := useVram, sgt := useVram, vmas := if useVram then [none] else [] }

/-- `msm_gem_prime_import` with `msm_gem_import`; a cached buffer is mapped at once. -/
def importedObject (device : ℕ) (cached : Bool) : GemObject :=
  { life := .live, importAttach := .dev device, extbuf := true, sgt := cached }

def GemObject.madvise (obj : GemObject) (dontneed : Bool) : GemObject :=
  if obj.madv ≠ .purged then { obj with madv := if dontneed then .dontneed else .willneed } else obj

def step (s : GemState) : Input → GemState
  | .gemNew id useVram =>
    if (s.objects id).life = .unborn then s.setObject id (newObject useVram) else s
  | .primeImport id device cached =>
    if (s.objects id).life = .unborn then s.setObject id (importedObject device cached) else s
  | .primeExport id =>
    if (s.objects id).life = .live then s.setObject id { s.objects id with dmaBuf := true } else s
  | .madvise id dontneed =>
    if (s.objects id).life = .live then s.setObject id ((s.objects id).madvise dontneed) else s
  | .getIova id aspace answers =>
    if (s.objects id).life = .live then (s.getIova id aspace answers).1 else s
  | .purge id =>
    if (s.objects id).life = .live ∧ (s.objects id).isPurgeable = true then s.purge id else s
  | .free id => if (s.objects id).life = .live then s.freeObject id else s
  | .detach a => s.detach a
  | .attach a answers => s.attach a answers


end DisplayDrivers.Gem
