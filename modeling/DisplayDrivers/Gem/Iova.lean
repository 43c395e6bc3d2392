import DisplayDrivers.Gem.Objects
import Mathlib.Algebra.BigOperators.Fin
import Mathlib.Tactic.Ring

/-! # Addresses of GEM objects (`msm_gem_get_iova`, `msm/msm_gem_vma.c`)

`msm_gem_get_iova` attaches the device of the address space, performs an import that was put off,
allocates pages and maps them.

Here an object has the addresses of its mappings and the scatter table with the attachment that it
was made from: a table that belongs to an attachment that has been detached since is not valid any
more.
-/

namespace DisplayDrivers.Gem.Iova

open DisplayDrivers.Lib.Run

/-! ## The code -/

/-- `obj->import_attach`: an attachment has a number of its own. -/
inductive Attachment where
  | null
  | dev (device serial : ℕ)
  | err
deriving DecidableEq

structure SgTable where
  serial : Option ℕ

/-- `struct msm_gem_vma` -/
structure Vma where
  aspace : Option ℕ
  iova : ℕ

/-- `struct msm_gem_object` -/
structure MsmObject where
  importAttach : Attachment
  attachments : ℕ
  extbuf : Bool
  madv : Madv
  pages : Bool
  sgt : Option SgTable
  vmas : List Vma

inductive Kind where
  | smmu
  | iommu (mmu : Bool)

/-- `struct msm_gem_address_space` -/
structure AddressSpace where
  kind : Kind
  device : Option ℕ
  domainAttached : Bool
  kref : ℕ

structure Answers where
  dmaBufAttach : Bool
  dmaBufMapAttachment : ℤ
  kzalloc : Bool
  drmGemGetPages : ℤ
  drmPrimePagesToSg : ℤ
  mapDmaBuf : ℤ
  sgDmaAddress : ℕ
  drmMmInsertNode : ℤ
  nodeStart : ℕ
  mmuMap : ℤ

/-- Where the first part of `msm_gem_get_iova` ends: at an error pointer, in front of `unlock`, or
    with an object that can be mapped. -/
inductive Prepared where
  | crash
  | unlock (obj : MsmObject) (ret : ℤ)
  | ready (obj : MsmObject)

/-- `msm_gem_delayed_import`, where it is called for. -/
def importDelayed (obj : MsmObject) (reattach : Bool) (answers : Answers) : Prepared :=
  if (obj.extbuf && obj.sgt.isNone) || reattach then
    match obj.importAttach with
    | .null => .unlock obj eInval
    | .err => .crash
    | .dev _ serial =>
      if answers.dmaBufMapAttachment ≠ 0 then .unlock obj answers.dmaBufMapAttachment
      else .ready { obj with sgt := some ⟨some serial⟩, pages := false }
  else .ready obj

def prepare (obj : MsmObject) (device : Option ℕ) (answers : Answers) : Prepared :=
  match device, obj.importAttach with
  | some _, .err => .crash
  | some new, .dev old _ =>
    if new = old then importDelayed obj false answers
    -- the error is not in `ret`
    else if answers.dmaBufAttach = false then .unlock { obj with importAttach := .err } 0
    else importDelayed
      { obj with importAttach := .dev new obj.attachments, attachments := obj.attachments + 1 } true
        answers
  | _, _ => importDelayed obj false answers

def getPages (obj : MsmObject) (answers : Answers) : MsmObject × ℤ :=
  if obj.importAttach ≠ .null then (obj, 0)
  else if obj.pages then (obj, 0)
  else if answers.drmGemGetPages ≠ 0 then (obj, answers.drmGemGetPages)
  else if answers.drmPrimePagesToSg ≠ 0 then ({ obj with pages := true, sgt := none },
    answers.drmPrimePagesToSg)
  else ({ obj with pages := true, sgt := some ⟨none⟩ }, 0)

/-- What `msm_gem_map_vma` returns, the address it has set, and whether it took a reference. -/
structure Mapping where
  ret : ℤ
  iova : ℕ
  kref : Bool

/-- `smmu_aspace_map_vma` with `msm_smmu_map_dma_buf`, which does not map without a table. -/
def smmuMapVma (space : AddressSpace) (sgt : Option SgTable) (answers : Answers) : Mapping :=
  if !space.domainAttached then ⟨eInval, 0, false⟩
  else
    let ret := if sgt.isNone then eNoMem else answers.mapDmaBuf
    if ret = 0 then ⟨0, answers.sgDmaAddress, true⟩ else ⟨ret, 0, true⟩

/-- `iommu_aspace_map_vma` with `msm_iommu_map`, which reads the table; `none` is the read of a null
    pointer. -/
def iommuMapVma (mmu : Bool) (sgt : Option SgTable) (answers : Answers) : Option Mapping :=
  if answers.drmMmInsertNode ≠ 0 then some ⟨answers.drmMmInsertNode, 0, false⟩
  else if !mmu then some ⟨0, answers.nodeStart * 4096, true⟩
  else if sgt.isNone then none
  else some ⟨answers.mmuMap, answers.nodeStart * 4096, true⟩

def mapVma (space : Option AddressSpace) (sgt : Option SgTable) (answers : Answers) :
    Option Mapping :=
  match space with
  | none => some ⟨eInval, 0, false⟩
  | some space =>
    match space.kind with
    | .smmu => some (smmuMapVma space sgt answers)
    | .iommu mmu => iommuMapVma mmu sgt answers

/-- What `msm_gem_get_iova` returns, what it writes to `*iova`, and the table that it has mapped. -/
structure Returned where
  ret : ℤ
  iova : Option ℕ
  table : Option SgTable

structure State (n : ℕ) where
  objects : Fin n → MsmObject
  spaces : ℕ → AddressSpace

variable {n : ℕ}

def State.setObject (s : State n) (id : Fin n) (obj : MsmObject) : State n :=
  { s with objects := Function.update s.objects id obj }

/-- `kref_get` -/
def State.get (s : State n) (aspace : Option ℕ) : State n :=
  match aspace with
  | none => s
  | some a => { s with
      spaces := Function.update s.spaces a { s.spaces a with kref := (s.spaces a).kref + 1 } }

def MsmObject.lookupVma (obj : MsmObject) (aspace : Option ℕ) : Option Vma :=
  obj.vmas.find? (·.aspace = aspace)

/-- `msm_gem_get_iova`, where the pages are there; where the mapping fails `del_vma` takes the `vma`
    away. -/
def State.map (s : State n) (id : Fin n) (obj : MsmObject) (aspace : Option ℕ) (answers : Answers) :
    Option (State n × Returned) :=
  (mapVma (aspace.map s.spaces) obj.sgt answers).map fun mapping =>
    let s := if mapping.kref then s.get aspace else s
    if mapping.ret ≠ 0 then (s.setObject id obj, ⟨mapping.ret, none, none⟩)
    else (s.setObject id { obj with vmas := obj.vmas ++ [⟨aspace, mapping.iova⟩] },
      ⟨0, some mapping.iova, obj.sgt⟩)

/-- `msm_gem_get_iova`, where the object has been prepared. -/
def State.acquire (s : State n) (id : Fin n) (obj : MsmObject) (aspace : Option ℕ)
    (answers : Answers) :
    Option (State n × Returned) :=
  if !answers.kzalloc then some (s.setObject id obj, ⟨eNoMem, none, none⟩)
  else if (getPages obj answers).2 ≠ 0 then
    some (s.setObject id (getPages obj answers).1, ⟨(getPages obj answers).2, none, none⟩)
  else s.map id (getPages obj answers).1 aspace answers

/-- `msm_gem_get_iova`; `none` is the use of an error pointer or of a null pointer. -/
def State.getIova (s : State n) (id : Fin n) (aspace : Option ℕ) (answers : Answers) :
    Option (State n × Returned) :=
  if (s.objects id).madv ≠ .willneed then some (s, ⟨eBusy, none, none⟩)
  else
    match (s.objects id).lookupVma aspace with
    | some vma => some (s, ⟨0, some vma.iova, none⟩)
    | none =>
      match prepare (s.objects id) (aspace.bind fun a => (s.spaces a).device) answers with
      | .crash => none
      | .unlock obj ret => some (s.setObject id obj, ⟨ret, none, none⟩)
      | .ready obj => s.acquire id obj aspace answers

/-- `smmu_aspace_unmap_vma`, `iommu_aspace_unmap_vma`: a `vma` without an address is left alone. -/
def unmapVma (spaces : ℕ → AddressSpace) (vma : Vma) : ℕ → AddressSpace :=
  match vma.aspace with
  | none => spaces
  | some a =>
    if vma.iova = 0 then spaces
    else Function.update spaces a { spaces a with kref := (spaces a).kref - 1 }

def State.putIova (s : State n) (id : Fin n) : State n :=
  { objects := Function.update s.objects id { s.objects id with vmas := [] }
    spaces := (s.objects id).vmas.foldl unmapVma s.spaces }

inductive Call (n : ℕ) where
  | getIova (id : Fin n) (aspace : Option ℕ) (answers : Answers)
  | putIova (id : Fin n)
  | setDomain (a : ℕ) (attached : Bool)
  | madvise (id : Fin n) (madv : Madv)

/-- A run, with what the last call has returned if it was `msm_gem_get_iova`. -/
structure Machine (n : ℕ) where
  state : Option (State n)
  last : Option (Fin n × Option ℕ × Returned)

def State.step (s : State n) : Call n → Machine n
  | .getIova id aspace answers =>
    ⟨(s.getIova id aspace answers).map (·.1), (s.getIova id aspace answers).map fun done =>
    (id, aspace, done.2)⟩
  | .putIova id => ⟨some (s.putIova id), none⟩
  | .setDomain a attached =>
    ⟨some { s with
      spaces := Function.update s.spaces a { s.spaces a with domainAttached := attached } }, none⟩
  | .madvise id madv => ⟨some (s.setObject id { s.objects id with madv }), none⟩

def Machine.step (m : Machine n) (call : Call n) : Machine n :=
  m.state.elim m fun s => s.step call

/-! ## What is asked of the calls -/

def MsmObject.mappedIn (obj : MsmObject) (a : ℕ) : ℕ :=
  obj.vmas.countP fun vma => vma.aspace = some a ∧ vma.iova ≠ 0

def Attachment.table : Attachment → Option SgTable
  | .null => some ⟨none⟩
  | .dev _ serial => some ⟨some serial⟩
  | .err => none

def State.Counts (s : State n) : Prop :=
  ∀ a, (s.spaces a).kref = 1 + ∑ id, (s.objects id).mappedIn a

/-- A call that succeeds returns the address of the only mapping there is in the address space, and
    what it has mapped is a table of the present attachment. -/
structure Answered (obj : MsmObject) (aspace : Option ℕ) (returned : Returned) : Prop where
  address : returned.ret = 0 → ∃ vma, obj.vmas.filter (·.aspace = aspace) = [vma] ∧ vma.iova ≠ 0 ∧
    returned.iova = some vma.iova
  table : ∀ table, returned.table = some table → obj.importAttach.table = some table

def Machine.Sound (m : Machine n) : Prop :=
  ∃ s, m.state = some s ∧ s.Counts ∧
    ∀ id aspace returned, m.last = some (id, aspace, returned) →
      Answered (s.objects id) aspace returned

/-! ## The calls that do not come to a defect -/

def MsmObject.reattaches (obj : MsmObject) (device : Option ℕ) : Bool :=
  match device, obj.importAttach with
  | some new, .dev old _ => new ≠ old
  | _, _ => false

structure MsmObject.Reaches (obj : MsmObject) (device : Option ℕ) (answers : Answers) : Prop where
  kzalloc : answers.kzalloc = true
  imports : obj.importAttach ≠ .null → obj.reattaches device = true ∨ obj.sgt = none →
    answers.dmaBufMapAttachment = 0
  pages : obj.importAttach = .null → obj.pages = true ∨
    answers.drmGemGetPages = 0 ∧ answers.drmPrimePagesToSg = 0

def AddressSpace.Maps (space : AddressSpace) (table : Prop) (answers : Answers) : Prop :=
  match space.kind with
  | .smmu => space.domainAttached = true → table ∧ answers.mapDmaBuf = 0 ∧ answers.sgDmaAddress ≠ 0
  | .iommu mmu =>
    answers.drmMmInsertNode = 0 → answers.nodeStart ≠ 0 ∧ (mmu = true → table ∧ answers.mmuMap = 0)

/-- The device is attached where another was, the table of the other is replaced, and a mapping that
    is begun succeeds; the pages of a native object have a table. -/
structure Clean (s : State n) (id : Fin n) (aspace : Option ℕ) (answers : Answers) : Prop where
  attaches : (s.objects id).reattaches (aspace.bind fun a => (s.spaces a).device) = true →
    answers.dmaBufAttach = true
  imports : (s.objects id).reattaches (aspace.bind fun a => (s.spaces a).device) = true →
    (s.objects id).sgt ≠ none →
    answers.dmaBufMapAttachment = 0
  maps : (s.objects id).Reaches (aspace.bind fun a => (s.spaces a).device) answers → ∀ a,
    aspace = some a →
    (s.spaces a).Maps ((s.objects id).importAttach = .null → (s.objects id).pages = true →
      (s.objects id).sgt ≠ none)
      answers

def State.Clean (s : State n) : Call n → Prop
  | .getIova id aspace answers =>
    (s.objects id).madv = .willneed → (s.objects id).lookupVma aspace = none →
    Iova.Clean s id aspace answers
  | _ => True

def Machine.Clean (m : Machine n) (call : Call n) : Prop := ∀ s, m.state = some s → s.Clean call

/-! ## What a call does to the object -/

structure Shaped (obj : MsmObject) : Prop where
  addresses : ∀ vma ∈ obj.vmas, vma.iova ≠ 0
  once : (obj.vmas.map Vma.aspace).Nodup
  attached : obj.importAttach ≠ .err
  extbuf : obj.extbuf = true ↔ obj.importAttach ≠ .null

structure Kept (obj : MsmObject) : Prop extends Shaped obj where
  table : ∀ table, obj.sgt = some table → obj.importAttach.table = some table

section Object
variable {obj : MsmObject} {device : Option ℕ} {answers : Answers}

structure Imported (obj obj' : MsmObject) : Prop where
  kept : Kept obj'
  vmas : obj'.vmas = obj.vmas
  foreign : obj'.importAttach ≠ .null
  sgt : obj'.sgt ≠ none

theorem importDelayed_due (shaped : Shaped obj) (foreign : obj.importAttach ≠ .null)
    (reattach : Bool)
    (answers : Answers) (due : reattach = true ∨ obj.sgt = none) :
    (importDelayed obj reattach answers = .unlock obj answers.dmaBufMapAttachment ∧
    answers.dmaBufMapAttachment ≠ 0) ∨
    ∃ obj', importDelayed obj reattach answers = .ready obj' ∧ Imported obj obj' ∧
    answers.dmaBufMapAttachment = 0 := by
  have external := shaped.extbuf.mpr foreign
  have taken : ((obj.extbuf && obj.sgt.isNone) || reattach) = true := by
    cases due with
    | inl reattached => rw [reattached, Bool.or_true]
    | inr none => rw [external, none, Option.isNone_none, Bool.and_self, Bool.true_or]
  unfold importDelayed
  rw [if_pos taken]
  cases attach : obj.importAttach with
  | null => exact absurd attach foreign
  | err => exact absurd attach shaped.attached
  | dev device serial =>
    by_cases fails : answers.dmaBufMapAttachment = 0
    · right
      refine ⟨_, if_neg (not_not.mpr fails),
        ⟨⟨⟨shaped.addresses, shaped.once, ?_, ?_⟩, fun table same => ?_⟩,
        rfl, ?_, ?_⟩, fails⟩
      · simp
      · simp [external]
      · cases same
        rfl
      · simp
      · simp
    · exact .inl ⟨if_pos fails, fails⟩

theorem importDelayed_not_due (shaped : Shaped obj) (done : obj.importAttach ≠ .null →
    obj.sgt ≠ none) :
    importDelayed obj false answers = .ready obj := by
  unfold importDelayed
  rw [if_neg]
  intro due
  rw [Bool.or_false, Bool.and_eq_true] at due
  exact done (shaped.extbuf.mp due.1) (Option.isNone_iff_eq_none.mp due.2)

def Prepares (obj : MsmObject) (device : Option ℕ) (answers : Answers) (prepared : Prepared) :
    Prop :=
  (∃ obj' ret, prepared = .unlock obj' ret ∧ ret ≠ 0 ∧ Kept obj' ∧ obj'.vmas = obj.vmas) ∨
  ∃ obj', prepared = .ready obj' ∧ Kept obj' ∧ obj'.vmas = obj.vmas ∧
    (obj.importAttach ≠ .null → obj'.importAttach ≠ .null ∧ obj'.sgt ≠ none ∧
      (obj.reattaches device = true ∨ obj.sgt = none → answers.dmaBufMapAttachment = 0)) ∧
    (obj.importAttach = .null → obj' = obj)

theorem importDelayed_prepares (kept : Kept obj) (stays : obj.reattaches device = false) :
    Prepares obj device answers (importDelayed obj false answers) := by
  by_cases due : obj.importAttach ≠ .null ∧ obj.sgt = none
  · obtain ⟨unlock, fails⟩ | ⟨obj', ready, imported, works⟩ :=
      importDelayed_due kept.toShaped due.1 false answers (.inr due.2)
    · exact .inl ⟨obj, _, unlock, fails, kept, rfl⟩
    · exact .inr ⟨obj', ready, imported.kept, imported.vmas,
        fun _ => ⟨imported.foreign, imported.sgt, fun _ => works⟩, fun null => absurd null due.1⟩
  · have done : obj.importAttach ≠ .null → obj.sgt ≠ none := fun foreign none => due ⟨foreign, none⟩
    refine .inr ⟨obj, importDelayed_not_due kept.toShaped done, kept, rfl,
      fun foreign => ⟨foreign, done foreign, fun either => ?_⟩, fun _ => rfl⟩
    cases either with
    | inl reattaches =>
      rw [stays] at reattaches
      cases reattaches
    | inr none => exact absurd none (done foreign)

theorem prepare_prepares (kept : Kept obj)
    (attaches : obj.reattaches device = true → answers.dmaBufAttach = true)
    (imports : obj.reattaches device = true → obj.sgt ≠ none → answers.dmaBufMapAttachment = 0) :
    Prepares obj device answers (prepare obj device answers) := by
  cases device with
  | none => exact importDelayed_prepares kept rfl
  | some new =>
    cases attach : obj.importAttach with
    | err => exact absurd attach kept.attached
    | null =>
      have taken : prepare obj (some new) answers = importDelayed obj false answers := by
        simp only [prepare, attach]
      rw [taken]
      apply importDelayed_prepares kept
      simp only [MsmObject.reattaches, attach]
    | dev old serial =>
      by_cases same : new = old
      · have taken : prepare obj (some new) answers = importDelayed obj false answers := by
          simp only [prepare, attach, if_pos same]
        rw [taken]
        apply importDelayed_prepares kept
        simp [MsmObject.reattaches, attach, same]
      · have reattaches : obj.reattaches (some new) = true := by
          simp [MsmObject.reattaches, attach, same]
        have foreign : obj.importAttach ≠ .null := by simp [attach]
        have shaped : Shaped
            { obj with
              importAttach := .dev new obj.attachments, attachments := obj.attachments + 1 } :=
          ⟨kept.addresses, kept.once, by simp, ⟨fun _ => by simp, fun _ => kept.extbuf.mpr foreign⟩⟩
        have taken : prepare obj (some new) answers = importDelayed
            { obj with
              importAttach := .dev new obj.attachments, attachments := obj.attachments + 1 }
            true answers := by
          simp [prepare, attach, same, attaches reattaches]
        rw [taken]
        obtain ⟨unlock, fails⟩ | ⟨obj', ready, imported, works⟩ :=
          importDelayed_due shaped (by simp) true answers (.inl rfl)
        · left
          -- the object has no table yet, which would be of the other attachment
          have none : obj.sgt = none := by
            by_contra some
            exact fails (imports reattaches some)
          refine ⟨_, _, unlock, fails, ⟨shaped, fun table some => ?_⟩, rfl⟩
          change obj.sgt = _ at some
          rw [none] at some
          cases some
        · exact .inr ⟨obj', ready, imported.kept, imported.vmas,
            fun _ => ⟨imported.foreign, imported.sgt, fun _ => works⟩, fun null =>
              absurd null foreign⟩

theorem getPages_spec (kept : Kept obj) :
    Kept (getPages obj answers).1 ∧ (getPages obj answers).1.vmas = obj.vmas ∧
    ((getPages obj answers).2 = 0 →
      (obj.importAttach = .null → obj.pages = true ∨ answers.drmGemGetPages = 0 ∧
        answers.drmPrimePagesToSg = 0) ∧
      ((obj.importAttach ≠ .null → obj.sgt ≠ none) →
        (obj.importAttach = .null → obj.pages = true → obj.sgt ≠ none) →
        (getPages obj answers).1.sgt ≠ none)) := by
  unfold getPages
  by_cases foreign : obj.importAttach ≠ .null
  · rw [if_pos foreign]
    exact ⟨kept, rfl, fun _ => ⟨fun null => absurd null foreign, fun table _ => table foreign⟩⟩
  · rw [if_neg foreign]
    have native : obj.importAttach = .null := not_not.mp foreign
    by_cases pages : obj.pages = true
    · rw [if_pos pages]
      exact ⟨kept, rfl, fun _ => ⟨fun _ => .inl pages, fun _ table => table native pages⟩⟩
    · rw [if_neg pages]
      by_cases got : answers.drmGemGetPages = 0
      · rw [if_neg (not_not.mpr got)]
        have shaped : ∀ sgt : Option SgTable, Shaped { obj with pages := true, sgt } := fun _ =>
          ⟨kept.addresses, kept.once, kept.attached, kept.extbuf⟩
        by_cases made : answers.drmPrimePagesToSg = 0
        · rw [if_neg (not_not.mpr made)]
          refine ⟨⟨shaped _, fun table some => ?_⟩, rfl, fun _ =>
            ⟨fun _ => .inr ⟨got, made⟩, fun _ _ => by simp⟩⟩
          cases some
          exact congrArg Attachment.table native
        · rw [if_pos made]
          exact ⟨⟨shaped _, fun table some => by cases some⟩, rfl, fun none => absurd none made⟩
      · rw [if_pos got]
        exact ⟨kept, rfl, fun none => absurd none got⟩

theorem mapVma_spec {space : AddressSpace} {sgt : Option SgTable} {table : Prop}
    (maps : space.Maps table answers)
    (there : table → sgt ≠ none) :
    ∃ mapping, mapVma (some space) sgt answers = some mapping ∧
      (mapping.ret = 0 ∧ mapping.iova ≠ 0 ∧ mapping.kref = true ∨ mapping.ret ≠ 0 ∧
        mapping.kref = false) := by
  rw [mapVma]
  cases kind : space.kind with
  | smmu =>
    dsimp only
    rw [AddressSpace.Maps, kind] at maps
    refine ⟨_, rfl, ?_⟩
    cases attached : space.domainAttached with
    | false =>
      right
      simp [smmuMapVma, attached, eInval]
    | true =>
      obtain ⟨present, works, address⟩ := maps attached
      obtain ⟨table, rfl⟩ := Option.ne_none_iff_exists'.mp (there present)
      left
      simp [smmuMapVma, attached, works, address]
  | iommu mmu =>
    dsimp only
    rw [AddressSpace.Maps, kind] at maps
    by_cases inserted : answers.drmMmInsertNode = 0
    · obtain ⟨address, works⟩ := maps inserted
      cases mmu with
      | false =>
        exact ⟨_, by simp only [iommuMapVma, inserted]; rfl, .inl ⟨rfl, by simp [address], rfl⟩⟩
      | true =>
        obtain ⟨present, mapped⟩ := works rfl
        obtain ⟨table, rfl⟩ := Option.ne_none_iff_exists'.mp (there present)
        exact ⟨_, by simp only [iommuMapVma, inserted]; rfl, .inl ⟨mapped, by simp [address], rfl⟩⟩
    · exact ⟨_, by rw [iommuMapVma, if_pos inserted], .inr ⟨inserted, rfl⟩⟩

end Object

/-! ## References -/

structure Inv (s : State n) : Prop where
  counts : s.Counts
  kept : ∀ id, Kept (s.objects id)

theorem sum_update (f : Fin n → ℕ) (id : Fin n) (b : ℕ) :
    ∑ i, Function.update f id b i + f id = ∑ i, f i + b := by
  rw [Finset.sum_update_of_mem (Finset.mem_univ id), Finset.sum_eq_add_sum_sdiff_singleton_of_mem
    (Finset.mem_univ id) f]
  omega

theorem sum_setObject (objects : Fin n → MsmObject) (id : Fin n) (obj : MsmObject) (a : ℕ) :
    ∑ i, (Function.update objects id obj i).mappedIn a + (objects id).mappedIn a =
      ∑ i, (objects i).mappedIn a + obj.mappedIn a := by
  have single : (fun i => (Function.update objects id obj i).mappedIn a) =
      Function.update (fun i => (objects i).mappedIn a) id (obj.mappedIn a) :=
    Function.comp_update (fun obj : MsmObject => obj.mappedIn a) objects id obj
  rw [single]
  exact sum_update _ id _

theorem kept_update {objects : Fin n → MsmObject} {obj : MsmObject} (kept : ∀ i, Kept (objects i))
    (keeps : Kept obj)
    (id i : Fin n) : Kept (Function.update objects id obj i) := by
  by_cases same : i = id
  · subst same
    rw [Function.update_self]
    exact keeps
  · rw [Function.update_of_ne same]
    exact kept i

theorem Inv.setObject {s : State n} {obj : MsmObject} (inv : Inv s) {id : Fin n} (keeps : Kept obj)
    (same : obj.vmas = (s.objects id).vmas) : Inv (s.setObject id obj) := by
  refine ⟨fun a => ?_, kept_update inv.kept keeps id⟩
  have counts := inv.counts a
  have sum := sum_setObject s.objects id obj a
  have mapped : obj.mappedIn a = (s.objects id).mappedIn a := by rw [MsmObject.mappedIn, same,
    MsmObject.mappedIn]
  change (s.spaces a).kref = 1 + ∑ i, (Function.update s.objects id obj i).mappedIn a
  omega

theorem filter_eq_singleton {vmas : List Vma} (once : (vmas.map Vma.aspace).Nodup) {vma : Vma}
    (member : vma ∈ vmas) :
    vmas.filter (·.aspace = vma.aspace) = [vma] := by
  induction vmas with
  | nil => cases member
  | cons head rest ih =>
    rw [List.map_cons, List.nodup_cons] at once
    cases member with
    | head =>
      rw [List.filter_cons_of_pos (by simp)]
      congr 1
      rw [List.filter_eq_nil_iff]
      intro other later same
      exact once.1 (List.mem_map.mpr ⟨other, later, of_decide_eq_true same⟩)
    | tail _ later =>
      rw [List.filter_cons_of_neg, ih once.2 later]
      intro same
      exact once.1 (List.mem_map.mpr ⟨vma, later, (of_decide_eq_true same).symm⟩)

section Calls
variable {s : State n} {id : Fin n} {aspace : Option ℕ} {answers : Answers}

theorem lookupVma_eq_some {obj : MsmObject} (kept : Kept obj) {vma : Vma}
    (found : obj.lookupVma aspace = some vma) :
    obj.vmas.filter (·.aspace = aspace) = [vma] ∧ vma.iova ≠ 0 := by
  have member := List.mem_of_find?_eq_some found
  have same : vma.aspace = aspace := by simpa using List.find?_some found
  rw [← same]
  exact ⟨filter_eq_singleton kept.once member, kept.addresses vma member⟩

theorem lookupVma_eq_none {obj : MsmObject} (absent : obj.lookupVma aspace = none) :
    ∀ vma ∈ obj.vmas, vma.aspace ≠ aspace := by
  intro vma member same
  have other := List.find?_eq_none.mp absent vma member
  exact other (by simpa using same)

theorem Inv.addVma (inv : Inv s) {a iova : ℕ} {obj : MsmObject} (keeps : Kept obj)
    (same : obj.vmas = (s.objects id).vmas)
    (absent : ∀ vma ∈ obj.vmas, vma.aspace ≠ some a) (address : iova ≠ 0) :
    Inv ((s.get (some a)).setObject id { obj with vmas := obj.vmas ++ [⟨some a, iova⟩] }) := by
  have added : Kept { obj with vmas := obj.vmas ++ [⟨some a, iova⟩] } := by
    refine ⟨⟨?_, ?_, keeps.attached, keeps.extbuf⟩, keeps.table⟩
    · intro vma member
      rw [List.mem_append, List.mem_singleton] at member
      cases member with
      | inl old => exact keeps.addresses vma old
      | inr new =>
        subst new
        exact address
    · rw [List.map_append, List.map_singleton, List.nodup_append]
      refine ⟨keeps.once, List.nodup_singleton _, fun old member new last => ?_⟩
      obtain ⟨vma, inside, rfl⟩ := List.mem_map.mp member
      rw [List.mem_singleton.mp last]
      exact absent vma inside
  refine ⟨fun b => ?_, fun i => kept_update inv.kept added id i⟩
  · have counts := inv.counts b
    have sum := sum_setObject s.objects id { obj with vmas := obj.vmas ++ [⟨some a, iova⟩] } b
    have mapped : MsmObject.mappedIn { obj with vmas := obj.vmas ++ [⟨some a, iova⟩] } b =
        (s.objects id).mappedIn b + if a = b then 1 else 0 := by
      rw [MsmObject.mappedIn, List.countP_append, same, MsmObject.mappedIn, List.countP_singleton]
      simp [address]
    change (Function.update s.spaces a _ b).kref = 1 + ∑ i,
      (Function.update s.objects id _ i).mappedIn b
    by_cases here : b = a
    · subst here
      rw [if_pos rfl] at mapped
      rw [Function.update_self]
      change (s.spaces b).kref + 1 = _
      omega
    · rw [if_neg fun same => here same.symm] at mapped
      rw [Function.update_of_ne here]
      omega

def Done (id : Fin n) (aspace : Option ℕ) (done : Option (State n × Returned)) : Prop :=
  ∃ s' returned, done = some (s', returned) ∧ Inv s' ∧ Answered (s'.objects id) aspace returned

theorem done_of_error (inv : Inv s) {obj : MsmObject} (keeps : Kept obj)
    (same : obj.vmas = (s.objects id).vmas)
    {ret : ℤ} (error : ret ≠ 0) : Done id aspace (some (s.setObject id obj, ⟨ret, none, none⟩)) :=
  ⟨_, _, rfl, inv.setObject keeps same, fun zero => absurd zero error,
    fun table none => by cases none⟩

theorem map_done (inv : Inv s) {obj : MsmObject} (keeps : Kept obj)
    (same : obj.vmas = (s.objects id).vmas)
    (absent : ∀ vma ∈ obj.vmas, vma.aspace ≠ aspace) {table : Prop} (there : table → obj.sgt ≠ none)
    (maps : ∀ a, aspace = some a → (s.spaces a).Maps table answers) :
    Done id aspace (s.map id obj aspace answers) := by
  cases aspace with
  | none => exact done_of_error inv keeps same (by decide)
  | some a =>
    obtain ⟨mapping, mapped, success | failure⟩ := mapVma_spec (maps a rfl) there
    · obtain ⟨ret, address, kref⟩ := success
      have done : s.map id obj (some a) answers = some ((s.get (some a)).setObject id
          { obj with vmas := obj.vmas ++ [⟨some a, mapping.iova⟩] },
            ⟨0, some mapping.iova, obj.sgt⟩) := by
        rw [State.map, Option.map_some, mapped, Option.map_some, kref, ret]
        rfl
      rw [done]
      refine ⟨_, _, rfl, inv.addVma keeps same absent address, fun _ =>
        ⟨⟨some a, mapping.iova⟩, ?_, address, rfl⟩,
        fun table mapped => ?_⟩
      · change (Function.update s.objects id _ id).vmas.filter _ = _
        rw [Function.update_self, List.filter_append, List.filter_eq_nil_iff.mpr, List.nil_append]
        · simp
        · intro vma member here
          exact absent vma member (of_decide_eq_true here)
      · change (Function.update s.objects id _ id).importAttach.table = _
        rw [Function.update_self]
        exact keeps.table table mapped
    · obtain ⟨error, kref⟩ := failure
      have done : s.map id obj (some a) answers = some
        (s.setObject id obj, ⟨mapping.ret, none, none⟩) := by
        rw [State.map, Option.map_some, mapped, Option.map_some, kref]
        exact congrArg some (if_pos error)
      rw [done]
      exact done_of_error inv keeps same error

theorem getIova_done (inv : Inv s) (clean : s.Clean (.getIova id aspace answers)) :
    Done id aspace (s.getIova id aspace answers) := by
  have kept := inv.kept id
  rw [State.getIova]
  by_cases wanted : (s.objects id).madv = .willneed
  · rw [if_neg (not_not.mpr wanted)]
    cases found : (s.objects id).lookupVma aspace with
    | some vma =>
      obtain ⟨single, address⟩ := lookupVma_eq_some kept found
      exact ⟨s, _, rfl, inv, fun _ => ⟨vma, single, address, rfl⟩, fun table none => by cases none⟩
    | none =>
      have absent := lookupVma_eq_none found
      obtain ⟨attaches, imports, maps⟩ := clean wanted found
      obtain ⟨obj, ret, unlock, error, keeps, same⟩ | ⟨obj, ready, keeps, same, foreign, native⟩ :=
        prepare_prepares kept attaches imports
      · simp only [unlock]
        exact done_of_error inv keeps same error
      · simp only [ready]
        rw [State.acquire]
        cases kzalloc : answers.kzalloc with
        | false => exact done_of_error inv keeps same (by decide)
        | true =>
          rw [if_neg (by decide)]
          obtain ⟨keeps', same', reaches⟩ := @getPages_spec obj answers keeps
          by_cases failed : (getPages obj answers).2 = 0
          · rw [if_neg (not_not.mpr failed)]
            obtain ⟨pages, table⟩ := reaches failed
            have reached : (s.objects id).Reaches
              (aspace.bind fun a => (s.spaces a).device) answers := by
              refine ⟨kzalloc, fun isForeign => (foreign isForeign).2.2, fun isNative => ?_⟩
              rw [← native isNative]
              exact pages (by rw [native isNative]; exact isNative)
            refine map_done inv keeps' (same'.trans same) ?_ (fun there => table ?_ ?_)
              (maps reached)
            · rw [same', same]
              exact absent
            · intro isForeign
              by_cases wasNative : (s.objects id).importAttach = .null
              · rw [native wasNative] at isForeign
                exact absurd wasNative isForeign
              · exact (foreign wasNative).2.1
            · intro isNative paged
              by_cases wasNative : (s.objects id).importAttach = .null
              · rw [native wasNative] at paged ⊢
                exact there wasNative paged
              · exact absurd isNative (foreign wasNative).1
          · rw [if_pos failed]
            exact done_of_error inv keeps' (same'.trans same) failed
  · rw [if_pos wanted]
    exact ⟨s, _, rfl, inv, fun zero => absurd zero (by decide), fun table none => by cases none⟩

theorem foldl_unmapVma (vmas : List Vma) (spaces : ℕ → AddressSpace) (a : ℕ) :
    (vmas.foldl unmapVma spaces a).kref =
      (spaces a).kref - vmas.countP fun vma => vma.aspace = some a ∧ vma.iova ≠ 0 := by
  induction vmas generalizing spaces with
  | nil => rfl
  | cons vma rest ih =>
    rw [List.foldl_cons, ih, List.countP_cons]
    obtain ⟨aspace, iova⟩ := vma
    cases aspace with
    | none => simp [unmapVma]
    | some b =>
      by_cases zero : iova = 0
      · simp [unmapVma, zero]
      · by_cases here : a = b
        · subst here
          simp [unmapVma, zero]
          omega
        · simp [unmapVma, zero, here, Ne.symm here]

theorem putIova_inv (inv : Inv s) (id : Fin n) : Inv (s.putIova id) := by
  have kept := inv.kept id
  have emptied : Kept { s.objects id with vmas := [] } :=
    ⟨⟨fun vma none => (by cases none), List.nodup_nil, kept.attached, kept.extbuf⟩, kept.table⟩
  refine ⟨fun a => ?_, kept_update inv.kept emptied id⟩
  have counts := inv.counts a
  have sum := sum_setObject s.objects id { s.objects id with vmas := [] } a
  have none : MsmObject.mappedIn { s.objects id with vmas := [] } a = 0 := rfl
  change ((s.objects id).vmas.foldl unmapVma s.spaces a).kref = 1 + ∑ i,
    (Function.update s.objects id _ i).mappedIn a
  rw [foldl_unmapVma, ← MsmObject.mappedIn]
  omega

theorem step_sound {call : Call n} (inv : Inv s) (clean : s.Clean call) :
    (∃ s', (s.step call).state = some s' ∧ Inv s') ∧ (s.step call).Sound := by
  cases call with
  | getIova id aspace answers =>
    obtain ⟨s', returned, done, inv', answered⟩ := getIova_done inv clean
    have state : (s.step (.getIova id aspace answers)).state =
      some s' := by rw [State.step, done]; rfl
    refine ⟨⟨s', state, inv'⟩, s', state, inv'.counts, fun other space answer last => ?_⟩
    rw [State.step, done] at last
    cases last
    exact answered
  | putIova id =>
    have inv' := putIova_inv inv id
    exact ⟨⟨_, rfl, inv'⟩, _, rfl, inv'.counts, fun other space answer last => by cases last⟩
  | setDomain a attached =>
    have same : ∀ b,
      (Function.update s.spaces a { s.spaces a with domainAttached := attached } b).kref =
        (s.spaces b).kref := by
      intro b
      by_cases here : b = a
      · subst here
        rw [Function.update_self]
      · rw [Function.update_of_ne here]
    have counts : State.Counts { s with
        spaces := Function.update s.spaces a { s.spaces a with domainAttached := attached } } :=
      fun b => (same b).trans (inv.counts b)
    exact ⟨⟨_, rfl, counts, inv.kept⟩, _, rfl, counts, fun other space answer last => by cases last⟩
  | madvise id madv =>
    have kept := inv.kept id
    have advised : Kept { s.objects id with madv } :=
      ⟨⟨kept.addresses, kept.once, kept.attached, kept.extbuf⟩, kept.table⟩
    have inv' : Inv (s.setObject id { s.objects id with madv }) := inv.setObject advised rfl
    exact ⟨⟨_, rfl, inv'⟩, _, rfl, inv'.counts, fun other space answer last => by cases last⟩

end Calls

/-! ## Runs -/

/-- An object as `msm_gem_new` and `msm_gem_import` leave it. One in the reserved memory has its
    physical address there, which is not 0. -/
inductive Fresh : MsmObject → Prop where
  | native : Fresh ⟨.null, 0, false, .willneed, false, none, []⟩
  | vram (iova : ℕ) (address : iova ≠ 0) : Fresh ⟨.null, 0, false, .willneed, true, some ⟨none⟩,
    [⟨none, iova⟩]⟩
  | imported (device : ℕ) : Fresh ⟨.dev device 0, 1, true, .willneed, false, none, []⟩
  | importedCached (device : ℕ) : Fresh ⟨.dev device 0, 1, true, .willneed, false,
    some ⟨some 0⟩, []⟩

theorem Fresh.kept {obj : MsmObject} (fresh : Fresh obj) : Kept obj := by
  cases fresh with
  | native =>
    exact ⟨⟨fun vma none => (by cases none), List.nodup_nil, by simp, by simp⟩,
      fun table none => by cases none⟩
  | vram iova address =>
    refine ⟨⟨fun vma member => ?_, List.nodup_singleton _, by simp, by simp⟩,
      fun table some => some⟩
    rw [List.mem_singleton.mp member]
    exact address
  | imported device =>
    exact ⟨⟨fun vma none => (by cases none), List.nodup_nil, by simp, by simp⟩,
      fun table none => by cases none⟩
  | importedCached device =>
    exact ⟨⟨fun vma none => (by cases none), List.nodup_nil, by simp, by simp⟩,
      fun table some => some⟩

theorem Fresh.mappedIn {obj : MsmObject} (fresh : Fresh obj) (a : ℕ) : obj.mappedIn a = 0 := by
  cases fresh <;> simp [MsmObject.mappedIn]

structure Created (s : State n) : Prop where
  objects : ∀ id, Fresh (s.objects id)
  spaces : ∀ a, (s.spaces a).kref = 1

theorem Created.inv {s : State n} (created : Created s) : Inv s := by
  refine ⟨fun a => ?_, fun id => (created.objects id).kept⟩
  rw [created.spaces a, Finset.sum_eq_zero fun id _ => (created.objects id).mappedIn
    a, Nat.add_zero]

/-- In a run whose calls do not come to a defect every call is sound. -/
theorem calls_sound {s : State n} (created : Created s) {calls : List (Call n)}
    (clean : StepsMeet Machine.step Machine.Clean ⟨some s, none⟩ calls) :
    Throughout Machine.step Machine.Sound ⟨some s, none⟩ calls := by
  apply throughout_of_meets (fun m : Machine n => (∃ s, m.state = some s ∧ Inv s) ∧ m.Sound) _
    (fun _ both => both.2)
    _ clean
  · rintro m call ⟨⟨s, state, inv⟩, -⟩ clean
    have step : m.step call = s.step call := by rw [Machine.step, state]; rfl
    rw [step]
    exact step_sound inv (clean s state)
  · exact ⟨⟨s, rfl, created.inv⟩, s, rfl, created.inv.counts,
      fun id aspace returned last => by cases last⟩

def oneObject : State 1 where
  objects := fun _ => ⟨.dev 0 0, 1, true, .willneed, false, none, []⟩
  spaces := fun a => if a = 0 then ⟨.smmu, some 1, true, 1⟩ else ⟨.iommu true, none, false, 1⟩

theorem oneObject_created : Created oneObject :=
  ⟨fun _ => .imported 0, fun a => by by_cases first : a = 0 <;> simp [oneObject, first]⟩

def works : Answers where
  dmaBufAttach := true
  dmaBufMapAttachment := 0
  kzalloc := true
  drmGemGetPages := 0
  drmPrimePagesToSg := 0
  mapDmaBuf := 0
  sgDmaAddress := 2147483648
  drmMmInsertNode := 0
  nodeStart := 1
  mmuMap := 0

/-- The first call imports the object and then has no memory; the second one maps it, and the third
    finds it. -/
def mapTwice : List (Call 1) :=
  [.getIova 0 (some 0) { works with kzalloc := false }, .getIova 0 (some 0) works,
    .getIova 0 (some 0) works,
    .putIova 0]

theorem mapTwice_sound : Created oneObject ∧ StepsMeet Machine.step Machine.Clean
    ⟨some oneObject, none⟩ mapTwice ∧
    Throughout Machine.step Machine.Sound ⟨some oneObject, none⟩ mapTwice := by
  have clean : StepsMeet Machine.step Machine.Clean ⟨some oneObject, none⟩ mapTwice := by
    refine ⟨fun s here => ?_, fun s here => ?_, fun s here => ?_, fun s here => trivial, trivial⟩
    · cases here
      intro _ _
      exact ⟨fun _ => rfl, fun _ _ => rfl, fun reaches => nomatch reaches.kzalloc⟩
    · cases here
      intro _ _
      refine ⟨fun _ => rfl, fun _ _ => rfl, fun _ a same => ?_⟩
      cases same
      exact fun _ => ⟨(nomatch ·), rfl, by decide⟩
    · cases here
      intro _ absent
      exact absurd absent (by decide)
  exact ⟨oneObject_created, clean, calls_sound oneObject_created clean⟩

/-- The attachment of the address space's device fails: the call returns zero without a mapping. -/
theorem not_sound_attach : Created oneObject ∧
    ¬Throughout Machine.step Machine.Sound ⟨some oneObject, none⟩
      [.getIova 0 (some 0) { works with dmaBufAttach := false }] := by
  refine ⟨oneObject_created, ?_⟩
  rintro ⟨-, s, here, -, answered⟩
  cases here
  obtain ⟨vma, -, -, iova⟩ := (answered 0 (some 0) _ rfl).address rfl
  cases iova

end DisplayDrivers.Gem.Iova
