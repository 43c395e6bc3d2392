import DisplayDrivers.Gem.Iova

/-! # An object without its addresses

`Gem.Objects` has of each mapping its address space and of the table whether there is one. What
`msm_gem_get_iova` does to an object with addresses and tables, it does there to what is left of it.
-/

namespace DisplayDrivers.Gem.Iova

def Attachment.plain : Attachment → ImportAttach
  | .null => .null
  | .dev device _ => .dev device
  | .err => .err

/-- What is left of an object; the other fields are those of `rest`. -/
def MsmObject.plain (obj : MsmObject) (rest : GemObject) : GemObject :=
  { rest with
    importAttach := obj.importAttach.plain, extbuf := obj.extbuf, madv := obj.madv
    pages := obj.pages
    sgt := obj.sgt.isSome, vmas := obj.vmas.map Vma.aspace }

def Answers.plain (answers : Answers) (mapDmaBuf : ℤ) : Gem.Answers :=
  { answers with mapDmaBuf }

/-- `out` is what comes before; nothing is said of the use of an error pointer. -/
def Prepared.Plain (rest : GemObject) (out : GemObject × Option ℤ) : Prepared → Prop
  | .crash => True
  | .unlock obj ret => out = (obj.plain rest, some ret)
  | .ready obj => out = (obj.plain rest, none)

section Plain

variable (obj : MsmObject) (rest : GemObject) (answers : Answers) (m : ℤ)

theorem importDelayed_plain (reattach : Bool) :
    (importDelayed obj reattach answers).Plain rest
    ((obj.plain rest).importDelayed reattach (answers.plain m)) := by
  obtain ⟨attach, attachments, extbuf, madv, pages, sgt, vmas⟩ := obj
  have due : (extbuf && !sgt.isSome || reattach) =
    (extbuf && sgt.isNone || reattach) := by cases sgt <;> rfl
  unfold GemObject.importDelayed importDelayed
  simp only [MsmObject.plain, due]
  split
  · cases attach with
    | null => rfl
    | err => trivial
    | dev device serial =>
      by_cases fails : answers.dmaBufMapAttachment = 0 <;>
        simp [GemObject.delayedImport, Attachment.plain, Answers.plain, Prepared.Plain,
          MsmObject.plain, fails]
  · rfl

theorem prepare_plain (device : Option ℕ) :
    (prepare obj device answers).Plain rest
    ((obj.plain rest).attachDevice device (answers.plain m)) := by
  have delayed := importDelayed_plain obj rest answers m false
  obtain ⟨attach, attachments, extbuf, madv, pages, sgt, vmas⟩ := obj
  cases device with
  | none => exact delayed
  | some new =>
    cases attach with
    | null => exact delayed
    | err => trivial
    | dev old serial =>
      simp only [GemObject.attachDevice, prepare, MsmObject.plain, Attachment.plain]
      by_cases same : new = old
      · rw [if_pos same, if_pos same]
        exact delayed
      · rw [if_neg same, if_neg same]
        -- the attachment is lost, or it is the one of the new device
        cases attaches : answers.dmaBufAttach with
        | false => simp [Answers.plain, attaches, Prepared.Plain, MsmObject.plain, Attachment.plain]
        | true =>
          simp only [Answers.plain, attaches, Bool.true_eq_false, Bool.not_true,
            Bool.false_eq_true, if_false]
          exact importDelayed_plain ⟨.dev new attachments, attachments + 1, extbuf, madv,
            pages, sgt, vmas⟩
            rest answers m true

theorem getPages_plain : (obj.plain rest).getPages (answers.plain m) =
    ((getPages obj answers).1.plain rest, (getPages obj answers).2) := by
  obtain ⟨attach, attachments, extbuf, madv, pages, sgt, vmas⟩ := obj
  cases attach with
  | dev | err => rfl
  | null =>
    simp only [GemObject.getPages, getPages, GemObject.imported, MsmObject.plain, Attachment.plain,
      Answers.plain]
    cases pages with
    | true => rfl
    | false =>
      by_cases got : answers.drmGemGetPages = 0
      · by_cases made : answers.drmPrimePagesToSg = 0 <;> simp [got, made]
      · simp [got]

end Plain

/-- A table that is not there fails the mapping that `Gem.Objects` has as an answer. -/
theorem mapVma_plain {spaces : ℕ → AddressSpace} {aspace : Option ℕ} {sgt : Option SgTable}
    {answers : Answers} {mapping : Mapping} (smmu : ∀ a, aspace = some a → (spaces a).kind = .smmu)
    (mapped : mapVma (aspace.map spaces) sgt answers = some mapping) :
    ∃ m, Gem.mapVma aspace (aspace.any fun a => (spaces a).domainAttached) (answers.plain m) =
    mapping.ret := by
  cases aspace with
  | none =>
    cases mapped
    exact ⟨0, rfl⟩
  | some a =>
    simp only [Option.map_some, mapVma, smmu a rfl, Option.some.injEq] at mapped
    subst mapped
    refine ⟨if sgt.isNone then eNoMem else answers.mapDmaBuf, ?_⟩
    simp only [Gem.mapVma, smmuMapVma, Answers.plain, Option.any_some, reduceCtorEq, false_or]
    generalize (if sgt.isNone then eNoMem else answers.mapDmaBuf) = ret
    cases (spaces a).domainAttached with
    | false => rfl
    | true => by_cases zero : ret = 0 <;> simp [zero]

variable {n : ℕ} {s s' : State n} {id : Fin n} {aspace : Option ℕ} {answers : Answers}
  {returned : Returned}
  {t : GemState} {k : ℕ}

/-- The part behind the preparation. -/
theorem acquire_plain {obj : MsmObject} (smmu : ∀ a, aspace = some a → (s.spaces a).kind = .smmu)
    (done : s.acquire id obj aspace answers = some (s', returned)) (rest : GemObject) :
    ∃ m, ∀ (plain : GemObject) device, plain.attachDevice device (answers.plain m) =
    (obj.plain rest, none) →
      plain.map aspace device (aspace.any fun a => (s.spaces a).domainAttached) (answers.plain m) =
        ((s'.objects id).plain rest, if returned.ret = 0 then none else some returned.ret) := by
  have pages := getPages_plain obj rest answers
  have kzalloc (m : ℤ) : (answers.plain m).kzalloc = answers.kzalloc := rfl
  unfold State.acquire at done
  simp only [GemObject.map]
  split at done
  · rename_i refused
    cases done
    refine ⟨0, fun plain device attached => ?_⟩
    simp [attached, kzalloc, refused, State.setObject, eNoMem]
  · rename_i allocated
    split at done
    · rename_i fails
      cases done
      refine ⟨0, fun plain device attached => ?_⟩
      simp [attached, pages, kzalloc, allocated, fails, State.setObject]
    · rename_i works
      obtain ⟨mapping, mapped, result⟩ := Option.map_eq_some_iff.mp done
      obtain ⟨m, ret⟩ := mapVma_plain smmu mapped
      refine ⟨m, fun plain device attached => ?_⟩
      simp only [attached, kzalloc, allocated, pages, works, ret]
      by_cases zero : mapping.ret = 0
      · simp only [zero, ne_eq, not_true_eq_false, if_false, Prod.mk.injEq] at result
        obtain ⟨rfl, rfl⟩ := result
        simp [zero, State.setObject, MsmObject.plain]
      · simp only [zero, ne_eq, not_false_eq_true, if_true, Prod.mk.injEq] at result
        obtain ⟨rfl, rfl⟩ := result
        simp [zero, State.setObject]

theorem activate_plain {obj : MsmObject} (same : t.objects k = obj.plain (t.objects k)) :
    (t.activate k aspace).objects k = obj.plain ((t.activate k aspace).objects k) := by
  unfold GemState.activate
  cases aspace with
  | none => exact same
  | some a =>
    dsimp only
    split
    · exact same
    · simp only [GemState.addToActive, GemState.setObject, Function.update_self]
      rw [same]
      rfl

/-- A call of `msm_gem_get_iova` for a context bank returns the same in `Gem.Objects`, for some
    answers there, and leaves what is left of the object. -/
theorem getIova_plain (smmu : ∀ a, aspace = some a → (s.spaces a).kind = .smmu)
    (devices : ∀ a, t.device a = (s.spaces a).device)
    (domains : ∀ a, t.domainAttached a = (s.spaces a).domainAttached)
    (same : t.objects k = (s.objects id).plain (t.objects k))
    (done : s.getIova id aspace answers = some (s', returned)) :
    ∃ m, (t.getIova k aspace (answers.plain m)).2 = returned.ret ∧
      (t.getIova k aspace (answers.plain m)).1.objects k =
        (s'.objects id).plain ((t.getIova k aspace (answers.plain m)).1.objects k) := by
  have device : t.device = fun a => (s.spaces a).device := funext devices
  have domain : t.domainAttached = fun a => (s.spaces a).domainAttached := funext domains
  have madv : (t.objects k).madv = (s.objects id).madv := congrArg GemObject.madv same
  have vmas : aspace ∈ (t.objects k).vmas ↔ ((s.objects id).lookupVma aspace).isSome := by
    rw [congrArg GemObject.vmas same, MsmObject.lookupVma, List.find?_isSome]
    simp [MsmObject.plain]
  unfold State.getIova at done
  simp only [GemState.getIova, madv, vmas, device, domain]
  split at done
  · cases done
    refine ⟨0, ?_⟩
    rw [if_pos ‹_›]
    exact ⟨rfl, same⟩
  · rename_i willneed
    simp only [if_neg willneed]
    cases found : (s.objects id).lookupVma aspace with
    | some vma =>
      rw [found] at done
      cases done
      exact ⟨0, rfl, activate_plain same⟩
    | none =>
      rw [found] at done
      simp only [Option.isSome_none, Bool.false_eq_true, if_false]
      have attached m :=
        prepare_plain (s.objects id) (t.objects k) answers m
          (aspace.bind fun a => (s.spaces a).device)
      rw [← same] at attached
      cases prepared : prepare (s.objects id)
        (aspace.bind fun a => (s.spaces a).device) answers with
      | crash =>
        rw [prepared] at done
        cases done
      | unlock obj ret =>
        rw [prepared] at done attached
        cases done
        refine ⟨0, ?_⟩
        have out : (t.objects k).attachDevice _ (answers.plain 0) = _ := attached 0
        simp [GemObject.map, out, GemState.setObject, State.setObject, MsmObject.plain]
      | ready obj =>
        rw [prepared] at done attached
        obtain ⟨m, mapped⟩ := acquire_plain smmu done (t.objects k)
        refine ⟨m, ?_⟩
        rw [mapped _ _ (attached m)]
        by_cases zero : returned.ret = 0
        · simp only [zero, if_true]
          refine ⟨trivial, activate_plain ?_⟩
          simp [GemState.setObject, MsmObject.plain]
        · simp [zero, GemState.setObject, MsmObject.plain]

end DisplayDrivers.Gem.Iova
