import DisplayDrivers.Gem.Objects

/-! # The active lists follow the mappings

An object has one node for the active lists but may have a mapping in each address space. As long as
no object is mapped in an address space while it is on the list of another, the lists are exactly
the mappings that are there or wait for a domain (`Inv`), and detaching, attaching and freeing do
what they should.
-/

namespace DisplayDrivers.Gem

open DisplayDrivers.Lib.Run

/-! ## What it takes to map an object -/

def GemObject.switches (obj : GemObject) (device : Option ℕ) : Bool :=
  match device, obj.importAttach with
  | some new, .dev old => new ≠ old
  | _, _ => false

/-- Nothing fails that `msm_gem_get_iova` needs for the object. -/
structure GemObject.Mappable (obj : GemObject) (device : Option ℕ) (answers : Answers) : Prop where
  attached : device ≠ none → obj.importAttach ≠ .err
  switched : obj.switches device = true → answers.dmaBufAttach = true ∧
    answers.dmaBufMapAttachment = 0
  delayed : obj.extbuf = true → obj.sgt = false →
    obj.importAttach ≠ .null ∧ obj.importAttach ≠ .err ∧ answers.dmaBufMapAttachment = 0
  kzalloc : answers.kzalloc = true
  pages : obj.importAttach = .null → obj.pages = false →
    answers.drmGemGetPages = 0 ∧ answers.drmPrimePagesToSg = 0
  map : answers.mapDmaBuf = 0

structure GemObject.Frame (obj obj' : GemObject) : Prop where
  life : obj'.life = obj.life
  imported : obj'.imported = obj.imported
  aspace : obj'.aspace = obj.aspace
  inActiveList : obj'.inActiveList = obj.inActiveList

theorem GemObject.Frame.refl (obj : GemObject) : obj.Frame obj := ⟨rfl, rfl, rfl, rfl⟩

theorem GemObject.Frame.trans {obj obj' obj'' : GemObject} (first : obj.Frame obj')
    (second : obj'.Frame obj'') :
    obj.Frame obj'' :=
  ⟨second.life.trans first.life, second.imported.trans first.imported,
    second.aspace.trans first.aspace,
    second.inActiveList.trans first.inActiveList⟩

section Object
variable (obj : GemObject) (aspace device : Option ℕ) (domainAttached : Bool) (answers : Answers)

theorem delayedImport_frame :
    obj.Frame (obj.delayedImport answers).1 ∧ (obj.delayedImport answers).1.vmas = obj.vmas := by
  unfold GemObject.delayedImport
  split
  · exact ⟨.refl obj, rfl⟩
  · exact ⟨.refl obj, rfl⟩
  · split
    · exact ⟨.refl obj, rfl⟩
    · exact ⟨⟨rfl, rfl, rfl, rfl⟩, rfl⟩

theorem importDelayed_frame (reattach : Bool) :
    obj.Frame (obj.importDelayed reattach answers).1 ∧ (obj.importDelayed reattach answers).1.vmas =
    obj.vmas := by
  unfold GemObject.importDelayed
  split
  case isFalse => exact ⟨.refl obj, rfl⟩
  case isTrue => exact delayedImport_frame obj answers

theorem attachDevice_frame :
    obj.Frame (obj.attachDevice device answers).1 ∧ (obj.attachDevice device answers).1.vmas =
    obj.vmas := by
  unfold GemObject.attachDevice
  split
  · exact ⟨.refl obj, rfl⟩
  next new old attached =>
    have switched : ∀ attach, attach ≠ .null → obj.Frame { obj with importAttach := attach } := by
      intro attach some_attach
      refine ⟨rfl, ?_, rfl, rfl⟩
      simp [GemObject.imported, attached, some_attach]
    split
    · exact importDelayed_frame obj answers false
    · split
      · exact ⟨switched .err (by decide), rfl⟩
      · obtain ⟨frame, vmas⟩ :=
          importDelayed_frame { obj with importAttach := .dev new } answers true
        exact ⟨(switched (.dev new) (by simp)).trans frame, vmas⟩
  · exact importDelayed_frame obj answers false

theorem getPages_frame : obj.Frame (obj.getPages answers).1 ∧ (obj.getPages answers).1.vmas =
    obj.vmas := by
  unfold GemObject.getPages
  split
  · exact ⟨.refl obj, rfl⟩
  · split
    · exact ⟨.refl obj, rfl⟩
    · split
      · exact ⟨.refl obj, rfl⟩
      · split
        · exact ⟨⟨rfl, rfl, rfl, rfl⟩, rfl⟩
        · exact ⟨⟨rfl, rfl, rfl, rfl⟩, rfl⟩

theorem map_frame : obj.Frame (obj.map aspace device domainAttached answers).1 ∧
    (obj.map aspace device domainAttached answers).1.vmas =
      obj.vmas ++ if (obj.map aspace device domainAttached answers).2 = none then
        [aspace] else [] := by
  unfold GemObject.map
  obtain ⟨attached, vmas⟩ := attachDevice_frame obj device answers
  generalize obj.attachDevice device answers = result at attached vmas
  obtain ⟨next, outcome⟩ := result
  cases outcome with
  | some ret => exact ⟨attached, by simpa using vmas⟩
  | none =>
    dsimp only at attached vmas ⊢
    obtain ⟨paged, vmas'⟩ := getPages_frame next answers
    split
    · exact ⟨attached, by simpa using vmas⟩
    · split
      · exact ⟨attached.trans paged, by simpa using vmas'.trans vmas⟩
      · split
        · exact ⟨attached.trans paged, by simpa using vmas'.trans vmas⟩
        · refine ⟨(attached.trans paged).trans ⟨rfl, rfl, rfl, rfl⟩, ?_⟩
          simp [vmas'.trans vmas]

theorem importDelayed_none_iff (reattach : Bool) : (obj.importDelayed reattach answers).2 = none ↔
    ((obj.extbuf = true ∧ obj.sgt = false) ∨ reattach = true →
      obj.importAttach ≠ .null ∧ obj.importAttach ≠ .err ∧ answers.dmaBufMapAttachment = 0) := by
  unfold GemObject.importDelayed GemObject.delayedImport
  split
  next needed =>
    have needed : (obj.extbuf = true ∧ obj.sgt = false) ∨ reattach = true := by simpa using needed
    cases attach : obj.importAttach with
    | null => simp [needed, eInval]
    | err => simp [needed, eFault]
    | dev device =>
      by_cases ok : answers.dmaBufMapAttachment = 0 <;> simp [needed, ok]
  next unneeded =>
    have unneeded : ¬ ((obj.extbuf = true ∧ obj.sgt = false) ∨
      reattach = true) := by simpa using unneeded
    simp [unneeded]

theorem getPages_zero_iff : (obj.getPages answers).2 = 0 ↔
    (obj.importAttach = .null → obj.pages = false →
      answers.drmGemGetPages = 0 ∧ answers.drmPrimePagesToSg = 0) := by
  unfold GemObject.getPages GemObject.imported
  by_cases attach : obj.importAttach = .null
  · cases pages : obj.pages with
    | true => simp [attach]
    | false =>
      by_cases got : answers.drmGemGetPages = 0
      · by_cases table : answers.drmPrimePagesToSg = 0 <;> simp [attach, got, table]
      · simp [attach, got]
  · simp [attach]

theorem attachDevice_none_iff : (obj.attachDevice device answers).2 = none ↔
    (device ≠ none → obj.importAttach ≠ .err) ∧
    (obj.switches device = true → answers.dmaBufAttach = true ∧ answers.dmaBufMapAttachment = 0) ∧
    (obj.extbuf = true → obj.sgt = false →
      obj.importAttach ≠ .null ∧ obj.importAttach ≠ .err ∧ answers.dmaBufMapAttachment = 0) := by
  unfold GemObject.attachDevice GemObject.switches
  cases device with
  | none => simp [importDelayed_none_iff]
  | some new =>
    cases attach : obj.importAttach with
    | null => simp [importDelayed_none_iff, attach]
    | err => simp
    | dev old =>
      by_cases same : new = old
      · simp [same, importDelayed_none_iff, attach]
      · cases answers.dmaBufAttach with
        | false => simp [same]
        | true =>
          simp [same, importDelayed_none_iff]
          exact fun mapped _ _ => mapped

theorem attachDevice_null (attach : obj.importAttach = .null) :
    (obj.attachDevice device answers).1 = obj := by
  unfold GemObject.attachDevice GemObject.importDelayed GemObject.delayedImport
  cases device <;> simp only [attach] <;> split <;> rfl

theorem map_none_iff : (obj.map aspace device domainAttached answers).2 = none ↔
    aspace ≠ none ∧ domainAttached = true ∧ obj.Mappable device answers := by
  have attached := attachDevice_none_iff obj device answers
  have frame := (attachDevice_frame obj device answers).1.imported
  have kept := attachDevice_null obj device answers
  unfold GemObject.map
  generalize obj.attachDevice device answers = result at attached frame kept
  obtain ⟨next, outcome⟩ := result
  cases outcome with
  | some ret =>
    constructor
    · rintro ⟨⟩
    · rintro ⟨-, -, mappable⟩
      exact absurd (attached.mpr ⟨mappable.attached, mappable.switched, mappable.delayed⟩) (by simp)
  | none =>
    obtain ⟨attached, switched, delayed⟩ := attached.mp rfl
    have null_iff : next.importAttach = .null ↔ obj.importAttach = .null := by
      simpa [GemObject.imported] using frame
    have pages := getPages_zero_iff next answers
    dsimp only at kept ⊢
    have pages : (next.getPages answers).2 = 0 ↔ (obj.importAttach = .null → obj.pages = false →
        answers.drmGemGetPages = 0 ∧ answers.drmPrimePagesToSg = 0) := by
      rw [pages, null_iff]
      refine forall_congr' fun null => ?_
      rw [kept null]
    cases kzalloc : answers.kzalloc with
    | false =>
      simp only [Bool.not_false, if_true, reduceCtorEq, false_iff]
      rintro ⟨-, -, mappable⟩
      exact absurd (kzalloc.symm.trans mappable.kzalloc) (by decide)
    | true =>
      simp only [Bool.not_true, Bool.false_eq_true, if_false]
      by_cases got : (next.getPages answers).2 = 0
      · rw [if_neg (not_not.mpr got)]
        unfold mapVma
        by_cases there : aspace = none ∨ domainAttached = false
        · rw [if_pos there]
          simp only [eInval, ne_eq, Int.reduceNeg, not_false_eq_true, if_true,
            reduceCtorEq, false_iff]
          rintro ⟨some_aspace, attached, -⟩
          exact there.elim some_aspace (by simp [attached])
        · rw [if_neg there]
          obtain ⟨some_aspace, is_attached⟩ := not_or.mp there
          by_cases maps : answers.mapDmaBuf = 0
          · rw [if_neg (not_not.mpr maps)]
            simp only [true_iff]
            exact ⟨some_aspace, by simpa using is_attached, attached, switched, delayed, kzalloc,
              pages.mp got, maps⟩
          · rw [if_pos maps]
            simp only [reduceCtorEq, false_iff]
            exact fun both => maps both.2.2.map
      · rw [if_pos got]
        simp only [reduceCtorEq, false_iff]
        exact fun both => got (pages.mpr both.2.2.pages)

end Object

/-! ## The lists and the mappings -/

def GemState.NoRemapFails (s : GemState) (a : ℕ) (answers : ℕ → Answers) : Prop :=
  ∀ id ∈ s.activeList a, (s.objects id).madv = .willneed ∧
    (¬ s.Mapped id a → (s.objects id).Mappable (s.device a) (answers id))

structure Followed (s : GemState) : Prop where
  listed : ∀ id a, (s.objects id).life = .live →
    (id ∈ s.activeList a ↔ s.Mapped id a ∨ s.pending a id = true)
  freed : ∀ id a, (s.objects id).life = .freed → id ∉ s.activeList a
  detached : ∀ a id, (s.objects id).imported = true → ¬ (s.detach a).Mapped id a
  untouched : ∀ a b id, b ≠ a →
    ((s.detach a).objects id).vmas.filter (· = some b) = (s.objects id).vmas.filter (· = some b)
  attached : ∀ a answers, s.NoRemapFails a answers → ∀ id, (s.attach a answers).Mapped id a ↔
    (s.objects id).life = .live ∧ (s.Mapped id a ∨ s.pending a id = true)

def Alone (s : GemState) : Input → Prop
  | .getIova id (some a) answers =>
    (s.objects id).life = .live → (s.objects id).inActiveList = true → id ∉ s.activeList a →
      ¬ ((s.objects id).madv = .willneed ∧ some a ∉ (s.objects id).vmas ∧
        s.domainAttached a = true ∧
        (s.objects id).Mappable (s.device a) answers)
  | _ => True

structure Inv (s : GemState) : Prop where
  nodup : ∀ a, (s.activeList a).Nodup
  live : ∀ id a, id ∈ s.activeList a → (s.objects id).life = .live
  flag : ∀ id, (s.objects id).inActiveList = true ↔ ∃ a, id ∈ s.activeList a
  last : ∀ id a, id ∈ s.activeList a → (s.objects id).putIova.aspace = some a
  listed : ∀ id a, id ∈ s.activeList a ↔ s.Mapped id a ∨ s.pending a id = true

theorem setObject_self (s : GemState) (id : ℕ) (obj : GemObject) :
    (s.setObject id obj).objects id = obj :=
  Function.update_self ..

theorem setObject_of_ne (s : GemState) {id j : ℕ} (other : j ≠ id) (obj : GemObject) :
    (s.setObject id obj).objects j = s.objects j :=
  Function.update_of_ne other ..

theorem putIova_aspace_append (obj : GemObject) (vmas : List (Option ℕ)) (aspace : Option ℕ)
    (last : obj.vmas = vmas ++ [aspace]) : obj.putIova.aspace = aspace := by
  rw [GemObject.putIova, last]
  exact List.foldl_append.trans rfl

namespace Inv

variable {s s' : GemState} {id a b : ℕ}

section

variable (inv : Inv s)

include inv

theorem one (here : id ∈ s.activeList a) (there : id ∈ s.activeList b) : a = b :=
  Option.some.inj ((inv.last id a here).symm.trans (inv.last id b there))

theorem mapped (mapped : s.Mapped id a) : id ∈ s.activeList a := (inv.listed id a).mpr (.inl mapped)

theorem congr (lists : s'.activeList = s.activeList)
    (life : ∀ id, (s'.objects id).life = (s.objects id).life)
    (flag : ∀ id, (s'.objects id).inActiveList = (s.objects id).inActiveList)
    (last : ∀ id, (s'.objects id).putIova.aspace = (s.objects id).putIova.aspace)
    (known : ∀ id a, (s'.Mapped id a ∨ s'.pending a id = true) ↔
    (s.Mapped id a ∨ s.pending a id = true)) :
    Inv s' := by
  constructor
  case nodup => rw [lists]; exact inv.nodup
  case live => intro id a; rw [lists, life]; exact inv.live id a
  case flag => intro id; rw [flag, lists]; exact inv.flag id
  case last => intro id a; rw [lists, last]; exact inv.last id a
  case listed => intro id a; rw [lists, known]; exact inv.listed id a

theorem setObject {obj : GemObject} (frame : (s.objects id).Frame obj)
    (vmas : obj.vmas = (s.objects id).vmas) : Inv (s.setObject id obj) := by
  have same : ∀ {α : Type} (field : GemObject → α), field obj = field (s.objects id) →
      ∀ j, field ((s.setObject id obj).objects j) = field (s.objects j) := by
    intro α field here j
    by_cases other : j = id
    · rw [other, setObject_self]
      exact here
    · rw [setObject_of_ne s other]
  refine inv.congr rfl (same _ frame.life) (same _ frame.inActiveList) ?_ ?_
  · exact same (fun obj => obj.putIova.aspace)
      (by simp only [GemObject.putIova, vmas, frame.aspace])
  · intro j a
    exact or_congr (iff_of_eq (congrArg (some a ∈ ·) (same GemObject.vmas vmas j))) Iff.rfl

theorem fresh (unlisted : ∀ a, id ∉ s.activeList a) {obj : GemObject}
    (unmapped : ∀ a, some a ∉ obj.vmas) (flag : obj.inActiveList = false) :
    Inv (s.setObject id obj) := by
  have other : ∀ {j a}, j ∈ s.activeList a → j ≠ id := fun listed same => unlisted _ (same ▸ listed)
  constructor
  case nodup => exact inv.nodup
  case live =>
    exact fun j a listed => by rw [setObject_of_ne s (other listed)]; exact inv.live j a listed
  case flag =>
    intro j
    by_cases same : j = id
    · rw [same, setObject_self, flag]
      exact iff_of_false Bool.false_ne_true fun ⟨a, listed⟩ => unlisted a listed
    · rw [setObject_of_ne s same]
      exact inv.flag j
  case last =>
    exact fun j a listed => by rw [setObject_of_ne s (other listed)]; exact inv.last j a listed
  case listed =>
    intro j a
    have before := inv.listed j a
    by_cases same : j = id
    · subst same
      have not_pending : s.pending a j ≠ true :=
        fun pending => unlisted a (before.mpr (.inr pending))
      simp only [GemState.Mapped, setObject_self]
      exact iff_of_false (unlisted a) (not_or.mpr ⟨unmapped a, not_pending⟩)
    · simp only [GemState.Mapped, setObject_of_ne s same]
      exact before

theorem mapAgain (listed : id ∈ s.activeList a) {obj : GemObject} (frame : (s.objects id).Frame obj)
    (vmas : obj.vmas = (s.objects id).vmas ++ [some a]) : Inv (s.setObject id obj) := by
  constructor
  case nodup => exact inv.nodup
  case live =>
    intro j b there
    by_cases same : j = id
    · rw [same, setObject_self, frame.life]
      exact inv.live id a listed
    · rw [setObject_of_ne s same]
      exact inv.live j b there
  case flag =>
    intro j
    by_cases same : j = id
    · rw [same, setObject_self, frame.inActiveList]
      exact inv.flag id
    · rw [setObject_of_ne s same]
      exact inv.flag j
  case last =>
    intro j b there
    by_cases same : j = id
    · subst same
      rw [setObject_self, putIova_aspace_append obj _ _ vmas, inv.one listed there]
    · rw [setObject_of_ne s same]
      exact inv.last j b there
  case listed =>
    intro j b
    by_cases same : j = id
    · subst same
      have before := inv.listed j b
      have here : b = a → j ∈ s.activeList b := fun at_a => at_a ▸ listed
      simp only [GemState.Mapped, setObject_self, vmas, List.mem_append, List.mem_singleton,
        Option.some.injEq]
      change j ∈ s.activeList b ↔ _
      rw [before] at here ⊢
      change _ ↔ (s.Mapped j b ∨ _) ∨ s.pending b j = true
      tauto
    · simp only [GemState.Mapped, setObject_of_ne s same]
      exact inv.listed j b

/-- An object that is on no list is mapped and gets on the list. -/
theorem mapFirst (unlisted : ∀ b, id ∉ s.activeList b) (live : (s.objects id).life = .live)
    {obj : GemObject} (frame : (s.objects id).Frame obj)
    (vmas : obj.vmas = (s.objects id).vmas ++ [some a]) :
    Inv ((s.setObject id obj).addToActive a id) := by
  have erased : ∀ b, (s.activeList b).erase id = s.activeList b :=
    fun b => List.erase_of_not_mem (unlisted b)
  have lists : ∀ b, ((s.setObject id obj).addToActive a id).activeList b =
      s.activeList b ++ if b = a then [id] else [] := fun b => congrArg (· ++ _) (erased b)
  have mem : ∀ j b, j ∈ ((s.setObject id obj).addToActive a id).activeList b ↔
      j ∈ s.activeList b ∨ (b = a ∧ j = id) := by
    intro j b
    rw [lists]
    by_cases here : b = a <;> simp [here]
  have self : ((s.setObject id obj).addToActive a id).objects id =
    { obj with inActiveList := true } := by
    change ((s.setObject id obj).setObject id
      { (s.setObject id obj).objects id with inActiveList := true }).objects id = _
    rw [setObject_self, setObject_self]
  have others : ∀ j, j ≠ id → ((s.setObject id obj).addToActive a id).objects j = s.objects j :=
    fun j other =>
    (setObject_of_ne _ other _).trans (setObject_of_ne s other obj)
  constructor
  case nodup =>
    intro b
    rw [lists]
    by_cases here : b = a
    · rw [if_pos here]
      exact (inv.nodup b).append (List.nodup_singleton id) (by simpa using unlisted b)
    · rw [if_neg here, List.append_nil]
      exact inv.nodup b
  case live =>
    intro j b listed
    by_cases same : j = id
    · rw [same, self]
      exact frame.life.trans live
    · rw [others j same]
      exact inv.live j b (((mem j b).mp listed).resolve_right fun both => same both.2)
  case flag =>
    intro j
    by_cases same : j = id
    · rw [same, self]
      exact iff_of_true rfl ⟨a, (mem id a).mpr (.inr ⟨rfl, rfl⟩)⟩
    · rw [others j same, inv.flag j]
      simp only [mem, same, and_false, or_false]
  case last =>
    intro j b listed
    by_cases same : j = id
    · subst same
      have at_a : b = a := (((mem j b).mp listed).resolve_left (unlisted b)).1
      rw [self, at_a]
      exact putIova_aspace_append obj _ _ vmas
    · rw [others j same]
      exact inv.last j b (((mem j b).mp listed).resolve_right fun both => same both.2)
  case listed =>
    intro j b
    rw [mem]
    by_cases same : j = id
    · subst same
      have before := not_or.mp (mt (inv.listed j b).mpr (unlisted b))
      have mapped : ((s.setObject j obj).addToActive a j).Mapped j b ↔ b = a := by
        have old : some b ∉ (s.objects j).vmas := before.1
        simp only [GemState.Mapped, self, vmas, List.mem_append, old, false_or, List.mem_singleton,
          Option.some.injEq]
      rw [mapped]
      change _ ↔ _ ∨ s.pending b j = true
      simp [unlisted b, before.2]
    · simp only [GemState.Mapped, others j same, same, and_false, or_false]
      exact inv.listed j b

/-! ### Operations -/

theorem dropMappings (id : ℕ) :
    (∀ b, (s.dropMappings id).activeList b = (s.activeList b).erase id) ∧
    (s.dropMappings id).objects id = { (s.objects id).putIova with inActiveList := false } ∧
    (∀ j, j ≠ id → (s.dropMappings id).objects j = s.objects j) ∧ (s.dropMappings id).pending =
      s.pending := by
  have self : (s.setObject id (s.objects id).putIova).objects id = (s.objects id).putIova :=
    setObject_self ..
  have others : ∀ j, j ≠ id → (s.setObject id (s.objects id).putIova).objects j = s.objects j :=
    fun j other => setObject_of_ne s other _
  have unlisted : (∀ b, id ∉ s.activeList b) →
      (∀ b, s.activeList b = (s.activeList b).erase id) ∧
        (s.objects id).putIova = { (s.objects id).putIova with inActiveList := false } := by
    intro unlisted
    have flag : (s.objects id).inActiveList = false := by
      by_contra set
      obtain ⟨b, listed⟩ := (inv.flag id).mp (eq_true_of_ne_false set)
      exact unlisted b listed
    refine ⟨fun b => (List.erase_of_not_mem (unlisted b)).symm, ?_⟩
    rw [GemObject.putIova, flag]
  unfold GemState.dropMappings
  dsimp only
  rw [self]
  split
  next no_aspace =>
    have no_list : ∀ b, id ∉ s.activeList b :=
      fun b listed => by simp [inv.last id b listed] at no_aspace
    obtain ⟨lists, flag⟩ := unlisted no_list
    exact ⟨lists, self.trans flag, others, rfl⟩
  next a kept =>
    unfold GemState.removeFromActive
    split
    case isTrue listed =>
      refine ⟨fun b => ?_, ?_, fun j other => (setObject_of_ne _ other _).trans
        (others j other), rfl⟩
      · change Function.update s.activeList a ((s.activeList a).erase id) b = _
        by_cases here : b = a
        · rw [here, Function.update_self]
        · rw [Function.update_of_ne here]
          exact (List.erase_of_not_mem fun there => here (inv.one there listed)).symm
      · rw [self]
        exact setObject_self ..
    case isFalse not_there =>
      have no_list : ∀ b, id ∉ s.activeList b := by
        intro b listed
        have at_a : a = b := Option.some.inj (kept.symm.trans (inv.last id b listed))
        exact not_there (at_a ▸ listed)
      obtain ⟨lists, flag⟩ := unlisted no_list
      exact ⟨lists, self.trans flag, others, rfl⟩

theorem dropped (lists : ∀ b, s'.activeList b = (s.activeList b).erase id)
    (unmapped : (s'.objects id).vmas = []) (flag : (s'.objects id).inActiveList = false)
    (others : ∀ j, j ≠ id → s'.objects j = s.objects j)
    (pending : ∀ a j, s'.pending a j = (s.pending a j && j ≠ id)) : Inv s' := by
  have mem : ∀ j b, j ∈ s'.activeList b ↔ j ≠ id ∧ j ∈ s.activeList b := by
    intro j b
    rw [lists]
    exact (inv.nodup b).mem_erase_iff
  constructor
  case nodup => exact fun b => by rw [lists]; exact (inv.nodup b).erase id
  case live =>
    intro j b listed
    obtain ⟨other, listed⟩ := (mem j b).mp listed
    rw [others j other]
    exact inv.live j b listed
  case flag =>
    intro j
    simp only [mem]
    by_cases same : j = id
    · rw [same, flag]
      simp
    · rw [others j same, inv.flag j]
      simp [same]
  case last =>
    intro j b listed
    obtain ⟨other, listed⟩ := (mem j b).mp listed
    rw [others j other]
    exact inv.last j b listed
  case listed =>
    intro j b
    rw [mem, pending]
    by_cases same : j = id
    · simp [GemState.Mapped, same, unmapped]
    · simp only [GemState.Mapped, others j same, ne_eq, same, not_false_eq_true, true_and,
        decide_true, Bool.and_true]
      exact inv.listed j b

theorem freeObject (id : ℕ) : Inv (s.freeObject id) := by
  obtain ⟨lists, object, others, pending⟩ := inv.dropMappings id
  have self : (s.freeObject id).objects id =
    { (s.dropMappings id).objects id with life := .freed } :=
    setObject_self ..
  rw [object] at self
  refine inv.dropped lists (by rw [self]; rfl) (by rw [self])
    (fun j other => (setObject_of_ne _ other _).trans (others j other)) fun a j => ?_
  exact congrArg (fun pending : ℕ → ℕ → Bool => pending a j && j ≠ id) pending

theorem purge (id : ℕ) : Inv (s.purge id) := by
  obtain ⟨lists, object, others, pending⟩ := inv.dropMappings id
  have self : (s.purge id).objects id =
      { (s.dropMappings id).objects id with pages := false, madv := .purged } := setObject_self ..
  rw [object] at self
  refine inv.dropped lists (by rw [self]; rfl) (by rw [self])
    (fun j other => (setObject_of_ne _ other _).trans (others j other)) fun a j => ?_
  exact congrArg (fun pending : ℕ → ℕ → Bool => pending a j && j ≠ id) pending

theorem getIova (live : (s.objects id).life = .live) {aspace : Option ℕ} {answers : Answers}
    (alone : ∀ a, aspace = some a → (s.objects id).inActiveList = true → id ∉ s.activeList a →
      ¬ ((s.objects id).madv = .willneed ∧ some a ∉ (s.objects id).vmas ∧
        s.domainAttached a = true ∧
        (s.objects id).Mappable (s.device a) answers)) : Inv (s.getIova id aspace answers).1 := by
  unfold GemState.getIova
  dsimp only
  split
  case isTrue => exact inv
  case isFalse willneed =>
    split
    case isTrue there =>
      cases aspace with
      | none => exact inv
      | some a =>
        have flag : (s.objects id).inActiveList = true := (inv.flag id).mpr ⟨a, inv.mapped there⟩
        rw [GemState.activate, if_pos flag]
        exact inv
    case isFalse absent =>
      obtain ⟨frame, vmas⟩ :=
        map_frame (s.objects id) aspace (aspace.bind s.device) (aspace.any s.domainAttached) answers
      have maps := map_none_iff (s.objects id) aspace (aspace.bind s.device)
        (aspace.any s.domainAttached) answers
      generalize (s.objects id).map aspace _ _ answers = result at frame vmas maps
      obtain ⟨obj, outcome⟩ := result
      cases outcome with
      | some ret => exact inv.setObject frame (by simpa using vmas)
      | none =>
        obtain ⟨some_aspace, attached, mappable⟩ := maps.mp rfl
        obtain ⟨a, rfl⟩ := Option.ne_none_iff_exists'.mp some_aspace
        change obj.vmas = (s.objects id).vmas ++ [some a] at vmas
        dsimp only
        have self : ((s.setObject id obj).objects id).inActiveList =
          (s.objects id).inActiveList := by
          rw [setObject_self]
          exact frame.inActiveList
        rw [GemState.activate, self]
        by_cases flag : (s.objects id).inActiveList = true
        · rw [if_pos flag]
          have listed : id ∈ s.activeList a := by
            by_contra unlisted
            exact alone a rfl flag unlisted ⟨not_not.mp willneed, absent, attached, mappable⟩
          exact inv.mapAgain listed frame vmas
        · rw [if_neg flag]
          exact inv.mapFirst (fun b listed => flag ((inv.flag id).mpr ⟨b, listed⟩)) live frame vmas

end

end Inv

/-! ### Loops -/

theorem unmapActive_objects (l : List ℕ) : ∀ (s : GemState) (id : ℕ), (s.unmapActive l).objects id =
    if id ∈ l ∧ (s.objects id).imported = true then (s.objects id).putIova else s.objects id := by
  induction l with
  | nil => exact fun s id => (if_neg fun both => List.not_mem_nil both.1).symm
  | cons head rest ih =>
    intro s id
    rw [GemState.unmapActive, ih]
    by_cases same : id = head
    · subst same
      cases imported : (s.objects id).imported with
      | false => simp [imported]
      | true =>
        simp [setObject_self, GemObject.putIova]
    · have object : (if (s.objects head).imported then s.setObject head (s.objects head).putIova
        else s).objects id =
          s.objects id := by
        split
        · exact setObject_of_ne s same _
        · rfl
      simp [object, same]

theorem unmapActive_rest (l : List ℕ) :
    ∀ s : GemState, (s.unmapActive l).activeList = s.activeList ∧
    (s.unmapActive l).pending = s.pending := by
  induction l with
  | nil => exact fun s => ⟨rfl, rfl⟩
  | cons head rest ih =>
    intro s
    rw [GemState.unmapActive]
    obtain ⟨lists, pending⟩ :=
      ih (if (s.objects head).imported then s.setObject head (s.objects head).putIova else s)
    constructor
    · rw [lists]
      split <;> rfl
    · rw [pending]
      split <;> rfl

theorem detach_objects (s : GemState) (a id : ℕ) : (s.detach a).objects id =
    if id ∈ s.activeList a ∧ (s.objects id).imported = true then (s.objects id).putIova
    else s.objects id :=
  unmapActive_objects (s.activeList a) s id

theorem detach_pending (s : GemState) (a b id : ℕ) :
    (s.detach a).pending b id = (s.pending b id || (b = a && s.Mapped id a)) := rfl

namespace Inv

variable {s : GemState} {id a : ℕ}

theorem detach (inv : Inv s) (a : ℕ) : Inv (s.detach a) := by
  have same : ∀ {α : Type} (field : GemObject → α),
    (∀ obj : GemObject, field obj.putIova = field obj) →
      ∀ id, field ((s.detach a).objects id) = field (s.objects id) := by
    intro α field kept id
    rw [detach_objects]
    split
    · exact kept _
    · rfl
  refine inv.congr (unmapActive_rest (s.activeList a) s).1 (same _ fun _ => rfl)
    (same _ fun _ => rfl)
    (same (fun obj => obj.putIova.aspace) fun _ => rfl) fun id b => ?_
  rw [detach_pending, GemState.Mapped, detach_objects]
  split
  -- an object that is unmapped was mapped in this address space, and nowhere else
  case isTrue put =>
    have before := inv.listed id b
    have only : s.Mapped id b → b = a := fun mapped => inv.one (inv.mapped mapped) put.1
    have here : b = a → (s.Mapped id b ↔ s.Mapped id a) := fun at_a => by rw [at_a]
    simp only [GemObject.putIova, List.not_mem_nil, false_or, Bool.or_eq_true, Bool.and_eq_true,
      decide_eq_true_eq]
    tauto
  case isFalse =>
    have here : b = a → (s.Mapped id b ↔ s.Mapped id a) := fun at_a => by rw [at_a]
    simp only [Bool.or_eq_true, Bool.and_eq_true, decide_eq_true_eq]
    change s.Mapped id b ∨ _ ↔ _
    tauto

end Inv

theorem activate_rest (s : GemState) (id : ℕ) (aspace : Option ℕ) :
    (∀ j, j ≠ id → (s.activate id aspace).objects j = s.objects j) ∧
    ((s.activate id aspace).objects id).vmas = (s.objects id).vmas ∧
    ((s.activate id aspace).objects id).life = (s.objects id).life ∧
    ((s.objects id).inActiveList = true → (s.activate id aspace).activeList = s.activeList) ∧
    (s.activate id aspace).device = s.device ∧ (s.activate id aspace).domainAttached =
    s.domainAttached ∧
    (s.activate id aspace).pending = s.pending := by
  unfold GemState.activate
  split
  · exact ⟨fun _ _ => rfl, rfl, rfl, fun _ => rfl, rfl, rfl, rfl⟩
  next a =>
    split
    case isTrue => exact ⟨fun _ _ => rfl, rfl, rfl, fun _ => rfl, rfl, rfl, rfl⟩
    case isFalse off =>
      refine ⟨fun j other => setObject_of_ne s other _, ?_, ?_, fun on => absurd on off,
        rfl, rfl, rfl⟩
      · change ((s.setObject id { s.objects id with inActiveList := true }).objects id).vmas = _
        rw [setObject_self]
      · change ((s.setObject id { s.objects id with inActiveList := true }).objects id).life = _
        rw [setObject_self]

theorem getIova_rest (s : GemState) (id : ℕ) (aspace : Option ℕ) (answers : Answers) :
    (∀ j, j ≠ id → (s.getIova id aspace answers).1.objects j = s.objects j) ∧
    ((s.getIova id aspace answers).1.objects id).life = (s.objects id).life ∧
    ((s.objects id).inActiveList = true → (s.getIova id aspace answers).1.activeList =
    s.activeList) ∧
    (s.getIova id aspace answers).1.device = s.device ∧
    (s.getIova id aspace answers).1.domainAttached = s.domainAttached ∧
    (s.getIova id aspace answers).1.pending = s.pending := by
  unfold GemState.getIova
  dsimp only
  split
  · exact ⟨fun _ _ => rfl, rfl, fun _ => rfl, rfl, rfl, rfl⟩
  · split
    · obtain ⟨others, -, life, lists, rest⟩ := activate_rest s id aspace
      exact ⟨others, life, lists, rest⟩
    · obtain ⟨frame, -⟩ :=
        map_frame (s.objects id) aspace (aspace.bind s.device) (aspace.any s.domainAttached) answers
      generalize (s.objects id).map aspace _ _ answers = result at frame
      obtain ⟨obj, outcome⟩ := result
      have kept : ∀ j, j ≠ id → (s.setObject id obj).objects j = s.objects j :=
        fun j other => setObject_of_ne s other obj
      cases outcome with
      | some ret =>
        refine ⟨kept, ?_, fun _ => rfl, rfl, rfl, rfl⟩
        dsimp only
        rw [setObject_self]
        exact frame.life
      | none =>
        obtain ⟨others, -, life, lists, rest⟩ := activate_rest (s.setObject id obj) id aspace
        rw [setObject_self] at life lists
        exact ⟨fun j other => (others j other).trans (kept j other), life.trans frame.life,
          fun on => lists (frame.inActiveList.trans on), rest⟩

theorem getIova_mapped {s : GemState} {id a : ℕ} {answers : Answers}
    (willneed : (s.objects id).madv = .willneed)
    (attached : s.domainAttached a = true)
    (mappable : ¬ s.Mapped id a → (s.objects id).Mappable (s.device a) answers) :
    (s.getIova id (some a) answers).2 = 0 ∧ (s.getIova id (some a) answers).1.Mapped id a := by
  unfold GemState.getIova
  simp only [willneed, ne_eq, not_true_eq_false, if_false, Option.bind_some,
    Option.any_some, attached]
  split
  next there =>
    obtain ⟨-, vmas, -⟩ := activate_rest s id (some a)
    refine ⟨rfl, ?_⟩
    rw [GemState.Mapped, vmas]
    exact there
  next absent =>
    obtain ⟨-, vmas⟩ := map_frame (s.objects id) (some a) (s.device a) true answers
    have maps := (map_none_iff (s.objects id) (some a) (s.device a) true answers).mpr
      ⟨by simp, rfl, mappable absent⟩
    generalize (s.objects id).map (some a) _ _ answers = result at vmas maps
    obtain ⟨obj, outcome⟩ := result
    change outcome = none at maps
    subst maps
    obtain ⟨-, same, -⟩ := activate_rest (s.setObject id obj) id (some a)
    change obj.vmas = (s.objects id).vmas ++ [some a] at vmas
    refine ⟨rfl, ?_⟩
    rw [GemState.Mapped, same, setObject_self, vmas]
    simp

namespace Inv

variable {s : GemState} {id a : ℕ}

theorem mapActive (answers : ℕ → Answers) (l : List ℕ) :
    ∀ {s : GemState}, Inv s → l ⊆ s.activeList a →
    Inv (s.mapActive a answers l) ∧ (s.mapActive a answers l).activeList = s.activeList ∧
      (s.mapActive a answers l).pending = s.pending := by
  induction l with
  | nil => exact fun inv _ => ⟨inv, rfl, rfl⟩
  | cons id rest ih =>
    intro s inv listed
    have here := listed List.mem_cons_self
    have flag := (inv.flag id).mpr ⟨a, here⟩
    have next : Inv (s.getIova id (some a) (answers id)).1 := by
      refine inv.getIova (inv.live id a here) fun b at_b _ unlisted => absurd here ?_
      rwa [Option.some.inj at_b]
    obtain ⟨-, -, lists, -, -, pending⟩ := getIova_rest s id (some a) (answers id)
    rw [GemState.mapActive]
    dsimp only
    split
    · exact ⟨next, lists flag, pending⟩
    · obtain ⟨last, lists', pending'⟩ := ih next fun j later => by
        rw [lists flag]
        exact listed (.tail id later)
      exact ⟨last, lists'.trans (lists flag), pending'.trans pending⟩

theorem mapActive_mapped (answers : ℕ → Answers) (l : List ℕ) : ∀ {s : GemState}, l.Nodup →
    s.domainAttached a = true →
    (∀ id ∈ l, (s.objects id).madv = .willneed ∧
      (¬ s.Mapped id a → (s.objects id).Mappable (s.device a) (answers id))) →
    (∀ id ∈ l, (s.mapActive a answers l).Mapped id a) ∧
      ∀ id, id ∉ l → (s.mapActive a answers l).objects id = s.objects id := by
  induction l with
  | nil => exact fun _ _ _ => ⟨fun id listed => absurd listed List.not_mem_nil, fun _ _ => rfl⟩
  | cons id rest ih =>
    intro s once attached fine
    obtain ⟨new, once⟩ := List.nodup_cons.mp once
    obtain ⟨willneed, mappable⟩ := fine id List.mem_cons_self
    obtain ⟨ok, mapped⟩ := getIova_mapped willneed attached mappable
    obtain ⟨others, -, -, device, domains, -⟩ := getIova_rest s id (some a) (answers id)
    have later : ∀ j ∈ rest, (s.getIova id (some a) (answers id)).1.objects j = s.objects j :=
      fun j listed => others j fun same => new (same ▸ listed)
    obtain ⟨mapped', others'⟩ := ih once (by rw [domains]; exact attached) fun j listed => by
      rw [GemState.Mapped, later j listed, device]
      exact fine j (.tail id listed)
    rw [GemState.mapActive]
    simp only [ok, ne_eq, not_true_eq_false, if_false]
    constructor
    · intro j listed
      rcases List.mem_cons.mp listed with rfl | listed
      · rw [GemState.Mapped, others' j new]
        exact mapped
      · exact mapped' j listed
    · intro j unlisted
      rw [List.mem_cons, not_or] at unlisted
      rw [others' j unlisted.2, others j unlisted.1]

theorem known_of_cleared (s : GemState) (a b id : ℕ) :
    (s.Mapped id b ∨ (s.pending b id && !(b = a && s.Mapped id a)) = true) ↔
      (s.Mapped id b ∨ s.pending b id = true) := by
  by_cases here : b = a
  · subst here
    by_cases mapped : s.Mapped id b <;> simp [mapped]
  · simp [here]

theorem attach (inv : Inv s) (a : ℕ) (answers : ℕ → Answers) :
    Inv (s.attach a answers) ∧ (s.attach a answers).activeList = s.activeList := by
  have attached : Inv { s with domainAttached := Function.update s.domainAttached a true } :=
    inv.congr rfl (fun _ => rfl) (fun _ => rfl) (fun _ => rfl) fun _ _ => Iff.rfl
  obtain ⟨last, lists, -⟩ := attached.mapActive answers (s.activeList a) (List.Subset.refl _)
  refine ⟨last.congr rfl (fun _ => rfl) (fun _ => rfl) (fun _ => rfl) fun id b => ?_, lists⟩
  exact known_of_cleared (({ s with domainAttached := Function.update s.domainAttached a true } :
    GemState).aspaceDomainAttachDetachUpdate a false answers) a b id

theorem followed (inv : Inv s) : Followed s := by
  constructor
  case listed => exact fun id a _ => inv.listed id a
  case freed => exact fun id a gone listed => by simp [inv.live id a listed] at gone
  case detached =>
    intro a id imported mapped
    rw [GemState.Mapped, detach_objects] at mapped
    split at mapped
    next => exact absurd mapped List.not_mem_nil
    next kept => exact kept ⟨inv.mapped mapped, imported⟩
  case untouched =>
    intro a b id other
    rw [detach_objects]
    split
    next put =>
      have unmapped : ¬ s.Mapped id b := fun mapped => other (inv.one (inv.mapped mapped) put.1)
      refine Eq.symm (List.filter_eq_nil_iff.mpr fun vma there same => unmapped ?_)
      rwa [of_decide_eq_true same] at there
    next => rfl
  case attached =>
    intro a answers fine id
    obtain ⟨after, lists⟩ := inv.attach a answers
    have listed : id ∈ s.activeList a ↔ (s.objects id).life = .live ∧
      (s.Mapped id a ∨ s.pending a id = true) := by
      rw [← inv.listed]
      exact ⟨fun listed => ⟨inv.live id a listed, listed⟩, And.right⟩
    rw [← listed]
    constructor
    · intro mapped
      rw [← lists]
      exact after.mapped mapped
    · obtain ⟨mapped, -⟩ :=
        mapActive_mapped (s := { s with domainAttached := Function.update s.domainAttached a true })
        answers (s.activeList a) (inv.nodup a) (Function.update_self ..) fine
      exact mapped id

end Inv

/-! ## Runs -/

theorem step_inv {s : GemState} {input : Input} (inv : Inv s) (alone : Alone s input) :
    Inv (step s input) := by
  have unlisted : ∀ {id}, (s.objects id).life = .unborn → ∀ a, id ∉ s.activeList a :=
    fun unborn a listed => by simp [inv.live _ a listed] at unborn
  cases input with
  | gemNew id useVram =>
    rw [step]
    split
    case isTrue unborn =>
      refine inv.fresh (unlisted unborn) (fun a => ?_) rfl
      cases useVram <;> simp [newObject]
    case isFalse => exact inv
  | primeImport id device cached =>
    rw [step]
    split
    case isTrue unborn => exact inv.fresh (unlisted unborn) (fun a => List.not_mem_nil) rfl
    case isFalse => exact inv
  | primeExport id =>
    rw [step]
    split
    · exact inv.setObject ⟨rfl, rfl, rfl, rfl⟩ rfl
    · exact inv
  | madvise id dontneed =>
    rw [step]
    split
    · unfold GemObject.madvise
      split
      · exact inv.setObject ⟨rfl, rfl, rfl, rfl⟩ rfl
      · exact inv.setObject (.refl _) rfl
    · exact inv
  | getIova id aspace answers =>
    rw [step]
    split
    case isTrue live =>
      refine inv.getIova live fun a at_a => ?_
      subst at_a
      exact alone live
    case isFalse => exact inv
  | purge id =>
    rw [step]
    split
    · exact inv.purge id
    · exact inv
  | free id =>
    rw [step]
    split
    · exact inv.freeObject id
    · exact inv
  | detach a => exact inv.detach a
  | attach a answers => exact (inv.attach a answers).1

theorem followed_step_iff {s : GemState} {input : Input} (inv : Inv s) :
    Followed (step s input) ↔ Alone s input := by
  refine ⟨fun followed => ?_, fun alone => (step_inv inv alone).followed⟩
  cases input with
  | getIova id aspace answers =>
    cases aspace with
    | none => trivial
    | some a =>
      rintro live flag unlisted ⟨willneed, -, attached, mappable⟩
      obtain ⟨-, mapped⟩ := getIova_mapped willneed attached fun _ => mappable
      obtain ⟨-, life, lists, -⟩ := getIova_rest s id (some a) answers
      rw [step, if_pos live] at followed
      have listed := (followed.listed id a (life.trans live)).mpr (.inl mapped)
      rw [lists flag] at listed
      exact unlisted listed
  | _ => trivial

def start (device : ℕ → Option ℕ) : GemState := { device }

theorem start_inv (device : ℕ → Option ℕ) : Inv (start device) where
  nodup _ := List.nodup_nil
  live _ _ listed := absurd listed List.not_mem_nil
  flag _ := iff_of_false Bool.false_ne_true fun ⟨_, listed⟩ => List.not_mem_nil listed
  last _ _ listed := absurd listed List.not_mem_nil
  listed _ _ := iff_of_false List.not_mem_nil (not_or.mpr ⟨List.not_mem_nil, Bool.false_ne_true⟩)

/-- In every run the mappings follow the domains exactly when no object is mapped in an address
    space while it is on the active list of another. -/
theorem mappings_follow_iff (device : ℕ → Option ℕ) (inputs : List Input) :
    Throughout step Followed (start device) inputs ↔ StepsMeet step Alone
    (start device) inputs := by
  have exact_step : ∀ s i, True → Inv s → Followed s → (Followed (step s i) ↔ Alone s i) :=
    fun s i _ inv _ => followed_step_iff inv
  refine throughout_iff_stepsMeet_good Inv ?_ exact_step (start_inv device)
    (start_inv device).followed
    (stepsMeet_of_forall (fun _ _ _ => trivial) _)
  exact fun s i _ inv _ followed => step_inv inv ((followed_step_iff inv).mp followed)

def devices (a : ℕ) : Option ℕ := some (if a = 0 then 0 else 1)

/-- A buffer that is mapped in the address spaces `0` and `2`, both of which are attached. -/
def mappedTwice : List Input :=
  [.attach 0 fun _ => {}, .attach 2 fun _ => {}, .primeImport 7 0 false, .getIova 7 (some 0) {},
    .getIova 7 (some 2) {}]

/-- The detach of either address space unmaps the buffer from the wrong ones, and when it is freed
    it stays on the list of the first. -/
theorem mapped_twice :
    ¬ Throughout step Followed (start devices) mappedTwice ∧
    ¬ (run step (start devices) (mappedTwice ++ [.detach 0])).Mapped 7 2 ∧
    (run step (start devices) (mappedTwice ++ [.detach 2])).Mapped 7 2 ∧
    7 ∈ (run step (start devices) (mappedTwice ++ [.free 7])).activeList 0 := by
  refine ⟨fun followed => ?_, by decide, by decide, by decide⟩
  have last := throughout_iff_prefix.mp followed mappedTwice [] (List.append_nil _).symm
  exact absurd ((last.listed 7 2 (by decide)).mpr (.inl (by decide))) (by decide)

end DisplayDrivers.Gem
