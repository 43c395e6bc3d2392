import DisplayDrivers.Lease.Accounting

/-! # Which file of a lease is its master

The file that gave a lease its master stays the current master of the device until it is closed: as
long as a lease has a master the device master is the one of the lease driver.
-/

namespace DisplayDrivers.Lease.Master

open DisplayDrivers.Lib.Refcounted
open DisplayDrivers.Lib.Slots (countP_flip)

def holders (leases : Leases) (w : World) (lessee : ℕ) : ℕ :=
  w.files.countP (fun file => file.master = some lessee) +
    leases.minors.countP fun minor => w.leaseMaster minor = some lessee

def mastered (leases : Leases) (w : World) : ℕ :=
  leases.minors.countP fun minor => (w.leaseMaster minor).isSome

variable {lessee : ℕ}

theorem count_masters {before after : ℕ → Option ℕ} {minors : List ℕ} {minor : ℕ}
    (once : minors.Nodup) (known : minor ∈ minors) (has : before minor = some lessee)
    (gone : after minor = none) (others : ∀ other, other ≠ minor → before other = after other) :
    (∀ any, minors.countP (fun m => before m = some any) =
      minors.countP (fun m => after m = some any) + if some lessee = some any then 1 else 0) ∧
    minors.countP (fun m => (before m).isSome) = minors.countP (fun m => (after m).isSome) + 1 := by
  constructor
  · intro any
    split
    case isTrue same =>
      apply countP_flip once known
      · simpa [has] using same
      · simp [gone]
      · intro other different
        rw [others other different]
    case isFalse different =>
      apply List.countP_congr
      intro m _
      by_cases own : m = minor
      · subst own
        simpa [has, gone] using different
      · rw [others m own]
  · apply countP_flip once known
    · rw [has]
      rfl
    · rw [gone]
      rfl
    · intro other different
      rw [others other different]

structure Sound (leases : Leases) (card0 : Bool) (w : World) : Prop where
  stored : Stored w (holders leases w)
  numbers : (w.files.map LeaseFile.number).Nodup
  count : w.gRef = mastered leases w
  alive : w.gMaster.isSome = true ↔ 0 < w.gRef
  device : w.devMaster = w.gMaster.elim (foreignMaster card0) fun device => some (.ours device)
  alone : w.gMaster.isSome = true → card0 = false
  strange : ∀ minor ∉ leases.minors, w.leaseMaster minor = none ∧
    ∀ file ∈ w.files, file.minor = minor → file.master = none
  current : ∀ minor lessee, w.leaseMaster minor = some lessee →
    ∃ master device, w.lessees.value lessee = some master ∧ master.lessor = some device ∧
      w.gMaster = some device
  creator : ∀ minor lessee, w.leaseMaster minor = some lessee →
    ∃ file ∈ w.files, file.minor = minor ∧ file.isMaster = true ∧ file.master = some lessee
  owner : ∀ file ∈ w.files, file.isMaster = true →
    ∃ lessee, file.master = some lessee ∧ w.leaseMaster file.minor = some lessee
  once : ∀ one ∈ w.files, ∀ other ∈ w.files, one.isMaster = true → other.isMaster = true →
    one.minor = other.minor → one = other

theorem initial_sound (leases : Leases) (card0 : Bool) : Sound leases card0 (.initial card0) where
  stored := (initial_stored card0).congr fun _ => by simp [holders, World.initial]
  numbers := List.nodup_nil
  count := by simp [mastered, World.initial]
  alive := by simp [World.initial]
  device := rfl
  alone none := nomatch none
  strange _ _ := ⟨rfl, fun _ listed => nomatch listed⟩
  current _ _ none := nomatch none
  creator _ _ none := nomatch none
  owner _ listed := nomatch listed
  once _ listed := nomatch listed

variable {drm : DrmCore} {leases : Leases} {card0 : Bool} {w : World} {file : LeaseFile}

theorem Sound.dev (sound : Sound leases card0 w) {minor : ℕ}
    (has : w.leaseMaster minor = some lessee) :
    ∃ device, w.gMaster = some device ∧ w.devMaster = some (.ours device) := by
  obtain ⟨_, device, _, _, current⟩ := sound.current minor lessee has
  exact ⟨device, current, by rw [sound.device, current]; rfl⟩

theorem Sound.minor (sound : Sound leases card0 w) {minor : ℕ}
    (has : w.leaseMaster minor = some lessee) : minor ∈ leases.minors := by
  by_contra strange
  cases ((sound.strange minor strange).1).symm.trans has

theorem Sound.current_iff (sound : Sound leases card0 w) (listed : file ∈ w.files) :
    drm.isCurrentMaster w file = file.isMaster := by
  cases flag : file.isMaster with
  | false =>
    rw [← Bool.not_eq_true, drm.current_iff, flag]
    simp
  | true =>
    obtain ⟨lessee, points, has⟩ := sound.owner file listed flag
    obtain ⟨master, device, present, lessor, current⟩ := sound.current _ _ has
    have dev : w.devMaster = some (.ours device) := by
      rw [sound.device, current]
      rfl
    exact (drm.current_iff w file).mpr
      ⟨flag, device, by simp [ownerOf, points, present, lessor], dev⟩

/-! ## Opening -/

def Undone (file : LeaseFile) (w : World) (result : World × LeaseFile × Option Errno) : Prop :=
  result.2.1 = file ∧ w.created ≤ result.1.created ∧
    result.1 = { w with created := result.1.created }

theorem get_put_undone (sound : Sound leases card0 w) {created : Bool} {device : ℕ} {got : World}
    (gets : getDevMaster created w = some (device, got)) :
    putDevMaster got = { w with created := got.created } := by
  obtain ⟨current, rfl⟩ | ⟨absent, free, rfl, rfl⟩ := getDevMaster_cases gets
  · have positive := sound.alive.mp (by rw [current]; rfl)
    have dev : w.devMaster = some (.ours device) := by
      rw [sound.device, current]
      rfl
    have more : ¬ w.gRef + 1 ≤ 1 := by omega
    have puts : putDevMaster { w with gRef := w.gRef + 1 } = _ := putDevMaster_eq current dev
    rw [puts]
    simp only [if_neg more, Nat.add_sub_cancel]
  · have none : w.gRef = 0 := by
      have zero := sound.alive.not.mp (by simp [absent])
      omega
    have unused := (sound.stored.fresh w.created (Nat.le_refl _)).2
    rw [putDevMaster_eq rfl rfl]
    simp only [Nat.le_refl, if_true, Store.put_create unused, ← absent, ← free, ← none]

theorem create_put_undone (unused : w.lessees lessee = none) (number : lessee = w.created) :
    putLessee lessee (createLessee w) = { w with created := w.created + 1 } := by
  subst number
  have destroyed : (createLessee w).lessees.lastPut w.created =
      some { lessor := none, lesseeId := 0, leases := [] } := by
    simp [createLessee, Store.lastPut, Store.refs, Store.create, Store.value]
  simp only [putLessee, destroyed]
  simp only [createLessee, Store.put_create unused]

theorem putDevMaster_createLessee (w : World) :
    putDevMaster (createLessee w) = createLessee (putDevMaster w) := by
  by_cases last : w.gRef - 1 = 0
  · cases current : w.gMaster with
    | none => simp [putDevMaster, destroyDevMaster, createLessee, last, current]
    | some _ =>
      cases dev : w.devMaster with
      | none => simp [putDevMaster, destroyDevMaster, createLessee, last, current, dev]
      | some master =>
        cases master <;>
          simp [putDevMaster, destroyDevMaster, putDevice, createLessee, last, current, dev]
  · simp [putDevMaster, createLessee, last]

theorem getDevMaster_created {created : Bool} {device : ℕ} {got : World}
    (gets : getDevMaster created w = some (device, got)) :
    w.created ≤ got.created ∧ got.lessees = w.lessees := by
  obtain ⟨_, rfl⟩ | ⟨_, _, _, rfl⟩ := getDevMaster_cases gets
  · exact ⟨Nat.le_refl _, rfl⟩
  · exact ⟨Nat.le_succ _, rfl⟩

inductive Opened (leases : Leases) (w : World) (file : LeaseFile) : World → LeaseFile → Prop
  | stranger (other : file.minor ∉ leases.minors) : Opened leases w file w file
  | joined (lessee : ℕ) (has : w.leaseMaster file.minor = some lessee) :
      Opened leases w file (getLessee lessee w) { file with master := some lessee }
  | granted {created : Bool} (device : ℕ) (got : World) (objects : List ℕ)
      (known : file.minor ∈ leases.minors) (free : w.leaseMaster file.minor = none)
      (gets : getDevMaster created w = some (device, got)) :
      Opened leases w file (grant file.minor device got.created objects (createLessee got))
        { file with master := some got.created, isMaster := true, authenticated := true }

theorem leaseOpen_cases (sound : Sound leases card0 w) (answers : Answers) (file : LeaseFile) :
    (∃ e, (leaseOpen leases answers file w).2.2 = some e ∧
        Undone file w (leaseOpen leases answers file w)) ∨
      ((leaseOpen leases answers file w).2.2 = none ∧
        Opened leases w file (leaseOpen leases answers file w).1
          (leaseOpen leases answers file w).2.1) := by
  unfold leaseOpen
  split
  · exact .inl ⟨.noent, rfl, rfl, Nat.le_refl _, rfl⟩
  · split
    · exact .inl ⟨_, rfl, rfl, Nat.le_refl _, rfl⟩
    · split
      case isTrue other => exact .inr ⟨rfl, .stranger other⟩
      case isFalse known =>
        rw [Decidable.not_not] at known
        split
        · rename_i lessee has
          exact .inr ⟨rfl, .joined lessee has⟩
        · rename_i free
          split
          · exact .inl ⟨.busy, rfl, rfl, Nat.le_refl _, rfl⟩
          · rename_i device got gets
            have undone := get_put_undone sound gets
            have later := (getDevMaster_created gets).1
            split
            · rename_i e _
              exact .inl ⟨e, rfl, rfl, by simpa only [undone] using later, by simp only [undone]⟩
            · rename_i objects _
              split
              · exact .inl ⟨.nomem, rfl, rfl, by simpa only [undone] using later,
                  by simp only [undone]⟩
              · split
                · rename_i e _
                  have unused : w.lessees got.created = none := (sound.stored.fresh _ later).1
                  have dropped : putLessee got.created
                      (createLessee { w with created := got.created }) = _ :=
                    create_put_undone unused rfl
                  have result : putLessee got.created (putDevMaster (createLessee got)) =
                      { w with created := got.created + 1 } := by
                    rw [putDevMaster_createLessee, undone, dropped]
                  have used : w.created ≤ got.created + 1 := Nat.le_succ_of_le later
                  exact .inl ⟨e, rfl, rfl, by simpa only [result] using used,
                    by simp only [result]⟩
                · exact .inr ⟨rfl, .granted device got objects known free gets⟩

/-! ## A new file -/

theorem holders_cons (file : LeaseFile) (lessee : ℕ) :
    holders leases { w with files := file :: w.files } lessee =
      holders leases w lessee + if file.master = some lessee then 1 else 0 := by
  simp only [holders, List.countP_cons, decide_eq_true_eq]
  omega

theorem Stored.with_files {held : ℕ → ℕ} (stored : Stored w held) (files : List LeaseFile) :
    Stored { w with files } held :=
  ⟨stored.lessees, stored.devices, stored.fresh, stored.ids, stored.idr_iff⟩

variable {lessees : Store Lessee}

theorem Sound.add_plain (sound : Sound leases card0 w) (file : LeaseFile)
    (plain : file.isMaster = false) (fresh : file.number ∉ w.files.map LeaseFile.number)
    (strange : file.minor ∉ leases.minors → file.master = none)
    (values : ∀ lessee, lessees.value lessee = w.lessees.value lessee)
    (stored : Stored { w with lessees } fun lessee =>
      holders leases w lessee + if file.master = some lessee then 1 else 0) :
    Sound leases card0 { w with lessees, files := file :: w.files } where
  stored := (stored.with_files (file :: w.files)).congr fun lessee =>
    (holders_cons file lessee).symm
  numbers := List.nodup_cons.mpr ⟨fresh, sound.numbers⟩
  count := sound.count
  alive := sound.alive
  device := sound.device
  alone := sound.alone
  strange minor other := by
    obtain ⟨none, files⟩ := sound.strange minor other
    constructor
    · exact none
    · intro one listed same
      cases List.mem_cons.mp listed with
      | inl new =>
        subst new
        exact strange (same ▸ other)
      | inr old => exact files one old same
  current minor lessee has := by
    simp only [values]
    exact sound.current minor lessee has
  creator minor lessee has := by
    obtain ⟨one, listed, its⟩ := sound.creator minor lessee has
    exact ⟨one, .tail _ listed, its⟩
  owner one listed flag := by
    cases List.mem_cons.mp listed with
    | inl new =>
      subst new
      exact nomatch plain.symm.trans flag
    | inr old => exact sound.owner one old flag
  once one first other second flag flag' same := by
    cases List.mem_cons.mp first with
    | inl new =>
      subst new
      exact nomatch plain.symm.trans flag
    | inr old =>
      cases List.mem_cons.mp second with
      | inl new =>
        subst new
        exact nomatch plain.symm.trans flag'
      | inr old' => exact sound.once one old other old' flag flag' same

section Granted
variable {created : Bool} {device : ℕ} {got : World}

theorem getDevMaster_count (sound : Sound leases card0 w)
    (gets : getDevMaster created w = some (device, got)) :
    got.gRef = w.gRef + 1 ∧ got.gMaster = some device ∧
      got.devMaster = some (.ours device) ∧ card0 = false ∧
      (∀ other, w.gMaster = some other → other = device) ∧
      got.leaseMaster = w.leaseMaster ∧ got.files = w.files := by
  obtain ⟨current, rfl⟩ | ⟨absent, free, rfl, rfl⟩ := getDevMaster_cases gets
  · have alone := sound.alone (by rw [current]; rfl)
    have dev : w.devMaster = some (.ours device) := by
      rw [sound.device, current]
      rfl
    exact ⟨rfl, current, dev, alone, fun other same => Option.some.inj (same.symm.trans current),
      rfl, rfl⟩
  · have none : w.gRef = 0 := by
      have zero := sound.alive.not.mp (by simp [absent])
      omega
    have alone : card0 = false := by
      have device := sound.device
      rw [absent, free] at device
      cases card0 with
      | false => rfl
      | true => cases device
    exact ⟨by rw [none], rfl, rfl, alone, fun other same =>
      (nomatch absent.symm.trans same), rfl, rfl⟩

theorem grant_value (device : ℕ) (objects : List ℕ) (minor : ℕ) (other : lessee ≠ got.created) :
    (grant minor device got.created objects (createLessee got)).lessees.value lessee =
      got.lessees.value lessee := by
  simp [grant, createLessee, Store.value_modify, Store.value_create, other]

theorem grant_value_new (got : World) (device : ℕ) (objects : List ℕ) (minor : ℕ) : ∃ master,
    (grant minor device got.created objects (createLessee got)).lessees.value got.created =
      some master ∧ master.lessor = some device := by
  simp [grant, createLessee, Store.value_modify, Store.value_create]

theorem Sound.minor_ne (sound : Sound leases card0 w) {minor : ℕ}
    (free : w.leaseMaster minor = none)
    {one : LeaseFile} (listed : one ∈ w.files) (flag : one.isMaster = true) :
    one.minor ≠ minor := by
  intro same
  obtain ⟨lessee, _, has⟩ := sound.owner one listed flag
  rw [same, free] at has
  cases has

theorem Sound.lessee_ne (sound : Sound leases card0 w) {unused : ℕ}
    (absent : w.lessees unused = none)
    {minor : ℕ} (has : w.leaseMaster minor = some lessee) : lessee ≠ unused := by
  intro same
  obtain ⟨master, _, present, _⟩ := sound.current minor lessee has
  rw [same, Store.value, absent] at present
  cases present

theorem grant_leaseMaster (sound : Sound leases card0 w) (minor : ℕ) (objects : List ℕ)
    (gets : getDevMaster created w = some (device, got)) :
    (grant minor device got.created objects (createLessee got)).leaseMaster minor =
        some got.created ∧
      ∀ other, other ≠ minor →
        (grant minor device got.created objects (createLessee got)).leaseMaster other =
          w.leaseMaster other := by
  obtain ⟨-, -, -, -, -, leaseMaster, -⟩ := getDevMaster_count sound gets
  constructor
  · exact Function.update_self minor _ _
  · intro other different
    rw [← leaseMaster]
    exact Function.update_of_ne different _ _

theorem granted_stored (objects : List ℕ) (sound : Sound leases card0 w) {opened : LeaseFile}
    (known : file.minor ∈ leases.minors) (free : w.leaseMaster file.minor = none)
    (points : opened.master = some got.created)
    (gets : getDevMaster created w = some (device, got)) :
    Stored
      { grant file.minor device got.created objects (createLessee got) with
        files := opened :: w.files }
      (holders leases
        { grant file.minor device got.created objects (createLessee got) with
          files := opened :: w.files }) := by
  obtain ⟨-, current, -⟩ := getDevMaster_count sound gets
  have unused : w.lessees got.created = none :=
    (sound.stored.fresh _ (getDevMaster_created gets).1).1
  have unheld : holders leases w got.created = 0 := sound.stored.lessees.absent_iff.mp unused
  obtain ⟨own, others⟩ := grant_leaseMaster sound file.minor objects gets
  have pointers := (count_masters leases.distinct known own free others).1
  have fresh := createLessee_stored (getDevMaster_stored gets sound.stored)
  have present : (createLessee got).lessees.value got.created =
      some { lessor := none, lesseeId := 0, leases := [] } := by
    simp [createLessee, Store.value_create]
  have granted := grant_stored file.minor objects fresh current present rfl
  apply (granted.with_files _).congr
  intro lessee
  simp only [holders, List.countP_cons, decide_eq_true_eq, pointers, points]
  by_cases new : lessee = got.created
  · subst new
    rw [holders] at unheld
    simp only [Function.update_self, if_true]
    omega
  · have different : ¬ some got.created = some lessee := fun same =>
      new (Option.some.inj same).symm
    rw [Function.update_of_ne new, Function.update_of_ne new, if_neg different, holders]
    rfl

theorem granted_sound (objects : List ℕ) (sound : Sound leases card0 w)
    (fresh : file.number ∉ w.files.map LeaseFile.number) (known : file.minor ∈ leases.minors)
    (free : w.leaseMaster file.minor = none) (gets : getDevMaster created w = some (device, got)) :
    Sound leases card0
      { grant file.minor device got.created objects (createLessee got) with
        files :=
          { file with master := some got.created, isMaster := true, authenticated := true } ::
            w.files } := by
  obtain ⟨gRef, current, dev, alone, same, leaseMaster, files⟩ := getDevMaster_count sound gets
  obtain ⟨later, lessees⟩ := getDevMaster_created gets
  obtain ⟨own, others⟩ := grant_leaseMaster sound file.minor objects gets
  constructor
  case stored => exact granted_stored objects sound known free rfl gets
  case numbers => exact List.nodup_cons.mpr ⟨fresh, sound.numbers⟩
  case count =>
    have before := sound.count
    rw [mastered] at before
    simp only [mastered, (count_masters leases.distinct known own free others).2, ← before]
    exact gRef
  case alive =>
    have positive : 0 < got.gRef := by omega
    exact iff_of_true (by simp [grant, createLessee, current]) positive
  case device => simp [grant, createLessee, current, dev]
  case alone => exact fun _ => alone
  case strange =>
    intro minor other
    have different : minor ≠ file.minor := fun same => other (same ▸ known)
    obtain ⟨none, files⟩ := sound.strange minor other
    constructor
    · exact (others minor different).trans none
    · intro one listed same
      cases List.mem_cons.mp listed with
      | inl new =>
        subst new
        exact absurd same.symm different
      | inr old => exact files one old same
  case current =>
    intro minor lessee has
    by_cases new : minor = file.minor
    · subst new
      obtain rfl := Option.some.inj (own.symm.trans has)
      obtain ⟨master, present, lessor⟩ := grant_value_new got device objects file.minor
      exact ⟨master, device, present, lessor, current⟩
    · have old : w.leaseMaster minor = some lessee := (others minor new).symm.trans has
      obtain ⟨master, its, present, lessor, was⟩ := sound.current minor lessee old
      obtain rfl := same its was
      -- the other leases point to older lessees
      have older := sound.lessee_ne (sound.stored.fresh _ later).1 old
      have value := grant_value its objects file.minor older
      exact ⟨master, its, value.trans (lessees ▸ present), lessor, current⟩
  case creator =>
    intro minor lessee has
    by_cases new : minor = file.minor
    · subst new
      obtain rfl := Option.some.inj (own.symm.trans has)
      exact ⟨_, List.mem_cons_self, rfl, rfl, rfl⟩
    · obtain ⟨one, listed, its⟩ :=
        sound.creator minor lessee ((others minor new).symm.trans has)
      exact ⟨one, .tail _ listed, its⟩
  case owner =>
    intro one listed flag
    cases List.mem_cons.mp listed with
    | inl new =>
      subst new
      exact ⟨got.created, rfl, own⟩
    | inr old =>
      obtain ⟨lessee, points, has⟩ := sound.owner one old flag
      exact ⟨lessee, points, (others _ (sound.minor_ne free old flag)).trans has⟩
  case once =>
    intro one first other second flag flag' same
    cases List.mem_cons.mp first with
    | inl new =>
      cases List.mem_cons.mp second with
      | inl new' => exact new.trans new'.symm
      | inr old' =>
        subst new
        exact absurd same.symm (sound.minor_ne free old' flag')
    | inr old =>
      cases List.mem_cons.mp second with
      | inl new' =>
        subst new'
        exact absurd same (sound.minor_ne free old flag)
      | inr old' => exact sound.once one old other old' flag flag' same

end Granted

variable {next : World}

theorem opened_sound (sound : Sound leases card0 w) {opened : LeaseFile}
    (fresh : file.number ∉ w.files.map LeaseFile.number) (plain : file.isMaster = false)
    (unset : file.master = none) (opens : Opened leases w file next opened) :
    Sound leases card0 { next with files := opened :: next.files } := by
  cases opens with
  | stranger other =>
    have stored : Stored { w with lessees := w.lessees } fun lessee =>
        holders leases w lessee + if file.master = some lessee then 1 else 0 := by
      apply sound.stored.congr
      intro lessee
      simp [unset]
    exact sound.add_plain file plain fresh (fun _ => unset) (fun _ => rfl) stored
  | joined lessee has =>
    have positive : 0 < holders leases w lessee := by
      have counted : 0 < leases.minors.countP fun m => w.leaseMaster m = some lessee :=
        List.countP_pos_iff.mpr ⟨file.minor, sound.minor has, by simpa using has⟩
      rw [holders]
      omega
    have stored := getLessee_stored positive sound.stored
    apply sound.add_plain { file with master := some lessee } plain fresh
      (fun other => absurd (sound.minor has) other) (fun _ => Store.value_get)
    apply stored.congr
    intro other
    by_cases same : other = lessee
    · subst same
      simp
    · have different : ¬ some lessee = some other := fun equal => same (Option.some.inj equal).symm
      rw [Function.update_of_ne same, if_neg different, Nat.add_zero]
  | granted device got objects known free gets =>
    have files := (getDevMaster_count sound gets).2.2.2.2.2.2
    have granted := granted_sound objects sound fresh known free gets
    have same : (grant file.minor device got.created objects (createLessee got)).files = w.files :=
      files
    rw [same]
    exact granted

/-! ## Closing -/

theorem holders_erase (leases : Leases) (listed : file ∈ w.files) (lessee : ℕ) :
    holders leases w lessee = holders leases { w with files := w.files.erase file } lessee +
      if file.master = some lessee then 1 else 0 := by
  have split := (List.perm_cons_erase listed).countP_eq fun one => one.master = some lessee
  simp only [holders, split, List.countP_cons, decide_eq_true_eq]
  omega

section

variable (sound : Sound leases card0 w)

include sound

theorem Sound.distinct : w.files.Nodup := sound.numbers.of_map

theorem Sound.left {one : LeaseFile} :
    one ∈ w.files.erase file ↔ one ≠ file ∧ one ∈ w.files := sound.distinct.mem_erase_iff

theorem Sound.drop_plain {devices : Store Device} (plain : file.isMaster = false)
    (values : ∀ minor lessee, w.leaseMaster minor = some lessee →
      lessees.value lessee = w.lessees.value lessee)
    (stored : Stored { w with lessees, devices, files := w.files.erase file }
      (holders leases { w with files := w.files.erase file })) :
    Sound leases card0 { w with lessees, devices, files := w.files.erase file } where
  stored := stored
  numbers := sound.numbers.sublist (List.erase_sublist.map LeaseFile.number)
  count := sound.count
  alive := sound.alive
  device := sound.device
  alone := sound.alone
  strange minor other := by
    obtain ⟨none, files⟩ := sound.strange minor other
    exact ⟨none, fun one left => files one (sound.left.mp left).2⟩
  current minor lessee has := by
    simp only [values minor lessee has]
    exact sound.current minor lessee has
  creator minor lessee has := by
    obtain ⟨one, listed, same, flag, points⟩ := sound.creator minor lessee has
    have other : one ≠ file := by
      intro equal
      rw [equal] at flag
      exact nomatch plain.symm.trans flag
    exact ⟨one, sound.left.mpr ⟨other, listed⟩, same, flag, points⟩
  owner one left := sound.owner one (sound.left.mp left).2
  once one first other second :=
    sound.once one (sound.left.mp first).2 other (sound.left.mp second).2

theorem kept_value (listed : file ∈ w.files) {minor : ℕ}
    (points : file.master = some lessee) {other : ℕ} (has : w.leaseMaster minor = some other) :
    (w.lessees.put lessee).value other = w.lessees.value other := by
  rw [sound.stored.lessees.value_put]
  split
  case isTrue gone =>
    obtain ⟨rfl, last⟩ := gone
    have leased : 0 < leases.minors.countP fun m => w.leaseMaster m = some other :=
      List.countP_pos_iff.mpr ⟨minor, sound.minor has, by simpa using has⟩
    have filed : 0 < w.files.countP fun one => one.master = some other :=
      List.countP_pos_iff.mpr ⟨file, listed, by simpa using points⟩
    rw [holders] at last
    omega
  case isFalse => rfl

theorem close_plain_sound (listed : file ∈ w.files) (plain : file.isMaster = false) :
    Sound leases card0
      { leasePostclose drm leases file w with
        files := (leasePostclose drm leases file w).files.erase file } := by
  have erased (lessee : ℕ) := holders_erase leases listed lessee
  have unheld (unset : file.master = none) :
      Sound leases card0 { w with files := w.files.erase file } := by
    apply sound.drop_plain plain
    · intro _ _ _
      rfl
    · apply (sound.stored.with_files _).congr
      intro lessee
      simp [erased lessee, unset]
  unfold leasePostclose
  split
  case isTrue other => exact unheld ((sound.strange _ other).2 file listed rfl)
  case isFalse =>
    have kept : drm.isCurrentMaster w file = false := by rw [sound.current_iff listed, plain]
    simp only [kept, Bool.false_eq_true, if_false, drm.release_plain file w plain]
    cases points : file.master with
    | none => exact unheld points
    | some lessee =>
      obtain ⟨devices, frame⟩ := putLessee_frame lessee w
      have stored := putLessee_stored lessee sound.stored
      simp only [Option.elim_some, frame] at stored ⊢
      apply sound.drop_plain plain
      · intro minor other has
        exact kept_value sound listed points has
      · apply (stored.with_files _).congr
        intro other
        by_cases same : other = lessee
        · subst same
          rw [Function.update_self, erased, if_pos points]
          omega
        · have different : ¬ file.master = some other := by
            rw [points]
            exact fun equal => same (Option.some.inj equal).symm
          rw [Function.update_of_ne same, erased, if_neg different]
          omega

end

structure Released (w : World) (minor lessee : ℕ) (revoke : List ℕ → List ℕ) (next : World) :
    Prop where
  files : next.files = w.files
  leaseMaster : next.leaseMaster = Function.update w.leaseMaster minor none
  gRef : next.gRef = w.gRef - 1
  gMaster : next.gMaster = if w.gRef ≤ 1 then none else w.gMaster
  devMaster : next.devMaster = if w.gRef ≤ 1 then none else w.devMaster
  lessees : next.lessees = ((w.lessees.put lessee).modify lessee fun master =>
    { master with leases := revoke master.leases }).put lessee

theorem putLessee_fields (lessee : ℕ) (w : World) :
    (putLessee lessee w).files = w.files ∧ (putLessee lessee w).leaseMaster = w.leaseMaster ∧
      (putLessee lessee w).gRef = w.gRef ∧ (putLessee lessee w).gMaster = w.gMaster ∧
      (putLessee lessee w).devMaster = w.devMaster ∧
      (putLessee lessee w).lessees = w.lessees.put lessee := by
  obtain ⟨devices, frame⟩ := putLessee_frame lessee w
  rw [frame]
  exact ⟨rfl, rfl, rfl, rfl, rfl, rfl⟩

theorem putDevMaster_fields {device : ℕ} (current : w.gMaster = some device)
    (dev : w.devMaster = some (.ours device)) :
    (putDevMaster w).files = w.files ∧ (putDevMaster w).leaseMaster = w.leaseMaster ∧
      (putDevMaster w).gRef = w.gRef - 1 ∧
      (putDevMaster w).gMaster = (if w.gRef ≤ 1 then none else w.gMaster) ∧
      (putDevMaster w).devMaster = (if w.gRef ≤ 1 then none else w.devMaster) ∧
      (putDevMaster w).lessees = w.lessees := by
  rw [putDevMaster_eq current dev]
  by_cases last : w.gRef ≤ 1
  · have zero : 0 = w.gRef - 1 := by omega
    simp only [last, if_true, zero, and_self]
  · simp only [last, if_false, and_self]

theorem release_master (drm : DrmCore) (sound : Sound leases card0 w) (listed : file ∈ w.files)
    (flag : file.isMaster = true) (points : file.master = some lessee)
    (has : w.leaseMaster file.minor = some lessee) :
    (∃ revoke, Released w file.minor lessee revoke (leasePostclose drm leases file w)) ∧
      Stored (leasePostclose drm leases file w)
        (Function.update (holders leases w) lessee (holders leases w lessee - 2)) := by
  have known : ¬ file.minor ∉ leases.minors := fun strange => strange (sound.minor has)
  have closes : drm.isCurrentMaster w file = true := by rw [sound.current_iff listed, flag]
  obtain ⟨revoke, released⟩ := drm.release_master file
    (putDevMaster (putLessee lessee
      { w with leaseMaster := Function.update w.leaseMaster file.minor none })) lessee flag points
  simp only [leasePostclose, if_neg known, if_pos closes, dropLeaseMaster, has, released,
    dropMaster]
  obtain ⟨device, current, dev⟩ := sound.dev has
  have stored : Stored { w with leaseMaster := Function.update w.leaseMaster file.minor none }
      (holders leases w) :=
    ⟨sound.stored.lessees, sound.stored.devices, sound.stored.fresh, sound.stored.ids,
      sound.stored.idr_iff⟩
  obtain ⟨files₁, lease₁, gRef₁, gMaster₁, devMaster₁, lessees₁⟩ := putLessee_fields lessee
    { w with leaseMaster := Function.update w.leaseMaster file.minor none }
  have stored₁ := putLessee_stored lessee stored
  obtain ⟨files₂, lease₂, gRef₂, gMaster₂, devMaster₂, lessees₂⟩ :=
    putDevMaster_fields (gMaster₁.trans current) (devMaster₁.trans dev)
  have stored₂ := putDevMaster_stored (gMaster₁.trans current) (devMaster₁.trans dev) stored₁
  obtain ⟨files₃, lease₃, gRef₃, gMaster₃, devMaster₃, lessees₃⟩ := putLessee_fields lessee
    { putDevMaster (putLessee lessee
        { w with leaseMaster := Function.update w.leaseMaster file.minor none }) with
      lessees := (putDevMaster (putLessee lessee
        { w with leaseMaster := Function.update w.leaseMaster file.minor none })).lessees.modify
          lessee fun master => { master with leases := revoke master.leases } }
  have stored₃ := putLessee_stored lessee (stored₂.revoke revoke lessee)
  constructor
  · refine ⟨revoke, ?_⟩
    constructor
    · rw [files₃, files₂, files₁]
    · rw [lease₃, lease₂, lease₁]
    · rw [gRef₃, gRef₂, gRef₁]
    · rw [gMaster₃, gMaster₂, gRef₁, gMaster₁]
    · rw [devMaster₃, devMaster₂, gRef₁, devMaster₁]
    · rw [lessees₃, lessees₂, lessees₁]
  · apply stored₃.congr
    intro other
    by_cases same : other = lessee
    · subst same
      simp only [Function.update_self]
      omega
    · simp only [Function.update_of_ne same]

theorem Sound.count_closed (sound : Sound leases card0 w) {minor : ℕ}
    (has : w.leaseMaster minor = some lessee) :
    (∀ any, leases.minors.countP (fun m => w.leaseMaster m = some any) =
      leases.minors.countP (fun m => Function.update w.leaseMaster minor none m = some any) +
        if some lessee = some any then 1 else 0) ∧
    w.gRef = leases.minors.countP
    (fun m => (Function.update w.leaseMaster minor none m).isSome) + 1 := by
  have others (other : ℕ) (different : other ≠ minor) :
      w.leaseMaster other = Function.update w.leaseMaster minor none other := by
    rw [Function.update_of_ne different]
  obtain ⟨pointers, counted⟩ := count_masters leases.distinct (sound.minor has) has
    (Function.update_self minor none w.leaseMaster) others
  exact ⟨pointers, sound.count.trans counted⟩

variable {revoke : List ℕ → List ℕ}

section

variable (sound : Sound leases card0 w)

include sound

theorem Released.lessor (listed : file ∈ w.files)
    (points : file.master = some lessee) (has : w.leaseMaster file.minor = some lessee)
        (released : Released w file.minor lessee revoke next) {minor other : ℕ}
    (different : minor ≠ file.minor) (leased : w.leaseMaster minor = some other) {master : Lessee}
    (present : w.lessees.value other = some master) :
    ∃ left, next.lessees.value other = some left ∧ left.lessor = master.lessor := by
  have counted := (sound.stored.lessees.put lessee).modify lessee fun master =>
    { master with leases := revoke master.leases }
  rw [released.lessees, counted.value_put, Function.update_self, Store.value_modify,
    sound.stored.lessees.value_put]
  by_cases same : other = lessee
  · subst same
    have shared := (sound.count_closed has).1 other
    have second : 0 < leases.minors.countP fun m =>
        Function.update w.leaseMaster file.minor none m = some other :=
      List.countP_pos_iff.mpr ⟨minor, sound.minor leased, by
        simpa [Function.update_of_ne different] using leased⟩
    have filed : 0 < w.files.countP fun one => one.master = some other :=
      List.countP_pos_iff.mpr ⟨file, listed, by simpa using points⟩
    have three : 3 ≤ holders leases w other := by
      rw [holders, shared, if_pos rfl]
      omega
    have one : ¬ holders leases w other - 1 ≤ 1 := by omega
    have two : ¬ holders leases w other ≤ 1 := by omega
    exact ⟨{ master with leases := revoke master.leases }, by simp [one, two, present], rfl⟩
  · exact ⟨master, by simp [same, present], rfl⟩

theorem Sound.remains {minor other left : ℕ} (has : w.leaseMaster minor = some lessee)
    (still : Function.update w.leaseMaster minor none other = some left) :
    other ≠ minor ∧ w.leaseMaster other = some left ∧ ¬ w.gRef ≤ 1 := by
  have different : other ≠ minor := by
    intro same
    subst same
    rw [Function.update_self] at still
    cases still
  have old : w.leaseMaster other = some left := by
    rwa [Function.update_of_ne different] at still
  have positive : 0 < leases.minors.countP fun m =>
      (Function.update w.leaseMaster minor none m).isSome :=
    List.countP_pos_iff.mpr ⟨other, sound.minor old, by rw [still]; rfl⟩
  have total := (sound.count_closed has).2
  exact ⟨different, old, by omega⟩

theorem Released.holders_erase (listed : file ∈ w.files)
    (points : file.master = some lessee) (has : w.leaseMaster file.minor = some lessee)
        (released : Released w file.minor lessee revoke next) (other : ℕ) :
    Function.update (holders leases w) lessee (holders leases w lessee - 2) other =
      holders leases { next with files := w.files.erase file } other := by
  have erased := Master.holders_erase leases listed other
  have shared := (sound.count_closed has).1 other
  simp only [holders, released.leaseMaster] at erased shared ⊢
  rw [points] at erased
  by_cases same : other = lessee
  · subst same
    rw [Function.update_self]
    simp only [if_true] at erased shared
    omega
  · have apart : ¬ some lessee = some other := fun equal => same (Option.some.inj equal).symm
    rw [Function.update_of_ne same]
    simp only [if_neg apart] at erased shared
    rw [holders]
    omega

theorem close_master_sound (listed : file ∈ w.files) (flag : file.isMaster = true) :
    Sound leases card0
      { leasePostclose drm leases file w with
        files := (leasePostclose drm leases file w).files.erase file } := by
  obtain ⟨lessee, points, has⟩ := sound.owner file listed flag
  obtain ⟨⟨revoke, released⟩, stored⟩ := release_master drm sound listed flag points has
  obtain ⟨device, current, dev⟩ := sound.dev has
  have total := (sound.count_closed has).2
  have alone := sound.alone (by rw [current]; rfl)
  have others (minor : ℕ) (other : minor ≠ file.minor) :
      Function.update w.leaseMaster file.minor none minor = w.leaseMaster minor :=
    Function.update_of_ne other _ _
  rw [released.files]
  constructor
  case stored =>
    exact (stored.with_files _).congr (released.holders_erase sound listed points has)
  case numbers => exact sound.numbers.sublist (List.erase_sublist.map LeaseFile.number)
  case count =>
    simp only [mastered, released.gRef, released.leaseMaster]
    omega
  case alive =>
    simp only [released.gRef, released.gMaster]
    by_cases last : w.gRef ≤ 1
    · rw [if_pos last]
      exact iff_of_false (by simp) (by omega)
    · rw [if_neg last, current]
      exact iff_of_true rfl (by omega)
  case device =>
    simp only [released.gMaster, released.devMaster]
    by_cases last : w.gRef ≤ 1
    · rw [if_pos last, if_pos last, alone]
      rfl
    · rw [if_neg last, if_neg last, current, dev]
      rfl
  case alone => exact fun _ => alone
  case strange =>
    intro minor other
    obtain ⟨none, files⟩ := sound.strange minor other
    have different : minor ≠ file.minor := fun same => other (same ▸ sound.minor has)
    simp only [released.leaseMaster]
    exact ⟨(others minor different).trans none, fun one left => files one (sound.left.mp left).2⟩
  case current =>
    intro minor other still
    simp only [released.leaseMaster] at still
    obtain ⟨different, old, more⟩ := sound.remains has still
    obtain ⟨master, its, present, lessor, was⟩ := sound.current minor other old
    obtain ⟨left, there, same⟩ := released.lessor sound listed points has different old present
    exact ⟨left, its, there, same.trans lessor, by
      simp only [released.gMaster, if_neg more, was]⟩
  case creator =>
    intro minor other still
    simp only [released.leaseMaster] at still
    obtain ⟨different, old, _⟩ := sound.remains has still
    obtain ⟨one, listed, same, flag, points⟩ := sound.creator minor other old
    have apart : one ≠ file := fun equal =>
      different (same.symm.trans (congrArg LeaseFile.minor equal))
    exact ⟨one, sound.left.mpr ⟨apart, listed⟩, same, flag, points⟩
  case owner =>
    intro one left flag'
    obtain ⟨apart, inside⟩ := sound.left.mp left
    obtain ⟨other, points, old⟩ := sound.owner one inside flag'
    have different : one.minor ≠ file.minor := fun same =>
      apart (sound.once one inside file listed flag' flag same)
    simp only [released.leaseMaster]
    exact ⟨other, points, (others one.minor different).trans old⟩
  case once =>
    intro one first other second
    exact sound.once one (sound.left.mp first).2 other (sound.left.mp second).2

theorem close_sound (listed : file ∈ w.files) : Sound leases card0
      { leasePostclose drm leases file w with
        files := (leasePostclose drm leases file w).files.erase file } := by
  cases flag : file.isMaster with
  | false => exact close_plain_sound sound listed flag
  | true => exact close_master_sound sound listed flag

end

end DisplayDrivers.Lease.Master
