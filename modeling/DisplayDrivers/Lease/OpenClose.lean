import DisplayDrivers.Lease.CurrentMaster

/-! # Runs of opens and closes on leases

The count of the lease driver and the master of every lease, after any calls of `msm_lease_open`
and `msm_lease_postclose`; and what a failed open leaves behind.
-/

namespace DisplayDrivers.Lease.Master

open DisplayDrivers.Lib.Run

structure History where
  world : World
  creators : List (ℕ × ℕ)

def History.initial (card0 : Bool) : History := ⟨.initial card0, []⟩

def noteCreator (before after : World) (creators : List (ℕ × ℕ)) : Input → List (ℕ × ℕ)
  | .openFile number minor _ =>
    match before.leaseMaster minor, after.leaseMaster minor with
    | none, some lessee => (lessee, number) :: creators
    | _, _ => creators
  | .closeFile _ => creators

def historyStep (drm : DrmCore) (leases : Leases) (h : History) (input : Input) : History :=
  let world := step drm leases h.world input
  { world, creators := noteCreator h.world world h.creators input }

/-- The count is the number of leases with a master; a lease has a master exactly while the file
    that created it is open as current master; the device master exists while the count says so. -/
structure Accounted (drm : DrmCore) (leases : Leases) (card0 : Bool) (h : History) : Prop where
  counted : h.world.gRef = mastered leases h.world
  master_iff : ∀ minor ∈ leases.minors, ∀ lessee, h.world.leaseMaster minor = some lessee ↔
    ∃ file ∈ h.world.files, file.minor = minor ∧ file.master = some lessee ∧
      (lessee, file.number) ∈ h.creators ∧ drm.isCurrentMaster h.world file = true
  exists_iff : (∃ device master, h.world.gMaster = some device ∧
    h.world.devices.value device = some master) ↔ 0 < h.world.gRef
  device : h.world.devMaster =
    h.world.gMaster.elim (foreignMaster card0) fun device => some (.ours device)

/-- An open that fails leaves the file without a master and the masters, their counts and ids and
    the leases as they were; only numbers for new masters are used up. -/
def ErrorsUndone (leases : Leases) (h : History) : Input → Prop
  | .openFile number minor answers =>
    (leaseOpen leases answers (newFile number minor) h.world).2.2 ≠ none →
      Undone (newFile number minor) h.world
        (leaseOpen leases answers (newFile number minor) h.world)
  | .closeFile _ => True

structure Kept (leases : Leases) (card0 : Bool) (h : History) : Prop where
  sound : Sound leases card0 h.world
  created : ∀ file ∈ h.world.files, file.isMaster = true → ∀ lessee, file.master = some lessee →
    (lessee, file.number) ∈ h.creators

variable {drm : DrmCore} {leases : Leases} {card0 : Bool} {h : History}

theorem Kept.accounted (kept : Kept leases card0 h) : Accounted drm leases card0 h where
  counted := kept.sound.count
  master_iff minor known lessee := by
    constructor
    · intro has
      obtain ⟨file, listed, same, flag, points⟩ := kept.sound.creator minor lessee has
      exact ⟨file, listed, same, points, kept.created file listed flag lessee points,
        (kept.sound.current_iff listed).trans flag⟩
    · intro ⟨file, listed, same, points, _, current⟩
      rw [kept.sound.current_iff listed] at current
      obtain ⟨other, its, has⟩ := kept.sound.owner file listed current
      obtain rfl := Option.some.inj (points.symm.trans its)
      exact same ▸ has
  exists_iff := by
    rw [← kept.sound.alive, Option.isSome_iff_exists]
    constructor
    · intro ⟨device, _, current, _⟩
      exact ⟨device, current⟩
    · intro ⟨device, current⟩
      have present : h.world.devices.value device ≠ none := by
        rw [ne_eq, kept.sound.stored.devices.value_iff, deviceHeld, if_pos current]
        omega
      obtain ⟨master, value⟩ := Option.ne_none_iff_exists'.mp present
      exact ⟨device, master, current, value⟩
  device := kept.sound.device

theorem Kept.errors (kept : Kept leases card0 h) (input : Input) : ErrorsUndone leases h input := by
  cases input with
  | closeFile number => trivial
  | openFile number minor answers =>
    intro failed
    cases leaseOpen_cases kept.sound answers (newFile number minor) with
    | inl undone =>
      obtain ⟨_, _, undone⟩ := undone
      exact undone
    | inr succeeds => exact absurd succeeds.1 failed

variable {creators : List (ℕ × ℕ)}

theorem noteCreator_mem {before after : World} (input : Input)
    {entry : ℕ × ℕ} (listed : entry ∈ creators) :
    entry ∈ noteCreator before after creators input := by
  cases input with
  | closeFile number => exact listed
  | openFile number minor answers =>
    simp only [noteCreator]
    split
    · exact .tail _ listed
    · exact listed

theorem opened_created {file opened : LeaseFile} {next : World}
    {answers : Answers} (plain : file.isMaster = false)
    (opens : Opened leases h.world file next opened) (flag : opened.isMaster = true) {lessee : ℕ}
    (points : opened.master = some lessee) :
    (lessee, file.number) ∈
      noteCreator h.world { next with files := opened :: next.files } creators
        (.openFile file.number file.minor answers) := by
  cases opens with
  | stranger => exact nomatch plain.symm.trans flag
  | joined => exact nomatch plain.symm.trans flag
  | granted device got objects known free gets =>
    obtain rfl := Option.some.inj points
    simp [noteCreator, free, grant]

theorem Opened.frame {w next : World} {file opened : LeaseFile} (sound : Sound leases card0 w)
    (opens : Opened leases w file next opened) :
    next.files = w.files ∧ opened.number = file.number := by
  cases opens with
  | stranger => exact ⟨rfl, rfl⟩
  | joined => exact ⟨rfl, rfl⟩
  | granted device got objects known free gets =>
    exact ⟨(getDevMaster_count sound gets).2.2.2.2.2.2, rfl⟩

theorem Sound.use_up (sound : Sound leases card0 h.world) {created : ℕ}
    (later : h.world.created ≤ created) : Sound leases card0 { h.world with created } where
  stored :=
    ⟨sound.stored.lessees, sound.stored.devices,
      fun n above => sound.stored.fresh n (Nat.le_trans later above), sound.stored.ids,
      sound.stored.idr_iff⟩
  numbers := sound.numbers
  count := sound.count
  alive := sound.alive
  device := sound.device
  alone := sound.alone
  strange := sound.strange
  current := sound.current
  creator := sound.creator
  owner := sound.owner
  once := sound.once

theorem kept_of_files {input : Input} (kept : Kept leases card0 h)
    (sound : Sound leases card0 (step drm leases h.world input))
    (files : ∀ file ∈ (step drm leases h.world input).files, file.isMaster = true →
      file ∈ h.world.files ∨ ∀ lessee, file.master = some lessee →
        (lessee, file.number) ∈
          noteCreator h.world (step drm leases h.world input) h.creators input) :
    Kept leases card0 (historyStep drm leases h input) where
  sound := sound
  created file listed flag lessee points := by
    cases files file listed flag with
    | inl old => exact noteCreator_mem input (kept.created file old flag lessee points)
    | inr new => exact new lessee points

theorem open_kept (number minor : ℕ) (answers : Answers) (kept : Kept leases card0 h) :
    Kept leases card0 (historyStep drm leases h (.openFile number minor answers)) := by
  by_cases used : h.world.files.any (·.number = number) = true
  · have same : step drm leases h.world (.openFile number minor answers) = h.world := by
      simp only [step, used, if_true]
    apply kept_of_files kept
    · rw [same]
      exact kept.sound
    · intro file listed _
      rw [same] at listed
      exact .inl listed
  · have fresh : number ∉ h.world.files.map LeaseFile.number := by simpa using used
    cases result : leaseOpen leases answers (newFile number minor) h.world with
    | mk world rest =>
      obtain ⟨opened, rc⟩ := rest
      have outcome := leaseOpen_cases kept.sound answers (newFile number minor)
      rw [result] at outcome
      rcases outcome with ⟨e, failed, _, later, undone⟩ | ⟨succeeds, opens⟩
      · obtain rfl : rc = some e := failed
        have stepped : step drm leases h.world (.openFile number minor answers) = world := by
          simp only [step, used, result]
          rfl
        have undone : world = { h.world with created := world.created } := undone
        apply kept_of_files kept
        · rw [stepped, undone]
          exact kept.sound.use_up later
        · intro file listed _
          rw [stepped, undone] at listed
          exact .inl listed
      · obtain rfl : rc = none := succeeds
        obtain ⟨files, same⟩ := opens.frame kept.sound
        have stepped : step drm leases h.world (.openFile number minor answers) =
            { world with files := opened :: world.files } := by
          simp only [step, used, result]
          rfl
        apply kept_of_files kept
        · rw [stepped]
          exact opened_sound kept.sound fresh rfl rfl opens
        · intro file listed flag
          rw [stepped] at listed ⊢
          cases List.mem_cons.mp listed with
          | inl new =>
            subst new
            rw [same]
            exact .inr fun lessee points => opened_created rfl opens flag points
          | inr old => exact .inl (files ▸ old)

theorem leasePostclose_files {w : World} {file : LeaseFile} (sound : Sound leases card0 w)
    (listed : file ∈ w.files) : (leasePostclose drm leases file w).files = w.files := by
  cases flag : file.isMaster with
  | true =>
    obtain ⟨lessee, points, has⟩ := sound.owner file listed flag
    obtain ⟨⟨_, released⟩, _⟩ := release_master drm sound listed flag points has
    exact released.files
  | false =>
    have kept : drm.isCurrentMaster w file = false := by rw [sound.current_iff listed, flag]
    simp only [leasePostclose, kept, Bool.false_eq_true, if_false, drm.release_plain file w flag]
    split
    · rfl
    · cases file.master with
      | none => rfl
      | some lessee => exact (putLessee_fields _ _).1

theorem close_kept (number : ℕ) (kept : Kept leases card0 h) :
    Kept leases card0 (historyStep drm leases h (.closeFile number)) := by
  cases found : h.world.files.find? (·.number = number) with
  | none =>
    have same : step drm leases h.world (.closeFile number) = h.world := by simp only [step, found]
    apply kept_of_files kept
    · rw [same]
      exact kept.sound
    · intro file listed _
      rw [same] at listed
      exact .inl listed
  | some file =>
    have stepped : step drm leases h.world (.closeFile number) =
        { leasePostclose drm leases file h.world with
          files := (leasePostclose drm leases file h.world).files.erase file } := by
      simp only [step, found]
    apply kept_of_files kept
    · rw [stepped]
      exact close_sound kept.sound (List.mem_of_find?_eq_some found)
    · intro one listed _
      rw [stepped] at listed
      have left := List.mem_of_mem_erase listed
      rw [leasePostclose_files kept.sound (List.mem_of_find?_eq_some found)] at left
      exact .inl left

theorem historyStep_kept (input : Input) (kept : Kept leases card0 h) :
    Kept leases card0 (historyStep drm leases h input) := by
  cases input with
  | openFile number minor answers => exact open_kept number minor answers kept
  | closeFile number => exact close_kept number kept

/-- The accounts hold after every call, and failed opens leave nothing behind. -/
theorem masters_accounted (drm : DrmCore) (leases : Leases) (card0 : Bool) (inputs : List Input) :
    Throughout (historyStep drm leases) (Accounted drm leases card0) (.initial card0) inputs ∧
      StepsMeet (historyStep drm leases) (ErrorsUndone leases) (.initial card0) inputs := by
  have start : Kept leases card0 (.initial card0) :=
    ⟨initial_sound leases card0, fun _ listed => nomatch listed⟩
  have keeps : ∀ h input, Kept leases card0 h → Kept leases card0
    (historyStep drm leases h input) :=
    fun _ input kept => historyStep_kept input kept
  constructor
  · exact throughout_of_invariant (Kept leases card0) keeps (fun _ kept => kept.accounted) start
      inputs
  · exact stepsMeet_of_invariant (Kept leases card0) keeps
      (fun _ input kept => kept.errors input) start inputs

def oneLease : Leases := { minors := [1], objectIds := fun _ => [31, 52], distinct := by simp }

def granting : Answers :=
  { registered := true, masterOpen := none, deviceCreated := true, objectFails := fun _ => none
    lesseeCreated := true, lesseeIdFails := none }

/-- An open that fails, two files of one lease, and both are closed. -/
def openTwice : List Input :=
  [.openFile 10 1 { granting with lesseeIdFails := some .nomem }, .openFile 10 1 granting,
    .openFile 11 1 granting, .closeFile 10, .closeFile 11]

theorem masters_accounted_openTwice :
    Throughout (historyStep .revoking oneLease) (Accounted .revoking oneLease false)
        (.initial false) openTwice ∧
      StepsMeet (historyStep .revoking oneLease) (ErrorsUndone oneLease) (.initial false)
        openTwice :=
  masters_accounted .revoking oneLease false openTwice

end DisplayDrivers.Lease.Master
