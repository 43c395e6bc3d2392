import DisplayDrivers.Lib.Run
import DisplayDrivers.Lib.Refcounted

/-! # The masters of DRM leases (`msm-lease/msm_lease_drv.c`)

The first file that is opened on a lease becomes its master: a lessee of the device master, which
all leases share and which `g_master_ddev_master_ref` counts.
-/

namespace DisplayDrivers.Lease.Master

open DisplayDrivers.Lib.Refcounted

inductive Errno
  | noent
  | busy
  | nomem
  | nospc
  | other (code : ℕ)

/-- A device master: the ids in its `lessee_idr` and whose they are. -/
structure Device where
  lesseeIdr : List (ℕ × ℕ)

structure Lessee where
  lessor : Option ℕ
  lesseeId : ℕ
  leases : List ℕ

inductive DevMaster
  | card0
  | ours (device : ℕ)
deriving DecidableEq

/-- `struct drm_file` of a lease minor. -/
structure LeaseFile where
  number : ℕ
  minor : ℕ
  master : Option ℕ
  isMaster : Bool
  authenticated : Bool
deriving DecidableEq

structure Leases where
  minors : List ℕ
  objectIds : ℕ → List ℕ
  distinct : minors.Nodup

/-- The masters that exist, the globals of the lease driver, `lease->master` by minor, and the
    open files.  Masters are told apart by the order in which they were created. -/
structure World where
  created : ℕ
  devices : Store Device
  lessees : Store Lessee
  devMaster : Option DevMaster
  gMaster : Option ℕ
  gRef : ℕ
  leaseMaster : ℕ → Option ℕ
  files : List LeaseFile

def foreignMaster (card0 : Bool) : Option DevMaster := if card0 then some .card0 else none

def World.initial (card0 : Bool) : World :=
  { created := 0, devices := .empty, lessees := .empty, devMaster := foreignMaster card0
    gMaster := none, gRef := 0, leaseMaster := fun _ => none, files := [] }

/-- What the calls in `msm_lease_open` return. -/
structure Answers where
  registered : Bool
  masterOpen : Option Errno
  deviceCreated : Bool
  objectFails : ℕ → Option Errno
  lesseeCreated : Bool
  lesseeIdFails : Option Errno

/-! ## Masters in DRM -/

def putDevice (device : ℕ) (w : World) : World := { w with devices := w.devices.put device }

/-- `drm_master_put` of a lessee.  The last one gives its id and its lessor back. -/
def putLessee (lessee : ℕ) (w : World) : World :=
  let dropped := { w with lessees := w.lessees.put lessee }
  match w.lessees.lastPut lessee with
  | none => dropped
  | some last =>
    match last.lessor with
    | none => dropped
    | some device =>
      putDevice device { dropped with
        devices := w.devices.modify device fun master =>
          { lesseeIdr := master.lesseeIdr.filter (·.1 ≠ last.lesseeId) } }

def getLessee (lessee : ℕ) (w : World) : World := { w with lessees := w.lessees.get lessee }

/-- `drm_lease_owner` of the master of a file: the lessor of a lessee. -/
def ownerOf (w : World) (file : LeaseFile) : Option ℕ :=
  (file.master.bind w.lessees.value).bind Lessee.lessor

/-- The reference of a file to its master is dropped after `revoke` has taken objects from it. -/
def dropMaster (revoke : List ℕ → List ℕ) (lessee : ℕ) (w : World) : World :=
  putLessee lessee { w with
    lessees :=
      w.lessees.modify lessee fun master => { master with leases := revoke master.leases } }

/-- What the lease driver relies on in `drm_is_current_master` and `drm_master_release`.  The
    master of a lease file is a lessee and so never the one of the device, which a release would
    drop; what is leased to it is revoked if the file is master. -/
structure DrmCore where
  isCurrentMaster : World → LeaseFile → Bool
  masterRelease : LeaseFile → World → World
  current_iff : ∀ w file, isCurrentMaster w file = true ↔
    file.isMaster = true ∧ ∃ device, ownerOf w file = some device ∧ w.devMaster = some
      (.ours device)
  release_plain : ∀ file w, file.isMaster = false →
    masterRelease file w = file.master.elim w fun lessee => putLessee lessee w
  release_master : ∀ file w lessee, file.isMaster = true → file.master = some lessee →
    ∃ revoke, masterRelease file w = dropMaster revoke lessee w

/-- The ids `idr_alloc` hands out: the first free one. -/
def freeId (taken : List ℕ) : ℕ :=
  (((List.range (taken.length + 1)).map Nat.succ).find? (· ∉ taken)).getD 0

def allocObjects (fails : ℕ → Option Errno) : List ℕ → List ℕ → Except Errno (List ℕ)
  | [], taken => .ok taken
  | id :: rest, taken =>
    if id ∈ taken then .error .nospc
    else match fails id with
    | some e => .error e
    | none => allocObjects fails rest (taken ++ [id])

/-! ## The device master -/

def getDevMaster (created : Bool) (w : World) : Option (ℕ × World) :=
  match w.gMaster with
  | some device => some (device, { w with gRef := w.gRef + 1 })
  | none =>
    if w.devMaster.isSome then none
    else if !created then none
    else
      some (w.created, { w with
        created := w.created + 1
        devices := w.devices.create w.created ⟨[]⟩
        gMaster := some w.created
        devMaster := some (.ours w.created)
        gRef := 1 })

def destroyDevMaster (w : World) : World :=
  match w.gMaster with
  | none => w
  | some _ =>
    let cleared := { w with devMaster := none, gMaster := none }
    match w.devMaster with
    | some (.ours device) => putDevice device cleared
    | _ => cleared

def putDevMaster (w : World) : World :=
  let dropped := { w with gRef := w.gRef - 1 }
  if dropped.gRef = 0 then destroyDevMaster dropped else dropped

/-! ## Opening and closing -/

/-- `drm_master_create` for a lessee. -/
def createLessee (w : World) : World :=
  { w with
    created := w.created + 1
    lessees := w.lessees.create w.created { lessor := none, lesseeId := 0, leases := [] } }

def grant (minor device lessee : ℕ) (objects : List ℕ) (w : World) : World :=
  let id := freeId (((w.devices.value device).elim [] Device.lesseeIdr).map Prod.fst)
  { w with
    devices := (w.devices.get device).modify device fun master =>
      { lesseeIdr := master.lesseeIdr ++ [(id, lessee)] }
    lessees := (w.lessees.modify lessee fun _ =>
      { lessor := some device, lesseeId := id, leases := objects }).get lessee
    leaseMaster := Function.update w.leaseMaster minor (some lessee) }

def leaseOpen (leases : Leases) (answers : Answers) (file : LeaseFile) (w : World) :
    World × LeaseFile × Option Errno :=
  if !answers.registered then (w, file, some .noent)
  else match answers.masterOpen with
  | some e => (w, file, some e)
  | none =>
    if file.minor ∉ leases.minors then (w, file, none)
    else match w.leaseMaster file.minor with
    | some lessee => (getLessee lessee w, { file with master := some lessee }, none)
    | none =>
      match getDevMaster answers.deviceCreated w with
      | none => (w, file, some .busy)
      | some (device, got) =>
        match allocObjects answers.objectFails (leases.objectIds file.minor) [] with
        | .error e => (putDevMaster got, file, some e)
        | .ok objects =>
          if !answers.lesseeCreated then (putDevMaster got, file, some .nomem)
          else match answers.lesseeIdFails with
          | some e => (putLessee got.created (putDevMaster (createLessee got)), file, some e)
          | none =>
            (grant file.minor device got.created objects (createLessee got),
              { file with master := some got.created, isMaster := true, authenticated := true },
              none)

/-- `drm_master_put(&lease->master)`. -/
def dropLeaseMaster (minor : ℕ) (w : World) : World :=
  match w.leaseMaster minor with
  | none => w
  | some lessee =>
    putLessee lessee { w with leaseMaster := Function.update w.leaseMaster minor none }

def leasePostclose (drm : DrmCore) (leases : Leases) (file : LeaseFile) (w : World) : World :=
  if file.minor ∉ leases.minors then w
  else
    drm.masterRelease file
      (if drm.isCurrentMaster w file then putDevMaster (dropLeaseMaster file.minor w) else w)

inductive Input
  | openFile (number minor : ℕ) (answers : Answers)
  | closeFile (number : ℕ)

def newFile (number minor : ℕ) : LeaseFile :=
  { number, minor, master := none, isMaster := false, authenticated := false }

def step (drm : DrmCore) (leases : Leases) (w : World) : Input → World
  | .openFile number minor answers =>
    if w.files.any (·.number = number) then w
    else match leaseOpen leases answers (newFile number minor) w with
    | (opened, file, none) => { opened with files := file :: opened.files }
    | (opened, _, some _) => opened
  | .closeFile number =>
    match w.files.find? (·.number = number) with
    | none => w
    | some file =>
      let closed := leasePostclose drm leases file w
      { closed with files := closed.files.erase file }

def DrmCore.revoking : DrmCore where
  isCurrentMaster w file := file.isMaster &&
    (ownerOf w file).elim false fun device => w.devMaster = some (.ours device)
  masterRelease file w := file.master.elim w fun lessee =>
    if file.isMaster then dropMaster (fun _ => []) lessee w else putLessee lessee w
  current_iff w file := by cases ownerOf w file <;> simp
  release_plain file w plain := by simp [plain]
  release_master file w lessee flag points := ⟨fun _ => [], by simp [flag, points]⟩

end DisplayDrivers.Lease.Master
