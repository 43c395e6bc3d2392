import Mathlib.Data.List.Nodup
import Mathlib.Data.List.Perm.Subperm
import Mathlib.Tactic.Common
import DisplayDrivers.Lease.Master
import DisplayDrivers.Lib.Slots

/-! # The accounts of the lease masters

`Stored` relates the reference counts of the masters to the pointers there are: a device master is
held by the lease driver and by its lessees, a lessee by leases and files.
-/

namespace DisplayDrivers.Lease.Master

open DisplayDrivers.Lib.Refcounted

/-! ## Lists -/

section Lists
variable {α : Type*}

theorem length_filter_fst {xs : List (ℕ × α)} {id : ℕ} {a : α} (once : (xs.map Prod.fst).Nodup)
    (listed : (id, a) ∈ xs) : (xs.filter (·.1 ≠ id)).length + 1 = xs.length := by
  induction xs with
  | nil => exact nomatch listed
  | cons x rest ih =>
    obtain ⟨fresh, once⟩ := List.nodup_cons.mp once
    cases List.mem_cons.mp listed with
    | inl same =>
      subst same
      have kept : rest.filter (·.1 ≠ id) = rest := by
        apply List.filter_eq_self.mpr
        intro y inside
        have other : y.1 ≠ id := fun same =>
          fresh (List.mem_map.mpr ⟨y, inside, same⟩)
        simpa using other
      rw [List.filter_cons_of_neg (by simp), kept, List.length_cons]
    | inr later =>
      have other : x.1 ≠ id := fun same => fresh (same ▸ List.mem_map_of_mem later)
      rw [List.filter_cons_of_pos (by simpa using other), List.length_cons, List.length_cons,
        ih once later]

end Lists

theorem freeId_spec (taken : List ℕ) : freeId taken ∉ taken ∧ freeId taken ≠ 0 := by
  unfold freeId
  cases found : ((List.range (taken.length + 1)).map Nat.succ).find? (· ∉ taken) with
  | some id =>
    have free := List.find?_some found
    obtain ⟨n, _, rfl⟩ := List.mem_map.mp (List.mem_of_find?_eq_some found)
    exact ⟨by simpa using free, Nat.succ_ne_zero n⟩
  | none =>
    -- more candidates than taken ids
    have all : (List.range (taken.length + 1)).map Nat.succ ⊆ taken := by
      intro id listed
      simpa using List.find?_eq_none.mp found id listed
    have once : ((List.range (taken.length + 1)).map Nat.succ).Nodup :=
      List.nodup_range.map fun _ _ => Nat.succ.inj
    have short := (List.subperm_of_subset once all).length_le
    rw [List.length_map, List.length_range] at short
    omega

/-! ## The stores of masters -/

def idr (w : World) (device : ℕ) : List (ℕ × ℕ) :=
  (w.devices.value device).elim [] Device.lesseeIdr

def deviceHeld (w : World) (device : ℕ) : ℕ :=
  (if w.gMaster = some device then 1 else 0) + (idr w device).length

/-- The masters have as many references as there are pointers to them; `held` counts those to
    lessees. -/
structure Stored (w : World) (held : ℕ → ℕ) : Prop where
  lessees : w.lessees.Counted held
  devices : w.devices.Counted (deviceHeld w)
  fresh : ∀ n, w.created ≤ n → w.lessees n = none ∧ w.devices n = none
  ids : ∀ device, ((idr w device).map Prod.fst).Nodup
  idr_iff : ∀ device id lessee, (id, lessee) ∈ idr w device ↔
    ∃ master, w.lessees.value lessee = some master ∧ master.lessor = some device ∧
      master.lesseeId = id

theorem initial_stored (card0 : Bool) : Stored (.initial card0) fun _ => 0 where
  lessees := Store.counted_empty
  devices := Store.counted_empty
  fresh _ _ := ⟨rfl, rfl⟩
  ids _ := List.nodup_nil
  idr_iff _ _ _ := by simp [idr, World.initial, Store.value, Store.empty]

variable {w : World} {held : ℕ → ℕ}

theorem Stored.congr {held' : ℕ → ℕ} (stored : Stored w held) (same : ∀ n, held n = held' n) :
    Stored w held' :=
  { stored with lessees := stored.lessees.congr same }

theorem Stored.put_only (stored : Stored w held) {lessee : ℕ}
    (kept : ∀ master, w.lessees.value lessee = some master → held lessee ≤ 1 →
      master.lessor = none) :
    Stored { w with lessees := w.lessees.put lessee }
      (Function.update held lessee (held lessee - 1)) where
  lessees := stored.lessees.put lessee
  devices := stored.devices
  fresh n above := (stored.fresh n above).imp_left Store.put_eq_none
  ids := stored.ids
  idr_iff device id other := by
    have before := stored.idr_iff device id other
    simp only [idr] at before ⊢
    rw [before, stored.lessees.value_put]
    split
    case isTrue gone =>
      obtain ⟨rfl, last⟩ := gone
      constructor
      · intro listed
        obtain ⟨master, present, lessor, _⟩ := listed
        have none_lessor := kept master present last
        cases none_lessor.symm.trans lessor
      · intro listed
        obtain ⟨_, present, _⟩ := listed
        cases present
    case isFalse => exact Iff.rfl

section Destroy
variable {lessee device : ℕ} {master : Lessee}

theorem Stored.listed (stored : Stored w held) (present : w.lessees.value lessee = some master)
    (lessor : master.lessor = some device) : (master.lesseeId, lessee) ∈ idr w device :=
  (stored.idr_iff _ _ _).mpr ⟨master, present, lessor, rfl⟩

theorem Stored.idr_destroy (stored : Stored w held)
    (listed : (master.lesseeId, lessee) ∈ idr w device)
    (lessees : Store Lessee) (other : ℕ) :
    idr { w with
      lessees
      devices := (w.devices.modify device fun owner =>
        { lesseeIdr := owner.lesseeIdr.filter (·.1 ≠ master.lesseeId) }).put device } other =
      if other = device then (idr w device).filter (·.1 ≠ master.lesseeId) else idr w other := by
  have shorter := length_filter_fst (stored.ids device) listed
  have counted := stored.devices.modify device fun owner : Device =>
    { lesseeIdr := owner.lesseeIdr.filter (·.1 ≠ master.lesseeId) }
  simp only [idr, counted.value_put, Store.value_modify]
  by_cases same : other = device
  · subst same
    rw [if_pos rfl]
    simp only [true_and]
    split
    case isTrue gone =>
      have empty : (idr w other).filter (·.1 ≠ master.lesseeId) = [] := by
        apply List.eq_nil_of_length_eq_zero
        rw [deviceHeld] at gone
        omega
      rw [idr] at empty
      rw [empty]
      rfl
    case isFalse => cases w.devices.value other <;> rfl
  · simp [same]

theorem Stored.mem_destroy_iff (stored : Stored w held)
    (present : w.lessees.value lessee = some master) (lessor : master.lessor = some device)
    {other id sibling : ℕ} :
    ((id, sibling) ∈
        if other = device then (idr w device).filter (·.1 ≠ master.lesseeId) else idr w other) ↔
      sibling ≠ lessee ∧ (id, sibling) ∈ idr w other := by
  -- the lessee has its id in the list of its lessor, and no other
  have own {id other : ℕ} (inside : (id, lessee) ∈ idr w other) :
      other = device ∧ id = master.lesseeId := by
    obtain ⟨it, same, owner, number⟩ := (stored.idr_iff _ _ _).mp inside
    obtain rfl := Option.some.inj (same.symm.trans present)
    exact ⟨Option.some.inj (owner.symm.trans lessor), number.symm⟩
  split
  case isTrue here =>
    subst here
    rw [List.mem_filter, and_comm]
    apply and_congr_left
    intro inside
    have differs : id ≠ master.lesseeId ↔ sibling ≠ lessee := by
      apply not_congr
      constructor
      · intro same
        subst same
        have equal := List.inj_on_of_nodup_map (stored.ids other) inside
          (stored.listed present lessor) rfl
        exact congrArg Prod.snd equal
      · intro same
        subst same
        exact (own inside).2
    simpa using differs
  case isFalse elsewhere =>
    constructor
    · intro inside
      refine ⟨fun same => elsewhere ?_, inside⟩
      subst same
      exact (own inside).1
    · exact And.right

theorem Stored.destroy (stored : Stored w held) (present : w.lessees.value lessee = some master)
    (lessor : master.lessor = some device) (last : held lessee ≤ 1) :
    Stored
      { w with
        lessees := w.lessees.put lessee
        devices := (w.devices.modify device fun owner =>
          { lesseeIdr := owner.lesseeIdr.filter (·.1 ≠ master.lesseeId) }).put device }
      (Function.update held lessee (held lessee - 1)) := by
  have listed := stored.listed present lessor
  have left := stored.idr_destroy listed (w.lessees.put lessee)
  constructor
  · exact stored.lessees.put lessee
  · have counted := stored.devices.modify device fun owner : Device =>
      { lesseeIdr := owner.lesseeIdr.filter (·.1 ≠ master.lesseeId) }
    have shorter := length_filter_fst (stored.ids device) listed
    apply (counted.put device).congr
    intro other
    simp only [deviceHeld, left]
    by_cases same : other = device
    · subst same
      rw [Function.update_self, if_pos rfl]
      omega
    · rw [Function.update_of_ne same, if_neg same]
      rfl
  · intro n above
    exact (stored.fresh n above).imp Store.put_eq_none
      fun absent => Store.put_eq_none (Store.modify_eq_none absent)
  · intro other
    rw [left]
    split
    · exact (stored.ids device).sublist (List.filter_sublist.map Prod.fst)
    · exact stored.ids other
  · intro other id sibling
    rw [left, stored.mem_destroy_iff present lessor, stored.idr_iff]
    simp only [stored.lessees.value_put, last, and_true]
    by_cases own : sibling = lessee
    · simp [own]
    · simp [own]

end Destroy

theorem putLessee_stored (lessee : ℕ) (stored : Stored w held) :
    Stored (putLessee lessee w) (Function.update held lessee (held lessee - 1)) := by
  simp only [putLessee, stored.lessees.lastPut]
  split
  case h_1 absent =>
    apply stored.put_only
    intro master present last
    rw [if_pos last] at absent
    cases absent.symm.trans present
  case h_2 master destroyed =>
    split at destroyed
    case isTrue last =>
      split
      case h_1 free =>
        apply stored.put_only
        intro other present _
        obtain rfl := Option.some.inj (present.symm.trans destroyed)
        exact free
      case h_2 device lessor => exact stored.destroy destroyed lessor last
    case isFalse => cases destroyed

theorem putLessee_frame (lessee : ℕ) (w : World) : ∃ devices,
    putLessee lessee w = { w with lessees := w.lessees.put lessee, devices } := by
  simp only [putLessee]
  split
  · exact ⟨w.devices, rfl⟩
  · split
    · exact ⟨w.devices, rfl⟩
    · exact ⟨_, rfl⟩

theorem getLessee_stored {lessee : ℕ} (alive : 0 < held lessee) (stored : Stored w held) :
    Stored (getLessee lessee w) (Function.update held lessee (held lessee + 1)) where
  lessees := stored.lessees.get alive
  devices := stored.devices
  fresh n above := (stored.fresh n above).imp_left Store.get_eq_none
  ids := stored.ids
  idr_iff device id other := by
    simp only [getLessee, Store.value_get]
    exact stored.idr_iff device id other

theorem Stored.revoke (stored : Stored w held) (revoke : List ℕ → List ℕ) (lessee : ℕ) :
    Stored { w with
      lessees := w.lessees.modify lessee fun master =>
        { master with leases := revoke master.leases } } held where
  lessees := stored.lessees.modify lessee fun master =>
    { master with leases := revoke master.leases }
  devices := stored.devices
  fresh n above := by
    dsimp only
    exact (stored.fresh n above).imp_left Store.modify_eq_none
  ids := stored.ids
  idr_iff device id other := by
    have before := stored.idr_iff device id other
    simp only [idr] at before ⊢
    rw [before, Store.value_modify]
    split
    case isTrue =>
      cases w.lessees.value other with
      | none => simp
      | some master => simp
    case isFalse => exact Iff.rfl

theorem createLessee_stored (stored : Stored w held) :
    Stored (createLessee w) (Function.update held w.created 1) where
  lessees := stored.lessees.create _ _
  devices := stored.devices
  fresh n above := by
    obtain ⟨none_lessee, none_device⟩ := stored.fresh n (Nat.le_of_succ_le above)
    have other : n ≠ w.created := by
      have : w.created + 1 ≤ n := above
      omega
    exact ⟨by simpa [createLessee, Store.create, other] using none_lessee, none_device⟩
  ids := stored.ids
  idr_iff device id other := by
    have before := stored.idr_iff device id other
    simp only [createLessee, idr] at before ⊢
    rw [before, Store.value_create]
    split
    case isTrue new =>
      have absent : w.lessees.value other = none := by
        rw [new, Store.value, (stored.fresh w.created (Nat.le_refl _)).1]
        rfl
      simp [absent]
    case isFalse => exact Iff.rfl

theorem getDevMaster_cases {created : Bool} {device : ℕ} {got : World}
    (gets : getDevMaster created w = some (device, got)) :
    (w.gMaster = some device ∧ got = { w with gRef := w.gRef + 1 }) ∨
      (w.gMaster = none ∧ w.devMaster = none ∧ device = w.created ∧
        got = { w with
          created := w.created + 1
          devices := w.devices.create w.created ⟨[]⟩
          gMaster := some w.created
          devMaster := some (.ours w.created)
          gRef := 1 }) := by
  unfold getDevMaster at gets
  split at gets
  · rename_i own present
    obtain ⟨rfl, rfl⟩ := Prod.mk.inj (Option.some.inj gets)
    exact .inl ⟨present, rfl⟩
  · rename_i absent
    split at gets
    case isTrue => cases gets
    case isFalse free =>
      split at gets
      case isTrue => cases gets
      case isFalse =>
        obtain ⟨rfl, rfl⟩ := Prod.mk.inj (Option.some.inj gets)
        have none : w.devMaster = none := by simpa using free
        exact .inr ⟨absent, none, rfl, rfl⟩

theorem Stored.change_devices {next : World} (stored : Stored w held)
    (lessees : next.lessees = w.lessees) (same : ∀ device, idr next device = idr w device)
    (counted : next.devices.Counted (deviceHeld next))
    (fresh : ∀ n, next.created ≤ n → w.created ≤ n ∧ next.devices n = none) :
    Stored next held where
  lessees := lessees ▸ stored.lessees
  devices := counted
  fresh n above := by
    obtain ⟨before, none_device⟩ := fresh n above
    exact ⟨lessees ▸ (stored.fresh n before).1, none_device⟩
  ids device := same device ▸ stored.ids device
  idr_iff device id lessee := by
    rw [same, lessees]
    exact stored.idr_iff device id lessee

theorem createDevice_stored (stored : Stored w held) (absent : w.gMaster = none)
    (devMaster : Option DevMaster) (gRef : ℕ) :
    Stored
      { w with
        created := w.created + 1
        devices := w.devices.create w.created ⟨[]⟩
        gMaster := some w.created
        devMaster, gRef }
      held := by
  have unused := (stored.fresh w.created (Nat.le_refl _)).2
  have none_idr : idr w w.created = [] := by
    rw [idr, Store.value, unused]
    rfl
  have left (other : ℕ) : (((w.devices.create w.created ⟨[]⟩).value other).elim []
      Device.lesseeIdr) = idr w other := by
    rw [Store.value_create]
    split
    case isTrue same => rw [same, none_idr]; rfl
    case isFalse => rfl
  apply Stored.change_devices stored
  · rfl
  · exact left
  · apply (stored.devices.create w.created ⟨[]⟩).congr
    intro other
    rw [deviceHeld, idr, left]
    by_cases same : other = w.created
    · subst same
      rw [Function.update_self, none_idr]
      simp
    · rw [Function.update_of_ne same]
      simp [deviceHeld, absent, Ne.symm same]
  · intro n above
    have later : w.created + 1 ≤ n := above
    have other : n ≠ w.created := by omega
    have none_device := (stored.fresh n (Nat.le_of_succ_le later)).2
    exact ⟨Nat.le_of_succ_le later, by simpa [Store.create, other] using none_device⟩

theorem getDevMaster_stored {created : Bool} {device : ℕ} {got : World}
    (gets : getDevMaster created w = some (device, got)) (stored : Stored w held) :
    Stored got held := by
  obtain ⟨_, rfl⟩ | ⟨absent, _, _, rfl⟩ := getDevMaster_cases gets
  · exact ⟨stored.lessees, stored.devices, stored.fresh, stored.ids, stored.idr_iff⟩
  · exact createDevice_stored stored absent _ _

section Grant
variable {device lessee : ℕ} {master : Lessee} {objects : List ℕ}

theorem idr_grant {owner : Device} (minor : ℕ) (owns : w.devices.value device = some owner)
    (other : ℕ) : idr (grant minor device lessee objects w) other =
      if other = device then
        idr w device ++ [(freeId ((idr w device).map Prod.fst), lessee)]
      else idr w other := by
  simp only [idr, grant, Store.value_modify, Store.value_get]
  split
  case isTrue same =>
    subst same
    simp [owns]
  case isFalse => rfl

theorem value_grant (minor : ℕ) (present : w.lessees.value lessee = some master) (sibling : ℕ) :
    (grant minor device lessee objects w).lessees.value sibling =
      if sibling = lessee then
        some { lessor := some device, lesseeId := freeId ((idr w device).map Prod.fst)
               leases := objects }
      else w.lessees.value sibling := by
  simp only [grant, Store.value_get, Store.value_modify, idr]
  split
  case isTrue same =>
    rw [same, present]
    rfl
  case isFalse => rfl

theorem Stored.nowhere (stored : Stored w held) (present : w.lessees.value lessee = some master)
    (free : master.lessor = none) (other id : ℕ) : (id, lessee) ∉ idr w other := by
  intro inside
  obtain ⟨it, same, lessor, _⟩ := (stored.idr_iff _ _ _).mp inside
  obtain rfl := Option.some.inj (same.symm.trans present)
  cases free.symm.trans lessor

theorem grant_stored (minor : ℕ) (objects : List ℕ) (stored : Stored w held)
    (current : w.gMaster = some device) (present : w.lessees.value lessee = some master)
    (free : master.lessor = none) :
    Stored (grant minor device lessee objects w)
      (Function.update held lessee (held lessee + 1)) := by
  have alive : 0 < held lessee := by
    by_contra none
    have absent := stored.lessees.value_iff.mpr (Nat.eq_zero_of_not_pos none)
    cases absent.symm.trans present
  have deviceAlive : 0 < deviceHeld w device := by
    rw [deviceHeld, if_pos current]
    omega
  obtain ⟨owner, owns⟩ : ∃ owner, w.devices.value device = some owner := by
    apply Option.ne_none_iff_exists'.mp
    intro none
    have zero := stored.devices.value_iff.mp none
    omega
  have left (other : ℕ) : idr (grant minor device lessee objects w) other = _ :=
    idr_grant minor owns other
  constructor
  · exact (stored.lessees.modify lessee _).get alive
  · have counted : (grant minor device lessee objects w).devices.Counted
        (Function.update (deviceHeld w) device (deviceHeld w device + 1)) :=
      (stored.devices.get deviceAlive).modify device fun master =>
        { lesseeIdr := master.lesseeIdr ++ [(freeId ((idr w device).map Prod.fst), lessee)] }
    apply counted.congr
    intro other
    by_cases same : other = device
    · subst same
      rw [Function.update_self, deviceHeld, deviceHeld, left, if_pos rfl]
      simp only [grant, current, if_true, List.length_append, List.length_singleton]
      omega
    · rw [Function.update_of_ne same, deviceHeld, deviceHeld, left, if_neg same]
      rfl
  · intro n above
    obtain ⟨none_lessee, none_device⟩ := stored.fresh n above
    simp only [grant]
    exact ⟨Store.get_eq_none (Store.modify_eq_none none_lessee),
      Store.modify_eq_none (Store.get_eq_none none_device)⟩
  · intro other
    rw [left]
    split
    · rw [List.map_append]
      exact (stored.ids device).append (List.nodup_singleton _)
        (List.disjoint_singleton.mpr (freeId_spec _).1)
    · exact stored.ids other
  · intro other id sibling
    rw [left, value_grant minor present]
    by_cases own : sibling = lessee
    · subst own
      have nowhere := stored.nowhere present free
      simp only [if_true, Option.some.injEq, exists_eq_left']
      by_cases here : other = device
      · subst here
        rw [if_pos rfl, List.mem_append]
        simp [nowhere, eq_comm]
      · rw [if_neg here]
        simp [nowhere, Ne.symm here]
    · rw [if_neg own, ← stored.idr_iff]
      split
      case isTrue here =>
        subst here
        simp [own]
      case isFalse => exact Iff.rfl

end Grant

theorem putDevMaster_eq {device : ℕ} (current : w.gMaster = some device)
    (dev : w.devMaster = some (.ours device)) :
    putDevMaster w =
      if w.gRef ≤ 1 then
        { w with
          gRef := 0, devMaster := none, gMaster := none, devices := w.devices.put device }
      else { w with gRef := w.gRef - 1 } := by
  simp only [putDevMaster, destroyDevMaster, current, dev, putDevice]
  by_cases last : w.gRef ≤ 1
  · have zero : w.gRef - 1 = 0 := by omega
    rw [if_pos last, if_pos zero, zero]
  · have more : w.gRef - 1 ≠ 0 := by omega
    rw [if_neg last, if_neg more]

theorem putDevMaster_stored {device : ℕ} (current : w.gMaster = some device)
    (dev : w.devMaster = some (.ours device)) (stored : Stored w held) :
    Stored (putDevMaster w) held := by
  rw [putDevMaster_eq current dev]
  split
  case isFalse =>
    exact ⟨stored.lessees, stored.devices, stored.fresh, stored.ids, stored.idr_iff⟩
  case isTrue =>
    have own : deviceHeld w device = 1 + (idr w device).length := by
      rw [deviceHeld, if_pos current]
    have left (other : ℕ) : ((w.devices.put device).value other).elim [] Device.lesseeIdr =
        idr w other := by
      rw [stored.devices.value_put]
      split
      case isTrue gone =>
        obtain ⟨rfl, last⟩ := gone
        exact (List.eq_nil_of_length_eq_zero (by omega)).symm
      case isFalse => rfl
    apply Stored.change_devices stored
    · rfl
    · exact left
    · apply (stored.devices.put device).congr
      intro other
      by_cases same : other = device
      · subst same
        simp only [idr] at left
        simp only [Function.update_self, deviceHeld, idr, left, current]
        simp
      · simp only [idr] at left
        simp only [Function.update_of_ne same, deviceHeld, idr, left, current]
        simp [Ne.symm same]
    · intro n above
      exact ⟨above, Store.put_eq_none (stored.fresh n above).2⟩

end DisplayDrivers.Lease.Master
