import DisplayDrivers.ColorProc.Properties

/-! # Colour processing features are kept

A node is in one place at a time, and what an operation does to the lists is a step from place to
place (`At`, `Shown`), which holds in every run.
-/

namespace DisplayDrivers.ColorProc

open DisplayDrivers.Lib.Run

/-! ## Where a node is -/

inductive Place
  | off
  | active
  | dirty
  | activeDetached
  | dirtyDetached
deriving DecidableEq

def Place.delActive : Place → Place
  | active | activeDetached => off
  | place => place

def Place.delDirty : Place → Place
  | dirty | dirtyDetached => off
  | place => place

def Place.clear : Place → Place
  | active => activeDetached
  | dirty => dirtyDetached
  | place => place

structure At (s : CpCrtc) (id : ℕ) (place : Place) : Prop where
  activeList : ∀ ad, (s.activeList ad).count id =
    if place = .active ∧ (s.node id).feature.isAd = ad then 1 else 0
  dirtyList : ∀ ad, (s.dirtyList ad).count id =
    if place = .dirty ∧ (s.node id).feature.isAd = ad then 1 else 0
  activeDetached : s.activeDetached.count id = if place = .activeDetached then 1 else 0
  dirtyDetached : s.dirtyDetached.count id = if place = .dirtyDetached then 1 else 0

def Shown (s : CpCrtc) (place : ℕ → Place) : Prop := ∀ id, At s id (place id)

namespace At

variable {s : CpCrtc} {place : Place} {id j : ℕ}

theorem delActive (here : At s id place) : At (s.delActive id) id place.delActive where
  activeList ad := by
    change ((s.activeList ad).erase id).count id = if _ ∧ (s.node id).feature.isAd =
      ad then 1 else 0
    rw [List.count_erase_self, here.activeList]
    cases place <;> simp [Place.delActive]
    split <;> rfl
  dirtyList ad := by
    refine (here.dirtyList ad).trans ?_
    cases place <;> simp [Place.delActive, CpCrtc.delActive]
  activeDetached := by
    change (s.activeDetached.erase id).count id = _
    rw [List.count_erase_self, here.activeDetached]
    cases place <;> simp [Place.delActive]
  dirtyDetached := by
    refine here.dirtyDetached.trans ?_
    cases place <;> simp [Place.delActive]

theorem delDirty (here : At s id place) : At (s.delDirty id) id place.delDirty where
  activeList ad := by
    refine (here.activeList ad).trans ?_
    cases place <;> simp [Place.delDirty, CpCrtc.delDirty]
  dirtyList ad := by
    change ((s.dirtyList ad).erase id).count id = if _ ∧ (s.node id).feature.isAd = ad then 1 else 0
    rw [List.count_erase_self, here.dirtyList]
    cases place <;> simp [Place.delDirty]
    split <;> rfl
  activeDetached := by
    refine here.activeDetached.trans ?_
    cases place <;> simp [Place.delDirty]
  dirtyDetached := by
    change (s.dirtyDetached.erase id).count id = _
    rw [List.count_erase_self, here.dirtyDetached]
    cases place <;> simp [Place.delDirty]

theorem delActive_other (here : At s j place) (other : j ≠ id) : At (s.delActive id) j place where
  activeList ad := (List.count_erase_of_ne other).trans (here.activeList ad)
  dirtyList := here.dirtyList
  activeDetached := (List.count_erase_of_ne other).trans here.activeDetached
  dirtyDetached := here.dirtyDetached

theorem delDirty_other (here : At s j place) (other : j ≠ id) : At (s.delDirty id) j place where
  activeList := here.activeList
  dirtyList ad := (List.count_erase_of_ne other).trans (here.dirtyList ad)
  activeDetached := here.activeDetached
  dirtyDetached := (List.count_erase_of_ne other).trans here.dirtyDetached

theorem count_added (lists : Bool → List ℕ) (kind ad : Bool) (id j : ℕ) :
    (Function.update lists kind (lists kind ++ [id]) ad).count j =
      (lists ad).count j + if j = id ∧ kind = ad then 1 else 0 := by
  by_cases here : ad = kind
  · subst here
    rw [Function.update_self, List.count_append, List.count_singleton]
    by_cases same : j = id
    · simp [same]
    · simp [same, Ne.symm same]
  · rw [Function.update_of_ne here, if_neg fun both => here both.2.symm, Nat.add_zero]

theorem updateList_other (here : At s j place) (other : j ≠ id) (dirtyList : Bool) :
    At (s.updateList id dirtyList) j place := by
  cases dirtyList with
  | true =>
    refine ⟨here.activeList, fun ad => ?_, here.activeDetached, here.dirtyDetached⟩
    refine (count_added s.dirtyList _ ad id j).trans ?_
    rw [if_neg fun both => other both.1]
    exact here.dirtyList ad
  | false =>
    refine ⟨fun ad => ?_, here.dirtyList, here.activeDetached, here.dirtyDetached⟩
    refine (count_added s.activeList _ ad id j).trans ?_
    rw [if_neg fun both => other both.1]
    exact here.activeList ad

theorem updateList (here : At s id .off) (dirtyList : Bool) :
    At (s.updateList id dirtyList) id (if dirtyList then .dirty else .active) := by
  have active := here.activeList
  have dirty := here.dirtyList
  cases dirtyList with
  | true =>
    refine ⟨fun ad => ?_, fun ad => ?_, here.activeDetached, here.dirtyDetached⟩
    · exact (active ad).trans (by simp)
    · exact (count_added s.dirtyList _ ad id id).trans (by simp [dirty, CpCrtc.updateList])
  | false =>
    refine ⟨fun ad => ?_, fun ad => ?_, here.activeDetached, here.dirtyDetached⟩
    · exact (count_added s.activeList _ ad id id).trans (by simp [active, CpCrtc.updateList])
    · exact (dirty ad).trans (by simp)

theorem clear (here : At s id place) : At s.clear id place.clear where
  activeList ad := by cases place <;> simp [Place.clear, CpCrtc.clear]
  dirtyList ad := by cases place <;> simp [Place.clear, CpCrtc.clear]
  activeDetached := by
    simp only [CpCrtc.clear, List.count_append, here.activeDetached, here.activeList]
    cases place <;> cases (s.node id).feature.isAd <;> simp [Place.clear]
  dirtyDetached := by
    simp only [CpCrtc.clear, List.count_append, here.dirtyDetached, here.dirtyList]
    cases place <;> cases (s.node id).feature.isAd <;> simp [Place.clear]

end At

namespace Shown

variable {s s' : CpCrtc} {place : ℕ → Place} {id : ℕ}

theorem update {p : Place} (here : At s' id p) (others : ∀ j, j ≠ id → At s' j (place j)) :
    Shown s' (Function.update place id p) := by
  intro j
  by_cases same : j = id
  · rw [same, Function.update_self]
    exact here
  · rw [Function.update_of_ne same]
    exact others j same

section

variable (shown : Shown s place)

include shown

theorem congr (active : s'.activeList = s.activeList) (dirty : s'.dirtyList = s.dirtyList)
    (activeDetached : s'.activeDetached = s.activeDetached)
    (dirtyDetached : s'.dirtyDetached = s.dirtyDetached)
    (features : ∀ id, (s'.node id).feature = (s.node id).feature) : Shown s' place := by
  intro id
  constructor
  case activeList => intro ad; rw [active, features]; exact (shown id).activeList ad
  case dirtyList => intro ad; rw [dirty, features]; exact (shown id).dirtyList ad
  case activeDetached => rw [activeDetached]; exact (shown id).activeDetached
  case dirtyDetached => rw [dirtyDetached]; exact (shown id).dirtyDetached

theorem delActive (id : ℕ) :
    Shown (s.delActive id) (Function.update place id (place id).delActive) :=
  update (shown id).delActive fun j other => (shown j).delActive_other other

theorem delDirty (id : ℕ) : Shown (s.delDirty id) (Function.update place id (place id).delDirty) :=
  update (shown id).delDirty fun j other => (shown j).delDirty_other other

theorem updateList (off : place id = .off) (dirtyList : Bool) :
    Shown (s.updateList id dirtyList)
    (Function.update place id (if dirtyList then .dirty else .active)) :=
  update ((off ▸ shown id : At s id .off).updateList dirtyList) fun j other =>
    (shown j).updateList_other other dirtyList

theorem mem_dirtyList (ad : Bool) :
    id ∈ s.dirtyList ad ↔ place id = .dirty ∧ (s.node id).feature.isAd = ad := by
  rw [← List.count_pos_iff, (shown id).dirtyList]
  split <;> simp [*]

theorem mem_activeList (ad : Bool) :
    id ∈ s.activeList ad ↔ place id = .active ∧ (s.node id).feature.isAd = ad := by
  rw [← List.count_pos_iff, (shown id).activeList]
  split <;> simp [*]

theorem nodup_dirtyList (ad : Bool) : (s.dirtyList ad).Nodup := by
  rw [List.nodup_iff_count_le_one]
  intro id
  rw [(shown id).dirtyList]
  split <;> decide

theorem nodup_activeList (ad : Bool) : (s.activeList ad).Nodup := by
  rw [List.nodup_iff_count_le_one]
  intro id
  rw [(shown id).activeList]
  split <;> decide

end

end Shown

/-! ## The operations -/

def CpCrtc.programmedPlace (s : CpCrtc) (mixers : List Mixer) (id : ℕ) : Place :=
  if setfeatureMixers (s.node id).feature mixers ≠ 0 then .dirty
  else if (s.node id).getHwPayload.2 then .active else .off

structure CpCrtc.Frame (s s' : CpCrtc) : Prop where
  featureList : s'.featureList = s.featureList
  node : s'.node = s.node
  requested : s'.requested = s.requested
  cleared : s'.cleared = s.cleared

theorem CpCrtc.Frame.refl (s : CpCrtc) : s.Frame s := ⟨rfl, rfl, rfl, rfl⟩

theorem CpCrtc.Frame.trans {s s' s'' : CpCrtc} (first : s.Frame s') (second : s'.Frame s'') :
    s.Frame s'' :=
  ⟨second.featureList.trans first.featureList, second.node.trans first.node,
    second.requested.trans first.requested, second.cleared.trans first.cleared⟩

theorem updateList_frame (s : CpCrtc) (id : ℕ) (dirtyList : Bool) :
    s.Frame (s.updateList id dirtyList) := by
  cases dirtyList <;> exact ⟨rfl, rfl, rfl, rfl⟩

theorem setfeature_frame (mixers : List Mixer) (s : CpCrtc) (id : ℕ) :
    s.Frame (s.setfeature mixers id) := by
  unfold CpCrtc.setfeature
  split
  · exact .refl s
  · dsimp only
    split
    · exact (updateList_frame s id false).trans ⟨rfl, rfl, rfl, rfl⟩
    · exact ⟨rfl, rfl, rfl, rfl⟩

namespace Shown

variable {s : CpCrtc} {place : ℕ → Place} {id : ℕ}

theorem setfeature (shown : Shown s place) (dirty : place id = .dirty) (mixers : List Mixer) :
    Shown (s.setfeature mixers id) (Function.update place id (s.programmedPlace mixers id)) := by
  unfold CpCrtc.setfeature CpCrtc.programmedPlace
  split
  case isTrue =>
    rw [← dirty, Function.update_eq_self]
    exact shown
  case isFalse =>
    have off := shown.delDirty id
    rw [dirty] at off
    dsimp only
    split
    -- it does not matter which list comes first
    case isTrue =>
      have free : Function.update place id .off id = .off := Function.update_self ..
      have active := off.updateList free false
      rw [Function.update_idem] at active
      exact active.congr rfl rfl rfl rfl fun _ => rfl
    case isFalse =>
      have still := off.delActive id
      rw [Function.update_self, Function.update_idem] at still
      exact still.congr rfl rfl rfl rfl fun _ => rfl

end Shown

theorem setfeature_written (mixers : List Mixer) (s : CpCrtc) (id j : ℕ) :
    (s.setfeature mixers id).programmed j =
        (if j = id ∧ setfeatureMixers (s.node j).feature mixers = 0 then (s.node j).getHwPayload
        else s.programmed j) ∧
      (s.setfeature mixers id).lost j =
        (if j = id ∧ setfeatureMixers (s.node j).feature mixers = 0 then false else s.lost j) := by
  unfold CpCrtc.setfeature
  by_cases same : j = id
  · subst same
    split
    case isTrue fails => simp [fails]
    case isFalse works =>
      have works := not_not.mp works
      simp only [works, and_self, if_true]
      exact ⟨Function.update_self .., Function.update_self ..⟩
  · simp only [same, false_and, if_false]
    split
    · exact ⟨rfl, rfl⟩
    · dsimp only
      split <;> exact ⟨Function.update_of_ne same .., Function.update_of_ne same ..⟩

theorem foldl_setfeature (mixers : List Mixer) (l : List ℕ) : ∀ {s : CpCrtc} {place : ℕ → Place},
    Shown s place → l.Nodup → (∀ id ∈ l, place id = .dirty) →
    Shown (l.foldl (CpCrtc.setfeature mixers) s)
        (fun id => if id ∈ l then s.programmedPlace mixers id else place id) ∧
      s.Frame (l.foldl (CpCrtc.setfeature mixers) s) ∧
      ∀ id,
        (l.foldl (CpCrtc.setfeature mixers) s).programmed id =
          (if id ∈ l ∧ setfeatureMixers (s.node id).feature mixers = 0 then (s.node id).getHwPayload
          else s.programmed id) ∧
        (l.foldl (CpCrtc.setfeature mixers) s).lost id =
          (if id ∈ l ∧ setfeatureMixers (s.node id).feature mixers = 0 then false
            else s.lost id) := by
  induction l with
  | nil => exact fun shown _ _ => ⟨by simpa using shown, .refl _, fun id => by simp⟩
  | cons head rest ih =>
    intro s place shown once dirty
    obtain ⟨new, once⟩ := List.nodup_cons.mp once
    have frame := setfeature_frame mixers s head
    obtain ⟨shown', frame', written⟩ :=
      ih (shown.setfeature (dirty head List.mem_cons_self) mixers) once
      fun id later => by
        have other : id ≠ head := fun same => new (same ▸ later)
        rw [Function.update_of_ne other]
        exact dirty id (.tail head later)
    refine ⟨?_, frame.trans frame', fun id => ?_⟩
    · have places : (fun id => if id ∈ rest then
        (s.setfeature mixers head).programmedPlace mixers id
          else Function.update place head (s.programmedPlace mixers head) id) =
          fun id => if id ∈ head :: rest then s.programmedPlace mixers id else place id := by
        funext id
        have same_place : (s.setfeature mixers head).programmedPlace mixers id =
          s.programmedPlace mixers id := by
          rw [CpCrtc.programmedPlace, CpCrtc.programmedPlace, frame.node]
        rw [same_place]
        by_cases same : id = head
        · subst same
          simp [new]
        · simp [same]
      rw [← places]
      exact shown'
    · rw [List.foldl_cons]
      obtain ⟨programmed, lost⟩ := written id
      rw [programmed, lost, frame.node]
      obtain ⟨first_programmed, first_lost⟩ := setfeature_written mixers s head id
      rw [first_programmed, first_lost]
      by_cases same : id = head
      · subst same
        simp [new]
      · simp [same]

theorem foldl_suspendNode (l : List ℕ) : ∀ {s : CpCrtc} {place : ℕ → Place},
    Shown s place → l.Nodup → (∀ id ∈ l, place id = .active) →
    Shown (l.foldl CpCrtc.suspendNode s) (fun id => if id ∈ l then .dirty else place id) ∧
      s.Frame (l.foldl CpCrtc.suspendNode s) ∧
      (l.foldl CpCrtc.suspendNode s).programmed = s.programmed ∧
      (l.foldl CpCrtc.suspendNode s).lost = s.lost := by
  induction l with
  | nil => exact fun shown _ _ => ⟨by simpa using shown, .refl _, rfl, rfl⟩
  | cons head rest ih =>
    intro s place shown once active
    obtain ⟨new, once⟩ := List.nodup_cons.mp once
    have off := shown.delActive head
    rw [active head List.mem_cons_self] at off
    -- it does not matter which list comes first
    have moved : Shown (s.suspendNode head) (Function.update place head .dirty) := by
      have free : Function.update place head .off head = .off := Function.update_self ..
      have dirty := off.updateList free true
      rw [Function.update_idem] at dirty
      exact dirty.congr rfl rfl rfl rfl fun _ => rfl
    obtain ⟨shown', frame, programmed, lost⟩ := ih moved once fun id later => by
      have other : id ≠ head := fun same => new (same ▸ later)
      rw [Function.update_of_ne other]
      exact active id (.tail head later)
    have kept : s.Frame (s.suspendNode head) := ⟨rfl, rfl, rfl, rfl⟩
    refine ⟨?_, kept.trans frame, programmed, lost⟩
    have places : (fun id => if id ∈ rest then Place.dirty else Function.update place head
      Place.dirty id) =
        fun id => if id ∈ head :: rest then Place.dirty else place id := by
      funext id
      by_cases same : id = head
      · subst same
        simp
      · simp [same]
    rw [← places]
    exact shown'

namespace Shown

variable {s : CpCrtc} {place : ℕ → Place} {id : ℕ}

theorem of_eq (shown : Shown s place) {place' : ℕ → Place} (same : ∀ id, place id = place' id) :
    Shown s place' :=
  fun id => same id ▸ shown id

theorem applyProperties (shown : Shown s place) (mixers : List Mixer) :
    Shown (s.applyProperties mixers)
        (fun id => if mixers ≠ [] ∧ place id = .dirty then s.programmedPlace mixers id
          else place id) ∧
      s.Frame (s.applyProperties mixers) ∧
      ∀ id,
        (s.applyProperties mixers).programmed id =
          (if mixers ≠ [] ∧ place id = .dirty ∧ setfeatureMixers (s.node id).feature mixers = 0
          then (s.node id).getHwPayload else s.programmed id) ∧
        (s.applyProperties mixers).lost id =
          (if mixers ≠ [] ∧ place id = .dirty ∧ setfeatureMixers (s.node id).feature mixers = 0
          then false else s.lost id) := by
  unfold CpCrtc.applyProperties
  by_cases none : mixers = []
  · simpa [none] using ⟨shown, CpCrtc.Frame.refl s⟩
  rw [if_neg none]
  have dirty_iff : ∀ id, place id = .dirty ↔ id ∈ s.dirtyList (s.node id).feature.isAd :=
    fun id => by
    rw [shown.mem_dirtyList]
    simp
  split
  case isTrue empty =>
    have clean : ∀ id, place id ≠ .dirty := by
      intro id dirty
      have listed := (dirty_iff id).mp dirty
      cases kind : (s.node id).feature.isAd <;> simp [kind, empty] at listed
    simpa [clean] using ⟨shown, CpCrtc.Frame.refl s⟩
  case isFalse =>
    obtain ⟨shown', frame, written⟩ := foldl_setfeature mixers (s.dirtyList false) shown
      (shown.nodup_dirtyList false) fun id listed => ((shown.mem_dirtyList false).mp listed).1
    generalize (s.dirtyList false).foldl (CpCrtc.setfeature mixers) s = s' at shown' frame written
    have still : ∀ id, id ∈ s'.dirtyList true ↔ place id = .dirty ∧
      (s.node id).feature.isAd = true := by
      intro id
      rw [shown'.mem_dirtyList, frame.node]
      simp only [shown.mem_dirtyList]
      cases (s.node id).feature.isAd <;> simp
    obtain ⟨shown'', frame', written'⟩ := foldl_setfeature mixers (s'.dirtyList true) shown'
      (shown'.nodup_dirtyList true) fun id listed => ((shown'.mem_dirtyList true).mp listed).1
    refine ⟨shown''.of_eq fun id => ?_, frame.trans frame', fun id => ?_⟩
    · have same_place : s'.programmedPlace mixers id = s.programmedPlace mixers id := by
        rw [CpCrtc.programmedPlace, CpCrtc.programmedPlace, frame.node]
      simp only [still, same_place, shown.mem_dirtyList]
      cases (s.node id).feature.isAd <;> simp [none]
    · obtain ⟨programmed, lost⟩ := written id
      obtain ⟨programmed', lost'⟩ := written' id
      rw [programmed', lost', programmed, lost, frame.node]
      simp only [still, shown.mem_dirtyList]
      cases (s.node id).feature.isAd <;> simp [none]

theorem suspend (shown : Shown s place) :
    Shown s.suspend (fun id => if place id = .active then .dirty else place id) ∧
    s.Frame s.suspend ∧
      s.suspend.programmed = s.programmed ∧ ∀ id, s.suspend.lost id =
        (s.lost id || (s.programmed id).2) := by
  unfold CpCrtc.suspend
  obtain ⟨shown', frame, programmed, lost⟩ := foldl_suspendNode (s.activeList false) shown
    (shown.nodup_activeList false) fun id listed => ((shown.mem_activeList false).mp listed).1
  dsimp only
  generalize (s.activeList false).foldl CpCrtc.suspendNode s = s' at shown' frame programmed lost
  have still : ∀ id, id ∈ s'.activeList true ↔ place id = .active ∧
    (s.node id).feature.isAd = true := by
    intro id
    rw [shown'.mem_activeList, frame.node]
    simp only [shown.mem_activeList]
    cases (s.node id).feature.isAd <;> simp
  obtain ⟨shown'', frame', programmed', lost'⟩ := foldl_suspendNode (s'.activeList true) shown'
    (shown'.nodup_activeList true) fun id listed => ((shown'.mem_activeList true).mp listed).1
  refine ⟨?_, frame.trans (frame'.trans ⟨rfl, rfl, rfl, rfl⟩),
    programmed'.trans programmed, fun id => ?_⟩
  · refine (shown''.of_eq fun id => ?_).congr rfl rfl rfl rfl fun _ => rfl
    simp only [still, shown.mem_activeList]
    cases (s.node id).feature.isAd <;> simp
  · rw [programmed', lost', programmed, lost]

theorem clear (shown : Shown s place) : Shown s.clear (fun id => (place id).clear) :=
  fun id => (shown id).clear

end Shown

/-! ## Taking a value -/

theorem setValue_feature (node : CpNode) (val : ℕ) (lookupBlob : Option (List ℕ))
    (userData : List ℕ) :
    (node.setValue val lookupBlob userData).1.feature = node.feature := by
  unfold CpNode.setValue CpNode.disableCrtcProperty CpNode.enableCrtcProperty
    CpNode.enableCrtcBlobProperty
    CpNode.handleRangeProperty
  dsimp only
  repeat' split
  all_goals rfl

variable {lookupBlob : Option (List ℕ)} {node : CpNode} {userData : List ℕ}

theorem setValue_error {val : ℕ} (fails : (node.setValue val lookupBlob userData).2 ≠ 0)
    (no_copy : ¬ (node.propFlags = .range ∧ node.blobPtr ≠ none)) :
    (node.setValue val lookupBlob userData).1 = node := by
  unfold CpNode.setValue CpNode.disableCrtcProperty CpNode.enableCrtcProperty at *
  cases flags : node.propFlags with
  | range =>
    have no_blob : node.blobPtr = none := by
      by_contra some_blob
      exact no_copy ⟨flags, some_blob⟩
    by_cases zero : val = 0 <;> simp [flags, zero, CpNode.handleRangeProperty, no_blob] at fails
  | enum => by_cases zero : val = 0 <;> simp [flags, zero] at fails
  | blob =>
    simp only [flags, CpNode.enableCrtcBlobProperty] at fails ⊢
    split
    case isTrue zero => simp [zero] at fails
    case isFalse nonzero =>
      rw [if_neg nonzero] at fails
      split
      · rfl
      next blob =>
        by_cases size : blob.length ≠ node.propBlobSz
        · rw [if_pos size]
        · simp [size] at fails

theorem Shown.takeValue {s : CpCrtc} {place : ℕ → Place} (shown : Shown s place) {id : ℕ}
    (feature : node.feature = (s.node id).feature) :
    Shown { s.delDirty id with node := Function.update (s.delDirty id).node id node }
      (Function.update place id (place id).delDirty) := by
  refine (shown.delDirty id).congr rfl rfl rfl rfl fun j => ?_
  dsimp only
  by_cases same : j = id
  · rw [same, Function.update_self]
    exact feature
  · rw [Function.update_of_ne same]

theorem Shown.takeDirty {s : CpCrtc} {place : ℕ → Place} (shown : Shown s place) {id : ℕ}
    (feature : node.feature = (s.node id).feature) :
    Shown (({ s.delDirty id with node := Function.update (s.delDirty id).node id node }.delActive
    id).updateList id true)
      (Function.update place id .dirty) := by
  have off := (shown.takeValue feature).delActive id
  rw [Function.update_self, Function.update_idem] at off
  have gone : (place id).delDirty.delActive = .off := by cases place id <;> rfl
  rw [gone] at off
  have free : Function.update place id .off id = .off := Function.update_self ..
  have dirty := off.updateList free true
  rw [Function.update_idem] at dirty
  exact dirty

/-! ## What is kept -/

/-- Each node is on at most one list, at most once, where the nodes that have been left behind are
    taken into account; and the lists of the assertive display have its nodes. -/
structure Placed (s : CpCrtc) : Prop where
  once : (s.activeList false ++ s.activeList true ++ (s.dirtyList false ++ s.dirtyList true) ++
    (s.activeDetached ++ s.dirtyDetached)).Nodup
  variant : ∀ ad, ∀ id ∈ s.activeList ad ++ s.dirtyList ad, (s.node id).feature.isAd = ad

/-- A feature for which the hardware has not got, or not kept, what it was last asked for is on a
    dirty list, and the next time that all mixers can be programmed it gets there, except for a
    feature that has been cleared off the lists since. -/
structure Kept (s : CpCrtc) : Prop where
  dirty : ∀ id, s.cleared id = false → s.requested id ≠ s.programmed id ∨ s.lost id = true →
    id ∈ s.dirtyList (s.node id).feature.isAd
  applied : ∀ id, s.cleared id = false → ∀ mixers, mixers ≠ [] → setfeatureMixers
    (s.node id).feature mixers = 0 →
    (s.applyProperties mixers).programmed id = s.requested id ∧
      (s.applyProperties mixers).lost id = false

def Harmless (s : CpCrtc) : Input → Prop
  | .setProperty property val mixers lookupBlob userData =>
    (s.setProperty property val mixers lookupBlob userData).2 ≠ 0 →
      (s.setProperty property val mixers lookupBlob userData).1.activeList = s.activeList ∧
      (s.setProperty property val mixers lookupBlob userData).1.dirtyList = s.dirtyList ∧
      (s.setProperty property val mixers lookupBlob userData).1.node = s.node
  | _ => True

def Prompt (s : CpCrtc) : Input → Prop
  | .setProperty property val mixers lookupBlob userData =>
    ∀ id ∈ (s.checkProperty property mixers).toOption,
    ((s.node id).setValue val lookupBlob userData).2 = 0 ∨
      (id ∉ s.dirtyList (s.node id).feature.isAd ∧
        ¬ ((s.node id).propFlags = .range ∧ (s.node id).blobPtr ≠ none))
  | _ => True

instance (s : CpCrtc) : (input : Input) → Decidable (Prompt s input)
  | .setProperty .. => inferInstanceAs (Decidable (∀ id ∈ _, _ ∨ _))
  | .applyProperties _ => inferInstanceAs (Decidable True)
  | .suspend => inferInstanceAs (Decidable True)
  | .clear => inferInstanceAs (Decidable True)

def Settled (s : CpCrtc) (id : ℕ) : Place → Prop
  | .dirty => True
  | .active => s.programmed id = s.requested id ∧ s.lost id = false
  | .off => s.programmed id = s.requested id ∧ s.lost id = false ∧ (s.programmed id).2 = false
  | _ => False

structure Good (s : CpCrtc) (id : ℕ) (place : Place) : Prop where
  requested : s.requested id = (s.node id).getHwPayload
  settled : s.cleared id = false → Settled s id place

def Inv (s : CpCrtc) : Prop := ∃ place, Shown s place ∧ ∀ id, Good s id (place id)

theorem Shown.placed {s : CpCrtc} {place : ℕ → Place} (shown : Shown s place) : Placed s where
  once := by
    rw [List.nodup_iff_count_le_one]
    intro id
    simp only [List.count_append, (shown id).activeList, (shown id).dirtyList,
      (shown id).activeDetached,
      (shown id).dirtyDetached]
    cases place id <;> cases (s.node id).feature.isAd <;> simp
  variant ad id listed := by
    rw [List.mem_append, shown.mem_activeList, shown.mem_dirtyList] at listed
    exact listed.elim And.right And.right

theorem Inv.kept {s : CpCrtc} (inv : Inv s) : Kept s := by
  obtain ⟨place, shown, good⟩ := inv
  constructor
  case dirty =>
    intro id uncleared due
    have settled := (good id).settled uncleared
    rw [shown.mem_dirtyList]
    refine ⟨?_, rfl⟩
    cases at_place : place id with
    | dirty => rfl
    | active =>
      rw [at_place] at settled
      exact (due.elim (· settled.1.symm) fun lost => by simp [settled.2] at lost).elim
    | off =>
      rw [at_place] at settled
      exact (due.elim (· settled.1.symm) fun lost => by simp [settled.2.1] at lost).elim
    | activeDetached | dirtyDetached => rw [at_place] at settled; exact settled.elim
  case applied =>
    intro id uncleared mixers some_mixer works
    obtain ⟨-, -, written⟩ := shown.applyProperties mixers
    obtain ⟨programmed, lost⟩ := written id
    rw [programmed, lost]
    simp only [some_mixer, works, ne_eq, not_false_eq_true, true_and, and_true]
    have settled := (good id).settled uncleared
    split
    case isTrue => exact ⟨(good id).requested.symm, rfl⟩
    case isFalse clean =>
      cases at_place : place id with
      | dirty => exact absurd at_place clean
      | active => rw [at_place] at settled; exact settled
      | off => rw [at_place] at settled; exact ⟨settled.1, settled.2.1⟩
      | activeDetached | dirtyDetached => rw [at_place] at settled; exact settled.elim

/-! ## Every step -/

theorem Good.congr {s s' : CpCrtc} {id : ℕ} {place : Place} (good : Good s id place)
    (node : s'.node id = s.node id) (requested : s'.requested id = s.requested id)
    (programmed : s'.programmed id = s.programmed id) (lost : s'.lost id = s.lost id)
    (cleared : s'.cleared id = s.cleared id) : Good s' id place := by
  constructor
  case requested => rw [requested, node]; exact good.requested
  case settled =>
    intro uncleared
    rw [cleared] at uncleared
    have settled := good.settled uncleared
    cases place with
    | off => exact ⟨by rw [programmed, requested]; exact settled.1, by rw [lost]; exact settled.2.1,
        by rw [programmed]; exact settled.2.2⟩
    | active =>
      exact ⟨by rw [programmed, requested]; exact settled.1, by rw [lost]; exact settled.2⟩
    | dirty => trivial
    | activeDetached => exact settled
    | dirtyDetached => exact settled

theorem Shown.setProperty {s : CpCrtc} {place : ℕ → Place} (shown : Shown s place)
    (property val : ℕ)
    (mixers : List Mixer) (lookupBlob : Option (List ℕ)) (userData : List ℕ) :
    ∃ place', Shown (s.setProperty property val mixers lookupBlob userData).1 place' := by
  unfold CpCrtc.setProperty
  split
  · exact ⟨place, shown⟩
  next id checked =>
    have feature := setValue_feature (s.node id) val lookupBlob userData
    dsimp only
    split
    · exact ⟨_, shown.takeValue feature⟩
    · exact ⟨_, (shown.takeDirty feature).congr rfl rfl rfl rfl fun _ => rfl⟩

theorem Inv.setProperty {s : CpCrtc} (inv : Inv s) {property val : ℕ} {mixers : List Mixer}
        (prompt : Prompt s (.setProperty property val mixers lookupBlob userData)) :
    Inv (s.setProperty property val mixers lookupBlob userData).1 ∧
      Harmless s (.setProperty property val mixers lookupBlob userData) := by
  obtain ⟨place, shown, good⟩ := inv
  rw [Harmless]
  unfold CpCrtc.setProperty
  split
  case h_1 => exact ⟨⟨place, shown, good⟩, fun _ => ⟨rfl, rfl, rfl⟩⟩
  case h_2 id checked =>
    have feature := setValue_feature (s.node id) val lookupBlob userData
    have orderly := prompt id (by rw [checked]; rfl)
    dsimp only
    split
    case isTrue fails =>
      obtain ⟨clean, no_copy⟩ := orderly.resolve_left fails
      have kept : ((s.node id).setValue val lookupBlob userData).1 = s.node id :=
        setValue_error fails no_copy
      have same : Function.update (s.delDirty id).node id
        ((s.node id).setValue val lookupBlob userData).1 = s.node := by
        rw [kept]
        exact Function.update_eq_self ..
      have dirty : ∀ ad, (s.dirtyList ad).erase id = s.dirtyList ad := by
        intro ad
        refine List.erase_of_not_mem fun listed => clean ?_
        have kind := ((shown.mem_dirtyList ad).mp listed).2
        rwa [kind]
      refine ⟨⟨_, shown.takeValue feature, fun j => ?_⟩, fun _ => ⟨rfl, funext dirty, same⟩⟩
      have here : Good s j (Function.update place id (place id).delDirty j) := by
        by_cases other : j = id
        · subst other
          have before := good j
          rw [Function.update_self]
          cases at_place : place j with
          | dirty => exact absurd ((shown.mem_dirtyList _).mpr ⟨at_place, rfl⟩) clean
          | dirtyDetached =>
            rw [at_place] at before
            exact ⟨before.requested, fun uncleared => (before.settled uncleared).elim⟩
          | off => rwa [at_place] at before
          | active => rwa [at_place] at before
          | activeDetached => rwa [at_place] at before
        · rw [Function.update_of_ne other]
          exact good j
      exact here.congr (congrFun same j) rfl rfl rfl rfl
    case isFalse works =>
      refine ⟨⟨_, (shown.takeDirty feature).congr rfl rfl rfl rfl fun _ => rfl, fun j => ?_⟩,
        fun fails => absurd rfl fails⟩
      by_cases other : j = id
      · subst other
        rw [Function.update_self]
        refine ⟨?_, fun _ => trivial⟩
        have node : Function.update s.node j ((s.node j).setValue val lookupBlob userData).1 j =
          ((s.node j).setValue val lookupBlob userData).1 := Function.update_self ..
        exact (Function.update_self ..).trans (congrArg CpNode.getHwPayload node.symm)
      · rw [Function.update_of_ne other]
        refine (good j).congr ?_ ?_ rfl rfl ?_
        · exact Function.update_of_ne other ..
        · exact Function.update_of_ne other ..
        · exact Function.update_of_ne other ..

theorem Inv.applyProperties {s : CpCrtc} (inv : Inv s) (mixers : List Mixer) :
    Inv (s.applyProperties mixers) := by
  obtain ⟨place, shown, good⟩ := inv
  obtain ⟨shown', frame, written⟩ := shown.applyProperties mixers
  refine ⟨_, shown', fun id => ?_⟩
  obtain ⟨programmed, lost⟩ := written id
  have node := congrFun frame.node id
  have requested := congrFun frame.requested id
  have cleared := congrFun frame.cleared id
  by_cases due : mixers ≠ [] ∧ place id = .dirty
  · rw [if_pos due, CpCrtc.programmedPlace]
    by_cases works : setfeatureMixers (s.node id).feature mixers = 0
    · rw [if_pos ⟨due.1, due.2, works⟩] at programmed lost
      rw [if_neg (not_not.mpr works)]
      refine ⟨requested.trans ((good id).requested.trans (by rw [node])), fun _ => ?_⟩
      have same : (s.applyProperties mixers).programmed id =
        (s.applyProperties mixers).requested id := by
        rw [programmed, requested, (good id).requested]
      split
      case isTrue => exact ⟨same, lost⟩
      case isFalse disabled =>
        exact ⟨same, lost, by rw [programmed]; exact eq_false_of_ne_true disabled⟩
    · rw [if_neg fun all => works all.2.2] at programmed lost
      have here := good id
      rw [due.2] at here
      rw [if_pos works]
      exact here.congr node requested programmed lost cleared
  · rw [if_neg due]
    rw [if_neg fun all => due ⟨all.1, all.2.1⟩] at programmed lost
    exact (good id).congr node requested programmed lost cleared

theorem Inv.suspend {s : CpCrtc} (inv : Inv s) : Inv s.suspend := by
  obtain ⟨place, shown, good⟩ := inv
  obtain ⟨shown', frame, programmed, lost⟩ := shown.suspend
  refine ⟨_, shown', fun id => ?_⟩
  have here := good id
  have requested : s.suspend.requested id = (s.suspend.node id).getHwPayload := by
    rw [frame.requested, frame.node]
    exact here.requested
  refine ⟨requested, fun uncleared => ?_⟩
  rw [frame.cleared] at uncleared
  have settled := here.settled uncleared
  cases at_place : place id with
  | active => trivial
  | dirty => trivial
  -- a feature that is off has nothing in the hardware to lose
  | off =>
    rw [at_place] at settled
    refine ⟨?_, ?_, ?_⟩
    · rw [programmed, frame.requested]
      exact settled.1
    · rw [lost, settled.2.1, settled.2.2]
      rfl
    · rw [programmed]
      exact settled.2.2
  | activeDetached | dirtyDetached => rw [at_place] at settled; exact settled.elim

theorem Inv.clear {s : CpCrtc} (inv : Inv s) : Inv s.clear := by
  obtain ⟨place, shown, good⟩ := inv
  refine ⟨_, shown.clear, fun id => ⟨(good id).requested, fun uncleared => ?_⟩⟩
  have uncleared : s.cleared id = false ∧
      id ∉ s.activeList false ++ s.activeList true ++ (s.dirtyList false ++ s.dirtyList true) := by
    simpa [CpCrtc.clear] using uncleared
  have settled := (good id).settled uncleared.1
  have unlisted := uncleared.2
  simp only [List.mem_append, shown.mem_activeList, shown.mem_dirtyList] at unlisted
  cases at_place : place id with
  | active => cases kind : (s.node id).feature.isAd <;> simp [at_place, kind] at unlisted
  | dirty => cases kind : (s.node id).feature.isAd <;> simp [at_place, kind] at unlisted
  | off => rw [at_place] at settled; exact settled
  | activeDetached | dirtyDetached => rw [at_place] at settled; exact settled.elim

theorem step_shown {s : CpCrtc} (shown : ∃ place, Shown s place) (input : Input) :
    ∃ place, Shown (step s input) place := by
  obtain ⟨place, shown⟩ := shown
  cases input with
  | setProperty property val mixers lookupBlob userData =>
    exact shown.setProperty property val mixers lookupBlob userData
  | applyProperties mixers => exact ⟨_, (shown.applyProperties mixers).1⟩
  | suspend => exact ⟨_, shown.suspend.1⟩
  | clear => exact ⟨_, shown.clear⟩

theorem step_inv {s : CpCrtc} {input : Input} (inv : Inv s) (prompt : Prompt s input) :
    Inv (step s input) ∧ Harmless s input := by
  cases input with
  | setProperty property val mixers lookupBlob userData => exact inv.setProperty prompt
  | applyProperties mixers => exact ⟨inv.applyProperties mixers, trivial⟩
  | suspend => exact ⟨inv.suspend, trivial⟩
  | clear => exact ⟨inv.clear, trivial⟩

section Start
variable (featureList : List ℕ) (installed : ℕ → Install)

theorem start_shown : Shown (start featureList installed) fun _ => .off :=
  fun _ => ⟨fun _ => rfl, fun _ => rfl, rfl, rfl⟩

theorem install_disabled (install : Install) : install.node.getHwPayload.2 = false := by
  unfold CpNode.getHwPayload Install.node
  cases install.propFlags <;> rfl

theorem start_inv : Inv (start featureList installed) :=
  ⟨fun _ => .off, start_shown featureList installed,
    fun id => ⟨rfl, fun _ => ⟨rfl, rfl, install_disabled (installed id)⟩⟩⟩

/-- In every run each node is on at most one list, once; no feature is lost unless a value is
    refused when its node is dirty, a copy fails, or it is cleared off the lists. -/
theorem features_kept (inputs : List Input) :
    Throughout step Placed (start featureList installed) inputs ∧
    (StepsMeet step Prompt (start featureList installed) inputs →
      Throughout step Kept (start featureList installed) inputs ∧
      StepsMeet step Harmless (start featureList installed) inputs) := by
  constructor
  · refine throughout_of_invariant (fun s => ∃ place, Shown s place)
      (fun s i shown => step_shown shown i) ?_
      ⟨_, start_shown featureList installed⟩ inputs
    rintro s ⟨place, shown⟩
    exact shown.placed
  · intro prompt
    have keeps : ∀ s i, Inv s → Prompt s i → Inv (step s i) :=
      fun _ _ inv prompt => (step_inv inv prompt).1
    exact ⟨throughout_of_meets Inv keeps (fun _ inv => inv.kept)
      (start_inv featureList installed) prompt,
      prompt.imp Inv keeps (fun _ _ inv prompt => (step_inv inv prompt).2)
        (start_inv featureList installed)⟩

end Start

def pccOnly (_ : ℕ) : Install where
  propertyId := 40
  propFlags := .blob
  feature := .dsppPcc
  propBlobSz := 2

def setPcc : Input := .setProperty 40 1 [{}] (some [7, 8]) []

def setMissing : Input := .setProperty 40 2 [{}] none []

/-- A feature is set, not reached, suspended, applied, refused, taken away and cleared. -/
def pccCycle : List Input :=
  [setPcc, .applyProperties [{ hwDspp := false }], .suspend, .applyProperties [{}],
    setMissing, .suspend,
    .applyProperties [{}], .setProperty 40 0 [{}] none [], .applyProperties [{}], setPcc, .clear]

theorem features_kept_pccCycle : Throughout step Kept (start [0] pccOnly) pccCycle ∧
    StepsMeet step Harmless (start [0] pccOnly) pccCycle :=
  (features_kept [0] pccOnly pccCycle).2 (by decide +kernel)

def NeverLost (s : CpCrtc) : Prop :=
  Placed s ∧ ∀ id, s.requested id ≠ s.programmed id ∨ s.lost id = true → id ∈ s.dirtyList
    (s.node id).feature.isAd

/-- A feature that is waiting for the hardware is forgotten when the lists are cleared, and also
    when a new value for it is refused. -/
theorem waiting_feature_forgotten :
    ¬ Throughout step NeverLost (start [0] pccOnly) [setPcc, .clear] ∧
    ¬ Throughout step NeverLost (start [0] pccOnly) [setPcc, setMissing] := by
  constructor
  · rintro ⟨-, -, -, lossless⟩
    exact absurd (lossless 0 (.inl (by decide))) (by decide)
  · rintro ⟨-, -, -, lossless⟩
    exact absurd (lossless 0 (.inl (by decide))) (by decide)

end DisplayDrivers.ColorProc
