import DisplayDrivers.Sspp.Update

/-! # What the dirty bits watch

`RectsWatched` and `FormatWatched` say which changes set the bit of a group, and `rects_dirty_iff`
and `format_dirty_iff` that the bits are those. Where a bit is clear, the arguments of its group are
those of the last update, but for what no source of dirty bits looks at (`RectsKept`, `FormatKept`).
-/

namespace DisplayDrivers.Sspp

open DisplayDrivers.Property (PropertyInfo PropertyState DrmProperty DrmBlob Dirty dirtyIndices
  msmPropertyAtomicSet msmPropertyIndex msmPropertyPopDirty msmPropertySetDirtyNoLock)

/-! ## Bits -/

theorem has_or (a b bits : U32) : has (a ||| b) bits = (has a bits || has b bits) := by
  have split : (a ||| b) &&& bits = a &&& bits ||| b &&& bits := by
    ext i inside
    simp only [BitVec.getElem_or, BitVec.getElem_and, Bool.and_or_distrib_right]
  have none : (a &&& bits ||| b &&& bits = 0#32) ↔ a &&& bits = 0#32 ∧ b &&& bits = 0#32 :=
    BitVec.or_eq_zero_iff
  rw [has, has, has, split, Bool.eq_iff_iff]
  simp only [bne_iff_ne, Bool.or_eq_true, ne_eq, BitVec.ofNat_eq_ofNat, none, not_and_or]

@[simp] theorem has_zero (bits : U32) : has 0#32 bits = false := by simp [has]

theorem all_rects : has dirtyAll dirtyRects = true := by decide
theorem all_format : has dirtyAll dirtyFormat = true := by decide
theorem all_fbTranslationMode : has dirtyAll dirtyFbTranslationMode = true := by decide

variable {bits : U32}

theorem has_propDirty (among : has dirtyAll bits = true) (dirty : U32) (idx : ℕ) :
    has (propDirty dirty idx) bits = (has dirty bits || has (propDirty 0 idx) bits) := by
  unfold propDirty
  split <;> simp [has_or, among]

/-! ## The dirty properties -/

theorem has_foldl_propDirty (among : has dirtyAll bits = true) (dirty : U32) (xs : List ℕ) :
    has (xs.foldl propDirty dirty) bits =
      (has dirty bits || xs.any fun idx => has (propDirty 0 idx) bits) := by
  induction xs generalizing dirty with
  | nil => simp
  | cons idx xs ih => rw [List.foldl_cons, ih, has_propDirty among, List.any_cons, Bool.or_assoc]

theorem popDirtyLoop_succ (turns : ℕ) (st : PropertyState) (dirty : U32) :
    popDirtyLoop (turns + 1) st dirty =
      if (msmPropertyPopDirty st).2 ≥ 0 then
        popDirtyLoop turns (msmPropertyPopDirty st).1
          (propDirty dirty (msmPropertyPopDirty st).2.toNat)
      else ((msmPropertyPopDirty st).1, dirty) := rfl

variable {count : ℕ}

theorem popDirtyLoop_eq {st : PropertyState} {xs : List ℕ} (queue : Dirty count st xs)
    {turns : ℕ} (enough : xs.length < turns) (dirty : U32) :
    (popDirtyLoop turns st dirty).2 = xs.foldl propDirty dirty := by
  induction xs generalizing turns st dirty with
  | nil =>
    obtain ⟨turns, rfl⟩ := Nat.exists_eq_succ_of_ne_zero (Nat.ne_of_gt enough)
    have again := queue.pop_nil
    rw [popDirtyLoop_succ, again]
    rfl
  | cons idx xs ih =>
    obtain ⟨turns, rfl⟩ := Nat.exists_eq_succ_of_ne_zero (Nat.ne_zero_of_lt enough)
    obtain ⟨first, rest⟩ := queue.pop_cons
    rw [popDirtyLoop_succ, first, if_pos (Int.natCast_nonneg idx), Int.toNat_natCast,
      List.foldl_cons]
    exact ih rest (Nat.lt_of_succ_lt_succ enough) _

theorem popDirtyLoop_values (turns : ℕ) (st : PropertyState) (dirty : U32) :
    (popDirtyLoop turns st dirty).1.values = st.values := by
  induction turns generalizing st dirty with
  | zero => rfl
  | succ turns ih =>
    rw [popDirtyLoop_succ]
    split
    · rw [ih, Property.popDirty_values]
    · exact Property.popDirty_values st

theorem popDirtyLoop_left (turns : ℕ) (st : PropertyState) (dirty dirty' : U32) :
    (popDirtyLoop turns st dirty).1 = (popDirtyLoop turns st dirty').1 := by
  induction turns generalizing st dirty dirty' with
  | zero => rfl
  | succ turns ih =>
    rw [popDirtyLoop_succ, popDirtyLoop_succ]
    split
    · exact ih _ _ _
    · rfl

theorem has_popDirtyLoop (among : has dirtyAll bits = true) {dirty : U32}
    (dirties : has dirty bits = true) (turns : ℕ) (st : PropertyState) :
    has (popDirtyLoop turns st dirty).2 bits = true := by
  induction turns generalizing st dirty with
  | zero => exact dirties
  | succ turns ih =>
    rw [popDirtyLoop_succ]
    split
    · exact ih (by rw [has_propDirty among, dirties, Bool.true_or]) _
    · exact dirties

/-! ## Setting properties makes them dirty -/

theorem valueAt_setValue_ne (st : PropertyState) {idx other : ℕ} (apart : other ≠ idx)
    (v : Property.PropertyValue) : (st.setValue idx v).valueAt other = st.valueAt other := by
  simp [PropertyState.valueAt, PropertyState.setValue, List.getElem?_set_ne apart.symm]

def Extends (count : ℕ) (st st' : PropertyState) : Prop :=
  ∀ xs, Dirty count st xs → ∃ ys, Dirty count st' ys ∧ xs ⊆ ys ∧
    ∀ idx, (st'.valueAt idx).value ≠ (st.valueAt idx).value → idx ∈ ys

theorem Extends.refl (count : ℕ) (st : PropertyState) : Extends count st st :=
  fun xs queue => ⟨xs, queue, List.Subset.refl xs, fun _ changed => (changed rfl).elim⟩

theorem Extends.trans {st st' st'' : PropertyState} (first : Extends count st st')
    (second : Extends count st' st'') : Extends count st st'' := by
  intro xs queue
  obtain ⟨ys, queue', kept, marked⟩ := first xs queue
  obtain ⟨zs, queue'', kept', marked'⟩ := second ys queue'
  refine ⟨zs, queue'', List.Subset.trans kept kept', fun idx changed => ?_⟩
  by_cases early : (st'.valueAt idx).value = (st.valueAt idx).value
  · exact marked' idx (early ▸ changed)
  · exact kept' (marked idx early)

theorem extends_of_values {st st' : PropertyState} (links : st'.links = st.links)
    (values : ∀ idx, (st'.valueAt idx).value = (st.valueAt idx).value) : Extends count st st' :=
  fun xs queue => ⟨xs, queue.of_links links, List.Subset.refl xs,
    fun idx changed => (changed (values idx)).elim⟩

theorem subset_appended (xs : List ℕ) (idx : ℕ) (cond : Prop) [Decidable cond] :
    xs ⊆ if cond then xs ++ [idx] else xs := by
  split
  · exact List.subset_append_left xs [idx]
  · exact List.Subset.refl xs

theorem extends_setDirty (info : PropertyInfo) (st : PropertyState) (idx : ℕ) :
    Extends info.propertyCount st (msmPropertySetDirtyNoLock info st idx) := by
  intro xs queue
  refine ⟨_, queue.setDirty idx, subset_appended xs idx _, fun other changed => ?_⟩
  refine (changed ?_).elim
  rw [PropertyState.valueAt, Property.setDirtyNoLock_values, PropertyState.valueAt]

theorem extends_updateValue (info : PropertyInfo) (st : PropertyState) {idx : ℕ}
    (inRange : idx < info.propertyCount) (val : U64) :
    Extends info.propertyCount st (Property.updateValue info st idx val) := by
  intro xs queue
  refine ⟨_, queue.updateValue idx val, subset_appended xs idx _, fun other changed => ?_⟩
  by_cases same : other = idx
  · subst same
    have marked := queue.updateValue_isDirty inRange (.inl changed)
    rwa [(queue.updateValue other val).isDirty_iff] at marked
  · refine (changed ?_).elim
    unfold Property.updateValue
    split
    · rw [PropertyState.valueAt, Property.setDirtyNoLock_values]
      exact congrArg Property.PropertyValue.value (valueAt_setValue_ne st same _)
    · rfl

theorem saveBlob_values (refs : Property.Refs) (st : PropertyState) (idx : ℕ) (val : U64)
    (found : Option DrmBlob) (other : ℕ) :
    ((Property.saveBlob refs st idx val found).2.1.valueAt other).value =
      (st.valueAt other).value := by
  by_cases same : other = idx
  · rw [same]
    exact Property.saveBlob_value refs st idx val found
  · unfold Property.saveBlob
    dsimp only
    split
    · rfl
    · exact congrArg Property.PropertyValue.value (valueAt_setValue_ne st same _)

theorem extends_atomicSet (info : PropertyInfo) (refs : Property.Refs) (st : PropertyState)
    (property : DrmProperty) (val : U64) (found : Option DrmBlob) :
    (msmPropertyAtomicSet info refs st property val found).1.propertyCount = info.propertyCount ∧
      Extends info.propertyCount st
        (msmPropertyAtomicSet info refs st property val found).2.2.1 := by
  obtain ⟨⟨recentIdx, same⟩, outcome⟩ :=
    Property.msmPropertyAtomicSet_cases info refs st property val found
  refine ⟨by rw [same], ?_⟩
  obtain ⟨-, unchanged⟩ | ⟨idx, looked, stored⟩ := outcome
  · rw [unchanged]
    exact .refl _ st
  · have inRange := Property.msmPropertyIndex_lt looked
    rw [stored]
    split
    · exact (extends_of_values (Property.saveBlob_links refs st idx val found)
        (saveBlob_values refs st idx val found)).trans (extends_updateValue info _ inRange _)
    · exact extends_updateValue info st inRange val

/-! ## The requests of a user -/

def ScalerState.user (s : ScalerState) : PixelExt × Scaler3Cfg := (s.pixelExt, s.scaler3Cfg)

def ScalerDirty (xs : List ℕ) : Prop :=
  PlaneProp.scalerV1.index ∈ xs ∨ PlaneProp.scalerV2.index ∈ xs

namespace Prepared

structure Extends (p p' : Prepared) : Prop where
  count : p'.info.propertyCount = p.info.propertyCount
  queue : ∀ xs, Dirty p.info.propertyCount p.state.propertyState xs →
    ∃ ys, Dirty p.info.propertyCount p'.state.propertyState ys ∧ xs ⊆ ys ∧
      (∀ idx, (p'.state.propertyState.valueAt idx).value ≠ (p.state.propertyState.valueAt idx).value
        →
        idx ∈ ys) ∧
      (p'.state.scaler.user = p.state.scaler.user ∨ ScalerDirty ys)

variable (p : Prepared)

theorem Extends.refl : p.Extends p :=
  ⟨rfl, fun xs queue => ⟨xs, queue, List.Subset.refl xs, fun _ changed =>
    (changed rfl).elim, .inl rfl⟩⟩

theorem Extends.trans {p p' p'' : Prepared} (first : p.Extends p') (second : p'.Extends p'') :
    p.Extends p'' := by
  refine ⟨second.count.trans first.count, fun xs queue => ?_⟩
  obtain ⟨ys, queue', kept, marked, scaler⟩ := first.queue xs queue
  obtain ⟨zs, queue'', kept', marked', scaler'⟩ := second.queue ys (first.count ▸ queue')
  refine ⟨zs, first.count ▸ queue'', List.Subset.trans kept kept', fun idx changed => ?_, ?_⟩
  · by_cases early : (p'.state.propertyState.valueAt idx).value =
        (p.state.propertyState.valueAt idx).value
    · exact marked' idx (early ▸ changed)
    · exact kept' (marked idx early)
  · rcases scaler with same | dirties
    · exact scaler'.imp_left fun same' => same'.trans same
    · exact .inr (dirties.imp (kept' ·) (kept' ·))

theorem Extends.of_properties {p p' : Prepared}
    (count : p'.info.propertyCount = p.info.propertyCount)
    (scaler : p'.state.scaler.user = p.state.scaler.user)
    (grows : Sspp.Extends p.info.propertyCount p.state.propertyState p'.state.propertyState) :
    p.Extends p' := by
  refine ⟨count, fun xs queue => ?_⟩
  obtain ⟨ys, queue', kept, marked⟩ := grows xs queue
  exact ⟨ys, queue', kept, marked, .inl scaler⟩

theorem extends_msmPropertySet (property : DrmProperty) (val : U64)
    (found : Option DrmBlob) : p.Extends (p.msmPropertySet property val found).1 := by
  obtain ⟨count, grows⟩ :=
    extends_atomicSet p.info (fun _ => 0) p.state.propertyState property val found
  exact .of_properties count rfl grows

variable {prop : PlaneProp}

theorem extends_forced (scaler : ScalerState)
    (which : prop = .scalerV1 ∨ prop = .scalerV2) (inRange : prop.index < p.info.propertyCount) :
    p.Extends ((p.setDirty prop).setScaler scaler) := by
  refine ⟨rfl, fun xs queue => ?_⟩
  obtain ⟨-, -, -, marked⟩ := extends_setDirty p.info p.state.propertyState prop.index xs queue
  refine ⟨_, queue.setDirty prop.index, subset_appended xs _ _, fun idx changed => ?_, .inr ?_⟩
  · refine (changed ?_).elim
    change (PropertyState.valueAt (msmPropertySetDirtyNoLock _ _ _) idx).value = _
    rw [PropertyState.valueAt, Property.setDirtyNoLock_values, PropertyState.valueAt]
  · have there : prop.index ∈ if prop.index < p.info.propertyCount ∧ prop.index ∉ xs then
        xs ++ [prop.index] else xs := by
      split
      · exact List.mem_append_right _ (List.mem_singleton_self _)
      · rename_i stays
        exact not_not.mp fun absent => stays ⟨inRange, absent⟩
    rcases which with rfl | rfl
    · exact .inl there
    · exact .inr there

theorem extends_user (scaler : ScalerState)
    (same : scaler.user = p.state.scaler.user) : p.Extends (p.setScaler scaler) :=
  .of_properties rfl same (.refl _ _)

theorem extends_setCscV1 (usr : U64) (user : UserData) : p.Extends (p.setCscV1 usr user) := by
  unfold setCscV1
  split <;> exact .of_properties rfl rfl (.refl _ _)

theorem extends_setScalerV1 (usr : U64) (user : UserData)
    (inRange : PlaneProp.scalerV1.index < p.info.propertyCount) :
    p.Extends (p.setScalerV1 usr user) := by
  unfold setScalerV1
  dsimp only
  split
  · split
    · exact extends_user p _ rfl
    · exact extends_forced p _ (.inl rfl) inRange
  · exact extends_user p _ rfl

theorem extends_setScalerV2 (usr : U64) (user : UserData)
    (inRange : PlaneProp.scalerV2.index < p.info.propertyCount) :
    p.Extends (p.setScalerV2 usr user) := by
  unfold setScalerV2
  dsimp only
  split
  · exact extends_forced p _ (.inr rfl) inRange
  · split
    · split <;> exact extends_forced p _ (.inr rfl) inRange
    · exact extends_user p _ rfl

theorem extends_setExclRectV1 (usr : U64) (user : UserData) :
    p.Extends (p.setExclRectV1 usr user) := by
  unfold setExclRectV1
  split
  · exact .of_properties rfl rfl (.refl _ _)
  · split <;> exact .of_properties rfl rfl (.refl _ _)

theorem index_of_getElem {idx : ℕ} (found : planeProps[idx]? = some prop) : prop.index = idx := by
  obtain ⟨inside, here⟩ := List.getElem?_eq_some_iff.mp found
  rw [PlaneProp.index, ← here]
  exact (by decide : planeProps.Nodup).idxOf_getElem idx inside

theorem extends_setProperty (set : PropertySet) : p.Extends (p.setProperty set) := by
  have stored := extends_msmPropertySet p set.property set.val set.found
  unfold setProperty
  generalize p.msmPropertySet set.property set.val set.found = done at stored ⊢
  obtain ⟨q, ret⟩ := done
  dsimp only at stored ⊢
  split
  · exact stored
  · obtain ⟨recentIdx, same⟩ := Property.msmPropertyIndex_info q.info set.property
    have counts : (msmPropertyIndex q.info set.property).1.propertyCount =
      q.info.propertyCount := by
      rw [same]
    have looked : q.Extends { q with info := (msmPropertyIndex q.info set.property).1 } :=
      .of_properties counts rfl (.refl _ _)
    refine stored.trans (looked.trans ?_)
    have inRange : ∀ prop, (msmPropertyIndex q.info set.property).2.bind
      (planeProps[·]?) = some prop →
        prop.index < (msmPropertyIndex q.info set.property).1.propertyCount := by
      intro prop found
      obtain ⟨idx, at_idx, is⟩ := Option.bind_eq_some_iff.mp found
      rw [index_of_getElem is, counts]
      exact Property.msmPropertyIndex_lt at_idx
    split
    · exact extends_setCscV1 _ _ _
    · exact extends_setCscV1 _ _ _
    · rename_i found
      exact extends_setScalerV1 _ _ _ (inRange _ found)
    · rename_i found
      exact extends_setScalerV2 _ _ _ (inRange _ found)
    · exact extends_setExclRectV1 _ _ _
    · exact .refl _

theorem extends_foldl (sets : List PropertySet) (p : Prepared) :
    p.Extends (sets.foldl setProperty p) := by
  induction sets generalizing p with
  | nil => exact .refl p
  | cons set sets ih => exact (extends_setProperty p set).trans (ih _)

end Prepared

/-! ## The comparison with the old state -/

def AllChanged (old : PlaneState) (pending : Bool) (st : PlaneState) : Prop :=
  (st.enabled = false ∨ old.enabled = false) ∨ pending = true ∨
    st.multirectIndex ≠ old.multirectIndex ∨ st.multirectMode ≠ old.multirectMode

def RectChanged (old st : PlaneState) : Prop :=
  (st.rot.outSrcW ≠ old.rot.outSrcW ∨ st.rot.outSrcH ≠ old.rot.outSrcH ∨
      st.rot.outSrcX ≠ old.rot.outSrcX ∨ st.rot.outSrcY ≠ old.rot.outSrcY) ∨
    (st.crtcW ≠ old.crtcW ∨ st.crtcH ≠ old.crtcH ∨ st.crtcX ≠ old.crtcX ∨ st.crtcY ≠ old.crtcY) ∨
    st.exclRect ≠ old.exclRect

def FbChanged (old st : PlaneState) : Prop :=
  ∃ fb oldFb, st.rot.outFb = some fb ∧ old.rot.outFb = some oldFb ∧
    (fb.pixelFormat ≠ oldFb.pixelFormat ∨ st.constAlphaEn ≠ old.constAlphaEn ∨
      fb.modifier ≠ oldFb.modifier ∨ ∃ i < 4, fb.offsets i ≠ oldFb.offsets i)

def PitchesChanged (old st : PlaneState) : Prop :=
  ∃ fb oldFb, st.rot.outFb = some fb ∧ old.rot.outFb = some oldFb ∧ ∃ i < 4,
    fb.pitches i ≠ oldFb.pitches i

variable (old : PlaneState)

theorem has_stateChanged_rects (pending : Bool) (st : PlaneState) (dirty : U32) :
    has (stateChanged old pending st dirty) dirtyRects = true ↔
      has dirty dirtyRects = true ∨ AllChanged old pending st ∨ RectChanged old st := by
  have rects : has dirtyRects dirtyRects = true := by decide
  have ored : ∀ bits, has bits dirtyRects = true → has (dirty ||| bits) dirtyRects = true :=
    fun bits sets => by rw [has_or, sets, Bool.or_true]
  unfold stateChanged
  split_ifs with disabled pending multirect source destination excl
  · exact iff_of_true (ored _ all_rects) (.inr (.inl (.inl (by simpa using disabled))))
  · exact iff_of_true (ored _ all_rects) (.inr (.inl (.inr (.inl pending))))
  · exact iff_of_true (ored _ all_rects) (.inr (.inl (.inr (.inr multirect))))
  · exact iff_of_true (ored _ rects) (.inr (.inr (.inl source)))
  · exact iff_of_true (ored _ rects) (.inr (.inr (.inr (.inl destination))))
  · exact iff_of_true (ored _ rects) (.inr (.inr (.inr (.inr excl))))
  · refine ⟨.inl, fun watched => watched.resolve_right ?_⟩
    rintro ((off | on | changed) | moved | resized | cut)
    · exact disabled (by simpa using off)
    · exact pending on
    · exact multirect changed
    · exact source moved
    · exact destination resized
    · exact excl cut

theorem has_stateChanged (among : has dirtyAll bits = true)
    (apart : has dirtyRects bits = false) (old : PlaneState) (pending : Bool) (st : PlaneState)
    (dirty : U32) :
    has (stateChanged old pending st dirty) bits = true ↔
      has dirty bits = true ∨ AllChanged old pending st := by
  have all : has (dirty ||| dirtyAll) bits = true := by rw [has_or, among, Bool.or_true]
  have rects : has (dirty ||| dirtyRects) bits = has dirty bits := by
    rw [has_or, apart, Bool.or_false]
  unfold stateChanged
  by_cases disabled : !st.enabled ∨ !old.enabled
  · rw [if_pos disabled]
    exact iff_of_true all (.inr (.inl (by simpa using disabled)))
  by_cases waits : pending
  · rw [if_neg disabled, if_pos waits]
    exact iff_of_true all (.inr (.inr (.inl waits)))
  by_cases multirect : st.multirectIndex ≠ old.multirectIndex ∨ st.multirectMode ≠ old.multirectMode
  · rw [if_neg disabled, if_neg waits, if_pos multirect]
    exact iff_of_true all (.inr (.inr (.inr multirect)))
  have steady : ¬AllChanged old pending st := by
    rintro (off | on | changed)
    · exact disabled (by simpa using off)
    · exact waits on
    · exact multirect changed
  rw [if_neg disabled, if_neg waits, if_neg multirect, or_iff_left steady]
  split_ifs
  · exact iff_of_eq (congrArg (· = true) rects)
  · exact iff_of_eq (congrArg (· = true) rects)
  · exact iff_of_eq (congrArg (· = true) rects)
  · exact Iff.rfl

theorem has_ite (cond : Prop) [Decidable cond] (dirty added bits : U32) :
    has (if cond then dirty ||| added else dirty) bits = true ↔
      has dirty bits = true ∨ cond ∧ has added bits = true := by
  by_cases holds : cond
  · rw [if_pos holds, has_or, Bool.or_eq_true, and_iff_right holds]
  · rw [if_neg holds, or_iff_left fun both => holds both.1]

theorem has_fbChanged (bits : U32) (old st : PlaneState) (dirty : U32) :
    has (fbChanged old st dirty) bits = true ↔
      has dirty bits = true ∨ (FbChanged old st ∧ has (dirtyFormat ||| dirtyRects) bits = true) ∨
        (PitchesChanged old st ∧ has dirtyRects bits = true) := by
  unfold fbChanged
  rcases here : st.rot.outFb with _ | fb
  · simp [FbChanged, PitchesChanged, here]
  rcases there : old.rot.outFb with _ | oldFb
  · simp [FbChanged, PitchesChanged, there]
  have pitched : PitchesChanged old st ↔ ∃ i < 4, fb.pitches i ≠ oldFb.pitches i := by
    simp [PitchesChanged, here, there]
  have changed : FbChanged old st ↔
      (fb.pixelFormat ≠ oldFb.pixelFormat ∨ st.constAlphaEn ≠ old.constAlphaEn) ∨
        fb.modifier ≠ oldFb.modifier ∨ ∃ i < 4, fb.offsets i ≠ oldFb.offsets i := by
    simp [FbChanged, here, there, or_assoc]
  have wider : has dirtyRects bits = true → has (dirtyFormat ||| dirtyRects) bits = true :=
    fun rects => by
    rw [has_or, rects, Bool.or_true]
  rw [pitched, changed]
  dsimp only
  by_cases format : fb.pixelFormat ≠ oldFb.pixelFormat ∨ st.constAlphaEn ≠ old.constAlphaEn
  · rw [if_pos format, has_or, Bool.or_eq_true]
    refine or_congr_right ⟨fun sets => .inl ⟨.inl format, sets⟩, fun watched => ?_⟩
    rcases watched with ⟨-, sets⟩ | ⟨-, sets⟩
    · exact sets
    · exact wider sets
  · rw [if_neg format, has_ite, has_ite, has_ite, or_iff_right format, or_and_right]
    have shuffle : ∀ {d m p o : Prop}, ((d ∨ m) ∨ p) ∨ o ↔ d ∨ (m ∨ o) ∨ p := by
      simp only [or_comm, or_left_comm, implies_true]
    exact shuffle

theorem has_modeChanged_rects (pending : Bool) (st : PlaneState) (dirty : U32) :
    has (modeChanged old pending st dirty) dirtyRects = true ↔
      has dirty dirtyRects = true ∨ (AllChanged old pending st ∨ RectChanged old st) ∨
        FbChanged old st ∨ PitchesChanged old st := by
  unfold modeChanged
  split
  · rename_i all
    rw [all]
    exact iff_of_true all_rects (.inl all_rects)
  · have both : has (dirtyFormat ||| dirtyRects) dirtyRects = true := by decide
    have rects : has dirtyRects dirtyRects = true := by decide
    rw [has_fbChanged, has_stateChanged_rects, and_iff_left both, and_iff_left rects, or_assoc]

theorem has_modeChanged_format (pending : Bool) (st : PlaneState) (dirty : U32) :
    has (modeChanged old pending st dirty) dirtyFormat = true ↔
      has dirty dirtyFormat = true ∨ AllChanged old pending st ∨ FbChanged old st := by
  unfold modeChanged
  split
  · rename_i all
    rw [all]
    exact iff_of_true all_format (.inl all_format)
  · have both : has (dirtyFormat ||| dirtyRects) dirtyFormat = true := by decide
    have rects : has dirtyRects dirtyFormat ≠ true := by decide
    rw [has_fbChanged, has_stateChanged all_format (by decide), and_iff_left both,
      or_iff_left fun pitches : _ ∧ _ => rects pitches.2, or_assoc]

theorem has_modeChanged_fbTranslationMode (pending : Bool) (st : PlaneState) (dirty : U32) :
    has (modeChanged old pending st dirty) dirtyFbTranslationMode = true ↔
      has dirty dirtyFbTranslationMode = true ∨ AllChanged old pending st := by
  unfold modeChanged
  split
  · rename_i all
    rw [all]
    exact iff_of_true all_fbTranslationMode (.inl all_fbTranslationMode)
  · have both : has (dirtyFormat ||| dirtyRects) dirtyFbTranslationMode ≠ true := by decide
    have rects : has dirtyRects dirtyFbTranslationMode ≠ true := by decide
    rw [has_fbChanged, has_stateChanged all_fbTranslationMode (by decide),
      or_iff_left (not_or.mpr ⟨fun fbs => both fbs.2, fun pitches => rects pitches.2⟩)]

/-! ## The dirty properties of an update -/

namespace Plane

def dirtyProperties (caps : Caps) (pl : Plane) (req : Request) : List ℕ :=
  dirtyIndices (pl.prepared caps req).info.propertyCount (pl.prepared caps req).state.propertyState

theorem duplicateState_queue (caps : Caps) (pl : Plane) :
    ∃ xs, Dirty (pl.duplicateState caps).info.propertyCount
    (pl.duplicateState caps).state.propertyState xs ∧
      (∀ idx, ((pl.duplicateState caps).state.propertyState.valueAt idx).value ≠
        (pl.state.propertyState.valueAt idx).value → idx ∈ xs) ∧
      (pl.duplicateState caps).state.scaler = pl.state.scaler := by
  unfold duplicateState
  dsimp only
  generalize copied : (⟨{ pl.state with
      propertyState :=
        (Property.msmPropertyDuplicateState pl.info (fun _ => 0) pl.state.propertyState).2
      rot := { pl.state.rot with rotHw := none, outFb := none } }, pl.info,
        pl.cscUsrPtr⟩ : Prepared) = copy
  have extended := Prepared.extends_msmPropertySet copy caps.inputFence caps.inputFenceDefault none
  subst copied
  obtain ⟨xs, queue, -, marked, -⟩ := extended.queue [] (Property.dirty_init pl.info _ _)
  exact ⟨xs, by rw [extended.count]; exact queue, marked, rfl⟩

theorem prepared_queue (caps : Caps) (pl : Plane) (req : Request) :
    Dirty (pl.prepared caps req).info.propertyCount (pl.prepared caps req).state.propertyState
        (pl.dirtyProperties caps req) ∧
      (∀ idx, ((pl.prepared caps req).state.propertyState.valueAt idx).value ≠
        (pl.state.propertyState.valueAt idx).value → idx ∈ pl.dirtyProperties caps req) ∧
      ((pl.prepared caps req).state.scaler.user = pl.state.scaler.user ∨
        ScalerDirty (pl.dirtyProperties caps req)) := by
  obtain ⟨xs, queue, marked, scaler⟩ := duplicateState_queue caps pl
  have extended := Prepared.extends_foldl req.sets (pl.duplicateState caps)
  obtain ⟨ys, queue', kept, marked', scaler'⟩ := extended.queue xs queue
  rw [← extended.count] at queue'
  have found : pl.dirtyProperties caps req = ys := queue'.dirtyIndices_eq
  rw [found]
  refine ⟨queue', fun idx changed => ?_, scaler ▸ scaler'⟩
  by_cases early : ((pl.duplicateState caps).state.propertyState.valueAt idx).value =
      (pl.state.propertyState.valueAt idx).value
  · exact marked' idx (early ▸ changed)
  · exact kept (marked idx early)

/-! ## What makes a group dirty -/

section Watched
variable (caps : Caps) (pl : Plane) (req : Request)

def RotatorMoved : Prop :=
  req.streams = true ∧ (req.streamed.checked.nplane ≠ pl.state.rot.nplane ∨
    req.streamed.checked.outXpos ≠ pl.state.rot.outXpos)

def AnythingChanged : Prop :=
  pl.revalidate = true ∨ AllChanged pl.state pl.pending (pl.checked caps req) ∨
    AllChanged pl.state pl.pending (pl.decided caps req)

def PropertyAsks (bits : U32) : Prop :=
  ∃ idx ∈ pl.dirtyProperties caps req, has (propDirty 0 idx) bits = true

def RectsWatched : Prop :=
  pl.AnythingChanged caps req ∨ pl.RotatorMoved req ∨
    (RectChanged pl.state (pl.checked caps req) ∨ RectChanged pl.state (pl.decided caps req)) ∨
    (FbChanged pl.state (pl.checked caps req) ∨ FbChanged pl.state (pl.decided caps req)) ∨
    (PitchesChanged pl.state (pl.checked caps req) ∨ PitchesChanged pl.state
      (pl.decided caps req)) ∨
    pl.PropertyAsks caps req dirtyRects ∨ req.crtc.roiDirty = true

def FormatWatched : Prop :=
  pl.AnythingChanged caps req ∨ pl.RotatorMoved req ∨
    (FbChanged pl.state (pl.checked caps req) ∨ FbChanged pl.state (pl.decided caps req)) ∨
    pl.PropertyAsks caps req dirtyFormat

def FbTranslationModeWatched : Prop :=
  pl.AnythingChanged caps req ∨ pl.PropertyAsks caps req dirtyFbTranslationMode

def dirtyBits : U32 :=
  (dirtyAtUpdate (pl.swapped caps req) pl.state pl.pending (pl.checkedDirty caps req)).2

end Watched

theorem has_rotAtomicCheck (bits : U32) (caps : Caps) (pl : Plane) (req : Request) :
    has (rotAtomicCheck pl.state (pl.prepared caps req).state req).2 bits = true ↔
      pl.RotatorMoved req ∧ has (dirtyFormat ||| dirtyRects) bits = true := by
  unfold rotAtomicCheck
  split
  · rename_i streams
    dsimp only
    split
    · exact (and_iff_right (⟨streams, ‹_›⟩ : pl.RotatorMoved req)).symm
    · exact iff_of_false (by simp) fun moved => absurd moved.1.2 ‹_›
  · exact iff_of_false (by simp) fun moved => absurd moved.1.1 ‹_›

theorem rotAtomicCheck_state (st : PlaneState) (req : Request) :
    ∃ rot, (rotAtomicCheck old st req).1 = { st with rot } := by
  unfold rotAtomicCheck
  split
  · exact ⟨_, rfl⟩
  · exact ⟨_, rfl⟩

theorem decided_propertyState (caps : Caps) (pl : Plane) (req : Request) :
    (pl.decided caps req).propertyState = (pl.prepared caps req).state.propertyState := by
  obtain ⟨rot, rotated⟩ := rotAtomicCheck_state pl.state (pl.prepared caps req).state req
  change (rotAtomicCheck pl.state (pl.prepared caps req).state req).1.propertyState = _
  rw [rotated]

theorem has_popped (among : has dirtyAll bits = true) (caps : Caps) (pl : Plane)
    (req : Request) (dirty : U32) :
    has (popDirtyLoop ((pl.swapped caps req).info.propertyCount + 1)
        (pl.swapped caps req).state.propertyState dirty).2 bits = true ↔
      has dirty bits = true ∨ pl.PropertyAsks caps req bits := by
  obtain ⟨queue, -, -⟩ := pl.prepared_queue caps req
  have popped := popDirtyLoop_eq queue (Nat.lt_succ_of_le queue.length_le) dirty
  change has (popDirtyLoop ((pl.prepared caps req).info.propertyCount + 1)
    (pl.decided caps req).propertyState dirty).2 bits = true ↔ _
  rw [decided_propertyState, popped, has_foldl_propDirty among, Bool.or_eq_true, List.any_eq_true]
  exact Iff.rfl

theorem has_dirtyBits (among : has dirtyAll bits = true) (caps : Caps) (pl : Plane)
    (req : Request) {Changed : PlaneState → Prop}
    (compares : ∀ st dirty, has (modeChanged pl.state pl.pending st dirty) bits = true ↔
      has dirty bits = true ∨ Changed st) :
    has (pl.dirtyBits caps req) bits = true ↔
      pl.revalidate = true ∨
        has (rotAtomicCheck pl.state (pl.prepared caps req).state req).2 bits = true ∨
        (Changed (pl.checked caps req) ∨ Changed (pl.decided caps req)) ∨
          pl.PropertyAsks caps req bits ∨
        (req.crtc.roiDirty = true ∧ has dirtyRects bits = true) := by
  have start : has (if pl.revalidate then dirtyAll else pl.checkedDirty caps req) bits = true ↔
      pl.revalidate = true ∨
        has (rotAtomicCheck pl.state (pl.prepared caps req).state req).2 bits = true ∨
        Changed (pl.checked caps req) := by
    split
    · exact iff_of_true among (.inl ‹_›)
    · rw [or_iff_right ‹_›]
      exact compares _ _
  change has (if req.crtc.roiDirty then modeChanged _ _ (pl.decided caps req) _ ||| dirtyRects
    else modeChanged _ _ (pl.decided caps req) _) bits = true ↔ _
  rw [has_ite, compares, has_popped among]
  change ((has (if pl.revalidate then dirtyAll else pl.checkedDirty caps req) bits = true ∨
    _) ∨ _) ∨ _ ↔ _
  rw [start]
  have shuffle : ∀ {v r c a d e : Prop}, (((v ∨ r ∨ c) ∨ a) ∨ d) ∨ e ↔ v ∨ r ∨ (c ∨ d) ∨ a ∨ e := by
    simp only [or_comm, or_left_comm, implies_true]
  exact shuffle

theorem rects_dirty_iff (caps : Caps) (pl : Plane) (req : Request) :
    has (pl.dirtyBits caps req) dirtyRects = true ↔ pl.RectsWatched caps req := by
  have rects : has dirtyRects dirtyRects = true := by decide
  have both : has (dirtyFormat ||| dirtyRects) dirtyRects = true := by decide
  rw [has_dirtyBits all_rects caps pl req fun st dirty => has_modeChanged_rects _ _ st dirty,
    has_rotAtomicCheck, and_iff_left both, and_iff_left rects]
  have shuffle : ∀ {v m c c' r r' f f' p p' a e : Prop},
      v ∨ m ∨ (((c ∨ r) ∨ f ∨ p) ∨ (c' ∨ r') ∨ f' ∨ p') ∨ a ∨ e ↔
        (v ∨ c ∨ c') ∨ m ∨ (r ∨ r') ∨ (f ∨ f') ∨ (p ∨ p') ∨ a ∨ e := by
    simp only [or_comm, or_left_comm, implies_true]
  exact shuffle

theorem format_dirty_iff (caps : Caps) (pl : Plane) (req : Request) :
    has (pl.dirtyBits caps req) dirtyFormat = true ↔ pl.FormatWatched caps req := by
  have rects : has dirtyRects dirtyFormat ≠ true := by decide
  have both : has (dirtyFormat ||| dirtyRects) dirtyFormat = true := by decide
  rw [has_dirtyBits all_format caps pl req fun st dirty => has_modeChanged_format _ _ st dirty,
    has_rotAtomicCheck, and_iff_left both, or_iff_left fun region : _ ∧ _ => rects region.2]
  have shuffle : ∀ {v m c c' f f' a : Prop},
      v ∨ m ∨ ((c ∨ f) ∨ c' ∨ f') ∨ a ↔ (v ∨ c ∨ c') ∨ m ∨ (f ∨ f') ∨ a := by
    simp only [or_comm, or_left_comm, implies_true]
  exact shuffle

theorem fbTranslationMode_dirty_iff (caps : Caps) (pl : Plane) (req : Request) :
    has (pl.dirtyBits caps req) dirtyFbTranslationMode = true ↔
    pl.FbTranslationModeWatched caps req := by
  have rects : has dirtyRects dirtyFbTranslationMode ≠ true := by decide
  have both : has (dirtyFormat ||| dirtyRects) dirtyFbTranslationMode ≠ true := by decide
  rw [has_dirtyBits all_fbTranslationMode caps pl req fun st dirty =>
      has_modeChanged_fbTranslationMode _ _ st dirty,
    has_rotAtomicCheck, or_iff_right fun moved : _ ∧ _ => both moved.2,
    or_iff_left fun region : _ ∧ _ => rects region.2, ← or_assoc]
  exact Iff.rfl

end Plane

end DisplayDrivers.Sspp
