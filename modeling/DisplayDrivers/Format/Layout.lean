import DisplayDrivers.Format.Check

/-! # The layout of a frame buffer, with the addresses of its planes (`msm/sde/sde_formats.c`)

`sde_format_populate_layout` sizes the planes of a frame buffer and then places them: the planes of
a linear buffer have each an address of their own, those of a compressed or tiled one follow a
single base address.
-/

namespace DisplayDrivers.Format

def EAGAIN : Int := 11
def EFAULT : Int := 14

structure GemObject where
  iova : ℕ → U64
  dmaAddr : U64

/-- `struct drm_framebuffer`, with the objects of `struct msm_framebuffer`. -/
structure Framebuffer where
  format : SdeFormat
  width : U32
  height : U32
  pitches : ℕ → U32
  offsets : ℕ → U32
  planes : ℕ → Option GemObject

def msmFramebufferIova (fb : Framebuffer) (aspace plane : ℕ) : U32 :=
  match fb.planes plane with
  | none => 0
  | some bo => (bo.iova aspace + (fb.offsets plane).setWidth 64).setWidth 32

def msmFramebufferPhys (fb : Framebuffer) (plane : ℕ) : U32 :=
  match fb.planes plane with
  | none => 0
  | some bo =>
    if bo.dmaAddr = 0 then 0
    else (bo.dmaAddr + (fb.offsets plane).setWidth 64).setWidth 32

def fbAddr (aspace : Option ℕ) (fb : Framebuffer) (plane : ℕ) : U32 :=
  match aspace with
  | some aspace => msmFramebufferIova fb aspace plane
  | none => msmFramebufferPhys fb plane

def HwFmtLayout.setAddr (layout : HwFmtLayout) (plane : ℕ) (addr : U32) : HwFmtLayout :=
  { layout with planeAddr := fun i => if i = plane then addr else layout.planeAddr i }

section Populate
variable (aspace : Option ℕ) (fb : Framebuffer)

def sdeFormatPopulateAddrsUbwc (layout : HwFmtLayout) : Int × HwFmtLayout :=
  let baseAddr := fbAddr aspace fb 0
  if baseAddr = 0 then (-EFAULT, layout)
  else if layout.format.isYuv then
    let bitstream := (layout.setAddr 0 (baseAddr + layout.planeSize 2)).setAddr 1
      (baseAddr + layout.planeSize 0 + layout.planeSize 2 + layout.planeSize 3)
    if layout.format.isUbwc then
      (0, (bitstream.setAddr 2 baseAddr).setAddr 3
        (baseAddr + layout.planeSize 0 + layout.planeSize 2))
    else (0, bitstream)
  else
    let bitstream := (layout.setAddr 0 (baseAddr + layout.planeSize 2)).setAddr 1 0
    if layout.format.isUbwc then (0, (bitstream.setAddr 2 baseAddr).setAddr 3 0)
    else (0, bitstream)

def populateAddrsFrom (plane : ℕ) : ℕ → HwFmtLayout → Int × HwFmtLayout
  | 0, layout => (0, layout)
  | left + 1, layout =>
    let layout := layout.setAddr plane (fbAddr aspace fb plane)
    if layout.planeAddr plane = 0 then (-EFAULT, layout)
    else populateAddrsFrom (plane + 1) left layout

def sdeFormatPopulateAddrsLinear (layout : HwFmtLayout) : Int × HwFmtLayout :=
  if ∃ i < layout.numPlanes, layout.planePitch i > fb.pitches i then (-EINVAL, layout)
  else populateAddrsFrom aspace fb 0 layout.numPlanes layout

def resetLayout (fmt : SdeFormat) (width height : U32) : HwFmtLayout :=
  { format := fmt, numPlanes := fmt.numPlanes, width, height, totalSize := 0
    planeAddr := fun _ => 0, planeSize := fun _ => 0, planePitch := fun _ => 0 }

def sdeFormatPopulateAddrs (layout : HwFmtLayout) : Int × HwFmtLayout :=
  if layout.format.isUbwc ∨ layout.format.isTile then sdeFormatPopulateAddrsUbwc aspace fb layout
  else sdeFormatPopulateAddrsLinear aspace fb layout

def sdeFormatPopulateLayout (media : MsmMediaInfo) (layout : HwFmtLayout) : Int × HwFmtLayout :=
  if fb.width > SDE_MAX_IMG_WIDTH ∨ fb.height > SDE_MAX_IMG_HEIGHT then (-ERANGE, layout)
  else
    match sdeFormatGetPlaneSizes media fb.format fb.width fb.height (some fb.pitches) with
    | .error ret => (ret, resetLayout fb.format fb.width fb.height)
    | .ok sized =>
      -- the addresses to compare with are taken from the layout that has just been cleared
      let planeAddr := sized.planeAddr
      let (ret, layout) := sdeFormatPopulateAddrs aspace fb sized
      if ret = 0 ∧ ∀ i < SDE_MAX_PLANES, planeAddr i = layout.planeAddr i then (-EAGAIN, layout)
      else (ret, layout)

end Populate

/-! ## Sized layouts -/

structure Sized (fb : Framebuffer) (sized : HwFmtLayout) : Prop where
  format : sized.format = fb.format
  width : sized.width = fb.width
  height : sized.height = fb.height
  unplaced : sized.planeAddr = fun _ => 0

section Sized
variable {media : MsmMediaInfo} {fb : Framebuffer} {sized : HwFmtLayout}

theorem raisePitches_eq (pitches : Option (ℕ → U32)) (layout : HwFmtLayout) :
    ∃ planePitch, raisePitches pitches layout = { layout with planePitch } := by
  cases pitches with
  | none => exact ⟨layout.planePitch, rfl⟩
  | some asked => exact ⟨_, rfl⟩

theorem sized_layoutOf (numPlanes : ℕ) (first second third fourth : PlaneExtent) :
    Sized fb (layoutOf fb.format fb.width fb.height numPlanes first second third fourth) where
  format := rfl
  width := rfl
  height := rfl
  unplaced := rfl

theorem Sized.raise (sizes : Sized fb sized) (pitches : Option (ℕ → U32)) :
    Sized fb (raisePitches pitches sized) := by
  obtain ⟨planePitch, raised⟩ := raisePitches_eq pitches sized
  rw [raised]
  exact { format := sizes.format, width := sizes.width, height := sizes.height,
          unplaced := sizes.unplaced }

def ubwcPlaneCount (fmt : SdeFormat) : ℕ :=
  if fmt.isYuv then if fmt.isUbwc then 4 else 2
  else if fmt.isUbwc then 3 else 1

structure UbwcSized (fmt : SdeFormat) (sized : HwFmtLayout) : Prop where
  count : sized.numPlanes = ubwcPlaneCount fmt
  bare : fmt.isUbwc = false → sized.planeSize 2 = 0 ∧ sized.planeSize 3 = 0
  packed : fmt.isYuv = false → sized.planeSize 1 = 0 ∧ sized.planeSize 3 = 0

theorem ubwcSized_of_ubwc
    (computed : sdeFormatGetPlaneSizesUbwc media fb.format fb.width fb.height = .ok sized) :
    Sized fb sized ∧ UbwcSized fb.format sized := by
  unfold sdeFormatGetPlaneSizesUbwc at computed
  cases found : sdeFormatGetMediaColorUbwc fb.format with
  | none => simp [found] at computed
  | some color =>
    simp only [found] at computed
    split at computed <;> split at computed
    case isTrue.isTrue yuv compressed =>
      obtain rfl := Except.ok.inj computed
      exact ⟨sized_layoutOf _ _ _ _ _,
        { count := by simp [layoutOf, ubwcPlaneCount, yuv, compressed]
          bare := by simp [compressed]
          packed := by simp [yuv] }⟩
    case isTrue.isFalse yuv tiled =>
      obtain rfl := Except.ok.inj computed
      exact ⟨sized_layoutOf _ _ _ _ _,
        { count := by simp [layoutOf, ubwcPlaneCount, yuv, tiled]
          bare := by simp [layoutOf, planes, PlaneExtent.unused]
          packed := by simp [yuv] }⟩
    case isFalse.isTrue rgb compressed =>
      obtain rfl := Except.ok.inj computed
      exact ⟨sized_layoutOf _ _ _ _ _,
        { count := by simp [layoutOf, ubwcPlaneCount, rgb, compressed]
          bare := by simp [compressed]
          packed := by simp [layoutOf, planes, PlaneExtent.unused] }⟩
    case isFalse.isFalse rgb tiled =>
      obtain rfl := Except.ok.inj computed
      exact ⟨sized_layoutOf _ _ _ _ _,
        { count := by simp [layoutOf, ubwcPlaneCount, rgb, tiled]
          bare := by simp [layoutOf, planes, PlaneExtent.unused]
          packed := by simp [layoutOf, planes, PlaneExtent.unused] }⟩

variable {pitches : Option (ℕ → U32)}

theorem sized_of_linear
    (computed : sdeFormatGetPlaneSizesLinear fb.format fb.width fb.height pitches = .ok sized) :
    Sized fb sized ∧ 0 < sized.numPlanes := by
  unfold sdeFormatGetPlaneSizesLinear at computed
  split at computed
  · obtain rfl := Except.ok.inj computed
    exact ⟨(sized_layoutOf _ _ _ _ _).raise pitches, by simp [layoutOf]⟩
  · split at computed
    · cases computed
    · split at computed
      all_goals
        obtain rfl := Except.ok.inj computed
        exact ⟨(sized_layoutOf _ _ _ _ _).raise pitches, by simp [layoutOf]⟩

theorem kind_of_getPlaneSizes
    (computed : sdeFormatGetPlaneSizes media fb.format fb.width fb.height pitches = .ok sized) :
    ((fb.format.isUbwc ∨ fb.format.isTile) ∧
        sdeFormatGetPlaneSizesUbwc media fb.format fb.width fb.height = .ok sized) ∨
      (¬ (fb.format.isUbwc ∨ fb.format.isTile) ∧
        sdeFormatGetPlaneSizesLinear fb.format fb.width fb.height pitches = .ok sized) := by
  unfold sdeFormatGetPlaneSizes at computed
  split at computed
  · cases computed
  · split at computed
    case isTrue other => exact .inl ⟨other, computed⟩
    case isFalse linear => exact .inr ⟨linear, computed⟩

theorem sized_of_getPlaneSizes
    (computed : sdeFormatGetPlaneSizes media fb.format fb.width fb.height pitches = .ok sized) :
    Sized fb sized := by
  cases kind_of_getPlaneSizes computed with
  | inl ubwc => exact (ubwcSized_of_ubwc ubwc.2).1
  | inr linear => exact (sized_of_linear linear.2).1

theorem inside_of_getPlaneSizes
    (computed : sdeFormatGetPlaneSizes media fb.format fb.width fb.height pitches = .ok sized) :
    ¬ (fb.width > SDE_MAX_IMG_WIDTH ∨ fb.height > SDE_MAX_IMG_HEIGHT) := by
  intro outside
  simp [sdeFormatGetPlaneSizes, outside] at computed

end Sized

/-! ## Where the planes are placed -/

def placement (aspace : Option ℕ) (fb : Framebuffer) (sized : HwFmtLayout) : ℕ → U32 :=
  let baseAddr := fbAddr aspace fb 0
  if sized.format.isUbwc ∨ sized.format.isTile then
    if sized.format.isYuv then
      planes (baseAddr + sized.planeSize 2)
        (baseAddr + sized.planeSize 0 + sized.planeSize 2 + sized.planeSize 3)
        (if sized.format.isUbwc then baseAddr else 0)
        (if sized.format.isUbwc then baseAddr + sized.planeSize 0 + sized.planeSize 2 else 0)
    else
      planes (baseAddr + sized.planeSize 2) 0 (if sized.format.isUbwc then baseAddr else 0) 0
  else fun i => if i < sized.numPlanes then fbAddr aspace fb i else 0

def Placeable (aspace : Option ℕ) (fb : Framebuffer) (sized : HwFmtLayout) : Prop :=
  if sized.format.isUbwc ∨ sized.format.isTile then fbAddr aspace fb 0 ≠ 0
  else ∀ i < sized.numPlanes, sized.planePitch i ≤ fb.pitches i ∧ fbAddr aspace fb i ≠ 0

section Placement
variable {aspace : Option ℕ} {fb : Framebuffer} {sized : HwFmtLayout}

@[simp] theorem setAddr_planeAddr (layout : HwFmtLayout) (plane : ℕ) (addr : U32) (i : ℕ) :
    (layout.setAddr plane addr).planeAddr i = if i = plane then addr else layout.planeAddr i := rfl

theorem populateAddrsFrom_spec (left : ℕ) : ∀ (plane : ℕ) (layout : HwFmtLayout),
    ((populateAddrsFrom aspace fb plane left layout).1 = 0 ↔
        ∀ i, plane ≤ i → i < plane + left → fbAddr aspace fb i ≠ 0) ∧
      ((populateAddrsFrom aspace fb plane left layout).1 = 0 →
        (populateAddrsFrom aspace fb plane left layout).2 =
          { layout with planeAddr := fun i =>
              if plane ≤ i ∧ i < plane + left then fbAddr aspace fb i
              else layout.planeAddr i }) := by
  induction left with
  | zero =>
    intro plane layout
    -- no plane is left, and the layout stays as it is
    have none : ∀ i, ¬ (plane ≤ i ∧ i < plane + 0) := by omega
    constructor
    · simp only [populateAddrsFrom, true_iff]
      intro i low high
      omega
    · intro _
      simp only [populateAddrsFrom, none, if_false]
  | succ left ih =>
    intro plane layout
    obtain ⟨done, written⟩ := ih (plane + 1) (layout.setAddr plane (fbAddr aspace fb plane))
    simp only [populateAddrsFrom, setAddr_planeAddr, if_true]
    split
    case isTrue missing =>
      constructor
      · constructor
        · intro failed
          simp [EFAULT] at failed
        · intro present
          exact absurd missing (present plane (Nat.le_refl _) (by omega))
      · intro failed
        simp [EFAULT] at failed
    case isFalse mapped =>
      constructor
      · rw [done]
        constructor
        · intro rest i low high
          by_cases first : i = plane
          · rw [first]
            exact mapped
          · exact rest i (by omega) (by omega)
        · intro all i low high
          exact all i (by omega) (by omega)
      · intro returned
        rw [written returned, HwFmtLayout.setAddr]
        simp only [HwFmtLayout.mk.injEq, true_and, and_true]
        funext i
        -- the rest of the loop does not come back to this plane
        by_cases first : i = plane
        · simp [first]
        · have same : (plane + 1 ≤ i ∧ i < plane + 1 + left) ↔
              (plane ≤ i ∧ i < plane + (left + 1)) := by omega
          simp only [same, first, if_false]

theorem populateAddrsLinear_spec (unplaced : sized.planeAddr = fun _ => 0) :
    ((sdeFormatPopulateAddrsLinear aspace fb sized).1 = 0 ↔
        ∀ i < sized.numPlanes, sized.planePitch i ≤ fb.pitches i ∧ fbAddr aspace fb i ≠ 0) ∧
      ((sdeFormatPopulateAddrsLinear aspace fb sized).1 = 0 →
        (sdeFormatPopulateAddrsLinear aspace fb sized).2 =
          { sized with planeAddr := fun i =>
              if i < sized.numPlanes then fbAddr aspace fb i else 0 }) := by
  obtain ⟨done, written⟩ := @populateAddrsFrom_spec aspace fb sized.numPlanes 0 sized
  unfold sdeFormatPopulateAddrsLinear
  split
  case isTrue small =>
    obtain ⟨i, used, pitch⟩ := small
    constructor
    · constructor
      · intro failed
        simp [EINVAL] at failed
      · intro fits
        exact absurd (fits i used).1 (by simpa [BitVec.not_le] using pitch)
    · intro failed
      simp [EINVAL] at failed
  case isFalse large =>
    have pitches : ∀ i < sized.numPlanes, sized.planePitch i ≤ fb.pitches i := by
      intro i used
      by_contra above
      exact large ⟨i, used, by simpa [BitVec.not_le] using above⟩
    constructor
    · rw [done]
      constructor
      · intro mapped i used
        exact ⟨pitches i used, mapped i (Nat.zero_le i) (by omega)⟩
      · intro fits i _ used
        exact (fits i (by omega)).2
    · intro returned
      rw [written returned, unplaced]
      simp

theorem populateAddrsUbwc_spec (unplaced : sized.planeAddr = fun _ => 0)
    (other : sized.format.isUbwc ∨ sized.format.isTile) :
    ((sdeFormatPopulateAddrsUbwc aspace fb sized).1 = 0 ↔ fbAddr aspace fb 0 ≠ 0) ∧
      ((sdeFormatPopulateAddrsUbwc aspace fb sized).1 = 0 →
        (sdeFormatPopulateAddrsUbwc aspace fb sized).2 =
          { sized with planeAddr := placement aspace fb sized }) := by
  by_cases missing : fbAddr aspace fb 0 = 0
  · simp [sdeFormatPopulateAddrsUbwc, missing, EFAULT]
  · have addresses : ∀ addr : ℕ → U32, (∀ i, addr i = placement aspace fb sized i) →
        ({ sized with planeAddr := addr } : HwFmtLayout) =
          { sized with planeAddr := placement aspace fb sized } := by
      intro addr same
      rw [funext same]
    cases yuv : sized.format.isYuv <;> cases compressed : sized.format.isUbwc
    all_goals
      simp only [sdeFormatPopulateAddrsUbwc, missing, yuv, compressed, if_false, if_true,
        Bool.false_eq_true, ne_eq, not_false_eq_true, true_and, forall_const]
      apply addresses
      intro i
      rw [placement, if_pos other]
      match i with
      | 0 | 1 | 2 | 3 | _ + 4 => simp [planes, yuv, compressed, unplaced, HwFmtLayout.setAddr]

theorem populateAddrs_spec (unplaced : sized.planeAddr = fun _ => 0) :
    ((sdeFormatPopulateAddrs aspace fb sized).1 = 0 ↔ Placeable aspace fb sized) ∧
      ((sdeFormatPopulateAddrs aspace fb sized).1 = 0 →
        (sdeFormatPopulateAddrs aspace fb sized).2 =
          { sized with planeAddr := placement aspace fb sized }) := by
  unfold sdeFormatPopulateAddrs Placeable
  split
  case isTrue other => exact populateAddrsUbwc_spec unplaced other
  case isFalse linear =>
    have places : placement aspace fb sized =
        fun i => if i < sized.numPlanes then fbAddr aspace fb i else 0 := if_neg linear
    rw [places]
    exact populateAddrsLinear_spec unplaced

end Placement

/-! ## What the call comes to -/

section Populated
variable {media : MsmMediaInfo} {aspace : Option ℕ} {fb : Framebuffer} {sized : HwFmtLayout}

theorem placement_ne_zero
    (computed : sdeFormatGetPlaneSizes media fb.format fb.width fb.height (some fb.pitches) =
      .ok sized) (placeable : Placeable aspace fb sized) :
    ∃ i < SDE_MAX_PLANES, placement aspace fb sized i ≠ 0 := by
  have format := (sized_of_getPlaneSizes computed).format
  cases kind_of_getPlaneSizes computed with
  | inl ubwc =>
    rw [Placeable, format, if_pos ubwc.1] at placeable
    -- a compressed buffer begins with metadata, a tiled one with the bitstream
    cases compressed : fb.format.isUbwc with
    | true =>
      refine ⟨2, by decide, ?_⟩
      rw [placement, format, if_pos ubwc.1]
      cases yuv : fb.format.isYuv <;> simpa [planes, compressed, yuv] using placeable
    | false =>
      have bare := ((ubwcSized_of_ubwc ubwc.2).2.bare compressed).1
      refine ⟨0, by decide, ?_⟩
      rw [placement, format, if_pos ubwc.1]
      cases yuv : fb.format.isYuv <;> simpa [planes, bare, yuv] using placeable
  | inr linear =>
    have first := (sized_of_linear linear.2).2
    rw [Placeable, format, if_neg linear.1] at placeable
    refine ⟨0, by decide, ?_⟩
    rw [placement, format, if_neg linear.1]
    simpa [first] using (placeable 0 first).2

theorem getPlaneSizes_error {fmt : SdeFormat} {w h : U32} {pitches : Option (ℕ → U32)} {ret : Int}
    (failed : sdeFormatGetPlaneSizes media fmt w h pitches = .error ret) :
    ret = -EINVAL ∨ ret = -ERANGE := by
  unfold sdeFormatGetPlaneSizes sdeFormatGetPlaneSizesUbwc sdeFormatGetPlaneSizesLinear at failed
  grind

theorem populateAddrsFrom_error (left : ℕ) : ∀ (plane : ℕ) (layout : HwFmtLayout),
    (populateAddrsFrom aspace fb plane left layout).1 = 0 ∨
      (populateAddrsFrom aspace fb plane left layout).1 = -EFAULT := by
  induction left with
  | zero =>
    intro plane layout
    exact .inl rfl
  | succ left ih =>
    intro plane layout
    simp only [populateAddrsFrom]
    split
    · exact .inr rfl
    · exact ih _ _

theorem populateAddrs_error (layout : HwFmtLayout) :
    (sdeFormatPopulateAddrs aspace fb layout).1 = 0 ∨
      (sdeFormatPopulateAddrs aspace fb layout).1 = -EINVAL ∨
      (sdeFormatPopulateAddrs aspace fb layout).1 = -EFAULT := by
  unfold sdeFormatPopulateAddrs
  split
  · unfold sdeFormatPopulateAddrsUbwc
    by_cases missing : fbAddr aspace fb 0 = 0
    · simp [missing]
    · simp only [missing, if_false]
      cases layout.format.isYuv <;> cases layout.format.isUbwc <;> exact .inl rfl
  · unfold sdeFormatPopulateAddrsLinear
    split
    · exact .inr (.inl rfl)
    · cases populateAddrsFrom_error layout.numPlanes 0 layout with
      | inl zero => exact .inl zero
      | inr fault => exact .inr (.inr fault)

theorem populateLayout_of_placeable (held : HwFmtLayout)
    (computed : sdeFormatGetPlaneSizes media fb.format fb.width fb.height (some fb.pitches) =
      .ok sized) (placeable : Placeable aspace fb sized) :
    sdeFormatPopulateLayout aspace fb media held =
      (0, { sized with planeAddr := placement aspace fb sized }) := by
  have unplaced := (sized_of_getPlaneSizes computed).unplaced
  obtain ⟨done, written⟩ := @populateAddrs_spec aspace fb _ unplaced
  have returned := done.mpr placeable
  obtain ⟨i, inside, present⟩ := placement_ne_zero computed placeable
  -- the addresses it is compared with are 0
  have changed : ¬ ∀ i < SDE_MAX_PLANES,
      sized.planeAddr i = (sdeFormatPopulateAddrs aspace fb sized).2.planeAddr i := by
    intro same
    have at_i := same i inside
    rw [unplaced, written returned] at at_i
    exact present at_i.symm
  simp only [sdeFormatPopulateLayout, inside_of_getPlaneSizes computed, computed, returned,
    changed, if_false, and_false]
  rw [← written returned, ← returned]

theorem populateLayout_of_unplaceable (held : HwFmtLayout)
    (rejected : ∀ sized,
      sdeFormatGetPlaneSizes media fb.format fb.width fb.height (some fb.pitches) = .ok sized →
        ¬ Placeable aspace fb sized) :
    (sdeFormatPopulateLayout aspace fb media held).1 ≠ 0 ∧
      (sdeFormatPopulateLayout aspace fb media held).1 ≠ -EAGAIN := by
  unfold sdeFormatPopulateLayout
  split
  · simp [ERANGE, EAGAIN]
  · cases sizes : sdeFormatGetPlaneSizes media fb.format fb.width fb.height (some fb.pitches) with
    | error ret =>
      cases getPlaneSizes_error sizes with
      | inl invalid => simp [invalid, EINVAL, EAGAIN]
      | inr range => simp [range, ERANGE, EAGAIN]
    | ok sized =>
      have unplaced := (sized_of_getPlaneSizes sizes).unplaced
      have done := (@populateAddrs_spec aspace fb _ unplaced).1
      have failed : (sdeFormatPopulateAddrs aspace fb sized).1 ≠ 0 := by
        intro returned
        exact rejected sized sizes (done.mp returned)
      simp only [failed, false_and, if_false]
      rcases @populateAddrs_error aspace fb sized with zero | invalid | fault
      · exact absurd zero failed
      · simp [invalid, EINVAL, EAGAIN]
      · simp [fault, EFAULT, EAGAIN]

theorem populated_cases {held layout : HwFmtLayout} {ret : Int}
    (populated : sdeFormatPopulateLayout aspace fb media held = (ret, layout))
    (succeeded : ret = 0 ∨ ret = -EAGAIN) :
    ∃ sized,
      sdeFormatGetPlaneSizes media fb.format fb.width fb.height (some fb.pitches) = .ok sized ∧
      Placeable aspace fb sized ∧ ret = 0 ∧
      layout = { sized with planeAddr := placement aspace fb sized } := by
  by_cases accepted : ∃ sized,
      sdeFormatGetPlaneSizes media fb.format fb.width fb.height (some fb.pitches) = .ok sized ∧
        Placeable aspace fb sized
  · obtain ⟨sized, computed, placeable⟩ := accepted
    rw [populateLayout_of_placeable held computed placeable, Prod.mk.injEq] at populated
    exact ⟨sized, computed, placeable, populated.1.symm, populated.2.symm⟩
  · have rejected := @populateLayout_of_unplaceable media aspace fb
      held fun sized computed placeable => accepted ⟨sized, computed, placeable⟩
    rw [populated] at rejected
    cases succeeded with
    | inl zero => exact absurd zero rejected.1
    | inr again => exact absurd again rejected.2

/-! ## Whether anything changed -/

def ChangeDetected (media : MsmMediaInfo) (aspace : Option ℕ) (fb : Framebuffer)
    (held : HwFmtLayout) : Prop :=
  (sdeFormatPopulateLayout aspace fb media held).1 = -EAGAIN ↔
    ((sdeFormatPopulateLayout aspace fb media held).1 = 0 ∨
        (sdeFormatPopulateLayout aspace fb media held).1 = -EAGAIN) ∧
      ∀ i < SDE_MAX_PLANES,
        (sdeFormatPopulateLayout aspace fb media held).2.planeAddr i = held.planeAddr i

def AlreadyPlaced (media : MsmMediaInfo) (aspace : Option ℕ) (fb : Framebuffer)
    (held : HwFmtLayout) : Prop :=
  ∃ sized,
    sdeFormatGetPlaneSizes media fb.format fb.width fb.height (some fb.pitches) = .ok sized ∧
    Placeable aspace fb sized ∧
    ∀ i < SDE_MAX_PLANES, placement aspace fb sized i = held.planeAddr i

/-- A buffer that is where it was is never noticed; every other call is answered rightly. -/
theorem changeDetected_iff (held : HwFmtLayout) :
    ChangeDetected media aspace fb held ↔ ¬ AlreadyPlaced media aspace fb held := by
  unfold ChangeDetected
  by_cases accepted : ∃ sized,
      sdeFormatGetPlaneSizes media fb.format fb.width fb.height (some fb.pitches) = .ok sized ∧
        Placeable aspace fb sized
  · obtain ⟨sized, computed, placeable⟩ := accepted
    rw [populateLayout_of_placeable held computed placeable]
    have never : ¬ (0 : Int) = -EAGAIN := by simp [EAGAIN]
    simp only [never, true_or, true_and, false_iff, not_iff_not]
    constructor
    · intro same
      exact ⟨sized, computed, placeable, same⟩
    · intro ⟨sized', computed', _, same⟩
      obtain rfl : sized = sized' := by simpa [computed] using computed'
      exact same
  · have rejected := @populateLayout_of_unplaceable media aspace fb
      held fun sized computed placeable => accepted ⟨sized, computed, placeable⟩
    simp only [rejected.1, rejected.2, false_or, false_and, true_iff, iff_self]
    intro ⟨sized, computed, placeable, _⟩
    exact accepted ⟨sized, computed, placeable⟩

end Populated

/-! ### An interleaved buffer of one row, populated twice -/

def rowBuffer : Framebuffer where
  format := interleavedRgbFmt .argb8888 4 [] .linear 1
  width := 64
  height := 1
  pitches _ := 256
  offsets _ := 0
  planes _ := some { iova := fun _ => 4096, dmaAddr := 4096 }

/-- The second call with an unchanged buffer returns 0 like the first. -/
theorem not_changeDetected :
    ¬ ∀ (media : MsmMediaInfo) (aspace : Option ℕ) (fb : Framebuffer) (before held : HwFmtLayout),
      sdeFormatPopulateLayout aspace fb media before = (0, held) →
        ChangeDetected media aspace fb held := by
  intro detects
  let before := resetLayout rowBuffer.format 0 0
  let held := (sdeFormatPopulateLayout none rowBuffer noMedia before).2
  have first : sdeFormatPopulateLayout none rowBuffer noMedia before = (0, held) :=
    Prod.ext (by decide) rfl
  have again := (detects noMedia none rowBuffer before held first).mpr
    ⟨.inl (by decide), by decide⟩
  revert again
  decide

end DisplayDrivers.Format
