import DisplayDrivers.Encoder.Handles
import DisplayDrivers.Encoder.ResourceControl

/-! # A mode set between its two events

A seamless switch puts the encoder into the modeset state before it releases its blocks, and takes
it out again at the end. Where none of them does, the encoder is left as it was, or on if its
resources had to be restored first.
-/

namespace DisplayDrivers.Encoder.Handles

/-- `sde_encoder_virt_mode_set` with the two events that it raises for resource control. -/
def modeSetControlled (isVidMode : Bool) (enc : DrmEncoder) (m : ModeSet) (pre post : Env) (s : Sys)
    (rc : Enc) : Sys × Enc :=
  if ¬(m.ready ∧ m.restores) then (virtModeSet enc m s, rc)
  else
    let restored := resourceControl isVidMode pre rc .preModeset
    let set := virtModeSet enc { m with preModeset := restored.2 } s
    (set, if set.modeWasSet then (resourceControl isVidMode post restored.1 .postModeset).1
      else restored.1)

/-! ## The first event -/

def Restores (pre : Env) (rc : Enc) : Prop :=
  rc.rcState ≠ .stateOff ∧ rc.rcState ≠ .stateOn ∧ rc.curMaster ∧ pre.Grants

def Enters (pre : Env) (rc : Enc) : Prop :=
  (rc.rcState = .stateOn ∨ Restores pre rc) ∧ (pre.waitRc = 0 ∨ pre.waitRc = ewouldblock)

instance (pre : Env) (rc : Enc) : Decidable (Restores pre rc) := inferInstanceAs (Decidable (_ ∧ _))

def restoredEnc (pre : Env) (rc : Enc) : Enc :=
  if Restores pre rc then
    { rc with resources := rc.resources + 1, irqs := rc.irqs + 1, rcState := .stateOn }
  else rc

section Events

variable {isVidMode : Bool} {pre post : Env} {rc : Enc}

theorem finishPreModeset_cases (pre : Env) (rc : Enc) :
    ((pre.waitRc = 0 ∨ pre.waitRc = ewouldblock) ∧ finishPreModeset pre rc =
      ({ rc with irqs := rc.irqs - 1, rcState := .stateModeset }, 0)) ∨
    (¬(pre.waitRc = 0 ∨ pre.waitRc = ewouldblock) ∧ finishPreModeset pre rc = (rc, einval)) := by
  rw [finishPreModeset]
  by_cases waited : pre.waitRc = 0 ∨ pre.waitRc = ewouldblock
  · exact .inl ⟨waited, if_neg fun failed => waited.elim failed.1 failed.2⟩
  · exact .inr ⟨waited, if_pos (not_or.mp waited)⟩

theorem preModeset_cases (isVidMode : Bool) (pre : Env) (rc : Enc) :
    (Enters pre rc ∧ resourceControl isVidMode pre rc .preModeset =
      ({ restoredEnc pre rc with irqs := (restoredEnc pre rc).irqs - 1, rcState := .stateModeset },
        0)) ∨
    (¬Enters pre rc ∧ (resourceControl isVidMode pre rc .preModeset).1 = restoredEnc pre rc ∧
      (rc.rcState = .stateOff ∨ (resourceControl isVidMode pre rc .preModeset).2 ≠ 0)) := by
  rw [resourceControl_always rfl, onEvent, onPreModeset]
  by_cases off : rc.rcState = .stateOff
  · right
    simp [off, Enters, Restores, restoredEnc]
  · by_cases on : rc.rcState = .stateOn
    · have same : restoredEnc pre rc = rc := if_neg fun restores => restores.2.1 on
      rw [if_neg off, if_neg (not_not.mpr on), same]
      obtain ⟨waited, eq⟩ | ⟨failed, eq⟩ := finishPreModeset_cases pre rc
      · exact .inl ⟨⟨.inl on, waited⟩, eq⟩
      · rw [eq]
        exact .inr ⟨fun enters => failed enters.2, rfl, .inr (show einval ≠ 0 by decide)⟩
    · rw [if_neg off, if_pos on]
      obtain ⟨refused, eq, nonzero⟩ | ⟨granted, eq⟩ := enableInto_cases pre .stateOn rc
      · have stays : ¬Restores pre rc := fun restores => refused restores.2.2
        rw [if_pos nonzero, eq]
        refine .inr ⟨fun enters => ?_, (if_neg stays).symm, .inr nonzero⟩
        exact enters.1.elim on stays
      · have restores : Restores pre rc := ⟨off, on, granted⟩
        have restored : restoredEnc pre rc =
            { rc with resources := rc.resources + 1, irqs := rc.irqs + 1, rcState := .stateOn } :=
          if_pos restores
        rw [eq, if_neg (not_not.mpr rfl), restored]
        obtain ⟨waited, eq⟩ | ⟨failed, eq⟩ := finishPreModeset_cases pre
          { rc with resources := rc.resources + 1, irqs := rc.irqs + 1, rcState := .stateOn }
        · exact .inl ⟨⟨.inr restores, waited⟩, eq⟩
        · rw [eq]
          exact .inr ⟨fun enters => failed enters.2, rfl, .inr (show einval ≠ 0 by decide)⟩

theorem postModeset_preModeset (enters : Enters pre rc) :
    (resourceControl isVidMode post (resourceControl isVidMode pre rc .preModeset).1 .postModeset).1
    =
      { restoredEnc pre rc with rcState := .stateOn } := by
  obtain ⟨-, eq⟩ | ⟨stays, -⟩ := preModeset_cases isVidMode pre rc
  · rw [eq, resourceControl_always rfl]
    simp [onEvent, onPostModeset, irqControl]
  · exact absurd enters stays

theorem postModeset_off (off : rc.rcState = .stateOff) :
    (resourceControl isVidMode post rc .postModeset).1 = rc := by
  rw [resourceControl_always rfl]
  simp [onEvent, onPostModeset, off]

end Events

/-! ## The whole mode set -/

section ModeSet

variable {isVidMode : Bool} {enc : DrmEncoder} {m : ModeSet} {pre post : Env} {s : Sys} {rc : Enc}

/-- A mode set that needs no answer of resource control, or has a good one, is not ended by the
    blocks: they can be reserved, the ratio is known and no pingpong is missing. -/
def Completes (enc : DrmEncoder) (m : ModeSet) (s : Sys) : Prop :=
  (m.reserve enc s.rm).1 = 0 ∧
    (cacheHandles enc m (m.reserve enc s.rm).2 (m.prepare s.enc)).2 = true

def ModeSet.Entered (m : ModeSet) (pre : Env) (rc : Enc) : Prop :=
  (m.ready ∧ m.restores) ∧ Enters pre rc

def ModeSet.Restored (m : ModeSet) (pre : Env) (rc : Enc) : Prop :=
  (m.ready ∧ m.restores) ∧ Restores pre rc

instance : Decidable (m.Restored pre rc) := inferInstanceAs (Decidable (_ ∧ _))

def Usable (isVidMode : Bool) (rc : Enc) : Prop :=
  ∀ env : Env, env.Grants →
    (resourceControl isVidMode env { rc with curMaster := true } .kickoff).2 = 0

theorem usable_iff : Usable isVidMode rc ↔ rc.rcState ≠ .statePreOff ∧
    rc.rcState ≠ .stateModeset := by
  rw [Usable]
  simp only [resourceControl_always (show RcEvent.kickoff.always = true from rfl),
    onEvent, onKickoff]
  constructor
  · intro usable
    have accepted := usable ⟨true, false, 0, 0, 0⟩ ⟨rfl, rfl⟩
    refine ⟨fun state => ?_, fun state => ?_⟩
    · simp [state, einval] at accepted
    · simp [state, einval] at accepted
  · rintro ⟨preOff, modeset⟩ env grants
    have granted := enableInto_cases env .stateOn { rc with curMaster := true }
    have enabled : (enableInto env .stateOn { rc with curMaster := true }).2 = 0 := by
      obtain ⟨refused, -⟩ | ⟨-, eq⟩ := granted
      · exact absurd ⟨rfl, grants⟩ refused
      · rw [eq]
    cases state : rc.rcState with
    | stateOn => simp
    | stateOff => simpa [state] using enabled
    | stateIdle =>
      simp only [reduceCtorEq, ne_eq, not_false_eq_true, not_true_eq_false, and_false,
        if_false, and_true]
      split
      · rfl
      · simpa [state] using enabled
    | statePreOff => exact absurd state preOff
    | stateModeset => exact absurd state modeset

theorem modeWasSet_iff (ready : m.ready) (answer : m.preModeset = 0) :
    (virtModeSet enc m s).modeWasSet = true ↔ Completes enc m s := by
  rw [virtModeSet, if_neg (not_not.mpr ready), if_neg fun refused => refused.2 answer, Completes]
  dsimp only
  by_cases reserved : (m.reserve enc s.rm).1 = 0
  · rw [if_neg (not_not.mpr reserved)]
    exact (and_iff_right reserved).symm
  · rw [if_pos reserved]
    exact iff_of_false Bool.false_ne_true fun completes => reserved completes.1

theorem modeWasSet_refused (restores : m.restores) (refused : m.preModeset ≠ 0) :
    (virtModeSet enc m s).modeWasSet = false := by
  rw [virtModeSet]
  split
  · rfl
  · rw [if_pos ⟨restores, refused⟩]

theorem modeSetControlled_entered (entered : m.Entered pre rc) :
    (modeSetControlled isVidMode enc m pre post s rc).2 =
      if (virtModeSet enc { m with preModeset := 0 } s).modeWasSet then
        { restoredEnc pre rc with rcState := .stateOn }
      else { restoredEnc pre rc with
        irqs := (restoredEnc pre rc).irqs - 1, rcState := .stateModeset } := by
  obtain ⟨switch, enters⟩ := entered
  rw [modeSetControlled, if_neg (not_not.mpr switch)]
  dsimp only
  rw [postModeset_preModeset enters]
  obtain ⟨-, eq⟩ | ⟨stays, -⟩ := preModeset_cases isVidMode pre rc
  · rw [eq]
  · exact absurd enters stays

theorem modeSetControlled_rc (completes : m.Entered pre rc → Completes enc m s) :
    (modeSetControlled isVidMode enc m pre post s rc).2 =
      if m.ready ∧ m.restores then restoredEnc pre rc else rc := by
  by_cases switch : m.ready ∧ m.restores
  · obtain ⟨enters, -⟩ | ⟨stays, unchanged, failed⟩ := preModeset_cases isVidMode pre rc
    · have entered : m.Entered pre rc := ⟨switch, enters⟩
      have set : (virtModeSet enc { m with preModeset := 0 } s).modeWasSet = true :=
        (modeWasSet_iff (m := { m with preModeset := 0 }) switch.1 rfl).mpr (completes entered)
      rw [modeSetControlled_entered entered, if_pos set, if_pos switch]
      have on : (restoredEnc pre rc).rcState = .stateOn := by
        rw [restoredEnc]
        split
        next => rfl
        next kept => exact enters.1.resolve_right kept
      rw [← on]
    · rw [modeSetControlled, if_neg (not_not.mpr switch), if_pos switch]
      dsimp only
      rw [unchanged]
      by_cases off : rc.rcState = .stateOff
      · have same : restoredEnc pre rc = rc := if_neg fun restores => restores.1 off
        rw [same, postModeset_off off, ite_self]
      · rw [if_neg]
        rw [modeWasSet_refused (by exact switch.2) (by exact failed.resolve_left off)]
        decide
  · rw [modeSetControlled, if_pos switch, if_neg switch]

/-- A mode set none of whose steps fails once the modeset state is entered leaves that state, on
    with one enable more than disables where it restored its resources, and otherwise as it was
    found. -/
theorem modeSetControlled_usable (isVidMode : Bool) (enc : DrmEncoder) (m : ModeSet)
    (pre post : Env) (s : Sys)
    (rc : Enc) (completes : m.Entered pre rc → Completes enc m s) :
    (modeSetControlled isVidMode enc m pre post s rc).2.rcState =
        (if m.Restored pre rc then .stateOn else rc.rcState) ∧
      (modeSetControlled isVidMode enc m pre post s rc).2.irqs =
        rc.irqs + (if m.Restored pre rc then 1 else 0) ∧
      (m.Restored pre rc ∨ Usable isVidMode rc →
        Usable isVidMode (modeSetControlled isVidMode enc m pre post s rc).2) := by
  have left : (modeSetControlled isVidMode enc m pre post s rc).2 =
      if m.ready ∧ m.restores then restoredEnc pre rc else rc := modeSetControlled_rc completes
  by_cases restored : m.Restored pre rc
  · have on : restoredEnc pre rc =
        { rc with resources := rc.resources + 1, irqs := rc.irqs + 1, rcState := .stateOn } :=
      if_pos restored.2
    rw [if_pos restored.1, on] at left
    rw [left, if_pos restored, if_pos restored]
    exact ⟨rfl, rfl, fun _ => usable_iff.mpr ⟨nofun, nofun⟩⟩
  · have same : (modeSetControlled isVidMode enc m pre post s rc).2 = rc := by
      rw [left]
      split
      next switch => exact if_neg fun restores => restored ⟨switch, restores⟩
      next => rfl
    rw [same, if_neg restored, if_neg restored, Int.add_zero]
    exact ⟨rfl, rfl, fun usable => usable.resolve_left restored⟩

end ModeSet

def idleEnc : Enc := ⟨.stateIdle, true, true, 0, 0⟩

def unreserved : Sys := encoderInit fourMixers (List.replicate 2 (some ⟨none, none, false⟩))

theorem modeSetControlled_usable_idle :
    (modeSetControlled false ⟨31, by decide⟩ (switchTo 4 8) calm calm unreserved idleEnc).2.rcState
    =
        (if (switchTo 4 8).Restored calm idleEnc then .stateOn else idleEnc.rcState) ∧
      (modeSetControlled false ⟨31, by decide⟩ (switchTo 4 8) calm calm unreserved idleEnc).2.irqs =
        idleEnc.irqs + (if (switchTo 4 8).Restored calm idleEnc then 1 else 0) ∧
      ((switchTo 4 8).Restored calm idleEnc ∨ Usable false idleEnc →
        Usable false
          (modeSetControlled false ⟨31, by decide⟩ (switchTo 4 8) calm calm unreserved
            idleEnc).2) :=
  modeSetControlled_usable false ⟨31, by decide⟩ (switchTo 4 8) calm calm unreserved
    idleEnc fun _ =>
    ⟨by decide, by decide⟩

/-- The resources of an idle encoder are restored with its interrupts, which are not taken back: the
    encoder is on. -/
theorem not_balanced_idleSwitch :
    (modeSetControlled false ⟨31, by decide⟩ (switchTo 4 8) calm calm unreserved
    idleEnc).2.rcState = .stateOn ∧
      (modeSetControlled false ⟨31, by decide⟩ (switchTo 4 8) calm calm unreserved idleEnc).2.irqs ≠
        idleEnc.irqs := by
  decide

end DisplayDrivers.Encoder.Handles
