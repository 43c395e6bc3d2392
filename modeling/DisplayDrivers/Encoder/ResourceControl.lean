import DisplayDrivers.Lib.Run
import Mathlib.Tactic.Common

/-! # Resource control of an encoder

`sde_encoder_resource_control` gives an encoder its clocks, its power vote and its interrupts and
takes them back, event by event.
-/

namespace DisplayDrivers.Encoder

open Lib.Run

def einval : Int := -22

def ewouldblock : Int := -11

/-- `enum sde_enc_rc_states`. -/
inductive RcState
  | stateOff
  | statePreOff
  | stateOn
  | stateModeset
  | stateIdle
deriving DecidableEq

/-- `enum sde_enc_rc_events`. -/
inductive RcEvent
  | kickoff
  | frameDone
  | preStop
  | stop
  | preModeset
  | postModeset
  | enterIdle
  | earlyWakeup

/-- The fields of `struct sde_encoder_virt` that resource control reads and writes, with the net
    number of enables of the helper and of `_sde_encoder_irq_control`. -/
structure Enc where
  rcState : RcState
  idlePcEnabled : Bool
  curMaster : Bool
  resources : Int
  irqs : Int

/-- What an event finds outside of the encoder: a crtc with a display thread, a frame in flight,
    and the return codes of `sde_power_resource_enable`, `sde_connector_clk_ctrl` and
    `sde_encoder_wait_for_event`. -/
structure Env where
  crtcValid : Bool
  frameBusy : Bool
  powerRc : Int
  clkRc : Int
  waitRc : Int

def Env.Grants (env : Env) : Prop := env.powerRc = 0 ∧ env.clkRc = 0

instance (env : Env) : Decidable env.Grants := inferInstanceAs (Decidable (_ ∧ _))

def irqControl (enable : Bool) (s : Enc) : Enc :=
  { s with irqs := s.irqs + if enable then 1 else -1 }

def resourceControlHelper (env : Env) (enable : Bool) (s : Enc) : Enc × Int :=
  if ¬s.curMaster then (s, einval)
  else if enable then
    if env.powerRc ≠ 0 then (s, env.powerRc)
    -- the power vote is taken back
    else if env.clkRc ≠ 0 then (s, env.clkRc)
    else ({ irqControl true s with resources := s.resources + 1 }, 0)
  else ({ irqControl false s with resources := s.resources - 1 }, 0)

def RcEvent.always : RcEvent → Bool
  | .kickoff | .preStop | .stop | .preModeset | .postModeset => true
  | .frameDone | .enterIdle | .earlyWakeup => false

def enableInto (env : Env) (next : RcState) (s : Enc) : Enc × Int :=
  if (resourceControlHelper env true s).2 ≠ 0 then resourceControlHelper env true s
  else ({ (resourceControlHelper env true s).1 with rcState := next }, 0)

/-- The end of `PRE_MODESET`, with the resources on. -/
def finishPreModeset (env : Env) (s : Enc) : Enc × Int :=
  if env.waitRc ≠ 0 ∧ env.waitRc ≠ ewouldblock then (s, einval)
  else ({ irqControl false s with rcState := .stateModeset }, 0)

section
variable (isVidMode : Bool) (env : Env) (s : Enc)

def onKickoff : Enc × Int :=
  if s.rcState = .stateOn then (s, 0)
  else if s.rcState ≠ .stateOff ∧ s.rcState ≠ .stateIdle then (s, einval)
  else if isVidMode ∧ s.rcState = .stateIdle then
    ({ irqControl true s with rcState := .stateOn }, 0)
  else enableInto env .stateOn s

def onFrameDone : Enc × Int :=
  if ¬env.crtcValid then (s, einval)
  else if s.rcState ≠ .stateOn then (s, einval)
  else (s, 0)

def onPreStop : Enc × Int :=
  if isVidMode ∧ s.rcState = .stateIdle then
    ({ irqControl true s with rcState := .statePreOff }, 0)
  else if s.rcState = .stateOff ∨ s.rcState = .stateIdle then (s, 0)
  else ({ s with rcState := .statePreOff }, 0)

def onStop : Enc × Int :=
  if s.rcState = .stateOff then (s, 0)
  else if s.rcState = .stateOn ∨ s.rcState = .stateModeset then (s, einval)
  else if s.rcState = .statePreOff then
    ({ (resourceControlHelper env false s).1 with rcState := .stateOff }, 0)
  else ({ s with rcState := .stateOff }, 0)

def onPreModeset : Enc × Int :=
  if s.rcState = .stateOff then (s, 0)
  else if s.rcState ≠ .stateOn then
    if (enableInto env .stateOn s).2 ≠ 0 then enableInto env .stateOn s
    else finishPreModeset env (enableInto env .stateOn s).1
  else finishPreModeset env s

def onPostModeset : Enc × Int :=
  if s.rcState = .stateOff then (s, 0)
  else if s.rcState ≠ .stateModeset then (s, einval)
  else ({ irqControl true s with rcState := .stateOn }, 0)

def onEnterIdle : Enc × Int :=
  if s.rcState ≠ .stateOn then (s, 0)
  -- a stale timer event
  else if env.frameBusy then (s, 0)
  else if isVidMode then ({ irqControl false s with rcState := .stateIdle }, 0)
  else ({ (resourceControlHelper env false s).1 with rcState := .stateIdle }, 0)

def onEarlyWakeup : Enc × Int :=
  if ¬env.crtcValid then (s, einval)
  else if s.rcState = .stateIdle then enableInto env .stateOn s
  else (s, 0)

def onEvent : RcEvent → Enc × Int
  | .kickoff => onKickoff isVidMode env s
  | .frameDone => onFrameDone env s
  | .preStop => onPreStop isVidMode s
  | .stop => onStop env s
  | .preModeset => onPreModeset env s
  | .postModeset => onPostModeset s
  | .enterIdle => onEnterIdle isVidMode env s
  | .earlyWakeup => onEarlyWakeup env s

def resourceControl (swEvent : RcEvent) : Enc × Int :=
  if ¬s.idlePcEnabled ∧ ¬swEvent.always then (s, 0) else onEvent isVidMode env s swEvent

end

/-! ## Runs -/

inductive Input
  | event (swEvent : RcEvent) (env : Env)
  | controlIdlePc (enable : Bool)

/-- `sde_encoder_virt_enable` finds a master before the first kickoff, `sde_encoder_virt_disable`
    drops it after the stop. -/
def step (isVidMode : Bool) (s : Enc) : Input → Enc
  | .event .kickoff env => (resourceControl isVidMode env { s with curMaster := true } .kickoff).1
  | .event .stop env => { (resourceControl isVidMode env s .stop).1 with curMaster := false }
  | .event swEvent env => (resourceControl isVidMode env s swEvent).1
  | .controlIdlePc enable => { s with idlePcEnabled := enable }

def encoderInit (idlePcEnabled : Bool) : Enc := ⟨.stateOff, idlePcEnabled, false, 0, 0⟩

@[simp] def owedResources (isVidMode : Bool) : RcState → Int
  | .stateOff => 0
  | .stateIdle => if isVidMode then 1 else 0
  | .stateOn | .statePreOff | .stateModeset => 1

@[simp] def owedIrqs : RcState → Int
  | .stateOn | .statePreOff => 1
  | .stateOff | .stateIdle | .stateModeset => 0

structure Ledger (isVidMode : Bool) (s : Enc) : Prop where
  resources : s.resources = owedResources isVidMode s.rcState
  irqs : s.irqs = owedIrqs s.rcState

/-- The events that find the encoder in a state they handle. -/
def Handled (isVidMode : Bool) (s : Enc) : Input → Prop
  | .event .preStop _ => s.rcState ≠ .stateModeset
  | .event .stop _ => (s.rcState = .statePreOff → s.curMaster) ∧
      (s.rcState = .stateIdle → ¬isVidMode)
  | .event .preModeset env =>
      s.rcState = .statePreOff ∨ s.rcState = .stateModeset ∨ s.rcState = .stateIdle ∧ isVidMode →
        ¬(s.curMaster ∧ env.Grants)
  | .event .enterIdle env =>
      s.idlePcEnabled → s.rcState = .stateOn → ¬env.frameBusy → ¬isVidMode → s.curMaster
  | .event .earlyWakeup env =>
      s.idlePcEnabled → env.crtcValid → s.rcState = .stateIdle → isVidMode →
        ¬(s.curMaster ∧ env.Grants)
  | .event .kickoff _ | .event .frameDone _ | .event .postModeset _ | .controlIdlePc _ => True

/-! ## One event -/

variable {isVidMode : Bool} {env : Env} {s : Enc}

theorem ledger_iff : Ledger isVidMode s ↔
    s.resources = owedResources isVidMode s.rcState ∧ s.irqs = owedIrqs s.rcState :=
  ⟨fun h => ⟨h.resources, h.irqs⟩, fun h => ⟨h.1, h.2⟩⟩

theorem enableInto_cases (env : Env) (next : RcState) (s : Enc) :
    (¬(s.curMaster ∧ env.Grants) ∧ (enableInto env next s).1 = s ∧
      (enableInto env next s).2 ≠ 0) ∨
    ((s.curMaster ∧ env.Grants) ∧ enableInto env next s =
      ({ s with resources := s.resources + 1, irqs := s.irqs + 1, rcState := next }, 0)) := by
  rw [enableInto, resourceControlHelper, Env.Grants]
  by_cases master : s.curMaster
  · by_cases power : env.powerRc = 0
    · by_cases clk : env.clkRc = 0
      · right
        simp [master, power, clk, irqControl]
      · left
        simp [master, power, clk]
    · left
      simp [master, power]
  · left
    simp [master, einval]

theorem disable_of_master (master : s.curMaster = true) :
    (resourceControlHelper env false s).1 =
      { s with resources := s.resources - 1, irqs := s.irqs - 1 } := by
  simp [resourceControlHelper, master, irqControl, Int.sub_eq_add_neg]

theorem disable_of_not_master (none : s.curMaster = false) :
    (resourceControlHelper env false s).1 = s := by
  simp [resourceControlHelper, none]

theorem ledger_onKickoff (env : Env) (ledger : Ledger isVidMode s) :
    Ledger isVidMode (onKickoff isVidMode env s).1 := by
  have before := ledger
  obtain ⟨resources, irqs⟩ := ledger
  rw [onKickoff]
  cases state : s.rcState with
  | stateOn | statePreOff | stateModeset => simpa [state] using before
  | stateOff =>
    rcases enableInto_cases env .stateOn s with ⟨-, eq, -⟩ | ⟨-, eq⟩
    · simpa [eq] using before
    · simp [eq, ledger_iff, resources, irqs, state]
  | stateIdle =>
    cases isVidMode with
    | true => simp [irqControl, ledger_iff, resources, irqs, state]
    | false =>
      rcases enableInto_cases env .stateOn s with ⟨-, eq, -⟩ | ⟨-, eq⟩
      · simpa [eq] using before
      · simp [eq, ledger_iff, resources, irqs, state]

theorem ledger_onPreStop_iff (ledger : Ledger isVidMode s) :
    Ledger isVidMode (onPreStop isVidMode s).1 ↔ s.rcState ≠ .stateModeset := by
  have before := ledger
  obtain ⟨resources, irqs⟩ := ledger
  rw [onPreStop]
  cases state : s.rcState with
  | stateOff => simpa [state] using before
  | statePreOff | stateOn | stateModeset =>
    simp [ledger_iff, resources, irqs, state]
  | stateIdle =>
    cases isVidMode with
    | true => simp [irqControl, ledger_iff, resources, irqs, state]
    | false => simpa using before

theorem ledger_onStop_iff (ledger : Ledger isVidMode s) :
    Ledger isVidMode (onStop env s).1 ↔
      (s.rcState = .statePreOff → s.curMaster) ∧ (s.rcState = .stateIdle → ¬isVidMode) := by
  have before := ledger
  obtain ⟨resources, irqs⟩ := ledger
  rw [onStop]
  cases state : s.rcState with
  | stateOff | stateOn | stateModeset => simpa [state] using before
  | statePreOff =>
    cases master : s.curMaster with
    | true =>
      simp [disable_of_master master, ledger_iff, resources, irqs, state]
    | false =>
      simp [disable_of_not_master master, ledger_iff, resources, irqs, state]
  | stateIdle =>
    cases isVidMode with
    | true => simp [ledger_iff, resources, irqs, state]
    | false => simp [ledger_iff, resources, irqs, state]

theorem ledger_finishPreModeset_iff (state : s.rcState = .stateOn) :
    Ledger isVidMode (finishPreModeset env s).1 ↔ Ledger isVidMode s := by
  rw [finishPreModeset]
  split
  next => exact Iff.rfl
  next =>
    have irqs : s.irqs + -1 = 0 ↔ s.irqs = 1 := by omega
    simp [irqControl, ledger_iff, state, irqs]

theorem ledger_onPreModeset_iff (ledger : Ledger isVidMode s) :
    Ledger isVidMode (onPreModeset env s).1 ↔
      (s.rcState = .statePreOff ∨ s.rcState = .stateModeset ∨
          s.rcState = .stateIdle ∧ isVidMode →
        ¬(s.curMaster ∧ env.Grants)) := by
  have before := ledger
  obtain ⟨resources, irqs⟩ := ledger
  rw [onPreModeset]
  cases state : s.rcState with
  | stateOff => simpa [state] using before
  | stateOn => simpa [ledger_finishPreModeset_iff state] using before
  | statePreOff | stateModeset | stateIdle =>
    rcases enableInto_cases env .stateOn s with ⟨refused, eq, nonzero⟩ | ⟨granted, eq⟩
    · simpa [eq, nonzero, refused] using before
    · rw [if_neg (by simp), if_pos (by simp), eq, if_neg (by simp),
        ledger_finishPreModeset_iff rfl]
      cases isVidMode <;>
        simp [ledger_iff, resources, irqs, state, granted]

theorem ledger_onPostModeset (ledger : Ledger isVidMode s) :
    Ledger isVidMode (onPostModeset s).1 := by
  have before := ledger
  obtain ⟨resources, irqs⟩ := ledger
  rw [onPostModeset]
  cases state : s.rcState with
  | stateOff | stateOn | statePreOff | stateIdle => simpa [state] using before
  | stateModeset => simp [irqControl, ledger_iff, resources, irqs, state]

theorem ledger_onEnterIdle_iff (ledger : Ledger isVidMode s) :
    Ledger isVidMode (onEnterIdle isVidMode env s).1 ↔
      (s.rcState = .stateOn → ¬env.frameBusy → ¬isVidMode → s.curMaster) := by
  have before := ledger
  obtain ⟨resources, irqs⟩ := ledger
  rw [onEnterIdle]
  cases state : s.rcState with
  | stateOff | stateModeset | statePreOff | stateIdle => simpa [state] using before
  | stateOn =>
    cases busy : env.frameBusy with
    | true => simpa using before
    | false =>
      cases isVidMode with
      | true => simp [irqControl, ledger_iff, resources, irqs, state]
      | false =>
        cases master : s.curMaster with
        | true =>
          simp [disable_of_master master, ledger_iff, resources, irqs, state]
        | false =>
          simp [disable_of_not_master master, ledger_iff, resources, irqs, state]

theorem ledger_onEarlyWakeup_iff (ledger : Ledger isVidMode s) :
    Ledger isVidMode (onEarlyWakeup env s).1 ↔
      (env.crtcValid → s.rcState = .stateIdle → isVidMode → ¬(s.curMaster ∧ env.Grants)) := by
  have before := ledger
  obtain ⟨resources, irqs⟩ := ledger
  rw [onEarlyWakeup]
  cases crtc : env.crtcValid with
  | false => simpa using before
  | true =>
    cases state : s.rcState with
    | stateOff | stateOn | stateModeset | statePreOff => simpa [state] using before
    | stateIdle =>
      rcases enableInto_cases env .stateOn s with ⟨refused, eq, -⟩ | ⟨granted, eq⟩
      · simpa [eq, refused] using before
      · cases isVidMode <;>
          simp [eq, ledger_iff, resources, irqs, state, granted]

/-! ## Runs -/

theorem ledger_setMaster (master : Bool) :
    Ledger isVidMode { s with curMaster := master } ↔ Ledger isVidMode s := by
  rw [ledger_iff, ledger_iff]

theorem resourceControl_always {swEvent : RcEvent} (always : swEvent.always = true) :
    resourceControl isVidMode env s swEvent = onEvent isVidMode env s swEvent := by
  simp [resourceControl, always]

theorem ledger_step_iff (input : Input) (ledger : Ledger isVidMode s) :
    Ledger isVidMode (step isVidMode s input) ↔ Handled isVidMode s input := by
  cases input with
  | controlIdlePc enable =>
    have kept : Ledger isVidMode (step isVidMode s (.controlIdlePc enable)) :=
      ⟨ledger.resources, ledger.irqs⟩
    exact iff_of_true kept trivial
  | event swEvent env =>
    cases swEvent with
    | kickoff =>
      have kept := ledger_onKickoff env ((ledger_setMaster true).mpr ledger)
      rw [step, resourceControl_always rfl]
      exact iff_of_true kept trivial
    | stop =>
      rw [step, resourceControl_always rfl, ledger_setMaster]
      exact ledger_onStop_iff ledger
    | preStop =>
      change Ledger isVidMode (resourceControl isVidMode env s .preStop).1 ↔ _
      rw [resourceControl_always rfl]
      exact ledger_onPreStop_iff ledger
    | preModeset =>
      change Ledger isVidMode (resourceControl isVidMode env s .preModeset).1 ↔ _
      rw [resourceControl_always rfl]
      exact ledger_onPreModeset_iff ledger
    | postModeset =>
      change Ledger isVidMode (resourceControl isVidMode env s .postModeset).1 ↔ _
      rw [resourceControl_always rfl]
      exact iff_of_true (ledger_onPostModeset ledger) trivial
    | frameDone =>
      have same : (resourceControl isVidMode env s .frameDone).1 = s := by
        rw [resourceControl, onEvent, onFrameDone]
        split_ifs <;> rfl
      change Ledger isVidMode (resourceControl isVidMode env s .frameDone).1 ↔ _
      rw [same]
      exact iff_of_true ledger trivial
    | enterIdle =>
      change Ledger isVidMode (resourceControl isVidMode env s .enterIdle).1 ↔ _
      rw [resourceControl, onEvent, Handled]
      cases idlePc : s.idlePcEnabled with
      | false => simpa [RcEvent.always] using ledger
      | true => simpa using ledger_onEnterIdle_iff ledger
    | earlyWakeup =>
      change Ledger isVidMode (resourceControl isVidMode env s .earlyWakeup).1 ↔ _
      rw [resourceControl, onEvent, Handled]
      cases idlePc : s.idlePcEnabled with
      | false => simpa [RcEvent.always] using ledger
      | true => simpa using ledger_onEarlyWakeup_iff ledger

theorem ledger_encoderInit (isVidMode idlePcEnabled : Bool) :
    Ledger isVidMode (encoderInit idlePcEnabled) := ⟨rfl, rfl⟩

/-- In command and in video mode, through all events in any order, whatever the calls outside of the
    encoder return: the encoder has the resources and interrupts of its state throughout exactly
    when it handles every event in the state the event finds. -/
theorem ledger_iff_handled (isVidMode idlePcEnabled : Bool) (inputs : List Input) :
    Throughout (step isVidMode) (Ledger isVidMode) (encoderInit idlePcEnabled) inputs ↔
      StepsMeet (step isVidMode) (Handled isVidMode) (encoderInit idlePcEnabled) inputs :=
  throughout_iff_stepsMeet (fun _ => True) (fun _ _ _ => trivial)
    (fun _ input _ ledger => ledger_step_iff input ledger) trivial
    (ledger_encoderInit isVidMode idlePcEnabled) inputs

def calm : Env := ⟨true, false, 0, 0, 0⟩

def idleModeset : List Input :=
  [.event .kickoff calm, .event .frameDone calm, .event .enterIdle calm, .event .preModeset calm,
    .event .postModeset calm]

/-- In video mode the resources are given out twice and, when the encoder is disabled, taken back
    once. -/
theorem not_ledger_idleModeset :
    ¬∀ (isVidMode idlePcEnabled : Bool) (inputs : List Input),
      Throughout (step isVidMode) (Ledger isVidMode) (encoderInit idlePcEnabled) inputs := by
  intro always
  have throughout := always true true
    (idleModeset ++ [.event .preStop calm, .event .stop calm])
  have final := throughout_iff_prefix.mp throughout _ [] (List.append_nil _).symm
  have left := final.resources
  exact absurd left (by decide)

end DisplayDrivers.Encoder
