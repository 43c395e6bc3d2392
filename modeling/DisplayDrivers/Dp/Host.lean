import Mathlib.Data.BitVec
import Mathlib.Tactic.Ring
import DisplayDrivers.Lib.Run

/-! # Host and streams of a DP display (`msm/dp/dp_display.c`)

Every call runs under `session_lock`.  What the modules below answer and what other code sets comes
with it.
-/

namespace DisplayDrivers.Dp.Host

open DisplayDrivers.Lib.Run

abbrev U32 := BitVec 32

local instance neZero_slots : NeZero 2 := ⟨Nat.succ_ne_zero 1⟩

/-- `struct dp_panel` -/
structure Panel where
  streamId : Fin 2
  hActive : U32
  dsc : Bool
  compRatio : U32

inductive PhyBondMode
  | none
  | pllMaster
  | pllSlave
  | pclkMaster
  | pclkSlave
deriving DecidableEq

/-- `struct dp_display_private`; `hostUp` counts the times that the host has been powered up less
    those down. -/
structure Display where
  maxDpDscInputWidthPixs : U32
  coreInitialized : Bool
  isConnected : Bool
  powerOn : Bool
  phyBondMode : PhyBondMode
  activeStreamCnt : U32
  totDscBlksInUse : U32
  panelDscBlksInUse : ℕ → U32
  activePanels : Fin 2 → Option ℕ
  panels : ℕ → Panel
  hostUp : ℤ

/-- `dp_display_host_init`; `hostUp` counts its power-ups, and what `power->init` returns is not
    looked at. -/
def Display.hostInit (d : Display) : Display :=
  if d.coreInitialized then d else { d with coreInitialized := true, hostUp := d.hostUp + 1 }

/-- `dp_display_host_deinit` -/
def Display.hostDeinit (d : Display) : Display :=
  if !d.coreInitialized then d
  else if d.activeStreamCnt ≠ 0 then d
  else { d with coreInitialized := false, hostUp := d.hostUp - 1 }

/-- `dp_display_stream_disable` -/
def Display.streamDisable (d : Display) (p : ℕ) : Display :=
  if d.activeStreamCnt = 0 then d
  else { d with
    activePanels := Function.update d.activePanels (d.panels p).streamId none
    activeStreamCnt := d.activeStreamCnt - 1 }

def Display.cleanTurn (d : Display) (idx : Fin 2) : Display :=
  match d.activePanels idx with
  | none => d
  | some p => d.streamDisable p

/-- `dp_display_clean` -/
def Display.clean (d : Display) : Display := { (d.cleanTurn 0).cleanTurn 1 with powerOn := false }

/-- `dsc_blk_cnt` of `dp_display_update_dsc_resources` -/
def Panel.dscBlkCnt (width : U32) (panel : Panel) : U32 :=
  if panel.dsc && panel.compRatio != 0 then
    panel.hActive / width + if panel.hActive % width != 0 then 1 else 0
  else 0

def Display.dscBlkCnt (d : Display) (p : ℕ) : U32 := (d.panels p).dscBlkCnt d.maxDpDscInputWidthPixs

/-- `dp_display_update_dsc_resources` -/
def Display.updateDscResources (d : Display) (p : ℕ) (enable : Bool) : Display :=
  let change := if enable then d.dscBlkCnt p else -d.dscBlkCnt p
  { d with
    totDscBlksInUse := d.totDscBlksInUse + change
    panelDscBlksInUse := Function.update d.panelDscBlksInUse p (d.panelDscBlksInUse p + change) }

inductive Call
  | hpdHigh (hasConnector : Bool) (caps on : ℤ)
  | configure
  | hpdLow
  | cleanup
  | setMode (p : ℕ) (hActive : U32) (dsc : Bool) (compRatio : U32)
  | setStreamInfo (p : ℕ) (streamId : Fin 2)
  | setPhyBondMode (mode : PhyBondMode)
  | prepare (aborted sink : Bool)
  | enable (p : ℕ) (streamOn : ℤ)
  | disable (p : ℕ)
  | unprepare (sink suspended mstActive : Bool)

/-- The functions `dp_display_*` of these names; `cleanup` is the last section of
    `dp_display_handle_disconnect`, and `sink` what `dp_display_is_ready` asks for besides
    `is_connected`. -/
def step (d : Display) : Call → Display
  | .hpdHigh hasConnector caps on =>
    if d.isConnected then d
    else
      let d := { d with isConnected := true }.hostInit
      if hasConnector && (caps == -110 || caps == -107 || on != 0) then
        { d with isConnected := false } else d
  | .configure => d.hostInit
  | .hpdLow => { d with isConnected := false }
  | .cleanup =>
    if d.phyBondMode ≠ .none then d
    else
      let d := if d.powerOn then d.clean else d
      { d with isConnected := false }.hostDeinit
  | .setMode p hActive dsc compRatio =>
    { d with panels := Function.update d.panels p ⟨(d.panels p).streamId, hActive, dsc, compRatio⟩ }
  | .setStreamInfo p streamId =>
    { d with panels := Function.update d.panels p { d.panels p with streamId := streamId } }
  | .setPhyBondMode mode =>
    if d.phyBondMode ≠ mode then { d.clean.hostDeinit with phyBondMode := mode } else d
  | .prepare aborted sink =>
    if aborted || d.powerOn || !(d.isConnected && sink) then d else d.hostInit
  | .enable p streamOn =>
    if !d.coreInitialized then d
    else if streamOn ≠ 0 then d
    else
      let d := { d with
        activePanels := Function.update d.activePanels (d.panels p).streamId (some p)
        activeStreamCnt := d.activeStreamCnt + 1 }
      { d.updateDscResources p true with powerOn := true }
  | .disable p =>
    if !d.powerOn || !d.coreInitialized then d else (d.streamDisable p).updateDscResources p false
  | .unprepare sink suspended mstActive =>
    let d :=
      if d.activeStreamCnt ≠ 0 then d
      else
        let off := d.isConnected && sink && (suspended || !mstActive) || d.phyBondMode != .none
        let d := if off then d.hostDeinit else d
        { d with powerOn := false }
    { d with phyBondMode := .none }

/-- `dp_display_probe` -/
def probed (width : U32) (panels : ℕ → Panel) : Display :=
  ⟨width, false, false, false, .none, 0, 0, fun _ => 0, fun _ => none, panels, 0⟩

/-- The slot of a panel that comes up is free, one that goes down is in its slot, and it keeps its
    mode and its stream in between. -/
def Orderly (d : Display) : Call → Prop
  | .enable p streamOn =>
    d.coreInitialized = true → streamOn = 0 → d.activePanels (d.panels p).streamId = none
  | .disable p => d.powerOn = true → d.activePanels (d.panels p).streamId = some p
  | .setMode p _ _ _ => ∀ i, d.activePanels i ≠ some p
  | .setStreamInfo p _ => ∀ i, d.activePanels i ≠ some p
  | _ => True

def total (weight : ℕ → U32) (slots : Fin 2 → Option ℕ) : U32 :=
  (slots 0).elim 0 weight + (slots 1).elim 0 weight

structure Sound (d : Display) : Prop where
  count : d.activeStreamCnt = total (fun _ => 1) d.activePanels
  slot : ∀ i p, d.activePanels i = some p → (d.panels p).streamId = i
  powered : ∀ i p, d.activePanels i = some p → d.powerOn = true
  hosted : d.powerOn = true → d.coreInitialized = true
  host : d.hostUp = if d.coreInitialized then 1 else 0

theorem total_update (weight : ℕ → U32) (slots : Fin 2 → Option ℕ) (i : Fin 2) (o : Option ℕ) :
    total weight (Function.update slots i o) =
      total weight slots - (slots i).elim 0 weight + o.elim 0 weight := by
  match i with
  | 0 =>
    change o.elim 0 weight + (slots 1).elim 0 weight = _
    rw [total]
    ring
  | 1 =>
    change (slots 0).elim 0 weight + o.elim 0 weight = _
    rw [total]
    ring

variable {slots : Fin 2 → Option ℕ}

theorem total_congr {weight weight' : ℕ → U32}
    (same : ∀ i p, slots i = some p → weight p = weight' p) :
    total weight slots = total weight' slots := by
  have at_slot (i : Fin 2) : (slots i).elim 0 weight = (slots i).elim 0 weight' := by
    cases here : slots i with
    | none => rfl
    | some p => exact same i p here
  rw [total, total, at_slot, at_slot]

theorem total_none (empty : ∀ i, slots i = none) (weight : ℕ → U32) : total weight slots = 0 := by
  rw [total, empty, empty]
  rfl

theorem slots_empty (none : total (fun _ => 1) slots = 0) : ∀ i, slots i = .none := by
  rw [Fin.forall_fin_two]
  unfold total at none
  cases first : slots 0 <;> cases second : slots 1 <;> simp [first, second] at none ⊢

variable {d : Display}

variable {p : ℕ}

theorem Sound.streamDisable (sound : Sound d) {i : Fin 2} (here : d.activePanels i = some p) :
    d.streamDisable p = { d with
      activePanels := Function.update d.activePanels i none
      activeStreamCnt := d.activeStreamCnt - 1 } := by
  have up : d.activeStreamCnt ≠ 0 := fun down => by
    have empty := slots_empty (sound.count.symm.trans down) i
    exact nomatch here.symm.trans empty
  rw [Display.streamDisable, if_neg up, sound.slot i p here]

theorem Sound.cleared (sound : Sound d) {i : Fin 2} (here : d.activePanels i = some p) :
    Sound (d.streamDisable p) := by
  have left (j : Fin 2) (q : ℕ) (there : Function.update d.activePanels i none j = some q) :
      d.activePanels j = some q := by
    by_cases same : j = i
    · rw [same, Function.update_self] at there
      cases there
    · rwa [Function.update_of_ne same] at there
  rw [sound.streamDisable here]
  refine ⟨?_, fun j q there => sound.slot j q (left j q there), fun j q there => sound.powered j q
    (left j q there),
    sound.hosted, sound.host⟩
  rw [total_update, here, ← sound.count]
  exact (add_zero _).symm

theorem Sound.cleanTurn (sound : Sound d) (idx : Fin 2) :
    Sound (d.cleanTurn idx) ∧ (d.cleanTurn idx).activePanels = Function.update d.activePanels
    idx none := by
  unfold Display.cleanTurn
  split
  next empty => exact ⟨sound, by rw [← empty, Function.update_eq_self]⟩
  next p here => exact ⟨sound.cleared here, by rw [sound.streamDisable here]⟩

theorem Sound.powerOff (sound : Sound d) (empty : ∀ i, d.activePanels i = none) :
    Sound { d with powerOn := false } :=
  ⟨sound.count, sound.slot, fun i _ here => (nomatch here.symm.trans (empty i)), nofun, sound.host⟩

theorem Sound.clean (sound : Sound d) : Sound d.clean ∧ ∀ i, d.clean.activePanels i = none := by
  obtain ⟨first, slots⟩ := sound.cleanTurn 0
  obtain ⟨second, slots'⟩ := first.cleanTurn 1
  have empty : ∀ i, ((d.cleanTurn 0).cleanTurn 1).activePanels i = none := by
    rw [slots', slots, Fin.forall_fin_two]
    exact ⟨rfl, rfl⟩
  exact ⟨second.powerOff empty, empty⟩

theorem Sound.hostInit (sound : Sound d) : Sound d.hostInit := by
  unfold Display.hostInit
  split
  next => exact sound
  next down =>
    have host := sound.host
    rw [if_neg down] at host
    exact ⟨sound.count, sound.slot, sound.powered, fun _ => rfl, by rw [host]; rfl⟩

theorem Sound.hostDeinit (sound : Sound d) (off : d.powerOn = false) : Sound d.hostDeinit := by
  unfold Display.hostDeinit
  split
  next => exact sound
  next up =>
    split
    next => exact sound
    next =>
      have host := sound.host
      rw [if_pos (by simpa using up)] at host
      exact ⟨sound.count, sound.slot, sound.powered, fun on =>
        (nomatch off.symm.trans on), by rw [host]; rfl⟩

theorem powerOff_hostDeinit (d : Display) :
    { d.hostDeinit with powerOn := false } =
    ({ d with powerOn := false } : Display).hostDeinit := by
  unfold Display.hostDeinit
  dsimp only
  split
  next => rfl
  next => split <;> rfl

theorem Sound.connected (sound : Sound d) (b : Bool) : Sound { d with isConnected := b } :=
  ⟨sound.count, sound.slot, sound.powered, sound.hosted, sound.host⟩

theorem Sound.bonded (sound : Sound d) (mode : PhyBondMode) :
    Sound { d with phyBondMode := mode } :=
  ⟨sound.count, sound.slot, sound.powered, sound.hosted, sound.host⟩

theorem Sound.updateDscResources (sound : Sound d) (p : ℕ) (enable : Bool) :
    Sound (d.updateDscResources p enable) :=
  ⟨sound.count, sound.slot, sound.powered, sound.hosted, sound.host⟩

theorem Sound.setPanel (sound : Sound d) (idle : ∀ i, d.activePanels i ≠ some p) (panel : Panel) :
    Sound { d with panels := Function.update d.panels p panel } := by
  refine ⟨sound.count, fun i q here => ?_, sound.powered, sound.hosted, sound.host⟩
  have other : q ≠ p := fun same => idle i (same ▸ here)
  exact (congrArg Panel.streamId (Function.update_of_ne other _ _)).trans (sound.slot i q here)

theorem step_sound (d : Display) (call : Call) (orderly : Orderly d call) (sound : Sound d) :
    Sound (step d call) := by
  cases call with
  | hpdHigh hasConnector caps on =>
    rw [step]
    split
    next => exact sound
    next =>
      have up := (sound.connected true).hostInit
      dsimp only
      split
      exacts [up.connected false, up]
  | configure => exact sound.hostInit
  | hpdLow => exact sound.connected false
  | cleanup =>
    rw [step]
    split
    next => exact sound
    next =>
      dsimp only
      split
      next => exact (sound.clean.1.connected false).hostDeinit rfl
      next off => exact (sound.connected false).hostDeinit (by simpa using off)
  | setMode p => exact sound.setPanel orderly _
  | setStreamInfo p => exact sound.setPanel orderly _
  | setPhyBondMode mode =>
    rw [step]
    split
    next => exact (sound.clean.1.hostDeinit rfl).bonded mode
    next => exact sound
  | prepare aborted sink =>
    rw [step]
    split
    exacts [sound, sound.hostInit]
  | enable p streamOn =>
    rw [step]
    split
    next => exact sound
    next up =>
      split
      next => exact sound
      next ok =>
        have core : d.coreInitialized = true := by simpa using up
        have free := orderly core (not_not.mp ok)
        refine ⟨?_, fun i q here => ?_, fun _ _ _ => rfl, fun _ => core, sound.host⟩
        · change d.activeStreamCnt + 1 = _
          rw [sound.count]
          refine Eq.trans ?_ (total_update _ _ _ _).symm
          rw [free]
          exact congrArg (· + 1) (sub_zero _).symm
        · change Function.update d.activePanels (d.panels p).streamId (some p) i = some q at here
          by_cases same : i = (d.panels p).streamId
          · rw [same, Function.update_self] at here
            obtain rfl := Option.some.inj here
            exact same.symm
          · rw [Function.update_of_ne same] at here
            exact sound.slot i q here
  | disable p =>
    rw [step]
    split
    next => exact sound
    next up =>
      have on : d.powerOn = true := by simp at up; exact up.1
      exact (sound.cleared (orderly on)).updateDscResources p false
  | unprepare sink suspended mstActive =>
    rw [step]
    refine Sound.bonded ?_ .none
    split
    next => exact sound
    next idle =>
      have off := sound.powerOff (slots_empty (sound.count.symm.trans (not_not.mp idle)))
      dsimp only
      split
      next => rw [powerOff_hostDeinit]; exact off.hostDeinit rfl
      next => exact off

theorem sound_probed (width : U32) (panels : ℕ → Panel) : Sound (probed width panels) :=
  ⟨rfl, nofun, nofun, nofun, rfl⟩

/-- Streams are counted right, and come up and go down while the host is powered. -/
theorem host_held (width : U32) (panels : ℕ → Panel) (calls : List Call)
    (orderly : StepsMeet step Orderly (probed width panels) calls) :
    let d := run step (probed width panels) calls
    d.activeStreamCnt = total (fun _ => 1) d.activePanels ∧
      (∀ i p, d.activePanels i = some p → d.powerOn = true ∧ (d.panels p).streamId = i) ∧
      (d.powerOn = true → d.coreInitialized = true) ∧ d.hostUp = if d.coreInitialized then
        1 else 0 := by
  have sound :=
    run_invariant_of_meets Sound (fun d call sound orderly => step_sound d call orderly sound)
    (sound_probed width panels) orderly
  exact ⟨sound.count, fun i p here => ⟨sound.powered i p here, sound.slot i p here⟩,
    sound.hosted, sound.host⟩

def unplug : List Call := [.hpdHigh true 0 0, .enable 0 0, .hpdLow, .cleanup]

theorem orderly_unplug : StepsMeet step Orderly (probed 2048 fun _ => ⟨0, 3840, true, 2⟩) unplug :=
  ⟨trivial, fun _ _ => rfl, trivial, trivial, trivial⟩

theorem host_held_unplug :
    (run step (probed 2048 fun _ => ⟨0, 3840, true, 2⟩) unplug).hostUp = 0 :=
  (host_held 2048 (fun _ => ⟨0, 3840, true, 2⟩) unplug orderly_unplug).2.2.2

/-! ## The compression blocks -/

def Accounted (d : Display) : Prop := d.totDscBlksInUse = total d.dscBlkCnt d.activePanels

/-- A hot-unplug or a change of the bond mode finds no panel up that uses compression blocks. -/
def Spares (d : Display) : Call → Prop
  | .cleanup => d.phyBondMode = .none → d.powerOn = true → total d.dscBlkCnt d.activePanels = 0
  | .setPhyBondMode mode => d.phyBondMode ≠ mode → total d.dscBlkCnt d.activePanels = 0
  | _ => True

theorem tot_streamDisable (d : Display) (p : ℕ) :
    (d.streamDisable p).totDscBlksInUse = d.totDscBlksInUse := by
  unfold Display.streamDisable
  split <;> rfl

theorem tot_cleanTurn (d : Display) (idx : Fin 2) :
    (d.cleanTurn idx).totDscBlksInUse = d.totDscBlksInUse := by
  unfold Display.cleanTurn
  split
  exacts [rfl, tot_streamDisable d _]

theorem tot_clean (d : Display) : d.clean.totDscBlksInUse = d.totDscBlksInUse :=
  (tot_cleanTurn _ 1).trans (tot_cleanTurn d 0)

theorem accounted_hostInit (accounted : Accounted d) : Accounted d.hostInit := by
  unfold Display.hostInit
  split <;> exact accounted

theorem accounted_hostDeinit (d : Display) : Accounted d.hostDeinit ↔ Accounted d := by
  unfold Display.hostDeinit
  split
  · rfl
  · split <;> rfl

theorem step_accounted_iff (d : Display) (call : Call) (orderly : Orderly d call) (sound : Sound d)
    (accounted : Accounted d) : Accounted (step d call) ↔ Spares d call := by
  have mode (p : ℕ) (panel : Panel) (idle : ∀ i, d.activePanels i ≠ some p) :
      Accounted { d with panels := Function.update d.panels p panel } := by
    refine Eq.trans accounted (total_congr fun i q here => ?_)
    have other : q ≠ p := fun same => idle i (same ▸ here)
    exact congrArg (Panel.dscBlkCnt _) (Function.update_of_ne other panel d.panels).symm
  have gone : Accounted d.clean ↔ total d.dscBlkCnt d.activePanels = 0 := by
    rw [Accounted, tot_clean, total_none sound.clean.2, accounted]
  cases call with
  | hpdHigh =>
    refine iff_of_true ?_ trivial
    rw [step]
    split
    next => exact accounted
    next =>
      dsimp only
      have up : Accounted ({ d with isConnected := true } : Display).hostInit :=
        accounted_hostInit accounted
      split <;> exact up
  | configure => exact iff_of_true (accounted_hostInit accounted) trivial
  | hpdLow => exact iff_of_true accounted trivial
  | cleanup =>
    rw [step]
    split
    next bond => exact iff_of_true accounted fun free => absurd free bond
    next bond =>
      dsimp only
      rw [accounted_hostDeinit]
      split
      next on => exact gone.trans ⟨fun none _ _ => none, fun spares => spares (not_not.mp bond) on⟩
      next off => exact iff_of_true accounted fun _ on => absurd on off
  | setMode p => exact iff_of_true (mode p _ orderly) trivial
  | setStreamInfo p => exact iff_of_true (mode p _ orderly) trivial
  | setPhyBondMode mode =>
    rw [step]
    split
    next differs =>
      refine ((accounted_hostDeinit d.clean).trans gone).trans ?_
      exact ⟨fun none _ => none, fun spares => spares differs⟩
    next same => exact iff_of_true accounted fun differs => absurd differs same
  | prepare =>
    refine iff_of_true ?_ trivial
    rw [step]
    split
    exacts [accounted, accounted_hostInit accounted]
  | enable p streamOn =>
    refine iff_of_true ?_ trivial
    rw [step]
    split
    next => exact accounted
    next up =>
      split
      next => exact accounted
      next ok =>
        have free := orderly (by simpa using up) (not_not.mp ok)
        refine Eq.trans ?_ (total_update d.dscBlkCnt _ _ _).symm
        rw [free]
        change d.totDscBlksInUse + d.dscBlkCnt p = total d.dscBlkCnt d.activePanels -
          0 + d.dscBlkCnt p
        rw [sub_zero, ← accounted]
  | disable p =>
    refine iff_of_true ?_ trivial
    rw [step]
    split
    next => exact accounted
    next up =>
      have on : d.powerOn = true := by simp at up; exact up.1
      have here := orderly on
      rw [sound.streamDisable here]
      refine Eq.trans ?_ (total_update d.dscBlkCnt _ _ _).symm
      rw [here]
      change d.totDscBlksInUse + -d.dscBlkCnt p = total d.dscBlkCnt d.activePanels -
        d.dscBlkCnt p + 0
      rw [accounted, add_zero, sub_eq_add_neg]
  | unprepare sink suspended mstActive =>
    refine iff_of_true ?_ trivial
    rw [step]
    split
    next => exact accounted
    next =>
      dsimp only
      split
      next => exact (accounted_hostDeinit d).mpr accounted
      next => exact accounted

/-- The compression blocks in use are those of the streams that are up, unless a hot-unplug or a
    change of the bond mode takes some down: it does not give their blocks back. -/
theorem dsc_accounted_iff (width : U32) (panels : ℕ → Panel) (calls : List Call)
    (orderly : StepsMeet step Orderly (probed width panels) calls) :
    Throughout step Accounted (probed width panels) calls ↔ StepsMeet step Spares
    (probed width panels) calls :=
  throughout_iff_stepsMeet_good Sound
    (fun d call orderly sound _ _ => step_sound d call orderly sound)
    (fun d call orderly sound accounted => step_accounted_iff d call orderly sound accounted)
    (sound_probed width panels) rfl orderly

theorem not_dsc_accounted_unplug :
    ¬ Throughout step Accounted (probed 2048 fun _ => ⟨0, 3840, true, 2⟩) unplug := by
  intro good
  obtain ⟨-, -, -, spares, -⟩ := (dsc_accounted_iff 2048 _ unplug orderly_unplug).mp good
  exact absurd (spares rfl rfl) (by decide)

end DisplayDrivers.Dp.Host
