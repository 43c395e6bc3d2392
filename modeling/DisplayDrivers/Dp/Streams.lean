import Mathlib.Tactic.Common
import DisplayDrivers.Lib.Run
import DisplayDrivers.Dp.Ctrl

/-! # The accounting of the streams

The power module's flags always agree with the enable counts of the pixel clocks (`Tracked`).
-/

namespace DisplayDrivers.Dp

open DisplayDrivers.Lib.Run

def onCount (on : StreamId → Bool) : ℕ :=
  (on .stream0).toNat + (on .stream1).toNat + (on .max).toNat

/-- `stream_count` is the number of streams that are on, never having wrapped, and a pixel clock
    is enabled once while its stream is on and not at all otherwise. -/
structure Accounted (session : Session) : Prop where
  unwrapped : session.wrapped = false
  count : session.ctrl.streamCount.toNat = onCount session.on
  clocks : ∀ stream, session.ctrl.power.pixelClk stream = (session.on stream).toNat

structure Tracked (session : Session) : Prop where
  clocks : ∀ stream, session.ctrl.power.pixelClk stream =
    (session.ctrl.power.strmClksOn stream).toNat
  noMax : session.ctrl.power.strmClksOn .max = false ∧ session.on .max = false

/-- `stream_off` is called for streams that are on. -/
def OffWhileOn (session : Session) : Call → Prop
  | .streamOff stream => session.on stream = true
  | _ => True

instance (session : Session) : (call : Call) → Decidable (OffWhileOn session call)
  | .streamOff stream => inferInstanceAs (Decidable (session.on stream = true))
  | .on _ | .streamOn _ _ | .streamPreOff _ | .off | .phyTest _ _ _ _ =>
    inferInstanceAs (Decidable True)

/-- The answers with which turning on a stream that is off is all or nothing: once the clock is
    up, nothing fails and the sink asks for no PHY test pattern. -/
def ComesUp (stream : StreamId) (env : StreamOnEnv) : Prop :=
  stream = .max ∨ env.clkRc ≠ 0 ∨ (env.hwCfgRc = 0 ∧ env.phyTestPattern = false)

def NotCounted (env : StreamOnEnv) : Prop := env.hwCfgRc ≠ 0 ∨ env.phyTestPattern = true

def Meets (session : Session) : Call → Prop
  | .on _ | .streamPreOff _ | .off => True
  | .streamOn stream env => if session.on stream then NotCounted env else ComesUp stream env
  | .streamOff _ => session.ctrl.powerOn = true
  | .phyTest phyTestPatternSel panel _ env =>
    phyTestPatternSel = 0 ∨
      if session.ctrl.powerOn then session.on panel = true ∧ ComesUp panel env
      else if session.on panel then env.hwCfgRc = 0 ∧ env.phyTestPattern = true
      else ComesUp panel env

/-! ## Counting -/

variable (on : StreamId → Bool)

theorem onCount_turnOn (stream : StreamId) :
    onCount (Function.update on stream true) + (on stream).toNat = onCount on + 1 := by
  cases stream <;> simp [onCount, Function.update] <;> omega

theorem onCount_turnOff (stream : StreamId) :
    onCount (Function.update on stream false) + (on stream).toNat = onCount on := by
  cases stream <;> simp [onCount, Function.update] <;> omega

theorem onCount_le : onCount on ≤ 3 := by
  have first := Bool.toNat_le (on .stream0)
  have second := Bool.toNat_le (on .stream1)
  have third := Bool.toNat_le (on .max)
  unfold onCount
  omega

section Step
variable {session : Session}

theorem accounted_iff (tracked : Tracked session) :
    Accounted session ↔ session.wrapped = false ∧
      session.ctrl.streamCount.toNat = onCount session.on ∧
      session.ctrl.power.strmClksOn = session.on := by
  have same : ∀ flag on : Bool, flag.toNat = on.toNat ↔ flag = on := by decide
  constructor
  · intro accounted
    refine ⟨accounted.unwrapped, accounted.count, funext fun stream => ?_⟩
    rw [← same, ← tracked.clocks, accounted.clocks]
  · intro ⟨unwrapped, count, flags⟩
    exact ⟨unwrapped, count, fun stream => by rw [tracked.clocks, flags]⟩

/-! ## Turning a stream on -/

def ClocksFail (session : Session) (stream : StreamId) (env : StreamOnEnv) : Prop :=
  stream = .max ∨ (session.ctrl.power.strmClksOn stream = false ∧ env.clkRc ≠ 0)

variable {env : StreamOnEnv} {stream : StreamId}

theorem enableStreamClocks_fail (fails : ClocksFail session stream env) :
    dpCtrlEnableStreamClocks session.ctrl stream env.clkRc = (session.ctrl, -EINVAL) := by
  cases fails with
  | inl none => simp [dpCtrlEnableStreamClocks, none, dpPowerSetPixelClkParent, EINVAL]
  | inr down =>
    cases stream <;>
      simp [dpCtrlEnableStreamClocks, dpPowerSetPixelClkParent, dpPowerClkEnable, down, EINVAL]

theorem enableStreamClocks_ok (tracked : Tracked session) (up : ¬ ClocksFail session stream env) :
    dpCtrlEnableStreamClocks session.ctrl stream env.clkRc =
      ({ session.ctrl with power :=
          { strmClksOn := Function.update session.ctrl.power.strmClksOn stream true
            pixelClk := Function.update session.ctrl.power.pixelClk stream 1 } }, 0) := by
  simp only [ClocksFail, not_or, not_and, ne_eq, not_not] at up
  have counted := tracked.clocks stream
  have parent : dpPowerSetPixelClkParent stream = 0 := by
    cases stream with
    | max => exact absurd rfl up.1
    | stream0 => rfl
    | stream1 => rfl
  cases flag : session.ctrl.power.strmClksOn stream with
  | true =>
    -- the clock is up already: the updates write what is there
    have same : Function.update session.ctrl.power.strmClksOn stream true =
        session.ctrl.power.strmClksOn := by rw [← flag, Function.update_eq_self]
    have once : Function.update session.ctrl.power.pixelClk stream 1 =
        session.ctrl.power.pixelClk := by
      rw [flag] at counted
      rw [show 1 = session.ctrl.power.pixelClk stream from counted.symm, Function.update_eq_self]
    simp [dpCtrlEnableStreamClocks, parent, dpPowerClkEnable, flag, same, once]
  | false =>
    rw [flag] at counted
    simp [dpCtrlEnableStreamClocks, parent, dpPowerClkEnable, flag, up.2 flag, counted]

theorem streamOn_fail
    (fails : ClocksFail session stream env) : streamOn session stream env = session := by
  simp [streamOn, dpCtrlStreamOn, enableStreamClocks_fail fails, EINVAL]

theorem streamOn_ok (tracked : Tracked session) (up : ¬ ClocksFail session stream env) :
    (streamOn session stream env).ctrl.power =
        { strmClksOn := Function.update session.ctrl.power.strmClksOn stream true
          pixelClk := Function.update session.ctrl.power.pixelClk stream 1 } ∧
      (streamOn session stream env).on =
        (if env.hwCfgRc = 0 then Function.update session.on stream true else session.on) ∧
      (streamOn session stream env).ctrl.streamCount =
        (if env.hwCfgRc = 0 ∧ env.phyTestPattern = false then session.ctrl.streamCount + 1
         else session.ctrl.streamCount) ∧
      (streamOn session stream env).wrapped = (session.wrapped ||
        decide ((streamOn session stream env).ctrl.streamCount < session.ctrl.streamCount)) := by
  have clocks := enableStreamClocks_ok tracked up
  by_cases configured : env.hwCfgRc = 0
  · cases pattern : env.phyTestPattern <;>
      simp [streamOn, dpCtrlStreamOn, clocks, configured, pattern]
  · simp [streamOn, dpCtrlStreamOn, clocks, configured]

theorem streamOn_tracked (stream : StreamId) (env : StreamOnEnv) (tracked : Tracked session) :
    Tracked (streamOn session stream env) := by
  by_cases fails : ClocksFail session stream env
  · rw [streamOn_fail fails]
    exact tracked
  · obtain ⟨power, on, -, -⟩ := streamOn_ok tracked fails
    have regular : StreamId.max ≠ stream := fun same => fails (.inl same.symm)
    constructor
    · intro other
      rw [power]
      by_cases same : other = stream
      · simp [same]
      · simp [same, tracked.clocks]
    · rw [power, on]
      constructor
      · simp [regular, tracked.noMax.1]
      · split <;> simp [regular, tracked.noMax.2]

theorem incremented {count : U32} {n : ℕ} (counts : count.toNat = n) (few : n ≤ 3) :
    (count + 1).toNat = n + 1 ∧ decide (count + 1 < count) = false := by
  have exact_sum : (count + 1).toNat = n + 1 := by
    rw [BitVec.toNat_add, counts]
    exact Nat.mod_eq_of_lt (Nat.lt_of_le_of_lt (Nat.succ_le_succ few) (by decide))
  constructor
  · exact exact_sum
  · rw [decide_eq_false_iff_not, BitVec.lt_def, exact_sum, counts]
    omega

theorem streamOn_accounted_iff (stream : StreamId) (env : StreamOnEnv) (tracked : Tracked session)
    (good : Accounted session) :
    Accounted (streamOn session stream env) ↔
      if session.on stream then NotCounted env else ComesUp stream env := by
  obtain ⟨unwrapped, count, flags⟩ := (accounted_iff tracked).mp good
  have turnOn := onCount_turnOn session.on stream
  obtain ⟨more, unwraps⟩ := incremented count (onCount_le session.on)
  by_cases fails : ClocksFail session stream env
  · rw [streamOn_fail fails]
    have off : session.on stream = false := by
      cases fails with
      | inl none => rw [none, tracked.noMax.2]
      | inr down => rw [← flags, down.1]
    have comes : ComesUp stream env := fails.imp_right fun down => .inl down.2
    simp [good, off, comes]
  · rw [accounted_iff (streamOn_tracked stream env tracked)]
    obtain ⟨power, on, sum, wraps⟩ := streamOn_ok tracked fails
    rw [power, on, wraps, sum, flags, unwrapped]
    generalize session.ctrl.streamCount + 1 = next at more unwraps
    cases was : session.on stream with
    | true =>
      have same : Function.update session.on stream true = session.on := by
        rw [← was, Function.update_eq_self]
      rw [was] at turnOn
      by_cases configured : env.hwCfgRc = 0 <;> cases pattern : env.phyTestPattern <;>
        simp [NotCounted, configured, pattern, same, count, more, unwraps]
    | false =>
      have up : stream ≠ .max ∧ env.clkRc = 0 := by
        constructor
        · exact fun none => fails (.inl none)
        · by_contra down
          exact fails (.inr ⟨by rw [flags, was], down⟩)
      have differs : Function.update session.on stream true ≠ session.on := by
        intro same
        have here := congrFun same stream
        simp [was] at here
      rw [was] at turnOn
      by_cases configured : env.hwCfgRc = 0 <;> cases pattern : env.phyTestPattern <;>
        simp [ComesUp, configured, pattern, up, differs, count, more, unwraps]
      · simpa using turnOn.symm
      · simp at turnOn
        omega

/-! ## Turning a stream off -/

theorem streamOff_down (stream : StreamId) (down : session.ctrl.powerOn = false) :
    streamOff session stream =
      { session with on := Function.update session.on stream false } := by
  simp [streamOff, dpCtrlStreamOff, down]

theorem streamOff_up (regular : stream ≠ .max) (up : session.ctrl.powerOn = true) :
    (streamOff session stream).ctrl.power = dpPowerClkDisable session.ctrl.power stream ∧
      (streamOff session stream).ctrl.streamCount = session.ctrl.streamCount - 1 ∧
      (streamOff session stream).wrapped = (session.wrapped ||
        decide (session.ctrl.streamCount < session.ctrl.streamCount - 1)) := by
  cases stream <;>
    simp_all [streamOff, dpCtrlStreamOff, dpCtrlDisableStreamClocks]

theorem streamOff_max (up : session.ctrl.powerOn = true) :
    (streamOff session .max).ctrl.power = session.ctrl.power ∧
      (streamOff session .max).ctrl.streamCount = session.ctrl.streamCount - 1 := by
  simp [streamOff, dpCtrlStreamOff, dpCtrlDisableStreamClocks, up]

theorem streamOff_tracked (stream : StreamId) (tracked : Tracked session) :
    Tracked (streamOff session stream) := by
  have none : Function.update session.on stream false .max = false := by
    by_cases last : .max = stream
    · simp [last]
    · simp [last, tracked.noMax.2]
  cases powered : session.ctrl.powerOn with
  | false =>
    rw [streamOff_down stream powered]
    exact ⟨tracked.clocks, tracked.noMax.1, none⟩
  | true =>
    by_cases last : stream = .max
    · obtain ⟨power, -⟩ := streamOff_max powered
      rw [last] at none ⊢
      constructor
      · rw [power]
        exact tracked.clocks
      · rw [power]
        exact ⟨tracked.noMax.1, none⟩
    · obtain ⟨power, -, -⟩ := streamOff_up last powered
      constructor
      · intro other
        rw [power]
        by_cases same : other = stream
        · have := Bool.toNat_le (session.ctrl.power.strmClksOn stream)
          simp [dpPowerClkDisable, same, tracked.clocks]
          omega
        · simp [dpPowerClkDisable, same, tracked.clocks]
      · rw [power]
        exact ⟨by simp [dpPowerClkDisable, Ne.symm last, tracked.noMax.1], none⟩

theorem decremented {count : U32} {n : ℕ} (counts : count.toNat = n + 1) :
    (count - 1).toNat = n ∧ decide (count < count - 1) = false := by
  have small : n + 1 < 4294967296 := by
    rw [← counts]
    exact count.isLt
  have difference : (count - 1).toNat = n := by
    rw [BitVec.toNat_sub, counts]
    change (4294967296 - 1 + (n + 1)) % 4294967296 = n
    omega
  constructor
  · exact difference
  · rw [decide_eq_false_iff_not, BitVec.lt_def, difference, counts]
    omega

theorem streamOff_accounted_iff (tracked : Tracked session)
    (good : Accounted session) (isOn : session.on stream = true) :
    Accounted (streamOff session stream) ↔ session.ctrl.powerOn = true := by
  obtain ⟨unwrapped, count, flags⟩ := (accounted_iff tracked).mp good
  rw [accounted_iff (streamOff_tracked stream tracked)]
  cases powered : session.ctrl.powerOn with
  | false =>
    rw [streamOff_down stream powered]
    -- the clock of the stream stays up
    have differs : session.ctrl.power.strmClksOn ≠ Function.update session.on stream false := by
      intro same
      have here := congrFun same stream
      simp [flags, isOn] at here
    simp [differs]
  | true =>
    have regular : stream ≠ .max := by
      intro last
      rw [last, tracked.noMax.2] at isOn
      cases isOn
    have turnOff := onCount_turnOff session.on stream
    rw [isOn, ← count] at turnOff
    obtain ⟨power, sum, wraps⟩ := streamOff_up regular powered
    obtain ⟨less, unwraps⟩ := decremented turnOff.symm
    have on : (streamOff session stream).on = Function.update session.on stream false := rfl
    rw [power, sum, wraps, on, unwrapped, unwraps, less]
    simp [dpPowerClkDisable, flags]

/-! ## The PHY test request -/

theorem dpCtrlOn_streams (ctrl : DpCtrl) (env : OnEnv) :
    (dpCtrlOn ctrl env).1.power = ctrl.power ∧
      (dpCtrlOn ctrl env).1.streamCount = ctrl.streamCount := by
  unfold dpCtrlOn
  split
  · exact ⟨rfl, rfl⟩
  · split
    · exact ⟨rfl, rfl⟩
    · split <;> exact ⟨rfl, rfl⟩

theorem dpCtrlOff_streams (ctrl : DpCtrl) :
    (dpCtrlOff ctrl).power = ctrl.power ∧ (dpCtrlOff ctrl).streamCount = ctrl.streamCount := by
  unfold dpCtrlOff
  split <;> exact ⟨rfl, rfl⟩

theorem tracked_congr {ctrl : DpCtrl} (power : ctrl.power = session.ctrl.power) :
    Tracked { session with ctrl } ↔ Tracked session := by
  constructor
  · intro tracked
    exact ⟨by simpa [power] using tracked.clocks, by simpa [power] using tracked.noMax⟩
  · intro tracked
    exact ⟨by simpa [power] using tracked.clocks, by simpa [power] using tracked.noMax⟩

theorem accounted_congr {ctrl : DpCtrl} (power : ctrl.power = session.ctrl.power)
    (count : ctrl.streamCount = session.ctrl.streamCount) :
    Accounted { session with ctrl } ↔ Accounted session := by
  constructor
  · intro good
    exact ⟨good.unwrapped, by simpa [count] using good.count, by simpa [power] using good.clocks⟩
  · intro good
    exact ⟨good.unwrapped, by simpa [count] using good.count, by simpa [power] using good.clocks⟩

def restarted (session : Session) (panel : StreamId) (onEnv : OnEnv) : Session :=
  let off := streamOff session panel
  let ctrl := dpCtrlOff off.ctrl
  { off with ctrl := (dpCtrlOn ctrl
      { onEnv with mstMode := ctrl.mstMode, fecMode := ctrl.fecMode }).1 }

theorem restarted_streams (panel : StreamId) (onEnv : OnEnv) :
    (restarted session panel onEnv).ctrl.power = (streamOff session panel).ctrl.power ∧
      (restarted session panel onEnv).ctrl.streamCount =
        (streamOff session panel).ctrl.streamCount := by
  have off := dpCtrlOff_streams (streamOff session panel).ctrl
  have on := dpCtrlOn_streams (dpCtrlOff (streamOff session panel).ctrl)
    { onEnv with
      mstMode := (dpCtrlOff (streamOff session panel).ctrl).mstMode
      fecMode := (dpCtrlOff (streamOff session panel).ctrl).fecMode }
  exact ⟨on.1.trans off.1, on.2.trans off.2⟩

theorem restarted_tracked (panel : StreamId) (onEnv : OnEnv) (tracked : Tracked session) :
    Tracked (restarted session panel onEnv) :=
  (tracked_congr (restarted_streams panel onEnv).1).mpr (streamOff_tracked panel tracked)

variable {panel : StreamId} {onEnv : OnEnv}

theorem phyTest_up_on (tracked : Tracked session) (good : Accounted session)
    (powered : session.ctrl.powerOn = true) (isOn : session.on panel = true) :
    Accounted (streamOn (restarted session panel onEnv) panel env) ↔ ComesUp panel env := by
  have off : Accounted (streamOff session panel) :=
    (streamOff_accounted_iff tracked good isOn).mpr powered
  have again : Accounted (restarted session panel onEnv) :=
    (accounted_congr (restarted_streams panel onEnv).1 (restarted_streams panel onEnv).2).mpr off
  have isOff : (restarted session panel onEnv).on panel = false := Function.update_self _ _ _
  rw [streamOn_accounted_iff panel env (restarted_tracked panel onEnv tracked) again, isOff]
  simp

theorem phyTest_up_off (tracked : Tracked session) (good : Accounted session)
    (powered : session.ctrl.powerOn = true) (isOff : session.on panel = false) :
    ¬ Accounted (streamOn (restarted session panel onEnv) panel env) := by
  obtain ⟨-, count, -⟩ := (accounted_iff tracked).mp good
  have again := restarted_tracked panel onEnv tracked
  have on : (restarted session panel onEnv).on = session.on := by
    change Function.update session.on panel false = session.on
    rw [← isOff, Function.update_eq_self]
  have sum : (restarted session panel onEnv).ctrl.streamCount = session.ctrl.streamCount - 1 := by
    rw [(restarted_streams panel onEnv).2]
    simp [streamOff, dpCtrlStreamOff, powered]
    cases panel <;> rfl
  have few := onCount_le session.on
  have less : (session.ctrl.streamCount - 1).toNat = (onCount session.on + 4294967295) %
    4294967296 := by
    rw [BitVec.toNat_sub, count, Nat.add_comm]
    rfl
  intro bad
  by_cases fails : ClocksFail (restarted session panel onEnv) panel env
  · rw [streamOn_fail fails] at bad
    have counts := bad.count
    rw [sum, on, less] at counts
    omega
  · rw [accounted_iff (streamOn_tracked panel env again)] at bad
    obtain ⟨-, counts, flags⟩ := bad
    obtain ⟨power, turned, counted, -⟩ := streamOn_ok again fails
    -- its clock is up now, so it must be one more stream that is on
    have configured : env.hwCfgRc = 0 := by
      by_contra failed
      have here := congrFun flags panel
      rw [power, turned, if_neg failed, on, isOff] at here
      simp at here
    have turnOn := onCount_turnOn session.on panel
    rw [isOff, Bool.toNat_false, Nat.add_zero] at turnOn
    rw [turned, if_pos configured, on, turnOn, counted, sum] at counts
    split at counts
    · rw [BitVec.sub_add_cancel, count] at counts
      omega
    · rw [less] at counts
      omega

theorem phyTest_down_on (tracked : Tracked session) (good : Accounted session)
    (unpowered : session.ctrl.powerOn = false) (isOn : session.on panel = true) :
    Accounted (streamOn (restarted session panel onEnv) panel env) ↔
      env.hwCfgRc = 0 ∧ env.phyTestPattern = true := by
  obtain ⟨unwrapped, count, flags⟩ := (accounted_iff tracked).mp good
  have few := onCount_le session.on
  have again := restarted_tracked panel onEnv tracked
  have off := streamOff_down panel unpowered
  obtain ⟨kept, sum⟩ := @restarted_streams session panel onEnv
  rw [off] at kept sum
  have unwraps : (restarted session panel onEnv).wrapped = false := by
    change (streamOff session panel).wrapped = false
    rw [off, unwrapped]
  have clocksUp : ¬ ClocksFail (restarted session panel onEnv) panel env := by
    intro fails
    cases fails with
    | inl last =>
      rw [last, tracked.noMax.2] at isOn
      cases isOn
    | inr down =>
      rw [kept, flags, isOn] at down
      cases down.1
  obtain ⟨power, turned, counted, wraps⟩ := streamOn_ok again clocksUp
  have on : (restarted session panel onEnv).on = Function.update session.on panel false := rfl
  have restored : Function.update session.on panel true = session.on := by
    rw [← isOn, Function.update_eq_self]
  obtain ⟨more, grows⟩ := incremented count few
  rw [accounted_iff (streamOn_tracked panel env again), power, wraps, turned, counted, kept, sum,
    flags, unwraps, on, Function.update_idem, restored]
  generalize session.ctrl.streamCount + 1 = next at more grows
  have differs : session.on ≠ Function.update session.on panel false := by
    intro same
    have here := congrFun same panel
    simp [isOn] at here
  by_cases configured : env.hwCfgRc = 0
  · cases pattern : env.phyTestPattern with
    | true => simp [configured, count]
    | false => simp [configured, more]
  · simp [configured, differs]

theorem phyTest_down_off (tracked : Tracked session) (good : Accounted session)
    (unpowered : session.ctrl.powerOn = false) (isOff : session.on panel = false) :
    Accounted (streamOn (restarted session panel onEnv) panel env) ↔ ComesUp panel env := by
  have same : streamOff session panel = session := by
    rw [streamOff_down panel unpowered, ← isOff, Function.update_eq_self]
  have again : Accounted (restarted session panel onEnv) := by
    have kept := @restarted_streams session panel onEnv
    exact (accounted_congr kept.1 kept.2).mpr (by rwa [same])
  have off : (restarted session panel onEnv).on panel = false := Function.update_self _ _ _
  rw [streamOn_accounted_iff panel env (restarted_tracked panel onEnv tracked) again, off]
  simp

/-! ## Runs -/

theorem step_tracked (call : Call) (tracked : Tracked session) : Tracked (step session call) := by
  cases call with
  | on env => exact (tracked_congr (dpCtrlOn_streams session.ctrl env).1).mpr tracked
  | streamOn stream env => exact streamOn_tracked stream env tracked
  | streamPreOff stream => exact tracked
  | streamOff stream => exact streamOff_tracked stream tracked
  | off => exact (tracked_congr (dpCtrlOff_streams session.ctrl).1).mpr tracked
  | phyTest sel panel onEnv env =>
    simp only [step, dpCtrlProcessPhyTestRequest]
    split
    · exact tracked
    · exact streamOn_tracked panel env (restarted_tracked panel onEnv tracked)

theorem phyTest_accounted_iff (sel : U32) (panel : StreamId) (onEnv : OnEnv) (env : StreamOnEnv)
    (tracked : Tracked session) (good : Accounted session) :
    Accounted (step session (.phyTest sel panel onEnv env)) ↔
      Meets session (.phyTest sel panel onEnv env) := by
  by_cases none : sel = 0
  · simp [step, dpCtrlProcessPhyTestRequest, Meets, none, good]
  · have request : step session (.phyTest sel panel onEnv env) =
        streamOn (restarted session panel onEnv) panel env := by
      simp only [step, dpCtrlProcessPhyTestRequest, if_neg none]
      rfl
    rw [request]
    simp only [Meets, none, false_or]
    cases powered : session.ctrl.powerOn <;> cases isOn : session.on panel
    · simpa using phyTest_down_off tracked good powered isOn
    · simpa using phyTest_down_on tracked good powered isOn
    · simpa using phyTest_up_off tracked good powered isOn
    · simpa using phyTest_up_on tracked good powered isOn

theorem step_accounted_iff (call : Call) (paired : OffWhileOn session call)
    (tracked : Tracked session) (good : Accounted session) :
    Accounted (step session call) ↔ Meets session call := by
  cases call with
  | on env =>
    obtain ⟨power, count⟩ := dpCtrlOn_streams session.ctrl env
    simpa [Meets, step] using (accounted_congr power count).mpr good
  | streamOn stream env => exact streamOn_accounted_iff stream env tracked good
  | streamPreOff stream => simpa [Meets, step] using good
  | streamOff stream => exact streamOff_accounted_iff tracked good paired
  | off =>
    obtain ⟨power, count⟩ := dpCtrlOff_streams session.ctrl
    simpa [Meets, step] using (accounted_congr power count).mpr good
  | phyTest sel panel onEnv env => exact phyTest_accounted_iff sel panel onEnv env tracked good

end Step

theorem init_tracked : Tracked Session.init := ⟨fun _ => rfl, rfl, rfl⟩

theorem init_accounted : Accounted Session.init := ⟨rfl, rfl, fun _ => rfl⟩

/-- In runs that turn off only streams that are on, the accounting is right throughout exactly
    when every call meets its condition. -/
theorem streams_accounted_iff {calls : List Call}
    (paired : StepsMeet step OffWhileOn Session.init calls) :
    Throughout step Accounted Session.init calls ↔ StepsMeet step Meets Session.init calls :=
  throughout_iff_stepsMeet_when Tracked (fun _ call => step_tracked call)
    (fun _ call => step_accounted_iff call) init_tracked init_accounted paired

theorem streams_accounted_iff_one_stream :
    Throughout step Accounted Session.init
        [.on ⟨false, false, false, 0⟩, .streamOn .stream0 ⟨0, 0, false⟩, .streamOff .stream0] ↔
      StepsMeet step Meets Session.init
        [.on ⟨false, false, false, 0⟩, .streamOn .stream0 ⟨0, 0, false⟩, .streamOff .stream0] :=
  streams_accounted_iff (by decide)

/-- A stream that shows a PHY test pattern has its clock, but is not counted. -/
theorem phy_test_not_counted :
    StepsMeet step OffWhileOn Session.init
        [.on ⟨false, false, false, 0⟩, .streamOn .stream0 ⟨0, 0, true⟩] ∧
      ¬ Throughout step Accounted Session.init
        [.on ⟨false, false, false, 0⟩, .streamOn .stream0 ⟨0, 0, true⟩] := by
  constructor
  · decide
  · intro throughout
    have count := throughout.2.2.count
    revert count
    decide

end DisplayDrivers.Dp
