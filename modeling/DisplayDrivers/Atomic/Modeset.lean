import Mathlib.Data.List.Nodup
import Mathlib.Tactic.Common

/-! # Disabling and enabling outputs

`msm_disable_outputs` and `msm_atomic_helper_commit_modeset_enables` walk over the connectors and
the CRTCs of an atomic state after it has been swapped: the state holds the old states, the objects
point to the new ones.
-/

namespace DisplayDrivers.Atomic.Modeset

/-- The flags of a mode that `msm_is_mode_seamless`, `_vrr`, `_dyn_clk`, `_dms` and
    `msm_needs_vblank_pre_modeset` test. -/
structure Mode where
  seamless : Bool
  vrr : Bool
  dynClk : Bool
  dms : Bool
  vblankPreModeset : Bool

structure CrtcState where
  enable : Bool
  active : Bool
  modeChanged : Bool
  activeChanged : Bool
  connectorsChanged : Bool
  mode : Mode
  adjustedMode : Mode

def CrtcState.needsModeset (state : CrtcState) : Bool :=
  state.modeChanged || state.activeChanged || state.connectorsChanged

structure ConnectorState where
  crtc : Option ℕ
  bestEncoder : Option ℕ

/-- A connector of an atomic state: the state it had, the one it points to now, and the CRTC of
    its legacy encoder (`connector->encoder->crtc`). -/
structure Connector where
  old : ConnectorState
  new : ConnectorState
  legacyCrtc : ℕ

/-- An atomic state that has been swapped.  `newCrtc` is `crtc->state`; `others` are the states of
    the connectors that are not part of it, which do not change. -/
structure State where
  crtcs : List ℕ
  oldCrtc : ℕ → CrtcState
  newCrtc : ℕ → CrtcState
  connectors : List Connector
  others : List ConnectorState

structure CrtcFuncs where
  prepare : Bool
  disable : Bool
  atomicEnable : Bool

structure EncoderFuncs where
  prepare : Bool
  disable : Bool
  enable : Bool

/-- The helper functions that the objects have; `checkForSplash` answers for the encoder that is
    being enabled. -/
structure Driver where
  crtcFuncs : ℕ → CrtcFuncs
  encoderFuncs : ℕ → EncoderFuncs
  checkForSplash : Option (ℕ → Bool)
  kmsCommit : Bool

inductive Blank
  | powerdown
  | unblank

inductive Call
  | notifyEarly (blank : Blank) (crtc : ℕ)
  | notify (blank : Blank) (crtc : ℕ)
  | bridgeDisable (encoder : ℕ)
  | bridgePostDisable (encoder : ℕ)
  | bridgePreEnable (encoder : ℕ)
  | bridgeEnable (encoder : ℕ)
  | encoderPrepare (encoder : ℕ)
  | encoderDisable (encoder : ℕ)
  | encoderDpmsOff (encoder : ℕ)
  | encoderEnable (encoder : ℕ)
  | encoderCommit (encoder : ℕ)
  | crtcPrepare (crtc : ℕ)
  | crtcDisable (crtc : ℕ)
  | crtcDpmsOff (crtc : ℕ)
  | crtcAtomicEnable (crtc : ℕ)
  | crtcCommit (crtc : ℕ)
  | waitOneVblank (crtc : ℕ)
  | kmsCommit

def Connector.involves (conn : Connector) (crtc : ℕ) : Bool :=
  conn.old.crtc == some crtc || conn.new.crtc == some crtc

/-- The loop of `_msm_seamless_for_crtc`, which has counted `connCnt` connectors so far. -/
def multipleConnDetected (crtc : ℕ) : List Connector → ℕ → Bool
  | [], _ => false
  | conn :: rest, connCnt =>
    let connCnt := if conn.involves crtc then connCnt + 1 else connCnt
    if 1 < connCnt then true else multipleConnDetected crtc rest connCnt

def seamlessForCrtc (st : State) (crtc : ℕ) (enable : Bool) : Bool :=
  let state := st.newCrtc crtc
  if state.mode.seamless || state.adjustedMode.vrr || state.adjustedMode.dynClk then true
  else if state.adjustedMode.dms && !enable then true
  else if !state.modeChanged && state.connectorsChanged then
    multipleConnDetected crtc st.connectors 0
  else false

def seamlessForConn (st : State) (conn : Connector) (enable : Bool) : Bool :=
  match conn.old.crtc with
  | none => false
  | some crtc =>
    let state := st.newCrtc crtc
    if !state.modeChanged && !state.activeChanged && state.connectorsChanged &&
        conn.new.crtc == some crtc then true
    else if enable then false
    else
      let legacy := st.newCrtc conn.legacyCrtc
      legacy.mode.seamless || legacy.adjustedMode.vrr || legacy.adjustedMode.dynClk ||
        legacy.adjustedMode.dms

def State.switched (st : State) (conn : Connector) : Bool :=
  conn.new.crtc.any fun crtc => (st.newCrtc crtc).activeChanged

/-- The encoder that `msm_disable_outputs` disables for a connector, and its CRTC. -/
def State.disables (st : State) (conn : Connector) : Option (ℕ × ℕ) :=
  match conn.old.crtc with
  | none => none
  | some crtc =>
    if !(st.oldCrtc crtc).active || !(st.newCrtc crtc).needsModeset then none
    else
      match conn.old.bestEncoder with
      | none => none
      | some encoder => if seamlessForConn st conn false then none else some (encoder, crtc)

def encoderOffHook (funcs : EncoderFuncs) (conn : Connector) (encoder : ℕ) : Call :=
  if conn.new.crtc.isSome && funcs.prepare then .encoderPrepare encoder
  else if funcs.disable then .encoderDisable encoder
  else .encoderDpmsOff encoder

def crtcOffHook (funcs : CrtcFuncs) (state : CrtcState) (crtc : ℕ) : Call :=
  if state.enable && funcs.prepare then .crtcPrepare crtc
  else if funcs.disable then .crtcDisable crtc
  else .crtcDpmsOff crtc

def encoderOnHook (funcs : EncoderFuncs) (encoder : ℕ) : Call :=
  if funcs.enable then .encoderEnable encoder else .encoderCommit encoder

def crtcOnHook (funcs : CrtcFuncs) (crtc : ℕ) : Call :=
  if funcs.atomicEnable then .crtcAtomicEnable crtc else .crtcCommit crtc

def disableConnector (drv : Driver) (st : State) (conn : Connector) : List Call :=
  match st.disables conn with
  | none => []
  | some (encoder, crtc) =>
    (if st.switched conn then [.notifyEarly .powerdown crtc] else []) ++
    [.bridgeDisable encoder, encoderOffHook (drv.encoderFuncs encoder) conn encoder,
      .bridgePostDisable encoder] ++
    (if st.switched conn then [.notify .powerdown crtc] else [])

def disableCrtc (drv : Driver) (st : State) (crtc : ℕ) : List Call :=
  let state := st.newCrtc crtc
  if !state.needsModeset then []
  else if !(st.oldCrtc crtc).active then []
  else if seamlessForCrtc st crtc false then []
  else [crtcOffHook (drv.crtcFuncs crtc) state crtc]

def disableOutputs (drv : Driver) (st : State) : List Call :=
  st.connectors.flatMap (disableConnector drv st) ++ st.crtcs.flatMap (disableCrtc drv st)

def enableCrtc (drv : Driver) (st : State) (crtc : ℕ) : List Call :=
  let state := st.newCrtc crtc
  if !state.needsModeset then []
  else if !state.active then []
  else if seamlessForCrtc st crtc true then []
  else
    (if state.enable then [crtcOnHook (drv.crtcFuncs crtc) crtc] else []) ++
    (if state.adjustedMode.vblankPreModeset then [.waitOneVblank crtc] else [])

def State.enables (st : State) (conn : Connector) : Option (ℕ × ℕ) :=
  match conn.new.bestEncoder, conn.new.crtc with
  | some encoder, some crtc =>
    if !(st.newCrtc crtc).active || !(st.newCrtc crtc).needsModeset then none
    else if seamlessForConn st conn true then none
    else some (encoder, crtc)
  | _, _ => none

def Driver.splashAt (drv : Driver) (splash : Bool) (encoder : ℕ) : Bool :=
  match drv.checkForSplash with
  | some check => check encoder
  | none => splash

def enableConnectors (drv : Driver) (st : State) (splash : Bool) :
    List Connector → List Call × Bool
  | [] => ([], splash)
  | conn :: rest =>
    match st.enables conn with
    | none => enableConnectors drv st splash rest
    | some (encoder, crtc) =>
      let splash := drv.splashAt splash encoder
      let later := enableConnectors drv st splash rest
      ((if splash || st.switched conn then [.notifyEarly .unblank crtc] else []) ++
        [.bridgePreEnable encoder, encoderOnHook (drv.encoderFuncs encoder) encoder] ++ later.1,
        later.2)

def enableBridge (st : State) (splash : Bool) (conn : Connector) : List Call :=
  match st.enables conn with
  | none => []
  | some (encoder, crtc) =>
    [.bridgeEnable encoder] ++
    (if splash || st.switched conn then [.notify .unblank crtc] else [])

def commitModesetEnables (drv : Driver) (st : State) : List Call :=
  let (enabled, splash) := enableConnectors drv st false st.connectors
  let bridgeEnableCount := (st.connectors.filterMap st.enables).length
  st.crtcs.flatMap (enableCrtc drv st) ++ enabled ++
  (if drv.kmsCommit then [.kmsCommit] else []) ++
  (if bridgeEnableCount = 0 then [] else st.connectors.flatMap (enableBridge st splash))

/-! ## What the hooks are about -/

def Call.encoderOff : Call → Option ℕ
  | .encoderPrepare encoder => some encoder
  | .encoderDisable encoder => some encoder
  | .encoderDpmsOff encoder => some encoder
  | _ => none

def Call.crtcOff : Call → Option ℕ
  | .crtcPrepare crtc => some crtc
  | .crtcDisable crtc => some crtc
  | .crtcDpmsOff crtc => some crtc
  | _ => none

def Call.encoderOn : Call → Option ℕ
  | .encoderEnable encoder => some encoder
  | .encoderCommit encoder => some encoder
  | _ => none

def Call.crtcOn : Call → Option ℕ
  | .crtcAtomicEnable crtc => some crtc
  | .crtcCommit crtc => some crtc
  | _ => none

end DisplayDrivers.Atomic.Modeset
