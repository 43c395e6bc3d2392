import DisplayDrivers.Atomic.Modeset

/-! # What is disabled and enabled together

The hooks of a modeset, read as the lists of the encoders and CRTCs that they disable and enable.
-/

namespace DisplayDrivers.Atomic.Modeset

section Projections

variable {α β γ : Type*}

variable {f : α → List β}

theorem filterMap_flatMap_eq {g : β → Option γ} {h : α → Option γ}
    (each : ∀ a, (f a).filterMap g = (h a).toList) (list : List α) :
    (list.flatMap f).filterMap g = list.filterMap h := by
  induction list with
  | nil => rfl
  | cons a rest ih =>
    rw [List.flatMap_cons, List.filterMap_append, ih, each, List.filterMap_cons]
    cases h a with
    | none => rfl
    | some c => rfl

theorem filterMap_flatMap_nil {g : β → Option γ}
    (each : ∀ a, (f a).filterMap g = []) (list : List α) : (list.flatMap f).filterMap g = [] := by
  induction list with
  | nil => rfl
  | cons a rest ih => rw [List.flatMap_cons, List.filterMap_append, ih, each, List.append_nil]

theorem filterMap_sublist {g h : α → Option β} (below : ∀ a b, h a = some b → g a = some b)
    (list : List α) : (list.filterMap h).Sublist (list.filterMap g) := by
  induction list with
  | nil => exact List.Sublist.slnil
  | cons a rest ih =>
    cases found : h a with
    | none =>
      rw [List.filterMap_cons_none found]
      cases kept : g a with
      | none => rwa [List.filterMap_cons_none kept]
      | some b =>
        rw [List.filterMap_cons_some kept]
        exact ih.cons b
    | some b =>
      rw [List.filterMap_cons_some found, List.filterMap_cons_some (below a b found)]
      exact ih.cons_cons b

theorem filterMap_unique {g : α → Option β} {list : List α} (once : (list.filterMap g).Nodup)
    {a a' : α} {b : β} (member : a ∈ list) (member' : a' ∈ list) (at_a : g a = some b)
    (at_a' : g a' = some b) : a = a' := by
  induction list with
  | nil => cases member
  | cons first rest ih =>
    have later : (rest.filterMap g).Nodup :=
      once.sublist ((List.sublist_cons_self first rest).filterMap g)
    -- the value of the first element does not occur again
    have fresh : ∀ c ∈ rest, g c = some b → g first ≠ some b := by
      intro c listed at_c at_first
      rw [List.filterMap_cons_some at_first] at once
      exact (List.nodup_cons.mp once).1 (List.mem_filterMap.mpr ⟨c, listed, at_c⟩)
    cases member with
    | head =>
      cases member' with
      | head => rfl
      | tail _ listed' => exact absurd at_a (fresh a' listed' at_a')
    | tail _ listed =>
      cases member' with
      | head => exact absurd at_a' (fresh a listed at_a)
      | tail _ listed' => exact ih later listed listed'

end Projections

/-! ## What the checks leave, and what the update is -/

def Mode.Plain (mode : Mode) : Prop :=
  mode.seamless = false ∧ mode.vrr = false ∧ mode.dynClk = false ∧ mode.dms = false

def State.Plain (st : State) : Prop :=
  ∀ crtc ∈ st.crtcs, ((st.oldCrtc crtc).mode.Plain ∧ (st.oldCrtc crtc).adjustedMode.Plain) ∧
    (st.newCrtc crtc).mode.Plain ∧ (st.newCrtc crtc).adjustedMode.Plain

def State.oldConnectors (st : State) : List ConnectorState :=
  st.connectors.map (·.old) ++ st.others

def State.newConnectors (st : State) : List ConnectorState :=
  st.connectors.map (·.new) ++ st.others

/-- What the checks of the core leave: the connectors of a CRTC that needs a modeset are part of
    the state, as are the CRTCs of its connectors, and an encoder has at most one connector. -/
structure State.Checked (st : State) : Prop where
  nodup : st.crtcs.Nodup
  enabled : ∀ crtc ∈ st.crtcs, (st.newCrtc crtc).active = true → (st.newCrtc crtc).enable = true
  activeChanged : ∀ crtc ∈ st.crtcs, (st.oldCrtc crtc).active ≠ (st.newCrtc crtc).active →
    (st.newCrtc crtc).activeChanged = true
  added : ∀ conn ∈ st.connectors, ∀ crtc, conn.old.crtc = some crtc ∨ conn.new.crtc = some crtc →
    crtc ∈ st.crtcs
  affected : ∀ conn ∈ st.others, ∀ crtc ∈ st.crtcs, conn.crtc = some crtc →
    (st.newCrtc crtc).needsModeset = false
  legacy : ∀ conn ∈ st.connectors, ∀ crtc, conn.old.crtc = some crtc → conn.legacyCrtc = crtc
  oldEncoders : (st.oldConnectors.filterMap (·.bestEncoder)).Nodup
  newEncoders : (st.newConnectors.filterMap (·.bestEncoder)).Nodup

def State.AttachedOld (st : State) (crtc encoder : ℕ) : Prop :=
  ∃ conn ∈ st.oldConnectors, conn.crtc = some crtc ∧ conn.bestEncoder = some encoder

def State.AttachedNew (st : State) (crtc encoder : ℕ) : Prop :=
  ∃ conn ∈ st.newConnectors, conn.crtc = some crtc ∧ conn.bestEncoder = some encoder

def State.ConnectorsOnly (st : State) (crtc : ℕ) : Prop :=
  (st.newCrtc crtc).modeChanged = false ∧ (st.newCrtc crtc).activeChanged = false ∧
    (st.newCrtc crtc).connectorsChanged = true

def State.Cloned (st : State) (crtc : ℕ) : Prop :=
  (st.newCrtc crtc).modeChanged = false ∧ (st.newCrtc crtc).connectorsChanged = true ∧
    1 < st.connectors.countP (·.involves crtc)

def State.StaysOld (st : State) (crtc encoder : ℕ) : Prop :=
  ∃ conn ∈ st.connectors, conn.old.crtc = some crtc ∧ conn.new.crtc = some crtc ∧
    conn.old.bestEncoder = some encoder

def State.StaysNew (st : State) (crtc encoder : ℕ) : Prop :=
  ∃ conn ∈ st.connectors, conn.old.crtc = some crtc ∧ conn.new.crtc = some crtc ∧
    conn.new.bestEncoder = some encoder

variable {drv : Driver} {st : State} {conn : Connector} {crtc encoder : ℕ}

/-! ## The seamless predicates -/

theorem multipleConnDetected_iff (conns : List Connector) {connCnt : ℕ} (few : connCnt ≤ 1) :
    multipleConnDetected crtc conns connCnt = true ↔
      1 < connCnt + conns.countP (·.involves crtc) := by
  induction conns generalizing connCnt with
  | nil => simpa [multipleConnDetected] using few
  | cons conn rest ih =>
    simp only [multipleConnDetected]
    cases involved : conn.involves crtc with
    | false =>
      rw [if_neg Bool.false_ne_true, if_neg (by omega), ih few,
        List.countP_cons_of_neg (by simp [involved])]
    | true =>
      rw [if_pos rfl, List.countP_cons_of_pos (by simp [involved])]
      by_cases second : 1 < connCnt + 1
      · rw [if_pos second]
        exact iff_of_true rfl (by omega)
      · rw [if_neg second, ih (by omega)]
        omega

theorem seamlessForCrtc_iff (plain : st.Plain) (listed : crtc ∈ st.crtcs) (enable : Bool) :
    seamlessForCrtc st crtc enable = true ↔ st.Cloned crtc := by
  obtain ⟨-, ⟨seamless, -, -, -⟩, -, vrr, dynClk, dms⟩ := plain crtc listed
  unfold State.Cloned
  simp only [seamlessForCrtc, seamless, vrr, dynClk, dms]
  cases (st.newCrtc crtc).modeChanged with
  | true => simp
  | false =>
    cases (st.newCrtc crtc).connectorsChanged with
    | false => simp
    | true => simp [multipleConnDetected_iff]

theorem seamlessForConn_iff (checked : st.Checked) (plain : st.Plain)
    (listed : conn ∈ st.connectors)
    (on : conn.old.crtc = some crtc) (enable : Bool) :
    seamlessForConn st conn enable = true ↔ st.ConnectorsOnly crtc ∧ conn.new.crtc = some crtc := by
  have member : crtc ∈ st.crtcs := checked.added conn listed crtc (.inl on)
  obtain ⟨-, ⟨seamless, -, -, -⟩, -, vrr, dynClk, dms⟩ := plain crtc member
  unfold State.ConnectorsOnly
  simp only [seamlessForConn, on, checked.legacy conn listed crtc on, seamless, vrr, dynClk, dms]
  simp [and_assoc]

theorem seamlessForConn_none (off : conn.old.crtc = none) (enable : Bool) :
    seamlessForConn st conn enable = false := by
  simp [seamlessForConn, off]

/-! ## What is disabled -/

def offEncoders (drv : Driver) (st : State) : List ℕ :=
  (disableOutputs drv st).filterMap Call.encoderOff

def offCrtcs (drv : Driver) (st : State) : List ℕ := (disableOutputs drv st).filterMap Call.crtcOff

theorem disableConnector_encoderOff (conn : Connector) :
    (disableConnector drv st conn).filterMap Call.encoderOff =
      ((st.disables conn).map Prod.fst).toList := by
  unfold disableConnector
  cases st.disables conn with
  | none => rfl
  | some found =>
    simp only [encoderOffHook]
    split_ifs <;> rfl

theorem disableConnector_crtcOff (conn : Connector) :
    (disableConnector drv st conn).filterMap Call.crtcOff = [] := by
  unfold disableConnector
  cases st.disables conn with
  | none => rfl
  | some found =>
    simp only [encoderOffHook]
    split_ifs <;> rfl

def State.disablesCrtc (st : State) (crtc : ℕ) : Bool :=
  (st.newCrtc crtc).needsModeset && (st.oldCrtc crtc).active && !seamlessForCrtc st crtc false

theorem disableCrtc_eq (crtc : ℕ) : disableCrtc drv st crtc =
    if st.disablesCrtc crtc then [crtcOffHook (drv.crtcFuncs crtc) (st.newCrtc crtc) crtc]
    else [] := by
  cases needs : (st.newCrtc crtc).needsModeset with
  | false => simp [disableCrtc, State.disablesCrtc, needs]
  | true =>
    cases was : (st.oldCrtc crtc).active with
    | false => simp [disableCrtc, State.disablesCrtc, needs, was]
    | true =>
      cases seamless : seamlessForCrtc st crtc false with
      | false => simp [disableCrtc, State.disablesCrtc, needs, was, seamless]
      | true => simp [disableCrtc, State.disablesCrtc, needs, was, seamless]

theorem disableCrtc_encoderOff (crtc : ℕ) :
    (disableCrtc drv st crtc).filterMap Call.encoderOff = [] := by
  rw [disableCrtc_eq]
  unfold crtcOffHook
  split_ifs <;> rfl

theorem disableCrtc_crtcOff (crtc : ℕ) :
    (disableCrtc drv st crtc).filterMap Call.crtcOff =
      (Option.guard st.disablesCrtc crtc).toList := by
  rw [disableCrtc_eq]
  unfold crtcOffHook Option.guard
  split_ifs <;> rfl

theorem offEncoders_eq :
    offEncoders drv st = st.connectors.filterMap fun conn => (st.disables conn).map Prod.fst := by
  have crtcs : (st.crtcs.flatMap (disableCrtc drv st)).filterMap Call.encoderOff = [] :=
    filterMap_flatMap_nil disableCrtc_encoderOff _
  rw [offEncoders, disableOutputs, List.filterMap_append, crtcs, List.append_nil,
    filterMap_flatMap_eq disableConnector_encoderOff]

theorem offCrtcs_eq : offCrtcs drv st = st.crtcs.filter st.disablesCrtc := by
  have connectors : (st.connectors.flatMap (disableConnector drv st)).filterMap Call.crtcOff = [] :=
    filterMap_flatMap_nil disableConnector_crtcOff _
  rw [offCrtcs, disableOutputs, List.filterMap_append, connectors, List.nil_append,
    filterMap_flatMap_eq disableCrtc_crtcOff, List.filterMap_eq_filter]

/-! ## What is enabled -/

def onEncoders (drv : Driver) (st : State) : List ℕ :=
  (commitModesetEnables drv st).filterMap Call.encoderOn

def onCrtcs (drv : Driver) (st : State) : List ℕ :=
  (commitModesetEnables drv st).filterMap Call.crtcOn

def State.enablesCrtc (st : State) (crtc : ℕ) : Bool :=
  (st.newCrtc crtc).needsModeset && (st.newCrtc crtc).active && !seamlessForCrtc st crtc true &&
    (st.newCrtc crtc).enable

theorem enableCrtc_eq (drv : Driver) (st : State) (crtc : ℕ) : ∃ waits : List Call,
    (waits = [] ∨ waits = [.waitOneVblank crtc]) ∧ enableCrtc drv st crtc =
      (if st.enablesCrtc crtc then [crtcOnHook (drv.crtcFuncs crtc) crtc] else []) ++ waits := by
  cases needs : (st.newCrtc crtc).needsModeset with
  | false => exact ⟨[], .inl rfl, by simp [enableCrtc, State.enablesCrtc, needs]⟩
  | true =>
    cases becomes : (st.newCrtc crtc).active with
    | false => exact ⟨[], .inl rfl, by simp [enableCrtc, State.enablesCrtc, needs, becomes]⟩
    | true =>
      cases seamless : seamlessForCrtc st crtc true with
      | true =>
        exact ⟨[], .inl rfl, by simp [enableCrtc, State.enablesCrtc, needs, becomes, seamless]⟩
      | false =>
        refine ⟨if (st.newCrtc crtc).adjustedMode.vblankPreModeset then
          [.waitOneVblank crtc] else [],
          ?_, by simp [enableCrtc, State.enablesCrtc, needs, becomes, seamless]⟩
        split
        · exact .inr rfl
        · exact .inl rfl

theorem enableCrtc_encoderOn (crtc : ℕ) :
    (enableCrtc drv st crtc).filterMap Call.encoderOn = [] := by
  obtain ⟨waits, either, is⟩ := enableCrtc_eq drv st crtc
  rw [is]
  unfold crtcOnHook
  cases either with
  | inl none =>
    rw [none]
    split_ifs <;> rfl
  | inr one =>
    rw [one]
    split_ifs <;> rfl

theorem enableCrtc_crtcOn (crtc : ℕ) :
    (enableCrtc drv st crtc).filterMap Call.crtcOn = (Option.guard st.enablesCrtc crtc).toList := by
  obtain ⟨waits, either, is⟩ := enableCrtc_eq drv st crtc
  rw [is]
  unfold crtcOnHook Option.guard
  cases either with
  | inl none =>
    rw [none]
    split_ifs <;> rfl
  | inr one =>
    rw [one]
    split_ifs <;> rfl

theorem enableConnectors_on (splash : Bool) (conns : List Connector) :
    (enableConnectors drv st splash conns).1.filterMap Call.encoderOn =
        conns.filterMap (fun conn => (st.enables conn).map Prod.fst) ∧
      (enableConnectors drv st splash conns).1.filterMap Call.crtcOn = [] := by
  induction conns generalizing splash with
  | nil => exact ⟨rfl, rfl⟩
  | cons conn rest ih =>
    cases reached : st.enables conn with
    | none =>
      simp only [enableConnectors, reached]
      rw [List.filterMap_cons_none (by rw [reached]; rfl)]
      exact ih splash
    | some found =>
      simp only [enableConnectors, reached]
      obtain ⟨encoders, crtcs⟩ := ih (drv.splashAt splash found.1)
      have first : (conn :: rest).filterMap (fun conn => (st.enables conn).map Prod.fst) =
          found.1 :: rest.filterMap (fun conn => (st.enables conn).map Prod.fst) :=
        List.filterMap_cons_some (by rw [reached]; rfl)
      simp only [List.filterMap_append]
      rw [encoders, crtcs, first]
      unfold encoderOnHook
      split_ifs <;> exact ⟨rfl, rfl⟩

theorem enableBridge_encoderOn (splash : Bool) (conn : Connector) :
    (enableBridge st splash conn).filterMap Call.encoderOn = [] := by
  unfold enableBridge
  cases st.enables conn with
  | none => rfl
  | some found =>
    simp only
    split_ifs <;> rfl

theorem enableBridge_crtcOn (splash : Bool) (conn : Connector) :
    (enableBridge st splash conn).filterMap Call.crtcOn = [] := by
  unfold enableBridge
  cases st.enables conn with
  | none => rfl
  | some found =>
    simp only
    split_ifs <;> rfl

variable {g : Call → Option ℕ}

theorem bridges_eq_nil (each : ∀ splash conn, (enableBridge st splash conn).filterMap g = [])
    (splash : Bool) (n : ℕ) :
    (if n = 0 then [] else st.connectors.flatMap (enableBridge st splash)).filterMap g = [] := by
  split
  · rfl
  · exact filterMap_flatMap_nil (each splash) _

theorem kmsCommit_eq_nil (none : g .kmsCommit = none) :
    (if drv.kmsCommit then [Call.kmsCommit] else []).filterMap g = [] := by
  split
  · rw [List.filterMap_cons_none none, List.filterMap_nil]
  · rfl

theorem onEncoders_eq :
    onEncoders drv st = st.connectors.filterMap fun conn => (st.enables conn).map Prod.fst := by
  have crtcs : (st.crtcs.flatMap (enableCrtc drv st)).filterMap Call.encoderOn = [] :=
    filterMap_flatMap_nil enableCrtc_encoderOn _
  simp only [onEncoders, commitModesetEnables, List.filterMap_append]
  rw [crtcs, (enableConnectors_on false st.connectors).1, kmsCommit_eq_nil rfl,
    bridges_eq_nil enableBridge_encoderOn, List.nil_append, List.append_nil, List.append_nil]

theorem onCrtcs_eq : onCrtcs drv st = st.crtcs.filter st.enablesCrtc := by
  simp only [onCrtcs, commitModesetEnables, List.filterMap_append]
  rw [filterMap_flatMap_eq enableCrtc_crtcOn, (enableConnectors_on false st.connectors).2,
    kmsCommit_eq_nil rfl, bridges_eq_nil enableBridge_crtcOn, List.append_nil, List.append_nil,
    List.append_nil, List.filterMap_eq_filter]

/-! ## Which CRTCs and encoders -/

theorem disables_iff : (st.disables conn).map Prod.fst = some encoder ↔ ∃ crtc,
    conn.old.crtc = some crtc ∧ conn.old.bestEncoder = some encoder ∧
      (st.oldCrtc crtc).active = true ∧ (st.newCrtc crtc).needsModeset = true ∧
      seamlessForConn st conn false = false := by
  unfold State.disables
  cases conn.old.crtc with
  | none => simp
  | some crtc =>
    cases conn.old.bestEncoder with
    | none => simp
    | some first =>
      cases seamlessForConn st conn false with
      | false => simp [and_comm]
      | true => simp

theorem enables_iff : (st.enables conn).map Prod.fst = some encoder ↔ ∃ crtc,
    conn.new.crtc = some crtc ∧ conn.new.bestEncoder = some encoder ∧
      (st.newCrtc crtc).active = true ∧ (st.newCrtc crtc).needsModeset = true ∧
      seamlessForConn st conn true = false := by
  unfold State.enables
  cases conn.new.crtc with
  | none => simp
  | some crtc =>
    cases conn.new.bestEncoder with
    | none => simp
    | some first =>
      cases seamlessForConn st conn true with
      | false => simp [and_comm]
      | true => simp

theorem mem_offCrtcs (plain : st.Plain) : crtc ∈ offCrtcs drv st ↔ crtc ∈ st.crtcs ∧
    (st.newCrtc crtc).needsModeset = true ∧ (st.oldCrtc crtc).active = true ∧ ¬ st.Cloned crtc := by
  rw [offCrtcs_eq, List.mem_filter]
  refine and_congr_right fun listed => ?_
  rw [← seamlessForCrtc_iff plain listed false]
  simp [State.disablesCrtc, and_assoc]

theorem mem_onCrtcs (checked : st.Checked) (plain : st.Plain) : crtc ∈ onCrtcs drv st ↔
    crtc ∈ st.crtcs ∧ (st.newCrtc crtc).needsModeset = true ∧ (st.newCrtc crtc).active = true ∧
      ¬ st.Cloned crtc := by
  rw [onCrtcs_eq, List.mem_filter]
  refine and_congr_right fun listed => ?_
  rw [← seamlessForCrtc_iff plain listed true]
  have enabled := checked.enabled crtc listed
  simp only [State.enablesCrtc, Bool.and_eq_true, Bool.not_eq_true', Bool.not_eq_true, and_assoc]
  refine and_congr_right fun _ => and_congr_right fun active => ?_
  exact and_iff_left (enabled active)

theorem nodup_offCrtcs (checked : st.Checked) : (offCrtcs drv st).Nodup := by
  rw [offCrtcs_eq]
  exact checked.nodup.filter _

theorem nodup_onCrtcs (checked : st.Checked) : (onCrtcs drv st).Nodup := by
  rw [onCrtcs_eq]
  exact checked.nodup.filter _

theorem split_encoders {side : Connector → ConnectorState}
    (once : ((st.connectors.map side ++ st.others).filterMap (·.bestEncoder)).Nodup) :
    (st.connectors.filterMap fun conn => (side conn).bestEncoder).Nodup ∧
      ∀ conn ∈ st.connectors, ∀ other ∈ st.others, ∀ encoder,
        (side conn).bestEncoder = some encoder → other.bestEncoder ≠ some encoder := by
  rw [List.filterMap_append, List.filterMap_map, List.nodup_append] at once
  refine ⟨once.1, fun conn listed other outside encoder at_conn at_other => ?_⟩
  exact once.2.2 encoder (List.mem_filterMap.mpr ⟨conn, listed, at_conn⟩) encoder
    (List.mem_filterMap.mpr ⟨other, outside, at_other⟩) rfl

theorem nodup_offEncoders (checked : st.Checked) : (offEncoders drv st).Nodup := by
  rw [offEncoders_eq]
  refine (split_encoders checked.oldEncoders).1.sublist (filterMap_sublist ?_ st.connectors)
  intro conn encoder disabled
  obtain ⟨_, _, best, _⟩ := disables_iff.mp disabled
  exact best

theorem nodup_onEncoders (checked : st.Checked) : (onEncoders drv st).Nodup := by
  rw [onEncoders_eq]
  refine (split_encoders checked.newEncoders).1.sublist (filterMap_sublist ?_ st.connectors)
  intro conn encoder enabled
  obtain ⟨_, _, best, _⟩ := enables_iff.mp enabled
  exact best

theorem mem_offEncoders (checked : st.Checked) (plain : st.Plain) (listed : crtc ∈ st.crtcs)
    (attached : st.AttachedOld crtc encoder) : encoder ∈ offEncoders drv st ↔
      (st.newCrtc crtc).needsModeset = true ∧ (st.oldCrtc crtc).active = true ∧
        ¬ (st.ConnectorsOnly crtc ∧ st.StaysOld crtc encoder) := by
  obtain ⟨once, apart⟩ := split_encoders checked.oldEncoders
  obtain ⟨_, state, on, best⟩ := attached
  rw [offEncoders_eq, List.mem_filterMap]
  rw [State.oldConnectors, List.mem_append, List.mem_map] at state
  constructor
  · intro ⟨conn, member, disabled⟩
    obtain ⟨crtc', on', best', active, needs, seamless⟩ := disables_iff.mp disabled
    cases state with
    | inr outside => exact absurd best (apart conn member _ outside encoder best')
    | inl inside =>
      obtain ⟨conn', member', rfl⟩ := inside
      obtain rfl := filterMap_unique once member member' best' best
      obtain rfl := Option.some.inj (on'.symm.trans on)
      refine ⟨needs, active, fun ⟨only, conn', member', _, stays, best''⟩ => ?_⟩
      obtain rfl := filterMap_unique once member member' best' best''
      exact nomatch ((seamlessForConn_iff checked plain member on' false).mpr
        ⟨only, stays⟩).symm.trans
        seamless
  · intro ⟨needs, active, moves⟩
    cases state with
    | inr outside =>
      exact nomatch needs.symm.trans (checked.affected _ outside crtc listed on)
    | inl inside =>
      obtain ⟨conn, member, rfl⟩ := inside
      refine ⟨conn, member, disables_iff.mpr ⟨crtc, on, best, active, needs, ?_⟩⟩
      rw [← Bool.not_eq_true, seamlessForConn_iff checked plain member on]
      exact fun ⟨only, stays⟩ => moves ⟨only, conn, member, on, stays, best⟩

theorem mem_onEncoders (checked : st.Checked) (plain : st.Plain) (listed : crtc ∈ st.crtcs)
    (attached : st.AttachedNew crtc encoder) : encoder ∈ onEncoders drv st ↔
      (st.newCrtc crtc).needsModeset = true ∧ (st.newCrtc crtc).active = true ∧
        ¬ (st.ConnectorsOnly crtc ∧ st.StaysNew crtc encoder) := by
  obtain ⟨once, apart⟩ := split_encoders checked.newEncoders
  obtain ⟨_, state, on, best⟩ := attached
  rw [onEncoders_eq, List.mem_filterMap]
  rw [State.newConnectors, List.mem_append, List.mem_map] at state
  constructor
  · intro ⟨conn, member, enabled⟩
    obtain ⟨crtc', on', best', active, needs, seamless⟩ := enables_iff.mp enabled
    cases state with
    | inr outside => exact absurd best (apart conn member _ outside encoder best')
    | inl inside =>
      obtain ⟨conn', member', rfl⟩ := inside
      obtain rfl := filterMap_unique once member member' best' best
      obtain rfl := Option.some.inj (on'.symm.trans on)
      refine ⟨needs, active, fun ⟨only, conn', member', was, stays, best''⟩ => ?_⟩
      obtain rfl := filterMap_unique once member member' best' best''
      exact nomatch ((seamlessForConn_iff checked plain member was true).mpr
        ⟨only, stays⟩).symm.trans
        seamless
  · intro ⟨needs, active, moves⟩
    cases state with
    | inr outside =>
      exact nomatch needs.symm.trans (checked.affected _ outside crtc listed on)
    | inl inside =>
      obtain ⟨conn, member, rfl⟩ := inside
      refine ⟨conn, member, enables_iff.mpr ⟨crtc, on, best, active, needs, ?_⟩⟩
      -- only an encoder whose connector was on the same CRTC can be skipped
      cases was : conn.old.crtc with
      | none => exact seamlessForConn_none was true
      | some before =>
        rw [← Bool.not_eq_true, seamlessForConn_iff checked plain member was]
        intro ⟨only, stays⟩
        obtain rfl := Option.some.inj (stays.symm.trans on)
        exact moves ⟨only, conn, member, was, stays, best⟩

/-! ## Disabling and enabling cover the same objects -/

/-- A CRTC and its encoders are disabled, and enabled, together, and once each; the exceptions are
    changes of connectors. -/
structure Covered (drv : Driver) (st : State) : Prop where
  off : ∀ crtc ∈ st.crtcs, (st.oldCrtc crtc).active = true → (st.newCrtc crtc).active = false →
    (¬ st.Cloned crtc → (offCrtcs drv st).count crtc = 1) ∧
      ∀ encoder, st.AttachedOld crtc encoder → (offEncoders drv st).count encoder = 1
  on : ∀ crtc ∈ st.crtcs, (st.oldCrtc crtc).active = false → (st.newCrtc crtc).active = true →
    (¬ st.Cloned crtc → (onCrtcs drv st).count crtc = 1) ∧
      ∀ encoder, st.AttachedNew crtc encoder → (onEncoders drv st).count encoder = 1
  offTogether : ∀ crtc ∈ st.crtcs, ∀ encoder, st.AttachedOld crtc encoder → ¬ st.Cloned crtc →
    ¬ (st.ConnectorsOnly crtc ∧ st.StaysOld crtc encoder) →
      (crtc ∈ offCrtcs drv st ↔ encoder ∈ offEncoders drv st)
  onTogether : ∀ crtc ∈ st.crtcs, ∀ encoder, st.AttachedNew crtc encoder → ¬ st.Cloned crtc →
    ¬ (st.ConnectorsOnly crtc ∧ st.StaysNew crtc encoder) →
      (crtc ∈ onCrtcs drv st ↔ encoder ∈ onEncoders drv st)
  cloned : ∀ crtc ∈ st.crtcs, st.Cloned crtc → (st.newCrtc crtc).activeChanged = false →
    (crtc ∉ offCrtcs drv st ∧ crtc ∉ onCrtcs drv st) ∧
    (∀ encoder, st.AttachedOld crtc encoder → (st.oldCrtc crtc).active = true →
      (encoder ∈ offEncoders drv st ↔ ¬ st.StaysOld crtc encoder)) ∧
    ∀ encoder, st.AttachedNew crtc encoder → (st.newCrtc crtc).active = true →
      (encoder ∈ onEncoders drv st ↔ ¬ st.StaysNew crtc encoder)

theorem needsModeset_of_active (switched : (st.newCrtc crtc).activeChanged = true) :
    (st.newCrtc crtc).needsModeset = true := by
  simp [CrtcState.needsModeset, switched]

theorem not_connectorsOnly (switched : (st.newCrtc crtc).activeChanged = true) :
    ¬ st.ConnectorsOnly crtc :=
  fun only => nomatch only.2.1.symm.trans switched

theorem State.Cloned.connectorsOnly (cloned : st.Cloned crtc)
    (still : (st.newCrtc crtc).activeChanged = false) : st.ConnectorsOnly crtc :=
  ⟨cloned.1, still, cloned.2.1⟩

theorem State.Cloned.needsModeset (cloned : st.Cloned crtc) :
    (st.newCrtc crtc).needsModeset = true := by
  simp [CrtcState.needsModeset, cloned.2.1]

/-- A checked state whose modes ask for no seamless switch is covered, whatever hooks the drivers have. -/
theorem modeset_covered (drv : Driver) {st : State} (checked : st.Checked) (plain : st.Plain) :
    Covered drv st where
  off crtc listed was becomes := by
    have switched := checked.activeChanged crtc listed (by rw [was, becomes]; decide)
    have needs := needsModeset_of_active switched
    constructor
    · intro single
      exact List.count_eq_one_of_mem (nodup_offCrtcs checked)
        ((mem_offCrtcs plain).mpr ⟨listed, needs, was, single⟩)
    · intro encoder attached
      exact List.count_eq_one_of_mem (nodup_offEncoders checked)
        ((mem_offEncoders checked plain listed attached).mpr
          ⟨needs, was, fun stays => not_connectorsOnly switched stays.1⟩)
  on crtc listed was becomes := by
    have switched := checked.activeChanged crtc listed (by rw [was, becomes]; decide)
    have needs := needsModeset_of_active switched
    constructor
    · intro single
      exact List.count_eq_one_of_mem (nodup_onCrtcs checked)
        ((mem_onCrtcs checked plain).mpr ⟨listed, needs, becomes, single⟩)
    · intro encoder attached
      exact List.count_eq_one_of_mem (nodup_onEncoders checked)
        ((mem_onEncoders checked plain listed attached).mpr
          ⟨needs, becomes, fun stays => not_connectorsOnly switched stays.1⟩)
  offTogether crtc listed encoder attached single moves := by
    rw [mem_offCrtcs plain, mem_offEncoders checked plain listed attached]
    simp only [listed, single, moves, not_false_eq_true, and_true, true_and]
  onTogether crtc listed encoder attached single moves := by
    rw [mem_onCrtcs checked plain, mem_onEncoders checked plain listed attached]
    simp only [listed, single, moves, not_false_eq_true, and_true, true_and]
  cloned crtc listed cloned still := by
    have only := cloned.connectorsOnly still
    have needs := cloned.needsModeset
    refine ⟨⟨?_, ?_⟩, ?_, ?_⟩
    · rw [mem_offCrtcs plain]
      exact fun off => off.2.2.2 cloned
    · rw [mem_onCrtcs checked plain]
      exact fun on => on.2.2.2 cloned
    · intro encoder attached active
      rw [mem_offEncoders checked plain listed attached]
      simp only [needs, active, only, true_and]
    · intro encoder attached active
      rw [mem_onEncoders checked plain listed attached]
      simp only [needs, active, only, true_and]

structure Coincide (drv : Driver) (st : State) : Prop where
  off : ∀ crtc ∈ st.crtcs, (st.oldCrtc crtc).active = true → (st.newCrtc crtc).active = false →
    (offCrtcs drv st).count crtc = 1 ∧
      ∀ encoder, st.AttachedOld crtc encoder → (offEncoders drv st).count encoder = 1
  on : ∀ crtc ∈ st.crtcs, (st.oldCrtc crtc).active = false → (st.newCrtc crtc).active = true →
    (onCrtcs drv st).count crtc = 1 ∧
      ∀ encoder, st.AttachedNew crtc encoder → (onEncoders drv st).count encoder = 1
  together : ∀ crtc ∈ st.crtcs, ∀ encoder, st.AttachedOld crtc encoder →
    (crtc ∈ offCrtcs drv st ↔ encoder ∈ offEncoders drv st)

/-! ## A writeback connector leaves its CRTC -/

def plainMode : Mode := ⟨false, false, false, false, false⟩

def sdeDriver : Driver where
  crtcFuncs _ := ⟨false, true, true⟩
  encoderFuncs _ := ⟨false, true, true⟩
  checkForSplash := none
  kmsCommit := true

/-- A panel (encoder 0) and a writeback connector (encoder 1) on CRTC 0, from which the writeback
    connector is taken; the CRTC stays active or is switched off with the same update. -/
def writebackLeaves (active : Bool) : State where
  crtcs := [0]
  oldCrtc _ := ⟨true, true, false, false, false, plainMode, plainMode⟩
  newCrtc _ := ⟨true, active, false, !active, true, plainMode, plainMode⟩
  connectors := [⟨⟨some 0, some 0⟩, ⟨some 0, some 0⟩, 0⟩, ⟨⟨some 0, some 1⟩, ⟨none, none⟩, 0⟩]
  others := []

theorem checked_writebackLeaves (active : Bool) : (writebackLeaves active).Checked where
  nodup := by simp [writebackLeaves]
  enabled := by simp [writebackLeaves]
  activeChanged := by
    cases active with
    | false => simp [writebackLeaves]
    | true => simp [writebackLeaves]
  added := by simp [writebackLeaves]
  affected := by simp [writebackLeaves]
  legacy := by simp [writebackLeaves]
  oldEncoders := by simp [writebackLeaves, State.oldConnectors]
  newEncoders := by simp [writebackLeaves, State.newConnectors]

theorem plain_writebackLeaves (active : Bool) : (writebackLeaves active).Plain := by
  simp [State.Plain, Mode.Plain, writebackLeaves, plainMode]

theorem covered_writebackLeaves :
    Covered sdeDriver (writebackLeaves true) ∧ Covered sdeDriver (writebackLeaves false) :=
  ⟨modeset_covered sdeDriver (checked_writebackLeaves true) (plain_writebackLeaves true),
    modeset_covered sdeDriver (checked_writebackLeaves false) (plain_writebackLeaves false)⟩

/-- While the CRTC stays active its writeback encoder is disabled without it; and when it is
    switched off in the same update, its own hook is not called at all. -/
theorem not_coincide_writebackLeaves :
    ((writebackLeaves true).Checked ∧ (writebackLeaves true).Plain ∧
      ¬ Coincide sdeDriver (writebackLeaves true)) ∧
    (writebackLeaves false).Checked ∧ (writebackLeaves false).Plain ∧
      ¬ Coincide sdeDriver (writebackLeaves false) := by
  refine ⟨⟨checked_writebackLeaves true, plain_writebackLeaves true, ?_⟩,
    checked_writebackLeaves false, plain_writebackLeaves false, ?_⟩
  · intro coincide
    have attached : (writebackLeaves true).AttachedOld 0 1 :=
      ⟨⟨some 0, some 1⟩, by simp [writebackLeaves, State.oldConnectors], rfl, rfl⟩
    have both := coincide.together 0 (List.mem_singleton.mpr rfl) 1 attached
    exact absurd (both.mpr (by decide)) (by decide)
  · intro coincide
    have once := (coincide.off 0 (List.mem_singleton.mpr rfl) rfl rfl).1
    exact absurd once (by decide)

end DisplayDrivers.Atomic.Modeset
