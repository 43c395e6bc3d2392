import DisplayDrivers.FrameEvent.Crtc
import Mathlib.Data.List.Perm.Basic

/-! # The accounts of the frame events

Where a node is never goes wrong. The counter does where an event of an enable period is accounted
for in a later one: the flush in `sde_crtc_disable` comes before the reset, and the callbacks stay
registered until after it. The release of the bandwidth does where a work has decremented the
counter to zero, since the flush of the next kickoff then takes no frame to be pending and does not
wait for it.
-/

namespace DisplayDrivers.FrameEvent

open DisplayDrivers.Lib.Run
open DisplayDrivers.Encoder.Kickoff.FrameEvents (terminal done)

def Crtc.nodes (s : Crtc) : List ℕ :=
  s.frameEventList ++ (s.callbacks.map Prod.fst ++ (s.works ++ s.running.toList.map Prod.fst))

/-- The accounts are right: each node is in one place, no event has been dropped with fewer than
    eight outstanding, the counter has the kickoffs of the period that have not been ended, and the
    bandwidth has been released once for each time that it came back to zero, with no kickoff
    outstanding. -/
structure Exact (s : Crtc) : Prop where
  nodes : s.nodes.Perm (List.range frameEventSize)
  dropped : ∀ n ∈ s.outstandingAtDrop, n = frameEventSize
  pending : s.framePending = s.kicked - s.processed
  nonneg : 0 ≤ s.framePending
  released : s.releases + s.running.toList.countP (·.2 == .lastPending) =
    s.returns + if s.pc = .zero then 1 else 0
  apart : ∀ n ∈ s.outstandingAtRelease, n = 0

/-- What a work relies on before its next step: that it finds the encoder of an event that ends a
    frame in the mode in which the event was raised, and that it decrements the counter for an event
    of the current period, and not to zero when `sde_crtc_disable` is between its test and its
    reset. -/
def WorkOrderly (s : Crtc) (clone : Bool) : ℕ × Stage → Prop
  | (n, .started) => s.counts n = true → clone = false
  | (n, .pending) => s.counts n = true ∧ (s.pc = .zero → s.framePending ≠ 1)
  | (_, .lastPending) | (_, .signaled) => True

/-- What the accounts rely on.  A kickoff does not increment the counter while a work is between its
    decrement to zero and the release of the bandwidth. -/
def Orderly (s : Crtc) : Input → Prop
  | .frameEventWork clone => ∀ w ∈ s.running, WorkOrderly s clone w
  | .commit => s.pc = .kickoff → ∀ w ∈ s.running, w.2 ≠ .lastPending
  | _ => True

instance (s : Crtc) (clone : Bool) : DecidablePred (WorkOrderly s clone)
  | (n, .started) => inferInstanceAs (Decidable (s.counts n = true → clone = false))
  | (n, .pending) =>
    inferInstanceAs (Decidable (s.counts n = true ∧ (s.pc = .zero → s.framePending ≠ 1)))
  | (_, .lastPending) | (_, .signaled) => inferInstanceAs (Decidable True)

instance (s : Crtc) : DecidablePred (Orderly s)
  | .frameEventWork clone => inferInstanceAs (Decidable (∀ w ∈ s.running, WorkOrderly s clone w))
  | .commit => inferInstanceAs (Decidable (s.pc = .kickoff → ∀ w ∈ s.running, w.2 ≠ .lastPending))
  | .frameEventCb _ | .queueWork _ | .commitKickoff _ | .disable | .enable _ | .prepareCommit =>
    inferInstanceAs (Decidable True)

/-! ## The invariant -/

def Stage.early : Stage → Bool
  | .started | .pending => true
  | .lastPending | .signaled => false

def Crtc.flying (s : Crtc) : List Fevent :=
  s.callbacks.map Prod.snd ++ (s.works.map s.frameEvents ++
    (s.running.toList.filter (·.2.early)).map fun w => s.frameEvents w.1)

def Fevent.endsIn (period : ℕ) (e : Fevent) : Bool := e.ends && e.period == period

structure Inv (s : Crtc) : Prop extends Exact s where
  /-- Each kickoff of the period has one event, which is owed, on its way or accounted for. -/
  counted : s.processed + s.flying.countP (Fevent.endsIn s.period) + s.owed.count s.period +
    (if s.pc = .trigger then 1 else 0) ≤ s.kicked
  owed_old : ∀ p ∈ s.owed, p ≤ s.period
  flying_old : ∀ e ∈ s.flying, e.ends = true → e.period ≤ s.period
  last : ∀ w ∈ s.running, w.2 = .lastPending → s.framePending = 0
  zero : s.pc = .zero → s.framePending ≠ 0

namespace Inv

variable {s : Crtc}

theorem create : Inv {} where
  nodes := by decide
  dropped := by simp
  pending := rfl
  nonneg := Int.le_refl 0
  released := rfl
  apart := by simp
  counted := Nat.le_refl 0
  owed_old := by simp
  flying_old := by simp [Crtc.flying]
  last := by simp
  zero := nofun

theorem outstanding_eq (inv : Inv s) :
    s.frameEventList.length + s.outstanding = frameEventSize := by
  have all := inv.nodes.length_eq
  simp only [Crtc.nodes, List.length_append, List.length_map, List.length_range] at all
  unfold Crtc.outstanding
  omega

theorem count_owed (e : Fevent) (owed : List ℕ) (period : ℕ)
    (raised : (e.ends && !owed.contains e.period) = false) :
    (if e.ends then owed.erase e.period else owed).count period + (e.endsIn period).toNat =
      owed.count period := by
  unfold Fevent.endsIn
  cases ends : e.ends with
  | false => simp
  | true =>
    have member : e.period ∈ owed := by simpa [ends] using raised
    have split := (List.perm_cons_erase member).count_eq period
    rw [List.count_cons] at split
    rw [if_pos rfl, split]
    cases e.period == period <;> rfl

theorem frameEventCb (inv : Inv s) (e : Fevent) : Inv (s.frameEventCb e) := by
  unfold Crtc.frameEventCb
  by_cases absent : (e.ends && !s.owed.contains e.period) = true
  · rw [if_pos absent]
    exact inv
  · rw [if_neg absent]
    have raised := eq_false_of_ne_true absent
    have owed := count_owed e s.owed s.period raised
    have fewer : ∀ p ∈ (if e.ends then s.owed.erase e.period else s.owed), p ≤ s.period := by
      intro p listed
      split at listed
      · exact inv.owed_old p (List.mem_of_mem_erase listed)
      · exact inv.owed_old p listed
    have counted := inv.counted
    have told : Inv { s with owed := if e.ends then s.owed.erase e.period else s.owed } := {
      inv with
      counted := by
        dsimp only [Crtc.flying] at counted ⊢
        omega
      owed_old := fewer }
    dsimp only
    split
    case isTrue => exact told
    case isFalse =>
      split
      next free =>
        have full := inv.outstanding_eq
        rw [free] at full
        refine { told with dropped := fun n listed => ?_ }
        rcases List.mem_append.mp listed with before | now
        · exact inv.dropped n before
        · rw [List.mem_singleton.mp now]
          simpa [Crtc.outstanding] using full
      next n rest free =>
        refine { told with nodes := ?_, counted := ?_, flying_old := ?_ }
        · refine List.Perm.trans ?_ inv.nodes
          refine List.perm_iff_count.mpr fun a => ?_
          simp only [Crtc.nodes, free, List.map_append, List.count_append, List.count_cons,
            List.map_cons,
            List.map_nil, List.count_nil]
          omega
        · have more : [e].countP (Fevent.endsIn s.period) = (e.endsIn s.period).toNat := by
            cases found : e.endsIn s.period <;> simp [found]
          simp only [Crtc.flying, List.map_append, List.countP_append, List.map_cons,
            List.map_nil, more]
            at counted ⊢
          omega
        · intro other listed ends
          simp only [Crtc.flying, List.map_append, List.mem_append, List.map_cons, List.map_nil,
            List.mem_singleton] at listed
          rcases listed with (before | rfl) | later
          · exact inv.flying_old other (List.mem_append_left _ before) ends
          · have member : other.period ∈ s.owed := by simpa [ends] using raised
            exact inv.owed_old _ member
          · exact inv.flying_old other (List.mem_append_right _ (List.mem_append.mpr later)) ends

theorem nodup (inv : Inv s) : s.nodes.Nodup := inv.nodes.nodup_iff.mpr List.nodup_range

theorem callback_apart (inv : Inv s) {cb : ℕ × Fevent} (listed : cb ∈ s.callbacks) :
    cb.1 ∉ s.works ∧ ∀ w ∈ s.running.toList, w.1 ≠ cb.1 := by
  have apart := (List.nodup_append.mp (List.nodup_append.mp inv.nodup).2.1).2.2
  have member := List.mem_map_of_mem (f := Prod.fst) listed
  constructor
  · exact fun queued => apart _ member _ (List.mem_append_left _ queued) rfl
  · intro w running same
    exact apart _ member _ (List.mem_append_right _ (List.mem_map_of_mem running)) same.symm

theorem of_perm {s' : Crtc} (inv : Inv s) (nodes : s'.nodes.Perm s.nodes)
    (flying : s'.flying.Perm s.flying)
    (last : ∀ w ∈ s'.running, w.2 = .lastPending → s'.framePending = 0)
    (still : s'.running.toList.countP (·.2 == .lastPending) =
      s.running.toList.countP (·.2 == .lastPending))
    (same : s' = { s with
      callbacks := s'.callbacks, frameEvents := s'.frameEvents, works := s'.works
      running := s'.running
      frameEventList := s'.frameEventList, completed := s'.completed }) : Inv s' := by
  rw [same] at nodes flying last still ⊢
  refine { inv with
    nodes := nodes.trans inv.nodes, released := ?_, counted := ?_, flying_old := ?_, last := last }
  · exact (congrArg _ still).trans inv.released
  · have counted := inv.counted
    rw [← flying.countP_eq] at counted
    exact counted
  · exact fun e listed => inv.flying_old e (flying.subset listed)

theorem queueWork (inv : Inv s) (cb : ℕ × Fevent) : Inv (s.queueWork cb) := by
  unfold Crtc.queueWork
  split
  case isFalse => exact inv
  case isTrue listed =>
    obtain ⟨unqueued, idle⟩ := inv.callback_apart listed
    have taken := List.perm_cons_erase listed
    rw [if_neg unqueued]
    refine inv.of_perm ?_ ?_ inv.last rfl rfl
    · refine List.perm_iff_count.mpr fun a => ?_
      have moved := (taken.map Prod.fst).count_eq a
      simp only [Crtc.nodes, List.count_append, List.count_cons, List.count_nil,
        List.map_cons] at moved ⊢
      omega
    · have queued : s.works.map (Function.update s.frameEvents cb.1 cb.2) =
        s.works.map s.frameEvents :=
        List.map_congr_left fun n queued =>
          Function.update_of_ne (fun same : n = cb.1 => unqueued (same ▸ queued)) _ _
      have run : ((s.running.toList.filter (·.2.early)).map fun w =>
            Function.update s.frameEvents cb.1 cb.2 w.1) =
          (s.running.toList.filter (·.2.early)).map fun w => s.frameEvents w.1 :=
        List.map_congr_left fun w listed =>
          Function.update_of_ne (idle w (List.mem_filter.mp listed).1) _ _
      refine List.perm_iff_count.mpr fun e => ?_
      have moved := (taken.map Prod.snd).count_eq e
      simp only [Crtc.flying, List.map_append, queued, run, List.map_cons, List.map_nil,
        Function.update_self,
        List.count_append, List.count_cons, List.count_nil] at moved ⊢
      omega

def waiting (s : Crtc) : List Fevent := s.callbacks.map Prod.snd ++ s.works.map s.frameEvents

variable {w : ℕ × Stage}

theorem flying_eq (running : s.running = some w) :
    s.flying = waiting s ++ if w.2.early then [s.frameEvents w.1] else [] := by
  unfold Crtc.flying waiting
  rw [running, ← List.append_assoc]
  obtain ⟨n, stage⟩ := w
  cases stage <;> rfl

theorem flying_late (running : s.running = some w) (late : w.2.early = false) :
    s.flying = waiting s := by
  rw [flying_eq running, late]
  exact List.append_nil _

theorem count_flying (running : s.running = some w) (early : w.2.early = true) :
    s.flying.countP (Fevent.endsIn s.period) =
      (waiting s).countP (Fevent.endsIn s.period) + (s.counts w.1).toNat := by
  rw [flying_eq running, if_pos early, List.countP_append]
  change _ + [_].countP _ = _ + (Fevent.endsIn s.period (s.frameEvents w.1)).toNat
  cases found : Fevent.endsIn s.period (s.frameEvents w.1) <;> simp [found]

theorem pending_of_counts (inv : Inv s) (running : s.running = some w)
    (early : w.2.early = true) (counts : s.counts w.1 = true) : 1 ≤ s.framePending := by
  have counted := inv.counted
  have pending := inv.pending
  rw [count_flying running early, counts, Bool.toNat_true] at counted
  omega

theorem accounted (inv : Inv s) (running : s.running = some w) (early : w.2.early = true)
    (stage : Stage) (late : stage.early = false)
    (last : stage = .lastPending → s.framePending - (s.counts w.1).toNat = 0)
    (zero : s.pc = .zero → s.framePending - (s.counts w.1).toNat ≠ 0) :
    Inv { s with
      running := some (w.1, stage)
      processed := s.processed + (s.counts w.1).toNat
      framePending := s.framePending - (s.counts w.1).toNat
      returns := s.returns + if stage = .lastPending then 1 else 0 } := by
  have counted := inv.counted
  have left := inv.flying_old
  have released := inv.released
  have pending := inv.pending
  have still : w.2 ≠ .lastPending := fun same => by simp [same, Stage.early] at early
  rw [count_flying running early] at counted
  rw [flying_eq running] at left
  refine { inv with
    nodes := ?_, pending := ?_, nonneg := ?_, released := ?_, counted := ?_, flying_old := ?_
    last := ?_, zero := zero }
  · refine List.Perm.trans (.of_eq ?_) inv.nodes
    simp [Crtc.nodes, running]
  · dsimp only
    omega
  · dsimp only
    omega
  · simp [running, still] at released ⊢
    cases stage <;> simp <;> omega
  · rw [flying_late (w := (w.1, stage)) rfl late]
    change s.processed + (s.counts w.1).toNat + (waiting s).countP (Fevent.endsIn s.period) +
      s.owed.count s.period + (if s.pc = .trigger then 1 else 0) ≤ s.kicked
    omega
  · rw [flying_late (w := (w.1, stage)) rfl late]
    exact fun e listed => left e (List.mem_append_left _ listed)
  · rintro w' now late'
    cases now
    exact last late'

theorem frameEventWork (inv : Inv s) (clone : Bool)
    (orderly : ∀ w ∈ s.running, WorkOrderly s clone w) : Inv (s.frameEventWork clone) := by
  unfold Crtc.frameEventWork
  split
  next idle =>
    split
    next => exact inv
    next n rest queued =>
      refine inv.of_perm ?_ ?_ (by simp) (by simp [idle]) rfl
      · refine List.perm_iff_count.mpr fun a => ?_
        simp [Crtc.nodes, idle, queued, List.count_cons]
      · refine List.perm_iff_count.mpr fun e => ?_
        simp [Crtc.flying, idle, queued, List.count_cons, Stage.early]
  next n running =>
    split
    next looks =>
      refine inv.of_perm ?_ ?_ (by simp) (by simp [running]) rfl
      · simp [Crtc.nodes, running]
      · simp [Crtc.flying, running, Stage.early]
    next passes =>
      have skipped : s.counts n = false := by
        by_contra counts
        have counts := eq_true_of_ne_false counts
        have ends : (s.frameEvents n).ends = true := by
          simp only [Crtc.counts, Bool.and_eq_true] at counts
          exact counts.1
        have terminal : terminal (s.frameEvents n).event = true := by
          simp only [Fevent.ends, Bool.and_eq_true] at ends
          exact ends.1
        exact passes ⟨orderly _ running counts, terminal, inv.pending_of_counts running rfl counts⟩
      have inv' := inv.accounted running rfl .signaled rfl nofun fun at_zero => by
        simpa [skipped] using inv.zero at_zero
      simpa [skipped] using inv'
  next n running =>
    obtain ⟨counts, apart⟩ := orderly _ running
    have one : ((s.counts n).toNat : Int) = 1 := by rw [counts]; rfl
    dsimp only
    split
    case isTrue last =>
      have inv' := inv.accounted running rfl .lastPending rfl
        (fun _ => by rw [one]; exact last) fun at_zero => absurd (by omega) (apart at_zero)
      rw [one] at inv'
      simpa using inv'
    case isFalse more =>
      have inv' := inv.accounted running rfl .signaled rfl nofun
        fun _ => by rw [one]; exact more
      rw [one] at inv'
      simpa using inv'
  next n running =>
    have last := inv.last _ running rfl
    have pending := inv.pending
    have released := inv.released
    have counted := inv.counted
    have left := inv.flying_old
    rw [flying_late running rfl] at counted left
    refine { inv with
      nodes := ?_, released := ?_, apart := ?_, counted := ?_, flying_old := ?_, last := ?_ }
    · refine List.Perm.trans (.of_eq ?_) inv.nodes
      simp [Crtc.nodes, running]
    · simp [running] at released ⊢
      omega
    -- the counter has stayed at zero since the decrement
    · intro difference listed
      rcases List.mem_append.mp listed with before | now
      · exact inv.apart difference before
      · rw [List.mem_singleton.mp now, ← pending, last]
    · rw [flying_late (w := (n, .signaled)) rfl rfl]
      exact counted
    · rw [flying_late (w := (n, .signaled)) rfl rfl]
      exact left
    · rintro w ⟨⟩ ⟨⟩
  next n running =>
    refine inv.of_perm ?_ ?_ (by simp) (by simp [running]) rfl
    · refine List.perm_iff_count.mpr fun a => ?_
      simp [Crtc.nodes, running, List.count_cons]
      omega
    · simp [Crtc.flying, running, Stage.early]

theorem at_pc (inv : Inv s) {pc : Pc} (was : s.pc ≠ .zero ∧ s.pc ≠ .trigger)
    (now : pc ≠ .zero ∧ pc ≠ .trigger) : Inv { s with pc } := by
  have counted := inv.counted
  have released := inv.released
  rw [if_neg was.1] at released
  rw [if_neg was.2] at counted
  refine { inv with released := ?_, counted := ?_, zero := fun there => absurd there now.1 }
  · rw [if_neg now.1]
    exact released
  · rw [if_neg now.2]
    exact counted

theorem none_ahead (inv : Inv s) :
    s.flying.countP (Fevent.endsIn (s.period + 1)) = 0 ∧ s.owed.count (s.period + 1) = 0 := by
  constructor
  · refine List.countP_eq_zero.mpr fun e listed ahead => ?_
    simp only [Fevent.endsIn, Bool.and_eq_true, beq_iff_eq] at ahead
    have old := inv.flying_old e listed ahead.1
    omega
  · refine List.count_eq_zero.mpr fun listed => ?_
    have old := inv.owed_old _ listed
    omega

theorem commit (inv : Inv s) (orderly : s.pc = .kickoff → ∀ w ∈ s.running, w.2 ≠ .lastPending) :
    Inv s.commit := by
  have counted := inv.counted
  have released := inv.released
  have pending := inv.pending
  unfold Crtc.commit
  split
  next => exact inv
  next op i at_flush =>
    have was : s.pc ≠ .zero ∧ s.pc ≠ .trigger := by simp [at_flush]
    split
    · cases op <;> exact inv.at_pc was (by simp [Op.afterFlush])
    · split
      · exact inv.at_pc was (by simp)
      · split <;> exact inv.at_pc was (by simp)
  next op i times at_flush =>
    split
    · exact inv.at_pc (by simp [at_flush]) (by simp)
    · exact inv
  next at_kickoff =>
    have apart := orderly at_kickoff
    rw [if_neg (by simp [at_kickoff])] at counted released
    refine { inv with
      pending := ?_, nonneg := ?_, released := ?_, counted := ?_, last := ?_, zero := nofun }
    · dsimp only
      omega
    · have nonneg := inv.nonneg
      dsimp only
      omega
    · exact released
    · change s.processed + s.flying.countP (Fevent.endsIn s.period) + s.owed.count
        s.period + 1 ≤ s.kicked + 1
      omega
    · exact fun w running last => absurd last (apart w running)
  next at_trigger =>
    rw [if_pos at_trigger] at counted
    rw [if_neg (by simp [at_trigger])] at released
    refine { inv with released := ?_, counted := ?_, owed_old := ?_, zero := nofun }
    · exact released
    · change s.processed + s.flying.countP
        (Fevent.endsIn s.period) + (s.owed ++ [s.period]).count s.period +
        0 ≤ s.kicked
      rw [List.count_append, List.count_singleton_self]
      omega
    · intro p listed
      rcases List.mem_append.mp listed with before | now
      · exact inv.owed_old p before
      · exact Nat.le_of_eq (List.mem_singleton.mp now)
  next at_disable =>
    rw [if_neg (by simp [at_disable])] at counted released
    dsimp only
    split
    case isTrue frames =>
      refine { inv with released := ?_, counted := ?_, zero := fun _ => frames }
      · change s.releases + 1 + s.running.toList.countP (·.2 == .lastPending) = s.returns + 1
        omega
      · exact counted
    case isFalse none =>
      obtain ⟨flying, owed⟩ := inv.none_ahead
      have none := not_not.mp none
      refine { inv with
        pending := ?_, released := ?_, counted := ?_, owed_old := ?_, flying_old := ?_
        zero := nofun }
      · exact none
      · exact released
      · change 0 + s.flying.countP (Fevent.endsIn (s.period + 1)) + s.owed.count
          (s.period + 1) + 0 ≤ 0
        omega
      · exact fun p listed => Nat.le_succ_of_le (inv.owed_old p listed)
      · exact fun e listed ends => Nat.le_succ_of_le (inv.flying_old e listed ends)
  next at_zero =>
    obtain ⟨flying, owed⟩ := inv.none_ahead
    rw [if_pos at_zero] at released
    refine { inv with
      pending := rfl, nonneg := Int.le_refl 0, released := ?_, counted := ?_, owed_old := ?_
      flying_old := ?_, last := fun _ _ _ => rfl, zero := nofun }
    · rw [if_neg (inv.zero at_zero)]
      exact released
    · change 0 + s.flying.countP (Fevent.endsIn (s.period + 1)) + s.owed.count
        (s.period + 1) + 0 ≤ 0
      omega
    · exact fun p listed => Nat.le_succ_of_le (inv.owed_old p listed)
    · exact fun e listed ends => Nat.le_succ_of_le (inv.flying_old e listed ends)
  next at_unregister =>
    have inv' : Inv { s with pc := .idle } := inv.at_pc (by simp [at_unregister]) (by simp)
    exact { inv' with }

theorem flushEventThread (inv : Inv s) (op : Op) : Inv (s.flushEventThread op) := by
  unfold Crtc.flushEventThread
  split
  case isTrue => exact inv
  case isFalse idle =>
    have was : s.pc ≠ .zero ∧ s.pc ≠ .trigger := by simp [not_not.mp idle]
    split
    · cases op <;> exact inv.at_pc was (by simp [Op.afterFlush])
    · exact inv.at_pc was (by simp)

theorem step (inv : Inv s) {input : Input} (orderly : Orderly s input) : Inv (step s input) := by
  cases input with
  | frameEventCb e => exact inv.frameEventCb e
  | queueWork cb => exact inv.queueWork cb
  | frameEventWork clone => exact inv.frameEventWork clone orderly
  | commitKickoff numMixers =>
    rw [FrameEvent.step, Crtc.commitKickoff]
    split
    · exact inv
    · exact inv.flushEventThread _
  | disable => exact inv.flushEventThread _
  | commit => exact inv.commit orderly
  | enable power =>
    rw [FrameEvent.step, Crtc.enable]
    split
    · exact inv
    · exact { inv with }
  | prepareCommit =>
    rw [FrameEvent.step, Crtc.prepareCommit]
    split
    · exact inv
    · exact { inv with }

end Inv

/-- In every run in which the events, the work and the commits keep out of each other's way, the
    accounts are right in every state. -/
theorem frame_events_exact {inputs : List Input} (orderly : StepsMeet step Orderly {} inputs) :
    Throughout step Exact {} inputs :=
  throughout_of_meets Inv (fun _ _ inv orderly => inv.step orderly) (fun _ inv => inv.toExact)
    .create orderly

def firstDone : Fevent := { event := done }

/-- One frame from its kickoff to the disable. -/
def oneFrame : List Input :=
  [.enable true, .commitKickoff 1, .commit, .commit, .frameEventCb firstDone,
    .queueWork (7, firstDone),
    .frameEventWork false, .frameEventWork false, .frameEventWork false, .frameEventWork false,
    .frameEventWork false, .disable, .commit, .commit]

theorem frame_events_exact_oneFrame : Throughout step Exact {} oneFrame :=
  frame_events_exact (by decide)

/-- The flush of the next kickoff waits for nothing, because the work has decremented the counter
    already, and the bandwidth is released when that kickoff is outstanding. -/
def overtaken : List Input :=
  [.enable true, .commitKickoff 1, .commit, .commit, .frameEventCb firstDone,
    .queueWork (7, firstDone),
    .frameEventWork false, .frameEventWork false, .frameEventWork false, .commitKickoff 1,
      .commit, .commit,
    .frameEventWork false]

/-- The event comes after the flush and the reset in `sde_crtc_disable`, and its work ends the frame
    that is kicked off after the CRTC has been enabled again. -/
def outlived : List Input :=
  [.enable true, .commitKickoff 1, .commit, .commit, .disable] ++ List.replicate 9 .commit ++
    [.commit, .commit, .frameEventCb firstDone, .queueWork (7, firstDone), .commit, .enable true,
      .commitKickoff 1, .commit, .commit, .frameEventWork false, .frameEventWork false,
        .frameEventWork false]

/-- Both are runs in which each kickoff has one event, and neither ends with its accounts right. -/
theorem released_while_outstanding :
    ¬ Throughout step Exact {} overtaken ∧ (run step {} overtaken).outstandingAtRelease = [1] ∧
    ¬ Throughout step Exact {} outlived ∧ (run step {} outlived).framePending = 0 ∧
      (run step {} outlived).kicked = 1 ∧ (run step {} outlived).processed = 0 := by
  refine ⟨fun exact => ?_, by decide, fun exact => ?_, by decide⟩
  · have last := throughout_iff_prefix.mp exact overtaken [] (List.append_nil _).symm
    exact absurd (last.apart 1 (by decide)) (by decide)
  · have last := throughout_iff_prefix.mp exact outlived [] (List.append_nil _).symm
    exact absurd last.pending (by decide)

end DisplayDrivers.FrameEvent
