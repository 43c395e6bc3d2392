import DisplayDrivers.Lib.Slots
import DisplayDrivers.Rotator.Timeline

/-! # What the rotator's timeline signals

`Sound` is kept by every step that is allowed: the list has the fences that live and are not
signalled, and the timeline has one reference for its owner and one for each fence.
-/

namespace DisplayDrivers.Rotator

open DisplayDrivers.Lib.Run DisplayDrivers.Lib.Serial
open DisplayDrivers.Lib.Slots (countP_flip)

/-! ## The timeline and its fences -/

def RotFence.waiting (f : RotFence) : Bool := f.life == .live && !f.signaled

def RotFence.holds (f : RotFence) : Bool := f.life != .freed

structure Sound (tl : RotTimeline) : Prop where
  next : tl.nextValue = BitVec.ofNat 32 tl.made
  seqno : ∀ id < tl.made, (tl.fence id).seqno = BitVec.ofNat 32 (id + 1)
  unmade : ∀ id ≥ tl.made, (tl.fence id).life = .freed
  listed : tl.fenceListHead = (List.range tl.made).filter fun id => (tl.fence id).waiting
  kref : tl.kref = tl.owner.toNat + (List.range tl.made).countP fun id => (tl.fence id).holds
  freed : tl.freed = (tl.kref == 0)

namespace Sound

variable {tl : RotTimeline}

theorem mem_list (sound : Sound tl) {id : ℕ} :
    id ∈ tl.fenceListHead ↔ (tl.fence id).waiting = true := by
  rw [sound.listed, List.mem_filter, List.mem_range]
  refine ⟨And.right, fun waits => ⟨?_, waits⟩⟩
  by_contra outside
  simp [RotFence.waiting, sound.unmade id (Nat.le_of_not_lt outside)] at waits

theorem contains_list (sound : Sound tl) (id : ℕ) :
    tl.fenceListHead.contains id = (tl.fence id).waiting := by
  rw [Bool.eq_iff_iff, List.contains_iff_mem, sound.mem_list]

theorem nodup (sound : Sound tl) : tl.fenceListHead.Nodup := by
  rw [sound.listed]
  exact List.nodup_range.filter _

theorem made_of (sound : Sound tl) {id : ℕ} (there : (tl.fence id).life ≠ .freed) :
    id < tl.made := by
  by_contra outside
  exact there (sound.unmade id (Nat.le_of_not_lt outside))

theorem create : Sound createTimeline where
  next := rfl
  seqno id inside := absurd inside (Nat.not_lt_zero id)
  unmade _ _ := rfl
  listed := rfl
  kref := rfl
  freed := rfl

theorem inc (sound : Sound tl) (increment : U32) : Sound (tl.incTimelineLocked increment) := by
  rw [incTimelineLocked_eq sound.nodup]
  constructor
  case next => exact sound.next
  case seqno => exact sound.seqno
  case unmade => exact sound.unmade
  case kref => exact sound.kref
  case freed => exact sound.freed
  case listed =>
    dsimp only
    simp only [sound.contains_list]
    rw [sound.listed, List.filter_filter]
    refine List.filter_congr fun id _ => ?_
    have same : (tl.moveOn increment).isSignaled id =
      ((tl.fence id).signaled || (tl.moveOn increment).fenceSignaled id) := rfl
    unfold RotFence.waiting
    rw [RotFence.signalWhen_life, RotFence.signalWhen_signaled, same]
    cases (tl.fence id).life == .live <;> cases (tl.fence id).signaled <;> simp

theorem resync (sound : Sound tl) : Sound tl.resyncTimeline := by
  unfold RotTimeline.resyncTimeline
  split
  · exact sound.inc _
  · exact sound

theorem get (sound : Sound tl) (owned : tl.owner = true) (allocated : Bool) :
    Sound (tl.getSyncFence allocated) := by
  unfold RotTimeline.getSyncFence
  split
  case isFalse => exact sound
  case isTrue =>
    have others : ∀ id ∈ List.range tl.made, ∀ f, Function.update tl.fence tl.made f id =
      tl.fence id :=
      fun id inside f => Function.update_of_ne (List.mem_range.mp inside).ne _ _
    have counted : tl.nextValue + 1 = BitVec.ofNat 32 (tl.made + 1) := by
      rw [sound.next, BitVec.ofNat_add]
      rfl
    have used : tl.kref ≠ 0 := by
      rw [sound.kref, owned]
      exact Nat.ne_of_gt (Nat.lt_of_lt_of_le Nat.one_pos (Nat.le_add_right _ _))
    constructor
    case next => exact counted
    case seqno =>
      intro id inside
      rcases Nat.lt_succ_iff_lt_or_eq.mp inside with before | rfl
      · dsimp only
        rw [others id (List.mem_range.mpr before)]
        exact sound.seqno id before
      · dsimp only
        rw [Function.update_self, counted]
    case unmade =>
      intro id outside
      dsimp only
      rw [Function.update_of_ne (Nat.lt_of_succ_le outside).ne']
      exact sound.unmade id (Nat.le_of_succ_le outside)
    case listed =>
      dsimp only
      rw [List.range_succ, List.filter_append,
        List.filter_congr fun id inside => by rw [others id inside],
        ← sound.listed]
      simp [RotFence.waiting]
    case kref =>
      dsimp only
      rw [List.range_succ, List.countP_append,
        List.countP_congr fun id inside => by rw [others id inside],
        sound.kref]
      simp [RotFence.holds, Nat.add_assoc]
    case freed =>
      dsimp only
      rw [sound.freed]
      simp [used]

variable {fence : ℕ → RotFence}

section

variable (sound : Sound tl)

include sound

theorem seqno_ofLife {id : ℕ} {life : Life} (changed : ∀ other, fence other =
      if other = id then { tl.fence id with life := life } else tl.fence other) :
    ∀ other < tl.made, (fence other).seqno = BitVec.ofNat 32 (other + 1) := by
  intro other inside
  rw [changed]
  split
  case isTrue same => exact same ▸ sound.seqno other inside
  case isFalse => exact sound.seqno other inside

theorem unmade_ofLife {id : ℕ} {life : Life} (inside : id < tl.made)
    (changed : ∀ other, fence other =
      if other = id then { tl.fence id with life := life } else tl.fence other) :
    ∀ other ≥ tl.made, (fence other).life = .freed := by
  intro other outside
  rw [changed, if_neg (Nat.ne_of_gt (Nat.lt_of_lt_of_le inside outside))]
  exact sound.unmade other outside

theorem release {id : ℕ} (live : (tl.fence id).life = .live) : Sound (tl.releaseFence id) := by
  have inside : id < tl.made := sound.made_of (by simp [live])
  have fence : ∀ other, (tl.releaseFence id).fence other = if other = id
      then { tl.fence id with life := .releasing } else tl.fence other := fun other =>
    Function.update_apply _ _ _ _
  constructor
  case next => exact sound.next
  case seqno => exact sound.seqno_ofLife fence
  case unmade => exact sound.unmade_ofLife inside fence
  case listed =>
    change tl.fenceListHead.erase id = _
    rw [sound.nodup.erase_eq_filter, sound.listed, List.filter_filter]
    refine List.filter_congr fun other _ => ?_
    rw [fence]
    by_cases same : other = id
    · simp [same, RotFence.waiting]
    · simp [same]
  case kref =>
    refine sound.kref.trans (congrArg _ (List.countP_congr fun other _ => ?_))
    rw [fence]
    by_cases same : other = id
    · simp [same, RotFence.holds, live]
    · simp [same]
  case freed => exact sound.freed

theorem freed_of_put : tl.putTimeline.freed = (tl.putTimeline.kref == 0) := by
  change (tl.freed || tl.kref == 1) = (tl.kref - 1 == 0)
  rw [sound.freed, Bool.eq_iff_iff]
  simp only [Bool.or_eq_true, beq_iff_eq]
  omega

theorem drop {id : ℕ} (releasing : (tl.fence id).life = .releasing) : Sound (tl.dropFence id) := by
  have inside : id < tl.made := sound.made_of (by simp [releasing])
  have fence : ∀ other, (tl.dropFence id).fence other = if other = id
      then { tl.fence id with life := .freed } else tl.fence other := fun other =>
    Function.update_apply _ _ _ _
  have one_less : (List.range tl.made).countP (fun other => (tl.fence other).holds) =
      (List.range tl.made).countP (fun other => ((tl.dropFence id).fence other).holds) + 1 := by
    apply countP_flip List.nodup_range (List.mem_range.mpr inside)
    · simp [RotFence.holds, releasing]
    · simp [fence, RotFence.holds]
    · intro other different
      rw [fence, if_neg different]
  constructor
  case next => exact sound.next
  case seqno => exact sound.seqno_ofLife fence
  case unmade => exact sound.unmade_ofLife inside fence
  case listed =>
    refine sound.listed.trans (List.filter_congr fun other _ => ?_)
    rw [fence]
    by_cases same : other = id
    · rw [if_pos same, same, RotFence.waiting, releasing]
      rfl
    · rw [if_neg same]
  case kref =>
    change tl.kref - 1 = tl.owner.toNat + _
    rw [sound.kref, one_less, ← Nat.add_assoc]
    rfl
  case freed => exact sound.freed_of_put

theorem destroy (owned : tl.owner = true) : Sound tl.destroyTimeline := by
  have used : tl.kref = (List.range tl.made).countP (fun id => (tl.fence id).holds) + 1 := by
    rw [sound.kref, owned]
    exact Nat.add_comm _ _
  constructor
  case next => exact sound.next
  case seqno => exact sound.seqno
  case unmade => exact sound.unmade
  case listed => exact sound.listed
  case kref =>
    change tl.kref - 1 = (false).toNat + _
    rw [used]
    exact (Nat.zero_add _).symm
  case freed => exact sound.freed_of_put

theorem step {input : Input} (allowed : Allowed tl input) : Sound (step tl input) := by
  cases input with
  | getSyncFence allocated => exact sound.get allowed allocated
  | incTimeline increment => exact sound.inc _
  | resyncTimeline => exact sound.resync
  | releaseFence id => exact sound.release allowed
  | dropFence id => exact sound.drop allowed
  | destroyTimeline => exact sound.destroy allowed

theorem freed_iff : tl.freed = true ↔ tl.owner = false ∧ ∀ id, (tl.fence id).life = .freed := by
  rw [sound.freed, beq_iff_eq, sound.kref, Nat.add_eq_zero_iff, Bool.toNat_eq_zero,
    List.countP_eq_zero]
  refine and_congr_right fun _ =>
    ⟨fun none id => ?_, fun none id _ => by simp [RotFence.holds, none id]⟩
  by_contra there
  have := none id (List.mem_range.mpr (sound.made_of there))
  simp [RotFence.holds, there] at this

end

end Sound

/-! ## Runs -/

def Moves (tl : RotTimeline) : Input → Prop
  | .incTimeline _ => True
  | .resyncTimeline => 0 < ahead tl.nextValue tl.currValue
  | _ => False

def moved (tl : RotTimeline) : Input → ℕ
  | .incTimeline increment => increment
  | .resyncTimeline => (ahead tl.nextValue tl.currValue).toNat
  | _ => 0

def advanced (tl : RotTimeline) : List Input → ℕ
  | [] => 0
  | input :: rest => moved tl input + advanced (step tl input) rest

theorem advanced_append (tl : RotTimeline) (front back : List Input) :
    advanced tl (front ++ back) = advanced tl front + advanced (run step tl front) back := by
  induction front generalizing tl with
  | nil => simp [advanced]
  | cons input front ih => rw [List.cons_append, advanced, ih, advanced, run_cons, Nat.add_assoc]

abbrev after (inputs : List Input) : RotTimeline := run step createTimeline inputs

abbrev total (inputs : List Input) : ℕ := advanced createTimeline inputs

theorem after_snoc (inputs : List Input) (input : Input) :
    after (inputs ++ [input]) = step (after inputs) input := run_append ..

theorem total_snoc (inputs : List Input) (input : Input) :
    total (inputs ++ [input]) = total inputs + moved (after inputs) input := advanced_append ..

variable {front : List Input}

theorem total_mono {inputs : List Input} (before : front <+: inputs) :
    total front ≤ total inputs := by
  obtain ⟨back, rfl⟩ := before
  exact (Nat.le_add_right _ _).trans_eq (advanced_append _ front back).symm

def Reached (inputs : List Input) (id : ℕ) : Prop :=
  ∃ front input, front ++ [input] <+: inputs ∧ id < (after front).made ∧ Moves (after front) input ∧
    (after (front ++ [input])).fenceSignaled id = true

def BornPast (inputs : List Input) (id : ℕ) : Prop :=
  ∃ front, front ++ [.getSyncFence true] <+: inputs ∧ (after front).made = id ∧
    (after (front ++ [.getSyncFence true])).fenceSignaled id = true

theorem prefix_snoc {inputs : List Input} {last input : Input} :
    front ++ [last] <+: inputs ++ [input] ↔ front ++ [last] <+: inputs ∨ front = inputs ∧
    last = input := by
  rw [List.prefix_concat_iff]
  constructor
  · rintro (same | before)
    · obtain ⟨rfl, ends⟩ := List.append_inj' same rfl
      exact .inr ⟨rfl, List.singleton_inj.mp ends⟩
    · exact .inl before
  · rintro (before | ⟨rfl, rfl⟩)
    · exact .inr before
    · exact .inl rfl

theorem reached_snoc {inputs : List Input} {input : Input} {id : ℕ} :
    Reached (inputs ++ [input]) id ↔ Reached inputs id ∨ id < (after inputs).made ∧
      Moves (after inputs) input ∧ (after (inputs ++ [input])).fenceSignaled id = true := by
  constructor
  · rintro ⟨front, last, before, there⟩
    rcases prefix_snoc.mp before with before | ⟨rfl, rfl⟩
    · exact .inl ⟨front, last, before, there⟩
    · exact .inr there
  · rintro (⟨front, last, before, there⟩ | there)
    · exact ⟨front, last, prefix_snoc.mpr (.inl before), there⟩
    · exact ⟨inputs, input, List.prefix_rfl, there⟩

theorem BornPast.snoc {inputs : List Input} {id : ℕ} (born : BornPast inputs id) (input : Input) :
    BornPast (inputs ++ [input]) id := by
  obtain ⟨front, before, there⟩ := born
  exact ⟨front, before.trans (List.prefix_append _ _), there⟩

/-! ## What a step does to a fence -/

section Steps
variable {tl : RotTimeline} {input : Input} {id : ℕ}

theorem step_currValue (sound : Sound tl) (input : Input) :
    (step tl input).currValue = tl.currValue + BitVec.ofNat 32 (moved tl input) := by
  have stays : tl.currValue = tl.currValue + BitVec.ofNat 32 0 := (BitVec.add_zero _).symm
  cases input with
  | getSyncFence allocated => cases allocated <;> exact stays
  | incTimeline increment =>
    rw [step, incTimelineLocked_eq sound.nodup]
    rfl
  | resyncTimeline =>
    rw [step, RotTimeline.resyncTimeline, moved]
    split
    case isTrue behind =>
      rw [incTimelineLocked_eq sound.nodup]
      change tl.currValue + BitVec.ofInt 32 (ahead tl.nextValue tl.currValue) = _
      rw [← BitVec.ofInt_natCast, Int.toNat_of_nonneg behind.le]
    case isFalse ahead =>
      rw [Int.toNat_of_nonpos (not_lt.mp ahead)]
      exact stays
  | releaseFence => exact stays
  | dropFence => exact stays
  | destroyTimeline => exact stays

theorem inc_signaled (sound : Sound tl) (live : (tl.fence id).life = .live) (increment : U32) :
    ((tl.incTimelineLocked increment).fence id).signaled =
      ((tl.fence id).signaled || (tl.incTimelineLocked increment).fenceSignaled id) := by
  rw [incTimelineLocked_eq sound.nodup]
  change ((tl.fence id).signaled || (tl.fenceListHead.contains id &&
    ((tl.fence id).signaled || (tl.moveOn increment).fenceSignaled id))) = _
  have waits : (tl.fence id).waiting = !(tl.fence id).signaled := by simp [RotFence.waiting, live]
  rw [sound.contains_list, waits]
  cases (tl.fence id).signaled <;> rfl

theorem step_live (sound : Sound tl)
    (live : ((step tl input).fence id).life = .live) :
    ((tl.fence id).life = .live ∧ (((step tl input).fence id).signaled = true ↔
        (tl.fence id).signaled = true ∨ Moves tl input ∧ (step tl input).fenceSignaled id = true)) ∨
      input = .getSyncFence true ∧ id = tl.made ∧ ((step tl input).fence id).signaled = false := by
  have stays : ¬ Moves tl input → (step tl input).fence id = tl.fence id →
      (tl.fence id).life = .live ∧ (((step tl input).fence id).signaled = true ↔
        (tl.fence id).signaled = true ∨ Moves tl input ∧
          (step tl input).fenceSignaled id = true) := by
    intro still same
    rw [same] at live ⊢
    exact ⟨live, by simp [still]⟩
  have walked : ∀ increment, Moves tl input → step tl input = tl.incTimelineLocked increment →
      (tl.fence id).life = .live ∧ (((step tl input).fence id).signaled = true ↔
        (tl.fence id).signaled = true ∨ Moves tl input ∧
          (step tl input).fenceSignaled id = true) := by
    intro increment moves walk
    rw [walk] at live ⊢
    have lived : (tl.fence id).life = .live := by
      rw [incTimelineLocked_eq sound.nodup] at live
      exact live
    rw [inc_signaled sound lived, Bool.or_eq_true]
    simp [moves, lived]
  have elsewhere : ∀ {other : ℕ} {f : RotFence}, f.life ≠ .live →
      (Function.update tl.fence other f id).life = .live → id ≠ other := by
    rintro other f dead live rfl
    rw [Function.update_self] at live
    exact dead live
  cases input with
  | getSyncFence allocated =>
    cases allocated with
    | false => exact .inl (stays (fun moves => moves) rfl)
    | true =>
      by_cases new : id = tl.made
      · subst new
        refine .inr ⟨rfl, rfl, ?_⟩
        change (Function.update tl.fence tl.made _ tl.made).signaled = false
        rw [Function.update_self]
      · exact .inl (stays (fun moves => moves) (Function.update_of_ne new _ _))
  | incTimeline increment => exact .inl (walked _ trivial rfl)
  | resyncTimeline =>
    by_cases behind : 0 < ahead tl.nextValue tl.currValue
    · exact .inl (walked _ behind (if_pos behind))
    · have same : step tl .resyncTimeline = tl := if_neg behind
      exact .inl (stays behind (by rw [same]))
  | releaseFence other =>
    have apart : id ≠ other := elsewhere (by simp) live
    exact .inl (stays (fun moves => moves) (Function.update_of_ne apart _ _))
  | dropFence other =>
    have apart : id ≠ other := elsewhere (by simp) live
    exact .inl (stays (fun moves => moves) (Function.update_of_ne apart _ _))
  | destroyTimeline => exact .inl (stays (fun moves => moves) rfl)

theorem step_made (sound : Sound tl) : tl.made ≤ (step tl input).made := by
  cases input with
  | getSyncFence allocated =>
    cases allocated
    · exact le_rfl
    · exact Nat.le_succ _
  | incTimeline increment => rw [step, incTimelineLocked_eq sound.nodup]; exact le_rfl
  | resyncTimeline =>
    rw [step, RotTimeline.resyncTimeline]
    split
    · rw [incTimelineLocked_eq sound.nodup]; exact le_rfl
    · exact le_rfl
  | releaseFence => exact le_rfl
  | dropFence => exact le_rfl
  | destroyTimeline => exact le_rfl

theorem step_still (still : ¬ Moves tl input) : (step tl input).currValue = tl.currValue := by
  cases input with
  | getSyncFence allocated => cases allocated <;> rfl
  | incTimeline => exact absurd trivial still
  | resyncTimeline => exact congrArg RotTimeline.currValue (if_neg still)
  | releaseFence => rfl
  | dropFence => rfl
  | destroyTimeline => rfl

end Steps

/-! ## What has been signalled -/

section Histories
variable {inputs : List Input} {id : ℕ}

def Proper (inputs : List Input) : Prop := StepsMeet step Allowed createTimeline inputs

instance (inputs : List Input) : Decidable (Proper inputs) :=
  inferInstanceAs (Decidable (StepsMeet _ _ _ _))

theorem proper_snoc {input : Input} :
    Proper (inputs ++ [input]) ↔ Proper inputs ∧ Allowed (after inputs) input :=
  (stepsMeet_append createTimeline inputs [input]).trans
    (and_congr_right fun _ => and_iff_left trivial)

section

variable (proper : Proper inputs)

include proper

theorem Proper.sub (before : front <+: inputs) : Proper front := by
  obtain ⟨back, rfl⟩ := before
  exact ((stepsMeet_append createTimeline front back).mp proper).1

theorem Proper.sound : Sound (after inputs) :=
  run_invariant_of_meets Sound (fun _ _ sound allowed => sound.step allowed) .create proper

theorem made_mono (before : front <+: inputs) : (after front).made ≤ (after inputs).made := by
  induction inputs using List.reverseRecOn with
  | nil => rw [List.prefix_nil.mp before]
  | append_singleton inputs input ih =>
    rcases List.prefix_concat_iff.mp before with rfl | before
    · exact le_rfl
    · obtain ⟨proper, _⟩ := proper_snoc.mp proper
      rw [after_snoc]
      exact (ih proper before).trans (step_made proper.sound)

theorem Proper.currValue : (after inputs).currValue = BitVec.ofNat 32 (total inputs) := by
  induction inputs using List.reverseRecOn with
  | nil => rfl
  | append_singleton inputs input ih =>
    obtain ⟨proper, _⟩ := proper_snoc.mp proper
    rw [after_snoc, step_currValue proper.sound, ih proper, total_snoc, BitVec.ofNat_add]

theorem signaled_iff_reached (live : ((after inputs).fence id).life = .live) :
    ((after inputs).fence id).signaled = true ↔ Reached inputs id := by
  induction inputs using List.reverseRecOn with
  | nil => cases live
  | append_singleton inputs input ih =>
    obtain ⟨proper', allowed⟩ := proper_snoc.mp proper
    rw [reached_snoc, after_snoc]
    rw [after_snoc] at live
    rcases step_live proper'.sound live with ⟨lived, flag⟩ | ⟨rfl, rfl, unset⟩
    · have old : id < (after inputs).made := proper'.sound.made_of (by rw [lived]; decide)
      rw [flag, ih proper' lived]
      simp [old]
    -- the step makes the fence, so that no step before can have reached it
    · refine iff_of_false (by simp [unset]) ?_
      rintro (⟨front, last, before, there, -⟩ | ⟨there, -⟩)
      · have sooner : front <+: inputs := (List.prefix_append _ _).trans before
        exact absurd (made_mono proper' sooner) (not_le.mpr there)
      · exact lt_irrefl _ there

theorem bornPast_of_reported (live : ((after inputs).fence id).life = .live)
    (unset : ((after inputs).fence id).signaled = false)
    (reported : (after inputs).fenceSignaled id = true) : BornPast inputs id := by
  induction inputs using List.reverseRecOn with
  | nil => cases live
  | append_singleton inputs input ih =>
    obtain ⟨proper', allowed⟩ := proper_snoc.mp proper
    have sound := proper'.sound
    have sound' := proper.sound
    rw [after_snoc] at live unset reported sound'
    rcases step_live sound live with ⟨lived, flag⟩ | ⟨rfl, rfl, -⟩
    · have old : id < (after inputs).made := sound.made_of (by rw [lived]; decide)
      obtain ⟨was_unset, still⟩ := not_or.mp (mt flag.mpr (by simp [unset]))
      have still : ¬ Moves (after inputs) input := fun moves => still ⟨moves, reported⟩
      have before : (after inputs).fenceSignaled id = true := by
        rw [RotTimeline.fenceSignaled, step_still still,
          sound'.seqno id (old.trans_le (step_made sound)),
          ← sound.seqno id old] at reported
        exact reported
      exact (ih proper' lived (by simpa using was_unset) before).snoc input
    · exact ⟨inputs, List.prefix_rfl, rfl, by rw [after_snoc]; exact reported⟩

/-! ## Less than half the range apart -/

structure Near (inputs : List Input) : Prop where
  next : (after inputs).made < total inputs + 2 ^ 31
  past : total inputs < (after inputs).made + 2 ^ 31
  oldest : ∀ id ∈ (after inputs).fenceListHead,
    (after inputs).made < id + 1 + 2 ^ 31 ∧ total inputs < id + 1 + 2 ^ 31

instance (inputs : List Input) : Decidable (Near inputs) :=
  decidable_of_iff
    (((after inputs).made < total inputs + 2 ^ 31 ∧ total inputs < (after inputs).made + 2 ^ 31) ∧
      ∀ id ∈ (after inputs).fenceListHead,
        (after inputs).made < id + 1 + 2 ^ 31 ∧ total inputs < id + 1 + 2 ^ 31)
    ⟨fun ⟨⟨next, past⟩, oldest⟩ => ⟨next, past, oldest⟩, fun near =>
      ⟨⟨near.next, near.past⟩, near.oldest⟩⟩

theorem mem_list_of_unset (live : ((after inputs).fence id).life = .live)
    (unset : ((after inputs).fence id).signaled = false) : id ∈ (after inputs).fenceListHead := by
  rw [proper.sound.mem_list]
  simp [RotFence.waiting, live, unset]

theorem fenceSignaled_iff (near : Near inputs) (listed : id ∈ (after inputs).fenceListHead) :
    (after inputs).fenceSignaled id = true ↔ id < total inputs := by
  have made : id < (after inputs).made := proper.sound.made_of fun freed => by
    have waits := proper.sound.mem_list.mp listed
    simp [RotFence.waiting, freed] at waits
  have low := near.next
  have high := (near.oldest id listed).2
  rw [RotTimeline.fenceSignaled, decide_eq_true_iff, proper.currValue, proper.sound.seqno id made,
    ahead_ofNat (by omega) (by omega)]
  omega

theorem list_ascending (near : Near inputs) :
    (after inputs).fenceListHead.Pairwise fun older younger =>
      0 < ahead ((after inputs).fence younger).seqno ((after inputs).fence older).seqno := by
  have sound := proper.sound
  have made : ∀ id ∈ (after inputs).fenceListHead, id < (after inputs).made := by
    rw [sound.listed]
    exact fun id listed => List.mem_range.mp (List.mem_filter.mp listed).1
  have ordered : (after inputs).fenceListHead.Pairwise (· < ·) := by
    rw [sound.listed]
    exact List.pairwise_lt_range.filter _
  refine ordered.imp_of_mem fun {older younger} listed listed' before => ?_
  have close := (near.oldest older listed).1
  have last := made younger listed'
  rw [sound.seqno older (made older listed), sound.seqno younger last,
    ahead_ofNat (by omega) (by omega)]
  omega

end

theorem born_reported_iff (proper : Proper (inputs ++ [.getSyncFence true]))
    (near : Near (inputs ++ [.getSyncFence true])) :
    (after (inputs ++ [.getSyncFence true])).isSignaled (after inputs).made = true ↔
      (after inputs).made < total inputs := by
  have born : (after (inputs ++ [.getSyncFence true])).fence (after inputs).made =
      { seqno := (after inputs).nextValue + 1, life := .live } := by
    rw [after_snoc]
    exact Function.update_self ..
  have listed : (after inputs).made ∈ (after (inputs ++ [.getSyncFence true])).fenceListHead :=
    mem_list_of_unset proper (by rw [born]) (by rw [born])
  have still : total (inputs ++ [.getSyncFence true]) = total inputs := total_snoc _ _
  rw [RotTimeline.isSignaled, born, Bool.false_or, fenceSignaled_iff proper near listed, still]

theorem behind_eq (proper : Proper inputs) (near : Near inputs) :
    ahead (after inputs).nextValue (after inputs).currValue = ((after inputs).made : Int) -
    total inputs := by
  have low := near.past
  have high := near.next
  rw [proper.sound.next, proper.currValue, ahead_ofNat (by omega) (by omega)]

theorem resync_currValue (proper : Proper inputs) (near : Near inputs) :
    (after inputs).resyncTimeline.currValue =
      BitVec.ofNat 32 (max (after inputs).made (total inputs)) := by
  have moves : (after inputs).resyncTimeline.currValue = (after inputs).currValue +
    BitVec.ofNat 32 (ahead (after inputs).nextValue (after inputs).currValue).toNat :=
      step_currValue proper.sound .resyncTimeline
  rw [moves, behind_eq proper near, proper.currValue, ← BitVec.ofNat_add]
  congr 1
  omega

theorem resync_reports (proper : Proper inputs) (near : Near inputs)
    (live : ((after inputs).fence id).life = .live) :
    (after inputs).resyncTimeline.isSignaled id = true := by
  have made : id < (after inputs).made := proper.sound.made_of (by rw [live]; decide)
  cases flag : ((after inputs).fence id).signaled with
  | false =>
    have listed := mem_list_of_unset proper live flag
    by_cases behind : total inputs < (after inputs).made
    · have moves : 0 < ahead (after inputs).nextValue (after inputs).currValue := by
        rw [behind_eq proper near]
        omega
      have kept : (after inputs).made ≤ (step (after inputs) .resyncTimeline).made :=
        step_made proper.sound
      have seqno : ((after inputs).resyncTimeline.fence id).seqno = BitVec.ofNat 32 (id + 1) :=
        proper.sound.resync.seqno id (made.trans_le kept)
      have close := (near.oldest id listed).1
      rw [RotTimeline.isSignaled, RotTimeline.fenceSignaled, resync_currValue proper near, seqno,
        max_eq_left behind.le, ahead_ofNat (by omega) (by omega)]
      simp only [Bool.or_eq_true, decide_eq_true_iff]
      right
      omega
    · have moves : ¬ 0 < ahead (after inputs).nextValue (after inputs).currValue := by
        rw [behind_eq proper near]
        omega
      rw [RotTimeline.resyncTimeline, if_neg moves, RotTimeline.isSignaled,
        (fenceSignaled_iff proper near listed).mpr (by omega), Bool.or_true]
  | true =>
    have still : ((after inputs).resyncTimeline.fence id).signaled = true := by
      rw [RotTimeline.resyncTimeline]
      split
      · rw [inc_signaled proper.sound live, flag, Bool.true_or]
      · exact flag
    rw [RotTimeline.isSignaled, still, Bool.true_or]

/-! ## The law of the timeline -/

structure TimelineLaw (inputs : List Input) : Prop where
  consecutive : ∀ id < (after inputs).made, ((after inputs).fence id).seqno =
    BitVec.ofNat 32 (id + 1)
  listed : ∀ id, id ∈ (after inputs).fenceListHead ↔
    ((after inputs).fence id).life = .live ∧ ((after inputs).fence id).signaled = false
  ascending : (after inputs).fenceListHead.Pairwise fun older younger =>
    0 < ahead ((after inputs).fence younger).seqno ((after inputs).fence older).seqno
  flag : ∀ id, ((after inputs).fence id).life = .live →
    (((after inputs).fence id).signaled = true ↔ Reached inputs id)
  /-- A fence is reported from the first step on that moves the value up to it, and not before
      unless it was born so. -/
  signaled : ∀ id, ((after inputs).fence id).life = .live →
    ((after inputs).isSignaled id = true ↔ Reached inputs id ∨ BornPast inputs id)
  born : ∀ id, BornPast inputs id → ∃ front, front ++ [.getSyncFence true] <+: inputs ∧
    (after front).made = id ∧ id < total front
  resync : (∀ id, ((after inputs).fence id).life = .live →
      (after inputs).resyncTimeline.isSignaled id = true) ∧
    (after inputs).resyncTimeline.currValue =
      if total inputs ≤ (after inputs).made then (after inputs).nextValue
        else (after inputs).currValue
  freed : (after inputs).freed = true ↔
    (after inputs).owner = false ∧ ∀ id, ((after inputs).fence id).life = .freed

theorem BornPast.passed (proper : Proper inputs) (near : ∀ front, front <+: inputs → Near front)
    (born : BornPast inputs id) : ∃ front, front ++ [.getSyncFence true] <+: inputs ∧
      (after front).made = id ∧ id < total front := by
  obtain ⟨front, before, rfl, reported⟩ := born
  refine ⟨front, before, rfl, (born_reported_iff (proper.sub before) (near _ before)).mp ?_⟩
  rw [RotTimeline.isSignaled, reported, Bool.or_true]

/-- After every run that keeps the counters together the timeline is as its law says. -/
theorem timeline_law (proper : Proper inputs) (near : ∀ front, front <+: inputs → Near front) :
    TimelineLaw inputs := by
  have here : Near inputs := near inputs List.prefix_rfl
  constructor
  case consecutive => exact proper.sound.seqno
  case listed =>
    intro id
    rw [proper.sound.mem_list]
    simp [RotFence.waiting]
  case ascending => exact list_ascending proper here
  case flag => exact fun id live => signaled_iff_reached proper live
  case signaled =>
    intro id live
    have flag := signaled_iff_reached proper live
    cases set : ((after inputs).fence id).signaled with
    | true => simp [RotTimeline.isSignaled, set, flag.mp set]
    | false =>
      have unreached : ¬ Reached inputs id := fun reached => by simp [flag.mpr reached] at set
      have same : (after inputs).isSignaled id = (after inputs).fenceSignaled id := by
        rw [RotTimeline.isSignaled, set, Bool.false_or]
      rw [same, or_iff_right unreached]
      refine ⟨bornPast_of_reported proper live set, fun born => ?_⟩
      obtain ⟨front, before, -, passed⟩ := born.passed proper near
      have earlier : front <+: inputs := (List.prefix_append _ _).trans before
      exact (fenceSignaled_iff proper here (mem_list_of_unset proper live set)).mpr
        (passed.trans_le (total_mono earlier))
  case born => exact fun id born => born.passed proper near
  case resync =>
    refine ⟨fun id live => resync_reports proper here live, ?_⟩
    rw [resync_currValue proper here]
    split
    case isTrue behind => rw [max_eq_left behind, proper.sound.next]
    case isFalse past => rw [max_eq_right (not_le.mp past).le, proper.currValue]
  case freed => exact proper.sound.freed_iff

end Histories

/-- Three fences, of which one is there before and after the timeline is synchronised. -/
def mixedRun : List Input :=
  [.getSyncFence true, .getSyncFence true, .incTimeline 1, .releaseFence 1,
    .resyncTimeline, .dropFence 1,
    .getSyncFence true, .releaseFence 0, .dropFence 0]

theorem timeline_law_mixedRun : TimelineLaw mixedRun := by
  have proper : Proper mixedRun := by decide
  have near : ∀ front ∈ mixedRun.inits, Near front := by decide
  exact timeline_law proper fun front before => near front
    ((List.mem_inits front mixedRun).mpr before)

def requested (inputs : List Input) : ℕ :=
  (inputs.map fun input => match input with
    | .incTimeline increment => increment
    | _ => 0).sum

def Close (inputs : List Input) : Prop :=
  ∀ id ∈ (after inputs).fenceListHead, (after inputs).made < id + 1 + 2 ^ 31

instance (inputs : List Input) : Decidable (Close inputs) :=
  inferInstanceAs (Decidable (∀ _ ∈ _, _))

/-- A fence is born reported where a resync and one increment have moved the value past it, and a
    value that increments have moved half the range away from the next one stays where it is in a
    resync. -/
theorem resync_surprises :
    (∃ inputs, Proper inputs ∧ (∀ front ∈ inputs.inits, Close front) ∧
      requested inputs ≤ (after inputs).made ∧
      (after (inputs ++ [.getSyncFence true])).isSignaled (after inputs).made = true) ∧
    ∃ inputs id, Proper inputs ∧ (∀ front ∈ inputs.inits, Close front) ∧
      ((after inputs).fence id).life = .live ∧ (after inputs).resyncTimeline.isSignaled
        id = false := by
  refine ⟨⟨[.getSyncFence true, .getSyncFence true, .resyncTimeline, .incTimeline 1], by decide⟩,
    ⟨[.incTimeline (2 ^ 30), .incTimeline (2 ^ 30), .incTimeline 1, .getSyncFence true],
      0, by decide⟩⟩

end DisplayDrivers.Rotator
