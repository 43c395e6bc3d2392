import DisplayDrivers.Lib.Run
import DisplayDrivers.Fence.Context
import Mathlib.Data.List.Perm.Basic

/-! # Safety of the fence timeline

`sdeFenceTrigger_eq` says what one trigger does: the list keeps, in order, the fences that are still
ahead of the timeline, and every other one is signalled and put.
-/

namespace DisplayDrivers.Fence

open DisplayDrivers.Lib.Serial DisplayDrivers.Lib.Run

/-! ## What a trigger does -/

def Settled (doneCount : U32) (fence : SdeFence) : Bool :=
  fence.signaled || sdeFenceSignaled doneCount fence

def SdeFence.retire (ts : Int) (error : Bool) (fence : SdeFence) : SdeFence :=
  ({ fence.stamp ts error with signaled := true } : SdeFence).put

@[simp] theorem SdeFence.retire_id (ts : Int) (error : Bool) (fence : SdeFence) :
    (fence.retire ts error).id = fence.id := rfl
@[simp] theorem SdeFence.retire_signaled (ts : Int) (error : Bool) (fence : SdeFence) :
    (fence.retire ts error).signaled = true := rfl
@[simp] theorem SdeFence.retire_puts (ts : Int) (error : Bool) (fence : SdeFence) :
    (fence.retire ts error).puts = fence.puts + 1 := rfl

theorem dmaFenceIsSignaledLocked_stamp (doneCount : U32) (ts : Int) (error : Bool)
    (fence : SdeFence) :
    dmaFenceIsSignaledLocked doneCount (fence.stamp ts error) =
      if Settled doneCount fence then (true, { fence.stamp ts error with signaled := true })
      else (false, fence.stamp ts error) := by
  have sameTest : sdeFenceSignaled doneCount (fence.stamp ts error) =
      sdeFenceSignaled doneCount fence := rfl
  unfold dmaFenceIsSignaledLocked Settled
  rw [sameTest]
  cases signaled : fence.signaled <;> cases sdeFenceSignaled doneCount fence <;>
    simp [SdeFence.stamp, signaled]

theorem moveToLocal_eq (fences : List SdeFence) : moveToLocal fences = fences.reverse := by
  have general : ∀ localHead, fences.foldl (fun rest fc => fc :: rest) localHead =
      fences.reverse ++ localHead := by
    induction fences with
    | nil => simp
    | cons fc fences ih => intro localHead; simp [ih]
  rw [moveToLocal, general, List.append_nil]

theorem triggerLoop_eq (doneCount : U32) (ts : Int) (error : Bool) (fences head : List SdeFence) :
    triggerLoop doneCount ts error fences head =
      (((fences.filter (fun f => !Settled doneCount f)).map (·.stamp ts error)).reverse ++ head,
       (fences.filter (Settled doneCount)).map (·.retire ts error)) := by
  -- `head` grows by every fence that goes back
  induction fences generalizing head with
  | nil => simp [triggerLoop]
  | cons fc next ih =>
    rw [triggerLoop, dmaFenceIsSignaledLocked_stamp]
    cases settled : Settled doneCount fc with
    | true => simp [ih, settled, SdeFence.retire]
    | false => simp [ih, settled]

theorem sdeFenceTrigger_eq (ctx : SdeFenceContext) (ts : Int) (error : Bool) :
    sdeFenceTrigger ctx ts error =
      ({ ctx with fenceListHead :=
          (ctx.fenceListHead.filter (fun f => !Settled ctx.doneCount f)).map (·.stamp ts error) },
       (ctx.fenceListHead.reverse.filter (Settled ctx.doneCount)).map (·.retire ts error)) := by
  obtain ⟨commitCount, doneCount, fences⟩ := ctx
  unfold sdeFenceTrigger
  cases fences with
  | nil => rfl
  | cons fc fences =>
    simp only [List.isEmpty_cons, Bool.false_eq_true, if_false, triggerLoop_eq, moveToLocal_eq,
      List.filter_reverse, List.map_reverse, List.reverse_reverse, List.append_nil]

/-! ## The ledger of all fences -/

def ids (fences : List SdeFence) : List Nat := fences.map (·.id)

/-- Every fence ever made waits on the list unsignalled, or left it signalled and was put once,
    or was dropped at creation and put once; the list is in creation order. -/
structure Ledger (t : Timeline) : Prop where
  waiting : ∀ f ∈ t.ctx.fenceListHead, f.signaled = false ∧ f.puts = 0
  retired : ∀ f ∈ t.retired, f.signaled = true ∧ f.puts = 1
  dropped : ∀ f ∈ t.dropped, f.puts = 1
  ordered : (ids t.ctx.fenceListHead).Pairwise (· < ·)
  accounted : (ids t.ctx.fenceListHead ++ ids t.retired ++ ids t.dropped).Perm
    (List.range t.made)

variable {t : Timeline} {f : SdeFence}

theorem Ledger.id_lt_made (ledger : Ledger t)
    (member : f ∈ t.ctx.fenceListHead) : f.id < t.made := by
  have onList : f.id ∈ ids t.ctx.fenceListHead := List.mem_map_of_mem member
  exact List.mem_range.mp (ledger.accounted.subset (by simp [onList]))

@[simp] theorem trigger_doneCount (t : Timeline) (ts : Int) (error : Bool) :
    (trigger t ts error).ctx.doneCount = t.ctx.doneCount := by
  simp [trigger, sdeFenceTrigger_eq]

@[simp] theorem trigger_commitCount (t : Timeline) (ts : Int) (error : Bool) :
    (trigger t ts error).ctx.commitCount = t.ctx.commitCount := by
  simp [trigger, sdeFenceTrigger_eq]

theorem trigger_list (t : Timeline) (ts : Int) (error : Bool) :
    (trigger t ts error).ctx.fenceListHead =
      (t.ctx.fenceListHead.filter (fun f => !Settled t.ctx.doneCount f)).map
        (·.stamp ts error) := by
  simp [trigger, sdeFenceTrigger_eq]

theorem trigger_retired (t : Timeline) (ts : Int) (error : Bool) :
    (trigger t ts error).retired =
      (t.ctx.fenceListHead.filter (Settled t.ctx.doneCount)).map (·.retire ts error) ++
        t.retired := by
  simp [trigger, sdeFenceTrigger_eq, List.filter_reverse]

theorem ledger_trigger (ledger : Ledger t) (ts : Int) (error : Bool) :
    Ledger (trigger t ts error) where
  waiting := by
    intro f member
    rw [trigger_list, List.mem_map] at member
    obtain ⟨g, kept, rfl⟩ := member
    exact ledger.waiting g (List.mem_of_mem_filter kept)
  retired := by
    intro f member
    rw [trigger_retired, List.mem_append, List.mem_map] at member
    rcases member with ⟨g, left, rfl⟩ | old
    · have waited := ledger.waiting g (List.mem_of_mem_filter left)
      simp [waited.2]
    · exact ledger.retired f old
  dropped := ledger.dropped
  ordered := by
    have sublist : (ids (trigger t ts error).ctx.fenceListHead).Sublist
        (ids t.ctx.fenceListHead) := by
      rw [trigger_list, ids, List.map_map]
      exact List.filter_sublist.map _
    exact ledger.ordered.sublist sublist
  accounted := by
    -- the fences kept and the fences retired are the fences that were on the list
    have split : (ids (trigger t ts error).ctx.fenceListHead ++
        ids (trigger t ts error).retired).Perm
        (ids t.ctx.fenceListHead ++ ids t.retired) := by
      rw [trigger_list, trigger_retired]
      simp only [ids, List.map_append, List.map_map]
      rw [← List.append_assoc]
      refine List.Perm.append_right _ (List.perm_append_comm.trans ?_)
      have parts := (List.filter_append_perm (Settled t.ctx.doneCount) t.ctx.fenceListHead).map
        (fun f : SdeFence => f.id)
      simpa [Function.comp_def] using parts
    exact (split.append_right _).trans ledger.accounted

theorem trigger_pending (t : Timeline) (ts : Int) (error : Bool)
    (member : f ∈ (trigger t ts error).ctx.fenceListHead) :
    0 < ahead (w := 31) f.seqno (trigger t ts error).ctx.doneCount := by
  rw [trigger_list, List.mem_map] at member
  obtain ⟨g, kept, rfl⟩ := member
  have unsettled := (List.mem_filter.mp kept).2
  simp only [Settled, sdeFenceSignaled, Bool.not_or, Bool.and_eq_true, Bool.not_eq_true',
    decide_eq_false_iff_not, not_le] at unsettled
  simpa using unsettled.2

/-! ## Safety of whole runs -/

structure Safe (t : Timeline) : Prop extends Ledger t where
  near : lead (w := 31) t.ctx.commitCount t.ctx.doneCount < 2 ^ 31
  ordered_counts : 0 ≤ ahead (w := 31) t.ctx.commitCount t.ctx.doneCount
  pending : ∀ f ∈ t.ctx.fenceListHead, 0 < ahead (w := 31) f.seqno t.ctx.doneCount

/-- Fence `id` has left the list: it was signalled and its list reference was put once. -/
def Retired (t : Timeline) (id : Nat) : Prop :=
  ∃ f ∈ t.retired, f.id = id ∧ f.signaled = true ∧ f.puts = 1

/-- Fence `id` with sequence number `seqno` is on the list exactly while it is ahead of the
    timeline, and has been signalled and put exactly when it is not. -/
structure FollowsTimeline (t : Timeline) (id : Nat) (seqno : U32) : Prop where
  waits_iff : id ∈ ids t.ctx.fenceListHead ↔ 0 < ahead (w := 31) seqno t.ctx.doneCount
  retired_iff : Retired t id ↔ ahead (w := 31) seqno t.ctx.doneCount ≤ 0

/-- What one call does to the timeline: `done_count` does not move backwards, and every fence
    that was on the list, and the one the call created, follows the timeline afterwards. -/
structure StepSafe (t : Timeline) (call : Call) : Prop where
  forward : 0 ≤ ahead (w := 31) (step t call).ctx.doneCount t.ctx.doneCount
  listed : ∀ f ∈ t.ctx.fenceListHead, FollowsTimeline (step t call) f.id f.seqno
  created : ∀ offset fd now, call = .create offset (.ok fd) now →
    FollowsTimeline (step t call) t.made (t.ctx.commitCount + offset)

/-- `sde_fence_prepare` is only called with fewer than `2 ^ 31` commits outstanding. -/
def FewOutstanding (t : Timeline) (call : Call) : Prop :=
  call = .prepare → lead (w := 31) t.ctx.commitCount t.ctx.doneCount + 1 < 2 ^ 31

theorem safe_init : Safe {} where
  waiting := by simp
  retired := by simp
  dropped := by simp
  ordered := by simp [ids]
  accounted := by simp [ids]
  near := by simp
  ordered_counts := by simp
  pending := by simp

theorem safe_trigger (ledger : Ledger t)
    (near : lead (w := 31) t.ctx.commitCount t.ctx.doneCount < 2 ^ 31) (ts : Int) (error : Bool) :
    Safe (trigger t ts error) where
  toLedger := ledger_trigger ledger ts error
  near := by simpa using near
  ordered_counts := by simpa using ahead_nonneg near
  pending := fun _ member => trigger_pending t ts error member

theorem safe_prepare (safe : Safe t)
    (few : lead (w := 31) t.ctx.commitCount t.ctx.doneCount + 1 < 2 ^ 31) :
    Safe (sdeFencePrepare t) := by
  have near : lead (w := 31) (t.ctx.commitCount + 1) t.ctx.doneCount < 2 ^ 31 := by
    have grown := lead_succ_left (w := 31) (a := t.ctx.commitCount) (b := t.ctx.doneCount)
      (by omega)
    exact grown ▸ few
  exact { toLedger := ⟨safe.waiting, safe.retired, safe.dropped, safe.ordered, safe.accounted⟩
          near := near
          ordered_counts := ahead_nonneg near
          pending := safe.pending }

theorem ledger_append (ledger : Ledger t) (val : U32) : Ledger { t with
      ctx := { t.ctx with
        fenceListHead := t.ctx.fenceListHead ++ [{ id := t.made, seqno := val }] }
      made := t.made + 1 } where
  waiting := by
    intro f member
    cases List.mem_append.mp member with
    | inl old => exact ledger.waiting f old
    | inr new =>
      rw [List.mem_singleton] at new
      subst new
      exact ⟨rfl, rfl⟩
  retired := ledger.retired
  dropped := ledger.dropped
  ordered := by
    simp only [ids, List.map_append, List.map_cons, List.map_nil]
    refine List.pairwise_append.mpr ⟨ledger.ordered, List.pairwise_singleton _ _, ?_⟩
    intro i member j last
    obtain ⟨f, onList, rfl⟩ := List.mem_map.mp member
    rw [List.mem_singleton] at last
    subst last
    exact ledger.id_lt_made onList
  accounted := by
    rw [List.range_succ]
    refine List.Perm.trans ?_ (ledger.accounted.append_right [t.made])
    simp only [ids, List.map_append, List.map_cons, List.map_nil, List.append_assoc]
    apply List.Perm.append_left
    exact List.perm_append_comm.trans (by simp)

theorem ledger_drop (ledger : Ledger t) (val : U32) : Ledger { t with
      dropped := { id := t.made, seqno := val, puts := 1 } :: t.dropped
      made := t.made + 1 } where
  waiting := ledger.waiting
  retired := ledger.retired
  dropped := by
    intro f member
    rcases List.mem_cons.mp member with rfl | old
    · rfl
    · exact ledger.dropped f old
  ordered := ledger.ordered
  accounted := by
    rw [List.range_succ]
    refine List.Perm.trans ?_ (ledger.accounted.append_right [t.made])
    simp only [ids, List.map_cons]
    exact List.perm_middle.trans (List.perm_append_singleton _ _).symm

theorem Ledger.not_listed_of_retired (ledger : Ledger t) {id : Nat}
    (retired : Retired t id) : id ∉ ids t.ctx.fenceListHead := by
  obtain ⟨f, member, rfl, -, -⟩ := retired
  have nodup := ledger.accounted.nodup_iff.mpr List.nodup_range
  -- the ledger lists every id once
  rw [List.append_assoc] at nodup
  intro listed
  exact (List.disjoint_of_nodup_append nodup) listed
    (List.mem_append_left _ (List.mem_map_of_mem member))

theorem follows_of_safe (safe : Safe t)
    (member : f ∈ t.ctx.fenceListHead) : FollowsTimeline t f.id f.seqno := by
  have ahead := safe.pending f member
  have listed : f.id ∈ ids t.ctx.fenceListHead := List.mem_map_of_mem member
  constructor
  · exact iff_of_true listed ahead
  · exact iff_of_false (fun retired => safe.not_listed_of_retired retired listed)
      (Int.not_le.mpr ahead)

theorem settled_iff (ledger : Ledger t) (member : f ∈ t.ctx.fenceListHead) :
    Settled t.ctx.doneCount f = true ↔ ahead (w := 31) f.seqno t.ctx.doneCount ≤ 0 := by
  simp [Settled, sdeFenceSignaled, (ledger.waiting f member).1]

theorem follows_of_trigger (ledger : Ledger t) (ts : Int) (error : Bool)
    (member : f ∈ t.ctx.fenceListHead) :
    FollowsTimeline (trigger t ts error) f.id f.seqno := by
  have due := settled_iff ledger member
  have left : ahead (w := 31) f.seqno t.ctx.doneCount ≤ 0 →
      Retired (trigger t ts error) f.id := by
    intro passed
    refine ⟨f.retire ts error, ?_, rfl, rfl, ?_⟩
    · rw [trigger_retired]
      refine List.mem_append_left _ (List.mem_map_of_mem ?_)
      exact List.mem_filter.mpr ⟨member, due.mpr passed⟩
    · simp [(ledger.waiting f member).2]
  have stays : 0 < ahead (w := 31) f.seqno t.ctx.doneCount →
      f.id ∈ ids (trigger t ts error).ctx.fenceListHead := by
    intro waits
    have unsettled : Settled t.ctx.doneCount f = false := by
      rw [← Bool.not_eq_true, due]
      exact Int.not_le.mpr waits
    rw [trigger_list, ids, List.map_map]
    exact List.mem_map.mpr ⟨f, List.mem_filter.mpr ⟨member, by simp [unsettled]⟩, rfl⟩
  -- no fence is both, which turns the two implications into equivalences
  have apart : Retired (trigger t ts error) f.id →
      f.id ∉ ids (trigger t ts error).ctx.fenceListHead :=
    (ledger_trigger ledger ts error).not_listed_of_retired
  constructor
  · rw [trigger_doneCount]
    refine ⟨fun listed => ?_, stays⟩
    by_contra passed
    exact apart (left (Int.not_lt.mp passed)) listed
  · rw [trigger_doneCount]
    refine ⟨fun retired => ?_, left⟩
    by_contra waits
    exact apart retired (stays (Int.not_le.mp waits))

theorem advance_some {ctx ctx' : SdeFenceContext} {event : FenceEvent}
    (moved : advance ctx event = some ctx') :
    ∃ count, ahead (w := 31) ctx.doneCount ctx.commitCount < 0 ∧
      (count = ctx.commitCount ∨ count = ctx.doneCount + 1) ∧
      ctx' = { ctx with doneCount := count } := by
  unfold advance at moved
  split_ifs at moved with reset behind behind
  · exact ⟨_, behind, .inl rfl, (Option.some.inj moved).symm⟩
  · exact ⟨_, behind, .inr rfl, (Option.some.inj moved).symm⟩

theorem advance_near (safe : Safe t) {count : U32}
    (behind : ahead (w := 31) t.ctx.doneCount t.ctx.commitCount < 0)
    (moved : count = t.ctx.commitCount ∨ count = t.ctx.doneCount + 1) :
    lead (w := 31) t.ctx.commitCount count < 2 ^ 31 ∧
      0 ≤ ahead (w := 31) count t.ctx.doneCount := by
  have near := safe.near
  rcases moved with rfl | rfl
  · exact ⟨by simp, safe.ordered_counts⟩
  -- `done_count` is behind by less than half the range, so one step does not overtake
  · have differ := (ahead_swap_neg_iff near).mp behind
    have shorter := lead_succ_right (w := 31) differ
    constructor
    · exact shorter ▸ by omega
    · exact (ahead_succ_self (w := 31) (by omega) t.ctx.doneCount).symm ▸ Int.one_nonneg

theorem safe_drop (safe : Safe t) (val : U32) : Safe { t with
      dropped := { id := t.made, seqno := val, puts := 1 } :: t.dropped
      made := t.made + 1 } where
  toLedger := ledger_drop safe.toLedger val
  near := safe.near
  ordered_counts := safe.ordered_counts
  pending := safe.pending

theorem stepSafe_of_same {call : Call} (next : Safe (step t call))
    (same : (step t call).ctx = t.ctx)
    (none : ∀ offset fd now, call ≠ .create offset (.ok fd) now) : StepSafe t call where
  forward := by rw [same, ahead_self]
  listed := by
    intro f member
    apply follows_of_safe next
    rwa [same]
  created := fun offset fd now is => absurd is (none offset fd now)

theorem step_safe (safe : Safe t) (call : Call) (few : FewOutstanding t call) :
    Safe (step t call) ∧ StepSafe t call := by
  cases call with
  | prepare =>
    have next : Safe (sdeFencePrepare t) := safe_prepare safe (few rfl)
    exact ⟨next, ⟨by simp [step, sdeFencePrepare], fun _ member => follows_of_safe next member,
      by simp⟩⟩
  | create offset outcome now =>
    cases outcome with
    | noMemory => exact ⟨safe, stepSafe_of_same safe rfl (by simp)⟩
    | noFd code =>
      have next : Safe (step t (.create offset (.noFd code) now)) := safe_drop safe _
      exact ⟨next, stepSafe_of_same next rfl (by simp)⟩
    | noSyncFile =>
      have next : Safe (step t (.create offset .noSyncFile now)) := safe_drop safe _
      exact ⟨next, stepSafe_of_same next rfl (by simp)⟩
    | ok fd =>
      -- the trigger finds the new fence on the list and may retire it at once
      have ledger := ledger_append safe.toLedger (t.ctx.commitCount + offset)
      refine ⟨safe_trigger ledger safe.near now false, ⟨?_, ?_, ?_⟩⟩
      · exact (trigger_doneCount _ _ _).symm ▸ ahead_self (w := 31) _ ▸ le_rfl
      · intro f member
        exact follows_of_trigger ledger now false (List.mem_append_left _ member)
      · intro offset' fd' now' same
        obtain ⟨rfl, -, rfl⟩ := Call.create.inj same
        exact follows_of_trigger ledger now false
          (List.mem_append_right _ (List.mem_singleton_self _))
  | signal ts event =>
    cases moved : advance t.ctx event with
    | none =>
      have same : step t (.signal ts event) = t := by simp [step, sdeFenceSignal, moved]
      have next : Safe (step t (.signal ts event)) := same.symm ▸ safe
      exact ⟨next, stepSafe_of_same next (by rw [same]) (by simp)⟩
    | some ctx =>
      obtain ⟨count, behind, choice, rfl⟩ := advance_some moved
      have triggered : step t (.signal ts event) =
          trigger { t with ctx := { t.ctx with doneCount := count } } ts
            (event = .signalError) := by
        simp [step, sdeFenceSignal, moved]
      have ledger : Ledger { t with ctx := { t.ctx with doneCount := count } } :=
        ⟨safe.waiting, safe.retired, safe.dropped, safe.ordered, safe.accounted⟩
      obtain ⟨near, forward⟩ := advance_near safe behind choice
      refine ⟨triggered ▸ safe_trigger ledger near ts _, ⟨?_, ?_, by simp⟩⟩
      · rw [triggered, trigger_doneCount]
        exact forward
      · rw [triggered]
        exact fun f member => follows_of_trigger ledger ts _ (f := f) member

/-- Fence timeline safety.  In every run with fewer than `2 ^ 31` commits outstanding the
    timeline is safe, and every further call leaves it so, never moves `done_count` backwards and
    has signalled and put exactly the fences that are no longer ahead of the timeline. -/
theorem fence_timeline_safe (calls : List Call) (few : StepsMeet step FewOutstanding {} calls) :
    Safe (run step {} calls) ∧
      ∀ call, FewOutstanding (run step {} calls) call →
        Safe (step (run step {} calls) call) ∧ StepSafe (run step {} calls) call := by
  have safe : Safe (run step {} calls) :=
    run_invariant_of_meets Safe (fun _ call safe few => (step_safe safe call few).1) safe_init few
  exact ⟨safe, fun call few => step_safe safe call few⟩

/-- A prepared commit, a fence for it, and the signal that retires the fence. -/
theorem fence_timeline_safe_signal :
    Safe (run step {} [.prepare, .create 0 (.ok 3) 0]) ∧
      StepSafe (run step {} [.prepare, .create 0 (.ok 3) 0]) (.signal 0 .signal) := by
  have safe := fence_timeline_safe [.prepare, .create 0 (.ok 3) 0]
    ⟨fun _ => by decide, nofun, trivial⟩
  exact ⟨safe.1, (safe.2 (.signal 0 .signal) nofun).2⟩

end DisplayDrivers.Fence
