import DisplayDrivers.Atomic.Commit
import DisplayDrivers.Lib.Exclusion
import DisplayDrivers.Lib.Run

/-! # Commits exclude each other

A commit is at every moment the business of one thread: of its caller until its work is queued, and
of the display thread from then on until the work has run. `Tracked` says for each place of the
caller what has happened to the commit and where its work is; with it every section is either one
that takes or gives back the masks of a single commit or one that leaves the masks alone.
-/

namespace DisplayDrivers.Atomic

open DisplayDrivers.Lib
open DisplayDrivers.Lib.Run
open DisplayDrivers.Lib.Exclusion

structure Claims (s : Priv) : Prop where
  crtcs : Exclusive s.pendingCrtcs (held (fun c => decide c.Busy) Commit.crtcMask s.commits)
  planes : Exclusive s.pendingPlanes (held (fun c => decide c.Busy) Commit.planeMask s.commits)

def Stage.before : Stage → List Event
  | .hardware => [.started]
  | .ending => [.started, .completed]
  | .freeing => [.started, .completed, .released]

def Commit.completed (c : Commit) : List Event :=
  if c.nonblock then lifetime else [.started, .completed, .released]

inductive Worked (w : Worker) (i : ℕ) (c : Commit) : Prop
  | queued (pending : w.queue.Pending i) (other : w.current.map Prod.fst ≠ some i)
      (history : c.history = Stage.hardware.before)
  | running (stage : Stage) (current : w.current = some (i, stage)) (taken : ¬ w.queue.Pending i)
      (history : c.history = stage.before)
  | finished (absent : ¬ w.Has i) (history : c.history = c.completed)

inductive Tracked (workers : ℕ → Worker) (i : ℕ) (c : Commit) : Prop
  | waiting (pc : c.caller = .waiting) (own : c.worker = none) (history : c.history = [])
  | dispatching (pc : c.caller = .dispatching) (own : c.worker = none)
      (history : c.history = Stage.hardware.before)
  | completing (stage : Stage) (pc : c.caller = .completing c.nonblock stage)
      (own : c.worker = none) (history : c.history = stage.before)
  | flushing (j : ℕ) (pc : c.caller = .flushing) (blocks : c.nonblock = false)
      (own : c.worker = some j) (work : Worked (workers j) i c)
  | freeing (pc : c.caller = .freeing) (absent : ∀ j, ¬ (workers j).Has i)
      (history : c.history = [.started, .completed, .released])
  | handed (ret : Int) (j : ℕ) (pc : c.caller = .returned ret) (detached : c.nonblock = true)
      (own : c.worker = some j) (work : Worked (workers j) i c)
  | ended (ret : Int) (pc : c.caller = .returned ret) (absent : ∀ j, ¬ (workers j).Has i)
      (history : c.history = lifetime ∨ c.history = [.freed])

structure Sound (s : Priv) : Prop where
  claims : Claims s
  own : ∀ j i, (s.workers j).Has i → ∃ c, s.commits[i]? = some c ∧ c.worker = some j
  tracked : ∀ i c, s.commits[i]? = some c → Tracked s.workers i c

variable {threads : List DispThread} {s s' : Priv} {w w' : Worker} {i j k : ℕ} {c c' : Commit}

/-! ## What a section leaves alone -/

def Worker.Agrees (w w' : Worker) (i : ℕ) : Prop :=
  (w'.queue.Pending i ↔ w.queue.Pending i) ∧
    ∀ stage, w'.current = some (i, stage) ↔ w.current = some (i, stage)

theorem Worker.Agrees.refl (w : Worker) (i : ℕ) : w.Agrees w i := ⟨Iff.rfl, fun _ => Iff.rfl⟩

theorem current_map_iff : w.current.map Prod.fst = some i ↔ ∃ stage, w.current = some
    (i, stage) := by
  rw [Option.map_eq_some_iff]
  constructor
  · intro ⟨⟨_, stage⟩, current, same⟩
    exact ⟨stage, same ▸ current⟩
  · intro ⟨stage, current⟩
    exact ⟨(i, stage), current, rfl⟩

theorem Worker.Agrees.current_iff (agrees : w.Agrees w' i) :
    w'.current.map Prod.fst = some i ↔ w.current.map Prod.fst = some i := by
  rw [current_map_iff, current_map_iff]
  exact exists_congr agrees.2

theorem Worker.Agrees.has_iff (agrees : w.Agrees w' i) : w'.Has i ↔ w.Has i :=
  or_congr agrees.1 agrees.current_iff

theorem Worked.agrees (work : Worked w i c) (agrees : w.Agrees w' i) : Worked w' i c := by
  cases work with
  | queued pending other history =>
    exact .queued (agrees.1.mpr pending)
      (fun running => other (agrees.current_iff.mp running)) history
  | running stage current taken history =>
    exact .running stage ((agrees.2 stage).mpr current) (fun p => taken (agrees.1.mp p)) history
  | finished absent history => exact .finished (fun has => absent (agrees.has_iff.mp has)) history

theorem Tracked.agrees {workers workers' : ℕ → Worker} (tracked : Tracked workers i c)
    (agrees : ∀ j, (workers j).Agrees (workers' j) i) : Tracked workers' i c := by
  cases tracked with
  | waiting pc own history => exact .waiting pc own history
  | dispatching pc own history => exact .dispatching pc own history
  | completing stage pc own history => exact .completing stage pc own history
  | flushing j pc blocks own work => exact .flushing j pc blocks own (work.agrees (agrees j))
  | freeing pc absent history =>
    exact .freeing pc (fun j has => absent j ((agrees j).has_iff.mp has)) history
  | handed ret j pc detached own work =>
    exact .handed ret j pc detached own (work.agrees (agrees j))
  | ended ret pc absent history =>
    exact .ended ret pc (fun j has => absent j ((agrees j).has_iff.mp has)) history

theorem Sound.update (sound : Sound s) (listed : s.commits[i]? = some c)
    (commits : s'.commits = s.commits.set i c') (claims : Claims s')
    (others : ∀ j k, k ≠ i → (s.workers j).Agrees (s'.workers j) k)
    (own : ∀ j, (s'.workers j).Has i → c'.worker = some j)
    (tracked : Tracked s'.workers i c') : Sound s' where
  claims := claims
  own j k has := by
    have inside : i < s.commits.length := (List.getElem?_eq_some_iff.mp listed).1
    by_cases same : k = i
    · subst same
      exact ⟨c', by rw [commits, List.getElem?_set_self inside], own j has⟩
    · obtain ⟨other, member, its⟩ := sound.own j k ((others j k same).has_iff.mp has)
      exact ⟨other, by rw [commits, List.getElem?_set_ne (Ne.symm same), member], its⟩
  tracked k other member := by
    have inside : i < s.commits.length := (List.getElem?_eq_some_iff.mp listed).1
    rw [commits] at member
    by_cases same : k = i
    · subst same
      rw [List.getElem?_set_self inside] at member
      exact Option.some.inj member ▸ tracked
    · rw [List.getElem?_set_ne (Ne.symm same)] at member
      exact (sound.tracked k other member).agrees fun j => others j k same

theorem Sound.absent (sound : Sound s) (listed : s.commits[i]? = some c) (none : c.worker = none) :
    ∀ j, ¬ (s.workers j).Has i := by
  intro j has
  obtain ⟨other, member, its⟩ := sound.own j i has
  obtain rfl := Option.some.inj (listed.symm.trans member)
  exact nomatch none.symm.trans its

/-! ## The masks -/

structure Commit.Fixed (c c' : Commit) : Prop where
  crtcMask : c'.crtcMask = c.crtcMask
  planeMask : c'.planeMask = c.planeMask
  nonblock : c'.nonblock = c.nonblock

theorem Claims.keep (claims : Claims s) (listed : s.commits[i]? = some c) (fixed : c.Fixed c')
    (same : c'.Busy ↔ c.Busy) : Claims (s.put i c') :=
  have busy : decide c'.Busy = decide c.Busy := decide_eq_decide.mpr same
  ⟨claims.crtcs.keep listed busy fixed.crtcMask, claims.planes.keep listed busy fixed.planeMask⟩

theorem Claims.take {marked : Priv} (claims : Claims s) (listed : s.commits[i]? = some c)
    (starts : startAtomic s c.crtcMask c.planeMask = some marked) (fixed : c.Fixed c')
    (idle : ¬ c.Busy) (busy : c'.Busy) : Claims (marked.put i c') := by
  obtain ⟨⟨freeCrtcs, freePlanes⟩, marksCrtcs, marksPlanes, commits, -⟩ := startAtomic_some starts
  rw [← fixed.crtcMask] at freeCrtcs marksCrtcs
  rw [← fixed.planeMask] at freePlanes marksPlanes
  have before : decide c.Busy = false := decide_eq_false idle
  have after : decide c'.Busy = true := decide_eq_true busy
  constructor
  · rw [put_pendingCrtcs, put_commits, marksCrtcs, commits]
    exact claims.crtcs.take listed before after freeCrtcs
  · rw [put_pendingPlanes, put_commits, marksPlanes, commits]
    exact claims.planes.take listed before after freePlanes

theorem Claims.release (claims : Claims s) (listed : s.commits[i]? = some c) (busy : c.Busy)
    (idle : ¬ c'.Busy) : Claims ((endAtomic s c.crtcMask c.planeMask).put i c') :=
  have before : decide c.Busy = true := decide_eq_true busy
  have after : decide c'.Busy = false := decide_eq_false idle
  ⟨claims.crtcs.release listed before after, claims.planes.release listed before after⟩

theorem not_busy_of_nil (history : c.history = []) : ¬ c.Busy := by
  simp [Commit.Busy, history]

variable {stage : Stage}

theorem busy_before (history : c.history = stage.before) : c.Busy ↔ stage ≠ .freeing := by
  unfold Commit.Busy
  rw [history]
  cases stage with
  | hardware => decide
  | ending => decide
  | freeing => decide

theorem not_busy_completed (ended : c'.history = c.completed) : ¬ c'.Busy := by
  unfold Commit.Busy Commit.completed at *
  rw [ended]
  split
  · decide
  · decide

theorem completeCommit_history (history : c.history = stage.before) :
    (completeCommit s c stage).2.history = stage.next.elim c.completed Stage.before := by
  cases stage with
  | hardware => simp [completeCommit, Commit.note, history, Stage.before, Stage.next]
  | ending => simp [completeCommit, Commit.note, history, Stage.before, Stage.next]
  | freeing =>
    cases detached : c.nonblock with
    | false => simp [completeCommit, Commit.completed, detached, history, Stage.before, Stage.next]
    | true =>
      simp [completeCommit, Commit.completed, detached, Commit.note, history, Stage.before,
        Stage.next, lifetime]

theorem completeCommit_fixed (stage : Stage) : c.Fixed (completeCommit s c stage).2 := by
  rw [completeCommit_frame]
  exact ⟨rfl, rfl, rfl⟩

theorem Claims.complete (claims : Claims s) (listed : s.commits[i]? = some c)
    (history : c.history = stage.before) (fixed : c.Fixed c')
    (next : c'.history = stage.next.elim c.completed Stage.before) :
    Claims ((completeCommit s c stage).1.put i c') := by
  have busy := busy_before history
  cases stage with
  | hardware =>
    have still : c'.Busy ↔ Stage.ending ≠ .freeing := busy_before next
    exact claims.keep listed fixed (still.trans (by simp [busy]))
  | ending =>
    have idle : c'.Busy ↔ Stage.freeing ≠ .freeing := busy_before next
    exact claims.release listed (busy.mpr nofun) (by simp [idle])
  | freeing =>
    exact claims.keep listed fixed (iff_of_false (not_busy_completed next) (by simp [busy]))

/-! ## The sections of a caller -/

theorem Sound.keep (sound : Sound s) (listed : s.commits[i]? = some c) (fixed : c.Fixed c')
    (same : c'.Busy ↔ c.Busy) (worker : c'.worker = c.worker)
    (tracked : Tracked s.workers i c') : Sound (s.put i c') := by
  refine sound.update listed rfl (sound.claims.keep listed fixed same)
    (fun j k _ => .refl _ k) ?_ tracked
  intro j has
  obtain ⟨other, member, its⟩ := sound.own j i has
  obtain rfl := Option.some.inj (listed.symm.trans member)
  exact worker.trans its

theorem Sound.start {marked : Priv} (sound : Sound s) (listed : s.commits[i]? = some c)
    (own : c.worker = none) (history : c.history = [])
    (starts : startAtomic s c.crtcMask c.planeMask = some marked) (fixed : c.Fixed c')
    (own' : c'.worker = none) (pc : c'.caller = .dispatching)
    (started : c'.history = Stage.hardware.before) : Sound (marked.put i c') := by
  obtain ⟨-, -, -, commits, workers⟩ := startAtomic_some starts
  refine sound.update listed ?_ ?_ ?_ ?_ (.dispatching pc own' started)
  · rw [put_commits, commits]
  · exact sound.claims.take listed starts fixed (not_busy_of_nil history)
      ((busy_before started).mpr nofun)
  · intro j k _
    rw [put_workers, workers]
    exact .refl _ k
  · intro j has
    rw [put_workers, workers] at has
    exact absurd has (sound.absent listed own j)

theorem Sound.interrupt (sound : Sound s) (listed : s.commits[i]? = some c)
    (own : c.worker = none) (history : c.history = []) (ret : Int) :
    Sound (s.put i { c.note .freed with caller := .returned ret }) := by
  have freed : c.history ++ [.freed] = [.freed] := by rw [history, List.nil_append]
  refine sound.keep listed ⟨rfl, rfl, rfl⟩ ?_ rfl
    (.ended ret rfl (sound.absent listed own) (.inr freed))
  refine iff_of_false ?_ (not_busy_of_nil history)
  simp [Commit.Busy, Commit.note, history]

def Worker.queued (w : Worker) (i : ℕ) : Worker := { w with queue := w.queue.queue i }

theorem Worker.agrees_queued (w : Worker) (differ : k ≠ i) : w.Agrees (w.queued i) k := by
  refine ⟨?_, fun _ => Iff.rfl⟩
  rw [Worker.queued, WorkQueue.pending_queue]
  exact or_iff_right differ

theorem Sound.queue (sound : Sound s) (listed : s.commits[i]? = some c) (own : c.worker = none)
    (history : c.history = Stage.hardware.before) (j : ℕ) (fixed : c.Fixed c')
    (own' : c'.worker = some j) (same : c'.history = c.history)
    (pc : c'.caller = if c.nonblock then .returned 0 else .flushing) :
    Sound ((s.setWorker j ((s.workers j).queued i)).put i c') := by
  have absent := sound.absent listed own
  have claims : Claims (s.put i c') :=
    sound.claims.keep listed fixed (by rw [Commit.Busy, same]; rfl)
  refine sound.update listed rfl ⟨claims.crtcs, claims.planes⟩ ?_ ?_ ?_
  · intro l k differ
    rw [put_workers, setWorker_workers]
    by_cases its : l = j
    · subst its
      rw [Function.update_self]
      exact (s.workers l).agrees_queued differ
    · rw [Function.update_of_ne its]
      exact .refl _ k
  · intro l has
    rw [put_workers, setWorker_workers] at has
    by_cases its : l = j
    · exact its ▸ own'
    · rw [Function.update_of_ne its] at has
      exact absurd has (absent l)
  · have work : Worked (Function.update s.workers j ((s.workers j).queued i) j) i c' := by
      rw [Function.update_self]
      exact .queued (WorkQueue.pending_queue.mpr (.inl rfl))
        (fun running => absent j (.inr running)) (same.trans history)
    cases detached : c.nonblock with
    | false =>
      exact .flushing j (by simpa [detached] using pc) (fixed.nonblock.trans detached) own' work
    | true =>
      exact .handed 0 j (by simpa [detached] using pc) (fixed.nonblock.trans detached) own' work

theorem Sound.complete_self (sound : Sound s) (listed : s.commits[i]? = some c)
    (own : c.worker = none) (history : c.history = stage.before) (fixed : c.Fixed c')
    (own' : c'.worker = none) (next : c'.history = stage.next.elim c.completed Stage.before)
    (pc : c'.caller = stage.next.elim (if c.nonblock then .returned 0 else .freeing)
      (Caller.completing c.nonblock)) :
    Sound ((completeCommit s c stage).1.put i c') := by
  have absent := sound.absent listed own
  have commits : ((completeCommit s c stage).1.put i c').commits = s.commits.set i c' := by
    rw [put_commits, completeCommit_commits]
  refine sound.update listed commits (sound.claims.complete listed history fixed next) ?_ ?_ ?_
  · intro j k _
    rw [put_workers, completeCommit_workers]
    exact .refl _ k
  · intro j has
    rw [put_workers, completeCommit_workers] at has
    exact absurd has (absent j)
  · rw [put_workers, completeCommit_workers]
    cases later : stage.next with
    | some stage' =>
      rw [later] at next pc
      exact .completing stage' (fixed.nonblock ▸ pc) own' next
    | none =>
      rw [later] at next pc
      cases detached : c.nonblock with
      | false =>
        exact .freeing (by simpa [detached] using pc) absent
          (by simpa [Commit.completed, detached] using next)
      | true =>
        exact .ended 0 (by simpa [detached] using pc) absent
          (.inl (by simpa [Commit.completed, detached] using next))

theorem Sound.flush (sound : Sound s) (listed : s.commits[i]? = some c)
    (blocks : c.nonblock = false)
    (own : c.worker = some j) (work : Worked (s.workers j) i c) (absent : ¬ (s.workers j).Has i) :
    Sound (s.put i { c with caller := .freeing }) := by
  cases work with
  | queued pending other history => exact absurd (.inl pending) absent
  | running stage current taken history =>
    exact absurd (.inr (current_map_iff.mpr ⟨stage, current⟩)) absent
  | finished _ history =>
    have released : c.history = [.started, .completed, .released] := by
      simpa [Commit.completed, blocks] using history
    refine sound.keep listed ⟨rfl, rfl, rfl⟩ Iff.rfl rfl (.freeing rfl ?_ released)
    intro l has
    obtain ⟨other, member, its⟩ := sound.own l i has
    obtain rfl := Option.some.inj (listed.symm.trans member)
    obtain rfl := Option.some.inj (own.symm.trans its)
    exact absent has

theorem Sound.free (sound : Sound s) (listed : s.commits[i]? = some c)
    (absent : ∀ j, ¬ (s.workers j).Has i)
    (history : c.history = [.started, .completed, .released]) :
    Sound (s.put i { c.note .freed with caller := .returned 0 }) := by
  have freed : c.history ++ [.freed] = lifetime := by rw [history]; rfl
  refine sound.keep listed ⟨rfl, rfl, rfl⟩ ?_ rfl (.ended 0 rfl absent (.inl freed))
  simp [Commit.Busy, Commit.note, history]

theorem Sound.caller_step (sound : Sound s) (listed : s.commits[i]? = some c) (signal : Bool) :
    Sound (callerStep threads s i c signal) := by
  cases sound.tracked i c listed with
  | waiting pc own history =>
    simp only [callerStep, pc]
    cases starts : startAtomic s c.crtcMask c.planeMask with
    | some marked =>
      exact sound.start listed own history starts ⟨rfl, rfl, rfl⟩ own rfl
        (by simp [Commit.note, history, Stage.before])
    | none =>
      cases signal with
      | true => exact sound.interrupt listed own history _
      | false => exact sound
  | dispatching pc own history =>
    simp only [callerStep, pc]
    cases dispatchTarget threads c.state.crtcs with
    | some j => exact sound.queue listed own history j ⟨rfl, rfl, rfl⟩ rfl rfl rfl
    | none =>
      exact sound.keep listed ⟨rfl, rfl, rfl⟩ Iff.rfl rfl (.completing .hardware rfl own history)
  | completing stage pc own history =>
    simp only [callerStep, pc]
    have fixed := completeCommit_fixed (s := s) (c := c) stage
    have next := completeCommit_history (s := s) history
    refine sound.complete_self listed own history ⟨fixed.crtcMask, fixed.planeMask, fixed.nonblock⟩
      ?_ next ?_
    · rw [completeCommit_frame]
      exact own
    · cases stage with
      | hardware => rfl
      | ending => rfl
      | freeing => rfl
  | flushing j pc blocks own work =>
    simp only [callerStep, pc]
    split
    · exact sound
    next absent =>
      exact sound.flush listed blocks own work fun has => absent ⟨j, own, has⟩
  | freeing pc absent history =>
    simp only [callerStep, pc]
    exact sound.free listed absent history
  | handed ret j pc detached own work =>
    simp only [callerStep, pc]
    exact sound
  | ended ret pc absent history =>
    simp only [callerStep, pc]
    exact sound

/-! ## The sections of a display thread -/

theorem Worker.agrees_current {current : Option (ℕ × Stage)}
    (runs : w.current = some (i, stage)) (same : ∀ work ∈ current, work.1 = i) (differ : k ≠ i) :
    w.Agrees { w with current } k := by
  refine ⟨Iff.rfl, fun stage' => ?_⟩
  constructor
  · intro its
    exact absurd (same _ its) differ
  · intro its
    rw [runs] at its
    cases its
    exact absurd rfl differ

theorem Sound.on_worker (sound : Sound s) (listed : s.commits[i]? = some c)
    (has : (s.workers j).Has i) : c.worker = some j ∧ Worked (s.workers j) i c ∧
      ∀ workers c', c.Fixed c' → c'.caller = c.caller → c'.worker = c.worker →
        Worked (workers j) i c' → Tracked workers i c' := by
  obtain ⟨other, member, its⟩ := sound.own j i has
  obtain rfl := Option.some.inj (listed.symm.trans member)
  cases sound.tracked i c listed with
  | waiting pc own history => exact absurd has (sound.absent listed own j)
  | dispatching pc own history => exact absurd has (sound.absent listed own j)
  | completing stage pc own history => exact absurd has (sound.absent listed own j)
  | freeing pc absent history => exact absurd has (absent j)
  | ended ret pc absent history => exact absurd has (absent j)
  | flushing l pc blocks own work =>
    obtain rfl := Option.some.inj (own.symm.trans its)
    refine ⟨its, work, fun workers c' fixed pc' own' work' => ?_⟩
    exact .flushing l (pc'.trans pc) (fixed.nonblock.trans blocks) (own'.trans own) work'
  | handed ret l pc detached own work =>
    obtain rfl := Option.some.inj (own.symm.trans its)
    refine ⟨its, work, fun workers c' fixed pc' own' work' => ?_⟩
    exact .handed ret l (pc'.trans pc) (fixed.nonblock.trans detached) (own'.trans own) work'

theorem Sound.update_worker (sound : Sound s) (listed : s.commits[i]? = some c)
    (has : (s.workers j).Has i) (commits : s'.commits = s.commits.set i c')
    (workers : s'.workers = Function.update s.workers j w) (claims : Claims s')
    (fixed : c.Fixed c') (pc : c'.caller = c.caller) (own' : c'.worker = c.worker)
    (others : ∀ k, k ≠ i → (s.workers j).Agrees w k) (work : Worked w i c') : Sound s' := by
  obtain ⟨own, _, track⟩ := sound.on_worker listed has
  refine sound.update listed commits claims ?_ ?_ (track _ c' fixed pc own' ?_)
  · intro l k differ
    rw [workers]
    by_cases its : l = j
    · subst its
      rw [Function.update_self]
      exact others k differ
    · rw [Function.update_of_ne its]
      exact .refl _ k
  · intro l has'
    rw [workers] at has'
    by_cases its : l = j
    · rw [its, own', own]
    · rw [Function.update_of_ne its] at has'
      obtain ⟨other, member, elsewhere⟩ := sound.own l i has'
      obtain rfl := Option.some.inj (listed.symm.trans member)
      exact own'.trans elsewhere
  · rw [workers, Function.update_self]
    exact work

theorem Sound.work (sound : Sound s) (listed : s.commits[i]? = some c)
    (runs : (s.workers j).current = some (i, stage)) :
    Sound (((completeCommit s c stage).1.put i (completeCommit s c stage).2).setWorker j
      { s.workers j with current := stage.next.map fun later => (i, later) }) := by
  have current : (s.workers j).current.map Prod.fst = some i := current_map_iff.mpr ⟨stage, runs⟩
  obtain ⟨-, work, -⟩ := sound.on_worker listed (.inr current)
  have fixed := completeCommit_fixed (s := s) (c := c) stage
  cases work with
  | queued pending other history => exact absurd current other
  | finished absent history => exact absurd (.inr current) absent
  | running stage' runs' taken history =>
    obtain rfl : stage' = stage := by
      rw [runs] at runs'
      cases runs'
      rfl
    have next := completeCommit_history (s := s) history
    have claims := sound.claims.complete listed history fixed next
    have commits : (((completeCommit s c stage').1.put i (completeCommit s c stage').2).setWorker j
        { s.workers j with current := stage'.next.map fun later => (i, later) }).commits =
          s.commits.set i (completeCommit s c stage').2 := by
      rw [setWorker_commits, put_commits, completeCommit_commits]
    refine sound.update_worker listed (.inr current) commits
      (congrArg (Function.update · j _) (completeCommit_workers s c stage'))
      ⟨claims.crtcs, claims.planes⟩ fixed ?_ ?_
      (fun k differ => Worker.agrees_current runs ?_ differ) ?_
    · rw [completeCommit_frame]
    · rw [completeCommit_frame]
    · intro later its
      obtain ⟨_, -, rfl⟩ := Option.map_eq_some_iff.mp its
      rfl
    · cases later : stage'.next with
      | some stage =>
        rw [later] at next
        exact .running stage rfl taken next
      | none =>
        rw [later] at next
        refine .finished ?_
          (next.trans (by simp only [Option.elim, Commit.completed, fixed.nonblock]))
        simpa [Worker.Has] using taken

theorem Sound.pick {rest : WorkQueue ℕ} (sound : Sound s) (idle : (s.workers j).current = none)
    (first : (s.workers j).queue.next = some (i, rest)) :
    Sound (s.setWorker j ⟨rest, some (i, .hardware)⟩) := by
  have pending : (s.workers j).queue.Pending i := WorkQueue.next_pending first
  have left := WorkQueue.pending_of_next first
  obtain ⟨c, listed, -⟩ := sound.own j i (.inl pending)
  obtain ⟨-, work, -⟩ := sound.on_worker listed (.inl pending)
  have same : s.commits.set i c = s.commits := by
    obtain ⟨inside, rfl⟩ := List.getElem?_eq_some_iff.mp listed
    exact List.set_getElem_self inside
  refine sound.update_worker listed (.inl pending) same.symm rfl
    ⟨sound.claims.crtcs, sound.claims.planes⟩ ⟨rfl, rfl, rfl⟩ rfl rfl ?_ ?_
  · intro k differ
    refine ⟨(left k).trans (and_iff_right differ), fun stage => ?_⟩
    rw [idle]
    exact iff_of_false (fun its => differ (Prod.ext_iff.mp (Option.some.inj its)).1.symm) nofun
  · have taken : ¬ rest.Pending i := fun again => ((left i).mp again).1 rfl
    cases work with
    | queued _ _ history => exact .running .hardware rfl taken history
    | running stage current taken' history => exact absurd pending taken'
    | finished absent history => exact absurd (.inl pending) absent

theorem Sound.worker_step (sound : Sound s) (j : ℕ) : Sound (workerStep s j) := by
  simp only [workerStep]
  split
  next i stage runs =>
    split
    next c listed => exact sound.work listed runs
    next => exact sound
  next idle =>
    split
    next i rest first => exact sound.pick idle first
    next => exact sound

/-! ## Runs -/

theorem Sound.initial : Sound .initial where
  claims := ⟨.empty, .empty⟩
  own j i has := by
    cases has with
    | inl pending => exact absurd pending (WorkQueue.not_pending_empty i)
    | inr current => exact nomatch current
  tracked i c listed := nomatch listed

theorem Sound.call (sound : Sound s) (waits : c.caller = .waiting) (own : c.worker = none)
    (history : c.history = []) : Sound { s with commits := s.commits ++ [c] } where
  claims :=
    have idle : decide c.Busy = false := decide_eq_false (not_busy_of_nil history)
    ⟨sound.claims.crtcs.join idle, sound.claims.planes.join idle⟩
  own j i has := by
    obtain ⟨other, member, its⟩ := sound.own j i has
    have inside : i < s.commits.length := (List.getElem?_eq_some_iff.mp member).1
    exact ⟨other, (List.getElem?_append_left inside).trans member, its⟩
  tracked i other member := by
    by_cases inside : i < s.commits.length
    · rw [List.getElem?_append_left inside] at member
      exact sound.tracked i other member
    · rw [List.getElem?_append_right (by omega)] at member
      obtain ⟨_, rfl⟩ := List.getElem?_eq_some_iff.mp member
      simpa using Tracked.waiting waits own history

theorem atomicCommit_ok {answers : Answers} {state : AtomicState} {nonblock : Bool}
    (allocates : atomicCommit answers state nonblock = .ok c) :
    c.caller = .waiting ∧ c.worker = none ∧ c.history = [] := by
  unfold atomicCommit at allocates
  split at allocates
  · cases allocates
  split at allocates
  · cases allocates
  split at allocates
  · cases allocates
  · cases allocates
    exact ⟨rfl, rfl, rfl⟩

theorem Sound.step (sound : Sound s) (input : Input) : Sound (step threads s input) := by
  cases input with
  | call answers state nonblock =>
    simp only [Atomic.step]
    cases allocates : atomicCommit answers state nonblock with
    | error _ => exact sound
    | ok c =>
      obtain ⟨waits, own, history⟩ := atomicCommit_ok allocates
      exact sound.call waits own history
  | caller i signal =>
    simp only [Atomic.step]
    cases listed : s.commits[i]? with
    | none => exact sound
    | some c => exact sound.caller_step listed signal
  | worker j => exact sound.worker_step j

/-- The claims of the busy commits are what is marked; a commit is started, completed, released
    and freed in this order, or freed without being started; and where nobody has anything to do,
    this has happened to all of them. -/
structure Correct (threads : List DispThread) (s : Priv) : Prop where
  crtcs : Exclusive s.pendingCrtcs (held (fun c => decide c.Busy) Commit.crtcMask s.commits)
  planes : Exclusive s.pendingPlanes (held (fun c => decide c.Busy) Commit.planeMask s.commits)
  order : ∀ c ∈ s.commits, c.history <+: lifetime ∨ c.history = [.freed]
  settled : Quiet threads s → ∀ c ∈ s.commits, c.history = lifetime ∨ c.history = [.freed]

theorem before_prefix (stage : Stage) : stage.before <+: lifetime := by
  cases stage with
  | hardware => exact ⟨[.completed, .released, .freed], rfl⟩
  | ending => exact ⟨[.released, .freed], rfl⟩
  | freeing => exact ⟨[.freed], rfl⟩

theorem completed_prefix (c : Commit) : c.completed <+: lifetime := by
  unfold Commit.completed
  split
  · exact List.prefix_rfl
  · exact before_prefix .freeing

theorem Worked.order (work : Worked w i c) : c.history <+: lifetime := by
  cases work with
  | queued _ _ history => exact history ▸ before_prefix .hardware
  | running stage _ _ history => exact history ▸ before_prefix stage
  | finished _ history => exact history ▸ completed_prefix c

theorem Tracked.order {workers : ℕ → Worker} (tracked : Tracked workers i c) :
    c.history <+: lifetime ∨ c.history = [.freed] := by
  cases tracked with
  | waiting _ _ history => exact .inl (history ▸ List.nil_prefix)
  | dispatching _ _ history => exact .inl (history ▸ before_prefix .hardware)
  | completing stage _ _ history => exact .inl (history ▸ before_prefix stage)
  | flushing _ _ _ _ work => exact .inl work.order
  | freeing _ _ history => exact .inl (history ▸ before_prefix .freeing)
  | handed _ _ _ _ _ work => exact .inl work.order
  | ended _ _ _ history =>
    cases history with
    | inl full => exact .inl (full ▸ List.prefix_rfl)
    | inr freed => exact .inr freed

theorem Sound.idle (sound : Sound s) (quiet : Quiet threads s) (j i : ℕ) :
    ¬ (s.workers j).Has i := by
  have same : workerStep s j = s := quiet.2 j
  have still := congrArg (fun s => (s.workers j).current) same
  simp only [workerStep] at still
  cases runs : (s.workers j).current with
  | some work =>
    obtain ⟨l, stage⟩ := work
    obtain ⟨c, listed, -⟩ := sound.own j l (.inr (current_map_iff.mpr ⟨stage, runs⟩))
    simp only [runs, listed, setWorker_workers, Function.update_self] at still
    cases stage with
    | hardware => exact nomatch still
    | ending => exact nomatch still
    | freeing => exact nomatch still
  | none =>
    cases first : (s.workers j).queue.next with
    | some next =>
      simp only [runs, first, setWorker_workers, Function.update_self] at still
      exact nomatch still
    | none =>
      intro has
      cases has with
      | inl pending => exact WorkQueue.next_none_iff.mp first i pending
      | inr current => exact nomatch (congrArg (Option.map Prod.fst) runs).symm.trans current

theorem ne_of_put (listed : s.commits[i]? = some c) (commits : s'.commits = s.commits.set i c')
    (moves : c'.caller ≠ c.caller) : s' ≠ s := by
  rintro rfl
  obtain ⟨inside, -⟩ := List.getElem?_eq_some_iff.mp listed
  have here : s'.commits[i]? = some c' := by
    rw [commits, List.getElem?_set_self inside]
  exact moves (congrArg Commit.caller (Option.some.inj (here.symm.trans listed)))

theorem Sound.rests (sound : Sound s) (quiet : Quiet threads s) (listed : s.commits[i]? = some c) :
    (c.history = [] ∧ startAtomic s c.crtcMask c.planeMask = none) ∨
      (c.history = lifetime ∨ c.history = [.freed]) := by
  have same : callerStep threads s i c false = s := by
    have here := quiet.1 i
    simp only [Atomic.step, listed] at here
    exact here
  have idle := fun j => sound.idle quiet j i
  cases sound.tracked i c listed with
  | waiting pc own history =>
    cases starts : startAtomic s c.crtcMask c.planeMask with
    | none => exact .inl ⟨history, rfl⟩
    | some marked =>
      simp only [callerStep, pc, starts] at same
      obtain ⟨-, -, -, commits, -⟩ := startAtomic_some starts
      refine absurd same (ne_of_put listed (by rw [put_commits, commits]) ?_)
      exact fun its => nomatch its.trans pc
  | dispatching pc own history =>
    simp only [callerStep, pc] at same
    split at same
    · refine absurd same (ne_of_put listed rfl fun its => ?_)
      rw [pc] at its
      cases detached : c.nonblock with
      | false => simp [detached] at its
      | true => simp [detached] at its
    · exact absurd same (ne_of_put listed rfl fun its => nomatch its.trans pc)
  | completing stage pc own history =>
    simp only [callerStep, pc] at same
    refine absurd same (ne_of_put listed
      (by rw [put_commits, completeCommit_commits]) fun its => ?_)
    rw [pc] at its
    cases stage with
    | hardware => exact nomatch its
    | ending => exact nomatch its
    | freeing =>
      cases detached : c.nonblock with
      | false => simp [detached, Stage.next] at its
      | true => simp [detached, Stage.next] at its
  | flushing j pc blocks own work =>
    simp only [callerStep, pc, own, Option.mem_def, Option.some.injEq] at same
    rw [if_neg fun ⟨l, _, has⟩ => idle l has] at same
    exact absurd same (ne_of_put listed rfl fun its => nomatch its.trans pc)
  | freeing pc absent history =>
    simp only [callerStep, pc] at same
    exact absurd same (ne_of_put listed rfl fun its => nomatch its.trans pc)
  | handed ret j pc detached own work =>
    cases work with
    | queued pending _ _ => exact absurd (.inl pending) (idle j)
    | running stage current _ _ =>
      exact absurd (.inr (current_map_iff.mpr ⟨stage, current⟩)) (idle j)
    | finished _ history => exact .inr (.inl (by simpa [Commit.completed, detached] using history))
  | ended ret pc absent history => exact .inr history

theorem Sound.settled (sound : Sound s) (quiet : Quiet threads s) :
    ∀ c ∈ s.commits, c.history = lifetime ∨ c.history = [.freed] := by
  have unmarked : ∀ c ∈ s.commits, decide c.Busy = false := by
    intro c member
    obtain ⟨i, listed⟩ := List.mem_iff_getElem?.mp member
    rw [decide_eq_false_iff_not]
    cases sound.rests quiet listed with
    | inl waits => exact not_busy_of_nil waits.1
    | inr done =>
      cases done with
      | inl full => simp [Commit.Busy, full, lifetime]
      | inr freed => simp [Commit.Busy, freed]
  have crtcs : s.pendingCrtcs = 0#32 := sound.claims.crtcs.pending_eq_zero unmarked
  have planes : s.pendingPlanes = 0#32 := sound.claims.planes.pending_eq_zero unmarked
  intro c member
  obtain ⟨i, listed⟩ := List.mem_iff_getElem?.mp member
  cases sound.rests quiet listed with
  | inl waits => simp [startAtomic, crtcs, planes] at waits
  | inr done => exact done

theorem Sound.correct (sound : Sound s) : Correct threads s where
  crtcs := sound.claims.crtcs
  planes := sound.claims.planes
  order c member := by
    obtain ⟨i, listed⟩ := List.mem_iff_getElem?.mp member
    exact (sound.tracked i c listed).order
  settled := sound.settled

/-- Whatever calls are made and however they interleave with the display threads. -/
theorem commits_exclusive (threads : List DispThread) (inputs : List Input) :
    Throughout (step threads) (Correct threads) .initial inputs :=
  throughout_of_invariant Sound (fun _ input sound => sound.step input)
    (fun _ sound => sound.correct)
    .initial inputs

end DisplayDrivers.Atomic
