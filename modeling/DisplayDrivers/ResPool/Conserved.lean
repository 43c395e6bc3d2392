import DisplayDrivers.ResPool.Interleaved

/-! # References are conserved

What one step of a CRTC does is said once (`Fits`): its own references change as the counts do, a
count that rises from zero or falls to it leaves a callback to be called, and a block that is new to
the CRTC was found by its type.
-/

namespace DisplayDrivers.ResPool.Interleaved

open DisplayDrivers.Lib.Run
open DisplayDrivers.Lib.Shares
open DisplayDrivers.Lib.FirstMatch

/-! ## One CRTC -/

def Typed (entries : List Res) : Prop :=
  ∀ res ∈ entries, ∀ type, res.type = .hw type → res.ops = .hwBlk

structure Copying (pools : List Pool) (new : Pool) (rest : List Res) : Prop where
  key : new.key ∉ pools.map Pool.key
  copied : Typed new.resList
  typed : Typed rest
  held : ∀ res ∈ rest, ∀ blk, res.block = some blk → blk ∈ pools.flatMap Pool.blocks

/-- What is known where the CRTC is: the pool of an operation is one of its pools, a block that was
    found unused is not one that it has, and one that it takes over or copies is; only the first is
    started. -/
def Pc.Fits (pools : List Pool) : Pc → Prop
  | .idle => True
  | .search get => get.pool ∈ pools
  | .increment blk (.add get) => get.pool ∈ pools ∧ blk ∉ pools.flatMap Pool.blocks
  | .increment blk (.takeOver get) => get.pool ∈ pools ∧ blk ∈ pools.flatMap Pool.blocks
  | .increment blk (.copy new res rest) =>
    res.ops = .hwBlk ∧ res.val = blk ∧ Copying pools new (res :: rest)
  | .start _ after => ∃ get, after = .add get ∧ get.pool ∈ pools
  | .add get _ => get.pool ∈ pools
  | .steal get => get.pool ∈ pools
  | .copy new rest => Copying pools new rest
  | .reclaim _ => True
  | .drop _ reason => ∀ after, reason = .failed after → ∃ get, after = .add get ∧ get.pool ∈ pools
  | .stop _ reason => ∀ after, reason = .failed after → ∃ get, after = .add get ∧ get.pool ∈ pools

structure Crtc.Sound (crtc : Crtc) : Prop where
  keys : (crtc.pools.map Pool.key).Nodup
  typed : ∀ pool ∈ crtc.pools, Typed pool.resList
  pc : crtc.pc.Fits crtc.pools

structure Fits (crtc : Crtc) (refs : ℕ → ℕ) (next : Crtc) (refs' : ℕ → ℕ)
    (callback : Option Callback) :
    Prop where
  sound : next.Sound
  counted : ∀ blk, refs' blk + crtc.held blk = refs blk + next.held blk
  takes : ∀ blk, 0 < next.held blk → 0 < crtc.held blk ∨ ∃ get, crtc.pc = .increment blk (.add get)
  started : ∀ blk, (if refs blk = 0 ∧ refs' blk ≠ 0 then 1 else 0) + crtc.starting blk =
    (if callback = some (.start blk) then 1 else 0) + next.starting blk
  stopped : ∀ blk, (if refs blk ≠ 0 ∧ refs' blk = 0 then 1 else 0) + crtc.stopping blk =
    (if callback = some (.stop blk) then 1 else 0) + next.stopping blk

variable {pools : List Pool} {pool next : Pool} {refs : ℕ → ℕ} {blks : HwBlks} {blk : ℕ}

variable {entries : List Res}

theorem typed_sublist {all : List Res} (typed : Typed all) (sub : ∀ res ∈ entries, res ∈ all) :
    Typed entries := fun res member => typed res (sub res member)

variable {res : Res}

theorem Typed.append (typed : Typed entries)
    (last : ∀ type, res.type = .hw type → res.ops = .hwBlk) : Typed (entries ++ [res]) := by
  intro other member
  cases List.mem_append.mp member with
  | inl before => exact typed other before
  | inr added =>
    rw [List.mem_singleton.mp added]
    exact last

variable {callback : Option Callback}

theorem Fits.still {crtc next : Crtc} (sound : next.Sound)
    (held : ∀ blk, next.held blk = crtc.held blk)
    (starting : ∀ blk, crtc.starting blk =
      (if callback = some (.start blk) then 1 else 0) + next.starting blk)
    (stopping : ∀ blk, crtc.stopping blk =
      (if callback = some (.stop blk) then 1 else 0) + next.stopping blk) :
    Fits crtc refs next refs callback := by
  refine ⟨sound,
    fun blk => by rw [held], fun blk has => .inl (held blk ▸ has), fun blk => ?_, fun blk => ?_⟩
  · rw [if_neg fun change => change.2 change.1, Nat.zero_add, starting]
  · rw [if_neg fun change => change.1 change.2, Nat.zero_add, stopping]

theorem Fits.quiet {crtc next : Crtc} (sound : next.Sound)
    (held : ∀ blk, next.held blk = crtc.held blk)
    (starting : ∀ blk, crtc.starting blk = next.starting blk)
    (stopping : ∀ blk, crtc.stopping blk = next.stopping blk) : Fits crtc refs next refs none := by
  refine .still sound held (fun blk => ?_) (fun blk => ?_)
  · rw [starting, if_neg (by simp), Nat.zero_add]
  · rw [stopping, if_neg (by simp), Nat.zero_add]

theorem held_eq (pools : List Pool) (pc : Pc) (blk : ℕ) :
    Crtc.held ⟨pools, pc⟩ blk = (pools.flatMap Pool.blocks).count blk + pc.blocks.count blk := rfl

theorem held_idle (pools : List Pool) (blk : ℕ) :
    Crtc.held ⟨pools, .idle⟩ blk = (pools.flatMap Pool.blocks).count blk := rfl

theorem starting_start (pools : List Pool) (blk : ℕ) (after : After) (b : ℕ) :
    Crtc.starting ⟨pools, .start blk after⟩ b = if b = blk then 1 else 0 := by
  rw [← if_congr eq_comm rfl rfl]
  rfl

theorem stopping_stop (pools : List Pool) (blk : ℕ) (reason : Reason) (b : ℕ) :
    Crtc.stopping ⟨pools, .stop blk reason⟩ b = if b = blk then 1 else 0 := by
  rw [← if_congr eq_comm rfl rfl]
  rfl

theorem count_cons (blk : ℕ) (rest : List ℕ) (b : ℕ) :
    (blk :: rest).count b = rest.count b + if b = blk then 1 else 0 := by
  rw [List.count_cons]
  simp only [beq_iff_eq, eq_comm (a := b)]

/-! ### After the increment -/

theorem starting_resume (pools : List Pool) (blk : ℕ) (after : After) (b : ℕ) :
    Crtc.starting ⟨pools, after.resume blk⟩ b = 0 ∧
    Crtc.stopping ⟨pools, after.resume blk⟩ b = 0 := by
  cases after with
  | add | takeOver | copy => exact ⟨rfl, rfl⟩

variable {rest : List Res} {new : Pool}

theorem Copying.resume (copying : Copying pools new (res :: rest)) (blk : ℕ) :
    ((After.copy new res rest).resume blk).Fits pools := by
  obtain ⟨here, later⟩ := List.forall_mem_cons.mp copying.typed
  exact ⟨copying.key, copying.copied.append here, later,
    fun entry member => copying.held entry (.tail res member)⟩

variable {after : After}

theorem resume_increment (fits : (Pc.increment blk after).Fits pools) :
    (after.resume blk).Fits pools ∧ ∀ b, (after.resume blk).blocks.count b =
      (Pc.increment blk after).blocks.count b + if b = blk then 1 else 0 := by
  cases after with
  | add get =>
    refine ⟨fits.1, fun b => ?_⟩
    exact count_cons blk [] b
  | takeOver get =>
    refine ⟨fits.1, fun b => ?_⟩
    exact count_cons blk [] b
  | copy new res rest =>
    obtain ⟨hwBlk, rfl, copying⟩ := fits
    refine ⟨copying.resume res.val, fun b => ?_⟩
    have block : res.duplicate.block = some res.val := by
      rw [Res.block, Res.duplicate, hwBlk]
    have blocks := blocks_append new res.duplicate
    rw [block, Option.toList_some] at blocks
    have counts := congrArg (List.count b) blocks
    rw [List.count_append, count_cons, List.count_nil, Nat.zero_add] at counts
    exact counts

theorem takes_increment (fits : (Pc.increment blk after).Fits pools) :
    0 < Crtc.held ⟨pools, .increment blk after⟩ blk ∨ ∃ get, after = .add get := by
  have of_member : blk ∈ pools.flatMap Pool.blocks →
    0 < Crtc.held ⟨pools, .increment blk after⟩ blk := by
    intro member
    have occurs := List.count_pos_iff.mpr member
    rw [held_eq]
    omega
  cases after with
  | add get => exact .inr ⟨get, rfl⟩
  | takeOver get => exact .inl (of_member fits.2)
  | copy new res rest =>
    obtain ⟨hwBlk, rfl, copying⟩ := fits
    exact .inl (of_member (copying.held res List.mem_cons_self _ (block_eq_some.mpr ⟨hwBlk, rfl⟩)))

theorem after_of_unused (fits : (Pc.increment blk after).Fits pools)
    (enough : Crtc.held ⟨pools, .increment blk after⟩ blk ≤ refs blk) (unused : refs blk = 0) :
    ∃ get, after = .add get ∧ get.pool ∈ pools := by
  cases takes_increment fits with
  | inl has => omega
  | inr found =>
    obtain ⟨get, rfl⟩ := found
    exact ⟨get, rfl, fits.1⟩

theorem rises_increment (refs : ℕ → ℕ) (blk b : ℕ) :
    (if refs b = 0 ∧ increment refs blk b ≠ 0 then 1 else 0) =
      if increment refs blk blk = 1 then if b = blk then 1 else 0 else 0 := by
  rw [increment_apply, increment_apply, if_pos rfl]
  by_cases here : b = blk
  · subst here
    simp
  · simp [here]

theorem falls_put (refs : ℕ → ℕ) (blk b : ℕ) :
    (if refs b ≠ 0 ∧ sdeHwBlkPut refs blk b = 0 then 1 else 0) =
      if refs blk = 1 then if b = blk then 1 else 0 else 0 := by
  rw [put_apply]
  by_cases here : b = blk
  · subst here
    simp only [if_true]
    exact if_congr (by omega) rfl rfl
  · rw [if_neg here, if_neg (by omega), ite_self]

variable {pc : Pc}

theorem fits_increment (sound : Crtc.Sound ⟨pools, .increment blk after⟩)
    (enough : ∀ b, Crtc.held ⟨pools, .increment blk after⟩ b ≤ refs b)
    (next : pc = if increment refs blk blk = 1 then .start blk after else after.resume blk) :
    Fits ⟨pools, .increment blk after⟩ refs ⟨pools, pc⟩ (increment refs blk) none := by
  obtain ⟨resumes, counts⟩ := resume_increment sound.pc
  have one_more : ∀ b, pc.blocks.count b =
      (Pc.increment blk after).blocks.count b + if b = blk then 1 else 0 := by
    intro b
    rw [next]
    split
    · exact count_cons blk after.blocks b
    · exact counts b
  have rises : ∀ b, (if refs b = 0 ∧ increment refs blk b ≠ 0 then 1 else 0) = Crtc.starting
    ⟨pools, pc⟩ b ∧
      Crtc.stopping ⟨pools, pc⟩ b = 0 := by
    intro b
    rw [next, rises_increment]
    split
    · exact ⟨(starting_start pools blk after b).symm, rfl⟩
    · obtain ⟨starting, stopping⟩ := starting_resume pools blk after b
      exact ⟨starting.symm, stopping⟩
  refine ⟨⟨sound.keys, sound.typed, ?_⟩, fun b => ?_, fun b has => ?_, fun b => ?_, fun b => ?_⟩
  · rw [next]
    split
    next unused =>
      rw [increment_apply, if_pos rfl] at unused
      exact after_of_unused sound.pc (enough blk) (by omega)
    next => exact resumes
  · rw [held_eq, held_eq, one_more, increment_apply]
    omega
  · by_cases here : b = blk
    · rw [here]
      refine (takes_increment sound.pc).imp_right fun ⟨get, found⟩ => ⟨get, ?_⟩
      rw [found]
    · rw [held_eq, one_more, if_neg here] at has
      exact .inl has
  · rw [(rises b).1, if_neg (by simp)]
    exact Nat.add_comm _ _
  · rw [(rises b).2, increment_apply, if_neg (by omega), if_neg (by simp)]
    rfl

/-! ### After the put -/

def Reason.Fits (pools : List Pool) (reason : Reason) : Prop :=
  ∀ after, reason = .failed after → ∃ get, after = .add get ∧ get.pool ∈ pools

variable {reason : Reason}

theorem Reason.Fits.proceed (fits : reason.Fits pools) (blk : ℕ) :
    (reason.proceed blk).Fits pools ∧ (reason.proceed blk).blocks = reason.blocks ∧
      ∀ b, Crtc.starting ⟨pools, reason.proceed blk⟩ b = 0 ∧
        Crtc.stopping ⟨pools, reason.proceed blk⟩ b = 0 := by
  cases reason with
  | failed after =>
    obtain ⟨get, rfl, member⟩ := fits after rfl
    exact ⟨member, rfl, fun _ => ⟨rfl, rfl⟩⟩
  | unadded => exact ⟨trivial, rfl, fun _ => ⟨rfl, rfl⟩⟩
  | reclaim rest => exact ⟨trivial, rfl, fun _ => ⟨rfl, rfl⟩⟩

theorem fits_drop (sound : Crtc.Sound ⟨pools, .drop blk reason⟩)
    (enough : ∀ b, Crtc.held ⟨pools, .drop blk reason⟩ b ≤ refs b)
    (next : pc = if refs blk = 1 then .stop blk reason else reason.proceed blk) :
    Fits ⟨pools, .drop blk reason⟩ refs ⟨pools, pc⟩ (sdeHwBlkPut refs blk) none := by
  have fits : reason.Fits pools := sound.pc
  obtain ⟨proceeds, blocks, calls⟩ := fits.proceed blk
  have used : 0 < refs blk := by
    have has := enough blk
    rw [held_eq, Pc.blocks, count_cons, if_pos rfl] at has
    omega
  have one_less : ∀ b, (Pc.drop blk reason).blocks.count b =
      pc.blocks.count b + if b = blk then 1 else 0 := by
    intro b
    rw [next]
    split
    · exact count_cons blk reason.blocks b
    · rw [blocks]
      exact count_cons blk reason.blocks b
  have falls : ∀ b, (if refs b ≠ 0 ∧ sdeHwBlkPut refs blk b = 0 then 1 else 0) =
      Crtc.stopping ⟨pools, pc⟩ b ∧ Crtc.starting ⟨pools, pc⟩ b = 0 := by
    intro b
    rw [next, falls_put]
    split
    · exact ⟨(stopping_stop pools blk reason b).symm, rfl⟩
    · exact ⟨(calls b).2.symm, (calls b).1⟩
  refine ⟨⟨sound.keys, sound.typed, ?_⟩, fun b => ?_, fun b has => ?_, fun b => ?_, fun b => ?_⟩
  · rw [next]
    split
    · exact sound.pc
    · exact proceeds
  · rw [held_eq, held_eq, one_less, put_apply]
    by_cases here : b = blk
    · rw [here, if_pos rfl]
      omega
    · rw [if_neg here]
      omega
  · rw [held_eq] at has
    rw [held_eq, one_less]
    exact .inl (by omega)
  · rw [(falls b).2, put_apply, if_neg (by omega), if_neg (by simp)]
    rfl
  · rw [(falls b).1, if_neg (by simp)]
    exact Nat.add_comm _ _

/-! ### The other steps -/

variable {get : Get}

theorem fits_search (sound : Crtc.Sound ⟨pools, .search get⟩)
    (enough : ∀ b, Crtc.held ⟨pools, .search get⟩ b ≤ refs b) (unused : refs blk = 0) :
    Fits ⟨pools, .search get⟩ refs ⟨pools, .increment blk (.add get)⟩ refs none := by
  have own := enough blk
  rw [unused, held_eq] at own
  have fresh : blk ∉ pools.flatMap Pool.blocks := by
    intro member
    have occurs := List.count_pos_iff.mpr member
    omega
  exact .quiet ⟨sound.keys, sound.typed, sound.pc, fresh⟩ (fun _ => rfl) (fun _ => rfl) fun _ => rfl

theorem fits_start (sound : Crtc.Sound ⟨pools, .start blk after⟩) (ok : Bool) :
    Fits ⟨pools, .start blk after⟩ refs
      ⟨pools, if ok then after.resume blk else .drop blk (.failed after)⟩ refs
        (some (.start blk)) := by
  obtain ⟨get, rfl, member⟩ := sound.pc
  have called : ∀ b, (if some (Callback.start blk) = some (.start b) then 1 else 0) =
      if b = blk then 1 else 0 := by
    intro b
    simp only [Option.some.injEq, Callback.start.injEq, eq_comm]
  cases ok with
  | true =>
    refine .still ⟨sound.keys, sound.typed, member⟩ (fun _ => rfl) (fun b => ?_) fun b => ?_
    · rw [called, starting_start]
      rfl
    · rw [if_neg (by simp)]
      rfl
  | false =>
    refine .still ⟨sound.keys, sound.typed, fun after failed => ⟨get, ?_, member⟩⟩ (fun _ => rfl)
      (fun b => ?_) fun b => ?_
    · exact (Reason.failed.inj failed).symm
    · rw [called, starting_start]
      rfl
    · rw [if_neg (by simp)]
      rfl

theorem fits_stop (sound : Crtc.Sound ⟨pools, .stop blk reason⟩) :
    Fits ⟨pools, .stop blk reason⟩ refs ⟨pools, reason.proceed blk⟩ refs (some (.stop blk)) := by
  have fits : reason.Fits pools := sound.pc
  obtain ⟨proceeds, blocks, calls⟩ := fits.proceed blk
  refine .still ⟨sound.keys, sound.typed, proceeds⟩ (fun b => ?_) (fun b => ?_) fun b => ?_
  · rw [held_eq, held_eq, blocks]
    rfl
  · rw [(calls b).1, if_neg (by simp)]
    rfl
  · rw [(calls b).2, stopping_stop]
    simp only [Option.some.injEq, Callback.stop.injEq, eq_comm]
    rfl

theorem fits_add (sound : Crtc.Sound ⟨pools, .add get blk⟩)
    {ok : Bool} (added : get.pool.addNoLock ok get.type get.tag blk .hwBlk = .ok next) :
    Fits ⟨pools, .add get blk⟩ refs ⟨setPool pools next, .idle⟩ refs none := by
  have member : get.pool ∈ pools := sound.pc
  obtain ⟨-, -, rfl⟩ := addNoLock_ok added
  have blocks := blocks_append get.pool ⟨get.type, get.tag, blk, .hwBlk, 1, false⟩
  refine .quiet ⟨?_, fun pool at_pool => ?_, trivial⟩ (fun b => ?_) (fun _ => rfl) fun _ => rfl
  · exact (keys_setPool pools _).symm ▸ sound.keys
  · obtain rfl | before := of_mem_setPool at_pool
    · exact Typed.append (sound.typed get.pool member) fun _ _ => rfl
    · exact sound.typed pool before
  · have counts := count_setPool ⟨get.pool.key, get.pool.resList ++
      [⟨get.type, get.tag, blk, .hwBlk, 1, false⟩]⟩ sound.keys member rfl b
    rw [blocks, List.count_append] at counts
    simp only [Res.block, Option.toList_some] at counts
    rw [held_idle, held_eq, Pc.blocks]
    omega

theorem fits_unadded (sound : Crtc.Sound ⟨pools, .add get blk⟩) :
    Fits ⟨pools, .add get blk⟩ refs ⟨pools, .drop blk .unadded⟩ refs none :=
  .quiet ⟨sound.keys, sound.typed, fun _ failed => (by cases failed)⟩ (fun _ => rfl) (fun _ => rfl)
    fun _ => rfl

theorem fits_steal (sound : Crtc.Sound ⟨pools, .steal get⟩)
    (stolen : stealFrom pools get.pool.key get.type = some res) :
    res.ops = .hwBlk ∧ Fits ⟨pools, .steal get⟩ refs ⟨pools, .increment res.val (.takeOver get)⟩
    refs none := by
  obtain ⟨⟨type, hw⟩, same, old, at_old, -, at_res⟩ := stealFrom_some stolen
  have hwBlk := sound.typed old at_old res at_res type (same.trans hw)
  have held : res.val ∈ pools.flatMap Pool.blocks :=
    List.mem_flatMap.mpr ⟨old, at_old, mem_blocks.mpr ⟨res, at_res, hwBlk, rfl⟩⟩
  exact ⟨hwBlk, .quiet ⟨sound.keys, sound.typed, sound.pc, held⟩ (fun _ => rfl)
    (fun _ => rfl) fun _ => rfl⟩

theorem fits_append (sound : Crtc.Sound ⟨pools, pc⟩)
    (fresh : new.key ∉ pools.map Pool.key) (typed : Typed new.resList)
    (held : ∀ b, pc.blocks.count b = new.blocks.count b)
    (starting : ∀ b, Crtc.starting ⟨pools, pc⟩ b = 0)
    (stopping : ∀ b, Crtc.stopping ⟨pools, pc⟩ b = 0) :
    Fits ⟨pools, pc⟩ refs ⟨pools ++ [new], .idle⟩ refs none := by
  refine .quiet ⟨nodup_keys_append new sound.keys fresh, fun pool member => ?_,
    trivial⟩ (fun b => ?_)
    starting stopping
  · cases List.mem_append.mp member with
    | inl before => exact sound.typed pool before
    | inr last =>
      rw [List.mem_singleton.mp last]
      exact typed
  · rw [held_idle, held_eq, List.flatMap_append, List.flatMap_singleton, List.count_append, held]

theorem fits_copied (sound : Crtc.Sound ⟨pools, .copy new []⟩) :
    Fits ⟨pools, .copy new []⟩ refs ⟨pools ++ [new], .idle⟩ refs none := by
  have copying : Copying pools new [] := sound.pc
  exact fits_append sound copying.key copying.copied (fun _ => rfl) (fun _ => rfl) fun _ => rfl

theorem fits_copy (sound : Crtc.Sound ⟨pools, .copy new (res :: rest)⟩) :
    (res.ops = .hwBlk → Fits ⟨pools, .copy new (res :: rest)⟩ refs
      ⟨pools, .increment res.val (.copy new res rest)⟩ refs none) ∧
    (res.ops = .other → Fits ⟨pools, .copy new (res :: rest)⟩ refs
      ⟨pools, (After.copy new res rest).resume res.val⟩ refs none) := by
  have copying : Copying pools new (res :: rest) := sound.pc
  constructor
  · intro hwBlk
    exact .quiet ⟨sound.keys, sound.typed, hwBlk, rfl, copying⟩ (fun _ => rfl)
      (fun _ => rfl) fun _ => rfl
  · intro other
    refine .quiet ⟨sound.keys, sound.typed, copying.resume res.val⟩ (fun b => ?_)
      (fun _ => rfl) fun _ => rfl
    have block : res.duplicate.block = none := block_eq_none.mpr other
    have blocks := blocks_append new res.duplicate
    rw [block, Option.toList_none, List.append_nil] at blocks
    have counts := congrArg (List.count b) blocks
    rw [held_eq, held_eq]
    exact congrArg ((pools.flatMap Pool.blocks).count b + ·) counts

theorem fits_reclaim (sound : Crtc.Sound ⟨pools, .reclaim (res :: rest)⟩) :
    (res.ops = .hwBlk → Fits ⟨pools, .reclaim (res :: rest)⟩ refs
      ⟨pools, .drop res.val (.reclaim rest)⟩ refs none) ∧
    (res.ops = .other → Fits ⟨pools, .reclaim (res :: rest)⟩ refs ⟨pools, .reclaim rest⟩
    refs none) := by
  constructor
  · intro hwBlk
    refine .quiet ⟨sound.keys, sound.typed, fun _ failed => (by cases failed)⟩ (fun b => ?_)
      (fun _ => rfl) fun _ => rfl
    have block : res.block = some res.val := block_eq_some.mpr ⟨hwBlk, rfl⟩
    rw [held_eq, held_eq, Pc.blocks, Pc.blocks, List.filterMap_cons_some block]
    rfl
  · intro other
    refine .quiet ⟨sound.keys, sound.typed, trivial⟩ (fun b => ?_) (fun _ => rfl) fun _ => rfl
    rw [held_eq, held_eq, Pc.blocks, Pc.blocks, List.filterMap_cons_none (block_eq_none.mpr other)]

/-- Every step of an operation. -/
theorem fits_advance (blks : HwBlks) (ok : Bool) {crtc : Crtc} (sound : crtc.Sound)
    (enough : ∀ blk, crtc.held blk ≤ refs blk) :
    Fits crtc refs (advance blks ok refs crtc.pools crtc.pc).1
    (advance blks ok refs crtc.pools crtc.pc).2.1
      (advance blks ok refs crtc.pools crtc.pc).2.2 := by
  obtain ⟨pools, pc⟩ := crtc
  dsimp only
  cases pc with
  | idle => exact .quiet sound (fun _ => rfl) (fun _ => rfl) fun _ => rfl
  | search get =>
    rw [advance]
    cases found : blks.search refs get.type (-1) with
    | none =>
      exact .quiet ⟨sound.keys, sound.typed, sound.pc⟩ (fun _ => rfl) (fun _ => rfl) fun _ => rfl
    | some blk => exact fits_search sound enough (search_some found).2
  | increment blk after =>
    rw [advance]
    by_cases unused : increment refs blk blk = 1
    · rw [if_pos unused]
      exact fits_increment sound enough (if_pos unused).symm
    · rw [if_neg unused]
      exact fits_increment sound enough (if_neg unused).symm
  | start blk after => exact fits_start sound ok
  | add get blk =>
    rw [advance]
    cases added : get.pool.addNoLock ok get.type get.tag blk .hwBlk with
    | ok next => exact fits_add sound added
    | error rc => exact fits_unadded sound
  | steal get =>
    rw [advance]
    cases stolen : stealFrom pools get.pool.key get.type with
    | none =>
      exact .quiet ⟨sound.keys, sound.typed, trivial⟩ (fun _ => rfl) (fun _ => rfl) fun _ => rfl
    | some res =>
      obtain ⟨hwBlk, fits⟩ := fits_steal sound stolen
      dsimp only
      rw [hwBlk]
      exact fits
  | copy new rest =>
    cases rest with
    | nil => exact fits_copied sound
    | cons res rest =>
      rw [advance]
      cases ops : res.ops with
      | hwBlk => exact (fits_copy sound).1 ops
      | other => exact (fits_copy sound).2 ops
  | reclaim rest =>
    cases rest with
    | nil =>
      exact .quiet ⟨sound.keys, sound.typed, trivial⟩ (fun _ => rfl) (fun _ => rfl) fun _ => rfl
    | cons res rest =>
      rw [advance]
      cases ops : res.ops with
      | hwBlk => exact (fits_reclaim sound).1 ops
      | other => exact (fits_reclaim sound).2 ops
  | drop blk reason =>
    rw [advance]
    have used : refs blk ≠ 0 := by
      have has := enough blk
      rw [held_eq, Pc.blocks, count_cons, if_pos rfl] at has
      omega
    rw [if_neg used]
    by_cases last : refs blk = 1
    · rw [if_pos last]
      exact fits_drop sound enough (if_pos last).symm
    · rw [if_neg last]
      exact fits_drop sound enough (if_neg last).symm
  | stop blk reason => exact fits_stop sound

/-! ### The first step -/

theorem typed_modifyFirst {p : Res → Bool} {f : Res → Res} (typed : Typed entries)
    (type : ∀ res, (f res).type = res.type) (ops : ∀ res, (f res).ops = res.ops) :
    Typed (modifyFirst p f entries) := by
  intro res member hwType hw
  obtain before | ⟨found, at_found, -, rfl⟩ := mem_modifyFirst member
  · exact typed res before hwType hw
  · rw [ops]
    exact typed found at_found hwType (type found ▸ hw)

theorem fits_setPool (next : Pool) (sound : Crtc.Sound ⟨pools, .idle⟩) (member : pool ∈ pools)
    (same : next.key = pool.key) (typed : Typed next.resList)
    (begins : pc = .idle ∨ ∃ rest, pc = .reclaim rest)
    (blocks : ∀ b, pool.blocks.count b = pc.blocks.count b + next.blocks.count b) :
    Fits ⟨pools, .idle⟩ refs ⟨setPool pools next, pc⟩ refs none := by
  have quiet : pc.Fits (setPool pools next) ∧ ∀ b, Crtc.starting ⟨setPool pools next, pc⟩ b = 0 ∧
      Crtc.stopping ⟨setPool pools next, pc⟩ b = 0 := by
    obtain rfl | ⟨rest, rfl⟩ := begins
    · exact ⟨trivial, fun _ => ⟨rfl, rfl⟩⟩
    · exact ⟨trivial, fun _ => ⟨rfl, rfl⟩⟩
  refine .quiet ⟨?_, fun other at_other => ?_, quiet.1⟩ (fun b => ?_) (fun b => (quiet.2 b).1.symm)
    fun b => (quiet.2 b).2.symm
  · exact (keys_setPool pools next).symm ▸ sound.keys
  · obtain rfl | before := of_mem_setPool at_other
    · exact typed
    · exact sound.typed other before
  · have keys : (pools.map Pool.key).Nodup := sound.keys
    have counts := count_setPool next keys member same b
    have given := blocks b
    rw [held_idle, held_eq]
    omega

theorem fits_modifyFirst (p : Res → Bool) (f : Res → Res) (sound : Crtc.Sound ⟨pools, .idle⟩)
    (member : pool ∈ pools) (type : ∀ res, (f res).type = res.type)
    (ops : ∀ res, (f res).ops = res.ops)
    (val : ∀ res, (f res).val = res.val) :
    Fits ⟨pools, .idle⟩ refs
      ⟨setPool pools { pool with resList := modifyFirst p f pool.resList }, .idle⟩ refs none := by
  have blocks := blocks_modifyFirst pool p ops val
  refine fits_setPool { pool with resList := modifyFirst p f pool.resList } sound member rfl
    (typed_modifyFirst (sound.typed pool member) type ops) (.inl rfl) fun b => ?_
  exact (congrArg (List.count b) blocks).symm.trans (Nat.zero_add _).symm

section Calls

variable {key : ℕ} (sound : Crtc.Sound ⟨pools, .idle⟩) (found : findPool pools key = some pool)

include sound

theorem fits_idle : Fits ⟨pools, .idle⟩ refs ⟨pools, .idle⟩ refs none :=
  .quiet sound (fun _ => rfl) (fun _ => rfl) fun _ => rfl

include found

theorem fits_duplicate {new : ℕ} (fresh : (findPool pools new).isNone = true) :
    Fits ⟨pools, .idle⟩ refs ⟨pools, .copy ⟨new, []⟩ pool.resList⟩ refs none := by
  have member := (findPool_some found).1
  refine .quiet ⟨sound.keys, sound.typed, findPool_none fresh, fun res at_res => (by cases at_res),
    sound.typed pool member, fun res at_res blk held => ?_⟩ (fun _ => rfl)
      (fun _ => rfl) fun _ => rfl
  exact List.mem_flatMap.mpr ⟨pool, member, List.mem_filterMap.mpr ⟨res, at_res, held⟩⟩

theorem fits_reuse {type : ResType} {tag : ℕ} {reused : ℕ × Pool}
    (reuse : pool.reuse type tag = some reused) :
    Fits ⟨pools, .idle⟩ refs ⟨setPool pools reused.2, .idle⟩ refs none := by
  have member := (findPool_some found).1
  obtain ⟨val, next⟩ := reused
  obtain rfl | ⟨-, rfl⟩ := reuse_some reuse
  · exact fits_modifyFirst _ _ sound member (fun _ => rfl) (fun _ => rfl) fun _ => rfl
  · exact fits_modifyFirst _ _ sound member (fun _ => rfl) (fun _ => rfl) fun _ => rfl

theorem fits_put (type : ResType) (tag : ℕ) :
    Fits ⟨pools, .idle⟩ refs ⟨setPool pools (pool.put type tag), .idle⟩ refs none :=
  fits_modifyFirst _ _ sound (findPool_some found).1 (fun res => (release_entry res).1)
    (fun res => (release_entry res).2.2.2) fun res => (release_entry res).2.2.1

theorem fits_addOther {code tag val : ℕ} {allocates : Bool}
    (added : pool.addNoLock allocates (.other code) tag val .other = .ok next) :
    Fits ⟨pools, .idle⟩ refs ⟨setPool pools next, .idle⟩ refs none := by
  have member := (findPool_some found).1
  obtain ⟨-, -, rfl⟩ := addNoLock_ok added
  have blocks := blocks_append pool ⟨.other code, tag, val, .other, 1, false⟩
  refine fits_setPool ⟨pool.key, pool.resList ++ [⟨.other code, tag, val, .other, 1, false⟩]⟩
    sound member rfl ?_ (.inl rfl) fun b => ?_
  · exact Typed.append (sound.typed pool member) fun type hw => (by cases hw)
  · rw [blocks]
    simp only [Res.block, Option.toList_none, List.append_nil]
    exact (Nat.zero_add _).symm

theorem fits_freeUnused :
    Fits ⟨pools, .idle⟩ refs
      ⟨setPool pools (pool.kept false), .reclaim (pool.reclaimed false)⟩ refs none := by
  have member := (findPool_some found).1
  exact fits_setPool (pool.kept false) sound member rfl
    (typed_sublist (sound.typed pool member) fun res => List.mem_of_mem_filter) (.inr ⟨_, rfl⟩)
    (count_reclaimed pool false)

theorem fits_destroy :
    Fits ⟨pools, .idle⟩ refs
      ⟨pools.filter fun other => other.key ≠ pool.key, .reclaim (pool.reclaimed true)⟩
        refs none := by
  have member := (findPool_some found).1
  refine .quiet ⟨sound.keys.sublist (List.filter_sublist.map _),
    fun other at_other => sound.typed other (List.mem_of_mem_filter at_other),
      trivial⟩ (fun b => ?_)
    (fun _ => rfl) fun _ => rfl
  have parts := count_reclaimed pool true b
  have nothing_kept : (pool.kept true).blocks = [] := by
    rw [Pool.blocks, Pool.kept]
    simp
  have keys : (pools.map Pool.key).Nodup := sound.keys
  have rest := count_filter keys member b
  rw [nothing_kept, List.count_nil] at parts
  rw [held_idle, held_eq, Pc.blocks]
  omega

omit found

theorem fits_enter (call : Call) : Fits ⟨pools, .idle⟩ refs (enter pools call) refs none := by
  cases call with
  | reset key =>
    rw [enter]
    by_cases new : (findPool pools key).isNone = true
    · rw [if_pos new]
      exact fits_append sound (findPool_none new) (fun res at_res => (by cases at_res))
        (fun _ => rfl)
        (fun _ => rfl) fun _ => rfl
    · rw [if_neg new]
      exact fits_idle sound
  | duplicate key new =>
    rw [enter]
    cases found : findPool pools key with
    | none => exact fits_idle sound
    | some pool =>
      dsimp only
      by_cases fresh : (findPool pools new).isNone = true
      · rw [if_pos fresh]
        exact fits_duplicate sound found fresh
      · rw [if_neg fresh]
        exact fits_idle sound
  | get key type tag =>
    rw [enter]
    cases found : findPool pools key with
    | none => exact fits_idle sound
    | some pool =>
      dsimp only
      cases reuse : pool.reuse type tag with
      | none =>
        exact .quiet ⟨sound.keys, sound.typed, (findPool_some found).1⟩ (fun _ => rfl)
          (fun _ => rfl)
          fun _ => rfl
      | some reused => exact fits_reuse sound found reuse
  | put key type tag =>
    rw [enter]
    cases found : findPool pools key with
    | none => exact fits_idle sound
    | some pool => exact fits_put sound found type tag
  | add key code tag val allocates =>
    rw [enter]
    cases found : findPool pools key with
    | none => exact fits_idle sound
    | some pool =>
      dsimp only
      cases added : pool.addNoLock allocates (.other code) tag val .other with
      | error rc => exact fits_idle sound
      | ok next => exact fits_addOther sound found added
  | freeUnused key =>
    rw [enter]
    cases found : findPool pools key with
    | none => exact fits_idle sound
    | some pool => exact fits_freeUnused sound found
  | destroy key =>
    rw [enter]
    cases found : findPool pools key with
    | none => exact fits_idle sound
    | some pool => exact fits_destroy sound found

end Calls

/-! ## All CRTCs -/

section World

variable {ι : Type*} [DecidableEq ι] [Fintype ι] {w w' : World ι} {input : ι × Turn}

structure Inv (w : World ι) : Prop where
  sound : ∀ i, (w.crtcs i).Sound
  refs : ∀ blk, w.refs blk = total (Crtc.held · blk) w.crtcs
  started : ∀ blk, w.rises blk = w.starts blk + total (Crtc.starting · blk) w.crtcs
  stopped : ∀ blk, w.falls blk = w.stops blk + total (Crtc.stopping · blk) w.crtcs

structure Moved (w w' : World ι) (i : ι) (next : Crtc) (callback : Option Callback) : Prop where
  crtcs : w'.crtcs = Function.update w.crtcs i next
  rises : ∀ blk, w'.rises blk = w.rises blk + if w.refs blk = 0 ∧ w'.refs blk ≠ 0 then 1 else 0
  falls : ∀ blk, w'.falls blk = w.falls blk + if w.refs blk ≠ 0 ∧ w'.refs blk = 0 then 1 else 0
  starts : ∀ blk, w'.starts blk = w.starts blk + if callback = some (.start blk) then 1 else 0
  stops : ∀ blk, w'.stops blk = w.stops blk + if callback = some (.stop blk) then 1 else 0

omit [DecidableEq ι] in
theorem Inv.enough (inv : Inv w) (i : ι) (blk : ℕ) : (w.crtcs i).held blk ≤ w.refs blk := by
  rw [inv.refs]
  exact le_total (Crtc.held · blk) w.crtcs i

omit [Fintype ι] in
theorem moved_enter (w : World ι) (i : ι) (next : Crtc) :
    Moved w { w with crtcs := Function.update w.crtcs i next } i next none := by
  refine ⟨rfl, fun blk => ?_, fun blk => ?_, fun blk => ?_, fun blk => ?_⟩
  · rw [if_neg fun change => change.2 change.1, Nat.add_zero]
  · rw [if_neg fun change => change.1 change.2, Nat.add_zero]
  · rw [if_neg (by simp), Nat.add_zero]
  · rw [if_neg (by simp), Nat.add_zero]

omit [Fintype ι] in
theorem moved_go (blks : HwBlks) (w : World ι) (i : ι) (ok : Bool) :
    Moved w (step blks w (i, .go ok)) i
      (advance blks ok w.refs (w.crtcs i).pools (w.crtcs i).pc).1
      (advance blks ok w.refs (w.crtcs i).pools (w.crtcs i).pc).2.2 :=
  ⟨rfl, fun _ => rfl, fun _ => rfl, fun _ => rfl, fun _ => rfl⟩

theorem Inv.moved (inv : Inv w) {i : ι} {next : Crtc}
    (moved : Moved w w' i next callback) (fits : Fits (w.crtcs i) w.refs next w'.refs callback) :
    Inv w' := by
  refine ⟨fun j => ?_, fun blk => ?_, fun blk => ?_, fun blk => ?_⟩
  · rw [moved.crtcs]
    by_cases same : j = i
    · rw [same, Function.update_self]
      exact fits.sound
    · rw [Function.update_of_ne same]
      exact inv.sound j
  · have before := inv.refs blk
    have totals := total_update (Crtc.held · blk) w.crtcs i next
    have change := fits.counted blk
    rw [moved.crtcs]
    omega
  · have before := inv.started blk
    have totals := total_update (Crtc.starting · blk) w.crtcs i next
    have change := fits.started blk
    rw [moved.rises, moved.starts, moved.crtcs]
    omega
  · have before := inv.stopped blk
    have totals := total_update (Crtc.stopping · blk) w.crtcs i next
    have change := fits.stopped blk
    rw [moved.falls, moved.stops, moved.crtcs]
    omega

theorem fits_go (blks : HwBlks) (inv : Inv w) (i : ι) (ok : Bool) :
    Fits (w.crtcs i) w.refs (advance blks ok w.refs (w.crtcs i).pools (w.crtcs i).pc).1
      (step blks w (i, .go ok)).refs
        (advance blks ok w.refs (w.crtcs i).pools (w.crtcs i).pc).2.2 :=
  fits_advance blks ok (inv.sound i) (inv.enough i)

omit [DecidableEq ι] in
theorem fits_enter_at (inv : Inv w) {i : ι} (idle : (w.crtcs i).pc = .idle) (call : Call) :
    Fits (w.crtcs i) w.refs (enter (w.crtcs i).pools call) w.refs none := by
  have sound := inv.sound i
  cases at_i : w.crtcs i with
  | mk pools pc =>
    rw [at_i] at sound idle
    dsimp only at idle
    subst idle
    exact fits_enter sound call

theorem inv_step (blks : HwBlks) (inv : Inv w) (input : ι × Turn) : Inv (step blks w input) := by
  obtain ⟨i, turn⟩ := input
  cases turn with
  | go ok => exact inv.moved (moved_go blks w i ok) (fits_go blks inv i ok)
  | enter call =>
    rw [step]
    dsimp only
    by_cases idle : (w.crtcs i).pc = .idle
    · rw [if_pos idle]
      exact inv.moved (moved_enter w i _) (fits_enter_at inv idle call)
    · rw [if_neg idle]
      exact inv

theorem alone_step (blks : HwBlks) (inv : Inv w) (alone : Alone Crtc.held w.crtcs)
    (input : ι × Turn) :
    Alone Crtc.held (step blks w input).crtcs ↔ StillUnused w input := by
  obtain ⟨i, turn⟩ := input
  cases turn with
  | enter call =>
    refine ⟨fun _ => trivial, fun _ => ?_⟩
    rw [step]
    dsimp only
    by_cases idle : (w.crtcs i).pc = .idle
    · rw [if_pos idle]
      refine alone.update fun blk has => ?_
      refine ((fits_enter_at inv idle call).takes blk has).imp_right fun ⟨get, found⟩ => ?_
      rw [idle] at found
      cases found
    · rw [if_neg idle]
      exact alone
  | go ok =>
    have fits := fits_go blks inv i ok
    constructor
    · intro after blk get at_pc
      by_contra used
      have sound := inv.sound i
      have own : (w.crtcs i).held blk = 0 := by
        have fresh := sound.pc
        rw [at_pc] at fresh
        rw [Crtc.held, Crtc.entries, List.count_eq_zero.mpr fresh.2, at_pc]
        rfl
      have more : (step blks w (i, .go ok)).refs blk = w.refs blk + 1 := by
        have one : increment w.refs blk blk = w.refs blk + 1 := by rw [increment_apply, if_pos rfl]
        rw [step, at_pc]
        dsimp only
        rw [advance]
        split
        · exact one
        · exact one
      have change := fits.counted blk
      have takes : 0 < (advance blks ok w.refs (w.crtcs i).pools (w.crtcs i).pc).1.held
        blk := by omega
      refine not_alone_update takes own ?_ after
      rw [← inv.refs]
      exact Nat.pos_of_ne_zero used
    · intro unused
      refine alone.update fun blk has => ?_
      refine (fits.takes blk has).imp_right fun ⟨get, at_pc⟩ => ?_
      rw [← inv.refs]
      exact unused blk get at_pc

omit [DecidableEq ι] in
theorem Inv.conserved (inv : Inv w) (alone : Alone Crtc.held w.crtcs) : Conserved w :=
  ⟨inv.refs, inv.started, inv.stopped, alone⟩

omit [DecidableEq ι] in
theorem Conserved.atRest (conserved : Conserved w) (idle : ∀ i, (w.crtcs i).pc = .idle) :
    AtRest w := by
  have held : ∀ i blk, (w.crtcs i).held blk = (w.crtcs i).entries blk := by
    intro i blk
    rw [Crtc.held, idle i]
    rfl
  have refs : ∀ blk, w.refs blk = total (Crtc.entries · blk) w.crtcs := by
    intro blk
    rw [conserved.refs]
    exact Finset.sum_congr rfl fun i _ => held i blk
  refine ⟨refs, fun blk => ?_, fun blk => ?_, fun gone blk => ?_⟩
  · rw [conserved.started, total_eq_zero.mpr, Nat.add_zero]
    intro i
    rw [Crtc.starting, idle i]
  · rw [conserved.stopped, total_eq_zero.mpr, Nat.add_zero]
    intro i
    rw [Crtc.stopping, idle i]
  · rw [refs, total_eq_zero]
    intro i
    rw [Crtc.entries, gone i]
    rfl

omit [DecidableEq ι] in
theorem inv_initial : Inv (initial : World ι) := by
  have none : ∀ held : Crtc → ℕ, held ⟨[], .idle⟩ = 0 → total held (initial : World ι).crtcs = 0 :=
    fun held zero => total_eq_zero.mpr fun _ => zero
  refine ⟨fun _ => ⟨.nil, fun _ member => (by cases member), trivial⟩, fun blk => ?_, fun blk => ?_,
    fun blk => ?_⟩
  · exact (none (Crtc.held · blk) rfl).symm
  · rw [none (Crtc.starting · blk) rfl]
    rfl
  · rw [none (Crtc.stopping · blk) rfl]
    rfl

end World

/-- In every interleaving of the operations of any CRTCs the references are conserved and the
    callbacks are called; blocks are exclusive exactly as long as each that was found unused is
    still unused when its count is incremented. -/
theorem references_conserved_iff {ι : Type} [DecidableEq ι] [Fintype ι] (blks : HwBlks)
    (inputs : List (ι × Turn)) :
    Throughout (step blks)
    (fun w => Conserved w ∧ ((∀ i, (w.crtcs i).pc = .idle) → AtRest w)) initial
        inputs ↔
      StepsMeet (step blks) StillUnused initial inputs := by
  have alone : Alone Crtc.held (initial : World ι).crtcs := fun blk i _ has => (by cases has)
  have gives : ∀ w : World ι, Inv w → Alone Crtc.held w.crtcs →
      Conserved w ∧ ((∀ i, (w.crtcs i).pc = .idle) → AtRest w) :=
    fun w inv alone => ⟨inv.conserved alone, (inv.conserved alone).atRest⟩
  refine throughout_iff_stepsMeet Inv (fun w input inv => inv_step blks inv input)
    (fun w input inv good => ⟨fun next => ?_, fun unused => ?_⟩) inv_initial
    (gives initial inv_initial alone) inputs
  · exact (alone_step blks inv good.1.alone input).mp next.1.alone
  · exact gives _ (inv_step blks inv input) ((alone_step blks inv good.1.alone input).mpr unused)

/-! ## Two CRTCs and one block -/

def oneBlock : HwBlks := ⟨[0], fun _ => .rot, fun blk => blk⟩

/-- Both CRTCs find the block before either of them has marked it. -/
def bothSearch : List (Bool × Turn) :=
  [(false, .enter (.reset 0)), (true, .enter (.reset 1)), (false, .enter (.get 0 (.hw .rot) 1)),
    (true, .enter (.get 1 (.hw .rot) 1)), (false, .go true), (true, .go true), (false, .go true),
    (false, .go true), (false, .go true), (true, .go true), (true, .go true)]

theorem block_found_twice : ¬Throughout (step oneBlock)
    (fun w => Conserved w ∧ ((∀ i, (w.crtcs i).pc = .idle) → AtRest w)) initial bothSearch := by
  intro always
  have last := throughout_iff_prefix.mp always bothSearch [] (List.append_nil _).symm
  have both := last.1.alone 0 false true Nat.one_pos Nat.one_pos
  cases both

end DisplayDrivers.ResPool.Interleaved
