import DisplayDrivers.Lib.Run
import DisplayDrivers.ResPool.Pool

/-! # The pools of one CRTC

The operations on the pools of a CRTC come one after the other, under its `rp_lock`.
-/

namespace DisplayDrivers.ResPool

open DisplayDrivers.Lib.Run

/-- The pools in the order of `rp_head`, and the reference counts of the blocks, of which
    `elsewhere` are not those of the pools. -/
structure Crtc where
  pools : List Pool
  refs : ℕ → ℕ
  elsewhere : ℕ → ℕ

namespace Crtc

def set (crtc : Crtc) (next : Pool) : Crtc := { crtc with pools := setPool crtc.pools next }

def rpReset (crtc : Crtc) (key : ℕ) : Crtc := { crtc with pools := crtc.pools ++ [⟨key, []⟩] }

def rpDuplicate (starts : ℕ → Bool) (crtc : Crtc) (pool : Pool) (key : ℕ) : Crtc :=
  { crtc with
    pools := crtc.pools ++ [⟨key, pool.resList.map Res.duplicate⟩]
    refs := pool.resList.foldl (Res.get starts) crtc.refs }

/-- The end of `_sde_crtc_rp_get`, from `add_res` on -/
def addRes (crtc : Crtc) (pool : Pool) (allocates : Bool) (type : ResType) (tag blk : ℕ) :
    Option ℕ × Crtc :=
  match pool.addNoLock allocates type tag blk .hwBlk with
  | .ok next => (some blk, crtc.set next)
  | .error _ => (none, { crtc with refs := sdeHwBlkPut crtc.refs blk })

def rpGet (blks : HwBlks) (starts : ℕ → Bool) (allocates : Bool) (crtc : Crtc) (pool : Pool)
    (type : ResType) (tag : ℕ) : Option ℕ × Crtc :=
  match pool.reuse type tag with
  | some (val, next) => (some val, crtc.set next)
  | none =>
    match sdeHwBlkGet blks starts crtc.refs none type (-1) with
    | (some blk, refs) => addRes { crtc with refs := refs } pool allocates type tag blk
    | (none, refs) =>
      match stealFrom crtc.pools pool.key type with
      | some res => addRes { crtc with refs := res.get starts refs } pool allocates type tag res.val
      | none => (none, { crtc with refs := refs })

/-- `_sde_crtc_rp_add`; the reference of the caller becomes that of the entry. -/
def rpAdd (allocates : Bool) (crtc : Crtc) (pool : Pool) (type : ResType)
    (tag val : ℕ) (ops : Ops) :
    Crtc :=
  match pool.addNoLock allocates type tag val ops with
  | .ok next =>
    { crtc.set next with
      elsewhere := match ops with
        | .hwBlk => Function.update crtc.elsewhere val (crtc.elsewhere val - 1)
        | .other => crtc.elsewhere }
  | .error _ => crtc

def rpFreeUnused (crtc : Crtc) (pool : Pool) : Crtc :=
  { crtc.set (pool.kept false) with refs := (pool.reclaimed false).foldl Res.put crtc.refs }

def rpDestroy (crtc : Crtc) (pool : Pool) : Crtc :=
  { crtc with
    pools := crtc.pools.filter fun other => other.key ≠ pool.key
    refs := (pool.reclaimed true).foldl Res.put crtc.refs }

end Crtc

inductive Input
  | reset (key : ℕ)
  | duplicate (key new : ℕ) (starts : ℕ → Bool)
  | get (key : ℕ) (type : ResType) (tag : ℕ) (starts : ℕ → Bool) (allocates : Bool)
  | put (key : ℕ) (type : ResType) (tag : ℕ)
  | add (key : ℕ) (type : ResType) (tag val : ℕ) (ops : Ops) (allocates : Bool)
  | freeUnused (key : ℕ)
  | destroy (key : ℕ)
  | taken (blk : ℕ)
  | dropped (blk : ℕ)

def step (blks : HwBlks) (crtc : Crtc) : Input → Crtc
  | .reset key => if (findPool crtc.pools key).isNone then crtc.rpReset key else crtc
  | .duplicate key new starts =>
    match findPool crtc.pools key with
    | some pool =>
      if (findPool crtc.pools new).isNone then crtc.rpDuplicate starts pool new else crtc
    | none => crtc
  | .get key type tag starts allocates =>
    match findPool crtc.pools key with
    | some pool => (crtc.rpGet blks starts allocates pool type tag).2
    | none => crtc
  | .put key type tag =>
    match findPool crtc.pools key with
    | some pool => crtc.set (pool.put type tag)
    | none => crtc
  | .add key type tag val ops allocates =>
    match findPool crtc.pools key with
    | some pool => crtc.rpAdd allocates pool type tag val ops
    | none => crtc
  | .freeUnused key =>
    match findPool crtc.pools key with
    | some pool => crtc.rpFreeUnused pool
    | none => crtc
  | .destroy key =>
    match findPool crtc.pools key with
    | some pool => crtc.rpDestroy pool
    | none => crtc
  | .taken blk =>
    { crtc with
      refs := increment crtc.refs blk
      elsewhere := increment crtc.elsewhere blk }
  | .dropped blk =>
    if crtc.elsewhere blk = 0 then crtc
    else
      { crtc with
        refs := sdeHwBlkPut crtc.refs blk
        elsewhere := Function.update crtc.elsewhere blk (crtc.elsewhere blk - 1) }

def initial : Crtc := ⟨[], fun _ => 0, fun _ => 0⟩

/-! ## Exclusive entries -/

def Exclusive (crtc : Crtc) : Prop :=
  ∀ pool ∈ crtc.pools, (pool.resList.map fun res => (res.type, res.tag)).Nodup ∧
    pool.resList.Pairwise fun a b => a.tag ≠ b.tag → a.free = false → b.free = false →
      ∀ blk, a.block = some blk → b.block ≠ some blk

/-- The contract of `sde_crtc_res_add`: the types of hardware blocks are for blocks, and a block
    comes with a reference and is not one of the pool. -/
def Handed (blks : HwBlks) (crtc : Crtc) : Input → Prop
  | .add key type _ val ops _ =>
    match ops with
    | .hwBlk => type = .hw (blks.type val) ∧ 0 < crtc.elsewhere val ∧
        ∀ pool, findPool crtc.pools key = some pool → val ∉ pool.blocks
    | .other => ∃ code, type = .other code
  | _ => True

def TakesOverNew (blks : HwBlks) (crtc : Crtc) : Input → Prop
  | .get key type tag starts allocates =>
    ∀ pool, findPool crtc.pools key = some pool → pool.reuse type tag = none →
      (sdeHwBlkGet blks starts crtc.refs none type (-1)).1 = none →
        ∀ res, stealFrom crtc.pools key type = some res → allocates = true → res.val ∉ pool.blocks
  | _ => True

structure Inv (blks : HwBlks) (crtc : Crtc) : Prop where
  keys : (crtc.pools.map Pool.key).Nodup
  sound : ∀ pool ∈ crtc.pools, Sound blks pool
  counted : ∀ blk, crtc.refs blk = crtc.elsewhere blk + (crtc.pools.flatMap Pool.blocks).count blk

/-! ## What the operations keep -/

section Keeps

variable {blks : HwBlks} {crtc : Crtc} {pool next : Pool} {key : ℕ}

section

variable (inv : Inv blks crtc)

include inv

theorem Inv.set (next : Pool) (member : pool ∈ crtc.pools) (same : next.key = pool.key)
    (sound : Sound blks next) {refs elsewhere : ℕ → ℕ}
    (counted : ∀ b, refs b + pool.blocks.count b + crtc.elsewhere b =
      crtc.refs b + next.blocks.count b + elsewhere b) :
    Inv blks ⟨(crtc.set next).pools, refs, elsewhere⟩ := by
  refine ⟨?_, fun other at_other => ?_, fun b => ?_⟩
  · rw [Crtc.set, keys_setPool]
    exact inv.keys
  · cases of_mem_setPool at_other with
    | inl new => exact new ▸ sound
    | inr before => exact inv.sound other before
  · have before := inv.counted b
    have blocks := count_setPool next inv.keys member same b
    have change := counted b
    rw [Crtc.set]
    dsimp only
    omega

theorem Inv.append (next : Pool) (new : next.key ∉ crtc.pools.map Pool.key)
    (sound : Sound blks next) {refs : ℕ → ℕ}
    (counted : ∀ b, refs b = crtc.refs b + next.blocks.count b) :
    Inv blks { crtc with pools := crtc.pools ++ [next], refs := refs } := by
  refine ⟨?_, fun other at_other => ?_, fun b => ?_⟩
  · exact nodup_keys_append next inv.keys new
  · cases List.mem_append.mp at_other with
    | inl before => exact inv.sound other before
    | inr last =>
      rw [List.mem_singleton.mp last]
      exact sound
  · have before := inv.counted b
    rw [List.flatMap_append, List.flatMap_singleton, List.count_append]
    dsimp only
    rw [counted]
    omega

theorem Inv.used (member : pool ∈ crtc.pools) {blk : ℕ}
    (held : blk ∈ pool.blocks) : 0 < crtc.refs blk := by
  have occurs := List.count_pos_iff.mpr (List.mem_flatMap.mpr ⟨pool, member, held⟩)
  rw [inv.counted]
  omega

theorem Inv.rpReset (new : key ∉ crtc.pools.map Pool.key) : Inv blks (crtc.rpReset key) := by
  refine inv.append ⟨key, []⟩ new ⟨.nil, .nil, fun res member => ?_⟩ fun _ => rfl
  cases member

theorem Inv.rpDuplicate (member : pool ∈ crtc.pools)
    (new : key ∉ crtc.pools.map Pool.key) (starts : ℕ → Bool) :
    Inv blks (crtc.rpDuplicate starts pool key) := by
  obtain ⟨sound, blocks⟩ := (inv.sound pool member).duplicate key
  refine inv.append ⟨key, pool.resList.map Res.duplicate⟩ new sound fun b => ?_
  rw [blocks]
  exact foldl_get pool.resList (fun blk held => inv.used member held) b

theorem Inv.put (member : pool ∈ crtc.pools) (type : ResType) (tag : ℕ) :
    Inv blks (crtc.set (pool.put type tag)) := by
  obtain ⟨sound, blocks⟩ := (inv.sound pool member).put type tag
  refine inv.set (pool.put type tag) member rfl sound fun b => ?_
  rw [blocks]

theorem Inv.count_le (member : pool ∈ crtc.pools) (b : ℕ) : pool.blocks.count b ≤ crtc.refs b := by
  have parts := count_filter inv.keys member b
  have counted := inv.counted b
  omega

theorem Inv.rpFreeUnused (member : pool ∈ crtc.pools) : Inv blks (crtc.rpFreeUnused pool) := by
  refine inv.set (pool.kept false) member rfl
    ((inv.sound pool member).sublist List.filter_sublist) fun b => ?_
  have parts := count_reclaimed pool false b
  have enough := inv.count_le member b
  rw [foldl_put, Crtc.set]
  dsimp only
  omega

theorem Inv.rpDestroy (member : pool ∈ crtc.pools) : Inv blks (crtc.rpDestroy pool) := by
  refine ⟨inv.keys.sublist (List.filter_sublist.map _),
    fun other at_other => inv.sound other (List.mem_of_mem_filter at_other), fun b => ?_⟩
  have parts := count_reclaimed pool true b
  have nothing : (pool.kept true).blocks = [] := by
    rw [Pool.blocks, Pool.kept]
    simp
  have rest := count_filter inv.keys member b
  have counted := inv.counted b
  rw [nothing, List.count_nil] at parts
  rw [Crtc.rpDestroy]
  dsimp only
  rw [foldl_put]
  omega

end

variable {allocates : Bool}

theorem Inv.addRes (inv : Inv blks crtc) (member : pool ∈ crtc.pools) {type : ResType}
    {tag blk : ℕ} (new : (type, tag) ∉ pool.resList.map fun res => (res.type, res.tag))
    (typed : type = .hw (blks.type blk)) (fresh : allocates = true → blk ∉ pool.blocks) :
    Inv blks (Crtc.addRes { crtc with refs := increment crtc.refs blk } pool allocates type
    tag blk).2 := by
  rw [Crtc.addRes, addNoLock_new allocates new]
  cases allocates with
  | false =>
    simp only [Bool.false_eq_true, if_false, put_increment]
    exact inv
  | true =>
    simp only [if_true]
    have sound := (inv.sound pool member).append ⟨type, tag, blk, .hwBlk, 1, false⟩ new
      (fun other same => by
        rw [← Option.some.inj same]
        exact fresh rfl)
      ⟨fun _ _ => rfl, fun _ => typed⟩
    refine inv.set ⟨pool.key, pool.resList ++ [⟨type, tag, blk, .hwBlk, 1, false⟩]⟩ member rfl
      sound fun b => ?_
    have blocks := blocks_append pool ⟨type, tag, blk, .hwBlk, 1, false⟩
    rw [blocks, List.count_append]
    simp only [increment_apply, Res.block, Option.toList_some, List.count_singleton, beq_iff_eq,
      eq_comm (a := b)]
    omega

theorem Inv.rpGet (inv : Inv blks crtc) (member : pool ∈ crtc.pools) {type : ResType} {tag : ℕ}
    {starts : ℕ → Bool}
    (takesOver : pool.reuse type tag = none →
      (sdeHwBlkGet blks starts crtc.refs none type (-1)).1 = none →
        ∀ res, stealFrom crtc.pools pool.key type = some res → allocates = true →
          res.val ∉ pool.blocks) :
    Inv blks (crtc.rpGet blks starts allocates pool type tag).2 := by
  rw [Crtc.rpGet]
  cases reuse : pool.reuse type tag with
  | some reused =>
    obtain ⟨val, next⟩ := reused
    obtain ⟨sound, blocks, same⟩ := (inv.sound pool member).reuse reuse
    refine inv.set next member same sound fun b => ?_
    rw [blocks]
  | none =>
    obtain ⟨new, -⟩ := reuse_none reuse
    cases got : sdeHwBlkGet blks starts crtc.refs none type (-1) with
    | mk found refs =>
      cases found with
      | some blk =>
        obtain ⟨typed, unused, rfl⟩ := sdeHwBlkGet_some got
        refine inv.addRes member new typed fun _ held => ?_
        have used := inv.used member held
        omega
      | none =>
        rw [sdeHwBlkGet_none got]
        cases stolen : stealFrom crtc.pools pool.key type with
        | none => exact inv
        | some res =>
          obtain ⟨⟨hwType, rfl⟩, same, old, at_old, -, at_res⟩ := stealFrom_some stolen
          obtain ⟨hwBlk, typed⟩ := (inv.sound old at_old).typed res at_res
          have used := inv.used at_old (mem_blocks.mpr ⟨res, at_res, hwBlk _ same, rfl⟩)
          dsimp only
          rw [get_of_used (hwBlk _ same) used]
          refine inv.addRes member new (same ▸ typed (hwBlk _ same)) fun alloc => ?_
          exact takesOver reuse (congrArg Prod.fst got) res stolen alloc

theorem Inv.rpAdd (inv : Inv blks crtc) (member : pool ∈ crtc.pools) {type : ResType}
    {tag val : ℕ} {ops : Ops}
    (handed : ops = .hwBlk → type = .hw (blks.type val) ∧ 0 < crtc.elsewhere val ∧
    val ∉ pool.blocks)
    (other : ops = .other → ∃ code, type = .other code) :
    Inv blks (crtc.rpAdd allocates pool type tag val ops) := by
  cases added : pool.addNoLock allocates type tag val ops with
  | error rc =>
    simp only [Crtc.rpAdd, added]
    exact inv
  | ok next =>
    simp only [Crtc.rpAdd, added]
    obtain ⟨-, new, rfl⟩ := addNoLock_ok added
    have blocks := blocks_append pool ⟨type, tag, val, ops, 1, false⟩
    cases ops with
    | hwBlk =>
      obtain ⟨typed, there, fresh⟩ := handed rfl
      have sound := (inv.sound pool member).append ⟨type, tag, val, .hwBlk, 1, false⟩ new
        (fun blk same => by
          rw [← Option.some.inj same]
          exact fresh)
        ⟨fun _ _ => rfl, fun _ => typed⟩
      refine inv.set ⟨pool.key, pool.resList ++ [⟨type, tag, val, .hwBlk, 1, false⟩]⟩ member rfl
        sound fun b => ?_
      rw [blocks, List.count_append]
      simp only [Crtc.set, Res.block, Option.toList_some, List.count_singleton, beq_iff_eq]
      by_cases here : b = val
      · rw [here, if_pos rfl, Function.update_self]
        omega
      · rw [if_neg (Ne.symm here), Function.update_of_ne here]
        omega
    | other =>
      obtain ⟨code, rfl⟩ := other rfl
      have sound := (inv.sound pool member).append ⟨.other code, tag, val, .other, 1, false⟩ new
        (fun blk same => by cases same) ⟨fun _ same => (by cases same), fun same => (by cases same)⟩
      refine inv.set ⟨pool.key, pool.resList ++ [⟨.other code, tag, val, .other, 1, false⟩]⟩ member
        rfl sound fun b => ?_
      rw [blocks, List.count_append]
      simp only [Crtc.set, Res.block, Option.toList_none, List.count_nil, Nat.add_zero]

/-- Every step keeps the invariant, where resources are handed in as they should be and blocks that
    are taken over are new. -/
theorem inv_step (inv : Inv blks crtc) {input : Input} (handed : Handed blks crtc input)
    (takesOver : TakesOverNew blks crtc input) : Inv blks (step blks crtc input) := by
  cases input with
  | reset key =>
    rw [step]
    split
    next none => exact inv.rpReset (findPool_none none)
    next => exact inv
  | duplicate key new starts =>
    rw [step]
    cases found : findPool crtc.pools key with
    | none => exact inv
    | some pool =>
      dsimp only
      split
      next none => exact inv.rpDuplicate (findPool_some found).1 (findPool_none none) starts
      next => exact inv
  | get key type tag starts allocates =>
    rw [step]
    cases found : findPool crtc.pools key with
    | none => exact inv
    | some pool =>
      obtain ⟨member, rfl⟩ := findPool_some found
      exact inv.rpGet member (takesOver pool found)
  | put key type tag =>
    rw [step]
    cases found : findPool crtc.pools key with
    | none => exact inv
    | some pool => exact inv.put (findPool_some found).1 type tag
  | add key type tag val ops allocates =>
    rw [step]
    cases found : findPool crtc.pools key with
    | none => exact inv
    | some pool =>
      refine inv.rpAdd (findPool_some found).1 (fun hwBlk => ?_) (fun other => ?_)
      · subst hwBlk
        obtain ⟨typed, there, fresh⟩ := handed
        exact ⟨typed, there, fresh pool found⟩
      · subst other
        exact handed
  | freeUnused key =>
    rw [step]
    cases found : findPool crtc.pools key with
    | none => exact inv
    | some pool => exact inv.rpFreeUnused (findPool_some found).1
  | destroy key =>
    rw [step]
    cases found : findPool crtc.pools key with
    | none => exact inv
    | some pool => exact inv.rpDestroy (findPool_some found).1
  | taken blk =>
    refine ⟨inv.keys, inv.sound, fun b => ?_⟩
    have counted := inv.counted b
    rw [step]
    dsimp only
    rw [increment_apply, increment_apply]
    omega
  | dropped blk =>
    rw [step]
    split
    next => exact inv
    next some =>
      refine ⟨inv.keys, inv.sound, fun b => ?_⟩
      have counted := inv.counted b
      dsimp only
      rw [put_apply]
      by_cases here : b = blk
      · rw [here] at counted ⊢
        rw [if_pos rfl, Function.update_self]
        omega
      · rw [if_neg here, Function.update_of_ne here]
        omega

end Keeps

/-! ## When the blocks are exclusive -/

section Exclusive

variable {blks : HwBlks} {crtc : Crtc}

theorem Inv.exclusive (inv : Inv blks crtc) : Exclusive crtc := by
  intro pool member
  have sound := inv.sound pool member
  refine ⟨sound.keys, (List.pairwise_filterMap.mp sound.blocks).imp
    fun {a b} distinct _ _ _ blk at_a at_b => ?_⟩
  exact distinct blk at_a blk at_b rfl

theorem rpGet_stolen {pool : Pool} {type : ResType} {tag : ℕ} {starts : ℕ → Bool} {res : Res}
    (reuse : pool.reuse type tag = none)
    (got : (sdeHwBlkGet blks starts crtc.refs none type (-1)).1 = none)
    (stolen : stealFrom crtc.pools pool.key type = some res) :
    (crtc.rpGet blks starts true pool type tag).2.pools =
      (crtc.set ⟨pool.key, pool.resList ++ [⟨type, tag, res.val, .hwBlk, 1, false⟩]⟩).pools := by
  have new := (reuse_none reuse).1
  rw [Crtc.rpGet, reuse]
  cases result : sdeHwBlkGet blks starts crtc.refs none type (-1) with
  | mk found refs =>
    rw [result] at got
    dsimp only at got ⊢
    rw [got]
    dsimp only
    rw [stolen]
    dsimp only
    rw [Crtc.addRes, addNoLock_new true new]
    rfl

theorem takesOver_of_exclusive {input : Input} (inv : Inv blks crtc)
    (next : Exclusive (step blks crtc input)) : TakesOverNew blks crtc input := by
  cases input with
  | get key type tag starts allocates =>
    intro pool found reuse got res stolen alloc held
    obtain ⟨member, rfl⟩ := findPool_some found
    obtain ⟨new, inUse⟩ := reuse_none reuse
    obtain ⟨⟨hwType, rfl⟩, same, old, at_old, -, at_res⟩ := stealFrom_some stolen
    obtain ⟨hwBlk, typed⟩ := (inv.sound old at_old).typed res at_res
    obtain ⟨mine, at_mine, mineOps, mineVal⟩ := mem_blocks.mp held
    -- both entries have the type of the block
    have mineType : mine.type = .hw hwType := by
      rw [((inv.sound pool member).typed mine at_mine).2 mineOps, mineVal,
        ← typed (hwBlk _ same), same]
    have after : ⟨pool.key, pool.resList ++ [⟨.hw hwType, tag, res.val, .hwBlk, 1, false⟩]⟩ ∈
        (step blks crtc (.get pool.key (.hw hwType) tag starts allocates)).pools := by
      rw [step, found, alloc]
      dsimp only
      rw [rpGet_stolen reuse got stolen]
      exact mem_setPool member rfl
    have apart :=
      (List.pairwise_append.mp (next _ after).2).2.2 mine at_mine _ (List.mem_singleton_self _)
    have otherTag : mine.tag ≠ tag := by
      intro sameTag
      refine new (List.mem_map.mpr ⟨mine, at_mine, ?_⟩)
      rw [mineType, sameTag]
    exact apart otherTag (inUse mine at_mine mineType) rfl res.val
      (block_eq_some.mpr ⟨mineOps, mineVal⟩) rfl
  | _ => trivial

end Exclusive

/-- A run of the pools of a CRTC, in which resources are handed in as they should be, gives out
    hardware blocks exclusively exactly when no pool takes over a block that it has already. -/
theorem res_pools_exclusive_iff (blks : HwBlks) {inputs : List Input}
    (handed : StepsMeet (step blks) (Handed blks) initial inputs) :
    Throughout (step blks) Exclusive initial inputs ↔
      StepsMeet (step blks) (TakesOverNew blks) initial inputs := by
  have start : Inv blks initial := ⟨.nil, fun _ member => (by cases member), fun _ => rfl⟩
  refine throughout_iff_stepsMeet_good (Inv blks)
    (fun crtc input handed inv _ next => inv_step inv handed (takesOver_of_exclusive inv next))
    (fun crtc input handed inv _ => ⟨takesOver_of_exclusive inv, fun takesOver => ?_⟩) start
    start.exclusive handed
  exact (inv_step inv handed takesOver).exclusive

/-! ## One rotator for two planes -/

def oneRotator : HwBlks := ⟨[0], fun _ => .rot, fun blk => blk⟩

/-- After the duplication the second plane gets the block that the first one has. -/
def secondPlane : List Input :=
  [.reset 0, .get 0 (.hw .rot) 1 (fun _ => true) true, .duplicate 0 1 fun _ => true,
    .get 1 (.hw .rot) 1 (fun _ => true) true, .get 1 (.hw .rot) 2 (fun _ => true) true]

theorem rotator_shared : StepsMeet (step oneRotator) (Handed oneRotator) initial secondPlane ∧
    ¬Throughout (step oneRotator) Exclusive initial secondPlane := by
  refine ⟨⟨trivial, trivial, trivial, trivial, trivial, trivial⟩, fun always => ?_⟩
  have last := throughout_iff_prefix.mp always secondPlane [] (List.append_nil _).symm
  have pools : (run (step oneRotator) initial secondPlane).pools =
      [⟨0, [⟨.hw .rot, 1, 0, .hwBlk, 1, false⟩]⟩,
        ⟨1, [⟨.hw .rot, 1, 0, .hwBlk, 1, false⟩, ⟨.hw .rot, 2, 0, .hwBlk, 1, false⟩]⟩] := rfl
  rw [Exclusive, pools] at last
  have pairwise := (last _ (.tail _ (.head _))).2
  have apart := (List.pairwise_cons.mp pairwise).1 _ (List.mem_singleton_self _)
  exact apart (by decide) rfl rfl 0 rfl rfl

/-- The block is handed in, and the duplicated state takes it. -/
def handedIn : List Input :=
  [.reset 0, .taken 0, .add 0 (.hw .rot) 1 0 .hwBlk true, .duplicate 0 1 fun _ => true,
    .get 1 (.hw .rot) 2 (fun _ => true) true]

theorem res_pools_exclusive_handed_in :
    Throughout (step oneRotator) Exclusive initial handedIn ↔
      StepsMeet (step oneRotator) (TakesOverNew oneRotator) initial handedIn := by
  refine res_pools_exclusive_iff oneRotator
    ⟨trivial, trivial, ⟨rfl, by decide, fun pool found => ?_⟩,
    trivial, trivial, trivial⟩
  cases found
  exact List.not_mem_nil

end DisplayDrivers.ResPool
