import DisplayDrivers.Lib.FirstMatch
import DisplayDrivers.Rm.Blocks
import Mathlib.Data.List.Count

/-! # Resource pools of a CRTC

Each state of a CRTC has a pool of resources, found by type and tag.
-/

namespace DisplayDrivers.ResPool

open DisplayDrivers.Rm (HwBlkType)
open DisplayDrivers.Lib.FirstMatch

/-- The types below `SDE_HW_BLK_MAX`, and those of other resources. -/
inductive ResType
  | hw (type : HwBlkType)
  | other (code : ℕ)
deriving DecidableEq

/-- What the callbacks of a resource do: those of hardware blocks take and drop a reference on the
    block, those of other resources leave all blocks alone. -/
inductive Ops
  | hwBlk | other
deriving DecidableEq

/-- `struct sde_crtc_res`; `free` is `SDE_CRTC_RES_FLAG_FREE`. -/
structure Res where
  type : ResType
  tag : ℕ
  val : ℕ
  ops : Ops
  refcount : ℕ
  free : Bool
deriving DecidableEq

/-- `struct sde_crtc_respool`, at an address -/
structure Pool where
  key : ℕ
  resList : List Res
deriving DecidableEq

/-! ## Hardware blocks -/

/-- `sde_hw_blk_list` -/
structure HwBlks where
  list : List ℕ
  type : ℕ → HwBlkType
  id : ℕ → Int

/-- The search of `sde_hw_blk_get`; without an id it passes over the blocks that are in use. -/
def HwBlks.search (blks : HwBlks) (refs : ℕ → ℕ) (type : ResType) (id : Int) : Option ℕ :=
  blks.list.find? fun curr =>
    !(.hw (blks.type curr) ≠ type || (id ≥ 0 && blks.id curr ≠ id) || (id < 0 && refs curr ≠ 0))

def increment (refs : ℕ → ℕ) (blk : ℕ) : ℕ → ℕ := Function.update refs blk (refs blk + 1)

def sdeHwBlkPut (refs : ℕ → ℕ) (blk : ℕ) : ℕ → ℕ :=
  if refs blk = 0 then refs else Function.update refs blk (refs blk - 1)

/-- `sde_hw_blk_get` for a block that is given; `starts` tells whose start callbacks succeed. -/
def hwBlkTake (starts : ℕ → Bool) (refs : ℕ → ℕ) (blk : ℕ) : Option ℕ × (ℕ → ℕ) :=
  if increment refs blk blk = 1 ∧ starts blk = false then
    (none, sdeHwBlkPut (increment refs blk) blk)
  else (some blk, increment refs blk)

/-- `sde_hw_blk_get`, where an error pointer is as good as none. -/
def sdeHwBlkGet (blks : HwBlks) (starts : ℕ → Bool) (refs : ℕ → ℕ) (hwBlk : Option ℕ)
    (type : ResType)
    (id : Int) : Option ℕ × (ℕ → ℕ) :=
  match hwBlk.or (blks.search refs type id) with
  | none => (none, refs)
  | some blk => hwBlkTake starts refs blk

/-! ## Resources -/

namespace Res

def tagged (type : ResType) (tag : ℕ) (res : Res) : Bool := res.type = type && res.tag = tag

def unused (type : ResType) (res : Res) : Bool := res.type = type && res.free

def block (res : Res) : Option ℕ :=
  match res.ops with
  | .hwBlk => some res.val
  | .other => none

def use (res : Res) : Res := { res with refcount := res.refcount + 1, free := false }

def release (res : Res) : Res :=
  if res.free then res
  else { res with refcount := res.refcount - 1, free := res.refcount = 1 }

def get (starts : ℕ → Bool) (refs : ℕ → ℕ) (res : Res) : ℕ → ℕ :=
  match res.ops with
  | .hwBlk => (hwBlkTake starts refs res.val).2
  | .other => refs

def put (refs : ℕ → ℕ) (res : Res) : ℕ → ℕ :=
  match res.ops with
  | .hwBlk => sdeHwBlkPut refs res.val
  | .other => refs

def duplicate (res : Res) : Res := { res with refcount := 0, free := true }

end Res

/-! ## One pool -/

def eexist : Int := -17
def enomem : Int := -12

namespace Pool

def blocks (pool : Pool) : List ℕ := pool.resList.filterMap Res.block

/-- The part of `_sde_crtc_rp_get` that looks into the pool itself: an entry with the tag, else a
    free one of the type, which gets the tag. -/
def reuse (pool : Pool) (type : ResType) (tag : ℕ) : Option (ℕ × Pool) :=
  match pool.resList.find? (Res.tagged type tag) with
  | some res =>
    some (res.val, { pool with resList := modifyFirst (Res.tagged type tag) Res.use pool.resList })
  | none =>
    match pool.resList.find? (Res.unused type) with
    | some res =>
      some (res.val, { pool with
        resList :=
          modifyFirst (Res.unused type) (fun res => { res.use with tag := tag }) pool.resList })
    | none => none

def addNoLock (pool : Pool) (allocates : Bool) (type : ResType) (tag val : ℕ) (ops : Ops) :
    Except Int Pool :=
  if pool.resList.any (Res.tagged type tag) then .error eexist
  else if allocates then
    .ok { pool with resList := pool.resList ++ [⟨type, tag, val, ops, 1, false⟩] }
  else .error enomem

/-- `_sde_crtc_rp_put` -/
def put (pool : Pool) (type : ResType) (tag : ℕ) : Pool :=
  { pool with resList := modifyFirst (Res.tagged type tag) Res.release pool.resList }

/-- What `_sde_crtc_rp_reclaim` takes out of the pool, and what it leaves. -/
def reclaimed (pool : Pool) (force : Bool) : List Res :=
  pool.resList.filter fun res => force || res.free

def kept (pool : Pool) (force : Bool) : Pool :=
  { pool with resList := pool.resList.filter fun res => !(force || res.free) }

end Pool

/-! ## The pools of a CRTC -/

def findPool (pools : List Pool) (key : ℕ) : Option Pool := pools.find? fun pool => pool.key = key

def setPool (pools : List Pool) (next : Pool) : List Pool :=
  pools.map fun old => if old.key = next.key then next else old

def stealFrom (pools : List Pool) (key : ℕ) (type : ResType) : Option Res :=
  match type with
  | .hw _ => (pools.filter fun old => old.key ≠ key).findSome? fun old =>
      old.resList.find? fun res => res.type = type
  | .other _ => none

/-! ## What the operations keep -/

structure Sound (blks : HwBlks) (pool : Pool) : Prop where
  keys : (pool.resList.map fun res => (res.type, res.tag)).Nodup
  blocks : pool.blocks.Nodup
  typed : ∀ res ∈ pool.resList, (∀ type, res.type = .hw type → res.ops = .hwBlk) ∧
    (res.ops = .hwBlk → res.type = .hw (blks.type res.val))

section Entries

variable {blks : HwBlks} {pool next : Pool} {res : Res} {type : ResType} {tag val : ℕ}

theorem tagged_iff : res.tagged type tag = true ↔ (res.type, res.tag) = (type, tag) := by
  rw [Res.tagged, Bool.and_eq_true, decide_eq_true_eq, decide_eq_true_eq, Prod.mk.injEq]

theorem unused_iff : res.unused type = true ↔ res.type = type ∧ res.free = true := by
  rw [Res.unused, Bool.and_eq_true, decide_eq_true_eq]

theorem block_eq_some {blk : ℕ} : res.block = some blk ↔ res.ops = .hwBlk ∧ res.val = blk := by
  rw [Res.block]
  cases res.ops with
  | hwBlk => simp
  | other => simp

theorem block_eq_none : res.block = none ↔ res.ops = .other := by
  rw [Res.block]
  cases res.ops with
  | hwBlk => simp
  | other => simp

theorem mem_blocks {blk : ℕ} :
    blk ∈ pool.blocks ↔ ∃ res ∈ pool.resList, res.ops = .hwBlk ∧ res.val = blk := by
  rw [Pool.blocks, List.mem_filterMap]
  simp only [block_eq_some]

theorem release_entry (res : Res) : res.release.type = res.type ∧ res.release.tag = res.tag ∧
    res.release.val = res.val ∧ res.release.ops = res.ops := by
  rw [Res.release]
  split
  · exact ⟨rfl, rfl, rfl, rfl⟩
  · exact ⟨rfl, rfl, rfl, rfl⟩

theorem reuse_none (none : pool.reuse type tag = none) :
    (type, tag) ∉ pool.resList.map (fun res => (res.type, res.tag)) ∧
      ∀ res ∈ pool.resList, res.type = type → res.free = false := by
  rw [Pool.reuse] at none
  cases by_tag : pool.resList.find? (Res.tagged type tag) with
  | some found =>
    rw [by_tag] at none
    cases none
  | none =>
    rw [by_tag] at none
    cases by_type : pool.resList.find? (Res.unused type) with
    | some found =>
      simp only [by_type] at none
      cases none
    | none =>
      constructor
      · intro member
        obtain ⟨found, at_found, same⟩ := List.mem_map.mp member
        exact List.find?_eq_none.mp by_tag found at_found (tagged_iff.mpr same)
      · intro found at_found same
        have used := List.find?_eq_none.mp by_type found at_found
        rw [unused_iff] at used
        cases free : found.free with
        | false => rfl
        | true => exact absurd ⟨same, free⟩ used

variable {f : Res → Res}

theorem blocks_modifyFirst (pool : Pool) (p : Res → Bool) (ops : ∀ res, (f res).ops = res.ops)
    (val : ∀ res, (f res).val = res.val) :
    Pool.blocks { pool with resList := modifyFirst p f pool.resList } = pool.blocks :=
  filterMap_modifyFirst fun res => by rw [Res.block, Res.block, ops, val]

theorem Sound.congr (sound : Sound blks pool) {p : Res → Bool}
    (type : ∀ res, (f res).type = res.type) (ops : ∀ res, (f res).ops = res.ops)
    (val : ∀ res, (f res).val = res.val)
    (keys : ((modifyFirst p f pool.resList).map fun res => (res.type, res.tag)).Nodup) :
    Sound blks { pool with resList := modifyFirst p f pool.resList } ∧
      Pool.blocks { pool with resList := modifyFirst p f pool.resList } = pool.blocks := by
  have same := blocks_modifyFirst pool p ops val
  refine ⟨⟨keys, same ▸ sound.blocks, fun res member => ?_⟩, same⟩
  obtain before | ⟨found, at_found, -, rfl⟩ := mem_modifyFirst member
  · exact sound.typed res before
  · rw [type, ops, val]
    exact sound.typed found at_found

theorem reuse_some (some : pool.reuse type tag = some (val, next)) :
    next = { pool with resList := modifyFirst (Res.tagged type tag) Res.use pool.resList } ∨
      (type, tag) ∉ pool.resList.map (fun res => (res.type, res.tag)) ∧
        next = { pool with
          resList := modifyFirst (Res.unused type) (fun res => { res.use with tag := tag })
            pool.resList } := by
  rw [Pool.reuse] at some
  cases by_tag : pool.resList.find? (Res.tagged type tag) with
  | some found =>
    rw [by_tag, Option.some.injEq, Prod.mk.injEq] at some
    exact .inl some.2.symm
  | none =>
    rw [by_tag] at some
    cases by_type : pool.resList.find? (Res.unused type) with
    | none =>
      simp only [by_type] at some
      cases some
    | some found =>
      simp only [by_type, Option.some.injEq, Prod.mk.injEq] at some
      refine .inr ⟨fun occurs => ?_, some.2.symm⟩
      obtain ⟨other, at_other, same⟩ := List.mem_map.mp occurs
      exact List.find?_eq_none.mp by_tag other at_other (tagged_iff.mpr same)

theorem Sound.reuse (sound : Sound blks pool) (some : pool.reuse type tag = some (val, next)) :
    Sound blks next ∧ next.blocks = pool.blocks ∧ next.key = pool.key := by
  obtain rfl | ⟨new, rfl⟩ := reuse_some some
  · have keys := map_modifyFirst (p := Res.tagged type tag) (f := Res.use) (l := pool.resList)
      (g := fun res => (res.type, res.tag)) fun _ => rfl
    obtain ⟨next, blocks⟩ := sound.congr (p := Res.tagged type tag) (f := Res.use) (fun _ => rfl)
      (fun _ => rfl) (fun _ => rfl) (keys ▸ sound.keys)
    exact ⟨next, blocks, rfl⟩
  · have keys : ((modifyFirst (Res.unused type) (fun res => { res.use with tag := tag })
        pool.resList).map fun res => (res.type, res.tag)).Nodup := by
      refine nodup_modifyFirst sound.keys fun res _ unused occurs => new ?_
      rw [← (unused_iff.mp unused).1]
      exact occurs
    obtain ⟨next, blocks⟩ := sound.congr (p := Res.unused type)
      (f := fun res => { res.use with tag := tag }) (fun _ => rfl) (fun _ => rfl)
        (fun _ => rfl) keys
    exact ⟨next, blocks, rfl⟩

theorem Sound.put (sound : Sound blks pool) (type : ResType) (tag : ℕ) :
    Sound blks (pool.put type tag) ∧ (pool.put type tag).blocks = pool.blocks := by
  have keys : (modifyFirst (Res.tagged type tag) Res.release pool.resList).map
    (fun res => (res.type, res.tag)) =
      pool.resList.map fun res => (res.type, res.tag) :=
    map_modifyFirst fun res => by rw [(release_entry res).1, (release_entry res).2.1]
  exact sound.congr (fun res => (release_entry res).1) (fun res => (release_entry res).2.2.2)
    (fun res => (release_entry res).2.2.1) (keys ▸ sound.keys)

theorem addNoLock_ok {allocates : Bool} {ops : Ops}
    (ok : pool.addNoLock allocates type tag val ops = .ok next) :
    allocates = true ∧ (type, tag) ∉ pool.resList.map (fun res => (res.type, res.tag)) ∧
      next = { pool with resList := pool.resList ++ [⟨type, tag, val, ops, 1, false⟩] } := by
  rw [Pool.addNoLock] at ok
  by_cases exists_tag : pool.resList.any (Res.tagged type tag) = true
  · rw [if_pos exists_tag] at ok
    cases ok
  · rw [if_neg exists_tag] at ok
    cases allocates with
    | false => cases ok
    | true =>
      rw [if_pos rfl, Except.ok.injEq] at ok
      refine ⟨rfl, fun occurs => exists_tag ?_, ok.symm⟩
      obtain ⟨other, at_other, same⟩ := List.mem_map.mp occurs
      exact List.any_eq_true.mpr ⟨other, at_other, tagged_iff.mpr same⟩

theorem addNoLock_new {ops : Ops} (allocates : Bool)
    (new : (type, tag) ∉ pool.resList.map fun res => (res.type, res.tag)) :
    pool.addNoLock allocates type tag val ops =
      if allocates then .ok
        { pool with resList := pool.resList ++ [⟨type, tag, val, ops, 1, false⟩] }
      else .error enomem := by
  rw [Pool.addNoLock, if_neg]
  intro occurs
  obtain ⟨other, at_other, same⟩ := List.any_eq_true.mp occurs
  exact new (List.mem_map.mpr ⟨other, at_other, tagged_iff.mp same⟩)

theorem blocks_append (pool : Pool) (entry : Res) :
    Pool.blocks { pool with resList := pool.resList ++ [entry] } =
      pool.blocks ++ entry.block.toList := by
  rw [Pool.blocks, List.filterMap_append, Pool.blocks, List.filterMap_cons, List.filterMap_nil]
  cases entry.block with
  | none => rfl
  | some blk => rfl

theorem Sound.append (sound : Sound blks pool) (entry : Res)
    (new : (entry.type, entry.tag) ∉ pool.resList.map fun res => (res.type, res.tag))
    (fresh : ∀ blk, entry.block = some blk → blk ∉ pool.blocks)
    (typed : (∀ type, entry.type = .hw type → entry.ops = .hwBlk) ∧
      (entry.ops = .hwBlk → entry.type = .hw (blks.type entry.val))) :
    Sound blks { pool with resList := pool.resList ++ [entry] } := by
  refine ⟨?_, ?_, fun res member => ?_⟩
  · rw [List.map_append, List.map_singleton]
    refine List.nodup_append.mpr ⟨sound.keys, List.nodup_singleton _,
      fun key before last at_last same => ?_⟩
    rw [List.mem_singleton.mp at_last] at same
    exact new (same ▸ before)
  · rw [blocks_append]
    cases at_block : entry.block with
    | none =>
      rw [Option.toList_none, List.append_nil]
      exact sound.blocks
    | some blk =>
      refine List.nodup_append.mpr ⟨sound.blocks, List.nodup_singleton _,
        fun b before last at_last same => ?_⟩
      rw [List.mem_singleton.mp at_last] at same
      exact fresh blk at_block (same ▸ before)
  · cases List.mem_append.mp member with
    | inl before => exact sound.typed res before
    | inr last =>
      rw [List.mem_singleton.mp last]
      exact typed

theorem Sound.sublist (sound : Sound blks pool) {key : ℕ} {entries : List Res}
    (sub : entries.Sublist pool.resList) : Sound blks ⟨key, entries⟩ :=
  ⟨sound.keys.sublist (sub.map _), sound.blocks.sublist (sub.filterMap Res.block),
    fun res member => sound.typed res (sub.subset member)⟩

theorem Sound.duplicate (sound : Sound blks pool) (key : ℕ) :
    Sound blks ⟨key, pool.resList.map Res.duplicate⟩ ∧
      Pool.blocks ⟨key, pool.resList.map Res.duplicate⟩ = pool.blocks := by
  have same : Pool.blocks ⟨key, pool.resList.map Res.duplicate⟩ = pool.blocks := by
    rw [Pool.blocks, List.filterMap_map]
    rfl
  refine ⟨⟨?_, same ▸ sound.blocks, fun res member => ?_⟩, same⟩
  · rw [List.map_map]
    exact sound.keys
  · obtain ⟨original, at_original, rfl⟩ := List.mem_map.mp member
    exact sound.typed original at_original

theorem stealFrom_some {pools : List Pool} {key : ℕ} (some : stealFrom pools key type = some res) :
    (∃ hwType, type = .hw hwType) ∧ res.type = type ∧
      ∃ old ∈ pools, old.key ≠ key ∧ res ∈ old.resList := by
  cases type with
  | other code => cases some
  | hw hwType =>
    obtain ⟨old, at_old, found⟩ := List.exists_of_findSome?_eq_some some
    obtain ⟨at_pools, other⟩ := List.mem_filter.mp at_old
    have same := List.find?_some found
    exact ⟨⟨hwType, rfl⟩, of_decide_eq_true same, old, at_pools, of_decide_eq_true other,
      List.mem_of_find?_eq_some found⟩

end Entries

section Pools

variable {pools : List Pool} {pool next : Pool} {key : ℕ}

theorem findPool_some (found : findPool pools key = some pool) : pool ∈ pools ∧ pool.key = key :=
  ⟨List.mem_of_find?_eq_some found,
    of_decide_eq_true (List.find?_some (p := fun pool : Pool => decide (pool.key = key)) found)⟩

theorem findPool_none (none : (findPool pools key).isNone = true) : key ∉ pools.map Pool.key := by
  rw [Option.isNone_iff_eq_none, findPool, List.find?_eq_none] at none
  intro member
  obtain ⟨pool, at_pool, same⟩ := List.mem_map.mp member
  exact none pool at_pool (decide_eq_true same)

theorem mem_setPool (member : pool ∈ pools) (same : next.key = pool.key) :
    next ∈ setPool pools next :=
  List.mem_map.mpr ⟨pool, member, if_pos same.symm⟩

theorem of_mem_setPool (member : pool ∈ setPool pools next) : pool = next ∨ pool ∈ pools := by
  obtain ⟨old, at_old, rfl⟩ := List.mem_map.mp member
  split
  · exact .inl rfl
  · exact .inr at_old

theorem keys_setPool (pools : List Pool) (next : Pool) :
    (setPool pools next).map Pool.key = pools.map Pool.key := by
  rw [setPool, List.map_map]
  refine List.map_congr_left fun old _ => ?_
  rw [Function.comp_apply]
  split
  next key => exact key.symm
  next => rfl

theorem nodup_keys_append (next : Pool) (keys : (pools.map Pool.key).Nodup)
    (new : next.key ∉ pools.map Pool.key) :
    ((pools ++ [next]).map Pool.key).Nodup := by
  rw [List.map_append, List.map_singleton]
  refine List.nodup_append.mpr
    ⟨keys, List.nodup_singleton _, fun key before last at_last same => ?_⟩
  rw [List.mem_singleton.mp at_last] at same
  exact new (same ▸ before)

theorem count_setPool (next : Pool) (keys : (pools.map Pool.key).Nodup) (member : pool ∈ pools)
    (same : next.key = pool.key) (b : ℕ) :
    ((setPool pools next).flatMap Pool.blocks).count b + pool.blocks.count b =
    (pools.flatMap Pool.blocks).count b + next.blocks.count b := by
  rw [setPool]
  induction pools with
  | nil => cases member
  | cons first pools ih =>
    rw [List.map_cons, List.nodup_cons] at keys
    rw [List.map_cons, List.flatMap_cons, List.flatMap_cons, List.count_append, List.count_append]
    cases member with
    | head =>
      -- the pools behind it have other keys
      have others : pools.map (fun old => if old.key = next.key then next else old) = pools := by
        refine (List.map_congr_left fun old at_old => if_neg fun key => keys.1 ?_).trans
          (List.map_id _)
        rw [← same, ← key]
        exact List.mem_map_of_mem at_old
      rw [if_pos same.symm, others]
      omega
    | tail _ later =>
      have other : first.key ≠ next.key := by
        intro key
        refine keys.1 ?_
        rw [key, same]
        exact List.mem_map_of_mem later
      have rest := ih keys.2 later
      rw [if_neg other]
      omega

theorem count_filter (keys : (pools.map Pool.key).Nodup) (member : pool ∈ pools)
    (b : ℕ) :
    ((pools.filter fun other => other.key ≠ pool.key).flatMap Pool.blocks).count b +
      pool.blocks.count b = (pools.flatMap Pool.blocks).count b := by
  induction pools with
  | nil => cases member
  | cons first pools ih =>
    rw [List.map_cons, List.nodup_cons] at keys
    rw [List.flatMap_cons, List.count_append]
    cases member with
    | head =>
      have others : pools.filter (fun other => other.key ≠ pool.key) = pools :=
        List.filter_eq_self.mpr fun old at_old =>
          decide_eq_true fun same => keys.1 (same ▸ List.mem_map_of_mem at_old)
      rw [List.filter_cons_of_neg (by simp), others]
      omega
    | tail _ later =>
      have other : first.key ≠ pool.key := fun same => keys.1 (same ▸ List.mem_map_of_mem later)
      have rest := ih keys.2 later
      rw [List.filter_cons_of_pos (by simpa using other), List.flatMap_cons, List.count_append]
      omega

theorem count_reclaimed (pool : Pool) (force : Bool) (b : ℕ) :
    pool.blocks.count b =
      ((pool.reclaimed force).filterMap Res.block).count b + (pool.kept force).blocks.count b := by
  have parts := (List.filter_append_perm (fun res : Res => force || res.free) pool.resList).symm
  rw [Pool.blocks, (parts.filterMap Res.block).count_eq, List.filterMap_append, List.count_append]
  rfl

end Pools

/-! ## References -/

section References

variable {blks : HwBlks} {starts : ℕ → Bool} {refs next : ℕ → ℕ} {type : ResType}

theorem increment_apply (refs : ℕ → ℕ) (blk b : ℕ) :
    increment refs blk b = refs b + if b = blk then 1 else 0 := by
  rw [increment]
  by_cases here : b = blk
  · rw [if_pos here, here, Function.update_self]
  · rw [if_neg here, Function.update_of_ne here, Nat.add_zero]

theorem put_apply (refs : ℕ → ℕ) (blk b : ℕ) :
    sdeHwBlkPut refs blk b = refs b - if b = blk then 1 else 0 := by
  rw [sdeHwBlkPut]
  by_cases none : refs blk = 0
  · rw [if_pos none]
    split
    next here => rw [here, none]
    next => rfl
  · rw [if_neg none]
    by_cases here : b = blk
    · rw [if_pos here, here, Function.update_self]
    · rw [if_neg here, Function.update_of_ne here, Nat.sub_zero]

theorem put_increment (refs : ℕ → ℕ) (blk : ℕ) : sdeHwBlkPut (increment refs blk) blk = refs := by
  funext b
  rw [put_apply, increment_apply, Nat.add_sub_cancel]

variable {blk : ℕ}

theorem hwBlkTake_of_pos (used : 0 < refs blk) :
    hwBlkTake starts refs blk = (some blk, increment refs blk) := by
  rw [hwBlkTake, if_neg]
  rw [increment_apply, if_pos rfl]
  omega

theorem get_of_used {res : Res} (hwBlk : res.ops = .hwBlk) (used : 0 < refs res.val) :
    res.get starts refs = increment refs res.val := by
  rw [Res.get, hwBlk]
  exact congrArg Prod.snd (hwBlkTake_of_pos used)

theorem search_some (found : blks.search refs type (-1) = some blk) :
    type = .hw (blks.type blk) ∧ refs blk = 0 := by
  have fits := List.find?_some found
  simp only [Bool.not_or, Bool.and_eq_true, Bool.not_eq_true', decide_eq_false_iff_not, not_not,
    Bool.and_eq_false_iff] at fits
  refine ⟨fits.1.1.symm, ?_⟩
  cases fits.2 with
  | inl nonneg => omega
  | inr unused => exact unused

theorem sdeHwBlkGet_some (got : sdeHwBlkGet blks starts refs none type (-1) = (some blk, next)) :
    type = .hw (blks.type blk) ∧ refs blk = 0 ∧ next = increment refs blk := by
  rw [sdeHwBlkGet, Option.none_or] at got
  cases found : blks.search refs type (-1) with
  | none =>
    rw [found] at got
    cases got
  | some candidate =>
    rw [found] at got
    obtain ⟨typed, unused⟩ := search_some found
    simp only [hwBlkTake] at got
    split at got
    · cases got
    · obtain ⟨same, rfl⟩ := Prod.mk.inj got
      rw [← Option.some.inj same]
      exact ⟨typed, unused, rfl⟩

theorem sdeHwBlkGet_none (got : sdeHwBlkGet blks starts refs none type (-1) = (none, next)) :
    next = refs := by
  rw [sdeHwBlkGet, Option.none_or] at got
  cases found : blks.search refs type (-1) with
  | none =>
    rw [found] at got
    exact (Prod.mk.inj got).2.symm
  | some candidate =>
    rw [found] at got
    simp only [hwBlkTake] at got
    split at got
    · rw [← (Prod.mk.inj got).2]
      exact put_increment refs candidate
    · cases got

theorem foldl_get (entries : List Res) (used : ∀ blk ∈ entries.filterMap Res.block, 0 < refs blk)
    (b : ℕ) :
    entries.foldl (Res.get starts) refs b = refs b + (entries.filterMap Res.block).count b := by
  induction entries generalizing refs with
  | nil => rfl
  | cons res entries ih =>
    rw [List.foldl_cons]
    cases at_block : res.block with
    | none =>
      rw [List.filterMap_cons_none at_block] at used ⊢
      rw [Res.get, block_eq_none.mp at_block]
      exact ih used
    | some blk =>
      obtain ⟨hwBlk, rfl⟩ := block_eq_some.mp at_block
      rw [List.filterMap_cons_some at_block] at used ⊢
      rw [get_of_used hwBlk (used _ List.mem_cons_self), ih, increment_apply, List.count_cons]
      · simp only [beq_iff_eq, eq_comm (a := b)]
        omega
      · intro later member
        have before := used later (.tail _ member)
        rw [increment_apply]
        omega

theorem foldl_put (entries : List Res) (b : ℕ) :
    entries.foldl Res.put refs b = refs b - (entries.filterMap Res.block).count b := by
  induction entries generalizing refs with
  | nil => rfl
  | cons res entries ih =>
    rw [List.foldl_cons, ih]
    cases at_block : res.block with
    | none =>
      rw [List.filterMap_cons_none at_block, Res.put, block_eq_none.mp at_block]
    | some blk =>
      obtain ⟨hwBlk, rfl⟩ := block_eq_some.mp at_block
      rw [List.filterMap_cons_some at_block, Res.put, hwBlk, List.count_cons]
      dsimp only
      rw [put_apply]
      simp only [beq_iff_eq, eq_comm (a := b)]
      omega

end References

end DisplayDrivers.ResPool
