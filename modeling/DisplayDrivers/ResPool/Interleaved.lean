import DisplayDrivers.Lib.Run
import DisplayDrivers.Lib.Shares
import DisplayDrivers.ResPool.Pool

/-! # Pools of several CRTCs

The operations of one CRTC follow each other under its `rp_lock`, and those of different CRTCs
interleave: the lock of the list of blocks covers the search alone, and each change of a reference
count, each call of a start or stop callback and each end of an operation is a step of its own.
-/

namespace DisplayDrivers.ResPool.Interleaved

open DisplayDrivers.Lib.Shares

/-! ## Where a CRTC is -/

/-- A `_sde_crtc_rp_get` that has found nothing in its own pool. -/
structure Get where
  pool : Pool
  type : ResType
  tag : ℕ
deriving DecidableEq

inductive After
  | add (get : Get)
  | takeOver (get : Get)
  | copy (new : Pool) (res : Res) (rest : List Res)
deriving DecidableEq

inductive Reason
  | failed (after : After)
  | unadded
  | reclaim (rest : List Res)
deriving DecidableEq

inductive Pc
  | idle
  | search (get : Get)
  | increment (blk : ℕ) (after : After)
  | start (blk : ℕ) (after : After)
  | add (get : Get) (blk : ℕ)
  | steal (get : Get)
  | copy (new : Pool) (rest : List Res)
  | reclaim (rest : List Res)
  | drop (blk : ℕ) (reason : Reason)
  | stop (blk : ℕ) (reason : Reason)
deriving DecidableEq

structure Crtc where
  pools : List Pool
  pc : Pc

def After.resume (blk : ℕ) : After → Pc
  | .add get => .add get blk
  | .takeOver get => .add get blk
  | .copy new res rest => .copy { new with resList := new.resList ++ [res.duplicate] } rest

def After.failed (blk : ℕ) : After → Pc
  | .add get => .steal get
  | after => after.resume blk

def Reason.proceed (blk : ℕ) : Reason → Pc
  | .failed after => after.failed blk
  | .unadded => .idle
  | .reclaim rest => .reclaim rest

/-! ## Operations -/

inductive Callback
  | start (blk : ℕ)
  | stop (blk : ℕ)
deriving DecidableEq

inductive Call
  | reset (key : ℕ)
  | duplicate (key new : ℕ)
  | get (key : ℕ) (type : ResType) (tag : ℕ)
  | put (key : ℕ) (type : ResType) (tag : ℕ)
  | add (key code tag val : ℕ) (allocates : Bool)
  | freeUnused (key : ℕ)
  | destroy (key : ℕ)

def enter (pools : List Pool) : Call → Crtc
  | .reset key =>
    ⟨if (findPool pools key).isNone then pools ++ [⟨key, []⟩] else pools, .idle⟩
  | .duplicate key new =>
    match findPool pools key with
    | some pool =>
      ⟨pools, if (findPool pools new).isNone then .copy ⟨new, []⟩ pool.resList else .idle⟩
    | none => ⟨pools, .idle⟩
  | .get key type tag =>
    match findPool pools key with
    | some pool =>
      match pool.reuse type tag with
      | some (_, next) => ⟨setPool pools next, .idle⟩
      | none => ⟨pools, .search ⟨pool, type, tag⟩⟩
    | none => ⟨pools, .idle⟩
  | .put key type tag =>
    match findPool pools key with
    | some pool => ⟨setPool pools (pool.put type tag), .idle⟩
    | none => ⟨pools, .idle⟩
  | .add key code tag val allocates =>
    match findPool pools key with
    | some pool =>
      match pool.addNoLock allocates (.other code) tag val .other with
      | .ok next => ⟨setPool pools next, .idle⟩
      | .error _ => ⟨pools, .idle⟩
    | none => ⟨pools, .idle⟩
  | .freeUnused key =>
    match findPool pools key with
    | some pool => ⟨setPool pools (pool.kept false), .reclaim (pool.reclaimed false)⟩
    | none => ⟨pools, .idle⟩
  | .destroy key =>
    match findPool pools key with
    | some pool =>
      ⟨pools.filter fun other => other.key ≠ pool.key, .reclaim (pool.reclaimed true)⟩
    | none => ⟨pools, .idle⟩

/-- The next step of an operation; `ok` tells whether a start callback or an allocation succeeds. -/
def advance (blks : HwBlks) (ok : Bool) (refs : ℕ → ℕ) (pools : List Pool) :
    Pc → Crtc × (ℕ → ℕ) × Option Callback
  | .idle => (⟨pools, .idle⟩, refs, none)
  | .search get =>
    match blks.search refs get.type (-1) with
    | some blk => (⟨pools, .increment blk (.add get)⟩, refs, none)
    | none => (⟨pools, .steal get⟩, refs, none)
  | .increment blk after =>
    if increment refs blk blk = 1 then (⟨pools, .start blk after⟩, increment refs blk, none)
    else (⟨pools, after.resume blk⟩, increment refs blk, none)
  | .start blk after =>
    (⟨pools, if ok then after.resume blk else .drop blk (.failed after)⟩, refs, some (.start blk))
  | .add get blk =>
    match get.pool.addNoLock ok get.type get.tag blk .hwBlk with
    | .ok next => (⟨setPool pools next, .idle⟩, refs, none)
    | .error _ => (⟨pools, .drop blk .unadded⟩, refs, none)
  | .steal get =>
    match stealFrom pools get.pool.key get.type with
    | some res =>
      match res.ops with
      | .hwBlk => (⟨pools, .increment res.val (.takeOver get)⟩, refs, none)
      | .other => (⟨pools, .add get res.val⟩, refs, none)
    | none => (⟨pools, .idle⟩, refs, none)
  | .copy new [] => (⟨pools ++ [new], .idle⟩, refs, none)
  | .copy new (res :: rest) =>
    match res.ops with
    | .hwBlk => (⟨pools, .increment res.val (.copy new res rest)⟩, refs, none)
    | .other => (⟨pools, (After.copy new res rest).resume res.val⟩, refs, none)
  | .reclaim [] => (⟨pools, .idle⟩, refs, none)
  | .reclaim (res :: rest) =>
    match res.ops with
    | .hwBlk => (⟨pools, .drop res.val (.reclaim rest)⟩, refs, none)
    | .other => (⟨pools, .reclaim rest⟩, refs, none)
  | .drop blk reason =>
    if refs blk = 0 then (⟨pools, reason.proceed blk⟩, refs, none)
    else if refs blk = 1 then (⟨pools, .stop blk reason⟩, sdeHwBlkPut refs blk, none)
    else (⟨pools, reason.proceed blk⟩, sdeHwBlkPut refs blk, none)
  | .stop blk reason => (⟨pools, reason.proceed blk⟩, refs, some (.stop blk))

/-! ## All CRTCs -/

structure World (ι : Type*) where
  crtcs : ι → Crtc
  refs : ℕ → ℕ
  rises : ℕ → ℕ
  falls : ℕ → ℕ
  starts : ℕ → ℕ
  stops : ℕ → ℕ

inductive Turn
  | enter (call : Call)
  | go (ok : Bool)

variable {ι : Type*} [DecidableEq ι]

def step (blks : HwBlks) (w : World ι) (input : ι × Turn) : World ι :=
  match input.2 with
  | .enter call =>
    if (w.crtcs input.1).pc = .idle then
      { w with crtcs := Function.update w.crtcs input.1 (enter (w.crtcs input.1).pools call) }
    else w
  | .go ok =>
    let next := advance blks ok w.refs (w.crtcs input.1).pools (w.crtcs input.1).pc
    { crtcs := Function.update w.crtcs input.1 next.1
      refs := next.2.1
      rises := fun blk => w.rises blk + if w.refs blk = 0 ∧ next.2.1 blk ≠ 0 then 1 else 0
      falls := fun blk => w.falls blk + if w.refs blk ≠ 0 ∧ next.2.1 blk = 0 then 1 else 0
      starts := fun blk => w.starts blk + if next.2.2 = some (.start blk) then 1 else 0
      stops := fun blk => w.stops blk + if next.2.2 = some (.stop blk) then 1 else 0 }

def initial : World ι where
  crtcs _ := ⟨[], .idle⟩
  refs _ := 0
  rises _ := 0
  falls _ := 0
  starts _ := 0
  stops _ := 0

/-! ## What is held -/

def After.blocks : After → List ℕ
  | .copy new _ _ => new.blocks
  | _ => []

def Reason.blocks : Reason → List ℕ
  | .failed after => after.blocks
  | .unadded => []
  | .reclaim rest => rest.filterMap Res.block

def Pc.blocks : Pc → List ℕ
  | .increment _ after => after.blocks
  | .start blk after => blk :: after.blocks
  | .add _ blk => [blk]
  | .copy new _ => new.blocks
  | .reclaim rest => rest.filterMap Res.block
  | .drop blk reason => blk :: reason.blocks
  | .stop _ reason => reason.blocks
  | _ => []

def Crtc.entries (crtc : Crtc) (blk : ℕ) : ℕ := (crtc.pools.flatMap Pool.blocks).count blk

def Crtc.held (crtc : Crtc) (blk : ℕ) : ℕ := crtc.entries blk + crtc.pc.blocks.count blk

def Crtc.starting (crtc : Crtc) (blk : ℕ) : ℕ :=
  match crtc.pc with
  | .start b _ => if b = blk then 1 else 0
  | _ => 0

def Crtc.stopping (crtc : Crtc) (blk : ℕ) : ℕ :=
  match crtc.pc with
  | .stop b _ => if b = blk then 1 else 0
  | _ => 0

/-- References are conserved: each is one of an entry or of an operation on the way, each count that
    has risen from zero or fallen to it has had its callback or is about to have it, and no two
    CRTCs have references on one block. -/
structure Conserved [Fintype ι] (w : World ι) : Prop where
  refs : ∀ blk, w.refs blk = total (Crtc.held · blk) w.crtcs
  started : ∀ blk, w.rises blk = w.starts blk + total (Crtc.starting · blk) w.crtcs
  stopped : ∀ blk, w.falls blk = w.stops blk + total (Crtc.stopping · blk) w.crtcs
  alone : Alone Crtc.held w.crtcs

structure AtRest [Fintype ι] (w : World ι) : Prop where
  refs : ∀ blk, w.refs blk = total (Crtc.entries · blk) w.crtcs
  started : ∀ blk, w.rises blk = w.starts blk
  stopped : ∀ blk, w.falls blk = w.stops blk
  destroyed : (∀ i, (w.crtcs i).pools = []) → ∀ blk, w.refs blk = 0

def StillUnused (w : World ι) (input : ι × Turn) : Prop :=
  match input.2 with
  | .enter _ => True
  | .go _ => ∀ blk get, (w.crtcs input.1).pc = .increment blk (.add get) → w.refs blk = 0

end DisplayDrivers.ResPool.Interleaved
