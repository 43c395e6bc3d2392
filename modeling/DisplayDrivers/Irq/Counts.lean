import DisplayDrivers.Irq.Interrupts
import DisplayDrivers.Lib.Run

/-! # Counting the enables of an interrupt

`sde_core_irq_enable` and `sde_core_irq_disable` go through an array of indexes. The callers here
interleave at these two points.
-/

namespace DisplayDrivers.Irq

open Lib.Run

inductive Dir
  | enable
  | disable
deriving DecidableEq

def Dir.delta : Dir → Int
  | .enable => 1
  | .disable => -1

def Dir.edge : Dir → Int
  | .enable => 1
  | .disable => 0

def Dir.operation : Dir → MdssIrqs → Int → HwIntr → HwIntr × Int
  | .enable => enableIrq
  | .disable => disableIrq

/-- Where a caller is: its last call has returned, or it is about to update a count, or to operate
    on the register of an index whose count it has updated. -/
inductive Phase
  | returned (ret : Int)
  | counting (rest : List Int)
  | operating (irqIdx : Int) (rest : List Int)
deriving DecidableEq

def Phase.Idle : Phase → Prop
  | .returned _ => True
  | .counting _ => False
  | .operating _ _ => False

instance : (phase : Phase) → Decidable phase.Idle
  | .returned _ => inferInstanceAs (Decidable True)
  | .counting _ => inferInstanceAs (Decidable False)
  | .operating _ _ => inferInstanceAs (Decidable False)

def Phase.remaining : Phase → List Int
  | .returned _ => []
  | .counting rest => rest
  | .operating irqIdx rest => irqIdx :: rest

def Phase.target : Phase → Option Int
  | .returned _ => none
  | .counting _ => none
  | .operating irqIdx _ => some irqIdx

/-- A caller, with the call it makes or has made last.  `counted` and `switched` are what that
    call has done to the counts and to the enable bits, `held` what the caller has enabled and not
    disabled since. -/
structure Caller where
  dir : Dir
  irqIdxs : List Int
  phase : Phase
  counted : Int → Int
  switched : Int → Int
  held : Int → Nat

structure World (n : Nat) where
  intr : HwIntr
  enableCounts : Int → Int
  caller : Fin n → Caller

def loopHead (rest : List Int) (ret : Int) : Phase :=
  if ret ≠ 0 then .returned ret else if rest = [] then .returned 0 else .counting rest

def Caller.resume (c : Caller) (rest : List Int) (ret : Int) : Caller :=
  { c with
    phase := loopHead rest ret
    held :=
      if c.dir = .enable ∧ loopHead rest ret = .returned 0 then
        fun irqIdx => c.held irqIdx + c.irqIdxs.count irqIdx
      else c.held }

/-- A call of `sde_core_irq_enable` or `sde_core_irq_disable`; `irq_count` is the length. -/
def Caller.enter (c : Caller) (dir : Dir) (irqIdxs : List Int) : Caller where
  dir := dir
  irqIdxs := irqIdxs
  phase := if irqIdxs = [] then .returned einval else .counting irqIdxs
  counted := fun _ => 0
  switched := fun _ => 0
  held := if dir = .disable then fun irqIdx => c.held irqIdx - irqIdxs.count irqIdx else c.held

section
variable {n : Nat} (mdssIrqs : MdssIrqs)

def bitValue (intr : HwIntr) (irqIdx : Int) : Int := if Enabled mdssIrqs intr irqIdx then 1 else 0

/-- `atomic_inc_return` or `atomic_dec_return`, and the comparison of what it returns. -/
def World.count (w : World n) (t : Fin n) (irqIdx : Int) (rest : List Int) : World n :=
  let c := w.caller t
  let counted := Function.update c.counted irqIdx (c.counted irqIdx + c.dir.delta)
  if InRange irqIdx then
    { w with
      enableCounts :=
        Function.update w.enableCounts irqIdx (w.enableCounts irqIdx + c.dir.delta)
      caller := Function.update w.caller t
        (if w.enableCounts irqIdx + c.dir.delta = c.dir.edge then
          { c with counted := counted, phase := .operating irqIdx rest }
        else { c with counted := counted }.resume rest 0) }
  else { w with caller := Function.update w.caller t (c.resume rest einval) }

def World.operate (w : World n) (t : Fin n) (irqIdx : Int) (rest : List Int) : World n :=
  let c := w.caller t
  let done := c.dir.operation mdssIrqs irqIdx w.intr
  let switched := fun other =>
    c.switched other + (bitValue mdssIrqs done.1 other - bitValue mdssIrqs w.intr other)
  { w with
    intr := done.1
    caller := Function.update w.caller t ({ c with switched := switched }.resume rest done.2) }

def World.goFrom (w : World n) (t : Fin n) : Phase → World n
  | .returned _ => w
  | .counting [] => w
  | .counting (irqIdx :: rest) => w.count t irqIdx rest
  | .operating irqIdx rest => w.operate mdssIrqs t irqIdx rest

inductive Turn (n : Nat)
  | call (t : Fin n) (dir : Dir) (irqIdxs : List Int)
  | go (t : Fin n)

def step (w : World n) : Turn n → World n
  | .call t dir irqIdxs =>
    if (w.caller t).phase.Idle then
      { w with caller := Function.update w.caller t ((w.caller t).enter dir irqIdxs) }
    else w
  | .go t => w.goFrom mdssIrqs t (w.caller t).phase

def boot (n : Nat) : World n where
  intr := ⟨fun _ => 0#32, fun _ => 0#32, fun _ => 0#32, fun _ => 0#32⟩
  enableCounts := fun _ => 0
  caller := fun _ => ⟨.enable, [], .returned 0, fun _ => 0, fun _ => 0, fun _ => 0⟩

/-! ## The property -/

def Allowed (w : World n) : Turn n → Prop
  | .call t .disable irqIdxs => (w.caller t).phase.Idle →
      ∀ irqIdx ∈ irqIdxs, irqIdxs.count irqIdx ≤ (w.caller t).held irqIdx
  | _ => True

instance (w : World n) : (turn : Turn n) → Decidable (Allowed w turn)
  | .call _ .disable _ => inferInstanceAs (Decidable (_ → _))
  | .call _ .enable _ => inferInstanceAs (Decidable True)
  | .go _ => inferInstanceAs (Decidable True)

def Quiet (w : World n) : Prop := ∀ t, (w.caller t).phase.Idle

instance (w : World n) : Decidable (Quiet w) := inferInstanceAs (Decidable (∀ _, _))

def ErrorsLeave (w : World n) : Prop :=
  ∀ t ret, (w.caller t).phase = .returned ret → ret ≠ 0 →
    ∀ irqIdx, (w.caller t).counted irqIdx = 0 ∧ (w.caller t).switched irqIdx = 0

structure CountsKept (w : World n) : Prop where
  bits : Quiet w → ∀ irqIdx, Mapped mdssIrqs irqIdx →
    (Enabled mdssIrqs w.intr irqIdx ↔ 0 < w.enableCounts irqIdx)
  errors : ErrorsLeave w

/-! ## The condition -/

def CountOrderly (c : Caller) (irqIdx : Int) (rest : List Int) : Prop :=
  c.dir = .enable → InRange irqIdx ∨ irqIdx :: rest = c.irqIdxs

/-- The index has a register, if it is to be enabled, and for each interrupt with this bit either
    another operation is outstanding or this is the operation that its count asks for. -/
def OperationOrderly (w : World n) (t : Fin n) (irqIdx : Int) : Prop :=
  ((w.caller t).dir = .enable → HasReg mdssIrqs irqIdx) ∧
    ∀ other, Mapped mdssIrqs other → SameBit mdssIrqs other irqIdx →
      (∀ t' ≠ t, (w.caller t').phase.target ≠ some other) →
        ((w.caller t).dir = .enable ↔ 0 < w.enableCounts other)

def OrderlyFrom (w : World n) (t : Fin n) : Phase → Prop
  | .returned _ => True
  | .counting [] => True
  | .counting (irqIdx :: rest) => CountOrderly (w.caller t) irqIdx rest
  | .operating irqIdx _ => OperationOrderly mdssIrqs w t irqIdx

def Orderly (w : World n) : Turn n → Prop
  | .call _ _ _ => True
  | .go t => OrderlyFrom mdssIrqs w t (w.caller t).phase

/-! ## Bits and counts -/

def Settled (w : World n) : Prop :=
  ∀ irqIdx, Mapped mdssIrqs irqIdx → (∀ t, (w.caller t).phase.target ≠ some irqIdx) →
    (Enabled mdssIrqs w.intr irqIdx ↔ 0 < w.enableCounts irqIdx)

end

section
variable {n : Nat} {mdssIrqs : MdssIrqs} {w : World n} {t : Fin n} {irqIdx : Int} {rest : List Int}

theorem target_idle {phase : Phase} (idle : phase.Idle) : phase.target = none := by
  cases phase with
  | returned ret => rfl
  | counting rest => rfl
  | operating irqIdx rest => exact idle.elim

theorem target_update (c : Caller) {t' : Fin n} (apart : t' ≠ t) :
    ((Function.update w.caller t c) t').phase.target = (w.caller t').phase.target := by
  rw [Function.update_of_ne apart]

variable {dir : Dir}

theorem positive_delta {count : Int} (noEdge : count + dir.delta ≠ dir.edge) :
    0 < count + dir.delta ↔ 0 < count := by
  cases dir with
  | enable =>
    simp only [Dir.delta, Dir.edge] at noEdge ⊢
    omega
  | disable =>
    simp only [Dir.delta, Dir.edge] at noEdge ⊢
    omega

theorem settled_count (settled : Settled mdssIrqs w)
    (phase : (w.caller t).phase = .counting (irqIdx :: rest)) :
    Settled mdssIrqs (w.count t irqIdx rest) := by
  intro other mapped free
  -- the caller was not operating, nor were the others on this interrupt
  have freeBefore : ∀ c : Caller, (∀ t', ((Function.update w.caller t c) t').phase.target ≠
      some other) → ∀ t', (w.caller t').phase.target ≠ some other := by
    intro c free t'
    by_cases here : t' = t
    · rw [here, phase]
      exact nofun
    · rw [← target_update c here]
      exact free t'
  rw [World.count] at free ⊢
  split at free
  next inRange =>
    have before := settled other mapped (freeBefore _ free)
    rw [if_pos inRange]
    by_cases same : other = irqIdx
    · subst same
      by_cases edge : w.enableCounts other + (w.caller t).dir.delta = (w.caller t).dir.edge
      · have operating := free t
        simp only [if_pos edge, Function.update_self, Phase.target] at operating
        exact absurd rfl operating
      · simpa only [Function.update_self, positive_delta edge] using before
    · simpa only [Function.update_of_ne same] using before
  next outOfRange =>
    rw [if_neg outOfRange]
    exact settled other mapped (freeBefore _ free)

theorem mirrored_operation (dir : Dir) {intr : HwIntr} (mirrored : intr.Mirrored) :
    (dir.operation mdssIrqs irqIdx intr).1.Mirrored := by
  cases dir with
  | enable => exact mirrored_enableIrq mirrored
  | disable => exact mirrored_disableIrq mirrored

theorem operation_ret (inRange : InRange irqIdx)
    (hasReg : dir = .enable → HasReg mdssIrqs irqIdx) (intr : HwIntr) :
    (dir.operation mdssIrqs irqIdx intr).2 = 0 := by
  cases dir with
  | enable => exact enableIrq_ret inRange (hasReg rfl)
  | disable => exact disableIrq_ret inRange

theorem enabled_operation {intr : HwIntr} (inRange : InRange irqIdx)
    (hasReg : dir = .enable → HasReg mdssIrqs irqIdx) (mirrored : intr.Mirrored) {other : Int}
    (mapped : Mapped mdssIrqs other) :
    Enabled mdssIrqs (dir.operation mdssIrqs irqIdx intr).1 other ↔
      SameBit mdssIrqs other irqIdx ∧ dir = .enable ∨
        ¬SameBit mdssIrqs other irqIdx ∧ Enabled mdssIrqs intr other := by
  by_cases same : SameBit mdssIrqs other irqIdx
  · cases dir with
    | enable =>
      simp [Dir.operation, enabled_enableIrq inRange (hasReg rfl) mirrored, same, mapped.hasBit]
    | disable => simp [Dir.operation, enabled_disableIrq inRange mirrored mapped, same]
  · cases dir with
    | enable => simp [Dir.operation, enabled_enableIrq inRange (hasReg rfl) mirrored, same]
    | disable => simp [Dir.operation, enabled_disableIrq inRange mirrored mapped, same]

theorem settled_operate (settled : Settled mdssIrqs w) (mirrored : w.intr.Mirrored)
    (inRange : InRange irqIdx) (phase : (w.caller t).phase = .operating irqIdx rest)
    (orderly : OperationOrderly mdssIrqs w t irqIdx) :
    Settled mdssIrqs (w.operate mdssIrqs t irqIdx rest) := by
  intro other mapped free
  have others : ∀ t' ≠ t, (w.caller t').phase.target ≠ some other := by
    intro t' apart
    have after := free t'
    rwa [World.operate, target_update _ apart] at after
  obtain ⟨hasReg, asked⟩ := orderly
  have bits := enabled_operation inRange hasReg mirrored mapped
  by_cases same : SameBit mdssIrqs other irqIdx
  · simpa [World.operate, bits, same] using asked other mapped same others
  · have apart : other ≠ irqIdx := by
      rintro rfl
      exact same ⟨rfl, rfl⟩
    have freeBefore : ∀ t', (w.caller t').phase.target ≠ some other := by
      intro t'
      by_cases here : t' = t
      · rw [here, phase]
        exact fun target => apart (Option.some.inj target).symm
      · exact others t' here
    simpa [World.operate, bits, same] using settled other mapped freeBefore

/-! ## Callers -/

structure CallerInv (c : Caller) : Prop where
  held : ∀ irqIdx, 0 < c.held irqIdx → InRange irqIdx
  disables : c.dir = .disable → ∀ irqIdx ∈ c.irqIdxs, InRange irqIdx
  suffix : c.phase.remaining <:+ c.irqIdxs
  finished : ¬c.phase.Idle → ∀ irqIdx ∈ c.irqIdxs, irqIdx ∈ c.phase.remaining ∨ InRange irqIdx
  target : ∀ irqIdx, c.phase.target = some irqIdx → InRange irqIdx
  fresh : c.phase = .counting c.irqIdxs → ∀ irqIdx, c.counted irqIdx = 0 ∧ c.switched irqIdx = 0
  errors : ∀ ret, c.phase = .returned ret → ret ≠ 0 →
    ∀ irqIdx, c.counted irqIdx = 0 ∧ c.switched irqIdx = 0

variable {c : Caller}

theorem CallerInv.resume (held : ∀ irqIdx, 0 < c.held irqIdx → InRange irqIdx)
    (disables : c.dir = .disable → ∀ irqIdx ∈ c.irqIdxs, InRange irqIdx)
    (suffix : irqIdx :: rest <:+ c.irqIdxs)
    (finished : ∀ irqIdx ∈ c.irqIdxs, irqIdx ∈ rest ∨ InRange irqIdx) :
    CallerInv (c.resume rest 0) := by
  have shorter : rest ≠ c.irqIdxs := by
    intro same
    have le := suffix.length_le
    rw [← same, List.length_cons] at le
    omega
  cases rest with
  | nil =>
    have all : ∀ irqIdx ∈ c.irqIdxs, InRange irqIdx := by
      intro irqIdx listed
      cases finished irqIdx listed with
      | inl empty => exact nomatch empty
      | inr inRange => exact inRange
    refine ⟨?_, disables, List.nil_suffix, fun busy => absurd trivial busy, nofun, nofun, ?_⟩
    · intro irqIdx positive
      simp only [Caller.resume] at positive
      split at positive
      next =>
        by_cases listed : irqIdx ∈ c.irqIdxs
        · exact all irqIdx listed
        · have credit : 0 < c.held irqIdx + c.irqIdxs.count irqIdx := positive
          rw [List.count_eq_zero_of_not_mem listed, Nat.add_zero] at credit
          exact held irqIdx credit
      next => exact held irqIdx positive
    · intro ret returned nonzero
      exact absurd (Phase.returned.inj returned).symm nonzero
  | cons next rest =>
    have goesOn : loopHead (next :: rest) 0 = .counting (next :: rest) := rfl
    refine ⟨?_, disables, ?_, ?_, nofun, ?_, nofun⟩
    · simpa [Caller.resume, goesOn] using held
    · exact (List.suffix_cons _ _).trans suffix
    · intro _
      exact finished
    · intro counting
      exact absurd (Phase.counting.inj counting) shorter

theorem CallerInv.enter (inv : CallerInv c) (dir : Dir) (irqIdxs : List Int)
    (allowed : dir = .disable → ∀ irqIdx ∈ irqIdxs, irqIdxs.count irqIdx ≤ c.held irqIdx) :
    CallerInv (c.enter dir irqIdxs) where
  held := by
    intro irqIdx positive
    simp only [Caller.enter] at positive
    split at positive
    next =>
      have left : 0 < c.held irqIdx - irqIdxs.count irqIdx := positive
      exact inv.held irqIdx (by omega)
    next => exact inv.held irqIdx positive
  disables := by
    intro disabling irqIdx listed
    have enough := allowed disabling irqIdx listed
    have once : 0 < irqIdxs.count irqIdx := List.count_pos_iff.mpr listed
    exact inv.held irqIdx (by omega)
  suffix := by
    cases irqIdxs with
    | nil => exact List.suffix_refl _
    | cons first rest => exact List.suffix_refl _
  finished := by
    intro _ irqIdx listed
    cases irqIdxs with
    | nil => exact nomatch listed
    | cons first rest => exact .inl listed
  target := by
    cases irqIdxs with
    | nil => exact nofun
    | cons first rest => exact nofun
  fresh := fun _ _ => ⟨rfl, rfl⟩
  errors := fun _ _ _ _ => ⟨rfl, rfl⟩

theorem CallerInv.later (inv : CallerInv c) (busy : ¬c.phase.Idle)
    (remaining : c.phase.remaining = irqIdx :: rest) (inRange : InRange irqIdx) :
    ∀ other ∈ c.irqIdxs, other ∈ rest ∨ InRange other := by
  intro other listed
  cases inv.finished busy other listed with
  | inl left =>
    rw [remaining, List.mem_cons] at left
    cases left with
    | inl same => exact .inr (same ▸ inRange)
    | inr later => exact .inl later
  | inr done => exact .inr done

theorem CallerInv.count (inv : CallerInv c)
    (phase : c.phase = .counting (irqIdx :: rest)) (orderly : CountOrderly c irqIdx rest)
    (counted : Int → Int) (edge : Prop) [Decidable edge] :
    CallerInv (if InRange irqIdx then
        if edge then { c with counted := counted, phase := .operating irqIdx rest }
        else { c with counted := counted }.resume rest 0
      else c.resume rest einval) := by
  have busy : ¬c.phase.Idle := by
    rw [phase]
    exact id
  have remaining : c.phase.remaining = irqIdx :: rest := by rw [phase, Phase.remaining]
  have suffix := inv.suffix
  rw [remaining] at suffix
  split
  next inRange =>
    have finished := inv.later busy remaining inRange
    split
    next =>
      refine ⟨inv.held, inv.disables, suffix, ?_, ?_, nofun, nofun⟩
      · have unfinished := inv.finished busy
        rw [remaining] at unfinished
        exact fun _ => unfinished
      · rintro _ ⟨⟩
        exact inRange
    next => exact CallerInv.resume inv.held inv.disables suffix finished
  next outOfRange =>
    -- only the first index of a call can be out of range, and nothing has been done before it
    have first : irqIdx :: rest = c.irqIdxs := by
      cases dir : c.dir with
      | enable => exact (orderly dir).resolve_left outOfRange
      | disable =>
        have listed : irqIdx ∈ c.irqIdxs := suffix.subset List.mem_cons_self
        exact absurd (inv.disables dir irqIdx listed) outOfRange
    have returned : loopHead rest einval = .returned einval := rfl
    have untouched := inv.fresh (by rw [phase, first])
    refine ⟨?_, inv.disables, List.nil_suffix, fun busy => absurd trivial busy, nofun, nofun, ?_⟩
    · have noCredit : ¬(c.dir = .enable ∧ loopHead rest einval = .returned 0) := by
        rintro ⟨-, zero⟩
        exact absurd (returned.symm.trans zero) (by decide)
      rw [Caller.resume]
      dsimp only
      rw [if_neg noCredit]
      exact inv.held
    · intro _ _ _
      exact untouched

theorem CallerInv.operate (inv : CallerInv c)
    (phase : c.phase = .operating irqIdx rest) (switched : Int → Int) :
    CallerInv ({ c with switched := switched }.resume rest 0) := by
  have busy : ¬c.phase.Idle := by
    rw [phase]
    exact id
  have remaining : c.phase.remaining = irqIdx :: rest := by rw [phase, Phase.remaining]
  have suffix := inv.suffix
  rw [remaining] at suffix
  have inRange := inv.target irqIdx (by rw [phase, Phase.target])
  exact CallerInv.resume inv.held inv.disables suffix (inv.later busy remaining inRange)

/-! ## Runs -/

structure Inv (mdssIrqs : MdssIrqs) (w : World n) : Prop where
  mirrored : w.intr.Mirrored
  callers : ∀ t, CallerInv (w.caller t)
  settled : Settled mdssIrqs w

theorem callers_update (callers : ∀ t, CallerInv (w.caller t)) (inv : CallerInv c) :
    ∀ t', CallerInv (Function.update w.caller t c t') := by
  intro t'
  by_cases here : t' = t
  · rw [here, Function.update_self]
    exact inv
  · rw [Function.update_of_ne here]
    exact callers t'

theorem Inv.count (inv : Inv mdssIrqs w) (phase : (w.caller t).phase = .counting (irqIdx :: rest))
    (orderly : CountOrderly (w.caller t) irqIdx rest) : Inv mdssIrqs (w.count t irqIdx rest) := by
  have settled := settled_count inv.settled phase
  have callers := fun counted edge dec =>
    callers_update (t := t) inv.callers
      (@CallerInv.count _ _ _ (inv.callers t) phase orderly counted edge dec)
  rw [World.count] at settled ⊢
  by_cases inRange : InRange irqIdx
  · simp only [if_pos inRange] at settled callers ⊢
    exact ⟨inv.mirrored, callers _ _ _, settled⟩
  · simp only [if_neg inRange] at settled callers ⊢
    exact ⟨inv.mirrored, callers (fun _ => 0) True instDecidableTrue, settled⟩

theorem Inv.operate (inv : Inv mdssIrqs w) (phase : (w.caller t).phase = .operating irqIdx rest)
    (orderly : OperationOrderly mdssIrqs w t irqIdx) :
    Inv mdssIrqs (w.operate mdssIrqs t irqIdx rest) where
  mirrored := mirrored_operation _ inv.mirrored
  callers := by
    have inRange := (inv.callers t).target irqIdx (by rw [phase, Phase.target])
    rw [World.operate]
    dsimp only
    rw [operation_ret inRange orderly.1]
    exact callers_update inv.callers ((inv.callers t).operate phase _)
  settled :=
    have inRange := (inv.callers t).target irqIdx (by rw [phase, Phase.target])
    settled_operate inv.settled inv.mirrored inRange phase orderly

theorem Inv.enter (inv : Inv mdssIrqs w) (idle : (w.caller t).phase.Idle) (dir : Dir)
    (irqIdxs : List Int)
    (allowed : dir = .disable →
      ∀ irqIdx ∈ irqIdxs, irqIdxs.count irqIdx ≤ (w.caller t).held irqIdx) :
    Inv mdssIrqs
      { w with caller := Function.update w.caller t ((w.caller t).enter dir irqIdxs) } where
  mirrored := inv.mirrored
  callers := callers_update inv.callers ((inv.callers t).enter dir irqIdxs allowed)
  settled := by
    intro other mapped free
    refine inv.settled other mapped fun t' => ?_
    by_cases here : t' = t
    · rw [here, target_idle idle]
      exact nofun
    · have after := free t'
      rwa [target_update _ here] at after

theorem settled_step (turn : Turn n) (inv : Inv mdssIrqs w) (allowed : Allowed w turn)
    (orderly : Orderly mdssIrqs w turn) : Inv mdssIrqs (step mdssIrqs w turn) := by
  cases turn with
  | call t dir irqIdxs =>
    rw [step]
    split
    next idle =>
      refine inv.enter idle dir irqIdxs fun disabling => ?_
      subst disabling
      exact allowed idle
    next => exact inv
  | go t =>
    rw [step]
    rw [Orderly] at orderly
    cases phase : (w.caller t).phase with
    | returned ret => exact inv
    | counting left =>
      rw [phase] at orderly
      cases left with
      | nil => exact inv
      | cons irqIdx rest => exact inv.count phase orderly
    | operating irqIdx rest =>
      rw [phase] at orderly
      exact inv.operate phase orderly

theorem inv_boot (mdssIrqs : MdssIrqs) (n : Nat) : Inv mdssIrqs (boot n) where
  mirrored := rfl
  callers := fun _ =>
    ⟨nofun, nofun, List.suffix_refl _, fun busy => absurd trivial busy, nofun, nofun,
      fun _ _ _ _ => ⟨rfl, rfl⟩⟩
  settled := by
    intro irqIdx _ _
    simp [Enabled, boot]

theorem Inv.countsKept (inv : Inv mdssIrqs w) : CountsKept mdssIrqs w where
  bits := by
    intro quiet irqIdx mapped
    refine inv.settled irqIdx mapped fun t => ?_
    rw [target_idle (quiet t)]
    exact nofun
  errors := fun t ret returned nonzero => (inv.callers t).errors ret returned nonzero

theorem operationOrderly_iff (top : mdssIrqs.getLsbD 0 = true) (mapped : Mapped mdssIrqs irqIdx)
    (own : irqIdx ≠ 39 ∧ irqIdx ≠ 40) :
    OperationOrderly mdssIrqs w t irqIdx ↔
      ((∀ t' ≠ t, (w.caller t').phase.target ≠ some irqIdx) →
        ((w.caller t).dir = .enable ↔ 0 < w.enableCounts irqIdx)) := by
  constructor
  · rintro ⟨-, asked⟩
    exact asked irqIdx mapped ⟨rfl, rfl⟩
  · intro asked
    refine ⟨fun _ => mapped.hasReg, fun other mapped' same => ?_⟩
    rcases same.eq top mapped' mapped with rfl | shared | shared
    · exact asked
    · exact absurd shared.2 own.2
    · exact absurd shared.2 own.1

/-- Whatever the callers do, in whatever order: where the steps are orderly, bits and counts agree
    whenever all calls have returned, and a call that fails has changed nothing. -/
theorem countsKept_of_orderly (mdssIrqs : MdssIrqs) (n : Nat) (turns : List (Turn n))
    (allowed : StepsMeet (step mdssIrqs) Allowed (boot n) turns)
    (orderly : StepsMeet (step mdssIrqs) (Orderly mdssIrqs) (boot n) turns) :
    Throughout (step mdssIrqs) (CountsKept mdssIrqs) (boot n) turns :=
  throughout_of_meets (Inv mdssIrqs)
    (fun _ turn inv meets => settled_step turn inv meets.1 meets.2) (fun _ => Inv.countsKept)
    (inv_boot mdssIrqs n) (allowed.and orderly)

end

/-! ## A last disable against a first enable -/

def allIrqs : MdssIrqs := BitVec.allOnes mdssIntrMax

/-- One thread enables the interrupt before the other one disables it. -/
def handover : List (Turn 2) :=
  [.call 0 .enable [31], .go 0, .go 0, .call 1 .enable [31], .go 1, .call 0 .disable [31], .go 0]

theorem mapped_vsync : Mapped allIrqs 31 := by
  refine ⟨?_, ?_, ?_⟩ <;> decide

theorem countsKept_handover :
    Throughout (step allIrqs) (CountsKept allIrqs) (boot 2) handover := by
  refine countsKept_of_orderly allIrqs 2 handover (by decide) ?_
  refine ⟨trivial, fun _ => .inl (by decide), ?_, trivial, fun _ => .inl (by decide), trivial,
    nofun, trivial⟩
  refine (operationOrderly_iff rfl mapped_vsync (by decide)).mpr fun _ => ?_
  decide

/-- A disable that has seen the count at 0 ends after an enable that has raised it again. -/
def crossing : List (Turn 2) :=
  [.call 0 .enable [31], .go 0, .go 0, .call 0 .disable [31], .go 0, .call 1 .enable [31],
    .go 1, .go 1, .go 0]

theorem not_countsKept_crossing :
    ¬∀ (mdssIrqs : MdssIrqs) (n : Nat) (turns : List (Turn n)),
      StepsMeet (step mdssIrqs) Allowed (boot n) turns →
        Throughout (step mdssIrqs) (CountsKept mdssIrqs) (boot n) turns := by
  intro always
  have kept := always allIrqs 2 crossing (by decide)
  have final := throughout_iff_prefix.mp kept crossing [] rfl
  have quiet : Quiet (run (step allIrqs) (boot 2) crossing) := by decide
  have bit := final.bits quiet 31 mapped_vsync
  exact absurd bit (by decide)

end DisplayDrivers.Irq
