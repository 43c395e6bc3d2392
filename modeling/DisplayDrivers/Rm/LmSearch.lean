import DisplayDrivers.Rm.Granted

/-! # The search of `_sde_rm_reserve_lms`, turn by turn

The search walks the mixers with an iterator, looks for a peer with a second one, and fills arrays
that it shares between all of its attempts.
-/

namespace DisplayDrivers.Rm

open DisplayDrivers.Lib.PairSearch

/-! ## Iterators -/

/-- `struct sde_rm_hw_iter` for encoder 0, which is shown every block: `blk` is a position in the
    list, or its head behind the last one. -/
structure HwIter (α : Type) where
  hw : Option α
  blk : Option ℕ

/-- `sde_rm_init_hw_iter` -/
def HwIter.init {α : Type} : HwIter α := ⟨none, none⟩

def getHwLocked {α : Type} (blkList : List α) (i : HwIter α) : HwIter α :=
  if i.blk = some blkList.length then { i with hw := none }
  else
    let next := i.blk.elim 0 (· + 1)
    match blkList[next]? with
    | some b => ⟨some b, some next⟩
    | none => ⟨none, some blkList.length⟩

/-! ## The checks of a mixer -/

/-- What `_sde_rm_check_lm_and_get_connected_blks` leaves in the memory that it is given. -/
structure Wired where
  dspp : Option (IterBlk .dspp)
  ds : Option (IterBlk .ds)
  pp : Option (IterBlk .pingpong)
  roiMisr : Option (IterBlk .roiMisr)
  dsc : Option (IterBlk .dsc)

def Wired.null : Wired := ⟨none, none, none, none, none⟩

/-- The search for a block that is wired to the mixer, where one is needed.  One that another
    encoder has ends the checks, as does one that is not there. -/
def wire {t : HwBlkType} (needed : Bool) (blks : List (IterBlk t)) (id : Nat) (w : Wired)
    (free taken : IterBlk t → Wired) (rest : Wired → Bool × Wired) : Bool × Wired :=
  if needed then
    match blks.find? fun b => b.id == id with
    | none => (false, w)
    | some b => if b.reservedByOther then (false, taken b) else rest (free b)
  else rest w

/-- `_sde_rm_check_lm_and_get_connected_blks` with all that it writes. -/
def checkLm (view : View) (kms : SdeKms) (reqs : Requirements) (lm : IterBlk .lm)
    (primaryLm : Option (IterBlk .lm)) : Bool × Wired :=
  let lmCfg : LmCfg := lm.caps
  if !primaryLm.all fun primary => primary.caps.lmPairMask.testBit lmCfg.id then (false, .null)
  else if !meetsPreference reqs lmCfg then (false, .null)
  else if lm.reservedByOther then (false, .null)
  else
    wire (lmCfg.dspp != dsppMax) (view .dspp) lmCfg.dspp .null
      (fun b => { Wired.null with dspp := some b })
      (fun b => { Wired.null with dspp := some b }) fun w =>
    wire (lmCfg.ds != dsMax) (view .ds) lmCfg.ds w
      (fun b => { w with ds := some b })
      (fun b => { w with ds := some b }) fun w =>
    wire true (view .pingpong) lmCfg.pingpong w
      (fun b => { w with pp := some b })
      -- the pointers that are reset differ from check to check
      (fun b => { w with pp := some b, dspp := none, ds := none }) fun w =>
    wire (lmCfg.roiMisr != roiMisrMax) (view .roiMisr) lmCfg.roiMisr w
      -- in the 3DMux case only the primary's roi misr is in the control path
      (fun b => { w with roiMisr :=
        if primaryLm.isSome && sdeRmIs3dmuxCase reqs.topology.topName then none else some b })
      (fun b => { Wired.null with roiMisr := some b }) fun w =>
    wire (reqs.topology.numCompEnc != 0 && kms.hasRoiMisr) (view .dsc) lmCfg.roiMisr w
      (fun b => { w with dsc := some b })
      (fun b => { Wired.null with dsc := some b }) fun w =>
    if reqs.topology.topName = .ppsplit && !w.pp.any fun b =>
      b.caps.features.testBit pingpongSplit then
      (false, { w with dspp := none, ds := none })
    else (true, w)

def Mixer.wired (m : Mixer) : Wired := ⟨m.dspp, m.ds, some m.pp, m.roiMisr, m.dsc⟩

section Checks
variable {t : HwBlkType} {needed : Bool} {blks : List (IterBlk t)} {id : Nat} {w : Wired}
  {free taken : IterBlk t → Wired} {rest : Wired → Bool × Wired}

def Agrees (lm : IterBlk .lm) (obtained : Option Mixer) (checked : Bool × Wired) : Prop :=
  match obtained with
  | some m => m.lm = lm ∧ checked = (true, m.wired)
  | none => checked.1 = false

theorem agrees_wire {lm : IterBlk .lm} {next : Option (IterBlk t) → Option Mixer}
    (agrees : ∀ found, connectedBlkIf needed blks id = some found →
      Agrees lm (next found) (rest (found.elim w free))) :
    Agrees lm ((connectedBlkIf needed blks id).bind next)
      (wire needed blks id w free taken rest) := by
  cases needed with
  | false => exact agrees none rfl
  | true =>
    rw [wire, if_pos rfl]
    cases here : blks.find? fun b => b.id == id with
    | none =>
      have missing : connectedBlkIf true blks id = none := by
        simp [connectedBlkIf, connectedBlk, here]
      rw [missing]
      rfl
    | some b =>
      cases reserved : b.reservedByOther with
      | true =>
        have missing : connectedBlkIf true blks id = none := by
          simp [connectedBlkIf, connectedBlk, here, reserved]
        rw [missing]
        simp [Agrees, reserved]
      | false =>
        have found : connectedBlkIf true blks id = some (some b) := by
          simp [connectedBlkIf, connectedBlk, here, reserved]
        rw [found]
        simpa [reserved] using agrees (some b) found

theorem connectedBlk_bind (next : IterBlk t → Option Mixer) :
    (connectedBlk blks id).bind next =
      (connectedBlkIf true blks id).bind fun found => found.elim none next := by
  rw [connectedBlkIf, if_pos rfl, Option.bind_map]
  rfl

theorem checkLm_agrees (view : View) (kms : SdeKms) (reqs : Requirements) (lm : IterBlk .lm)
    (primaryLm : Option (IterBlk .lm)) :
    Agrees lm (checkLmAndGetConnectedBlks view kms reqs lm primaryLm)
      (checkLm view kms reqs lm primaryLm) := by
  unfold checkLmAndGetConnectedBlks checkLm
  simp only [Option.bind_eq_bind, Option.pure_def]
  cases primaryLm.all fun primary => primary.caps.lmPairMask.testBit (lm.caps : LmCfg).id with
  | false => rfl
  | true =>
  cases meetsPreference reqs lm.caps with
  | false => rfl
  | true =>
  cases lm.reservedByOther with
  | true => rfl
  | false =>
  simp only [Bool.not_true, Bool.not_false, Bool.false_eq_true, if_false, guard_true,
    Option.pure_def, Option.bind_some]
  refine agrees_wire fun dspp _ => ?_
  rw [show dspp.elim Wired.null _ = ⟨dspp, none, none, none, none⟩ by cases dspp <;> rfl]
  refine agrees_wire fun ds _ => ?_
  rw [show ds.elim _ _ =
    (⟨dspp, ds, none, none, none⟩ : Wired) by cases ds <;> rfl, connectedBlk_bind]
  refine agrees_wire fun found got => ?_
  obtain ⟨pp, -, rfl⟩ := Option.map_eq_some_iff.mp got
  refine agrees_wire fun roiMisr _ => ?_
  rw [show roiMisr.elim _ _ = (⟨dspp, ds, some pp,
      if primaryLm.isSome && sdeRmIs3dmuxCase reqs.topology.topName then none else roiMisr, none⟩ :
        Wired) by cases roiMisr <;> simp]
  refine agrees_wire fun dsc _ => ?_
  rw [show dsc.elim _ _ = (⟨dspp, ds, some pp,
      if primaryLm.isSome && sdeRmIs3dmuxCase reqs.topology.topName then none else roiMisr, dsc⟩ :
        Wired) by cases dsc <;> rfl, Option.any_some]
  cases reqs.topology.topName = .ppsplit && !pp.caps.features.testBit pingpongSplit with
  | true => rfl
  | false => exact ⟨rfl, rfl⟩

end Checks

/-! ## The loops -/

/-- The locals of `_sde_rm_reserve_lms`, with the `top_ctrl` of the requirements. -/
structure LmLoop where
  lm : ℕ → Option (IterBlk .lm)
  wired : ℕ → Wired
  lmMask : BitVec 32
  lmCount : ℕ
  topCtrl : ℕ
  iterI : HwIter (IterBlk .lm)

inductive LmPc
  | outer
  | inner (iterJ : HwIter (IterBlk .lm))
  | done

namespace LmLoop

/-- The entries at `lm_count` of the arrays. -/
def put (s : LmLoop) (lm : IterBlk .lm) (w : Wired) : LmLoop :=
  { s with
    lm := Function.update s.lm s.lmCount (some lm)
    wired := Function.update s.wired s.lmCount w }

def take (s : LmLoop) (id : ℕ) : LmLoop :=
  { s with lmMask := s.lmMask ||| bit id, lmCount := s.lmCount + 1 }

def giveBack (s : LmLoop) (id : ℕ) : LmLoop :=
  { s with lmMask := s.lmMask &&& ~~~bit id, lmCount := s.lmCount - 1 }

end LmLoop

section Loops
variable (view : View) (kms : SdeKms) (reqs : Requirements) (lmIds : Option (Nat → Nat))

def tryPrimary (s : LmLoop) (lm : IterBlk .lm) : LmLoop × LmPc :=
  if masked s.lmMask lm.id then (s, .outer)
  else
    let s := s.put lm .null
    if !idMatches lmIds s.lmCount lm.id then (s, .outer)
    else
      let checked := checkLm view kms { reqs with topCtrl := s.topCtrl } lm none
      let s := s.put lm checked.2
      if !checked.1 then (s, .outer)
      else
        let s := s.take lm.id
        if s.lmCount = reqs.topology.numLm then (s, .done) else (s, .inner .init)

/-- A mixer in the inner loop; a peer is found by a `break` out of it, with `iter_j.hw` left set. -/
def tryPeer (s : LmLoop) (iterJ : HwIter (IterBlk .lm)) (lm : IterBlk .lm) : LmLoop × LmPc :=
  if masked s.lmMask lm.id then (s, .inner iterJ)
  else
    let checked := checkLm view kms { reqs with topCtrl := s.topCtrl } lm s.iterI.hw
    let s := s.put lm checked.2
    if !checked.1 then (s, .inner iterJ)
    else if !idMatches lmIds s.lmCount lm.id then (s, .inner iterJ)
    else (s.take lm.id, .outer)

def exhausted (s : LmLoop) : LmLoop × LmPc :=
  let now : Requirements := { reqs with topCtrl := s.topCtrl }
  if !now.rqDspp then ({ s with topCtrl := (now.add topctlDspp).topCtrl, iterI := .init }, .outer)
  else if !now.rqDs then ({ s with topCtrl := (now.add topctlDs).topCtrl, iterI := .init }, .outer)
  else (s, .done)

def turn : LmLoop × LmPc → LmLoop × LmPc
  | (s, .outer) =>
    if s.lmCount = reqs.topology.numLm then (s, .done)
    else
      let iterI := getHwLocked (view .lm) s.iterI
      match iterI.hw with
      | none => exhausted reqs { s with iterI }
      | some lm => tryPrimary view kms reqs lmIds { s with iterI } lm
  | (s, .inner iterJ) =>
    let iterJ := getHwLocked (view .lm) iterJ
    match iterJ.hw with
    | none => (s.iterI.hw.elim s fun primary => s.giveBack primary.id, .outer)
    | some lm => tryPeer view kms reqs lmIds s iterJ lm
  | (s, .done) => (s, .done)

def LmLoop.start (lm : ℕ → Option (IterBlk .lm)) (wired : ℕ → Wired) : LmLoop where
  lm := lm
  wired := wired
  lmMask := 0
  lmCount := 0
  topCtrl := reqs.topCtrl
  iterI := .init

def entryRefs (lm : Option (IterBlk .lm)) (w : Wired) : List BlkRef :=
  (lm.map (·.ref)).toList ++ (w.pp.map (·.ref)).toList ++ (w.dspp.map (·.ref)).toList ++
    (w.ds.map (·.ref)).toList ++ (w.roiMisr.map (·.ref)).toList ++ (w.dsc.map (·.ref)).toList

def LmLoop.reserve (s : LmLoop) : Answer :=
  if s.lmCount ≠ reqs.topology.numLm then (eNavail, [])
  else
    let tagged := (List.range s.lmCount).flatMap fun i => entryRefs (s.lm i) (s.wired i)
    if reqs.topology.topName = .ppsplit then
      match (view .pingpong).find? isFreeSlave with
      | none => (eNavail, tagged)
      | some slave => (0, tagged ++ [slave.ref])
    else (0, tagged)

/-- `_sde_rm_reserve_lms` in a number of turns: its answer and the `top_ctrl` that it leaves, or
    nothing where the search has not ended. -/
def reserveLmsIn (lm : ℕ → Option (IterBlk .lm)) (wired : ℕ → Wired) (turns : ℕ) :
    Option (Answer × ℕ) :=
  if reqs.topology.numLm = 0 then some ((0, []), reqs.topCtrl)
  else
    match (turn view kms reqs lmIds)^[turns] (.start reqs lm wired, .outer) with
    | (s, .done) =>
      let orgTopCtrl := reqs.topCtrl
      some (s.reserve view reqs, orgTopCtrl)
    | _ => none

end Loops

/-! ## What the loops find -/

def HwIter.At {α : Type} (i : HwIter α) (k : ℕ) : Prop :=
  i.blk = if k = 0 then none else some (k - 1)

section Iterators
variable {α : Type} {blkList : List α} {i : HwIter α} {k : ℕ}

theorem drop_cons {b : α} {rest : List α} (remains : blkList.drop k = b :: rest) :
    blkList[k]? = some b ∧ blkList.drop (k + 1) = rest := by
  constructor
  · rw [← List.head?_drop, remains]
    rfl
  · rw [← List.drop_drop, remains]
    rfl

theorem at_init : (HwIter.init : HwIter α).At 0 := rfl

theorem getHwLocked_some {b : α} (at_k : i.At k) (here : blkList[k]? = some b) :
    (getHwLocked blkList i).hw = some b ∧ (getHwLocked blkList i).At (k + 1) := by
  have inside := (List.getElem?_eq_some_iff.mp here).1
  have next : i.blk.elim 0 (· + 1) = k := by
    rw [at_k]
    by_cases first : k = 0
    · simp [first]
    · simp [first]
      omega
  have notPast : i.blk ≠ some blkList.length := by
    rw [at_k]
    split
    · simp
    · intro same
      have := Option.some.inj same
      omega
  simp [getHwLocked, notPast, next, here, HwIter.At]

theorem getHwLocked_none (at_end : i.At blkList.length) : (getHwLocked blkList i).hw = none := by
  rw [getHwLocked]
  split
  · rfl
  · have next : i.blk.elim 0 (· + 1) = blkList.length := by
      rw [at_end]
      by_cases first : blkList.length = 0
      · simp [first]
      · simp [first]
        omega
    simp [next]

end Iterators

section Search
variable {view : View} {kms : SdeKms} {reqs : Requirements} {lmIds : Option (Nat → Nat)}

def Reaches (view : View) (kms : SdeKms) (reqs : Requirements) (lmIds : Option (Nat → Nat))
    (a b : LmLoop × LmPc) : Prop :=
  ∃ n, (turn view kms reqs lmIds)^[n] a = b

theorem Reaches.refl (a : LmLoop × LmPc) : Reaches view kms reqs lmIds a a := ⟨0, rfl⟩

theorem Reaches.trans {a b c : LmLoop × LmPc} (first : Reaches view kms reqs lmIds a b)
    (second : Reaches view kms reqs lmIds b c) : Reaches view kms reqs lmIds a c := by
  obtain ⟨m, rfl⟩ := first
  obtain ⟨n, rfl⟩ := second
  exact ⟨n + m, Function.iterate_add_apply _ n m a⟩

theorem Reaches.head {a b c : LmLoop × LmPc} (first : turn view kms reqs lmIds a = b)
    (second : Reaches view kms reqs lmIds b c) : Reaches view kms reqs lmIds a c :=
  Reaches.trans ⟨1, first⟩ second

structure Matches (s : LmLoop) (search : Search Mixer) : Prop where
  mask : s.lmMask = search.mask
  count : s.lmCount = search.found.length
  entries : ∀ i m, search.found[i]? = some m → s.lm i = some m.lm ∧ s.wired i = m.wired

namespace Matches
variable {s : LmLoop} {search : Search Mixer}

theorem put (matched : Matches s search) (lm : IterBlk .lm) (w : Wired) :
    Matches (s.put lm w) search where
  mask := matched.mask
  count := matched.count
  entries := by
    intro i m chosen
    have inside := (List.getElem?_eq_some_iff.mp chosen).1
    have before : i ≠ s.lmCount := by
      rw [matched.count]
      omega
    simp only [LmLoop.put, Function.update_of_ne before]
    exact matched.entries i m chosen

theorem take (matched : Matches s search) (m : Mixer) :
    Matches ((s.put m.lm m.wired).take m.lm.id)
    ⟨search.mask ||| bit m.lm.id, search.found ++ [m]⟩ where
  mask := congrArg (· ||| bit m.lm.id) matched.mask
  count := by
    rw [List.length_append, List.length_singleton, ← matched.count]
    rfl
  entries := by
    intro i m' chosen
    rcases Nat.lt_or_ge i search.found.length with old | new
    · rw [List.getElem?_append_left old] at chosen
      exact (matched.put m.lm m.wired).entries i m' chosen
    · have inside := (List.getElem?_eq_some_iff.mp chosen).1
      rw [List.length_append, List.length_singleton] at inside
      obtain rfl : i = search.found.length := by omega
      rw [List.getElem?_append_right new, Nat.sub_self, List.getElem?_cons_zero] at chosen
      obtain rfl := Option.some.inj chosen
      simp [LmLoop.put, LmLoop.take, matched.count]

theorem giveBack {m : Mixer} {mask : BitVec 32} {found : List Mixer}
    (matched : Matches s ⟨mask, found ++ [m]⟩) (id : ℕ) :
    Matches (s.giveBack id) ⟨mask &&& ~~~bit id, found⟩ where
  mask := congrArg (· &&& ~~~bit id) matched.mask
  count := by
    have count := matched.count
    simp only [List.length_append, List.length_singleton] at count
    simp only [LmLoop.giveBack]
    omega
  entries := by
    intro i m' chosen
    apply matched.entries
    rw [List.getElem?_append_left (List.getElem?_eq_some_iff.mp chosen).1]
    exact chosen

end Matches

def LmLoop.walk (reqs : Requirements) (s : LmLoop) : Requirements :=
  { reqs with topCtrl := s.topCtrl }

variable {s : LmLoop} {search : Search Mixer}

theorem walk_congr {s' : LmLoop} (same : s'.topCtrl = s.topCtrl) : s'.walk reqs = s.walk reqs :=
  congrArg (fun topCtrl => ({ reqs with topCtrl } : Requirements)) same

theorem tryPeer_none {iterJ : HwIter (IterBlk .lm)} {primary lm : IterBlk .lm}
    (matched : Matches s search) (unused : masked s.lmMask lm.id = false)
    (current : s.iterI.hw = some primary)
    (unfit : peerMixer view kms (s.walk reqs) lmIds search.found.length primary lm = none) :
    ∃ w, tryPeer view kms reqs lmIds s iterJ lm = (s.put lm w, .inner iterJ) := by
  have agrees := checkLm_agrees view kms (s.walk reqs) lm (some primary)
  refine ⟨(checkLm view kms (s.walk reqs) lm (some primary)).2, ?_⟩
  rw [tryPeer, unused, current]
  cases obtained : checkLmAndGetConnectedBlks view kms (s.walk reqs) lm (some primary) with
  | none =>
    rw [obtained] at agrees
    change (checkLm view kms (s.walk reqs) lm (some primary)).1 = false at agrees
    simp only [LmLoop.walk] at agrees ⊢
    simp [agrees]
  | some m =>
    rw [obtained] at agrees
    obtain ⟨-, checked⟩ := agrees
    have other : idMatches lmIds s.lmCount lm.id = false := by
      rw [peerMixer, obtained] at unfit
      rw [matched.count]
      simpa [Option.filter] using unfit
    simp only [LmLoop.walk] at checked ⊢
    simp [checked, LmLoop.put, other]

theorem tryPeer_some {iterJ : HwIter (IterBlk .lm)} {primary lm : IterBlk .lm} {m : Mixer}
    (matched : Matches s search) (unused : masked s.lmMask lm.id = false)
    (current : s.iterI.hw = some primary)
    (fits : peerMixer view kms (s.walk reqs) lmIds search.found.length primary lm = some m) :
    m.lm = lm ∧
      tryPeer view kms reqs lmIds s iterJ lm = ((s.put m.lm m.wired).take m.lm.id, .outer) := by
  have agrees := checkLm_agrees view kms (s.walk reqs) lm (some primary)
  obtain ⟨obtained, same⟩ := Option.filter_eq_some_iff.mp fits
  rw [obtained] at agrees
  obtain ⟨rfl, checked⟩ := agrees
  refine ⟨rfl, ?_⟩
  rw [← matched.count] at same
  rw [tryPeer, unused, current]
  simp only [LmLoop.walk] at checked
  simp [checked, LmLoop.put, same]

theorem tryPrimary_none {lm : IterBlk .lm} (matched : Matches s search)
    (unused : masked s.lmMask lm.id = false)
    (unfit : primaryMixer view kms (s.walk reqs) lmIds search.found.length lm = none) :
    ∃ s', tryPrimary view kms reqs lmIds s lm = (s', .outer) ∧ Matches s' search ∧
      s'.iterI = s.iterI ∧ s'.topCtrl = s.topCtrl := by
  have agrees := checkLm_agrees view kms (s.walk reqs) lm none
  rw [tryPrimary, unused]
  rw [primaryMixer, ← matched.count] at unfit
  cases same : idMatches lmIds s.lmCount lm.id with
  | false => exact ⟨s.put lm .null, by simp [LmLoop.put, same], matched.put lm .null, rfl, rfl⟩
  | true =>
    rw [same, if_pos rfl] at unfit
    rw [unfit] at agrees
    change (checkLm view kms (s.walk reqs) lm none).1 = false at agrees
    simp only [LmLoop.walk] at agrees
    refine ⟨(s.put lm .null).put lm (checkLm view kms (s.walk reqs) lm none).2, ?_,
      (matched.put lm .null).put lm _, rfl, rfl⟩
    simp [LmLoop.put, same, agrees, LmLoop.walk]

theorem tryPrimary_some {lm : IterBlk .lm} {m : Mixer} (matched : Matches s search)
    (unused : masked s.lmMask lm.id = false)
    (fits : primaryMixer view kms (s.walk reqs) lmIds search.found.length lm = some m) :
    m.lm = lm ∧ ∃ s', tryPrimary view kms reqs lmIds s lm =
        (s', if search.found.length + 1 = reqs.topology.numLm then .done else .inner .init) ∧
      Matches s' ⟨search.mask ||| bit m.lm.id, search.found ++ [m]⟩ ∧
      s'.iterI = s.iterI ∧ s'.topCtrl = s.topCtrl := by
  have agrees := checkLm_agrees view kms (s.walk reqs) lm none
  rw [primaryMixer, ← matched.count] at fits
  split at fits
  next same =>
    rw [fits] at agrees
    obtain ⟨rfl, checked⟩ := agrees
    refine ⟨rfl, ((s.put m.lm .null).put m.lm m.wired).take m.lm.id, ?_,
      (matched.put m.lm .null).take m, rfl, rfl⟩
    rw [tryPrimary, unused, ← matched.count]
    simp only [LmLoop.walk] at checked
    by_cases full : s.lmCount + 1 = reqs.topology.numLm
    · simp [LmLoop.put, LmLoop.take, same, checked, full]
    · simp [LmLoop.put, LmLoop.take, same, checked, full]
  next => cases fits

def afterPeers (view : View) (kms : SdeKms) (lmIds : Option (Nat → Nat)) (walk : Requirements)
    (search : Search Mixer) (m : Mixer) (rest : List (IterBlk .lm)) : Search Mixer :=
  match findPeer (·.id) (peerMixer view kms walk lmIds) rest
      ⟨search.mask ||| bit m.lm.id, search.found ++ [m]⟩ m.lm with
  | some (c, d) => ⟨search.mask ||| bit m.lm.id ||| bit c.id, search.found ++ [m] ++ [d]⟩
  | none => ⟨(search.mask ||| bit m.lm.id) &&& ~~~bit m.lm.id, search.found⟩

section Peers
variable {walk : Requirements} {m d : Mixer} {lm : IterBlk .lm} {rest : List (IterBlk .lm)}

theorem afterPeers_used (used : masked (search.mask ||| bit m.lm.id) lm.id = true) :
    afterPeers view kms lmIds walk search m (lm :: rest) =
      afterPeers view kms lmIds walk search m rest := by
  rw [afterPeers, findPeer, List.findSome?_cons, if_pos used]
  rfl

theorem afterPeers_unfit
    (unfit : peerMixer view kms walk lmIds (search.found ++ [m]).length m.lm lm = none) :
    afterPeers view kms lmIds walk search m (lm :: rest) =
      afterPeers view kms lmIds walk search m rest := by
  rw [afterPeers, findPeer, List.findSome?_cons, unfit, Option.map_none, ite_self]
  rfl

theorem afterPeers_fits (unused : masked (search.mask ||| bit m.lm.id) lm.id = false)
    (fits : peerMixer view kms walk lmIds (search.found ++ [m]).length m.lm lm = some d) :
    afterPeers view kms lmIds walk search m (lm :: rest) =
      ⟨search.mask ||| bit m.lm.id ||| bit lm.id, search.found ++ [m] ++ [d]⟩ := by
  rw [afterPeers, findPeer, List.findSome?_cons, unused, fits]
  rfl

theorem pairStep_peers {want : ℕ} (free : search.found.length ≠ want)
    (unused : ¬masked search.mask m.lm.id = true)
    (fits : primaryMixer view kms walk lmIds search.found.length m.lm = some m)
    (more : search.found.length + 1 ≠ want) :
    pairStep want (·.id) (primaryMixer view kms walk lmIds) (peerMixer view kms walk lmIds)
      (view .lm) search m.lm = afterPeers view kms lmIds walk search m (view .lm) := by
  rw [pairStep, if_neg free, if_neg unused, fits, afterPeers]
  dsimp only
  rw [if_neg (by rwa [List.length_append, List.length_singleton])]
  cases findPeer (·.id) (peerMixer view kms walk lmIds) (view .lm)
    ⟨search.mask ||| bit m.lm.id, search.found ++ [m]⟩ m.lm with
  | none => rfl
  | some pair => rfl

end Peers

variable (view kms reqs lmIds) in
theorem inner_reaches (rest : List (IterBlk .lm)) :
    ∀ {k : ℕ} {s : LmLoop} {iterJ : HwIter (IterBlk .lm)}, (view .lm).drop k = rest →
    k ≤ (view .lm).length →
      iterJ.At k → s.iterI.hw = some m.lm →
      Matches s ⟨search.mask ||| bit m.lm.id, search.found ++ [m]⟩ →
      ∃ s', Reaches view kms reqs lmIds (s, .inner iterJ) (s', .outer) ∧ s'.iterI = s.iterI ∧
        s'.topCtrl = s.topCtrl ∧
        Matches s' (afterPeers view kms lmIds (s.walk reqs) search m rest) := by
  induction rest with
  | nil =>
    intro k s iterJ remains inside at_k current matched
    have last : k = (view .lm).length := Nat.le_antisymm inside (List.drop_eq_nil_iff.mp remains)
    subst last
    have none := getHwLocked_none at_k
    refine ⟨s.giveBack m.lm.id, Reaches.head ?_ (Reaches.refl _), rfl, rfl,
      matched.giveBack m.lm.id⟩
    rw [turn, none, current]
    rfl
  | cons lm rest ih =>
    intro k s iterJ remains inside at_k current matched
    have mask : s.lmMask = search.mask ||| bit m.lm.id := matched.mask
    obtain ⟨here, remains'⟩ := drop_cons remains
    have inside' : k + 1 ≤ (view .lm).length := (List.getElem?_eq_some_iff.mp here).1
    obtain ⟨shown, at_next⟩ := getHwLocked_some at_k here
    have turns : turn view kms reqs lmIds (s, .inner iterJ) =
        tryPeer view kms reqs lmIds s (getHwLocked (view .lm) iterJ) lm := by
      rw [turn, shown]
    cases unused : masked s.lmMask lm.id with
    | true =>
      obtain ⟨s', reaches, kept⟩ := ih remains' inside' at_next current matched
      refine ⟨s', Reaches.head ?_ reaches, ?_⟩
      · rw [turns, tryPeer, unused, if_pos rfl]
      · rw [afterPeers_used (mask ▸ unused)]
        exact kept
    | false =>
      cases fits : peerMixer view kms (s.walk reqs) lmIds (search.found ++ [m]).length m.lm lm with
      | none =>
        obtain ⟨w, tried⟩ := tryPeer_none matched unused current
          fits
        obtain ⟨s', reaches, kept⟩ := ih (s := s.put lm w) remains' inside' at_next current
          (matched.put lm w)
        refine ⟨s', Reaches.head (turns.trans tried) reaches, ?_⟩
        rw [afterPeers_unfit fits]
        exact kept
      | some d =>
        obtain ⟨rfl, tried⟩ := tryPeer_some matched unused current
          fits
        refine ⟨_, Reaches.head (turns.trans tried) (Reaches.refl _), rfl, rfl, ?_⟩
        rw [afterPeers_fits (mask ▸ unused) fits]
        exact matched.take d

variable (view kms reqs lmIds) in
/-- One sweep of the outer loop, from any position on: the search is full and ends, or the loop has
    come to the end of the list. -/
theorem outer_reaches (rest : List (IterBlk .lm)) :
    ∀ {k : ℕ} {s : LmLoop} {search : Search Mixer}, (view .lm).drop k = rest →
      k ≤ (view .lm).length → s.iterI.At k → Matches s search →
      ∃ s', Matches s' (rest.foldl (pairStep reqs.topology.numLm (·.id)
          (primaryMixer view kms (s.walk reqs) lmIds) (peerMixer view kms (s.walk reqs) lmIds)
          (view .lm)) search) ∧ s'.topCtrl = s.topCtrl ∧
        (Reaches view kms reqs lmIds (s, .outer) (s', .done) ∧ s'.lmCount = reqs.topology.numLm ∨
          Reaches view kms reqs lmIds (s, .outer) (s', .outer) ∧
            s'.lmCount ≠ reqs.topology.numLm ∧ s'.iterI.At (view .lm).length) := by
  induction rest with
  | nil =>
    intro k s search remains inside at_k matched
    have last : k = (view .lm).length := Nat.le_antisymm inside (List.drop_eq_nil_iff.mp remains)
    by_cases full : s.lmCount = reqs.topology.numLm
    · exact ⟨s, matched, rfl,
        .inl ⟨Reaches.head (by rw [turn, if_pos full]) (Reaches.refl _), full⟩⟩
    · exact ⟨s, matched, rfl, .inr ⟨Reaches.refl _, full, last ▸ at_k⟩⟩
  | cons lm rest ih =>
    intro k s search remains inside at_k matched
    obtain ⟨here, remains'⟩ := drop_cons remains
    have inside' : k + 1 ≤ (view .lm).length := (List.getElem?_eq_some_iff.mp here).1
    obtain ⟨shown, at_next⟩ := getHwLocked_some at_k here
    by_cases full : s.lmCount = reqs.topology.numLm
    · rw [foldl_pairStep_full _ _ _ _ (matched.count ▸ full)]
      exact ⟨s, matched, rfl,
        .inl ⟨Reaches.head (by rw [turn, if_pos full]) (Reaches.refl _), full⟩⟩
    -- the iterator moves on, whatever becomes of the mixer
    let s₁ : LmLoop := { s with iterI := getHwLocked (view .lm) s.iterI }
    have matched₁ : Matches s₁ search := ⟨matched.mask, matched.count, matched.entries⟩
    have turns : turn view kms reqs lmIds (s, .outer) = tryPrimary view kms reqs lmIds s₁ lm := by
      rw [turn, if_neg full]
      simp only [shown]
      rfl
    have free : search.found.length ≠ reqs.topology.numLm := matched.count ▸ full
    rw [List.foldl_cons]
    cases unused : masked s.lmMask lm.id with
    | true =>
      rw [pairStep, if_neg free, if_pos (matched.mask ▸ unused)]
      obtain ⟨s', kept, ctrl, ends⟩ := ih remains' inside' (s := s₁) at_next matched₁
      have first : turn view kms reqs lmIds (s, .outer) = (s₁, .outer) := by
        rw [turns, tryPrimary, if_pos unused]
      exact ⟨s', kept, ctrl, ends.imp (.imp_left (Reaches.head first))
        (.imp_left (Reaches.head first))⟩
    | false =>
      have unused' : ¬masked search.mask lm.id = true := by
        rw [← matched.mask, unused]
        simp
      cases fits : primaryMixer view kms (s.walk reqs) lmIds search.found.length lm with
      | none =>
        rw [pairStep, if_neg free, if_neg unused', fits]
        obtain ⟨s₂, tried, matched₂, iter, ctrl₂⟩ := tryPrimary_none matched₁ unused fits
        obtain ⟨s', kept, ctrl, ends⟩ := ih remains' inside' (iter ▸ at_next) matched₂
        rw [walk_congr ctrl₂] at kept
        have first := turns.trans tried
        exact ⟨s', kept, ctrl.trans ctrl₂,
          ends.imp (.imp_left (Reaches.head first)) (.imp_left (Reaches.head first))⟩
      | some m =>
        obtain ⟨rfl, s₂, tried, matched₂, iter, ctrl₂⟩ := tryPrimary_some matched₁ unused fits
        have length : (search.found ++ [m]).length = search.found.length + 1 := List.length_append
        by_cases last : search.found.length + 1 = reqs.topology.numLm
        · rw [if_pos last] at tried
          rw [pairStep, if_neg free, if_neg unused', fits]
          dsimp only
          rw [if_pos (length.trans last), foldl_pairStep_full _ _ _ _ (length.trans last)]
          exact ⟨s₂, matched₂, ctrl₂, .inl ⟨Reaches.head (turns.trans tried) (Reaches.refl _),
            matched₂.count.trans (length.trans last)⟩⟩
        · rw [if_neg last] at tried
          rw [pairStep_peers free unused' fits last]
          obtain ⟨s₃, peers, iter₃, ctrl₃, matched₃⟩ := inner_reaches view kms reqs lmIds
            (view .lm) (k := 0) rfl (Nat.zero_le _) at_init
            (show s₂.iterI.hw = some m.lm by rw [iter]; exact shown) matched₂
          rw [walk_congr ctrl₂] at matched₃
          obtain ⟨s', kept, ctrl, ends⟩ := ih remains' inside' (iter₃ ▸ iter ▸ at_next) matched₃
          rw [walk_congr (ctrl₃.trans ctrl₂)] at kept
          have first := Reaches.head (turns.trans tried) peers
          exact ⟨s', kept, ctrl.trans (ctrl₃.trans ctrl₂),
            ends.imp (.imp_left first.trans) (.imp_left first.trans)⟩

theorem lmWalks_eq (walk : Requirements) :
    lmWalks walk = walk ::
      if !walk.rqDspp then lmWalks (walk.add topctlDspp)
      else if !walk.rqDs then lmWalks (walk.add topctlDs)
      else [] := by
  have dspp : (walk.add topctlDspp).rqDspp = true := by simp [Requirements.rqDspp,
    Requirements.rq_add]
  have ds : (walk.add topctlDs).rqDs = true := by simp [Requirements.rqDs, Requirements.rq_add]
  have keepsDs : (walk.add topctlDspp).rqDs = walk.rqDs := by
    simp [Requirements.rqDs, Requirements.rq_add, topctlDspp, topctlDs]
  have keepsDspp : (walk.add topctlDs).rqDspp = walk.rqDspp := by
    simp [Requirements.rqDspp, Requirements.rq_add, topctlDspp, topctlDs]
  rw [lmWalks, lmWalks, lmWalks, dspp, ds, keepsDs, keepsDspp]
  cases walk.rqDspp <;> cases walk.rqDs <;> simp

def searchFrom (view : View) (kms : SdeKms) (lmIds : Option (Nat → Nat)) (numLm : ℕ)
    (walks : List Requirements) (search : Search Mixer) : Search Mixer :=
  walks.foldl (fun t walk => pass numLm (·.id) (primaryMixer view kms walk lmIds)
    (peerMixer view kms walk lmIds) (view .lm) t) search

variable (view kms lmIds) in
theorem searchFrom_full (numLm : ℕ) (walks : List Requirements)
    (full : search.found.length = numLm) :
    searchFrom view kms lmIds numLm walks search = search := by
  induction walks with
  | nil => rfl
  | cons walk walks ih =>
    rw [searchFrom, List.foldl_cons, pass_full _ _ _ _ full]
    exact ih

variable (kms lmIds) in
theorem turn_exhausted (more : s.lmCount ≠ reqs.topology.numLm)
    (at_end : s.iterI.At (view .lm).length) :
    ∃ iterI, turn view kms reqs lmIds (s, .outer) = exhausted reqs { s with iterI } := by
  refine ⟨getHwLocked (view .lm) s.iterI, ?_⟩
  rw [turn, if_neg more]
  simp only [getHwLocked_none at_end]

variable (view kms reqs lmIds) in
theorem search_ends (walks : List Requirements) :
    ∀ {s : LmLoop} {search : Search Mixer}, lmWalks (s.walk reqs) = walks → s.iterI = .init →
      Matches s search →
      ∃ s', Reaches view kms reqs lmIds (s, .outer) (s', .done) ∧
        Matches s' (searchFrom view kms lmIds reqs.topology.numLm walks search) := by
  induction walks with
  | nil =>
    intro s search this
    rw [lmWalks_eq] at this
    cases this
  | cons walk walks ih =>
    intro s search this fresh matched
    rw [lmWalks_eq] at this
    obtain ⟨rfl, rest⟩ := List.cons.inj this
    obtain ⟨s₁, swept, ctrl, ends⟩ := outer_reaches view kms reqs lmIds
      (view .lm) (k := 0) rfl (Nat.zero_le _) (fresh ▸ at_init) matched
    rw [searchFrom, List.foldl_cons]
    rcases ends with ⟨reaches, full⟩ | ⟨reaches, more, at_end⟩
    · have same := searchFrom_full view kms lmIds _ walks
        (swept.count ▸ full)
      exact ⟨s₁, reaches, (congrArg (Matches s₁) same).mpr swept⟩
    · obtain ⟨iterI, turned⟩ := turn_exhausted kms lmIds more at_end
      have now : ({ reqs with topCtrl := s₁.topCtrl } : Requirements) = s.walk reqs :=
        walk_congr ctrl
      rw [exhausted] at turned
      simp only [now] at turned
      cases dspp : (s.walk reqs).rqDspp with
      | false =>
        simp only [dspp, Bool.not_false, if_true] at turned rest
        obtain ⟨s', reaches', found⟩ := ih (s := { s₁ with
            topCtrl := ((s.walk reqs).add topctlDspp).topCtrl, iterI := .init }) rest rfl
          ⟨swept.mask, swept.count, swept.entries⟩
        exact ⟨s', reaches.trans (Reaches.head turned reaches'), found⟩
      | true =>
        cases ds : (s.walk reqs).rqDs with
        | false =>
          simp only [dspp, ds, Bool.not_true, Bool.not_false, Bool.false_eq_true, if_false, if_true]
            at turned rest
          obtain ⟨s', reaches', found⟩ := ih (s := { s₁ with
              topCtrl := ((s.walk reqs).add topctlDs).topCtrl, iterI := .init }) rest rfl
            ⟨swept.mask, swept.count, swept.entries⟩
          exact ⟨s', reaches.trans (Reaches.head turned reaches'), found⟩
        | true =>
          simp only [dspp, ds, Bool.not_true, Bool.false_eq_true, if_false] at turned rest
          subst rest
          exact ⟨_, reaches.trans (Reaches.head turned (Reaches.refl _)),
            ⟨swept.mask, swept.count, swept.entries⟩⟩

theorem turns_done (s : LmLoop) (n : ℕ) :
    (turn view kms reqs lmIds)^[n] (s, .done) = (s, .done) := by
  induction n with
  | zero => rfl
  | succ n ih => rw [Function.iterate_succ_apply]; exact ih

theorem entryRefs_eq (m : Mixer) : entryRefs (some m.lm) m.wired = m.refs := rfl

theorem Matches.tagged (matched : Matches s search) :
    ((List.range s.lmCount).flatMap fun i => entryRefs (s.lm i) (s.wired i)) =
      search.found.flatMap Mixer.refs := by
  have entries : ∀ i (inside : i < search.found.length),
      entryRefs (s.lm i) (s.wired i) = search.found[i].refs := by
    intro i inside
    obtain ⟨lm, wired⟩ := matched.entries i _ (List.getElem?_eq_getElem inside)
    rw [lm, wired, entryRefs_eq]
  rw [matched.count, List.flatMap_def, List.flatMap_def]
  congr 1
  apply List.ext_getElem
  · simp
  · intro i inside _
    rw [List.length_map, List.length_range] at inside
    simpa using entries i inside

theorem Matches.reserve
    (matched : Matches s (searchFrom view kms lmIds reqs.topology.numLm (lmWalks reqs) .start))
    (some : reqs.topology.numLm ≠ 0) : s.reserve view reqs = reserveLms view kms reqs lmIds := by
  have found : (searchFrom view kms lmIds reqs.topology.numLm (lmWalks reqs) .start).found =
      findMixers view kms reqs lmIds := rfl
  rewrite [LmLoop.reserve, reserveLms, if_neg some, matched.tagged, matched.count, found]
  rfl

variable (view kms reqs lmIds) in
theorem reserveLmsIn_ends (lm : ℕ → Option (IterBlk .lm)) (wired : ℕ → Wired) :
    ∃ n, ∀ turns ≥ n, reserveLmsIn view kms reqs lmIds lm wired turns =
      some (reserveLms view kms reqs lmIds, reqs.topCtrl) := by
  by_cases none : reqs.topology.numLm = 0
  · exact ⟨0, fun turns _ => by rw [reserveLmsIn, reserveLms, if_pos none, if_pos none]⟩
  · have start : Matches (.start reqs lm wired) Search.start := ⟨rfl, rfl, by simp [Search.start]⟩
    obtain ⟨s', ⟨n, ends⟩, matched⟩ := search_ends view kms reqs lmIds
      (lmWalks reqs) rfl rfl start
    refine ⟨n, fun turns enough => ?_⟩
    have stays : (turn view kms reqs lmIds)^[turns] (.start reqs lm wired, .outer) =
      (s', .done) := by
      rw [← Nat.sub_add_cancel enough, Function.iterate_add_apply, ends, turns_done]
    rw [reserveLmsIn, if_neg none, stays]
    simp only [matched.reserve none]

end Search

end DisplayDrivers.Rm
