import DisplayDrivers.Splash.Regions
import Mathlib.Data.List.Perm.Subperm
import Mathlib.Data.List.Nodup

/-! # Splash memory is released once

The accounts are kept against the displays that still have their references: a region's count is the
number of them, and one that no such display has left has been unmapped and freed. The driver relies
on a table in which the slots below `num_splash_displays` are those of the displays that have not
been handed off; where they are not, the loop over the table stops at a cleared slot and the regions
behind it stay.
-/

namespace DisplayDrivers.Splash

open DisplayDrivers.Lib.Run

variable (setup : Setup)

/-! ## References -/

def Setup.holders (displays : List ℕ) (r : ℕ) : ℕ := displays.countP (setup.region · == r)

/-- The region lies below 4 GiB, as `_sde_kms_release_splash_buffer` takes its address. -/
def SplashMem.Fits (mem : SplashMem) : Prop :=
  mem.splashBufBase.toNat + mem.splashBufSize.toNat < 2 ^ 32 ∧ mem.splashBufBase ≠ 0 ∧
    mem.splashBufSize ≠ 0 ∧ mem.ramdumpBase.toNat < 2 ^ 32

instance (mem : SplashMem) : Decidable mem.Fits := inferInstanceAs (Decidable (_ ∧ _ ∧ _ ∧ _))

/-- The account of the region `r` when the displays `all` have taken their references and those of
    `held` still have them. -/
structure Account (all held : List ℕ) (s : SdeKms) (r : ℕ) : Prop where
  refCnt : (s.splashMem r).refCnt = BitVec.ofNat 32 (setup.holders held r)
  data : 0 < setup.holders held r →
    s.splashMem r = { setup.mem r with refCnt := BitVec.ofNat 32 (setup.holders held r) }
  mapped : s.mapped r = decide (0 < setup.holders held r)
  unmaps : s.unmaps r = if 0 < setup.holders all r ∧ setup.holders held r = 0 then 1 else 0
  freed : s.freed r =
    if 0 < setup.holders all r ∧ setup.holders held r = 0 then [(setup.mem r).pages] else []

def Accounts (all held : List ℕ) (s : SdeKms) : Prop := ∀ r, Account setup all held s r

variable {setup}

theorem holders_cons (i : ℕ) (displays : List ℕ) (r : ℕ) :
    setup.holders (i :: displays) r =
      setup.holders displays r + if setup.region i = r then 1 else 0 := by
  unfold Setup.holders
  rw [List.countP_cons]
  simp

theorem Account.congr {all all' held held' : List ℕ} {s s' : SdeKms} {r : ℕ}
    (account : Account setup all held s r)
    (same : setup.holders all' r = setup.holders all r)
    (same' : setup.holders held' r = setup.holders held r)
    (mem : s'.splashMem r = s.splashMem r) (mapped : s'.mapped r = s.mapped r)
    (unmaps : s'.unmaps r = s.unmaps r)
    (freed : s'.freed r = s.freed r) : Account setup all' held' s' r := by
  obtain ⟨refCnt, data, at_mapped, at_unmaps, at_freed⟩ := account
  constructor
  all_goals simp only [same, same', mem, mapped, unmaps, freed]
  all_goals assumption

theorem Accounts.congr {all all' held held' : List ℕ} {s : SdeKms}
    (accounts : Accounts setup all held s)
    (same : all.Perm all') (same' : held.Perm held') : Accounts setup all' held' s :=
  fun r => (accounts r).congr (same.countP_eq _).symm (same'.countP_eq _).symm rfl rfl rfl rfl

theorem holders_le (displays : List ℕ) (r : ℕ) : setup.holders displays r ≤ displays.length :=
  List.countP_le_length

theorem refCnt_zero {n : ℕ} (small : n < 2 ^ 32) : BitVec.ofNat 32 n = 0 ↔ n = 0 := by
  constructor
  · intro zero
    have value := congrArg BitVec.toNat zero
    rwa [BitVec.toNat_ofNat, Nat.mod_eq_of_lt small] at value
  · rintro rfl
    rfl

theorem releaseSplashBuffer_fits {mem : SplashMem} (fits : mem.Fits) :
    releaseSplashBuffer 0 (mem.splashBufBase.setWidth 32) mem.splashBufSize
    (mem.ramdumpBase.setWidth 32)
      mem.ramdumpSize = (0, mem.pages) := by
  obtain ⟨below, base, size, ramdump⟩ := fits
  have base_nat : (mem.splashBufBase.setWidth 32).toNat = mem.splashBufBase.toNat := by
    rw [BitVec.toNat_setWidth]
    exact Nat.mod_eq_of_lt (by omega)
  have ramdump_nat : (mem.ramdumpBase.setWidth 32).toNat = mem.ramdumpBase.toNat := by
    rw [BitVec.toNat_setWidth]
    exact Nat.mod_eq_of_lt ramdump
  have same : mem.ramdumpBase.setWidth 32 = mem.splashBufBase.setWidth 32 ↔
      mem.ramdumpBase = mem.splashBufBase := by
    rw [← BitVec.toNat_inj, ← BitVec.toNat_inj, base_nat, ramdump_nat]
  have nonzero : mem.splashBufBase.setWidth 32 ≠ 0 := by
    intro zero
    have value := congrArg BitVec.toNat zero
    rw [base_nat] at value
    exact base (BitVec.eq_of_toNat_eq value)
  rw [releaseSplashBuffer, if_neg (not_or.mpr ⟨nonzero, size⟩), SplashMem.pages]
  simp only [same, ne_eq, not_true_eq_false, if_false, BitVec.toNat_ushiftRight]
  by_cases leave : mem.ramdumpBase = mem.splashBufBase ∧ mem.ramdumpSize ≤ mem.splashBufSize
  · have smaller := BitVec.le_def.mp leave.2
    have first : (mem.splashBufBase.setWidth 32 + mem.ramdumpSize).toNat =
        mem.splashBufBase.toNat + mem.ramdumpSize.toNat := by
      rw [BitVec.toNat_add, base_nat, Nat.mod_eq_of_lt (by omega)]
    have last : (mem.splashBufBase.setWidth 32 + mem.ramdumpSize +
        (mem.splashBufSize - mem.ramdumpSize)).toNat =
        mem.splashBufBase.toNat + mem.splashBufSize.toNat := by
      rw [BitVec.toNat_add, first, BitVec.toNat_sub_of_le leave.2, Nat.mod_eq_of_lt (by omega)]
      omega
    simp only [if_pos leave, first, last]
  · have last : (mem.splashBufBase.setWidth 32 + mem.splashBufSize).toNat =
        mem.splashBufBase.toNat + mem.splashBufSize.toNat := by
      rw [BitVec.toNat_add, base_nat, Nat.mod_eq_of_lt below]
    simp only [if_neg leave, last, base_nat, Nat.add_zero]

/-! ## Taking and dropping one reference -/

def SdeKms.Frame (s s' : SdeKms) : Prop :=
  s'.numSplashRegions = s.numSplashRegions ∧ s'.numSplashDisplays = s.numSplashDisplays ∧
    s'.splashDisplay = s.splashDisplay ∧ s'.aspace = s.aspace ∧ s'.phase = s.phase ∧
    s'.voteDrops = s.voteDrops ∧ s'.handedOff = s.handedOff

theorem splashMemPut_frame (s : SdeKms) (memblockFree : ℕ → Int) (splash : Option ℕ) :
    s.Frame (s.splashMemPut memblockFree splash).1 := by
  unfold SdeKms.splashMemPut
  split
  · exact ⟨rfl, rfl, rfl, rfl, rfl, rfl, rfl⟩
  · dsimp only
    repeat' split
    all_goals exact ⟨rfl, rfl, rfl, rfl, rfl, rfl, rfl⟩

theorem splashMemGet_frame (s : SdeKms) (oneToOneMap : ℕ → Int) (splash : Option ℕ) :
    s.Frame (s.splashMemGet oneToOneMap splash).1 := by
  unfold SdeKms.splashMemGet
  split
  · exact ⟨rfl, rfl, rfl, rfl, rfl, rfl, rfl⟩
  · dsimp only
    split <;> exact ⟨rfl, rfl, rfl, rfl, rfl, rfl, rfl⟩

section Steps
variable {s : SdeKms} {all held : List ℕ} {i : ℕ}

/-- A display drops its reference. -/
theorem Accounts.put (accounts : Accounts setup all (i :: held) s) (attached : s.aspace = true)
    (took : i ∈ all) (small : held.length + 1 < 2 ^ 32) (fits : (setup.mem (setup.region i)).Fits)
    {memblockFree : ℕ → Int} (frees : memblockFree (setup.region i) = 0) :
    (s.splashMemPut memblockFree (some (setup.region i))).2 = 0 ∧
      Accounts setup all held (s.splashMemPut memblockFree (some (setup.region i))).1 := by
  have others : ∀ r, r ≠ setup.region i → setup.holders held r = setup.holders (i :: held) r :=
    fun r other => by rw [holders_cons, if_neg (Ne.symm other), Nat.add_zero]
  have here : setup.holders (i :: held) (setup.region i) = setup.holders held
    (setup.region i) + 1 := by
    rw [holders_cons, if_pos rfl]
  have taken : 0 < setup.holders all (setup.region i) :=
    List.countP_pos_iff.mpr ⟨i, took, by simp⟩
  have bound : setup.holders held (setup.region i) ≤ held.length := holders_le held (setup.region i)
  obtain ⟨-, data, mapped, unmaps, freed⟩ := accounts (setup.region i)
  replace data := data (by omega)
  rw [here] at data mapped unmaps freed
  rw [if_neg (by omega)] at unmaps freed
  have dropped : (s.splashMem (setup.region i)).refCnt - 1 =
      BitVec.ofNat 32 (setup.holders held (setup.region i)) := by
    rw [data, BitVec.ofNat_add]
    exact add_sub_cancel_right _ _
  rw [SdeKms.splashMemPut]
  by_cases last : setup.holders held (setup.region i) = 0
  · have zero : (s.splashMem (setup.region i)).refCnt - 1 = 0 := by rw [dropped, last]; rfl
    have release : releaseSplashBuffer (memblockFree (setup.region i))
        ((s.splashMem (setup.region i)).splashBufBase.setWidth 32)
        (s.splashMem (setup.region i)).splashBufSize
        ((s.splashMem (setup.region i)).ramdumpBase.setWidth 32)
        (s.splashMem (setup.region i)).ramdumpSize = (0, (setup.mem (setup.region i)).pages) := by
      rw [data, frees]
      exact releaseSplashBuffer_fits fits
    simp only [attached, Bool.not_true, Bool.false_eq_true, if_false, zero, if_true,
      release, true_and]
    intro r
    by_cases same : r = setup.region i
    · subst same
      constructor
      case data => exact fun holds => absurd last (Nat.ne_of_gt holds)
      all_goals simp [last, taken, unmaps, freed]
    · apply (accounts r).congr rfl (others r same)
      all_goals exact Function.update_of_ne same _ _
  · have more : (s.splashMem (setup.region i)).refCnt - 1 ≠ 0 := by
      rw [dropped]
      exact mt (refCnt_zero (by omega)).mp last
    simp only [attached, Bool.not_true, Bool.false_eq_true, if_false, more, true_and]
    intro r
    by_cases same : r = setup.region i
    · subst same
      constructor
      case refCnt => simpa using dropped
      case data => simp [data, ← dropped]
      all_goals simp [mapped, unmaps, freed, last, Nat.pos_of_ne_zero last]
    · exact (accounts r).congr rfl (others r same) (Function.update_of_ne same _ _) rfl rfl rfl

theorem Accounts.get (accounts : Accounts setup held held s) (attached : s.aspace = true)
    (small : held.length + 1 < 2 ^ 32)
    (intact : ∀ r,
    s.splashMem r = { setup.mem r with refCnt := BitVec.ofNat 32 (setup.holders held r) })
    {oneToOneMap : ℕ → Int} (maps : oneToOneMap (setup.region i) = 0) :
    (s.splashMemGet oneToOneMap (some (setup.region i))).2 = 0 ∧
      (∀ r, (s.splashMemGet oneToOneMap (some (setup.region i))).1.splashMem r =
        { setup.mem r with refCnt := BitVec.ofNat 32 (setup.holders (i :: held) r) }) ∧
      Accounts setup (i :: held) (i :: held)
        (s.splashMemGet oneToOneMap (some (setup.region i))).1 := by
  have others : ∀ r, r ≠ setup.region i → setup.holders (i :: held) r = setup.holders held r :=
    fun r other => by rw [holders_cons, if_neg (Ne.symm other), Nat.add_zero]
  have here : setup.holders (i :: held) (setup.region i) = setup.holders held
    (setup.region i) + 1 := by
    rw [holders_cons, if_pos rfl]
  have bound : setup.holders held (setup.region i) ≤ held.length := holders_le held (setup.region i)
  obtain ⟨refCnt, -, mapped, unmaps, freed⟩ := accounts (setup.region i)
  have first : (s.splashMem (setup.region i)).refCnt = 0 ↔ setup.holders held
    (setup.region i) = 0 := by
    rw [refCnt]
    exact refCnt_zero (by omega)
  rw [if_neg (by omega)] at unmaps freed
  rw [SdeKms.splashMemGet]
  simp only [attached, Bool.not_true, Bool.false_eq_true, if_false, maps, ite_self, true_and]
  have counted : ∀ r, Function.update s.splashMem (setup.region i)
    { s.splashMem (setup.region i) with
      refCnt := (s.splashMem (setup.region i)).refCnt + 1 } r =
        { setup.mem r with refCnt := BitVec.ofNat 32 (setup.holders (i :: held) r) } := by
    intro r
    by_cases same : r = setup.region i
    · subst same
      rw [Function.update_self, here, intact, BitVec.ofNat_add]
      rfl
    · rw [Function.update_of_ne same, others r same]
      exact intact r
  refine ⟨counted, fun r => ?_⟩
  by_cases same : r = setup.region i
  · subst same
    constructor
    case refCnt => exact congrArg SplashMem.refCnt (counted _)
    case data => exact fun _ => counted _
    case mapped =>
      dsimp only
      rw [Function.update_self, mapped, here]
      by_cases unheld : setup.holders held (setup.region i) = 0
      · simp [first.mpr unheld]
      · simp [Nat.pos_of_ne_zero unheld]
    all_goals simp [here, unmaps, freed]
  · apply (accounts r).congr (others r same) (others r same)
    case mem => exact Function.update_of_ne same _ _
    case mapped => exact Function.update_of_ne same _ _
    all_goals rfl

end Steps

/-! ## All displays -/

section Loops
variable {s : SdeKms} {all : List ℕ}

theorem SdeKms.Frame.trans {s' s'' : SdeKms} (first : s.Frame s') (second : s'.Frame s'') :
    s.Frame s'' := by
  obtain ⟨regions, displays, slots, aspace, phase, votes, handed⟩ := first
  obtain ⟨regions', displays', slots', aspace', phase', votes', handed'⟩ := second
  exact ⟨regions'.trans regions, displays'.trans displays, slots'.trans slots, aspace'.trans aspace,
    phase'.trans phase, votes'.trans votes, handed'.trans handed⟩

theorem forDisplays_frame {body : SdeKms → Option ℕ → SdeKms × Int}
    (frame : ∀ (s : SdeKms) (splash : Option ℕ), s.Frame (body s splash).1) (displays : List ℕ) :
    ∀ s : SdeKms, s.Frame (forDisplays body s displays).1 := by
  induction displays with
  | nil => exact fun s => ⟨rfl, rfl, rfl, rfl, rfl, rfl, rfl⟩
  | cons i rest ih =>
    intro s
    rw [forDisplays]
    dsimp only
    split
    · exact frame _ _
    · exact (frame _ _).trans (ih _)

theorem Accounts.putAll {memblockFree : ℕ → Int} (held : List ℕ) :
    ∀ {s : SdeKms}, Accounts setup all held s → s.aspace = true → held ⊆ all →
    held.length < 2 ^ 32 →
      (∀ i ∈ held, (s.splashDisplay i).splash = some (setup.region i)) →
      (∀ i ∈ held, (setup.mem (setup.region i)).Fits ∧ memblockFree (setup.region i) = 0) →
      Accounts setup all [] (forDisplays (·.splashMemPut memblockFree) s held).1 := by
  induction held with
  | nil => exact fun accounts _ _ _ _ _ => accounts
  | cons i rest ih =>
    intro s accounts attached took small slots kernel
    obtain ⟨fits, frees⟩ := kernel i List.mem_cons_self
    obtain ⟨ok, next⟩ := accounts.put attached (took List.mem_cons_self) small fits frees
    obtain ⟨-, -, same_slots, same_aspace, -⟩ :=
      splashMemPut_frame s memblockFree (some (setup.region i))
    rw [forDisplays, slots i List.mem_cons_self]
    simp only [ok, ne_eq, not_true_eq_false, if_false]
    refine ih next (same_aspace.trans attached) (fun j later => took (.tail i later))
      (Nat.lt_of_succ_lt small) ?_ (fun j later => kernel j (.tail i later))
    intro j later
    rw [same_slots]
    exact slots j (.tail i later)

theorem Accounts.getAll {oneToOneMap : ℕ → Int} (displays : List ℕ) :
    ∀ {held : List ℕ} {s : SdeKms}, Accounts setup held held s → s.aspace = true →
      held.length + displays.length < 2 ^ 32 →
      (∀ r, s.splashMem r = { setup.mem r with refCnt := BitVec.ofNat 32 (setup.holders held r) }) →
      (∀ i ∈ displays, (s.splashDisplay i).splash = some (setup.region i)) →
      (∀ i ∈ displays, oneToOneMap (setup.region i) = 0) →
      (forDisplays (·.splashMemGet oneToOneMap) s displays).2 = 0 ∧
        Accounts setup (displays.reverse ++ held) (displays.reverse ++ held)
          (forDisplays (·.splashMemGet oneToOneMap) s displays).1 := by
  induction displays with
  | nil => exact fun accounts _ _ _ _ _ => ⟨rfl, accounts⟩
  | cons i rest ih =>
    intro held s accounts attached small intact slots maps
    have shorter : held.length + 1 + rest.length < 2 ^ 32 := by
      rw [List.length_cons] at small
      omega
    obtain ⟨ok, intact', next⟩ :=
      accounts.get attached (by omega) intact (maps i List.mem_cons_self)
    obtain ⟨-, -, same_slots, same_aspace, -⟩ :=
      splashMemGet_frame s oneToOneMap (some (setup.region i))
    rw [forDisplays, slots i List.mem_cons_self]
    simp only [ok, ne_eq, not_true_eq_false, if_false, List.reverse_cons, List.append_assoc,
      List.singleton_append]
    refine ih next (same_aspace.trans attached) shorter intact' ?_
      (fun j later => maps j (.tail i later))
    intro j later
    rw [same_slots]
    exact slots j (.tail i later)

end Loops

/-! ## The life of the driver -/

variable (setup)

def SdeKms.remaining (s : SdeKms) : List ℕ :=
  (List.range setup.displays).filter fun i => !s.handedOff i

structure Up (s : SdeKms) : Prop where
  phase : s.phase = .up
  accounts : Accounts setup (List.range setup.displays) (s.remaining setup) s
  aspace : s.aspace = true
  count : s.numSplashDisplays = (s.remaining setup).length
  slots : ∀ i ∈ s.remaining setup, (s.splashDisplay i).splash = some (setup.region i) ∧
    (s.splashDisplay i).contSplashEnabled = true
  cleared : ∀ i, i ∉ s.remaining setup →
    (s.splashDisplay i).encoder = none ∧ (s.splashDisplay i).contSplashEnabled = false
  votes : s.voteDrops = if (s.remaining setup).length = 0 then 1 else 0

def Inv (s : SdeKms) : Prop :=
  match s.phase with
  | .attached => s = setup.boot
  | .up => Up setup s
  | .failed => Accounts setup (List.range setup.displays) [] s
  | .down => Accounts setup (List.range setup.displays) [] s ∧
      s.voteDrops = if (s.remaining setup).length = 0 then 1 else 0

def Setup.Fits : Prop := ∀ i < setup.displays, (setup.mem (setup.region i)).Fits

/-- The steps that the accounts rely on: no mapping fails, `memblock_free` does not fail, and the
    driver goes away only when the displays that have been handed off are the last ones of the
    table. -/
def Orderly (s : SdeKms) : Input → Prop
  | .hwInit oneToOneMap setAttribute resInit memblockFree => s.phase = .attached →
      (∀ i < setup.displays, oneToOneMap (setup.region i) = 0) ∧
        (setAttribute ≠ 0 ∨ resInit = false → ∀ i < setup.displays,
          memblockFree (setup.region i) = 0)
  | .contSplashConfig _ _ => True
  | .completeCommit _ _ _ memblockFree => ∀ i < setup.displays, memblockFree (setup.region i) = 0
  | .destroy memblockFree => s.phase = .up →
      (∀ i < s.numSplashDisplays, s.handedOff i = false) ∧
        ∀ i < setup.displays, memblockFree (setup.region i) = 0

/-- The memory of the splash has been released so far as it is due: a region is mapped while a
    display that has not been handed off refers to it, and unmapped and freed once, not before. -/
structure Released (s : SdeKms) : Prop where
  mapped : s.phase = .up → ∀ i ∈ s.remaining setup, s.mapped (setup.region i) = true
  unmaps : ∀ i < setup.displays, s.unmaps (setup.region i) =
    if s.phase ≠ .attached ∧
      (s.phase = .up → ∀ j ∈ s.remaining setup, setup.region j ≠ setup.region i)
    then 1 else 0
  freed : ∀ i < setup.displays, s.freed (setup.region i) =
    if s.phase ≠ .attached ∧
      (s.phase = .up → ∀ j ∈ s.remaining setup, setup.region j ≠ setup.region i)
    then [(setup.mem (setup.region i)).pages] else []
  refCnt : ∀ r, (s.splashMem r).refCnt.toNat =
    if s.phase = .up then setup.holders (s.remaining setup) r else 0
  votes : s.phase = .up ∨ s.phase = .down →
    s.voteDrops = if s.remaining setup = [] then 1 else 0

variable {setup}

theorem Accounts.of_same {all held : List ℕ} {s s' : SdeKms} (accounts : Accounts setup all held s)
    (mem : s'.splashMem = s.splashMem) (mapped : s'.mapped = s.mapped)
    (unmaps : s'.unmaps = s.unmaps)
    (freed : s'.freed = s.freed) : Accounts setup all held s' :=
  fun r => (accounts r).congr rfl rfl (by rw [mem]) (by rw [mapped]) (by rw [unmaps])
    (by rw [freed])

theorem unmapAll_detached {s : SdeKms} (detached : s.aspace = false) (memblockFree : ℕ → Int) :
    s.unmapAllSplashRegions memblockFree = s := by
  have fails : ∀ splash, s.splashMemPut memblockFree splash = (s, eInval) := by
    intro splash
    unfold SdeKms.splashMemPut
    cases splash <;> simp [detached]
  unfold SdeKms.unmapAllSplashRegions
  cases List.range s.numSplashDisplays with
  | nil => rfl
  | cons i rest =>
    rw [forDisplays, fails]
    rfl

theorem boot_accounts : Accounts setup [] [] setup.boot := fun r =>
  { refCnt := setup.unused r
    data := fun holds => absurd holds (Nat.lt_irrefl 0)
    mapped := rfl
    unmaps := rfl
    freed := rfl }

theorem boot_intact (r : ℕ) :
    setup.boot.splashMem r =
    { setup.mem r with refCnt := BitVec.ofNat 32 (setup.holders [] r) } := by
  have unused := setup.unused r
  change setup.mem r = _
  cases mem : setup.mem r
  rw [mem] at unused
  exact congrArg _ unused

theorem displays_small (setup : Setup) : setup.displays < 2 ^ 32 :=
  setup.room.trans_lt (by decide)

variable {oneToOneMap : ℕ → Int}

theorem boot_mapped (maps : ∀ i < setup.displays, oneToOneMap (setup.region i) = 0) :
    ∃ s, (if setup.boot.numSplashRegions ≠ 0 then setup.boot.mapAllSplashRegions oneToOneMap
        else (setup.boot, 0)) = (s, 0) ∧
      Accounts setup (List.range setup.displays) (List.range setup.displays) s ∧
        setup.boot.Frame s := by
  by_cases regions : setup.boot.numSplashRegions = 0
  · have empty : setup.displays = 0 := by
      by_contra some_display
      exact absurd regions (setup.some_region (Nat.pos_of_ne_zero some_display)).ne'
    refine ⟨setup.boot, if_neg (not_not.mpr regions), ?_, rfl, rfl, rfl, rfl, rfl, rfl, rfl⟩
    rw [empty]
    exact boot_accounts
  · rw [if_pos regions]
    obtain ⟨ok, accounts⟩ := Accounts.getAll (List.range setup.displays) boot_accounts rfl
      (by simpa using displays_small setup) boot_intact
      (fun i listed => by simp [Setup.boot, List.mem_range.mp listed])
      (fun i listed => maps i (List.mem_range.mp listed))
    have perm : ((List.range setup.displays).reverse ++ []).Perm (List.range setup.displays) := by
      rw [List.append_nil]
      exact List.reverse_perm _
    refine ⟨_, Prod.ext rfl ok, accounts.congr perm perm, ?_⟩
    exact forDisplays_frame (fun s splash => splashMemGet_frame s oneToOneMap splash) _ _

variable {memblockFree : ℕ → Int}

theorem Accounts.unmapAll {s : SdeKms} {held : List ℕ}
    (accounts : Accounts setup (List.range setup.displays) held s) (attached : s.aspace = true)
    (range : (List.range s.numSplashDisplays).Perm held) (known : held ⊆ List.range setup.displays)
    (slots : ∀ i ∈ held, (s.splashDisplay i).splash = some (setup.region i)) (fits : setup.Fits)
    (frees : ∀ i < setup.displays, memblockFree (setup.region i) = 0) :
    Accounts setup (List.range setup.displays) [] (s.unmapAllSplashRegions memblockFree) := by
  have known' : List.range s.numSplashDisplays ⊆ List.range setup.displays :=
    fun i listed => known (range.subset listed)
  have small : (List.range s.numSplashDisplays).length < 2 ^ 32 := by
    have fewer := List.subperm_of_subset List.nodup_range known'
    exact (fewer.length_le.trans_eq List.length_range).trans_lt (displays_small setup)
  refine (accounts.congr (.refl _) range.symm).putAll _ attached known' small
    (fun i listed => slots i (range.subset listed)) ?_
  intro i listed
  have inside := List.mem_range.mp (known' listed)
  exact ⟨fits i inside, frees i inside⟩

theorem unmapAll_frame (s : SdeKms) (memblockFree : ℕ → Int) :
    s.Frame (s.unmapAllSplashRegions memblockFree) :=
  forDisplays_frame (fun s splash => splashMemPut_frame s memblockFree splash) _ s

/-! ## Every step -/

theorem remaining_boot {s : SdeKms} (untouched : s.handedOff = fun _ => false) :
    s.remaining setup = List.range setup.displays := by
  rw [SdeKms.remaining, untouched]
  simp

theorem up_hwInitDone {s : SdeKms}
    (accounts : Accounts setup (List.range setup.displays) (s.remaining setup) s)
    (aspace : s.aspace = true)
    (count : s.numSplashDisplays = (s.remaining setup).length)
    (slots : ∀ i ∈ s.remaining setup, (s.splashDisplay i).splash = some (setup.region i) ∧
      (s.splashDisplay i).contSplashEnabled = true)
    (cleared : ∀ i, i ∉ s.remaining setup →
      (s.splashDisplay i).encoder = none ∧ (s.splashDisplay i).contSplashEnabled = false)
    (votes : s.voteDrops = 0) : Up setup s.hwInitDone where
  phase := rfl
  accounts := accounts.of_same rfl rfl rfl rfl
  aspace := aspace
  count := count
  slots := slots
  cleared := cleared
  votes := by
    change s.voteDrops + (if s.numSplashDisplays = 0 then 1 else 0) = _
    rw [votes, count, Nat.zero_add]
    rfl

theorem mmuInitFail_accounts {s : SdeKms} {all held : List ℕ} (accounts : Accounts setup all held s)
    (memblockFree : ℕ → Int) : Accounts setup all held (s.mmuInitFail memblockFree) := by
  have same : (s.mmuInitFail memblockFree) = { s with aspace := false, phase := .failed } := by
    rw [SdeKms.mmuInitFail, SdeKms.hwDestroy, unmapAll_detached rfl]
  rw [same]
  exact accounts.of_same rfl rfl rfl rfl

theorem hwInit_inv (fits : setup.Fits) {setAttribute : Int} {resInit : Bool}
    (maps : ∀ i < setup.displays, oneToOneMap (setup.region i) = 0)
    (frees : setAttribute ≠ 0 ∨ resInit = false → ∀ i < setup.displays,
    memblockFree (setup.region i) = 0) :
    Inv setup (setup.boot.hwInit oneToOneMap setAttribute resInit memblockFree) := by
  obtain ⟨s, mapped, accounts, regions, displays, slots, aspace, phase, votes, handed⟩ :=
    boot_mapped maps
  have count : s.numSplashDisplays = setup.displays := displays
  have all : s.remaining setup = List.range setup.displays := remaining_boot handed
  have all_slots : ∀ i ∈ List.range setup.displays, (s.splashDisplay i).splash = some
    (setup.region i) := by
    intro i listed
    rw [slots]
    simp [Setup.boot, List.mem_range.mp listed]
  have no_encoder : ∀ i, (s.splashDisplay i).encoder = none ∧
      (s.splashDisplay i).contSplashEnabled = false := by
    intro i
    rw [slots, Setup.boot]
    dsimp only
    split <;> exact ⟨rfl, rfl⟩
  have unmapped : (∀ i < setup.displays, memblockFree (setup.region i) = 0) →
      Accounts setup (List.range setup.displays) [] (s.unmapAllSplashRegions memblockFree) :=
    fun free => accounts.unmapAll aspace (by rw [count]) (List.Subset.refl _) all_slots fits free
  rw [SdeKms.hwInit, mapped]
  simp only [ne_eq, not_true_eq_false, if_false]
  by_cases turned_off : setAttribute = 0
  · rw [if_neg (not_not.mpr turned_off)]
    change Up setup _
    rw [SdeKms.contSplashResInit]
    by_cases empty : s.numSplashRegions = 0
    · have empty : setup.displays = 0 := by
        by_contra some_display
        exact absurd (regions.symm.trans empty)
          (setup.some_region (Nat.pos_of_ne_zero some_display)).ne'
      rw [if_pos ‹_›]
      refine up_hwInitDone (all.symm ▸ accounts) aspace ?_ ?_ (fun i _ => no_encoder i) votes
      · rw [all, count, List.length_range]
      · rw [all, empty]
        simp
    · rw [if_neg empty]
      cases resInit with
      | true =>
        rw [if_pos rfl]
        refine up_hwInitDone ?_ aspace ?_ ?_ ?_ votes
        · exact (all.symm ▸ accounts : Accounts setup _ (s.remaining setup) s).of_same
            rfl rfl rfl rfl
        · change s.numSplashDisplays = (s.remaining setup).length
          rw [all, count, List.length_range]
        · intro i listed
          have listed : i ∈ s.remaining setup := listed
          rw [all] at listed
          simp only [count, List.mem_range.mp listed, if_true, and_true]
          exact all_slots i listed
        · intro i unlisted
          have unlisted : i ∉ s.remaining setup := unlisted
          rw [all, List.mem_range] at unlisted
          simp only [count, unlisted, if_false]
          exact no_encoder i
      -- the displays that were expected are not all there, and all of it is given up
      | false =>
        obtain ⟨-, -, -, aspace', -, votes', -⟩ := unmapAll_frame s memblockFree
        have given := unmapped (frees (.inr rfl))
        have nobody : ∀ s' : SdeKms, s'.handedOff = (fun _ => true) → s'.remaining setup = [] := by
          intro s' handed
          rw [SdeKms.remaining, handed]
          simp
        refine up_hwInitDone ?_ (aspace'.trans aspace) ?_ ?_ (fun _ _ => ⟨rfl, rfl⟩)
          (votes'.trans votes)
        · rw [nobody _ rfl]
          exact fun r => ⟨rfl, fun holds => absurd holds (Nat.lt_irrefl 0), (given r).mapped,
            (given r).unmaps,
            (given r).freed⟩
        · rw [nobody _ rfl]
          rfl
        · rw [nobody _ rfl]
          simp
  · rw [if_pos turned_off]
    exact mmuInitFail_accounts (unmapped (frees (.inl turned_off))) memblockFree

theorem contSplashConfig_up {s : SdeKms} (up : Up setup s) (i encoder : ℕ) :
    Up setup (s.contSplashConfig i encoder) := by
  unfold SdeKms.contSplashConfig
  split
  case isFalse => exact up
  case isTrue enabled =>
    have listed : i ∈ s.remaining setup := by
      by_contra unlisted
      simp [(up.cleared i unlisted).2] at enabled
    have slot : ∀ j, j ≠ i → ∀ display,
        Function.update s.splashDisplay i display j = s.splashDisplay j :=
      fun j other display => Function.update_of_ne other _ _
    refine { up with accounts := up.accounts.of_same rfl rfl rfl rfl, slots := ?_, cleared := ?_ }
    · intro j here
      dsimp only
      by_cases same : j = i
      · subst same
        rw [Function.update_self]
        exact up.slots j here
      · rw [slot j same]
        exact up.slots j here
    · intro j gone
      dsimp only
      rw [slot j fun same => gone (same ▸ listed)]
      exact up.cleared j gone

theorem Up.handOff {s s' : SdeKms} (up : Up setup s) {i : ℕ} (listed : i ∈ s.remaining setup)
    (accounts : Accounts setup (List.range setup.displays) ((s.remaining setup).erase i) s')
    (handed : s'.handedOff = Function.update s.handedOff i true) (phase : s'.phase = .up)
    (aspace : s'.aspace = true) (displays : s'.numSplashDisplays = s.numSplashDisplays - 1)
    (slots : s'.splashDisplay = Function.update s.splashDisplay i {})
    (votes : s'.voteDrops = s.voteDrops + if s.numSplashDisplays - 1 = 0 then 1 else 0) :
    Up setup s' := by
  have once : (s.remaining setup).Nodup := List.nodup_range.filter _
  have rest : s'.remaining setup = (s.remaining setup).erase i := by
    rw [once.erase_eq_filter, SdeKms.remaining, SdeKms.remaining, handed, List.filter_filter]
    refine List.filter_congr fun j _ => ?_
    by_cases same : j = i
    · simp [same]
    · simp [same]
  have count : (s.remaining setup).length = ((s.remaining setup).erase i).length + 1 :=
    (List.perm_cons_erase listed).length_eq
  have unvoted : s.voteDrops = 0 := by
    rw [up.votes, if_neg (by omega)]
  constructor
  case phase => exact phase
  case accounts => rw [rest]; exact accounts
  case aspace => exact aspace
  case count =>
    rw [rest, displays, up.count]
    omega
  case slots =>
    intro j later
    rw [rest] at later
    rw [slots, Function.update_of_ne (once.mem_erase_iff.mp later).1]
    exact up.slots j (List.mem_of_mem_erase later)
  case cleared =>
    intro j gone
    rw [rest] at gone
    rw [slots]
    by_cases same : j = i
    · subst same
      rw [Function.update_self]
      exact ⟨rfl, rfl⟩
    · rw [Function.update_of_ne same]
      exact up.cleared j fun here => gone (once.mem_erase_iff.mpr ⟨same, here⟩)
  case votes => rw [rest, votes, unvoted, up.count, count, Nat.add_sub_cancel, Nat.zero_add]

theorem releaseSplashResource_up {s : SdeKms} (up : Up setup s) (fits : setup.Fits)
    (crtcOf : ℕ → Option ℕ) (crtc : ℕ) (active : Bool)
    (frees : ∀ i < setup.displays, memblockFree (setup.region i) = 0) :
    Up setup (s.releaseSplashResource crtcOf crtc active memblockFree) := by
  unfold SdeKms.releaseSplashResource
  split
  next => exact up
  next displays =>
    split
    next => exact up
    next i found =>
      have encoder := List.find?_some found
      have listed : i ∈ s.remaining setup := by
        by_contra unlisted
        simp [(up.cleared i unlisted).1] at encoder
      have inside : i < setup.displays := List.mem_range.mp (List.mem_filter.mp listed).1
      obtain ⟨splash, enabled⟩ := up.slots i listed
      have split := List.perm_cons_erase listed
      have small : ((s.remaining setup).erase i).length + 1 < 2 ^ 32 := by
        have length := split.length_eq
        rw [List.length_cons] at length
        rw [← length]
        exact ((List.length_filter_le _ _).trans_eq List.length_range).trans_lt
          (displays_small setup)
      obtain ⟨-, accounts⟩ := (up.accounts.congr (.refl _) split).put up.aspace
        (List.mem_range.mpr inside) small (fits i inside) (frees i inside)
      obtain ⟨-, displays', slots', aspace', phase', votes', handed'⟩ :=
        splashMemPut_frame s memblockFree (some (setup.region i))
      simp only [splash, enabled, if_true]
      refine up.handOff listed (accounts.of_same rfl rfl rfl rfl) ?_ (phase'.trans up.phase)
        (aspace'.trans up.aspace) ?_ ?_ ?_
      · rw [← handed']
      · rw [← displays']
      · rw [← slots']
      · rw [← displays', ← votes']

theorem hwDestroy_inv {s : SdeKms} (up : Up setup s) (fits : setup.Fits)
    (front : ∀ i < s.numSplashDisplays, s.handedOff i = false)
    (frees : ∀ i < setup.displays, memblockFree (setup.region i) = 0) :
    Inv setup (s.hwDestroy memblockFree .down) := by
  have known : s.remaining setup ⊆ List.range setup.displays :=
    fun i listed => (List.mem_filter.mp listed).1
  have fewer : s.numSplashDisplays ≤ setup.displays := by
    rw [up.count]
    exact (List.length_filter_le _ _).trans_eq List.length_range
  have inside : List.range s.numSplashDisplays ⊆ s.remaining setup := by
    intro i listed
    have small := List.mem_range.mp listed
    exact List.mem_filter.mpr
      ⟨List.mem_range.mpr (small.trans_le fewer), by rw [front i small]; rfl⟩
  have range : (List.range s.numSplashDisplays).Perm (s.remaining setup) :=
    (List.subperm_of_subset List.nodup_range inside).perm_of_length_le
      (by rw [List.length_range, up.count])
  obtain ⟨-, -, -, -, -, votes, handed⟩ := unmapAll_frame s memblockFree
  have given :=
    up.accounts.unmapAll up.aspace range known (fun i listed => (up.slots i listed).1) fits frees
  have same : (s.hwDestroy memblockFree .down).remaining setup = s.remaining setup := by
    rw [SdeKms.remaining, SdeKms.remaining]
    exact congrArg (fun handedOff : ℕ → Bool => (List.range setup.displays).filter fun i =>
      !handedOff i) handed
  refine ⟨given.of_same rfl rfl rfl rfl, ?_⟩
  rw [same]
  exact votes.trans up.votes

theorem inv_of_up {s : SdeKms} (up : Up setup s) : Inv setup s := by
  rw [Inv, up.phase]
  exact up

theorem up_of_inv {s : SdeKms} (inv : Inv setup s) (phase : s.phase = .up) : Up setup s := by
  rw [Inv, phase] at inv
  exact inv

theorem step_inv (fits : setup.Fits) {s : SdeKms} {input : Input} (inv : Inv setup s)
    (orderly : Orderly setup s input) : Inv setup (step s input) := by
  cases input with
  | hwInit oneToOneMap setAttribute resInit memblockFree =>
    rw [step]
    split
    case isFalse => exact inv
    case isTrue attached =>
      obtain ⟨maps, frees⟩ := orderly attached
      rw [Inv, attached] at inv
      have boot : s = setup.boot := inv
      rw [boot]
      exact hwInit_inv fits maps frees
  | contSplashConfig i encoder =>
    rw [step]
    split
    case isFalse => exact inv
    case isTrue allowed => exact inv_of_up (contSplashConfig_up (up_of_inv inv allowed.1) i encoder)
  | completeCommit crtcOf crtc active memblockFree =>
    rw [step]
    split
    case isFalse => exact inv
    case isTrue phase =>
      exact inv_of_up
        (releaseSplashResource_up (up_of_inv inv phase) fits crtcOf crtc active orderly)
  | destroy memblockFree =>
    rw [step]
    split
    case isFalse => exact inv
    case isTrue phase =>
      obtain ⟨front, frees⟩ := orderly phase
      exact hwDestroy_inv (up_of_inv inv phase) fits front frees

/-! ## What has been released -/

theorem holders_range_pos {i : ℕ} (inside : i < setup.displays) :
    0 < setup.holders (List.range setup.displays) (setup.region i) :=
  List.countP_pos_iff.mpr ⟨i, List.mem_range.mpr inside, by simp⟩

theorem holders_zero_iff {held : List ℕ} {r : ℕ} :
    setup.holders held r = 0 ↔ ∀ j ∈ held, setup.region j ≠ r := by
  unfold Setup.holders
  rw [List.countP_eq_zero]
  simp

theorem Accounts.refCnt_toNat {all held : List ℕ} {s : SdeKms}
    (accounts : Accounts setup all held s)
    (small : held.length < 2 ^ 32) (r : ℕ) :
    (s.splashMem r).refCnt.toNat = setup.holders held r := by
  rw [(accounts r).refCnt, BitVec.toNat_ofNat]
  exact Nat.mod_eq_of_lt ((holders_le held r).trans_lt small)

theorem released_of_gone {s : SdeKms} (accounts : Accounts setup (List.range setup.displays) [] s)
    (phase : s.phase = .failed ∨ s.phase = .down)
    (votes : s.phase = .down → s.voteDrops = if (s.remaining setup).length = 0 then 1 else 0) :
    Released setup s := by
  have later : s.phase ≠ .attached ∧ s.phase ≠ .up := by
    rcases phase with phase | phase <;> rw [phase] <;> decide
  constructor
  case mapped => exact fun up => absurd up later.2
  case unmaps =>
    intro i inside
    rw [(accounts _).unmaps, if_pos ⟨holders_range_pos inside, rfl⟩,
      if_pos ⟨later.1, fun up => absurd up later.2⟩]
  case freed =>
    intro i inside
    rw [(accounts _).freed, if_pos ⟨holders_range_pos inside, rfl⟩,
      if_pos ⟨later.1, fun up => absurd up later.2⟩]
  case refCnt =>
    intro r
    rw [if_neg later.2]
    exact accounts.refCnt_toNat (by simp) r
  case votes =>
    rintro (up | down)
    · exact absurd up later.2
    · simp only [votes down, List.length_eq_zero_iff]

theorem released_of_up {s : SdeKms} (up : Up setup s) : Released setup s := by
  have due : ∀ r, (s.phase ≠ .attached ∧
      (s.phase = .up → ∀ j ∈ s.remaining setup, setup.region j ≠ r)) ↔
      setup.holders (s.remaining setup) r = 0 := by
    intro r
    rw [holders_zero_iff, up.phase]
    simp
  constructor
  case mapped =>
    intro _ i listed
    rw [(up.accounts _).mapped]
    exact decide_eq_true (List.countP_pos_iff.mpr ⟨i, listed, by simp⟩)
  case unmaps =>
    intro i inside
    rw [(up.accounts _).unmaps]
    simp only [due, holders_range_pos inside, true_and]
  case freed =>
    intro i inside
    rw [(up.accounts _).freed]
    simp only [due, holders_range_pos inside, true_and]
  case refCnt =>
    intro r
    rw [if_pos up.phase]
    refine up.accounts.refCnt_toNat ?_ r
    exact ((List.length_filter_le _ _).trans_eq List.length_range).trans_lt (displays_small setup)
  case votes =>
    intro _
    simp only [up.votes, List.length_eq_zero_iff]

theorem released_of_inv {s : SdeKms} (inv : Inv setup s) : Released setup s := by
  cases phase : s.phase with
  | attached =>
    rw [Inv, phase] at inv
    have boot : s = setup.boot := inv
    rw [boot]
    refine ⟨nofun, fun i _ => rfl, fun i _ => rfl, fun r => ?_, ?_⟩
    · exact congrArg BitVec.toNat (setup.unused r)
    · rintro (up | down)
      · cases up
      · cases down
  | up => exact released_of_up (up_of_inv inv phase)
  | failed =>
    rw [Inv, phase] at inv
    exact released_of_gone inv (.inl phase) fun down => by simp [phase] at down
  | down =>
    rw [Inv, phase] at inv
    exact released_of_gone inv.1 (.inr phase) fun _ => inv.2

/-- In every run in which no mapping and no `memblock_free` fails, and the displays that have been
    handed off when the driver goes away are the last of the table, the memory of the splash has
    been released as far as it is due in every state. -/
theorem splash_released (setup : Setup) (fits : setup.Fits) {inputs : List Input}
    (orderly : StepsMeet step (Orderly setup) setup.boot inputs) :
    Throughout step (Released setup) setup.boot inputs :=
  throughout_of_meets (Inv setup) (fun _ _ inv orderly => step_inv fits inv orderly)
    (fun _ inv => released_of_inv inv) rfl orderly

def twoPanels : Setup where
  regions := 2
  displays := 2
  region i := i
  mem r := if r = 0
    then
      { splashBufSize := 0x2400000, splashBufBase := 0x9c000000
        ramdumpSize := 0x100000, ramdumpBase := 0x9c000000 }
    else { splashBufSize := 0x2400000, splashBufBase := 0x9e400000 }
  room := by decide
  some_region _ := by decide
  unused r := by split <;> rfl

def panelsUp : List Input :=
  [.hwInit (fun _ => 0) 0 true fun _ => 0, .contSplashConfig 0 0, .contSplashConfig 1 1]

/-- Two panels are taken over, and the first frame of one CRTC is done. -/
def handedOffOne (crtc : ℕ) : List Input :=
  panelsUp ++ [.completeCommit some crtc true fun _ => 0, .destroy fun _ => 0]

theorem splash_released_twoPanels : Throughout step (Released twoPanels) twoPanels.boot
    (handedOffOne 1) := by
  have fits : twoPanels.Fits := (by decide : ∀ i < 2, (twoPanels.mem i).Fits)
  refine splash_released twoPanels fits ⟨?_, trivial, trivial, ?_, ?_, trivial⟩
  · exact fun _ => ⟨fun _ _ => rfl, fun _ _ _ => rfl⟩
  · exact fun _ _ => rfl
  · exact fun _ => ⟨by decide, fun _ _ => rfl⟩

/-- Where the first panel is handed off and not the second, the second's region stays mapped when
    the driver is gone; and where the mapping of the second region fails, the first stays mapped. -/
theorem region_left_mapped :
    ¬ Throughout step (Released twoPanels) twoPanels.boot (handedOffOne 0) ∧
    ¬ Throughout step (Released twoPanels) twoPanels.boot
      [.hwInit (fun r => if r = 1 then -12 else 0) 0 true fun _ => 0] := by
  refine ⟨fun released => ?_, fun released => ?_⟩
  · have last := throughout_iff_prefix.mp released _ [] (List.append_nil _).symm
    exact absurd (last.unmaps 1 (by decide)) (by decide)
  · exact absurd (released.2.unmaps 0 (by decide)) (by decide)

end DisplayDrivers.Splash
