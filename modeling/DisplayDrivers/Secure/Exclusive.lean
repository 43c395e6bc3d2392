import DisplayDrivers.Secure.Checks
import DisplayDrivers.Secure.Truth

/-! # A secure session has the display to itself

The check of an atomic state combines two counts that overlap: the CRTCs of the atomic state in
their new states, and all CRTCs of the display in their current ones.
-/

namespace DisplayDrivers.Secure

open DisplayDrivers.Lib.Run

/-! ## Counting -/

section Count

variable {modes : List FbMode} {counts : FbModes}

theorem countFbModes_secDir (ok : (countFbModes modes counts).2 = 0) :
    (countFbModes modes counts).1.secDir ≠ 0 ↔ counts.secDir ≠ 0 ∨ FbMode.secDirTrans ∈ modes := by
  induction modes generalizing counts with
  | nil => simp [countFbModes]
  | cons mode modes ih =>
    cases mode with
    | nonSec => simpa [countFbModes] using ih ok
    | sec => simpa [countFbModes] using ih ok
    | secDirTrans => simpa [countFbModes] using ih ok
    | nonSecDirTrans => exact absurd ok (by simp [countFbModes, einval])

theorem countFbModes_ok : (countFbModes modes counts).2 = 0 ↔ FbMode.nonSecDirTrans ∉ modes := by
  induction modes generalizing counts with
  | nil => simp [countFbModes]
  | cons mode modes ih =>
    cases mode with
    | nonSec => simpa [countFbModes] using ih
    | sec => simpa [countFbModes] using ih
    | secDirTrans => simpa [countFbModes] using ih
    | nonSecDirTrans => simp [countFbModes, einval]

theorem foldl_visit (active looked secure : ℕ → Bool) (crtcs : List ℕ) (survey : Survey) :
    crtcs.foldl (fun survey k => survey.visit k (active k) (looked k) (secure k)) survey =
      ⟨survey.cnt + (crtcs.filter active).length,
        survey.session || crtcs.any fun k => active k && looked k && secure k,
        ((crtcs.filter fun k => active k && looked k).getLast?).or survey.last⟩ := by
  induction crtcs generalizing survey with
  | nil => simp
  | cons k crtcs ih =>
    rw [List.foldl_cons, ih]
    cases at_active : active k with
    | false => simp [Survey.visit, at_active]
    | true =>
      cases at_looked : looked k with
      | false => simp [Survey.visit, at_active, at_looked, Nat.add_comm, Nat.add_left_comm]
      | true =>
        cases last : (crtcs.filter fun k => active k && looked k).getLast? with
        | none => simp [Survey.visit, at_active, at_looked, last, Bool.or_assoc, Nat.add_comm,
            Nat.add_left_comm, List.getLast?_cons]
        | some j => simp [Survey.visit, at_active, at_looked, last, Bool.or_assoc, Nat.add_comm,
            Nat.add_left_comm, List.getLast?_cons]

end Count

/-! ## The surveys -/

def CrtcState.stagesDirect (crtc : CrtcState) : Prop := FbMode.secDirTrans ∈ crtc.modes

def CrtcState.Clean (crtc : CrtcState) : Prop := FbMode.nonSecDirTrans ∉ crtc.modes

variable {crtc : CrtcState}

theorem CrtcState.Clean.secDir (clean : crtc.Clean) :
    crtc.findPlaneFbModes.1.secDir ≠ 0 ↔ crtc.stagesDirect := by
  have found := countFbModes_secDir (countFbModes_ok.mpr clean : (crtc.findPlaneFbModes).2 = 0)
  simpa [CrtcState.findPlaneFbModes, CrtcState.stagesDirect] using found

section Survey

variable {display : Display} {state : AtomicState}

def AtomicState.ActiveIn (state : AtomicState) (k : ℕ) : Prop :=
  ∃ crtc, state.crtcs k = some crtc ∧ crtc.active = true

def AtomicState.activeIn (state : AtomicState) (k : ℕ) : Bool := (state.crtcs k).any (·.active)

def AtomicState.secureIn (state : AtomicState) (k : ℕ) : Bool :=
  (state.crtcs k).any fun crtc => crtc.stateFindPlaneFbModes.1.secDir ≠ 0

theorem activeIn_iff {k : ℕ} : state.activeIn k = true ↔ state.ActiveIn k := by
  simp [AtomicState.activeIn, AtomicState.ActiveIn, Option.any_eq_true]

theorem survey_new (n : ℕ) :
    state.survey n =
      ⟨((List.range n).filter state.activeIn).length,
        (List.range n).any fun k => state.activeIn k && state.secureIn k,
        ((List.range n).filter state.activeIn).getLast?⟩ := by
  have visits : state.survey n = (List.range n).foldl (fun survey k =>
      survey.visit k (state.activeIn k) true (state.secureIn k)) .none := by
    rw [AtomicState.survey]
    congr 1
    funext survey k
    rw [AtomicState.activeIn, AtomicState.secureIn]
    cases state.crtcs k with
    | none => rfl
    | some crtc => rfl
  rw [visits]
  rw [foldl_visit state.activeIn (fun _ => true) state.secureIn]
  simp [Survey.none]

theorem survey_current (cur : Option ℕ) :
    display.survey cur =
      ⟨((List.range display.numCrtc).filter fun k => (display.crtcs k).active).length,
        (List.range display.numCrtc).any fun k => (display.crtcs k).active && decide
          (cur ≠ some k) &&
          decide ((display.crtcs k).findPlaneFbModes.1.secDir ≠ 0),
        ((List.range display.numCrtc).filter fun k =>
          (display.crtcs k).active && decide (cur ≠ some k)).getLast?⟩ := by
  rw [Display.survey, foldl_visit (fun k => (display.crtcs k).active) (fun k => cur ≠ some k)
    fun k => (display.crtcs k).findPlaneFbModes.1.secDir ≠ 0]
  simp [Survey.none]

end Survey

variable {k : ℕ}

theorem eq_of_count {active : ℕ → Bool} {n j : ℕ}
    (count : ((List.range n).filter active).length ≤ 1) (j_lt : j < n) (k_lt : k < n)
    (at_j : active j = true) (at_k : active k = true) : j = k := by
  have in_j : j ∈ (List.range n).filter active :=
    List.mem_filter.mpr ⟨List.mem_range.mpr j_lt, at_j⟩
  have in_k : k ∈ (List.range n).filter active :=
    List.mem_filter.mpr ⟨List.mem_range.mpr k_lt, at_k⟩
  cases all : (List.range n).filter active with
  | nil =>
    rw [all] at in_j
    cases in_j
  | cons first others =>
    rw [all] at count in_j in_k
    have alone : others = [] := List.length_eq_zero_iff.mp (by simpa using count)
    rw [alone] at in_j in_k
    exact (List.mem_singleton.mp in_j).trans (List.mem_singleton.mp in_k).symm

/-! ## What is accepted -/

section Accepted

variable {display : Display} {state : AtomicState}

def Display.Exclusive (display : Display) : Prop :=
  ∀ k < display.numCrtc, (display.crtcs k).active = true → (display.crtcs k).stagesDirect →
    ∀ j < display.numCrtc, (display.crtcs j).active = true → j = k

def Display.Checked (display : Display) : Prop :=
  ∀ k < display.numCrtc, (display.crtcs k).active = true → (display.crtcs k).Clean

theorem checkSecureTransition_ok (ok : checkSecureTransition display state = 0)
    (session : (display.survey (state.survey display.numCrtc).last).session = true ∨
      (state.survey display.numCrtc).session = true) :
    (display.survey (state.survey display.numCrtc).last).cnt ≤ 1 ∧
      (state.survey display.numCrtc).cnt ≤ 1 ∧
      ((display.survey (state.survey display.numCrtc).last).last.isSome = true →
        (state.survey display.numCrtc).last.isSome = true →
          (display.survey (state.survey display.numCrtc).last).last =
            (state.survey display.numCrtc).last) := by
  rw [checkSecureTransition] at ok
  have secure : ¬(!(display.survey (state.survey display.numCrtc).last).session &&
      !(state.survey display.numCrtc).session) = true := by
    cases session with
    | inl current => simp [current]
    | inr new => simp [new]
  rw [if_neg secure] at ok
  by_cases many : (display.survey (state.survey display.numCrtc).last).cnt >
    maxCrtcCntDuringSecure ∨
      (state.survey display.numCrtc).cnt > maxCrtcCntDuringSecure
  · rw [if_pos many] at ok
    cases ok
  · rw [if_neg many] at ok
    obtain ⟨few_current, few_new⟩ := not_or.mp many
    refine ⟨Nat.le_of_not_gt few_current, Nat.le_of_not_gt few_new, fun current new => ?_⟩
    by_contra differ
    rw [if_pos ⟨current, new, differ⟩] at ok
    cases ok

variable {smmu : SmmuStateData}

theorem checkCrtcs_ok {limits : Limits} {crtcs : List ℕ}
    (ok : checkCrtcs limits smmu display state crtcs = 0) :
    ∀ k ∈ crtcs, ∀ crtc, state.crtcs k = some crtc → crtc.active = true →
      checkSecureState limits smmu (display.crtcs k) crtc = 0 := by
  induction crtcs with
  | nil => nofun
  | cons first crtcs ih =>
    rw [checkCrtcs] at ok
    rw [List.forall_mem_cons]
    cases at_first : state.crtcs first with
    | none =>
      rw [at_first] at ok
      exact ⟨nofun, ih ok⟩
    | some crtc =>
      rw [at_first] at ok
      dsimp only at ok
      by_cases rc : (if crtc.active then checkSecureState limits smmu (display.crtcs first) crtc
          else 0) = 0
      · rw [if_neg (not_not.mpr rc)] at ok
        refine ⟨fun other at_other active => ?_, ih ok⟩
        cases at_other
        rwa [if_pos active] at rc
      · rw [if_pos rc] at ok
        exact absurd ok rc

theorem checkSecureState_clean {limits : Limits} {old : CrtcState}
    (ok : checkSecureState limits smmu old crtc = 0) : crtc.Clean := by
  rw [checkSecureState] at ok
  by_cases counted : crtc.stateFindPlaneFbModes.2 = 0
  · exact countFbModes_ok.mp counted
  · rw [if_pos counted] at ok
    exact absurd ok counted

theorem last_new {n c : ℕ} (last : (state.survey n).last = some c) :
    c < n ∧ state.activeIn c = true := by
  rw [survey_new] at last
  obtain ⟨below, active⟩ := List.mem_filter.mp (List.mem_of_getLast? last)
  exact ⟨List.mem_range.mp below, active⟩

theorem last_new_isSome {n : ℕ} (below : k < n) (active : state.activeIn k = true) :
    (state.survey n).last.isSome = true := by
  rw [survey_new]
  refine List.getLast?_isSome.mpr ?_
  exact List.ne_nil_of_mem (List.mem_filter.mpr ⟨List.mem_range.mpr below, active⟩)

variable {cur : Option ℕ}

theorem last_current {c : ℕ} (last : (display.survey cur).last = some c) : cur ≠ some c := by
  rw [survey_current] at last
  have found := (List.mem_filter.mp (List.mem_of_getLast? last)).2
  simp only [Bool.and_eq_true, decide_eq_true_eq] at found
  exact found.2

theorem last_current_isSome (below : k < display.numCrtc)
    (active : (display.crtcs k).active = true) (other : cur ≠ some k) :
    (display.survey cur).last.isSome = true := by
  rw [survey_current]
  refine List.getLast?_isSome.mpr ?_
  refine List.ne_nil_of_mem (List.mem_filter.mpr ⟨List.mem_range.mpr below, ?_⟩)
  simp [active, other]

theorem session_new {n : ℕ} (below : k < n) (at_k : state.crtcs k = some crtc)
    (active : crtc.active = true) (clean : crtc.Clean) (direct : crtc.stagesDirect) :
    (state.survey n).session = true := by
  rw [survey_new, List.any_eq_true]
  refine ⟨k, List.mem_range.mpr below, ?_⟩
  have secure : crtc.stateFindPlaneFbModes.1.secDir ≠ 0 := clean.secDir.mpr direct
  simp [AtomicState.activeIn, AtomicState.secureIn, at_k, active, secure]

theorem session_current (below : k < display.numCrtc)
    (active : (display.crtcs k).active = true) (other : cur ≠ some k)
    (clean : (display.crtcs k).Clean) (direct : (display.crtcs k).stagesDirect) :
    (display.survey cur).session = true := by
  rw [survey_current, List.any_eq_true]
  refine ⟨k, List.mem_range.mpr below, ?_⟩
  simp [active, other, clean.secDir.mpr direct]

theorem alone_new {j : ℕ} (ok : checkSecureTransition display state = 0)
    (k_lt : k < display.numCrtc) (at_k : state.crtcs k = some crtc) (active : crtc.active = true)
    (clean : crtc.Clean) (direct : crtc.stagesDirect) (j_lt : j < display.numCrtc)
    (active_j : ((display.commit state).crtcs j).active = true) : j = k := by
  obtain ⟨-, few, same⟩ := checkSecureTransition_ok ok
    (.inr (session_new k_lt at_k active clean direct))
  have in_k : state.activeIn k = true := activeIn_iff.mpr ⟨crtc, at_k, active⟩
  have alone : ∀ i, i < display.numCrtc → state.activeIn i = true → i = k := by
    intro i i_lt in_i
    rw [survey_new] at few
    exact eq_of_count few i_lt k_lt in_i in_k
  have some_last := last_new_isSome k_lt in_k
  obtain ⟨cur, at_cur⟩ := Option.isSome_iff_exists.mp some_last
  have is_k : cur = k := alone cur (last_new at_cur).1 (last_new at_cur).2
  rw [is_k] at at_cur
  by_contra differ
  cases at_j : state.crtcs j with
  | some crtc_j =>
    have in_j : state.activeIn j = true :=
      activeIn_iff.mpr ⟨crtc_j, at_j, by simpa [Display.commit, at_j] using active_j⟩
    exact differ (alone j j_lt in_j)
  -- a CRTC that stays active is the last one of the display, or comes before it
  | none =>
    have stays : (display.crtcs j).active = true := by simpa [Display.commit, at_j] using active_j
    have other : (state.survey display.numCrtc).last ≠ some j := by
      rw [at_cur]
      simpa using Ne.symm differ
    have some_current := last_current_isSome j_lt stays other
    exact last_current ((same some_current some_last).trans at_cur) at_cur

theorem alone_current {j : ℕ} (ok : checkSecureTransition display state = 0)
    (k_lt : k < display.numCrtc) (at_k : state.crtcs k = none)
    (active : (display.crtcs k).active = true) (clean : (display.crtcs k).Clean)
    (direct : (display.crtcs k).stagesDirect) (j_lt : j < display.numCrtc)
    (active_j : ((display.commit state).crtcs j).active = true) : j = k := by
  have other : (state.survey display.numCrtc).last ≠ some k := by
    intro last
    have in_k := (last_new last).2
    rw [AtomicState.activeIn, at_k] at in_k
    cases in_k
  obtain ⟨few, -, same⟩ := checkSecureTransition_ok ok
    (.inl (session_current k_lt active other clean direct))
  cases at_j : state.crtcs j with
  | some crtc_j =>
    have in_j : state.activeIn j = true :=
      activeIn_iff.mpr ⟨crtc_j, at_j, by simpa [Display.commit, at_j] using active_j⟩
    have some_last := last_new_isSome j_lt in_j
    obtain ⟨cur, at_cur⟩ := Option.isSome_iff_exists.mp some_last
    have some_current := last_current_isSome k_lt active other
    exact absurd at_cur (last_current ((same some_current some_last).trans at_cur))
  | none =>
    have stays : (display.crtcs j).active = true := by simpa [Display.commit, at_j] using active_j
    rw [survey_current] at few
    exact eq_of_count few j_lt k_lt stays active

theorem commit_exclusive (checked : display.Checked)
    (clean : ∀ k < display.numCrtc, ∀ crtc, state.crtcs k = some crtc → crtc.active = true →
      crtc.Clean)
    (ok : checkSecureTransition display state = 0) :
    (display.commit state).Exclusive ∧ (display.commit state).Checked := by
  constructor
  · intro k k_lt active direct j j_lt active_j
    cases at_k : state.crtcs k with
    | some crtc =>
      simp only [Display.commit, at_k, Option.getD_some] at active direct
      exact alone_new ok k_lt at_k active (clean k k_lt crtc at_k active) direct j_lt active_j
    | none =>
      simp only [Display.commit, at_k, Option.getD_none] at active direct
      exact alone_current ok k_lt at_k active (checked k k_lt active) direct j_lt active_j
  · intro k k_lt active
    cases at_k : state.crtcs k with
    | some crtc =>
      simp only [Display.commit, at_k, Option.getD_some] at active ⊢
      exact clean k k_lt crtc at_k active
    | none =>
      simp only [Display.commit, at_k, Option.getD_none] at active ⊢
      exact checked k k_lt active

end Accepted

/-! ## The walk before the commit -/

theorem translationMode_direct {modes : List FbMode} (direct : FbMode.secDirTrans ∈ modes)
    (first : FbMode) : translationMode first modes = .secDirTrans := by
  induction modes generalizing first with
  | nil => cases direct
  | cons mode modes ih =>
    cases mode with
    | secDirTrans => rfl
    | nonSec => exact ih (by simpa using direct) .nonSec
    | sec => exact ih (by simpa using direct) .sec
    | nonSecDirTrans => exact ih (by simpa using direct) .nonSecDirTrans

section Walk

variable {catalog : Catalog} {n : ℕ} {state : AtomicState} {kms : Kms} {f : Frame}

theorem prepare_not_attached (env : Env) (direct : FbMode.secDirTrans ∈ f.modes) :
    (prepareSecureTransition catalog env f kms).smmu.state ≠ .attached := by
  have mode : translationMode .nonSec f.modes = .secDirTrans :=
    translationMode_direct direct .nonSec
  by_cases attached : kms.smmu.state = .attached
  · obtain ⟨req, level, misr, is_detach, prepared⟩ := prepare_detach catalog env mode attached
    rw [prepared]
    have due : Due (kms.request req level .preCommit misr) false := .of_pre rfl
    have requested : req ≠ .attached := by
      cases is_detach with
      | inl all => simp [all]
      | inr sec => simp [sec]
    obtain ⟨-, sui, given_up⟩ | ⟨sui, sui', error, moved⟩ := secureCtrl_due catalog env due
    · rw [given_up]
      exact requested
    · have ends := (transition_ends env { kms.request req level .preCommit misr with sui := sui }).1
      rw [moved, Kms.settle, ends]
      dsimp only
      split
      · rw [SmmuStateData.asked]
        cases is_detach with
        | inl all => simp [Kms.request, all]
        | inr sec => simp [Kms.request, sec]
      · exact requested
  · have no_attach : ¬f.attaches := by
      rw [Frame.attaches, mode]
      exact fun other => by cases other with | inl h => cases h | inr h => cases h
    rwa [prepare_direct catalog env no_attach fun _ => attached]

theorem getOps_direct (direct : FbMode.secDirTrans ∈ f.modes)
    (not_attached : kms.smmu.state ≠ .attached) :
    getSecureTransitionOps catalog f kms = (kms, .ok Ops.none) := by
  rw [getSecureTransitionOps, translationMode_direct direct]
  dsimp only
  rw [if_neg fun both => not_attached both.1, if_neg not_attached]

theorem prepareLoop_settled (at_k : state.crtcs k = some crtc)
    (alone : ∀ i < n, ∀ other, state.crtcs i = some other → other.active = true → i = k)
    (direct : crtc.stagesDirect) (not_attached : kms.smmu.state ≠ .attached) (envs : ℕ → Env)
    (oldValidFb : Bool) :
    ∀ fuel i, n - i < fuel →
      prepareLoop catalog n state fuel i envs oldValidFb kms = some kms := by
  intro fuel
  induction fuel with
  | zero => exact fun i enough => absurd enough (Nat.not_lt_zero _)
  | succ fuel ih =>
    intro i enough
    rw [prepareLoop]
    by_cases done : n ≤ i
    · rw [if_pos done]
    · rw [if_neg done]
      cases at_i : state.crtcs i with
      | none => exact ih (i + 1) (by omega)
      | some other =>
        cases active : other.active with
        | false =>
          simp only [active, Bool.not_false, if_true]
          exact ih (i + 1) (by omega)
        | true =>
          have is_k : i = k := alone i (by omega) other at_i active
          rw [is_k, at_k] at at_i
          cases at_i
          have no_ops : ∀ old, getSecureTransitionOps catalog (crtc.frame old) kms =
              (kms, .ok Ops.none) :=
                fun old => getOps_direct (f := crtc.frame old) direct not_attached
          simp only [active, no_ops, Bool.not_true, Bool.false_eq_true, if_false, if_true]

theorem prepareLoop_visit (k_lt : k < n)
    (at_k : state.crtcs k = some crtc) (active : crtc.active = true)
    (alone : ∀ i < n, ∀ other, state.crtcs i = some other → other.active = true → i = k)
    (direct : crtc.stagesDirect) (envs : ℕ → Env) {fuel : ℕ} (enough : n < fuel) :
    prepareLoop catalog n state (fuel + 1) k envs false kms =
      some (prepareSecureTransition catalog (envs 0)
        (crtc.frame (scanPlanes state.planes 0).1) kms) := by
  have settled :=
    @prepare_not_attached catalog kms (crtc.frame (scanPlanes state.planes 0).1) (envs 0)
    direct
  rw [prepareLoop, if_neg (Nat.not_le.mpr k_lt), at_k]
  simp only [active, Bool.not_true, Bool.false_eq_true, if_false, Bool.false_or]
  rw [prepareSecureTransition] at settled ⊢
  cases asked : (getSecureTransitionOps catalog
    (crtc.frame (scanPlanes state.planes 0).1) kms).2 with
  | error rc => rfl
  | ok ops =>
    rw [asked] at settled
    dsimp only at settled ⊢
    by_cases no_ops : ops = Ops.none
    · rw [if_pos no_ops, no_ops]
      rfl
    · rw [if_neg no_ops]
      exact prepareLoop_settled at_k alone direct settled _ _ fuel _ (by omega)

theorem prepareLoop_alone (k_lt : k < n)
    (at_k : state.crtcs k = some crtc) (active : crtc.active = true)
    (alone : ∀ i < n, ∀ other, state.crtcs i = some other → other.active = true → i = k)
    (direct : crtc.stagesDirect) (envs : ℕ → Env) {fuel : ℕ} (enough : 2 * n + 2 ≤ fuel) :
    prepareLoop catalog n state fuel 0 envs false kms =
      some (prepareSecureTransition catalog (envs 0)
        (crtc.frame (scanPlanes state.planes 0).1) kms) := by
  have from_below : ∀ before i, i + before = k → ∀ fuel, n + 1 + before < fuel →
      prepareLoop catalog n state fuel i envs false kms =
        some (prepareSecureTransition catalog (envs 0)
          (crtc.frame (scanPlanes state.planes 0).1) kms) := by
    intro before
    induction before with
    | zero =>
      intro i at_i fuel enough
      cases fuel with
      | zero => omega
      | succ fuel =>
        rw [Nat.add_zero] at at_i
        rw [at_i]
        exact prepareLoop_visit k_lt at_k active alone direct envs (by omega)
    | succ before ih =>
      intro i at_i fuel enough
      cases fuel with
      | zero => omega
      | succ fuel =>
        have next := ih (i + 1) (by omega) fuel (by omega)
        rw [prepareLoop, if_neg (by omega)]
        cases crtc_i : state.crtcs i with
        | none => exact next
        | some other =>
          cases active_i : other.active with
          | false =>
            simp only [active_i, Bool.not_false, if_true]
            exact next
          | true => exact absurd (alone i (by omega) other crtc_i active_i) (by omega)
  exact from_below k 0 (Nat.zero_add k) fuel (by omega)

end Walk

/-! ## Runs -/

/-- An atomic state with what decides on it besides: the state of the SMMU at the time of the check,
    whether the display is suspended and what the other checks say. -/
structure Request where
  state : AtomicState
  smmu : SmmuStateData
  suspended : Bool
  others : Int

def Display.Accepts (limits : Limits) (display : Display) (request : Request) : Prop :=
  atomicCheck limits request.smmu request.suspended request.others display request.state = 0

instance (limits : Limits) (display : Display) (request : Request) :
    Decidable (display.Accepts limits request) := inferInstanceAs (Decidable (_ = _))

def Display.step (limits : Limits) (display : Display) (request : Request) : Display :=
  if display.Accepts limits request then display.commit request.state else display

def Display.Off (display : Display) : Prop :=
  ∀ k < display.numCrtc, (display.crtcs k).active = false

section Runs

variable {limits : Limits} {display : Display}

theorem accepts_commit {request : Request} (checked : display.Checked)
    (accepts : display.Accepts limits request) :
    (display.commit request.state).Exclusive ∧ (display.commit request.state).Checked := by
  rw [Display.Accepts, atomicCheck] at accepts
  by_cases suspended : request.suspended = true
  · rw [if_pos suspended] at accepts
    cases accepts
  · rw [if_neg suspended] at accepts
    by_cases others : request.others = 0
    · rw [if_neg (not_not.mpr others)] at accepts
      by_cases rc : checkCrtcs limits request.smmu display request.state
          (List.range display.numCrtc) = 0
      · rw [if_neg (not_not.mpr rc)] at accepts
        refine commit_exclusive checked (fun k k_lt crtc at_k active => ?_) accepts
        exact checkSecureState_clean (checkCrtcs_ok rc k (List.mem_range.mpr k_lt) crtc at_k active)
      · rw [if_pos rc] at accepts
        exact absurd accepts rc
    · rw [if_pos others] at accepts
      exact absurd accepts others

theorem step_exclusive (request : Request) (keeps : display.Exclusive ∧ display.Checked) :
    (display.step limits request).Exclusive ∧ (display.step limits request).Checked := by
  rw [Display.step]
  split
  · rename_i accepts
    exact accepts_commit keeps.2 accepts
  · exact keeps

theorem off_exclusive (off : display.Off) : display.Exclusive ∧ display.Checked := by
  constructor
  · intro k k_lt active
    rw [off k k_lt] at active
    cases active
  · intro k k_lt active
    rw [off k k_lt] at active
    cases active

/-- After any sequence of atomic states, accepted or not, an active CRTC with direct secure planes
    is the only active one; and the walk before the commit of an accepted state carries out exactly
    the transition of such a CRTC, whatever else takes part. -/
theorem exclusive_run (limits : Limits) (display : Display) (off : display.Off)
    (requests : List Request) :
    (run (Display.step limits) display requests).Exclusive ∧
      ∀ request, (run (Display.step limits) display requests).Accepts limits request →
        ∀ k < (run (Display.step limits) display requests).numCrtc, ∀ crtc,
          request.state.crtcs k = some crtc → crtc.active = true → crtc.stagesDirect →
            ∀ (catalog : Catalog) (envs : ℕ → Env) (kms : Kms) (fuel : ℕ),
              2 * (run (Display.step limits) display requests).numCrtc + 2 ≤ fuel →
                prepareLoop catalog (run (Display.step limits) display requests).numCrtc
                    request.state fuel 0 envs false kms =
                  some (prepareSecureTransition catalog (envs 0)
                    (crtc.frame (scanPlanes request.state.planes 0).1) kms) := by
  have keeps : (run (Display.step limits) display requests).Exclusive ∧
      (run (Display.step limits) display requests).Checked :=
    run_invariant (fun display : Display => display.Exclusive ∧ display.Checked)
      (fun _ => step_exclusive)
      (off_exclusive off) requests
  refine ⟨keeps.1,
    fun request accepts k k_lt crtc at_k active direct catalog envs kms fuel enough => ?_⟩
  obtain ⟨exclusive, -⟩ := accepts_commit keeps.2 accepts
  refine prepareLoop_alone k_lt at_k active (fun i i_lt other at_i active_i => ?_)
    direct envs enough
  -- the new states of the CRTCs that take part are the states after the commit
  have is_k := exclusive k k_lt
  have is_i := fun active direct => is_k active direct i i_lt
  simp only [Display.commit, at_k, at_i, Option.getD_some] at is_i
  exact is_i active direct active_i

def previewRequest : Request where
  state :=
    { crtcs := fun k =>
        if k = 0 then some ⟨false, [.nonSec], .nonSec, [], [], [], false⟩
        else if k = 1 then some ⟨true, [.secDirTrans], .nonSec, [⟨true, 0, 1⟩], [], [false], false⟩
        else .none
      planes := [.none, some ⟨true, true⟩] }
  smmu := ⟨.attached, .nonSec, .none, false, .none⟩
  suspended := false
  others := 0

def offDisplay : Display := ⟨2, fun _ => ⟨false, [], .nonSec, [], [], [], false⟩⟩

theorem exclusive_run_preview :
    (run (Display.step ⟨0, true⟩) offDisplay [previewRequest]).Exclusive ∧
      prepareLoop ⟨true, false, fun _ => false⟩ 2 previewRequest.state 6 0
        (fun _ => ⟨0, 0, fun _ => 0⟩)
          false (Kms.init [false, true]) =
        some (prepareSecureTransition ⟨true, false, fun _ => false⟩ ⟨0, 0, fun _ => 0⟩
          ⟨[.secDirTrans], .nonSec, false, true⟩ (Kms.init [false, true])) :=
  ⟨(exclusive_run ⟨0, true⟩ offDisplay (fun _ _ => rfl) [previewRequest]).1,
    (exclusive_run ⟨0, true⟩ offDisplay (fun _ _ => rfl) []).2 previewRequest
      (by decide) 1 (by decide)
      ⟨true, [.secDirTrans], .nonSec, [⟨true, 0, 1⟩], [], [false], false⟩ rfl rfl (.head _)
      ⟨true, false, fun _ => false⟩ (fun _ => ⟨0, 0, fun _ => 0⟩) (Kms.init [false, true]) 6
      (by decide)⟩

end Runs

end DisplayDrivers.Secure
