import DisplayDrivers.Lib.Interleave
import DisplayDrivers.Rois.Rects

/-! # Panel stacking (`msm/sde/sde_crtc.c`)

A stacked panel gets dummy lines between those of the image: `padding_dummy` of them after every
`padding_active` lines.
-/

namespace DisplayDrivers.Stacking

open DisplayDrivers.Lib.Interleave
open DisplayDrivers.Rois (Mode einval)

abbrev Word := BitVec 32

def maxVpaddingRatioM : Word := 63#32
def maxVpaddingRatioN : Word := 15#32

structure Padding where
  height : Word
  active : Word
  dummy : Word

/-- What a check is made with; `vpadding` is `none` where `sde_connector_get_mode_info` fails. -/
structure Request where
  numConnectors : ℕ
  vpadding : Option Word
  mode : Mode

def Request.vdisplay (request : Request) : Word := BitVec.ofNat 32 request.mode.vdisplay

def calcGcd (a b : Word) : Word := if b = 0 then a else calcGcd b (a % b)
termination_by b.toNat
decreasing_by
  rw [BitVec.toNat_umod]
  apply Nat.mod_lt
  cases Nat.eq_zero_or_pos b.toNat with
  | inl zero => exact absurd (BitVec.eq_of_toNat_eq zero) ‹¬b = 0›
  | inr positive => exact positive

def calcRatio (vpadding vdisplay : Word) : Option (Word × Word) :=
  let gcd := calcGcd vpadding vdisplay
  if gcd = 0 then none
  else
    let m := vdisplay / gcd
    let n := vpadding / gcd - m
    if maxVpaddingRatioM < m ∨ maxVpaddingRatioN < n then none else some (m, n)

/-- The end of `_sde_crtc_check_panel_stacking`: a new ratio. -/
def cacheRatio (padding : Padding) (vpadding vdisplay : Word) : Int × Padding :=
  match calcRatio vpadding vdisplay with
  | none => (einval, padding)
  | some (m, n) => (0, ⟨vpadding, m, n⟩)

/-- `_sde_crtc_check_panel_stacking`, with the state that is left behind. -/
def checkPanelStacking (hasLineInsertion : Bool) (padding : Padding) (request : Request) :
    Int × Padding :=
  if !hasLineInsertion then (0, padding)
  else if request.numConnectors ≠ 1 then (0, padding)
  else
    match request.vpadding with
    | none => (einval, padding)
    | some vpadding =>
      if vpadding = 0 then (0, { padding with height := vpadding })
      else if vpadding < request.vdisplay then (einval, padding)
      else if vpadding = padding.height then (0, padding)
      else cacheRatio padding vpadding request.vdisplay

structure Placed where
  y : Word
  start : Word
  height : Word

/-- `sde_crtc_calc_vpadding_param`; without line insertion nothing is written. -/
def calcVpaddingParam (hasLineInsertion : Bool) (padding : Padding) (crtcY crtcH : Word) :
    Except Int (Option Placed) :=
  if !hasLineInsertion then .ok none
  else if padding.active = 0 then .error einval
  else
    let m := padding.active
    let n := m + padding.dummy
    let yRemain := crtcY % m
    let yStart := yRemain + crtcY / m * n
    let yEnd := (crtcY + crtcH - 1) / m * n + (crtcY + crtcH - 1) % m
    .ok (some ⟨yStart, m - yRemain, yEnd - yStart + 1⟩)

/-! ## The ratio -/

theorem toNat_calcGcd (a b : Word) : (calcGcd a b).toNat = Nat.gcd a.toNat b.toNat := by
  induction a, b using calcGcd.induct with
  | case1 a =>
    rw [calcGcd, if_pos rfl]
    exact (Nat.gcd_zero_right a.toNat).symm
  | case2 a b some ih =>
    rw [calcGcd, if_neg some, ih, BitVec.toNat_umod, Nat.gcd_comm b.toNat,
      ← Nat.gcd_rec, Nat.gcd_comm]

theorem calcRatio_some {vpadding vdisplay m n : Word} (high : 0 < vdisplay.toNat)
    (taller : vdisplay.toNat ≤ vpadding.toNat) (ratio : calcRatio vpadding vdisplay = some (m, n)) :
    (0 < m.toNat ∧ m.toNat ≤ 63 ∧ n.toNat ≤ 15) ∧
      m.toNat * vpadding.toNat = (m.toNat + n.toNat) * vdisplay.toNat := by
  have gcd := toNat_calcGcd vpadding vdisplay
  rw [calcRatio] at ratio
  generalize calcGcd vpadding vdisplay = g at gcd ratio
  split at ratio
  · cases ratio
  · dsimp only at ratio
    split at ratio
    · cases ratio
    next small =>
      cases ratio
      obtain ⟨a, shown⟩ := Nat.gcd_dvd_right vpadding.toNat vdisplay.toNat
      obtain ⟨b, padded⟩ := Nat.gcd_dvd_left vpadding.toNat vdisplay.toNat
      have divides : 0 < g.toNat := gcd ▸ Nat.gcd_pos_of_pos_right _ high
      rw [← gcd] at shown padded
      have active : (vdisplay / g).toNat = a := by
        rw [BitVec.toNat_udiv, shown, Nat.mul_div_cancel_left _ divides]
      have quotient : (vpadding / g).toNat = b := by
        rw [BitVec.toNat_udiv, padded, Nat.mul_div_cancel_left _ divides]
      have more : a ≤ b := by
        rw [shown, padded] at taller
        exact Nat.le_of_mul_le_mul_left taller divides
      have dummy : (vpadding / g - vdisplay / g).toNat = b - a := by
        rw [BitVec.toNat_sub_of_le (by rw [BitVec.le_def, active, quotient]; exact more),
          active, quotient]
      rw [not_or, BitVec.not_lt, BitVec.not_lt, BitVec.le_def, BitVec.le_def, active,
        dummy] at small
      rw [active, dummy, Nat.add_sub_cancel' more, shown, padded]
      refine ⟨⟨?_, small.1, small.2⟩, by ring⟩
      rw [shown] at high
      exact Nat.pos_of_mul_pos_left high

/-! ## The lines of a stacked panel

With the ratio of its mode a CRTC places layers as `Interleave.place` does (`mapped_of_ratio`).  The
ratio is kept as long as the padded size is the same, although it depends on the other size too: it
is exact throughout a run exactly where no two checks in a row, of single connectors, have the same
padding and different modes (`exactThroughout_iff`).
-/

structure Ratio (padding : Padding) (vpadding vdisplay : ℕ) : Prop where
  some : 0 < padding.active.toNat
  small : padding.active.toNat ≤ 63 ∧ padding.dummy.toNat ≤ 15
  rate : padding.active.toNat * vpadding = (padding.active.toNat + padding.dummy.toNat) * vdisplay

/-- The layers of a mode: as many lines as `crtc_h`, inside it. -/
structure Layer (vdisplay : ℕ) where
  crtcY : Word
  crtcH : Word
  some : 1 ≤ crtcH.toNat
  inside : crtcY.toNat + crtcH.toNat ≤ vdisplay

def dummies (padding : Padding) (first last : ℕ) : Finset ℕ :=
  (Finset.Icc first last).filter fun k => ¬Filled padding.active.toNat padding.dummy.toNat k

structure Mapped (padding : Padding) (vpadding vdisplay : ℕ) (placed : Layer vdisplay → Placed) :
    Prop where
  returned : ∀ layer, calcVpaddingParam true padding layer.crtcY layer.crtcH = .ok
    (some (placed layer))
  increasing : ∀ first second, first.crtcY.toNat < second.crtcY.toNat →
    (placed first).y.toNat < (placed second).y.toNat
  height : ∀ layer, (placed layer).height.toNat = layer.crtcH.toNat +
    (dummies padding (placed layer).y.toNat
      ((placed layer).y.toNat + (placed layer).height.toNat - 1)).card
  within : ∀ layer, (placed layer).y.toNat + (placed layer).height.toNat ≤ vpadding
  disjoint : ∀ first second, first.crtcY.toNat + first.crtcH.toNat ≤ second.crtcY.toNat →
    (placed first).y.toNat + (placed first).height.toNat ≤ (placed second).y.toNat

variable {padding : Padding} {vpadding vdisplay : ℕ}

theorem toNat_place (ratio : Ratio padding vpadding vdisplay) (line : Word)
    (low : line.toNat < 65536) :
    (line % padding.active + line / padding.active * (padding.active + padding.dummy)).toNat =
      place padding.active.toNat padding.dummy.toNat line.toNat ∧
    place padding.active.toNat padding.dummy.toNat line.toNat < 2 ^ 31 := by
  obtain ⟨some, ⟨active, dummy⟩, -⟩ := ratio
  have groups : line.toNat / padding.active.toNat ≤ line.toNat := Nat.div_le_self _ _
  have dummies : line.toNat / padding.active.toNat * padding.dummy.toNat ≤ 65535 * 15 :=
    Nat.mul_le_mul (by omega) dummy
  have filled : line.toNat / padding.active.toNat * padding.active.toNat ≤ line.toNat :=
    Nat.div_mul_le_self _ _
  have rest : line.toNat % padding.active.toNat < padding.active.toNat := Nat.mod_lt _ some
  have product : (line / padding.active * (padding.active + padding.dummy)).toNat =
      line.toNat / padding.active.toNat * (padding.active.toNat + padding.dummy.toNat) := by
    have both : (padding.active + padding.dummy).toNat =
      padding.active.toNat + padding.dummy.toNat := by
      rw [BitVec.toNat_add, Nat.mod_eq_of_lt (by omega)]
    rw [BitVec.toNat_mul, BitVec.toNat_udiv, both, Nat.mod_eq_of_lt]
    rw [Nat.mul_add]
    omega
  constructor
  · rw [BitVec.toNat_add, product, BitVec.toNat_umod, Nat.mod_eq_of_lt, place]
    rw [Nat.mul_add]
    omega
  · rw [place_eq]
    omega

theorem calcVpaddingParam_eq (ratio : Ratio padding vpadding vdisplay) (v16 : vdisplay < 65536)
    (layer : Layer vdisplay) : ∃ placed, calcVpaddingParam true padding layer.crtcY layer.crtcH =
    .ok (some placed) ∧
      placed.y.toNat = place padding.active.toNat padding.dummy.toNat layer.crtcY.toNat ∧
      placed.height.toNat =
        place padding.active.toNat padding.dummy.toNat
          (layer.crtcY.toNat + layer.crtcH.toNat - 1) + 1 -
          place padding.active.toNat padding.dummy.toNat layer.crtcY.toNat := by
  obtain ⟨y, h, some, inside⟩ := layer
  dsimp only
  have last : (y + h - 1).toNat = y.toNat + h.toNat - 1 := by
    have sum : (y + h).toNat = y.toNat + h.toNat := by
      rw [BitVec.toNat_add, Nat.mod_eq_of_lt (by omega)]
    rw [BitVec.toNat_sub_of_le
      (by rw [BitVec.le_def, sum]; exact Nat.le_trans some (Nat.le_add_left _ _)), sum]
    rfl
  have active : padding.active ≠ 0 := by
    intro zero
    have positive := ratio.some
    rw [zero] at positive
    exact absurd positive (by decide)
  obtain ⟨start, startLow⟩ := toNat_place ratio y (by omega)
  obtain ⟨finish, finishLow⟩ := toNat_place ratio (y + h - 1) (by omega)
  rw [last] at finish finishLow
  have after : place padding.active.toNat padding.dummy.toNat y.toNat ≤
      place padding.active.toNat padding.dummy.toNat (y.toNat + h.toNat - 1) :=
    place_strictMono.monotone (by omega)
  refine ⟨_, by rw [calcVpaddingParam, if_neg (by decide), if_neg active], start, ?_⟩
  dsimp only
  rw [BitVec.add_comm] at finish
  rw [BitVec.toNat_add, BitVec.toNat_sub_of_le (by rw [BitVec.le_def, start, finish]; exact after),
    start, finish,
    Nat.mod_eq_of_lt]
  · change _ + 1 = _
    omega
  · change _ + 1 < _
    omega

theorem mapped_of_ratio (ratio : Ratio padding vpadding vdisplay) (v16 : vdisplay < 65536) :
    ∃ placed, Mapped padding vpadding vdisplay placed := by
  choose placed returned y height using calcVpaddingParam_eq ratio v16
  have mono : StrictMono (place padding.active.toNat padding.dummy.toNat) := place_strictMono
  -- a layer ends behind the place of its last line
  have ends : ∀ layer, (placed layer).y.toNat + (placed layer).height.toNat =
      place padding.active.toNat padding.dummy.toNat
        (layer.crtcY.toNat + layer.crtcH.toNat - 1) + 1 := by
    intro layer
    have some := layer.some
    have after :=
      mono.monotone (by omega : layer.crtcY.toNat ≤ layer.crtcY.toNat + layer.crtcH.toNat - 1)
    rw [y, height]
    omega
  refine ⟨placed, returned, fun first second before => ?_, fun layer => ?_, fun layer => ?_,
    fun first second before => ?_⟩
  · rw [y, y]
    exact mono before
  · have some := layer.some
    rw [ends layer, dummies, Nat.add_sub_cancel, y, height,
      span_eq ratio.some layer.crtcY.toNat (layer.crtcY.toNat + layer.crtcH.toNat - 1)]
    congr 1
    omega
  · have some := layer.some
    have inside := layer.inside
    rw [ends layer]
    exact place_lt ratio.some ratio.rate (by omega)
  · have some := first.some
    rw [ends first, y second]
    exact mono (by omega)

/-! ## Runs of checks -/

/-- The state after a check is exact, if the check is for a single connector: its padding is cached,
    and the pattern, if there is one, maps the lines of its mode. -/
def Exact (request : Request) (padding : Padding) : Prop :=
  request.numConnectors = 1 → ∀ vpadding, request.vpadding = some vpadding →
    padding.height = vpadding ∧
    (vpadding ≠ 0 →
      padding.active.toNat * vpadding.toNat =
        (padding.active.toNat + padding.dummy.toNat) * request.mode.vdisplay ∧
      ∃ placed, Mapped padding vpadding.toNat request.mode.vdisplay placed)

def Accepted (padding : Padding) : List Request → Prop
  | [] => True
  | request :: requests =>
    (checkPanelStacking true padding request).1 = 0 ∧
    Accepted (checkPanelStacking true padding request).2 requests

def ExactThroughout (padding : Padding) : List Request → Prop
  | [] => True
  | request :: requests =>
    Exact request (checkPanelStacking true padding request).2 ∧
      ExactThroughout (checkPanelStacking true padding request).2 requests

def SameMode (first second : Request) : Prop :=
  first.vpadding = second.vpadding → second.vpadding ≠ some 0 → first.mode.vdisplay =
    second.mode.vdisplay

structure Caches (padding : Padding) (request : Request) : Prop where
  height : request.vpadding = some padding.height
  ratio : padding.height ≠ 0 → Ratio padding padding.height.toNat request.mode.vdisplay

theorem toNat_vdisplay (request : Request) : request.vdisplay.toNat = request.mode.vdisplay := by
  have v16 := request.mode.v16
  rw [Request.vdisplay, BitVec.toNat_ofNat, Nat.mod_eq_of_lt (by omega)]

variable {request : Request}

theorem check_cases (single : request.numConnectors = 1)
    (accepted : (checkPanelStacking true padding request).1 = 0) :
    ∃ vpadding, request.vpadding = some vpadding ∧
      ((vpadding = 0 ∧ (checkPanelStacking true padding request).2 = { padding with height := 0 }) ∨
        (vpadding ≠ 0 ∧ vpadding = padding.height ∧
          (checkPanelStacking true padding request).2 = padding) ∨
        vpadding ≠ 0 ∧ vpadding ≠ padding.height ∧
          Caches (checkPanelStacking true padding request).2 request) := by
  rw [checkPanelStacking, if_neg (by decide), if_neg (not_not.mpr single)] at accepted ⊢
  cases given : request.vpadding with
  | none =>
    rw [given] at accepted
    cases accepted
  | some vpadding =>
    rw [given] at accepted
    dsimp only at accepted ⊢
    refine ⟨vpadding, rfl, ?_⟩
    by_cases none : vpadding = 0
    · rw [if_pos none]
      exact .inl ⟨none, by rw [none]⟩
    · rw [if_neg none] at accepted ⊢
      by_cases less : vpadding < request.vdisplay
      · rw [if_pos less] at accepted
        cases accepted
      · rw [if_neg less] at accepted ⊢
        by_cases cached : vpadding = padding.height
        · rw [if_pos cached]
          exact .inr (.inl ⟨none, cached, rfl⟩)
        · rw [if_neg cached, cacheRatio] at accepted ⊢
          cases worked : calcRatio vpadding request.vdisplay with
          | none =>
            rw [worked] at accepted
            cases accepted
          | some pattern =>
            obtain ⟨m, n⟩ := pattern
            have high := request.mode.high
            rw [BitVec.not_lt, BitVec.le_def] at less
            obtain ⟨⟨active, small, few⟩, rate⟩ :=
              calcRatio_some (by rw [toNat_vdisplay]; exact high) less worked
            rw [toNat_vdisplay] at rate
            exact .inr (.inr ⟨none, cached, given, fun _ => ⟨active, ⟨small, few⟩, rate⟩⟩)

theorem exact_of_caches (caches : Caches padding request) : Exact request padding := by
  intro _ vpadding given
  have height : vpadding = padding.height := Option.some.inj (given.symm.trans caches.height)
  subst height
  exact ⟨rfl, fun some =>
    ⟨(caches.ratio some).rate, mapped_of_ratio (caches.ratio some) request.mode.v16⟩⟩

variable {last : Option Request} {requests : List Request}

theorem isChain_toList : (last.toList ++ request :: requests).IsChain SameMode ↔
      (∀ before, last = some before → SameMode before request) ∧
        (request :: requests).IsChain SameMode := by
  cases last with
  | none => simp
  | some before => simp [List.isChain_cons_cons]

variable {before : Request}

theorem Caches.of_sameMode (caches : Caches padding before)
    (given : request.vpadding = some padding.height) (same : SameMode before request) :
    Caches padding request := by
  refine ⟨given, fun some => ?_⟩
  have mode :=
    same (caches.height.trans given.symm) fun zero => some (Option.some.inj (given.symm.trans zero))
  rw [← mode]
  exact caches.ratio some

theorem exact_cached_iff (single : request.numConnectors = 1)
    (caches : Caches padding before) (given : request.vpadding = some padding.height)
    (some : padding.height ≠ 0) :
    Exact request padding ↔ SameMode before request := by
  constructor
  · intro exact _ _
    have cached := caches.ratio some
    have rate := ((exact single padding.height given).2 some).1
    rw [cached.rate] at rate
    have positive : 0 < padding.active.toNat + padding.dummy.toNat :=
      Nat.lt_of_lt_of_le cached.some (Nat.le_add_right _ _)
    exact Nat.eq_of_mul_eq_mul_left positive rate
  · intro same
    exact exact_of_caches (caches.of_sameMode given same)

theorem exactThroughout_from
    (caches : ∀ request, last = some request → Caches padding request)
    (fresh : last = none → padding.height = 0)
    (accepted : Accepted padding requests) : ExactThroughout padding requests ↔
      (last.toList ++ requests.filter fun request => request.numConnectors = 1).IsChain
        SameMode := by
  induction requests generalizing padding last with
  | nil =>
    cases last with
    | none => simp [ExactThroughout]
    | some request => simp [ExactThroughout]
  | cons request requests ih =>
    obtain ⟨first, rest⟩ := accepted
    rw [ExactThroughout]
    by_cases single : request.numConnectors = 1
    · rw [List.filter_cons_of_pos (by simpa using single), isChain_toList]
      obtain ⟨vpadding, given, found⟩ := check_cases single first
      -- if the new state caches this check, the rest of the run is as after it
      have later (now : Caches (checkPanelStacking true padding request).2 request) :=
        @ih (checkPanelStacking true padding request).2 (some request)
          (fun other same => Option.some.inj same ▸ now)
            (fun absent => absurd absent (Option.some_ne_none request)) rest
      obtain ⟨rfl, cleared⟩ | ⟨some, rfl, kept⟩ | ⟨some, other, now⟩ := found
      · have now : Caches (checkPanelStacking true padding request).2 request := by
          rw [cleared]
          exact ⟨given, fun nonzero => absurd rfl nonzero⟩
        have links : ∀ before, last = Option.some before → SameMode before request :=
          fun before _ _ nonzero => absurd given nonzero
        exact and_congr (iff_of_true (exact_of_caches now) links) (later now)
      · cases before : last with
        | none => exact absurd (fresh before) some
        | some previous =>
          have cached := caches previous before
          have exact_iff := exact_cached_iff single cached given some
          have carries (same : SameMode previous request) : Caches padding request :=
            cached.of_sameMode given same
          rw [kept] at later rest ⊢
          constructor
          · rintro ⟨exact, throughout⟩
            have same := exact_iff.mp exact
            exact ⟨fun other at_other => Option.some.inj at_other ▸ same,
              (later (carries same)).mp throughout⟩
          · rintro ⟨links, chain⟩
            have same := links previous rfl
            exact ⟨exact_iff.mpr same, (later (carries same)).mpr chain⟩
      · have links : ∀ before, last = Option.some before → SameMode before request := by
          intro before at_before same _
          exact absurd (Option.some.inj
            (given.symm.trans (same.symm.trans (caches before at_before).height))) other
        exact and_congr (iff_of_true (exact_of_caches now) links) (later now)
    · have same : (checkPanelStacking true padding request).2 = padding := by
        rw [checkPanelStacking, if_neg (by decide), if_pos single]
      rw [same] at rest ⊢
      rw [ih caches fresh rest, List.filter_cons_of_neg (by simpa using single)]
      exact and_iff_right fun yes => absurd yes single

def Padding.zero : Padding := ⟨0, 0, 0⟩

/-- The accepted checks of a CRTC leave exact states throughout, exactly if no two single ones in a
    row have the same padding and different modes. -/
theorem exactThroughout_iff {requests : List Request} (accepted : Accepted .zero requests) :
    ExactThroughout .zero requests ↔
      (requests.filter fun request => request.numConnectors = 1).IsChain SameMode :=
  @exactThroughout_from .zero none requests
    (fun request absent => absurd absent.symm (Option.some_ne_none request)) (fun _ => rfl) accepted

/-! ## Two modes of one padded size -/

def onNinety (vdisplay : ℕ) (high : 0 < vdisplay) (v16 : vdisplay < 65536) : Request :=
  ⟨1, some 90#32, ⟨40, vdisplay, by decide, high, by decide, v16⟩⟩

def sixty : Request := onNinety 60 (by decide) (by decide)

def fortyFive : Request := onNinety 45 (by decide) (by decide)

theorem check_sixty : checkPanelStacking true .zero sixty = (0, ⟨90#32, 2#32, 1#32⟩) := by
  have gcd : calcGcd 90#32 60#32 = 30#32 := BitVec.eq_of_toNat_eq (by rw [toNat_calcGcd]; rfl)
  have ratio : calcRatio 90#32 60#32 = some (2#32, 1#32) := by
    rw [calcRatio, gcd]
    rfl
  change cacheRatio .zero 90#32 60#32 = _
  rw [cacheRatio, ratio]

/-- The second mode is accepted with the pattern of the first. -/
theorem not_exactThroughout_fortyFive :
    Accepted .zero [sixty, fortyFive] ∧ ¬ExactThroughout .zero [sixty, fortyFive] := by
  rw [Accepted, Accepted, ExactThroughout, ExactThroughout, check_sixty]
  refine ⟨⟨rfl, rfl, trivial⟩, ?_⟩
  rintro ⟨-, exact, -⟩
  have rate := ((exact rfl 90#32 rfl).2 (by decide)).1
  revert rate
  decide

/-- A mode that is checked again is, also behind a check for two connectors. -/
theorem exactThroughout_sixty :
    Accepted .zero [sixty, { fortyFive with numConnectors := 2 }, sixty] ∧
      ExactThroughout .zero [sixty, { fortyFive with numConnectors := 2 }, sixty] := by
  have accepted : Accepted .zero [sixty, { fortyFive with numConnectors := 2 }, sixty] := by
    rw [Accepted, check_sixty]
    exact ⟨rfl, rfl, rfl, trivial⟩
  exact ⟨accepted, (exactThroughout_iff accepted).mpr
    (.cons_cons (fun _ _ => rfl) (.singleton sixty))⟩

end DisplayDrivers.Stacking
