import DisplayDrivers.Blend.Accepted
import DisplayDrivers.Multirect.Planes

/-! # Pipes are shared as the hardware allows

After a check that an active CRTC passes, each pipe has either one plane, which is not virtual and
has no multirect state, or a real and a virtual plane in one mode whose condition holds
(`sharing_legal`).
-/

namespace DisplayDrivers.Multirect

open DisplayDrivers.Ctl (Sspp Multirect)
open DisplayDrivers.Blend (Catalog KernelSort layoutPlane assignStages pstatesMax Walked)
open DisplayDrivers.Lib.Pairing (members Paired Apart)

/-! ## What is legal -/

def PlaneState.srcWidth (p : PlaneState) : ℕ := (p.srcW >>> 16).toNat

def PlaneState.srcHeight (p : PlaneState) : ℕ := (p.srcH >>> 16).toNat

def lineWidth (caps : Sspp → SsppCap) (p : PlaneState) : ℕ :=
  if (p.fmt.elim false fun fmt => fmt.isUbwc) then (caps p.pipe).maxlinewidth.toNat / 2
  else (caps p.pipe).maxlinewidth.toNat

def tileHeight (p : PlaneState) : ℕ :=
  p.fmt.elim 1 fun fmt => if fmt.isUbwc then max 1 fmt.tileHeight else 1

def Below (lines : ℕ) (above below : PlaneState) : Prop :=
  above.crtcY + above.crtcH + lines ≤ below.crtcY

def Qualified (caps : Sspp → SsppCap) (a b : PlaneState) : MultirectMode → Prop
  | .none => False
  | .parallel => a.srcWidth ≤ lineWidth caps a ∧ b.srcWidth ≤ lineWidth caps b
  | .timeMx =>
    let lines := 2 * max (tileHeight a) (tileHeight b)
    Below lines a b ∨ Below lines b a

structure Fetched (p : PlaneState) : Prop where
  unscaled : p.srcWidth = p.crtcW ∧ p.srcHeight = p.crtcH
  rgb : ∃ fmt, p.fmt = some fmt ∧ fmt.isYuv = false

structure Solo (p : PlaneState) : Prop where
  real : p.isVirtual = false
  index : p.multirectIndex = .rectSolo
  mode : p.multirectMode = .none

structure Together (caps : Sspp → SsppCap) (real virtual : PlaneState) : Prop where
  roles : real.isVirtual = false ∧ virtual.isVirtual = true
  indices : real.multirectIndex = .rect0 ∧ virtual.multirectIndex = .rect1
  mode : virtual.multirectMode = real.multirectMode
  alpha : virtual.constAlphaEn = real.constAlphaEn
  fetched : Fetched real ∧ Fetched virtual
  qualified : Qualified caps real virtual real.multirectMode

def users (ids : List ℕ) (states : States) (pipe : Sspp) : List ℕ :=
  members (fun id => (states id).pipe) pipe ids

inductive LegalUse (caps : Sspp → SsppCap) (states : States) : List ℕ → Prop
  | unused : LegalUse caps states []
  | solo {a : ℕ} : Solo (states a) → LegalUse caps states [a]
  | realFirst {a b : ℕ} : Together caps (states a) (states b) → LegalUse caps states [a, b]
  | virtualFirst {a b : ℕ} : Together caps (states b) (states a) → LegalUse caps states [a, b]

structure Made (ids : List ℕ) (states : States) : Prop where
  distinct : (ids.map fun id => ((states id).pipe, (states id).isVirtual)).Nodup
  pipes : ∀ id ∈ ids, (states id).pipe ≠ .none

/-! ## A pair of planes -/

theorem u16_small {n : Int} (low : 0 ≤ n) (high : n < 65536) : Blend.u16 n = n :=
  Int.emod_eq_of_lt low high

theorem u16_fixed (x : BitVec 32) : Blend.u16 (x >>> 16).toNat = (x >>> 16).toNat := by
  have width : (x >>> 16).toNat < 65536 := by
    rw [BitVec.toNat_ushiftRight, Nat.shiftRight_eq_div_pow]
    omega
  exact u16_small (by omega) (by omega)

section Pair

variable {caps : Sspp → SsppCap} {cap : SsppCap} {p r0 r1 : PlaneState} {g g' : Gathered}

structure Placed (p : PlaneState) : Prop where
  rows : 0 ≤ p.crtcY ∧ p.crtcY + p.crtcH < 65536
  columns : 0 ≤ p.crtcX ∧ p.crtcX + p.crtcW < 65536

theorem Placed.dst (placed : Placed p) : p.dst = ⟨p.crtcX, p.crtcY, p.crtcW, p.crtcH⟩ := by
  obtain ⟨rows, columns⟩ := placed
  simp only [PlaneState.dst, populateRect]
  rw [u16_small (by omega) (by omega), u16_small (by omega) (by omega),
    u16_small (by omega) (by omega),
    u16_small (by omega) (by omega)]

theorem src_eq (p : PlaneState) :
    p.src = ⟨(p.srcX >>> 16).toNat, (p.srcY >>> 16).toNat, p.srcWidth, p.srcHeight⟩ := by
  simp only [PlaneState.src, populateRect, u16_fixed, PlaneState.srcWidth, PlaneState.srcHeight]

theorem gather_ok (ok : g.gather cap p = some g') :
    ∃ fmt, p.fmt = some fmt ∧ p.src.w = p.dst.w ∧ p.src.h = p.dst.h ∧ fmt.isYuv = false ∧
      g'.maxTileHeight = (if fmt.isUbwc && g.maxTileHeight < fmt.tileHeight then fmt.tileHeight
        else g.maxTileHeight) ∧
      (g'.parallelFetchQualified = true →
        g.parallelFetchQualified = true ∧ p.src.w ≤ widthThreshold cap fmt) := by
  unfold Gathered.gather at ok
  cases at_fmt : p.fmt with
  | none =>
    rw [at_fmt] at ok
    cases ok
  | some fmt =>
    rw [at_fmt] at ok
    dsimp only at ok
    split at ok
    · cases ok
    next unscaled =>
      split at ok
      · cases ok
      next rgb =>
        cases ok
        rw [not_or, not_not, not_not] at unscaled
        refine ⟨fmt, rfl, unscaled.1, unscaled.2, Bool.eq_false_iff.mpr rgb, rfl, ?_⟩
        dsimp only
        split
        · intro qualified
          cases qualified
        next within =>
          intro qualified
          simp only [qualified, Bool.true_and, decide_eq_true_eq, not_lt] at within
          exact ⟨qualified, within⟩

theorem widthThreshold_le {fmt : TiledFormat} (at_fmt : p.fmt = some fmt)
    (within : p.src.w ≤ widthThreshold (caps p.pipe) fmt) : p.srcWidth ≤ lineWidth caps p := by
  have width : p.src.w = p.srcWidth := by rw [src_eq]
  rw [width] at within
  unfold widthThreshold at within
  unfold lineWidth
  rw [at_fmt, Option.elim_some]
  -- a width that is negative as an `int` qualifies no line
  have signed : (caps p.pipe).maxlinewidth.toInt ≤ (caps p.pipe).maxlinewidth.toNat := by
    rw [BitVec.toInt_eq_toNat_cond]
    split <;> omega
  split at within
  next ubwc =>
    rw [if_pos ubwc]
    rcases Int.le_total 0 (caps p.pipe).maxlinewidth.toInt with positive | negative
    · rw [Int.tdiv_eq_ediv_of_nonneg positive] at within
      omega
    · have opposite : (-(caps p.pipe).maxlinewidth.toInt).tdiv 2 =
        -(caps p.pipe).maxlinewidth.toInt / 2 :=
        Int.tdiv_eq_ediv_of_nonneg (by omega)
      rw [Int.neg_tdiv] at opposite
      omega
  next linear =>
    rw [if_neg linear]
    omega

theorem selectMode_ok (selected : g.selectMode r0 r1 ≠ .none) :
    (g.selectMode r0 r1 = .parallel ∧ g.parallelFetchQualified = true) ∨
      (g.selectMode r0 r1 = .timeMx ∧
        (timeMultiplexRect r1.dst r0.dst (2 * g.maxTileHeight) = true ∨
          timeMultiplexRect r0.dst r1.dst (2 * g.maxTileHeight) = true)) := by
  unfold Gathered.selectMode at *
  dsimp only at *
  rw [← Bool.or_eq_true]
  generalize (timeMultiplexRect r1.dst r0.dst (2 * g.maxTileHeight) ||
    timeMultiplexRect r0.dst r1.dst (2 * g.maxTileHeight)) = multiplexed at *
  split at selected
  case h_1 => cases qualified : g.parallelFetchQualified <;> cases multiplexed <;> simp_all
  case h_2 => cases qualified : g.parallelFetchQualified <;> simp_all
  case h_3 => cases multiplexed <;> simp_all
  case h_4 => exact absurd rfl selected

def PlaneState.settle (p : PlaneState) (mode : MultirectMode) (alpha : Bool) (index : Multirect) :
    PlaneState :=
  { p with multirectMode := mode, constAlphaEn := alpha, multirectIndex := index }

variable {mode : MultirectMode}

theorem Fetched.settle (fetched : Fetched p) {alpha : Bool} {index : Multirect} :
    Fetched (p.settle mode alpha index) := ⟨fetched.unscaled, fetched.rgb⟩

theorem qualified_symm (qualified : Qualified caps r0 r1 mode) : Qualified caps r1 r0 mode := by
  cases mode with
  | none => exact qualified
  | parallel => exact qualified.symm
  | timeMx =>
    rw [Qualified, max_comm]
    exact qualified.symm

theorem validate_ok (ok : (validateMultirectV2 caps r0 r1).2 = 0) :
    ∃ g0 g1, ({} : Gathered).gather (caps r0.pipe) r0 = some g0 ∧
    g0.gather (caps r1.pipe) r1 = some g1 ∧
      g1.selectMode r0 r1 ≠ .none ∧
      (validateMultirectV2 caps r0 r1).1 =
        (r0.settle (g1.selectMode r0 r1) g1.constAlphaEnable
          (if r0.isVirtual then .rect1 else .rect0),
          r1.settle (g1.selectMode r0 r1) g1.constAlphaEnable
            (if r0.isVirtual then .rect0 else .rect1)) := by
  unfold validateMultirectV2 at *
  cases first : ({} : Gathered).gather (caps r0.pipe) r0 with
  | none =>
    rw [first] at ok
    cases ok
  | some g0 =>
    simp only [first] at ok ⊢
    split at ok
    · cases ok
    next same =>
      rw [if_neg same]
      cases second : g0.gather (caps r1.pipe) r1 with
      | none =>
        rw [second] at ok
        cases ok
      | some g1 =>
        simp only [second] at ok ⊢
        split at ok
        · cases ok
        next selected =>
          refine ⟨g0, g1, rfl, second, selected, ?_⟩
          rw [if_neg selected]
          by_cases second : r0.isVirtual = true
          · rw [if_pos second, if_pos second, if_pos second]
            rfl
          · rw [if_neg second, if_neg second, if_neg second]
            rfl

theorem below_of_timeMultiplexRect {lines : ℕ} {above below : PlaneState} (top : Placed above)
    (bottom : Placed below)
    (multiplexed : timeMultiplexRect below.dst above.dst lines = true) :
    Below lines above below := by
  rw [timeMultiplexRect, top.dst, bottom.dst, decide_eq_true_eq] at multiplexed
  exact multiplexed

theorem validate_qualified (ok : (validateMultirectV2 caps r0 r1).2 = 0) (first : Placed r0)
    (second : Placed r1) :
    ∃ mode alpha, (Fetched r0 ∧ Fetched r1) ∧ Qualified caps r0 r1 mode ∧
      (validateMultirectV2 caps r0 r1).1 =
        (r0.settle mode alpha (if r0.isVirtual then .rect1 else .rect0),
          r1.settle mode alpha (if r0.isVirtual then .rect0 else .rect1)) := by
  obtain ⟨g0, g1, gathered0, gathered1, selected, result⟩ := validate_ok ok
  obtain ⟨fmt0, atFmt0, width0, height0, rgb0, tiles0, within0⟩ := gather_ok gathered0
  obtain ⟨fmt1, atFmt1, width1, height1, rgb1, tiles1, within1⟩ := gather_ok gathered1
  rw [src_eq, first.dst] at width0 height0
  rw [src_eq, second.dst] at width1 height1
  refine ⟨_, _, ⟨⟨⟨?_, ?_⟩, fmt0, atFmt0, rgb0⟩, ⟨⟨?_, ?_⟩, fmt1, atFmt1, rgb1⟩⟩, ?_, result⟩
  · exact Int.ofNat_inj.mp width0
  · exact Int.ofNat_inj.mp height0
  · exact Int.ofNat_inj.mp width1
  · exact Int.ofNat_inj.mp height1
  have lines : g1.maxTileHeight = max (tileHeight r0) (tileHeight r1) := by
    have start : ({} : Gathered).maxTileHeight = 1 := rfl
    rw [tiles1, tiles0, start, tileHeight, tileHeight, atFmt0, atFmt1, Option.elim_some,
      Option.elim_some]
    cases fmt0.isUbwc <;> cases fmt1.isUbwc <;> simp <;> grind
  rcases selectMode_ok selected with ⟨mode, qualified⟩ | ⟨mode, multiplexed⟩
  · rw [mode]
    obtain ⟨before, narrow1⟩ := within1 qualified
    exact ⟨widthThreshold_le atFmt0 (within0 before).2, widthThreshold_le atFmt1 narrow1⟩
  · rw [mode]
    rw [lines] at multiplexed
    rcases multiplexed with below | below
    · exact .inl (below_of_timeMultiplexRect first second below)
    · exact .inr (below_of_timeMultiplexRect second first below)

theorem validate_clear (ok : (validateMultirectV2 caps r0 r1).2 = 0) :
    validateMultirectV2 caps r0.clearMultirect r1.clearMultirect =
    validateMultirectV2 caps r0 r1 := by
  obtain ⟨g0, g1, gathered0, gathered1, selected, result⟩ := validate_ok ok
  have first : ({} : Gathered).gather (caps r0.clearMultirect.pipe) r0.clearMultirect = some g0 :=
    gathered0
  have second : g0.gather (caps r1.clearMultirect.pipe) r1.clearMultirect = some g1 := gathered1
  have mode : g1.selectMode r0.clearMultirect r1.clearMultirect = g1.selectMode r0 r1 := rfl
  unfold validateMultirectV2 at ok ⊢
  rw [gathered0] at ok ⊢
  rw [first]
  dsimp only at ok ⊢
  split at ok
  · cases ok
  next same =>
    have same' : ¬(caps r1.clearMultirect.pipe).xinId ≠ (caps r0.clearMultirect.pipe).xinId := same
    rw [if_neg same, if_neg same', gathered1, second]
    dsimp only
    rw [if_neg selected, mode, if_neg selected]
    rfl

end Pair

/-! ## The loops -/

section Loops

variable {caps : Sspp → SsppCap} {states final : States} {ids : List ℕ}

theorem Made.nodup (made : Made ids states) : ids.Nodup := made.distinct.of_map _

theorem Made.unique (made : Made ids states) {a b : ℕ} (first : a ∈ ids) (second : b ∈ ids)
    (pipe : (states a).pipe = (states b).pipe)
    (role : (states a).isVirtual = (states b).isVirtual) : a = b :=
  List.inj_on_of_nodup_map made.distinct first second (Prod.ext pipe role)

theorem Made.two (made : Made ids states) (pipe : Sspp) : (users ids states pipe).length ≤ 2 := by
  have roles : ((users ids states pipe).map fun id => (states id).isVirtual).Nodup := by
    refine (made.nodup.filter _).map_on fun a first b second role => ?_
    have pipes := (List.mem_filter.mp first).2
    have pipes' := (List.mem_filter.mp second).2
    rw [decide_eq_true_eq] at pipes pipes'
    exact made.unique (List.mem_of_mem_filter first) (List.mem_of_mem_filter second)
      (pipes.trans pipes'.symm) role
  have within : ((users ids states pipe).map fun id => (states id).isVirtual) ⊆ [true, false] := by
    intro role _
    cases role <;> simp
  have few := (roles.subperm within).length_le
  rwa [List.length_map] at few

theorem validatePairs_ok {pairs : List (ℕ × ℕ)} (apart : pairs.Pairwise Apart)
    (proper : ∀ pair ∈ pairs, pair.1 ≠ pair.2) (ok : validatePairs caps pairs states = (final, 0)) :
    (∀ pair ∈ pairs,
        validateMultirectV2 caps (states pair.1) (states pair.2) =
          ((final pair.1, final pair.2), 0)) ∧
      ∀ id, (∀ pair ∈ pairs, id ≠ pair.1 ∧ id ≠ pair.2) → final id = states id := by
  induction pairs generalizing states with
  | nil =>
    cases ok
    exact ⟨List.forall_mem_nil _, fun _ _ => rfl⟩
  | cons pair rest ih =>
    obtain ⟨r0, r1⟩ := pair
    obtain ⟨head, tail⟩ := List.pairwise_cons.mp apart
    have differ : r0 ≠ r1 := proper (r0, r1) List.mem_cons_self
    rw [validatePairs] at ok
    split at ok
    · cases ok
    next valid =>
      rw [not_not] at valid
      obtain ⟨judged, kept⟩ := ih tail (fun pair member => proper pair (.tail _ member)) ok
      have mine := kept r0 fun pair member => ⟨(head pair member).1, (head pair member).2.1⟩
      have yours := kept r1 fun pair member => ⟨(head pair member).2.2.1, (head pair member).2.2.2⟩
      rw [Function.update_of_ne differ, Function.update_self] at mine
      rw [Function.update_self] at yours
      constructor
      · rintro pair (_ | ⟨_, member⟩)
        · rw [mine, yours, ← valid]
        · have others := head pair member
          have before := judged pair member
          rw [Function.update_of_ne others.2.2.1.symm, Function.update_of_ne others.1.symm,
            Function.update_of_ne others.2.2.2.symm,
              Function.update_of_ne others.2.1.symm] at before
          exact before
      · intro id apart
        obtain ⟨not0, not1⟩ := apart (r0, r1) List.mem_cons_self
        rw [kept id fun pair member => apart pair (.tail _ member), Function.update_of_ne not1,
          Function.update_of_ne not0]

theorem clearStaged_ok {pipeStaged : Sspp → Option ℕ} {key : ℕ → Sspp}
    (own : ∀ pipe id, pipeStaged pipe = some id → key id = pipe) {list : List Sspp}
    (distinct : list.Nodup)
    (ok : clearStaged pipeStaged list states = .ok final) :
    (∀ pipe ∈ list, ∀ id, pipeStaged pipe = some id →
        (states id).isVirtual = false ∧ final id = (states id).clearMultirect) ∧
      ∀ id, (∀ pipe ∈ list, pipeStaged pipe ≠ some id) → final id = states id := by
  induction list generalizing states with
  | nil =>
    cases ok
    exact ⟨List.forall_mem_nil _, fun _ _ => rfl⟩
  | cons pipe rest ih =>
    obtain ⟨fresh, distinct⟩ := List.nodup_cons.mp distinct
    rw [clearStaged] at ok
    cases staged : pipeStaged pipe with
    | none =>
      rw [staged] at ok
      obtain ⟨cleared, kept⟩ := ih distinct ok
      refine ⟨List.forall_mem_cons.mpr ⟨fun id at_pipe => ?_, cleared⟩, fun id absent => ?_⟩
      · rw [staged] at at_pipe
        cases at_pipe
      · exact kept id fun pipe member => absent pipe (.tail _ member)
    | some id =>
      simp only [staged] at ok
      split at ok
      · cases ok
      next real =>
        obtain ⟨cleared, kept⟩ := ih distinct ok
        -- the plane is staged for this pipe only
        have elsewhere : ∀ other ∈ rest, pipeStaged other ≠ some id := by
          intro other member same
          have here : pipe = other := (own pipe id staged).symm.trans (own other id same)
          rw [here] at fresh
          exact fresh member
        constructor
        · rintro other (_ | ⟨_, member⟩) id' at_other
          · rw [staged] at at_other
            cases at_other
            rw [kept id elsewhere, Function.update_self]
            exact ⟨Bool.eq_false_iff.mpr real, rfl⟩
          · have ne : id' ≠ id := fun same => elsewhere other member (same ▸ at_other)
            have result := cleared other member id' at_other
            rwa [Function.update_of_ne ne] at result
        · intro id' absent
          have ne : id' ≠ id := fun same => absent pipe List.mem_cons_self (same ▸ staged)
          rw [kept id' fun other member => absent other (.tail _ member), Function.update_of_ne ne]

end Loops

/-! ## The planes of a pipe after the loops -/

structure Settled (caps : Sspp → SsppCap) (ids : List ℕ) (states final : States) : Prop where
  alone : ∀ pipe a, users ids states pipe = [a] →
    (states a).isVirtual = false ∧ final a = (states a).clearMultirect
  pair : ∀ pipe a b, users ids states pipe = [a, b] →
    validateMultirectV2 caps (states a) (states b) = ((final a, final b), 0)

section Settled

variable {caps : Sspp → SsppCap} {states final : States} {ids : List ℕ}

variable {id : ℕ}

theorem mem_users {pipe : Sspp} : id ∈ users ids states pipe ↔ id ∈ ids ∧
    (states id).pipe = pipe := by
  simp [users, members]

theorem users_congr {states' : States} (same : ∀ id ∈ ids, (states' id).pipe = (states id).pipe)
    (pipe : Sspp) :
    users ids states' pipe = users ids states pipe := by
  refine List.filter_congr fun id listed => decide_eq_decide.mpr ?_
  change (states' id).pipe = pipe ↔ (states id).pipe = pipe
  rw [same id listed]

theorem Made.users_cases (made : Made ids states) (listed : id ∈ ids) :
    users ids states (states id).pipe = [id] ∨
      ∃ a b, users ids states (states id).pipe = [a, b] ∧ (id = a ∨ id = b) := by
  have member : id ∈ users ids states (states id).pipe := mem_users.mpr ⟨listed, rfl⟩
  have two := made.two (states id).pipe
  match all : users ids states (states id).pipe with
  | [] => rw [all] at member; exact absurd member List.not_mem_nil
  | [a] =>
    rw [all, List.mem_singleton] at member
    exact .inl (by rw [member])
  | [a, b] =>
    rw [all] at member
    exact .inr ⟨a, b, rfl, by simpa using member⟩
  | _ :: _ :: _ :: _ => rw [all] at two; simp at two

theorem Made.pair_differ (made : Made ids states) {pipe : Sspp} {a b : ℕ}
    (pair : users ids states pipe = [a, b]) :
    (states a).isVirtual ≠ (states b).isVirtual := by
  have first : a ∈ users ids states pipe := by rw [pair]; simp
  have second : b ∈ users ids states pipe := by rw [pair]; simp
  obtain ⟨listed, pipes⟩ := mem_users.mp first
  obtain ⟨listed', pipes'⟩ := mem_users.mp second
  intro role
  have same := made.unique listed listed' (pipes.trans pipes'.symm) role
  have nodup : (users ids states pipe).Nodup := made.nodup.filter _
  rw [pair, same] at nodup
  simp at nodup

section

variable (settled : Settled caps ids states final)

include settled

theorem Settled.pipe_eq (made : Made ids states)
    (listed : id ∈ ids) : (final id).pipe = (states id).pipe := by
  rcases made.users_cases listed with alone | ⟨a, b, pair, which⟩
  · rw [(settled.alone _ _ alone).2]
    rfl
  · have valid := settled.pair _ _ _ pair
    obtain ⟨g0, g1, -, -, -, result⟩ := validate_ok (congrArg Prod.snd valid)
    rw [valid] at result
    obtain ⟨first, second⟩ := Prod.mk.inj result
    rcases which with rfl | rfl
    · rw [first]
      rfl
    · rw [second]
      rfl

theorem Settled.users_eq (made : Made ids states) (pipe : Sspp) :
    users ids final pipe = users ids states pipe := users_congr (fun _ => settled.pipe_eq made) pipe

theorem Settled.legal (made : Made ids states)
    (placed : ∀ id ∈ ids, Placed (states id)) (pipe : Sspp) :
    LegalUse caps final (users ids final pipe) := by
  rw [settled.users_eq made]
  have two := made.two pipe
  match all : users ids states pipe with
  | [] => exact .unused
  | [a] =>
    obtain ⟨real, cleared⟩ := settled.alone pipe a all
    refine .solo ?_
    rw [cleared]
    exact ⟨real, rfl, rfl⟩
  | [a, b] =>
    have first : a ∈ users ids states pipe := by rw [all]; simp
    have second : b ∈ users ids states pipe := by rw [all]; simp
    have valid := settled.pair pipe a b all
    obtain ⟨mode, alpha, fetched, qualified, result⟩ := validate_qualified (congrArg Prod.snd valid)
      (placed a (mem_users.mp first).1) (placed b (mem_users.mp second).1)
    rw [valid] at result
    obtain ⟨finalFirst, finalSecond⟩ := Prod.mk.inj result
    have differ := made.pair_differ all
    cases role : (states a).isVirtual with
    | false =>
      have other : (states b).isVirtual = true := by
        rw [role] at differ
        exact Bool.eq_true_of_not_eq_false differ.symm
      refine .realFirst ?_
      rw [finalFirst, finalSecond, role]
      exact ⟨⟨role, other⟩, ⟨rfl, rfl⟩, rfl, rfl, ⟨fetched.1.settle, fetched.2.settle⟩, qualified⟩
    | true =>
      have other : (states b).isVirtual = false := by
        rw [role] at differ
        exact Bool.eq_false_iff.mpr differ.symm
      refine .virtualFirst ?_
      rw [finalFirst, finalSecond, role]
      exact ⟨⟨other, role⟩, ⟨rfl, rfl⟩, rfl, rfl, ⟨fetched.2.settle, fetched.1.settle⟩,
        qualified_symm qualified⟩
  | _ :: _ :: _ :: _ => rw [all] at two; simp at two

theorem Settled.determined (made : Made ids states)
    {states' final' : States} (settled' : Settled caps ids states' final')
    (same : ∀ id ∈ ids, (states id).clearMultirect = (states' id).clearMultirect)
    (listed : id ∈ ids) :
    final id = final' id := by
  have pipes : ∀ id ∈ ids, (states' id).pipe = (states id).pipe := fun id member =>
    (congrArg (fun p : PlaneState => p.pipe) (same id member)).symm
  have users_eq := users_congr pipes
  rcases made.users_cases listed with alone | ⟨a, b, pair, which⟩
  · have alone' : users ids states' (states id).pipe = [id] := by rw [users_eq, alone]
    rw [(settled.alone _ _ alone).2, (settled'.alone _ _ alone').2, same id listed]
  · have pair' : users ids states' (states id).pipe = [a, b] := by rw [users_eq, pair]
    have first : a ∈ ids :=
      (mem_users.mp (by rw [pair]; simp : a ∈ users ids states (states id).pipe)).1
    have second : b ∈ ids :=
      (mem_users.mp (by rw [pair]; simp : b ∈ users ids states (states id).pipe)).1
    have valid := settled.pair _ _ _ pair
    have valid' := settled'.pair _ _ _ pair'
    have results : ((final a, final b), (0 : Int)) = ((final' a, final' b), 0) := by
      rw [← valid, ← valid', ← validate_clear (congrArg Prod.snd valid), ← validate_clear
        (congrArg Prod.snd valid'),
        same a first, same b second]
    obtain ⟨both, -⟩ := Prod.mk.inj results
    rcases which with rfl | rfl
    · exact (Prod.mk.inj both).1
    · exact (Prod.mk.inj both).2

end

end Settled

/-! ## The check -/

section Check

variable {env : Env} {crtc : CrtcState} {states final : States} {ids : List ℕ}

def Laid (crtc : CrtcState) (p laid : PlaneState) : Prop :=
  match crtc.layoutSplit with
  | none => laid = p
  | some split =>
    ∃ base, layoutPlane split p.toPlaneState = .ok base ∧ laid = { p with toPlaneState := base }

theorem layoutPlane_keeps {split : ℕ} {plane base : Blend.PlaneState}
    (ok : layoutPlane split plane = .ok base) :
    base.pipe = plane.pipe ∧ base.isVirtual = plane.isVirtual ∧
      layoutPlane split { plane with multirectIndex := .rectSolo } = .ok
        { base with multirectIndex := .rectSolo } := by
  unfold layoutPlane at ok ⊢
  dsimp only at ok ⊢
  split at ok
  next => cases ok; exact ⟨rfl, rfl, by simp_all⟩
  next =>
    split at ok
    · cases ok
    next =>
      split at ok
      · cases ok
      next => cases ok; exact ⟨rfl, rfl, by simp_all⟩

theorem Laid.keeps {p laid : PlaneState} (done : Laid crtc p laid) :
    laid.pipe = p.pipe ∧ laid.isVirtual = p.isVirtual := by
  unfold Laid at done
  split at done
  · rw [done]
    exact ⟨rfl, rfl⟩
  · obtain ⟨base, ok, rfl⟩ := done
    exact ⟨(layoutPlane_keeps ok).1, (layoutPlane_keeps ok).2.1⟩

theorem Laid.clear {p p' laid laid' : PlaneState} (same : p.clearMultirect = p'.clearMultirect)
    (done : Laid crtc p laid) (done' : Laid crtc p' laid') :
    laid.clearMultirect = laid'.clearMultirect := by
  unfold Laid at done done'
  cases at_split : crtc.layoutSplit with
  | none =>
    rw [at_split] at done done'
    rw [done, done', same]
  | some split =>
    simp only [at_split] at done done'
    obtain ⟨base, ok, rfl⟩ := done
    obtain ⟨base', ok', rfl⟩ := done'
    have first := (layoutPlane_keeps ok).2.2
    have second := (layoutPlane_keeps ok').2.2
    have bases : p.clearMultirect.toPlaneState = p'.clearMultirect.toPlaneState := by rw [same]
    have result : { base with multirectIndex := .rectSolo } =
      { base' with multirectIndex := .rectSolo } := by
      have both := first.symm.trans ((congrArg (layoutPlane _) bases).trans second)
      exact Except.ok.inj both
    calc
      PlaneState.clearMultirect { p with toPlaneState := base } =
          { p.clearMultirect with toPlaneState := { base with multirectIndex := .rectSolo } } := rfl
      _ = { p'.clearMultirect with
        toPlaneState := { base' with multirectIndex := .rectSolo } } := by
        rw [same, result]
      _ = PlaneState.clearMultirect { p' with toPlaneState := base' } := rfl

theorem checkPlaneLayout_ok {split : ℕ} (distinct : ids.Nodup)
    (ok : checkPlaneLayout split ids states = .ok final) :
    (∀ id ∈ ids, ∃ base, layoutPlane split (states id).toPlaneState = .ok base ∧
        final id = { states id with toPlaneState := base }) ∧
      ∀ id, id ∉ ids → final id = states id := by
  induction ids generalizing states with
  | nil =>
    cases ok
    exact ⟨List.forall_mem_nil _, fun _ _ => rfl⟩
  | cons id rest ih =>
    obtain ⟨fresh, distinct⟩ := List.nodup_cons.mp distinct
    rw [checkPlaneLayout] at ok
    cases laid : layoutPlane split (states id).toPlaneState with
    | error rc =>
      rw [laid] at ok
      cases ok
    | ok base =>
      rw [laid] at ok
      obtain ⟨placed, kept⟩ := ih distinct ok
      constructor
      · rintro other (_ | ⟨_, member⟩)
        · exact ⟨base, laid, by rw [kept id fresh, Function.update_self]⟩
        · have ne : other ≠ id := fun same => fresh (same ▸ member)
          have result := placed other member
          rwa [Function.update_of_ne ne] at result
      · intro other absent
        have ne : other ≠ id := fun same => absent (same ▸ List.mem_cons_self)
        rw [kept other fun member => absent (.tail _ member), Function.update_of_ne ne]

theorem Made.of_same (made : Made ids states)
    (pipes : ∀ id ∈ ids, (final id).pipe = (states id).pipe)
    (roles : ∀ id ∈ ids, (final id).isVirtual = (states id).isVirtual) : Made ids final where
  distinct := by
    have same : (ids.map fun id => ((final id).pipe, (final id).isVirtual)) =
        ids.map fun id => ((states id).pipe, (states id).isVirtual) :=
      List.map_congr_left fun id listed => by rw [pipes id listed, roles id listed]
    rw [same]
    exact made.distinct
  pipes id listed := by
    rw [pipes id listed]
    exact made.pipes id listed

theorem Made.clear (made : Made ids states)
    (same : ∀ id ∈ ids, (final id).clearMultirect = (states id).clearMultirect) :
    Made ids final := by
  refine made.of_same (fun id listed => ?_) fun id listed => ?_
  · have cleared := congrArg (fun p : PlaneState => p.pipe) (same id listed)
    exact cleared
  · have cleared := congrArg (fun p : PlaneState => p.isVirtual) (same id listed)
    exact cleared

theorem Made.laid (made : Made ids states) (laid : ∀ id ∈ ids, Laid crtc (states id) (final id)) :
    Made ids final :=
  made.of_same (fun id listed => (laid id listed).keeps.1) fun id listed => (laid id listed).keeps.2

variable {catalog : Catalog}

theorem assignStages_multirect {customClient : Bool} {others : Blend.Others} {sort : KernelSort}
    {crtc : Blend.CrtcState} {planes : List Blend.PlaneState} {pstates result : List Blend.PState}
    (ok : assignStages customClient catalog others sort crtc planes pstates = .ok result) :
    others.multirect planes = 0 := by
  unfold assignStages at ok
  split at ok
  · cases ok
  · split at ok
    · cases ok
    · unfold Blend.lastChecks at ok
      split at ok
      · cases ok
      next accepted => exact not_not.mp accepted

theorem Walked.placed {p : PlaneState} (walked : Walked catalog crtc.toCrtcState p.toPlaneState) :
    Placed p where
  rows := ⟨walked.rows.1, by have := crtc.adjustedMode.v16; have := walked.rows.2; omega⟩
  columns := ⟨walked.columns.1, by have := crtc.adjustedMode.h16; have := walked.columns.2; omega⟩

theorem mem_pipes {pipe : Sspp} (real : pipe ≠ .none) : pipe ∈ pipes := by
  revert real
  cases pipe with
  | none => exact fun real => absurd rfl real
  | _ => exact fun _ => by decide

theorem settled_of_loops {caps : Sspp → SsppCap} {cleared : States} (made : Made ids states)
    (clear : clearStaged (stagePipes states ids).slot pipes states = .ok cleared)
    (valid : validatePairs caps (stagePipes states ids).pairs cleared = (final, 0)) :
    Settled caps ids states final := by
  have paired : Paired (fun id => (states id).pipe) ids (stagePipes states ids) :=
    Lib.Pairing.paired_ofList made.two
  have own : ∀ pipe id, (stagePipes states ids).slot pipe = some id → (states id).pipe = pipe := by
    intro pipe id staged
    have member : id ∈ users ids states pipe := by rw [users, (paired.slot pipe id).mp staged]; simp
    exact (mem_users.mp member).2
  obtain ⟨alone, kept⟩ := clearStaged_ok own (by decide : pipes.Nodup) clear
  obtain ⟨judged, rest⟩ :=
    validatePairs_ok paired.apart (fun pair => paired.proper made.nodup) valid
  constructor
  case alone =>
    intro pipe a single
    have staged := (paired.slot pipe a).mpr single
    have member : a ∈ users ids states pipe := by rw [single]; simp
    obtain ⟨listed, at_pipe⟩ := mem_users.mp member
    have real := made.pipes a listed
    rw [at_pipe] at real
    obtain ⟨role, result⟩ := alone pipe (mem_pipes real) a staged
    -- a plane that is alone with its pipe is in no pair
    have outside : ∀ pair ∈ (stagePipes states ids).pairs, ¬(a = pair.1 ∨ a = pair.2) := by
      intro pair listed which
      have both := paired.members_eq listed which
      rw [at_pipe, ← users, single] at both
      cases both
    rw [rest a fun pair listed => not_or.mp (outside pair listed)]
    exact ⟨role, result⟩
  case pair =>
    intro pipe a b pair
    have listed := (paired.pairs a b).mpr ⟨pipe, pair⟩
    have unstaged : ∀ c, c = a ∨ c = b → cleared c = states c := by
      intro c which
      refine kept c fun other _ staged => ?_
      have single := (paired.slot other c).mp staged
      have both := paired.members_eq listed which
      rw [own other c staged, single] at both
      cases both
    have result := judged (a, b) listed
    rwa [unstaged a (.inl rfl), unstaged b (.inr rfl)] at result

theorem checkPlanes_ok (made : Made ids states) (ok : checkPlanes env crtc ids states = .ok final) :
    (∀ id ∈ ids, Placed (states id)) ∧ Settled env.caps ids states final := by
  have few : ids.length ≤ pstatesMax := by
    have few := Blend.length_le_of_distinct made.distinct
    rwa [List.length_map] at few
  unfold checkPlanes at ok
  rw [List.take_of_length_le few] at ok
  dsimp only at ok
  split at ok
  · cases ok
  next pstates collected =>
    obtain ⟨-, walked⟩ := Blend.collect_ok (by rw [List.length_map]; omega) collected
    split at ok
    · cases ok
    next cleared clear =>
      split at ok
      · cases ok
      next result assigned =>
        have accepted := assignStages_multirect assigned
        refine ⟨fun id listed => Walked.placed (walked _ (List.mem_map_of_mem listed)),
          settled_of_loops made clear ?_⟩
        rw [← Except.ok.inj ok]
        exact Prod.ext rfl accepted

theorem atomicCheck_ok (made : Made ids states) (active : crtc.enable = true ∧ crtc.active = true)
    (ok : atomicCheck env crtc ids states = .ok final) :
    ∃ laid : States, (∀ id ∈ ids, Laid crtc (states id) (laid id)) ∧ checkPlanes env crtc ids laid =
    .ok final := by
  unfold atomicCheck at ok
  rw [active.1, active.2] at ok
  simp only [Bool.not_true, Bool.or_false, Bool.false_eq_true, if_false] at ok
  split at ok
  · cases ok
  split at ok
  · cases ok
  cases at_split : crtc.layoutSplit with
  | none =>
    rw [at_split] at ok
    exact ⟨states, fun id _ => by rw [Laid, at_split], ok⟩
  | some split =>
    rw [at_split] at ok
    dsimp only at ok
    split at ok
    · cases ok
    next laid layout =>
      refine ⟨laid, fun id listed => ?_, ok⟩
      obtain ⟨base, done⟩ := (checkPlaneLayout_ok made.nodup layout).1 id listed
      rw [Laid, at_split]
      exact ⟨base, done⟩

/-- After a check that an active CRTC passes, each pipe is used legally, whatever the states of the
    planes said of multirect before. -/
theorem sharing_legal (made : Made ids states) (active : crtc.enable = true ∧ crtc.active = true)
    (accepted : atomicCheck env crtc ids states = .ok final) :
    (∀ pipe, LegalUse env.caps final (users ids final pipe)) ∧
      ∀ states' final' : States,
        (∀ id ∈ ids, (states' id).clearMultirect = (states id).clearMultirect) →
        atomicCheck env crtc ids states' = .ok final' → ∀ id ∈ ids, final' id = final id := by
  obtain ⟨laid, layout, checked⟩ := atomicCheck_ok made active accepted
  have laidMade := made.laid layout
  obtain ⟨placed, settled⟩ := checkPlanes_ok laidMade checked
  refine ⟨settled.legal laidMade placed, fun states' final' same accepted' id listed => ?_⟩
  have made' : Made ids states' := made.clear same
  obtain ⟨laid', layout', checked'⟩ := atomicCheck_ok made' active accepted'
  have laidMade' := made'.laid layout'
  refine (checkPlanes_ok laidMade' checked').2.determined laidMade' settled
    (fun id listed => ?_) listed
  exact Laid.clear (same id listed) (layout' id listed) (layout id listed)

end Check

def tenRows (pipe : Sspp) (isVirtual : Bool) (zpos : ℕ) (y : Int) : PlaneState where
  toPlaneState :=
    { Blend.tenColumns 0 with pipe, isVirtual, zpos, crtcY := y, multirectIndex := .rect1 }
  srcX := 0
  srcY := 0
  srcW := 0xA0000
  srcH := 0xA0000
  fmt := some { Format.interleavedRgbFmt .argb8888 4 [] .linear 1 with tileHeight := 1 }
  multirectProp := 0
  constAlphaEn := isVirtual
  multirectMode := .parallel

def device : Env :=
  ⟨false, ⟨false, false⟩, fun _ => ⟨0, 2560⟩, true, Blend.noOthers, Blend.insertionSorted⟩

def three : States := fun
  | 0 => tenRows .vig0 false 0 0
  | 1 => tenRows .dma0 true 1 20
  | _ => tenRows .dma0 false 2 40

theorem three_made : Made [0, 1, 2] three where
  distinct := by decide
  pipes := by decide

theorem sharing_legal_three :
    ∃ final, atomicCheck device ⟨Blend.quadCrtc, true, true⟩ [0, 1, 2] three = .ok final ∧
      ∀ pipe, LegalUse device.caps final (users [0, 1, 2] final pipe) :=
  ⟨_, rfl, (@sharing_legal device ⟨Blend.quadCrtc, true, true⟩ three _ [0, 1, 2] three_made
    ⟨rfl, rfl⟩ rfl).1⟩

/-- The check of a CRTC that is not active leaves a virtual plane alone with the state of a pair. -/
theorem inactive_unchecked :
    Made [1] three ∧ ∃ final, atomicCheck device ⟨Blend.quadCrtc, true, false⟩
    [1] three = .ok final ∧
      ¬∀ pipe, LegalUse device.caps final (users [1] final pipe) := by
  refine ⟨⟨by decide, by decide⟩, three, rfl, fun legal => ?_⟩
  have alone : LegalUse device.caps three [1] := legal .dma0
  cases alone with
  | solo solo => exact absurd solo.real (by decide)

end DisplayDrivers.Multirect
