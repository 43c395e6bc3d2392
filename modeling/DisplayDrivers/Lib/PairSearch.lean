import Mathlib.Data.List.Nodup

/-! # Greedy searches over a list of candidates

Two ways of filling a fixed number of places from a list, as allocators of hardware do.
-/

namespace DisplayDrivers.Lib.PairSearch

variable {α β : Type*}

/-! ## One sweep -/

/-- Fill up to `want` places from left to right; `fits n a` says whether `a` may take place `n`. -/
def pick (want : Nat) (fits : Nat → α → Bool) (all : List α) : List α :=
  all.foldl (fun found a =>
    if found.length = want then found
    else if fits found.length a then found ++ [a] else found) []

private theorem pick_foldl (want : Nat) (fits : Nat → α → Bool) (all found : List α)
    (room : found.length ≤ want) :
    ∃ more, all.foldl (fun found a =>
        if found.length = want then found
        else if fits found.length a then found ++ [a] else found) found = found ++ more ∧
      more.Sublist all ∧ (found ++ more).length ≤ want ∧
      ∀ a ∈ more, ∃ n, fits n a = true := by
  -- every turn of the sweep starts with more choices, so they are generalised
  induction all generalizing found with
  | nil => exact ⟨[], by simp, List.Sublist.refl _, by simpa using room, by simp⟩
  | cons a rest ih =>
    rw [List.foldl_cons]
    split
    next full =>
      obtain ⟨more, eq, sub, len, ok⟩ := ih found room
      exact ⟨more, eq, sub.cons a, len, ok⟩
    next notFull =>
      split
      next fit =>
        have more_room : (found ++ [a]).length ≤ want := by
          rw [List.length_append, List.length_singleton]
          omega
        obtain ⟨more, eq, sub, len, ok⟩ := ih (found ++ [a]) more_room
        refine ⟨a :: more, by simpa using eq, sub.cons_cons a, by simpa using len, ?_⟩
        intro b member
        rcases List.mem_cons.mp member with rfl | later
        · exact ⟨_, fit⟩
        · exact ok b later
      next unfit =>
        obtain ⟨more, eq, sub, len, ok⟩ := ih found room
        exact ⟨more, eq, sub.cons a, len, ok⟩

theorem pick_sublist (want : Nat) (fits : Nat → α → Bool) (all : List α) :
    (pick want fits all).Sublist all := by
  obtain ⟨more, eq, sub, -⟩ := pick_foldl want fits all [] (Nat.zero_le _)
  rw [pick, eq]
  exact sub

variable {a : α}

theorem pick_fits {want : Nat} {fits : Nat → α → Bool} {all : List α}
    (member : a ∈ pick want fits all) : ∃ n, fits n a = true := by
  obtain ⟨more, eq, -, -, ok⟩ := pick_foldl want fits all [] (Nat.zero_le _)
  rw [pick, eq] at member
  exact ok a member

theorem pick_eq_take (want : Nat) (fits : α → Bool) (all : List α) :
    pick want (fun _ => fits) all = (all.filter fits).take want := by
  -- with `found` chosen already, `want - found.length` places are left
  suffices general : ∀ found : List α, found.length ≤ want →
      all.foldl (fun found a =>
        if found.length = want then found
        else if fits a then found ++ [a] else found) found =
        found ++ (all.filter fits).take (want - found.length) by
    simpa [pick] using general [] (Nat.zero_le _)
  induction all with
  | nil => simp
  | cons a rest ih =>
    intro found room
    rw [List.foldl_cons]
    split
    next full => rw [ih found room, full, Nat.sub_self, List.take_zero, List.take_zero]
    next notFull =>
      split
      next fit =>
        have more_room : (found ++ [a]).length ≤ want := by
          rw [List.length_append, List.length_singleton]
          omega
        have places : want - found.length = want - (found ++ [a]).length + 1 := by
          rw [List.length_append, List.length_singleton]
          omega
        rw [ih _ more_room, List.filter_cons_of_pos fit, places, List.take_succ_cons,
          List.append_assoc, List.singleton_append]
      next unfit => rw [ih found room, List.filter_cons_of_neg unfit]

/-! ## Masks -/

/-- The bit of a 32-bit mask that stands for an id; the shift count is taken modulo the width. -/
def bit (id : Nat) : BitVec 32 := 1#32 <<< (id % 32)

def masked (mask : BitVec 32) (id : Nat) : Bool := mask.getLsbD (id % 32)

theorem getLsbD_bit (id k : Nat) : (bit id).getLsbD k = decide (k = id % 32) := by
  have small : id % 32 < 32 := Nat.mod_lt _ (by decide)
  rw [bit, BitVec.getLsbD_shiftLeft]
  by_cases same : k = id % 32
  · subst same
    simp [small]
  · have off : k < id % 32 ∨ k - id % 32 ≠ 0 := by omega
    cases off with
    | inl below => simp [below, same]
    | inr above => simp [BitVec.getLsbD_one, above, same]

@[simp] theorem masked_or_bit (mask : BitVec 32) (a b : Nat) :
    masked (mask ||| bit a) b = (masked mask b || decide (b % 32 = a % 32)) := by
  rw [masked, BitVec.getLsbD_or, getLsbD_bit]
  rfl

@[simp] theorem masked_and_not_bit (mask : BitVec 32) (a b : Nat) :
    masked (mask &&& ~~~bit a) b = (masked mask b && !decide (b % 32 = a % 32)) := by
  have small : b % 32 < 32 := Nat.mod_lt _ (by decide)
  rw [masked, BitVec.getLsbD_and, BitVec.getLsbD_not, getLsbD_bit]
  simp [masked, small]

/-! ## Pairs -/

structure Search (β : Type*) where
  mask : BitVec 32
  found : List β

def Search.start : Search β := ⟨0, []⟩

variable (want : Nat) (ident : α → Nat) (first : Nat → α → Option β)
  (peer : Nat → α → α → Option β)

/-- The first candidate of the list that is not in use and is a peer of `a` for the next place. -/
def findPeer (all : List α) (s : Search β) (a : α) : Option (α × β) :=
  all.findSome? fun c =>
    if masked s.mask (ident c) then none else (peer s.found.length a c).map (c, ·)

def pairStep (all : List α) (s : Search β) (a : α) : Search β :=
  if s.found.length = want then s
  else if masked s.mask (ident a) then s
  else match first s.found.length a with
    | none => s
    | some b =>
      let taken : Search β := ⟨s.mask ||| bit (ident a), s.found ++ [b]⟩
      if taken.found.length = want then taken
      -- the peer is looked for from the head of the list, in front of `a` too
      else match findPeer ident peer all taken a with
        | some (c, d) => ⟨taken.mask ||| bit (ident c), taken.found ++ [d]⟩
        | none => ⟨taken.mask &&& ~~~bit (ident a), s.found⟩

theorem foldl_pairStep_full {all : List α} {s : Search β} (full : s.found.length = want)
    (rest : List α) : rest.foldl (pairStep want ident first peer all) s = s := by
  induction rest with
  | nil => rfl
  | cons a rest ih => rw [List.foldl_cons, pairStep, if_pos full, ih]

def pass (all : List α) (s : Search β) : Search β :=
  all.foldl (pairStep want ident first peer all) s

theorem pass_full {s : Search β} (full : s.found.length = want) (all : List α) :
    pass want ident first peer all s = s :=
  foldl_pairStep_full want ident first peer full all

theorem pass_one (all : List α) :
    all.findSome? (first 0) = none ∧ pass 1 ident first peer all .start = .start ∨
      ∃ b, all.findSome? (first 0) = some b ∧ (pass 1 ident first peer all .start).found = [b] := by
  suffices general : ∀ rest : List α,
      rest.findSome? (first 0) = none ∧
          rest.foldl (pairStep 1 ident first peer all) .start = .start ∨
        ∃ b, rest.findSome? (first 0) = some b ∧
          (rest.foldl (pairStep 1 ident first peer all) .start).found = [b] from
    general all
  intro rest
  induction rest with
  | nil => exact .inl ⟨rfl, rfl⟩
  | cons a rest ih =>
    have room : (Search.start : Search β).found.length ≠ 1 := Nat.zero_ne_one
    have unused : ¬masked (Search.start : Search β).mask (ident a) = true := by
      simp [Search.start, masked]
    rw [List.findSome?_cons, List.foldl_cons, pairStep, if_neg room, if_neg unused]
    cases offered : first 0 a with
    | none =>
      have missed : first (Search.start : Search β).found.length a = none := offered
      simpa only [missed] using ih
    | some b =>
      have taken : first (Search.start : Search β).found.length a = some b := offered
      have full : ((Search.start : Search β).found ++ [b]).length = 1 := rfl
      refine .inr ⟨b, rfl, ?_⟩
      simp only [taken]
      rw [if_pos full, foldl_pairStep_full _ _ _ _ full]
      rfl

/-! ## What a search guarantees -/

variable (source : β → α) (Good : β → Prop)

structure Offers : Prop where
  first_good : ∀ {n a b}, first n a = some b → source b = a ∧ Good b
  peer_good : ∀ {n p a b}, peer n p a = some b → source b = a ∧ Good b

/-- A search in progress: no more than wanted, choices from the list, all good, no two with the
    same bit, and the mask marks exactly them. -/
structure Sound (all : List α) (s : Search β) : Prop where
  fits : s.found.length ≤ want
  listed : ∀ b ∈ s.found, source b ∈ all
  good : ∀ b ∈ s.found, Good b
  apart : (s.found.map fun b => ident (source b) % 32).Nodup
  marks : ∀ id, masked s.mask id = true ↔ ∃ b ∈ s.found, ident (source b) % 32 = id % 32

variable {want ident first peer source Good} {all : List α} {s : Search β}

theorem sound_start : Sound want ident source Good all .start where
  fits := Nat.zero_le _
  listed := by simp [Search.start]
  good := by simp [Search.start]
  apart := List.nodup_nil
  marks := by simp [Search.start, masked]

theorem Sound.take (sound : Sound want ident source Good all s) (room : s.found.length < want)
    {b : β} (listed : source b ∈ all) (good : Good b)
    (clear : masked s.mask (ident (source b)) = false) :
    Sound want ident source Good all ⟨s.mask ||| bit (ident (source b)), s.found ++ [b]⟩ where
  fits := by
    rw [List.length_append]
    exact room
  listed := by
    intro c member
    cases List.mem_append.mp member with
    | inl old => exact sound.listed c old
    | inr new =>
      rw [List.mem_singleton.mp new]
      exact listed
  good := by
    intro c member
    cases List.mem_append.mp member with
    | inl old => exact sound.good c old
    | inr new =>
      rw [List.mem_singleton.mp new]
      exact good
  apart := by
    rw [List.map_append, List.map_singleton]
    apply List.Nodup.append sound.apart (List.nodup_singleton _)
    intro k old new
    obtain ⟨c, member, rfl⟩ := List.mem_map.mp old
    have unmarked := (sound.marks (ident (source b))).not.mp (by simp [clear])
    exact unmarked ⟨c, member, List.mem_singleton.mp new⟩
  marks := by
    intro id
    rw [masked_or_bit, Bool.or_eq_true, sound.marks id, decide_eq_true_iff]
    constructor
    · rintro (⟨c, member, same⟩ | same)
      · exact ⟨c, List.mem_append_left _ member, same⟩
      · exact ⟨b, by simp, same.symm⟩
    · rintro ⟨c, member, same⟩
      cases List.mem_append.mp member with
      | inl old => exact .inl ⟨c, old, same⟩
      | inr new =>
        rw [List.mem_singleton.mp new] at same
        exact .inr same.symm

theorem Sound.giveBack (sound : Sound want ident source Good all s)
    (clear : masked s.mask (ident a) = false) :
    Sound want ident source Good all
      ⟨(s.mask ||| bit (ident a)) &&& ~~~bit (ident a), s.found⟩ where
  fits := sound.fits
  listed := sound.listed
  good := sound.good
  apart := sound.apart
  marks := by
    intro id
    rw [masked_and_not_bit, masked_or_bit, ← sound.marks id]
    -- only the bit of `a` was touched, and it was clear
    by_cases same : id % 32 = ident a % 32
    · have unmarked : masked s.mask id = false := by
        rw [masked, same]
        exact clear
      simp [same, unmarked]
    · simp [same]

theorem findPeer_some {c : α} {d : β} (h : findPeer ident peer all s a = some (c, d)) :
    c ∈ all ∧ masked s.mask (ident c) = false ∧ peer s.found.length a c = some d := by
  obtain ⟨e, member, got⟩ := List.exists_of_findSome?_eq_some h
  split at got
  · cases got
  next clear =>
    obtain ⟨d', offered, pair⟩ := Option.map_eq_some_iff.mp got
    obtain ⟨rfl, rfl⟩ := Prod.mk.inj pair
    exact ⟨member, by simpa using clear, offered⟩

theorem sound_pairStep (offers : Offers first peer source Good)
    (sound : Sound want ident source Good all s) (member : a ∈ all) :
    Sound want ident source Good all (pairStep want ident first peer all s a) := by
  unfold pairStep
  split
  · exact sound
  next unfilled =>
    have room : s.found.length < want := Nat.lt_of_le_of_ne sound.fits unfilled
    split
    · exact sound
    next unused =>
      have clear : masked s.mask (ident a) = false := by simpa using unused
      split
      · exact sound
      next b offered =>
        obtain ⟨rfl, good⟩ := offers.first_good offered
        have taken := sound.take room member good clear
        dsimp only
        split
        · exact taken
        next unfilled' =>
          split
          next c d paired =>
            obtain ⟨member', clear', offered'⟩ := findPeer_some paired
            obtain ⟨rfl, good'⟩ := offers.peer_good offered'
            exact taken.take (Nat.lt_of_le_of_ne taken.fits unfilled') member' good' clear'
          · exact sound.giveBack clear

theorem sound_pass (offers : Offers first peer source Good)
    (sound : Sound want ident source Good all s) :
    Sound want ident source Good all (pass want ident first peer all s) := by
  -- the turns are taken from `rest`, the peers always from the whole list
  suffices general : ∀ rest : List α, rest ⊆ all → ∀ t : Search β,
      Sound want ident source Good all t →
      Sound want ident source Good all (rest.foldl (pairStep want ident first peer all) t) from
    general all (List.Subset.refl _) s sound
  intro rest
  induction rest with
  | nil => exact fun _ t sound => sound
  | cons a rest ih =>
    intro sub t sound
    rw [List.foldl_cons]
    exact ih (fun b member => sub (List.mem_cons_of_mem _ member)) _
      (sound_pairStep offers sound (sub List.mem_cons_self))

/-! ## Pairs stand together -/

/-- The choices at the places `2k` and `2k + 1` are related, and only the last place can be filled
    without the other one of its pair. -/
structure Coupled (want : Nat) (R : β → β → Prop) (found : List β) : Prop where
  pairs : ∀ k a b, found[2 * k]? = some a → found[2 * k + 1]? = some b → R a b
  whole : found.length = want ∨ found.length % 2 = 0

variable {R : β → β → Prop} {found : List β}

theorem coupled_nil : Coupled want R ([] : List β) where
  pairs := by simp
  whole := .inr rfl

theorem Coupled.last (coupled : Coupled want R found) (room : found.length ≠ want) {b : β}
    (full : (found ++ [b]).length = want) : Coupled want R (found ++ [b]) where
  pairs := by
    intro k a c first second
    have even := coupled.whole.resolve_left room
    have inside := (List.getElem?_eq_some_iff.mp second).1
    rw [List.length_append, List.length_singleton] at inside
    rw [List.getElem?_append_left (by omega)] at first second
    exact coupled.pairs k a c first second
  whole := .inl full

theorem Coupled.pair (coupled : Coupled want R found) (room : found.length ≠ want) {b d : β}
    (related : R b d) : Coupled want R (found ++ [b] ++ [d]) where
  pairs := by
    intro k a c first second
    have even := coupled.whole.resolve_left room
    have inside := (List.getElem?_eq_some_iff.mp second).1
    simp only [List.length_append, List.length_singleton] at inside
    rw [List.append_assoc, List.singleton_append] at first second
    by_cases before : 2 * k + 1 < found.length
    · rw [List.getElem?_append_left (by omega)] at first second
      exact coupled.pairs k a c first second
    · have here : 2 * k = found.length := by omega
      rw [here, List.getElem?_append_right (Nat.le_refl _)] at first
      rw [here, List.getElem?_append_right (by omega)] at second
      simp only [Nat.sub_self, Nat.add_sub_cancel_left, List.getElem?_cons_zero,
        List.getElem?_cons_succ, Option.some.injEq] at first second
      exact first ▸ second ▸ related
  whole := .inr (by
    have even := coupled.whole.resolve_left room
    simp only [List.length_append, List.length_singleton]
    omega)

def Couples (first : Nat → α → Option β) (peer : Nat → α → α → Option β) (R : β → β → Prop) :
    Prop :=
  ∀ n m a b c d, first n a = some b → peer m a c = some d → R b d

theorem coupled_pairStep (couples : Couples first peer R)
    (coupled : Coupled want R s.found) (a : α) :
    Coupled want R (pairStep want ident first peer all s a).found := by
  unfold pairStep
  split
  · exact coupled
  next room =>
    split
    · exact coupled
    · split
      · exact coupled
      next b offered =>
        dsimp only
        split
        next full => exact coupled.last room full
        next =>
          split
          next c d paired =>
            exact coupled.pair room (couples _ _ _ _ _ _ offered (findPeer_some paired).2.2)
          next => exact coupled

theorem coupled_pass (couples : Couples first peer R) (coupled : Coupled want R s.found) :
    Coupled want R (pass want ident first peer all s).found := by
  suffices general : ∀ rest : List α, ∀ t : Search β, Coupled want R t.found →
      Coupled want R (rest.foldl (pairStep want ident first peer all) t).found from
    general all s coupled
  intro rest
  induction rest with
  | nil => exact fun t coupled => coupled
  | cons a rest ih => exact fun t coupled => ih _ (coupled_pairStep couples coupled a)

end DisplayDrivers.Lib.PairSearch
