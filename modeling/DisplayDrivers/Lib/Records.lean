import DisplayDrivers.Lib.Probe
import Mathlib.Data.List.Basic

/-! # Records that begin with their size

Records lie behind each other in a memory. The header of a record, the element at its place, tells
the size of what follows the header, and so where the next record starts.
-/

namespace DisplayDrivers.Lib.Records

variable {α : Type} (mem : Nat → α) (size : α → Nat) {stop : Nat}

/-! ## The places of the records -/

def walkFrom (stop : Nat) : Nat → Nat → List Nat
  | 0, _ => []
  | fuel + 1, i => if i < stop then i :: walkFrom stop fuel (i + size (mem i) + 1) else []

/-- The places in front of `stop` at which a record starts, when one starts at `start`. -/
def walk (stop start : Nat) : List Nat := walkFrom mem size stop (stop - start) start

theorem walkFrom_enough (fuel fuel' : Nat) {i : Nat} (enough : stop - i ≤ fuel)
    (enough' : stop - i ≤ fuel') :
    walkFrom mem size stop fuel i = walkFrom mem size stop fuel' i := by
  induction fuel generalizing fuel' i with
  | zero =>
    cases fuel' with
    | zero => rfl
    | succ fuel' =>
      have past : ¬i < stop := by omega
      simp [walkFrom, past]
  | succ fuel ih =>
    by_cases inside : i < stop
    · cases fuel' with
      | zero => omega
      | succ fuel' =>
        rw [walkFrom, walkFrom, if_pos inside, if_pos inside,
          ih fuel' (by omega) (by omega)]
    · cases fuel' with
      | zero => simp [walkFrom, inside]
      | succ fuel' => simp [walkFrom, inside]

theorem walk_of_lt {i : Nat} (inside : i < stop) :
    walk mem size stop i = i :: walk mem size stop (i + size (mem i) + 1) := by
  obtain ⟨fuel, steps⟩ := Nat.exists_eq_add_of_lt inside
  have more : stop - i = fuel + 1 := by omega
  rw [walk, more, walkFrom, if_pos inside, walk,
    walkFrom_enough mem size fuel (stop - (i + size (mem i) + 1)) (by omega) (by omega)]

theorem walk_of_le {i : Nat} (past : stop ≤ i) : walk mem size stop i = [] := by
  rw [walk, Nat.sub_eq_zero_of_le past, walkFrom]

theorem walk_induction (stop : Nat) {motive : Nat → Prop} (past : ∀ i, stop ≤ i → motive i)
    (step : ∀ i, i < stop → motive (i + size (mem i) + 1) → motive i) (i : Nat) : motive i := by
  by_cases inside : i < stop
  · exact step i inside (walk_induction stop past step (i + size (mem i) + 1))
  · exact past i (Nat.le_of_not_lt inside)
termination_by stop - i

variable {mem size}

theorem mem_walk {i j : Nat} (member : j ∈ walk mem size stop i) : i ≤ j ∧ j < stop := by
  induction i using walk_induction mem size stop with
  | past i past => simp [walk_of_le mem size past] at member
  | step i inside ih =>
    rw [walk_of_lt mem size inside, List.mem_cons] at member
    rcases member with rfl | later
    · exact ⟨Nat.le_refl j, inside⟩
    · have := ih later
      omega

theorem pairwise_walk (i : Nat) :
    (walk mem size stop i).Pairwise fun j k => j + size (mem j) < k := by
  induction i using walk_induction mem size stop with
  | past i past => simp [walk_of_le mem size past]
  | step i inside ih =>
    rw [walk_of_lt mem size inside, List.pairwise_cons]
    refine ⟨fun k later => ?_, ih⟩
    have := (mem_walk later).1
    omega

variable {p : Nat → Bool}

theorem not_found_before {records : List Nat} (ordered : records.Pairwise (· < ·))
    {i j : Nat} (found : records.find? p = some i) (member : j ∈ records) (before : j < i) :
    p j = false := by
  obtain ⟨-, front, back, split, miss⟩ := List.find?_eq_some_iff_append.mp found
  rw [split] at member ordered
  rcases List.mem_append.mp member with early | late
  · simpa using miss j early
  · have behind := (List.pairwise_cons.mp (List.pairwise_append.mp ordered).2.1).1
    rcases List.mem_cons.mp late with rfl | later
    · omega
    · have := behind j later
      omega

variable (mem size stop) in
theorem walk_split (i : Nat) : ∃ last, walk mem size stop i =
      (walk mem size stop i).takeWhile (fun j => j + size (mem j) < stop) ++ last ∧
    (last = [] ∨ ∃ j, last = [j] ∧ stop ≤ j + size (mem j)) := by
  induction i using walk_induction mem size stop with
  | past i past => exact ⟨[], by simp [walk_of_le mem size past], .inl rfl⟩
  | step i inside ih =>
    rw [walk_of_lt mem size inside]
    -- behind a record that reaches the stop the walk has ended
    by_cases fits : i + size (mem i) < stop
    · obtain ⟨last, split, cases⟩ := ih
      refine ⟨last, ?_, cases⟩
      rw [List.takeWhile_cons_of_pos (by simpa using fits), List.cons_append, ← split]
    · refine ⟨[i], ?_, .inr ⟨i, rfl, Nat.le_of_not_lt fits⟩⟩
      rw [List.takeWhile_cons_of_neg (by simpa using fits),
        walk_of_le mem size (i := i + size (mem i) + 1) (by omega)]
      rfl

theorem filter_walk_of_find {i j : Nat} (found : (walk mem size stop i).find? p = some j) :
    (walk mem size stop i).filter p =
    j :: (walk mem size stop (j + size (mem j) + 1)).filter p := by
  induction i using walk_induction mem size stop with
  | past i past => simp [walk_of_le mem size past] at found
  | step i inside ih =>
    rw [walk_of_lt mem size inside] at found ⊢
    cases hit : p i with
    | true =>
      rw [List.find?_cons_of_pos hit] at found
      cases found
      rw [List.filter_cons_of_pos hit]
    | false =>
      rw [List.find?_cons_of_neg (by simp [hit])] at found
      rw [List.filter_cons_of_neg (by simp [hit]), ih found]

/-! ## Looking for a record -/

variable (mem size)

def scanFrom (enter : Nat → α → Bool) (found : Nat → α → Probe Nat Bool) (stop : Nat) :
    Nat → Nat → Probe Nat (Option Nat)
  | 0, _ => pure none
  | fuel + 1, i =>
    if i < stop then do
      let header ← Probe.read mem i
      if enter i header then do
        let hit ← found i header
        if hit then pure (some i) else scanFrom enter found stop fuel (i + size header + 1)
      else pure none
    else pure none

def scan (enter : Nat → α → Bool) (found : Nat → α → Probe Nat Bool) (stop start : Nat) :
    Probe Nat (Option Nat) :=
  scanFrom mem size enter found stop (stop - start) start

def entered (enter : Nat → α → Bool) (stop start : Nat) : List Nat :=
  (walk mem size stop start).takeWhile fun i => enter i (mem i)

variable (enter : Nat → α → Bool) (found : Nat → α → Probe Nat Bool)

theorem value_scanFrom (stop fuel i : Nat) :
    (scanFrom mem size enter found stop fuel i).value =
      ((walkFrom mem size stop fuel i).takeWhile fun j => enter j (mem j)).find?
        fun j => (found j (mem j)).value := by
  induction fuel generalizing i with
  | zero => rfl
  | succ fuel ih =>
    rw [scanFrom, walkFrom]
    by_cases inside : i < stop
    · cases enters : enter i (mem i) with
      | true => cases hit : (found i (mem i)).value <;> simp [inside, enters, hit, ih]
      | false => simp [inside, enters]
    · simp [inside]

theorem value_scan (start : Nat) :
    (scan mem size enter found stop start).value =
      (entered mem size enter stop start).find? fun i => (found i (mem i)).value :=
  value_scanFrom mem size enter found stop (stop - start) start

theorem le_of_mem_walkFrom {fuel i j : Nat} (member : j ∈ walkFrom mem size stop fuel i) :
    i ≤ j := by
  induction fuel generalizing i with
  | zero => cases member
  | succ fuel ih =>
    rw [walkFrom] at member
    split at member
    · rcases List.mem_cons.mp member with rfl | later
      · exact Nat.le_refl j
      · have := ih later
        omega
    · cases member

theorem forall_until_cons {i : Nat} {later : List Nat} (behind : ∀ j ∈ later, i < j)
    (hit : Nat → Bool) {q : Nat → Prop} :
    (∀ j ∈ i :: later, (∀ k ∈ i :: later, k < j → hit k = false) → q j) ↔
      q i ∧ (hit i = false → ∀ j ∈ later, (∀ k ∈ later, k < j → hit k = false) → q j) := by
  constructor
  · intro all
    refine ⟨all i List.mem_cons_self fun k member lt => ?_, fun miss j member before => ?_⟩
    · rcases List.mem_cons.mp member with rfl | later
      · omega
      · have := behind k later
        omega
    · apply all j (List.mem_cons_of_mem i member)
      intro k member lt
      rcases List.mem_cons.mp member with rfl | later
      · exact miss
      · exact before k later lt
  · rintro ⟨head, rest⟩ j member before
    rcases List.mem_cons.mp member with rfl | later
    · exact head
    · exact rest (before i List.mem_cons_self (behind j later)) j later
        fun k member lt => before k (List.mem_cons_of_mem i member) lt

theorem within_scanFrom {p : Nat → Prop} {fuel i : Nat}
    (headers : ∀ j ∈ walkFrom mem size stop fuel i, p j) :
    (scanFrom mem size enter found stop fuel i).Within p ↔
      ∀ j ∈ (walkFrom mem size stop fuel i).takeWhile fun j => enter j (mem j),
        (∀ k ∈ (walkFrom mem size stop fuel i).takeWhile fun j => enter j (mem j), k < j →
          (found k (mem k)).value = false) → (found j (mem j)).Within p := by
  induction fuel generalizing i with
  | zero => simp [scanFrom, walkFrom]
  | succ fuel ih =>
    rw [walkFrom] at headers
    rw [scanFrom, walkFrom]
    by_cases inside : i < stop
    · rw [if_pos inside] at headers
      have header := headers i List.mem_cons_self
      have rest := @ih (i + size (mem i) + 1) fun j later =>
        headers j (List.mem_cons_of_mem i later)
      have behind : ∀ j ∈ (walkFrom mem size stop fuel (i + size (mem i) + 1)).takeWhile
          fun j => enter j (mem j), i < j := fun j member => by
        have := le_of_mem_walkFrom mem size (List.takeWhile_subset _ member)
        omega
      cases enters : enter i (mem i) with
      | false => simp [inside, enters, header]
      | true =>
        -- what is asked of the record at `i` comes off, and the rest is asked where it is not found
        rw [if_pos inside, if_pos inside,
          List.takeWhile_cons_of_pos (p := fun j => enter j (mem j)) enters,
          forall_until_cons behind fun j => (found j (mem j)).value, ← rest]
        cases hit : (found i (mem i)).value <;> simp [enters, hit, header]
    · simp [inside]

theorem within_scan {p : Nat → Prop} (start : Nat)
    (headers : ∀ i ∈ walk mem size stop start, p i) :
    (scan mem size enter found stop start).Within p ↔
      ∀ i ∈ entered mem size enter stop start,
        (∀ j ∈ entered mem size enter stop start, j < i → (found j (mem j)).value = false) →
          (found i (mem i)).Within p :=
  within_scanFrom mem size enter found headers

theorem mem_reads_scanFrom (all : ∀ i a, enter i a = true) {fuel i : Nat}
    (miss : (scanFrom mem size enter found stop fuel i).value = none) :
    ∀ j ∈ walkFrom mem size stop fuel i,
      j ∈ (scanFrom mem size enter found stop fuel i).reads := by
  induction fuel generalizing i with
  | zero => simp [walkFrom]
  | succ fuel ih =>
    rw [scanFrom] at miss ⊢
    rw [walkFrom]
    by_cases inside : i < stop
    · cases hit : (found i (mem i)).value with
      | true => simp [inside, all, hit] at miss
      | false =>
        simp only [inside, all, hit, if_true, Probe.value_bind, Probe.value_read,
          Bool.false_eq_true, if_false] at miss
        intro j member
        rw [if_pos inside] at member
        rcases List.mem_cons.mp member with rfl | later
        · simp [inside]
        · have read := ih miss j later
          simp [inside, all, hit, read]
    · simp [inside]

theorem mem_reads_scan {start : Nat} (all : ∀ i a, enter i a = true)
    (miss : (scan mem size enter found stop start).value = none) :
    ∀ i ∈ walk mem size stop start, i ∈ (scan mem size enter found stop start).reads :=
  mem_reads_scanFrom mem size enter found all miss

end DisplayDrivers.Lib.Records
