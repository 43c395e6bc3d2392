import Mathlib.Data.List.Basic

/-! # Computations that read memory

A `Probe ι α` is the result of a computation together with the places of a memory that it read, in
order. `Within p` says that it read no place outside `p`; there is one rule for each way to build a
computation.
-/

namespace DisplayDrivers.Lib

structure Probe (ι α : Type) where
  value : α
  reads : List ι

namespace Probe

variable {ι α β : Type}

instance : Monad (Probe ι) where
  pure a := { value := a, reads := [] }
  bind c f := { value := (f c.value).value, reads := c.reads ++ (f c.value).reads }

def read (mem : ι → α) (i : ι) : Probe ι α := { value := mem i, reads := [i] }

def readAll (mem : ι → α) (places : List ι) : Probe ι (List α) :=
  { value := places.map mem, reads := places }

@[simp] theorem value_pure (a : α) : (pure a : Probe ι α).value = a := rfl

@[simp] theorem reads_pure (a : α) : (pure a : Probe ι α).reads = [] := rfl

@[simp] theorem value_bind (c : Probe ι α) (f : α → Probe ι β) :
    (c >>= f).value = (f c.value).value := rfl

@[simp] theorem reads_bind (c : Probe ι α) (f : α → Probe ι β) :
    (c >>= f).reads = c.reads ++ (f c.value).reads := rfl

@[simp] theorem value_read (mem : ι → α) (i : ι) : (read mem i).value = mem i := rfl

@[simp] theorem reads_read (mem : ι → α) (i : ι) : (read mem i).reads = [i] := rfl

@[simp] theorem value_readAll (mem : ι → α) (places : List ι) :
    (readAll mem places).value = places.map mem := rfl

/-! ## Staying inside -/

def Within (c : Probe ι α) (p : ι → Prop) : Prop := ∀ i ∈ c.reads, p i

variable {p : ι → Prop}

@[simp] theorem within_pure (a : α) : (pure a : Probe ι α).Within p := by
  simp [Within]

@[simp] theorem within_bind (c : Probe ι α) (f : α → Probe ι β) :
    (c >>= f).Within p ↔ c.Within p ∧ (f c.value).Within p := by
  simp [Within, or_imp, forall_and]

@[simp] theorem within_read (mem : ι → α) (i : ι) : (read mem i).Within p ↔ p i := by
  simp [Within]

@[simp] theorem within_readAll (mem : ι → α) (places : List ι) :
    (readAll mem places).Within p ↔ ∀ i ∈ places, p i := Iff.rfl

theorem Within.mono {q : ι → Prop} {c : Probe ι α} (within : c.Within p)
    (weaker : ∀ i, p i → q i) : c.Within q :=
  fun i member => weaker i (within i member)

/-! ## Pointers -/

/-- A computation on what lies behind place `base`, in the places of the whole memory. -/
def via {α : Type} (base : Nat) (c : Probe Nat α) : Probe Nat α :=
  { value := c.value, reads := c.reads.map (base + ·) }

@[simp] theorem value_via (base : Nat) (c : Probe Nat α) : (c.via base).value = c.value := rfl

@[simp] theorem within_via (base : Nat) (c : Probe Nat α) (p : Nat → Prop) :
    (c.via base).Within p ↔ c.Within fun i => p (base + i) := by
  simp [via, Within]

/-! ## Looking for a place -/

def search (mem : ι → α) (found : α → Bool) : List ι → Probe ι (Option ι)
  | [] => pure none
  | i :: rest => do
    let a ← read mem i
    if found a then pure (some i) else search mem found rest

variable (mem : ι → α) (found : α → Bool)

variable {i : ι}

theorem search_cons_of_not (rest : List ι) (miss : found (mem i) = false) :
    search mem found (i :: rest) =
      { value := (search mem found rest).value, reads := i :: (search mem found rest).reads } := by
  show Probe.mk _ _ = _
  simp [miss]

theorem search_cons_of_found (rest : List ι) (hit : found (mem i) = true) :
    search mem found (i :: rest) = { value := some i, reads := [i] } := by
  show Probe.mk _ _ = _
  simp [hit]

@[simp] theorem value_search (places : List ι) :
    (search mem found places).value = places.find? fun i => found (mem i) := by
  induction places with
  | nil => rfl
  | cons i rest ih =>
    cases hit : found (mem i) with
    | true => simp [search_cons_of_found mem found rest hit, hit]
    | false => simp [search_cons_of_not mem found rest hit, hit, ih]

theorem reads_search_leading (places : List ι) : (search mem found places).reads <+: places := by
  induction places with
  | nil => exact List.nil_prefix
  | cons i rest ih =>
    cases hit : found (mem i) with
    | true => simp [search_cons_of_found mem found rest hit]
    | false => simpa [search_cons_of_not mem found rest hit] using ih

variable {mem found}

theorem mem_reads_search {places : List ι} (hit : (search mem found places).value = some i) :
    i ∈ (search mem found places).reads := by
  induction places with
  | nil => cases hit
  | cons j rest ih =>
    cases first : found (mem j) with
    | true =>
      rw [search_cons_of_found mem found rest first] at hit ⊢
      cases hit
      exact List.mem_singleton_self i
    | false =>
      rw [search_cons_of_not mem found rest first] at hit ⊢
      exact List.mem_cons_of_mem j (ih hit)

variable {front : List ι}

theorem reads_search_append (back : List ι) (miss : ∀ i ∈ front, found (mem i) = false) :
    (search mem found (front ++ back)).reads = front ++ (search mem found back).reads := by
  induction front with
  | nil => rfl
  | cons i rest ih =>
    have head := miss i List.mem_cons_self
    have tail := ih fun j member => miss j (List.mem_cons_of_mem _ member)
    simp [search_cons_of_not mem found (rest ++ back) head, tail]

theorem reads_search_of_found (back : List ι) (hit : found (mem i) = true) :
    (search mem found (front ++ i :: back)).reads <+: front ++ [i] := by
  induction front with
  | nil => simp [search_cons_of_found mem found back hit]
  | cons j rest ih =>
    cases first : found (mem j) with
    | true => simp [search_cons_of_found mem found (rest ++ i :: back) first]
    | false => simpa [search_cons_of_not mem found (rest ++ i :: back) first] using ih

/-! ## Going through the front of an array -/

section Range

variable {mem : Nat → α} {found : α → Bool} {n k : Nat}

theorem range_split (bound : k < n) : ∃ back, List.range n = List.range k ++ k :: back := by
  obtain ⟨m, rfl⟩ := Nat.exists_eq_add_of_le bound
  refine ⟨(List.range m).map (k + 1 + ·), ?_⟩
  show List.range (k + 1 + m) = _
  rw [List.range_add, List.range_succ]
  simp

theorem reads_search_range_le (bound : k < n) (hit : found (mem k) = true) :
    ∀ i ∈ (search mem found (List.range n)).reads, i ≤ k := by
  obtain ⟨back, split⟩ := range_split bound
  intro i member
  rw [split] at member
  have early := (reads_search_of_found back hit).subset member
  simp at early
  omega

theorem mem_reads_search_range (bound : k < n) (miss : ∀ i < k, found (mem i) = false) :
    k ∈ (search mem found (List.range n)).reads := by
  obtain ⟨back, split⟩ := range_split bound
  -- the places in front are passed over, and `k` is read whether it matches or not
  rw [split, reads_search_append _ (by simpa using miss)]
  apply List.mem_append_right
  cases first : found (mem k) with
  | true => simp [search_cons_of_found mem found back first]
  | false => simp [search_cons_of_not mem found back first]

end Range

end Probe

end DisplayDrivers.Lib
