import DisplayDrivers.DsiParser.Nodes
import DisplayDrivers.Lib.Loop
import Mathlib.Data.List.Nodup

/-! # Going through the children of a node (`msm/dsi/dsi_parser.c`)

`dsi_parser_get_next_child` is given the child before the one that is asked for, and finds its place
again by its name. A caller begins with `NULL` and goes on until there is no further child.
-/

namespace DisplayDrivers.DsiParser

open DisplayDrivers.Lib.CString
open DisplayDrivers.Lib.Loop

def Node.children : Node → List Node
  | .mk _ _ _ children => children

def Node.nameString (mem : Mem) : Node → List Char
  | .mk name _ _ _ => cstr mem name

def getChildCount (np : Option Node) : ℕ :=
  match np with
  | none => 0
  | some node => node.children.length

/-- The loop of `dsi_parser_get_next_child` from the child at `index` on, for a `prev` that is not
    `NULL`. -/
def nextByName (mem : Mem) (prevName : List Char) : List Node → ℕ → Option ℕ
  | [], _ => none
  | child :: rest, index =>
    if child.nameString mem = prevName then
      if rest.length = 0 then none else some (index + 1)
    else nextByName mem prevName rest (index + 1)

/-- `dsi_parser_get_next_child`; a child is known by its place in `child[]`. -/
def getNextChild (mem : Mem) (np : Option Node) (prev : Option ℕ) : Option ℕ :=
  match np with
  | none => none
  | some parent =>
    if parent.children.length = 0 then none
    else
      match prev with
      | none => some 0
      | some place =>
        nextByName mem ((parent.children[place]?.map (Node.nameString mem)).getD [])
          parent.children 0

def childStep (mem : Mem) (np : Option Node) :
    Option ℕ × List ℕ → (Option ℕ × List ℕ) ⊕ List ℕ
  | (prev, seen) =>
    match getNextChild mem np prev with
    | none => .inr seen
    | some child => .inl (some child, seen ++ [child])

def VisitsAll (mem : Mem) (np : Option Node) : Prop :=
  Returns (childStep mem np) (none, []) (List.range (getChildCount np))

def Node.childNames (mem : Mem) (node : Node) : List (List Char) :=
  node.children.map (Node.nameString mem)

variable {mem : Mem} {parent : Node}

theorem nextByName_cons (prevName : List Char) (child : Node) (rest : List Node) (index : ℕ) :
    nextByName mem prevName (child :: rest) index =
      if child.nameString mem = prevName then (if rest.length = 0 then none else some (index + 1))
      else nextByName mem prevName rest (index + 1) := rfl

theorem nextByName_eq (prevName : List Char) (children : List Node) (index : ℕ) :
    nextByName mem prevName children index =
      if (children.map (Node.nameString mem)).idxOf prevName + 1 < children.length then
        some (index + (children.map (Node.nameString mem)).idxOf prevName + 1)
      else none := by
  induction children generalizing index with
  | nil => rfl
  | cons child rest ih =>
    rw [nextByName_cons, List.map_cons, List.length_cons]
    by_cases here : child.nameString mem = prevName
    · rw [if_pos here, List.idxOf_cons_eq _ here]
      by_cases only : rest.length = 0
      · rw [if_pos only, if_neg (by omega)]
      · rw [if_neg only, if_pos (by omega), Nat.add_zero]
    · rw [if_neg here, List.idxOf_cons_ne _ here, ih, Nat.succ_eq_add_one, Nat.add_assoc index 1,
        Nat.add_comm 1]
      simp only [Nat.add_lt_add_iff_right]

variable {i : ℕ}

theorem getNextChild_some (inside : i < parent.children.length) :
    getNextChild mem (some parent) (some i) =
      if (parent.childNames mem).idxOf (parent.children[i].nameString mem) + 1 <
          parent.children.length then
        some ((parent.childNames mem).idxOf (parent.children[i].nameString mem) + 1)
      else none := by
  have some_child : ¬parent.children.length = 0 := by omega
  simp only [getNextChild, if_neg some_child, List.getElem?_eq_getElem inside, Option.map_some,
    Option.getD_some, nextByName_eq, Nat.zero_add]
  rfl

theorem getNextChild_first (inside : 0 < parent.children.length) :
    getNextChild mem (some parent) none = some 0 := by
  have some_child : ¬parent.children.length = 0 := by omega
  simp only [getNextChild, if_neg some_child]

variable {prev : Option ℕ} {seen : List ℕ}

theorem childStep_some {child : ℕ} (next : getNextChild mem (some parent) prev = some child) :
    childStep mem (some parent) (prev, seen) = .inl (some child, seen ++ [child]) := by
  rw [childStep, next]

theorem childStep_none (ended : getNextChild mem (some parent) prev = none) :
    childStep mem (some parent) (prev, seen) = .inr seen := by
  rw [childStep, ended]

/-! ## Names that differ -/

theorem idxOf_childName (distinct : (parent.childNames mem).Nodup)
    (inside : i < parent.children.length) :
    (parent.childNames mem).idxOf (parent.children[i].nameString mem) = i := by
  have here := distinct.idxOf_getElem i (by simpa [Node.childNames] using inside)
  simpa [Node.childNames] using here

theorem visits_from (distinct : (parent.childNames mem).Nodup) (left i : ℕ)
    (counted : i + 1 + left = parent.children.length) :
    Returns (childStep mem (some parent)) (some i, List.range (i + 1))
      (List.range parent.children.length) := by
  induction left generalizing i with
  | zero =>
    have last : getNextChild mem (some parent) (some i) = none := by
      rw [getNextChild_some (by omega), idxOf_childName distinct, if_neg (by omega)]
    rw [returns_of_leave (childStep_none last), ← counted, Nat.add_zero]
  | succ left ih =>
    have next : getNextChild mem (some parent) (some i) = some (i + 1) := by
      rw [getNextChild_some (by omega), idxOf_childName distinct, if_pos (by omega)]
    rw [returns_of_again (childStep_some next), ← List.range_succ]
    exact ih (i + 1) (by omega)

/-! ## Names that come twice -/

theorem idxOf_childName_le (inside : i < parent.children.length) :
    (parent.childNames mem).idxOf (parent.children[i].nameString mem) ≤ i := by
  by_contra later
  have differs := List.not_of_lt_findIdx (Nat.lt_of_not_le later)
  simp [Node.childNames] at differs

theorem endless_of_twice {j : ℕ} (before : i < j) (inside : j < parent.children.length)
    (same : parent.children[i].nameString mem = parent.children[j].nameString mem)
    (fuel : ℕ) : ∀ k ≤ j, ∀ seen : List ℕ,
      loop (childStep mem (some parent)) fuel (some k, seen) = none := by
  induction fuel with
  | zero => exact fun _ _ _ => rfl
  | succ fuel ih =>
    intro k low seen
    -- the first child of a name is at most where the name is looked up, and before `j` for that of
    -- `j`
    have place : (parent.childNames mem).idxOf (parent.children[k].nameString mem) + 1 ≤ j := by
      by_cases last : k = j
      · subst last
        have first : (parent.childNames mem).idxOf (parent.children[i].nameString mem) ≤ i :=
          idxOf_childName_le (Nat.lt_trans before inside)
        rw [← same]
        omega
      · have first : (parent.childNames mem).idxOf (parent.children[k].nameString mem) ≤ k :=
          idxOf_childName_le (Nat.lt_of_le_of_lt low inside)
        omega
    have next : getNextChild mem (some parent) (some k) =
        some ((parent.childNames mem).idxOf (parent.children[k].nameString mem) + 1) := by
      rw [getNextChild_some (Nat.lt_of_le_of_lt low inside), if_pos (by omega)]
    rw [loop_succ, childStep_some next]
    exact ih _ place _

theorem not_returns_of_twice {j : ℕ} (before : i < j) (inside : j < parent.children.length)
    (same : parent.children[i].nameString mem = parent.children[j].nameString mem)
    (visited : List ℕ) : ¬Returns (childStep mem (some parent)) (none, []) visited := by
  rw [returns_of_again (childStep_some (getNextChild_first (by omega)))]
  rintro ⟨fuel, ended⟩
  rw [endless_of_twice before inside same fuel 0 (Nat.zero_le j)] at ended
  cases ended

/-- The caller sees every child once exactly when no two children have one name. -/
theorem visitsAll_iff (mem : Mem) (parent : Node) :
    VisitsAll mem (some parent) ↔ (parent.childNames mem).Nodup := by
  constructor
  · intro visits
    by_contra twice
    obtain ⟨i, j, before, inside, same⟩ : ∃ i j,
      ∃ (_ : i < j) (inside : j < parent.children.length),
        parent.children[i].nameString mem = parent.children[j].nameString mem := by
      rw [List.Nodup, List.pairwise_iff_getElem] at twice
      push Not at twice
      obtain ⟨i, j, _, inside, before, same⟩ := twice
      exact ⟨i, j,
        before, by simpa [Node.childNames] using inside, by simpa [Node.childNames] using same⟩
    exact not_returns_of_twice before inside same _ visits
  · intro distinct
    unfold VisitsAll getChildCount
    dsimp only
    cases left : parent.children.length with
    | zero =>
      have ended : getNextChild mem (some parent) none = none := by
        simp only [getNextChild, if_pos left]
      rw [returns_of_leave (childStep_none ended)]
      rfl
    | succ left' =>
      rw [returns_of_again (childStep_some (getNextChild_first (by omega))), ← left]
      exact visits_from distinct left' 0 (by omega)

def twins : Mem := ['p', '{', 't', '{', '}', 't', '{', '}', '}', NUL]

/-- After the second child of the same name comes the second one again. -/
theorem not_visitsAll_twins :
    ¬∀ (text : Mem) (fuel : ℕ) (mem : Mem) (buf : ℕ) (node : Node),
      findNodes (fun _ => true) fuel text 0 = some (mem, buf, some node) →
        VisitsAll mem (some node) := by
  intro every
  have visits := every twins 20 ['p', NUL, 't', NUL, NUL, 't', NUL, NUL, '}', NUL] 9
    (.mk 0 2 0 [.mk 2 4 0 [], .mk 5 7 0 []]) rfl
  rw [visitsAll_iff] at visits
  exact absurd visits (by decide)

end DisplayDrivers.DsiParser
