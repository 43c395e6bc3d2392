import Mathlib.Data.List.Induction
import Mathlib.Data.List.Nodup
import Mathlib.Logic.Function.Basic

/-! # Pairing by a table

The members of a list are put one by one in a table that has one place for each key. A member that
finds its place taken is paired with the one in it, and the place is empty again. Where no key has
more than two members, the table ends up with those that are alone (`slot_ofList`), and the pairs
are the others (`mem_pairs_ofList`).
-/

namespace DisplayDrivers.Lib.Pairing

variable {κ α : Type*} [DecidableEq κ] (key : α → κ)

structure Table (κ α : Type*) where
  slot : κ → Option α := fun _ => none
  pairs : List (α × α) := []

def Table.add (table : Table κ α) (a : α) : Table κ α :=
  match table.slot (key a) with
  | some first =>
    { slot := Function.update table.slot (key a) none, pairs := table.pairs ++ [(first, a)] }
  | none => { table with slot := Function.update table.slot (key a) (some a) }

def ofList (l : List α) : Table κ α := l.foldl (Table.add key) {}

def members (k : κ) (l : List α) : List α := l.filter (key · = k)

variable {key}

theorem members_append (k : κ) (l : List α) (a : α) :
    members key k (l ++ [a]) = members key k l ++ if key a = k then [a] else [] := by
  rw [members, List.filter_append, members, List.filter_singleton]
  simp

variable {l : List α}

variable {a : α}

theorem key_of_mem_members {k : κ} (member : a ∈ members key k l) : key a = k := by
  simpa using (List.mem_filter.mp member).2

structure Paired (key : α → κ) (l : List α) (table : Table κ α) : Prop where
  slot : ∀ k a, table.slot k = some a ↔ members key k l = [a]
  pairs : ∀ a b, (a, b) ∈ table.pairs ↔ ∃ k, members key k l = [a, b]
  nodup : table.pairs.Nodup

theorem Paired.empty : Paired key [] ({} : Table κ α) where
  slot := by simp [members]
  pairs := by simp [members]
  nodup := List.nodup_nil

variable {table : Table κ α}

theorem Paired.slot_update {l' : List α} {here : Option α} (paired : Paired key l table)
    (other : ∀ k, key a ≠ k → members key k l' = members key k l)
    (own : ∀ b, here = some b ↔ members key (key a) l' = [b]) (k : κ) (b : α) :
    Function.update table.slot (key a) here k = some b ↔ members key k l' = [b] := by
  by_cases same : key a = k
  · subst same
    rw [Function.update_self]
    exact own b
  · rw [Function.update_of_ne (Ne.symm same), other k same]
    exact paired.slot k b

theorem Paired.add (paired : Paired key l table)
    (two : ∀ k, (members key k (l ++ [a])).length ≤ 2) :
    Paired key (l ++ [a]) (table.add key a) := by
  have other : ∀ k, key a ≠ k → members key k (l ++ [a]) = members key k l := fun k ne => by
    rw [members_append, if_neg ne, List.append_nil]
  have own : members key (key a) (l ++ [a]) = members key (key a) l ++ [a] := by
    rw [members_append, if_pos rfl]
  unfold Table.add
  cases taken : table.slot (key a) with
  | none =>
    -- a key that is not in the table has no member yet, since with two it would get a third
    have alone : members key (key a) l = [] := by
      have length := two (key a)
      rw [own, List.length_append, List.length_singleton] at length
      match found : members key (key a) l with
      | [] => rfl
      | [first] => rw [(paired.slot (key a) first).mpr found] at taken; cases taken
      | _ :: _ :: _ => rw [found] at length; simp at length
    rw [alone, List.nil_append] at own
    constructor
    case slot => exact paired.slot_update other fun b => by rw [own]; simp
    case pairs =>
      intro b c
      change (b, c) ∈ table.pairs ↔ _
      rw [paired.pairs]
      refine exists_congr fun k => ?_
      by_cases same : key a = k
      · subst same
        rw [own, alone]
        simp
      · rw [other k same]
    case nodup => exact paired.nodup
  | some first =>
    have found : members key (key a) l = [first] := (paired.slot (key a) first).mp taken
    rw [found] at own
    constructor
    case slot => exact paired.slot_update other fun b => by rw [own]; simp
    case pairs =>
      intro b c
      change (b, c) ∈ table.pairs ++ [(first, a)] ↔ _
      rw [List.mem_append, List.mem_singleton, paired.pairs]
      constructor
      · rintro (⟨k, before⟩ | new)
        · have ne : key a ≠ k := by
            rintro rfl
            rw [found] at before
            cases before
          exact ⟨k, by rw [other k ne, before]⟩
        · cases new
          exact ⟨key a, own⟩
      · rintro ⟨k, all⟩
        by_cases same : key a = k
        · subst same
          rw [own] at all
          cases all
          exact .inr rfl
        · rw [other k same] at all
          exact .inl ⟨k, all⟩
    case nodup =>
      refine List.nodup_append'.mpr ⟨paired.nodup, List.nodup_singleton _, ?_⟩
      refine List.disjoint_singleton.mpr fun before => ?_
      obtain ⟨k, both⟩ := (paired.pairs first a).mp before
      have member : a ∈ members key k l := by rw [both]; simp
      obtain rfl := key_of_mem_members member
      rw [found] at both
      cases both

theorem paired_ofList (two : ∀ k, (members key k l).length ≤ 2) : Paired key l (ofList key l) := by
  induction l using List.reverseRecOn with
  | nil => exact .empty
  | append_singleton l a ih =>
    rw [ofList, List.foldl_append]
    refine (ih fun k => ?_).add two
    have length := two k
    rw [members_append, List.length_append] at length
    omega

def Apart (p q : α × α) : Prop := p.1 ≠ q.1 ∧ p.1 ≠ q.2 ∧ p.2 ≠ q.1 ∧ p.2 ≠ q.2

theorem Paired.members_eq (paired : Paired key l table) {p : α × α}
    (listed : p ∈ table.pairs) (member : a = p.1 ∨ a = p.2) :
    members key (key a) l = [p.1, p.2] := by
  obtain ⟨k, both⟩ := (paired.pairs p.1 p.2).mp listed
  have inside : a ∈ members key k l := by
    rw [both]
    rcases member with rfl | rfl <;> simp
  rw [key_of_mem_members inside, both]

theorem Paired.apart (paired : Paired key l table) : table.pairs.Pairwise Apart := by
  refine paired.nodup.pairwise_of_forall_ne fun p first q second ne => ?_
  -- a common member would make both pairs the members of its key
  have common : ∀ a, (a = p.1 ∨ a = p.2) → (a = q.1 ∨ a = q.2) → False := fun a left right => by
    have same := (paired.members_eq first left).symm.trans (paired.members_eq second right)
    cases p
    cases q
    cases same
    exact ne rfl
  exact ⟨fun same => common _ (.inl rfl) (.inl same), fun same => common _ (.inl rfl) (.inr same),
    fun same => common _ (.inr rfl) (.inl same), fun same => common _ (.inr rfl) (.inr same)⟩

theorem Paired.proper (paired : Paired key l table) (distinct : l.Nodup)
    {p : α × α} (listed : p ∈ table.pairs) : p.1 ≠ p.2 := by
  have both := paired.members_eq listed (.inl rfl)
  have nodup : (members key (key p.1) l).Nodup := distinct.filter _
  rw [both] at nodup
  simpa using nodup

end DisplayDrivers.Lib.Pairing
