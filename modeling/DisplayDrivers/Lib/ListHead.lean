import Mathlib.Data.List.Nodup
import Mathlib.Logic.Function.Basic

/-! # Circular doubly linked lists

The intrusive lists of the kernel (`struct list_head`): every node points to its two neighbours, a
list is a ring of nodes through its head, and a node on no list points to itself.
-/

namespace DisplayDrivers.Lib.ListHead

variable {α : Type*}

structure Links (α : Type*) where
  next : α → α
  prev : α → α

/-! ## Chains -/

def Linked (links : Links α) : List α → Prop
  | a :: b :: rest => links.next a = b ∧ links.prev b = a ∧ Linked links (b :: rest)
  | _ => True

theorem linked_append (links : Links α) (front back : List α) (x : α) :
    Linked links (front ++ x :: back) ↔ Linked links (front ++ [x]) ∧ Linked links (x :: back) := by
  induction front with
  | nil => simp [Linked]
  | cons a front ih =>
    cases front with
    | nil =>
      constructor
      · rintro ⟨next, prev, rest⟩
        exact ⟨⟨next, prev, trivial⟩, rest⟩
      · rintro ⟨⟨next, prev, -⟩, rest⟩
        exact ⟨next, prev, rest⟩
    | cons b front =>
      constructor
      · rintro ⟨next, prev, rest⟩
        exact ⟨⟨next, prev, (ih.mp rest).1⟩, (ih.mp rest).2⟩
      · rintro ⟨⟨next, prev, rest⟩, last⟩
        exact ⟨next, prev, ih.mpr ⟨rest, last⟩⟩

theorem Linked.congr {links links' : Links α} {xs : List α} (linked : Linked links xs)
    (next : ∀ a ∈ xs.dropLast, links'.next a = links.next a)
    (prev : ∀ a ∈ xs.tail, links'.prev a = links.prev a) : Linked links' xs := by
  induction xs with
  | nil => trivial
  | cons a rest ih =>
    cases rest with
    | nil => trivial
    | cons b rest =>
      obtain ⟨nextEq, prevEq, later⟩ := linked
      refine ⟨?_, ?_, ih later ?_ ?_⟩
      · rw [next a (by simp), nextEq]
      · rw [prev b (by simp), prevEq]
      · intro c member
        exact next c (by simp [member])
      · intro c member
        exact prev c (List.mem_cons_of_mem _ member)

/-! ## Rings -/

structure Ring (links : Links α) (head : α) (xs : List α) : Prop where
  linked : Linked links (head :: xs ++ [head])
  nodup : (head :: xs).Nodup

theorem Ring.linked_split {links : Links α} {head : α} {xs front back : List α} {x : α}
    (ring : Ring links head xs) (split : head :: xs = front ++ x :: back) :
    Linked links (front ++ [x]) ∧ Linked links (x :: (back ++ [head])) := by
  have linked := ring.linked
  rw [split, List.append_assoc, List.cons_append] at linked
  exact (linked_append links front (back ++ [head]) x).mp linked

theorem Ring.last {links : Links α} {head : α} {xs : List α} (ring : Ring links head xs) :
    ∃ front, head :: xs = front ++ [links.prev head] := by
  obtain ⟨front, last, split⟩ : ∃ front last, head :: xs = front ++ [last] :=
    ⟨_, _, (List.dropLast_append_getLast (List.cons_ne_nil head xs)).symm⟩
  have closing := (ring.linked_split split).2
  exact ⟨front, closing.2.1 ▸ split⟩

variable {a : α}

theorem Ring.next_ne {links : Links α} {head : α} {xs : List α} (ring : Ring links head xs)
    (member : a ∈ xs) : links.next a ≠ a := by
  obtain ⟨front, back, rfl⟩ := List.append_of_mem member
  have split : head :: (front ++ a :: back) = (head :: front) ++ a :: back := rfl
  have linked := (ring.linked_split split).2
  obtain ⟨notHead, nodup⟩ := List.nodup_cons.mp ring.nodup
  intro self
  cases back with
  | nil =>
    have isHead : a = head := self.symm.trans linked.1
    exact notHead (isHead ▸ member)
  | cons b back =>
    have isNext : a = b := self.symm.trans linked.1
    have later := (List.nodup_cons.mp nodup.of_append_right).1
    exact later (isNext ▸ List.mem_cons_self)

theorem Ring.neighbours {links : Links α} {head : α} {front back : List α}
    (ring : Ring links head (front ++ a :: back)) :
    ∃ before after, head :: front = before ++ [links.prev a] ∧
      back ++ [head] = links.next a :: after ∧
      Linked links (head :: front) ∧ Linked links (back ++ [head]) := by
  obtain ⟨before, p, left⟩ : ∃ before p, head :: front = before ++ [p] :=
    ⟨_, _, (List.dropLast_append_getLast (List.cons_ne_nil head front)).symm⟩
  obtain ⟨n, after, right⟩ : ∃ n after, back ++ [head] = n :: after := by
    cases back with
    | nil => exact ⟨head, [], rfl⟩
    | cons n rest => exact ⟨n, rest ++ [head], rfl⟩
  have split : head :: (front ++ a :: back) = (before ++ [p]) ++ a :: back := by
    rw [← left]
    rfl
  obtain ⟨upTo, rest⟩ := ring.linked_split split
  rw [List.append_assoc] at upTo
  rw [right] at rest
  obtain ⟨kept, toA⟩ := (linked_append links before [a] p).mp upTo
  have prevA : links.prev a = p := toA.2.1
  have nextA : links.next a = n := rest.1
  rw [left, right, prevA, nextA]
  exact ⟨before, after, rfl, rfl, kept, rest.2.2⟩

/-! ## Operations -/

variable [DecidableEq α]

/-- `INIT_LIST_HEAD`. -/
def initListHead (links : Links α) (node : α) : Links α where
  next := Function.update links.next node node
  prev := Function.update links.prev node node

def listEmpty (links : Links α) (node : α) : Bool := links.next node = node

/-- `__list_add`. -/
def listAddBetween (links : Links α) (new prev next : α) : Links α where
  next := Function.update (Function.update links.next new next) prev new
  prev := Function.update (Function.update links.prev next new) new prev

def listAddTail (links : Links α) (new head : α) : Links α :=
  listAddBetween links new (links.prev head) head

/-- `__list_del`. -/
def listDelBetween (links : Links α) (prev next : α) : Links α where
  next := Function.update links.next prev next
  prev := Function.update links.prev next prev

def listDelInit (links : Links α) (entry : α) : Links α :=
  initListHead (listDelBetween links (links.prev entry) (links.next entry)) entry

def walk (links : Links α) (head : α) : Nat → α → List α
  | 0, _ => []
  | fuel + 1, node => if node = head then [] else node :: walk links head fuel (links.next node)

def nodes (links : Links α) (head : α) (fuel : Nat) : List α :=
  walk links head fuel (links.next head)

theorem ring_nil_iff {links : Links α} {head : α} {xs : List α} (ring : Ring links head xs) :
    listEmpty links head = true ↔ xs = [] := by
  have linked := ring.linked
  cases xs with
  | nil => simp [listEmpty, linked.1]
  | cons a xs =>
    have differ : a ≠ head := by
      have nodup := ring.nodup
      rintro rfl
      simp at nodup
    simp [listEmpty, linked.1, differ]

theorem Ring.addTail {links : Links α} {head : α} {xs : List α} (ring : Ring links head xs)
    (fresh : a ∉ head :: xs) : Ring (listAddTail links a head) head (xs ++ [a]) := by
  obtain ⟨front, split⟩ := ring.last
  have nodup := ring.nodup
  have lastIn : links.prev head ∈ head :: xs := by simp [split]
  have notLast : links.prev head ≠ a := fun same => fresh (same ▸ lastIn)
  have notHead : head ≠ a := fun same => fresh (same ▸ List.mem_cons_self)
  -- up to its last node the old ring is untouched
  have kept : Linked (listAddTail links a head) (front ++ [links.prev head]) := by
    refine (ring.linked_split split).1.congr (fun b member => ?_) fun b member => ?_
    · rw [List.dropLast_concat] at member
      have inRing : b ∈ head :: xs := by simp [split, member]
      have differ : b ≠ a := fun same => fresh (same ▸ inRing)
      have notLast : b ≠ links.prev head := by
        rw [split] at nodup
        exact fun same => (List.disjoint_of_nodup_append nodup) member
          (List.mem_singleton.mpr same)
      simp [listAddTail, listAddBetween, differ, notLast]
    · rw [← split, List.tail_cons] at member
      have differ : b ≠ a := fun same => fresh (same ▸ List.mem_cons_of_mem _ member)
      have notHead : b ≠ head := fun same => (List.nodup_cons.mp nodup).1 (same ▸ member)
      simp [listAddTail, listAddBetween, differ, notHead]
  constructor
  · have whole : head :: (xs ++ [a]) ++ [head] = front ++ links.prev head :: [a, head] := by
      rw [← List.cons_append, split]
      simp
    rw [whole, linked_append]
    refine ⟨kept, ?_, ?_, ?_, ?_, trivial⟩
    · simp [listAddTail, listAddBetween]
    · simp [listAddTail, listAddBetween]
    · simp [listAddTail, listAddBetween, notLast.symm]
    · simp [listAddTail, listAddBetween, notHead]
  · rw [← List.cons_append]
    exact List.nodup_append.mpr ⟨nodup, List.nodup_singleton a, by
      rintro b member c same rfl
      rw [List.mem_singleton.mp same] at member
      exact fresh member⟩

theorem Linked.delInit {links : Links α} {xs : List α} (linked : Linked links xs)
    (notIn : a ∉ xs) (notPrev : links.prev a ∉ xs.dropLast) (notNext : links.next a ∉ xs.tail) :
    Linked (listDelInit links a) xs := by
  refine linked.congr (fun b member => ?_) fun b member => ?_
  · have notA : b ≠ a := fun same => notIn (same ▸ List.dropLast_subset xs member)
    have notP : b ≠ links.prev a := fun same => notPrev (same ▸ member)
    simp [listDelInit, initListHead, listDelBetween, notA, notP]
  · have notA : b ≠ a := fun same => notIn (same ▸ List.mem_of_mem_tail member)
    have notN : b ≠ links.next a := fun same => notNext (same ▸ member)
    simp [listDelInit, initListHead, listDelBetween, notA, notN]

theorem Ring.delInit {links : Links α} {head : α} {front back : List α}
    (ring : Ring links head (front ++ a :: back)) :
    Ring (listDelInit links a) head (front ++ back) := by
  obtain ⟨before, after, left, right, upTo, onward⟩ := ring.neighbours
  -- no node is met twice, so the two chains that stay share the head only
  have nodup : (head :: front ++ a :: back).Nodup := ring.nodup
  have disjoint := List.disjoint_of_nodup_append nodup
  have leftNodup : (head :: front).Nodup := nodup.of_append_left
  obtain ⟨aNotBack, backNodup⟩ := List.nodup_cons.mp nodup.of_append_right
  have apart : ∀ b ∈ head :: front, b ∉ back := fun b inLeft inBack =>
    disjoint inLeft (List.mem_cons_of_mem a inBack)
  have aNotLeft : a ∉ head :: front := fun inLeft => disjoint inLeft List.mem_cons_self
  have headNotBack : head ∉ back := apart head List.mem_cons_self
  have aNotRight : a ∉ back ++ [head] := by
    intro inRight
    cases List.mem_append.mp inRight with
    | inl inBack => exact aNotBack inBack
    | inr isHead => exact aNotLeft (List.mem_singleton.mp isHead ▸ List.mem_cons_self)
  have rightNodup : (back ++ [head]).Nodup := by
    refine List.nodup_append.mpr ⟨backNodup, List.nodup_singleton head, ?_⟩
    rintro b inBack c isHead rfl
    exact headNotBack (List.mem_singleton.mp isHead ▸ inBack)
  have prevIn : links.prev a ∈ head :: front := by simp [left]
  have nextIn : links.next a ∈ back ++ [head] := by simp [right]
  have prevNe : links.prev a ≠ a := fun same => aNotLeft (same ▸ prevIn)
  have nextNe : links.next a ≠ a := fun same => aNotRight (same ▸ nextIn)
  have keptLeft : Linked (listDelInit links a) (head :: front) := by
    refine upTo.delInit aNotLeft ?_ ?_
    · rw [left, List.dropLast_concat]
      rw [left] at leftNodup
      exact fun member => List.disjoint_of_nodup_append leftNodup member List.mem_cons_self
    · intro inFront
      cases List.mem_append.mp nextIn with
      | inl inBack => exact apart _ (List.mem_cons_of_mem head inFront) inBack
      | inr isHead =>
        exact (List.nodup_cons.mp leftNodup).1 (List.mem_singleton.mp isHead ▸ inFront)
  have keptRight : Linked (listDelInit links a) (back ++ [head]) := by
    refine onward.delInit aNotRight ?_ ?_
    · rw [List.dropLast_concat]
      exact apart _ prevIn
    · rw [right] at rightNodup ⊢
      exact (List.nodup_cons.mp rightNodup).1
  constructor
  -- the new ring is the first chain joined to the second
  · have whole : head :: (front ++ back) ++ [head] =
        before ++ links.prev a :: links.next a :: after := by
      have regroup : head :: (front ++ back) ++ [head] = (head :: front) ++ (back ++ [head]) := by
        simp
      rw [regroup, left, right, List.append_assoc]
      rfl
    rw [left] at keptLeft
    rw [right] at keptRight
    rw [whole, linked_append]
    refine ⟨keptLeft, ?_, ?_, keptRight⟩
    · simp [listDelInit, initListHead, listDelBetween, prevNe]
    · simp [listDelInit, initListHead, listDelBetween, nextNe]
  · have sublist : (head :: (front ++ back)).Sublist (head :: (front ++ a :: back)) :=
      ((List.sublist_cons_self a back).append_left front).cons_cons head
    exact ring.nodup.sublist sublist

/-! ## The list among all nodes -/

/-- Of the nodes `Node`, exactly the ones in `xs` are on the list, in this order; every other one
    is linked to itself. -/
structure Tracks (links : Links α) (head : α) (Node : α → Prop) (xs : List α) : Prop
    extends Ring links head xs where
  on_list : ∀ a ∈ xs, Node a
  off_list : ∀ a, Node a → a ∉ head :: xs → links.next a = a

variable {links : Links α} {head : α} {Node : α → Prop} {xs : List α}

theorem Tracks.listEmpty_iff (tracks : Tracks links head Node xs) {a : α} (node : Node a)
    (notHead : a ≠ head) : listEmpty links a = true ↔ a ∉ xs := by
  constructor
  · intro self member
    exact tracks.toRing.next_ne member (of_decide_eq_true self)
  · intro off
    exact decide_eq_true (tracks.off_list a node (by simp [notHead, off]))

theorem Tracks.addTail (tracks : Tracks links head Node xs) (node : Node a)
    (notHead : a ≠ head) (off : a ∉ xs) :
    Tracks (listAddTail links a head) head Node (xs ++ [a]) where
  toRing := tracks.toRing.addTail (by simp [notHead, off])
  on_list := by
    intro b member
    cases List.mem_append.mp member with
    | inl old => exact tracks.on_list b old
    | inr new =>
      rw [List.mem_singleton.mp new]
      exact node
  off_list := by
    intro b isNode away
    have notA : b ≠ a := by
      rintro rfl
      simp at away
    have wasAway : b ∉ head :: xs := by
      simp only [List.mem_cons, List.mem_append, not_or] at away ⊢
      exact ⟨away.1, away.2.1⟩
    have notLast : b ≠ links.prev head := by
      obtain ⟨front, split⟩ := tracks.toRing.last
      exact fun same => wasAway (by rw [split, same]; simp)
    simpa [listAddTail, listAddBetween, notA, notLast] using tracks.off_list b isNode wasAway

theorem Tracks.delFirst (tracks : Tracks links head Node (a :: xs)) :
    Tracks (listDelInit links a) head Node xs where
  toRing := by
    have ring : Ring links head ([] ++ a :: xs) := tracks.toRing
    exact ring.delInit
  on_list := fun b member => tracks.on_list b (List.mem_cons_of_mem _ member)
  off_list := by
    intro b isNode away
    by_cases isA : b = a
    · subst isA
      simp [listDelInit, initListHead]
    · have wasAway : b ∉ head :: a :: xs := by
        simp only [List.mem_cons, not_or] at away ⊢
        exact ⟨away.1, isA, away.2⟩
      have notPrev : b ≠ links.prev a := by
        have prevHead : links.prev a = head := tracks.linked.2.1
        rw [prevHead]
        exact fun same => wasAway (same ▸ List.mem_cons_self)
      simpa [listDelInit, initListHead, listDelBetween, isA, notPrev] using
        tracks.off_list b isNode wasAway

theorem tracks_init {nodes : List α} (all : ∀ a, Node a → a ∈ nodes) (links : Links α)
    (head : α) (notNode : head ∉ nodes) :
    Tracks (nodes.foldl initListHead (initListHead links head)) head Node [] := by
  -- a node that is linked to itself stays so while others are initialised
  have general : ∀ (rest : List α) (links : Links α), head ∉ rest →
      (rest.foldl initListHead links).next head = links.next head ∧
      (rest.foldl initListHead links).prev head = links.prev head ∧
      ∀ a, (a ∈ rest ∨ links.next a = a) → (rest.foldl initListHead links).next a = a := by
    intro rest
    induction rest with
    | nil => exact fun links _ => ⟨rfl, rfl, fun a h => h.resolve_left List.not_mem_nil⟩
    | cons b rest ih =>
      intro links notIn
      obtain ⟨notB, notRest⟩ : head ≠ b ∧ head ∉ rest := by
        simpa [not_or] using notIn
      obtain ⟨next, prev, self⟩ := ih (initListHead links b) notRest
      refine ⟨next.trans (by simp [initListHead, notB]),
        prev.trans (by simp [initListHead, notB]), fun a h => self a ?_⟩
      by_cases isB : a = b
      · subst isB
        exact .inr (by simp [initListHead])
      · cases h with
        | inl member => exact .inl ((List.mem_cons.mp member).resolve_left isB)
        | inr isSelf => exact .inr (by simpa [initListHead, isB] using isSelf)
  obtain ⟨next, prev, self⟩ := general nodes (initListHead links head) notNode
  refine { linked := ?_, nodup := List.nodup_singleton head, on_list := nofun, off_list := ?_ }
  · exact ⟨next.trans (by simp [initListHead]), prev.trans (by simp [initListHead]), trivial⟩
  · exact fun a isNode _ => self a (.inl (all a isNode))

theorem Tracks.nodes_eq (tracks : Tracks links head Node xs) {fuel : Nat}
    (enough : xs.length ≤ fuel) : nodes links head fuel = xs := by
  -- the walk can start at any node of the ring whose successors are `rest`
  have general : ∀ (rest : List α) (a : α) (fuel : Nat), rest.length ≤ fuel → head ∉ rest →
      Linked links (a :: (rest ++ [head])) → walk links head fuel (links.next a) = rest := by
    intro rest
    induction rest with
    | nil =>
      intro a fuel _ _ linked
      cases fuel with
      | zero => rfl
      | succ fuel => simp [walk, linked.1]
    | cons b rest ih =>
      intro a fuel enough notIn linked
      obtain ⟨notB, notRest⟩ : head ≠ b ∧ head ∉ rest := by
        simpa [not_or] using notIn
      cases fuel with
      | zero => simp at enough
      | succ fuel =>
        have next : links.next a = b := linked.1
        rw [walk, next, if_neg notB.symm, ih b fuel (by simpa using enough) notRest linked.2.2]
  exact general xs head fuel enough (List.nodup_cons.mp tracks.nodup).1 tracks.linked

end DisplayDrivers.Lib.ListHead
