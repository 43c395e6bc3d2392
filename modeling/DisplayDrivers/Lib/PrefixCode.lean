import Mathlib.Data.List.Basic
import Mathlib.Tactic.Common

/-! # Streams of self-delimiting items

A writer turns an item into a few words, a reader takes the meaning of one item from the front of a
list of words.  Where the reader takes exactly what was written for an item and leaves what follows
it (`Delimits`), reading item by item gives back the meanings of any list of items that was written
one after the other.
-/

namespace DisplayDrivers.Lib.PrefixCode

variable {κ μ ω : Type*}

/-- Items read one after the other until no word is left.  An item takes at least one word, so the
    number of words bounds the number of items. -/
def readItems (readOne : List ω → Option (μ × List ω)) : ℕ → List ω → Option (List μ)
  | _, [] => some []
  | 0, _ :: _ => none
  | fuel + 1, word :: words =>
    match readOne (word :: words) with
    | none => none
    | some (item, rest) => (readItems readOne fuel rest).map (item :: ·)

def readAll (readOne : List ω → Option (μ × List ω)) (words : List ω) : Option (List μ) :=
  readItems readOne words.length words

structure Delimits (write : κ → List ω) (readOne : List ω → Option (μ × List ω)) (meaning : κ → μ)
    (item : κ) : Prop where
  nonempty : write item ≠ []
  reads : ∀ rest, readOne (write item ++ rest) = some (meaning item, rest)

variable {write : κ → List ω} {readOne : List ω → Option (μ × List ω)} {meaning : κ → μ}

theorem readItems_write {item : κ} (delimits : Delimits write readOne meaning item) (fuel : ℕ)
    (rest : List ω) :
    readItems readOne (fuel + 1) (write item ++ rest) =
      (readItems readOne fuel rest).map (meaning item :: ·) := by
  have read := delimits.reads rest
  cases shape : write item ++ rest with
  | nil => exact absurd (List.append_eq_nil_iff.mp shape).1 delimits.nonempty
  | cons word words =>
    rw [shape] at read
    rw [readItems, read]

variable {items : List κ}

theorem readItems_flatMap (delimit : ∀ item ∈ items, Delimits write readOne meaning item) {fuel : ℕ}
    (enough : (items.flatMap write).length ≤ fuel) :
    readItems readOne fuel (items.flatMap write) = some (items.map meaning) := by
  induction items generalizing fuel with
  | nil =>
    cases fuel with
    | zero => rfl
    | succ fuel => rfl
  | cons item items ih =>
    have this_one := delimit item List.mem_cons_self
    have positive : 0 < (write item).length := List.length_pos_iff.mpr this_one.nonempty
    rw [List.flatMap_cons, List.length_append] at enough
    obtain ⟨fuel, rfl⟩ : ∃ less, fuel = less + 1 := ⟨fuel - 1, by omega⟩
    have others : readItems readOne fuel (items.flatMap write) = some (items.map meaning) :=
      ih (fun other listed => delimit other (.tail item listed)) (by omega)
    rw [List.flatMap_cons, readItems_write this_one, others]
    rfl

theorem readAll_flatMap (delimit : ∀ item ∈ items, Delimits write readOne meaning item) :
    readAll readOne (items.flatMap write) = some (items.map meaning) :=
  readItems_flatMap delimit (Nat.le_refl _)

end DisplayDrivers.Lib.PrefixCode
