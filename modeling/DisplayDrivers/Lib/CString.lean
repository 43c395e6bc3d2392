import Mathlib.Data.List.Basic
import Mathlib.Data.List.Induction
import Mathlib.Tactic.Common

/-! # C strings

A memory is a list of characters and a pointer an index into it; a string extends from its pointer
to the next `NUL`.
-/

namespace DisplayDrivers.Lib.CString

abbrev Mem := List Char

def NUL : Char := '\x00'

def isSpace (c : Char) : Bool := c ∈ [' ', '\t', '\n', '\x0b', '\x0c', '\r', '\xa0']

def cstr (mem : Mem) (p : ℕ) : List Char := (mem.drop p).takeWhile (· ≠ NUL)

def strlen (mem : Mem) (p : ℕ) : ℕ := (cstr mem p).length

/-- `*p`; what lies behind the memory reads as `NUL`. -/
def peek (mem : Mem) (p : ℕ) : Char := mem.getD p NUL

def poke (mem : Mem) (p : ℕ) (c : Char) : Mem := mem.set p c

def strpbrk (mem : Mem) (p : ℕ) (accept : List Char) : Option ℕ :=
  ((cstr mem p).findIdx? (· ∈ accept)).map (p + ·)

/-- The memory, the token and the rest; the token ends at the first character of `sep`. -/
def strsep (mem : Mem) (p : ℕ) (sep : List Char) : Mem × ℕ × Option ℕ :=
  match strpbrk mem p sep with
  | some q => (poke mem q NUL, p, some (q + 1))
  | none => (mem, p, none)

def strreplace (mem : Mem) (p : ℕ) (old new : Char) : Mem :=
  mem.take p ++ (cstr mem p).map (fun c => if c = old then new else c) ++
    mem.drop (p + strlen mem p)

def trimmed (mem : Mem) (p : ℕ) : ℕ → ℕ
  | 0 => 0
  | n + 1 => if isSpace (peek mem (p + n)) then trimmed mem p n else n + 1

def skipSpaces (mem : Mem) (p : ℕ) : ℕ := p + ((mem.drop p).takeWhile (isSpace ·)).length

/-- Ends the string behind its last character that is not blank, and skips the blanks in front. -/
def strim (mem : Mem) (p : ℕ) : Mem × ℕ :=
  if strlen mem p = 0 then (mem, p)
  else
    let mem := poke mem (p + trimmed mem p (strlen mem p)) NUL
    (mem, skipSpaces mem p)

variable {front s rest : Mem} {c d : Char} {p : ℕ}

/-! ## A memory with a string in the middle -/

theorem peek_middle (front s rest : Mem) (c : Char) :
    peek (front ++ s ++ c :: rest) (front.length + s.length) = c := by
  rw [peek, ← List.length_append, List.getD_eq_getElem?_getD, List.getElem?_append_right
    (Nat.le_refl _)]
  simp

theorem poke_middle (front s rest : Mem) (c d : Char) :
    poke (front ++ s ++ c :: rest) (front.length + s.length) d = front ++ s ++ d :: rest := by
  rw [poke, ← List.length_append, List.set_append_right _ _ (Nat.le_refl _)]
  simp

theorem takeWhile_middle {keep : Char → Bool} (all : ∀ a ∈ s, keep a = true)
    (stop : keep c = false) :
    (s ++ c :: rest).takeWhile keep = s := by
  rw [List.takeWhile_append_of_pos all, List.takeWhile_cons_of_neg (by simp [stop]),
    List.append_nil]

theorem cstr_middle (clean : NUL ∉ s) : cstr (front ++ s ++ NUL :: rest) front.length = s := by
  rw [cstr, List.append_assoc, List.drop_left]
  refine takeWhile_middle (fun a member => ?_) (by simp)
  simpa using fun same : a = NUL => clean (same ▸ member)

theorem strlen_middle (clean : NUL ∉ s) :
    strlen (front ++ s ++ NUL :: rest) front.length = s.length := by
  rw [strlen, cstr_middle clean]

variable {accept : List Char}

theorem strpbrk_middle (clean : NUL ∉ s) (other : ∀ a ∈ s, a ∉ accept)
    (visible : c ≠ NUL) (found : c ∈ accept) :
    strpbrk (front ++ s ++ c :: rest) front.length accept = some (front.length + s.length) := by
  have whole : cstr (front ++ s ++ c :: rest) front.length =
      s ++ c :: rest.takeWhile (· ≠ NUL) := by
    rw [cstr, List.append_assoc, List.drop_left, List.takeWhile_append_of_pos,
      List.takeWhile_cons_of_pos (by simpa using visible)]
    intro a member
    simpa using fun same : a = NUL => clean (same ▸ member)
  rw [strpbrk, whole, List.findIdx?_append, List.findIdx?_eq_none_iff.mpr (by simpa using other),
    List.findIdx?_cons, if_pos (by simpa using found)]
  simp

theorem strpbrk_none (clean : NUL ∉ s) (other : ∀ a ∈ s, a ∉ accept) :
    strpbrk (front ++ s ++ NUL :: rest) front.length accept = none := by
  rw [strpbrk, cstr_middle clean, List.findIdx?_eq_none_iff.mpr (by simpa using other)]
  rfl

variable {sep : List Char}

theorem strsep_middle (clean : NUL ∉ s) (other : ∀ a ∈ s, a ∉ sep)
    (visible : c ≠ NUL) (found : c ∈ sep) : strsep (front ++ s ++ c :: rest) front.length sep =
      (front ++ s ++ NUL :: rest, front.length, some (front.length + s.length + 1)) := by
  simp only [strsep, strpbrk_middle clean other visible found, poke_middle]

theorem strsep_last (clean : NUL ∉ s) (other : ∀ a ∈ s, a ∉ sep) :
    strsep (front ++ s ++ NUL :: rest) front.length sep =
      (front ++ s ++ NUL :: rest, front.length, none) := by
  simp only [strsep, strpbrk_none clean other]

theorem strreplace_middle (clean : NUL ∉ s) (old new : Char) :
    strreplace (front ++ s ++ NUL :: rest) front.length old new =
      front ++ s.map (fun c => if c = old then new else c) ++ NUL :: rest := by
  have later : (front ++ s ++ NUL :: rest).drop (front.length + s.length) = NUL :: rest := by
    rw [← List.length_append, List.drop_left]
  have before : (front ++ s ++ NUL :: rest).take front.length = front := by
    rw [List.append_assoc, List.take_left]
  rw [strreplace, strlen_middle clean, cstr_middle clean, later, before]

/-! ## Trimming -/

structure Word (word : List Char) : Prop where
  first : ∃ c more, word = c :: more ∧ isSpace c = false
  last : ∃ more c, word = more ++ [c] ∧ isSpace c = false

theorem trimmed_spaces {t w : List Char} (spaces : ∀ a ∈ w, isSpace a = true) :
    trimmed (front ++ (t ++ w) ++ rest) front.length (t.length + w.length) =
      trimmed (front ++ (t ++ w) ++ rest) front.length t.length := by
  induction w using List.reverseRecOn generalizing rest with
  | nil => simp
  | append_singleton w a ih =>
    have same : front ++ (t ++ (w ++ [a])) ++ rest = front ++ (t ++ w) ++ a :: rest := by simp
    have here : peek (front ++ (t ++ w) ++ a :: rest)
      (front.length + (t.length + w.length)) = a := by
      rw [← List.length_append, peek_middle]
    have blank : isSpace a = true := spaces a (by simp)
    rw [same, List.length_append, List.length_singleton, ← Nat.add_assoc, trimmed,
      here, if_pos blank]
    exact ih fun b member => spaces b (by simp [member])

theorem trimmed_word {t : List Char} {a : Char} (ends : isSpace a = false) :
    trimmed (front ++ (t ++ [a]) ++ rest) front.length (t.length + 1) = t.length + 1 := by
  have same : front ++ (t ++ [a]) ++ rest = front ++ t ++ a :: rest := by simp
  rw [same, trimmed, peek_middle, ends]
  simp

theorem strim_middle (front rest : Mem) {w word w' : List Char} (is : Word word)
    (before : ∀ a ∈ w, isSpace a = true)
    (after : ∀ a ∈ w', isSpace a = true) (clean : NUL ∉ w ++ word ++ w') :
    ∃ left, left.length = w'.length ∧
      strim (front ++ (w ++ word ++ w') ++ NUL :: rest) front.length =
        (front ++ (w ++ word) ++ NUL :: (left ++ rest), front.length + w.length) := by
  obtain ⟨c, more, starts, visible⟩ := is.first
  obtain ⟨init, a, ends, solid⟩ := is.last
  have size : strlen (front ++ (w ++ word ++ w') ++ NUL :: rest) front.length =
      (w ++ word).length + w'.length := by
    rw [strlen_middle clean, List.length_append]
  have some : (w ++ word).length + w'.length ≠ 0 := by
    rw [starts, List.length_append, List.length_cons]
    omega
  have kept : trimmed (front ++ (w ++ word ++ w') ++ NUL :: rest) front.length
      ((w ++ word).length + w'.length) = (w ++ word).length := by
    have memory : front ++ (w ++ word ++ w') ++ NUL :: rest =
        front ++ ((w ++ init) ++ [a]) ++ (w' ++ NUL :: rest) := by simp [ends]
    have length : (w ++ word).length = (w ++ init).length + 1 := by
      rw [ends, ← List.append_assoc, List.length_append, List.length_singleton]
    rw [trimmed_spaces after, memory, length, trimmed_word solid]
  -- the end of the string: the first blank behind the word, or where it ended before
  have ended : ∃ left, left.length = w'.length ∧
      poke (front ++ (w ++ word ++ w') ++ NUL :: rest) (front.length + (w ++ word).length) NUL =
        front ++ (w ++ word) ++ NUL :: (left ++ rest) := by
    cases w' with
    | nil =>
      refine ⟨[], rfl, ?_⟩
      rw [List.append_nil, poke_middle, List.nil_append]
    | cons b w' =>
      refine ⟨w' ++ [NUL], by simp, ?_⟩
      have memory : front ++ (w ++ word ++ b :: w') ++ NUL :: rest =
          front ++ (w ++ word) ++ b :: (w' ++ NUL :: rest) := by simp
      rw [memory, poke_middle]
      simp
  obtain ⟨left, same, ended⟩ := ended
  refine ⟨left, same, ?_⟩
  have blanks : skipSpaces (front ++ (w ++ word) ++ NUL :: (left ++ rest)) front.length =
      front.length + w.length := by
    have memory : (front ++ (w ++ word) ++ NUL :: (left ++ rest)).drop front.length =
        w ++ c :: (more ++ NUL :: (left ++ rest)) := by
      rw [List.append_assoc, List.drop_left, starts]
      simp
    rw [skipSpaces, memory, takeWhile_middle before visible]
  rw [strim, size, if_neg some, kept, ended]
  exact congrArg (Prod.mk _) blanks

/-! ## Strings that stay -/

def StringAt (front : Mem) (p : ℕ) (s : List Char) : Prop :=
  NUL ∉ s ∧ ∃ before after, front = before ++ s ++ NUL :: after ∧ before.length = p

theorem StringAt.append (at_p : StringAt front p s) (more : Mem) :
    StringAt (front ++ more) p s := by
  obtain ⟨clean, before, after, rfl, length⟩ := at_p
  exact ⟨clean, before, after ++ more, by simp, length⟩

theorem StringAt.cstr (at_p : StringAt front p s) (rest : Mem) : cstr (front ++ rest) p = s := by
  obtain ⟨clean, before, after, rfl, rfl⟩ := at_p
  have memory : before ++ s ++ NUL :: after ++ rest = before ++ s ++ NUL :: (after ++ rest) := by
    simp
  rw [memory, cstr_middle clean]

theorem stringAt_middle (clean : NUL ∉ s) : StringAt (front ++ s ++ NUL :: rest) front.length s :=
  ⟨clean, front, rest, rfl, rfl⟩

end DisplayDrivers.Lib.CString
