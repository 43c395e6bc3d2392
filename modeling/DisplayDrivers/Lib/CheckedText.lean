import DisplayDrivers.Lib.CString
import Mathlib.Data.List.TakeWhile

/-! # String functions on a text that has an end

The functions of `CString` take what lies behind the memory for `NUL`. Here a function that would
have to look there stops with `outside`, and so does a load or a store behind the end.

A program that is given pointers up to a `NUL` at `e` stays before it: there is a rule for each
function and one for the sequence of two programs.
-/

namespace DisplayDrivers.Lib.CheckedText

open DisplayDrivers.Lib.CString

inductive Stop
  | outside
  | fuel

abbrev Text := StateT Mem (Except Stop)

/-- A scan from `p` comes to a `NUL` or to one of `stops` inside the memory. -/
def Ends (mem : Mem) (p : ℕ) (stops : List Char) : Prop := ∃ c ∈ mem.drop p, c = NUL ∨ c ∈ stops

instance (mem : Mem) (p : ℕ) (stops : List Char) : Decidable (Ends mem p stops) :=
  List.decidableBEx (fun c => c = NUL ∨ c ∈ stops) (mem.drop p)

def scanning {α : Type} (p : ℕ) (stops : List Char) (f : Mem → α × Mem) : Text α := fun mem =>
  if Ends mem p stops then .ok (f mem) else .error .outside

def string (p : ℕ) : Text (List Char) := scanning p [] fun mem => (cstr mem p, mem)

def strlen (p : ℕ) : Text ℕ := scanning p [] fun mem => (CString.strlen mem p, mem)

def strpbrk (p : ℕ) (accept : List Char) : Text (Option ℕ) :=
  scanning p accept fun mem => (CString.strpbrk mem p accept, mem)

def strsep (p : ℕ) (sep : List Char) : Text (ℕ × Option ℕ) :=
  scanning p sep fun mem => ((CString.strsep mem p sep).2, (CString.strsep mem p sep).1)

def strreplace (p : ℕ) (old new : Char) : Text Unit :=
  scanning p [] fun mem => ((), CString.strreplace mem p old new)

def strim (p : ℕ) : Text ℕ :=
  scanning p [] fun mem => ((CString.strim mem p).2, (CString.strim mem p).1)

def load (p : ℕ) : Text Char := fun mem =>
  if p < mem.length then .ok (peek mem p, mem) else .error .outside

def store (p : ℕ) (c : Char) : Text Unit := fun mem =>
  if p < mem.length then .ok ((), poke mem p c) else .error .outside

/-! ## Programs that stay before the end -/

structure Kept (e : ℕ) (mem mem' : Mem) : Prop where
  behind : mem'.drop e = mem.drop e
  length : mem'.length = mem.length

def Ended (e : ℕ) (mem : Mem) : Prop := mem[e]? = some NUL

def Stays {α : Type} (e : ℕ) (m : Text α) (mem : Mem) (post : α → Mem → Prop) : Prop :=
  ∃ a mem', m mem = .ok (a, mem') ∧ Kept e mem mem' ∧ post a mem'

variable {α β : Type} {e p : ℕ} {mem mem' mem'' : Mem} {m : Text α} {post : α → Mem → Prop}

theorem Kept.refl (e : ℕ) (mem : Mem) : Kept e mem mem := ⟨rfl, rfl⟩

theorem Kept.trans (first : Kept e mem mem') (second : Kept e mem' mem'') : Kept e mem mem'' :=
  ⟨second.behind.trans first.behind, second.length.trans first.length⟩

variable {i : ℕ}

theorem Kept.get (kept : Kept e mem mem') (behind : e ≤ i) : mem'[i]? = mem[i]? := by
  obtain ⟨d, rfl⟩ := Nat.exists_eq_add_of_le behind
  rw [← List.getElem?_drop, kept.behind, List.getElem?_drop]

variable {e' : ℕ}

theorem Kept.mono (kept : Kept e mem mem') (later : e ≤ e') : Kept e' mem mem' := by
  obtain ⟨d, rfl⟩ := Nat.exists_eq_add_of_le later
  exact ⟨by rw [← List.drop_drop, kept.behind, List.drop_drop], kept.length⟩

theorem Kept.ended (kept : Kept e mem mem') (ended : Ended e mem) : Ended e mem' :=
  (kept.get (Nat.le_refl e)).trans ended

theorem Kept.of_get (same : ∀ i, e ≤ i → mem'[i]? = mem[i]?) (length : mem'.length = mem.length) :
    Kept e mem mem' := by
  refine ⟨List.ext_getElem? fun i => ?_, length⟩
  rw [List.getElem?_drop, List.getElem?_drop]
  exact same _ (Nat.le_add_right e i)

namespace Stays

theorem pure (a : α) (returns : post a mem) : Stays e (pure a : Text α) mem post :=
  ⟨a, mem, rfl, .refl e mem, returns⟩

theorem get {f : Mem → Text α} (next : Stays e (f mem) mem post) :
    Stays e (MonadState.get >>= f) mem post := next

variable {f : α → Text β} {after : β → Mem → Prop}

theorem bind (first : Stays e m mem post)
    (next : ∀ a mem', Kept e mem mem' → post a mem' → Stays e (f a) mem' after) :
    Stays e (m >>= f) mem after := by
  obtain ⟨a, mem', run, kept, returned⟩ := first
  obtain ⟨b, last, later, kept', done⟩ := next a mem' kept returned
  refine ⟨b, last, ?_, kept.trans kept', done⟩
  show (m mem).bind (fun out => f out.1 out.2) = _
  rw [run]
  exact later

theorem imp {after : α → Mem → Prop} (stays : Stays e m mem post)
    (weaker : ∀ a mem', Kept e mem mem' → post a mem' → after a mem') : Stays e m mem after := by
  obtain ⟨a, mem', run, kept, returned⟩ := stays
  exact ⟨a, mem', run, kept, weaker a mem' kept returned⟩

theorem mono (stays : Stays e m mem post) (later : e ≤ e') : Stays e' m mem post := by
  obtain ⟨a, mem', run, kept, returned⟩ := stays
  exact ⟨a, mem', run, kept.mono later, returned⟩

theorem before (low : e' ≤ e) (first : Stays e' m mem post)
    (next : ∀ a mem', Kept e' mem mem' → post a mem' → Stays e (f a) mem' after) :
    Stays e (m >>= f) mem after := by
  obtain ⟨a, mem', run, kept, returned⟩ := first
  have both : Stays e m mem fun a mem' => Kept e' mem mem' ∧ post a mem' :=
    ⟨a, mem', run, kept.mono low, kept, returned⟩
  exact both.bind fun a mem' _ both => next a mem' both.1 both.2

theorem ite {c : Prop} [Decidable c] {m' : Text α} (yes : c → Stays e m mem post)
    (no : ¬c → Stays e m' mem post) : Stays e (if c then m else m') mem post := by
  by_cases holds : c
  · rw [if_pos holds]
    exact yes holds
  · rw [if_neg holds]
    exact no holds

end Stays

/-! ## Strings before the end -/

theorem Ended.lt (ended : Ended e mem) : e < mem.length := by
  obtain ⟨inside, -⟩ := List.getElem?_eq_some_iff.mp ended
  exact inside

theorem Ended.drop (ended : Ended e mem) (low : p ≤ e) : (mem.drop p)[e - p]? = some NUL := by
  rw [List.getElem?_drop, Nat.add_sub_cancel' low]
  exact ended

theorem Ended.ends (ended : Ended e mem) (low : p ≤ e) (stops : List Char) : Ends mem p stops :=
  ⟨NUL, List.mem_of_getElem? (ended.drop low), .inl rfl⟩

variable {s : List Char}

variable {keep : Char → Bool}

theorem getElem?_takeWhile
    (inside : i < (s.takeWhile keep).length) : s[i]? = some (s.takeWhile keep)[i] := by
  have whole := Nat.lt_of_lt_of_le inside (List.takeWhile_prefix keep).length_le
  rw [List.getElem?_eq_getElem whole, ← (List.takeWhile_prefix keep).getElem inside]

variable {c : Char}

theorem length_takeWhile_le
    (at_i : s[i]? = some c) (refused : keep c = false) : (s.takeWhile keep).length ≤ i := by
  by_contra past
  have inside : i < (s.takeWhile keep).length := Nat.lt_of_not_le past
  have kept := List.mem_takeWhile_imp (List.getElem_mem inside)
  rw [getElem?_takeWhile inside, Option.some.injEq] at at_i
  rw [at_i, refused] at kept
  cases kept

theorem Ended.cstr_le (ended : Ended e mem) (low : p ≤ e) : p + (cstr mem p).length ≤ e := by
  have short : (cstr mem p).length ≤ e - p := length_takeWhile_le (ended.drop low) (by simp)
  omega

theorem mem_cstr (member : c ∈ cstr mem p) : c ≠ NUL := by
  simpa using List.mem_takeWhile_imp member

theorem getElem_cstr (inside : i < (cstr mem p).length) : mem[p + i]? = some (cstr mem p)[i] := by
  rw [← List.getElem?_drop]
  exact getElem?_takeWhile inside

theorem kept_poke (ended : Ended e mem) (low : p ≤ e) (inside : p < e ∨ c = NUL) :
    Kept e mem (poke mem p c) := by
  refine .of_get (fun i behind => ?_) (List.length_set ..)
  rw [poke]
  by_cases here : p = i
  · obtain rfl : i = e := by omega
    subst here
    rw [inside.resolve_left (Nat.lt_irrefl _), List.getElem?_set_self ended.lt]
    exact ended.symm
  · exact List.getElem?_set_ne here

/-! ## The rules of the functions -/

namespace Stays

theorem scanning {f : Mem → α × Mem} {stops : List Char} (ended : Ended e mem) (low : p ≤ e)
    (kept : Kept e mem (f mem).2) (returns : post (f mem).1 (f mem).2) :
    Stays e (scanning p stops f) mem post :=
  ⟨_, _, if_pos (ended.ends low stops), kept, returns⟩

theorem string (ended : Ended e mem) (low : p ≤ e) :
    Stays e (string p) mem fun s mem' => mem' = mem ∧ s = cstr mem p :=
  .scanning ended low (.refl e mem) ⟨rfl, rfl⟩

theorem strlen (ended : Ended e mem) (low : p ≤ e) :
    Stays e (strlen p) mem fun n mem' => mem' = mem ∧ n = CString.strlen mem p ∧ p + n ≤ e :=
  .scanning ended low (.refl e mem) ⟨rfl, rfl, ended.cstr_le low⟩

theorem load (ended : Ended e mem) (low : p ≤ e) :
    Stays e (load p) mem fun c mem' => mem' = mem ∧ c = peek mem p := by
  have inside : p < mem.length := Nat.lt_of_le_of_lt low ended.lt
  exact ⟨_, _, if_pos inside, .refl e mem, rfl, rfl⟩

theorem store (ended : Ended e mem) (low : p ≤ e) :
    Stays e (store p NUL) mem fun _ mem' => mem' = poke mem p NUL := by
  have inside : p < mem.length := Nat.lt_of_le_of_lt low ended.lt
  exact ⟨_, _, if_pos inside, kept_poke ended low (.inr rfl), rfl⟩

end Stays

variable {accept : List Char}

theorem strpbrk_some {q : ℕ} (found : CString.strpbrk mem p accept = some q) :
    p ≤ q ∧ q < p + (cstr mem p).length ∧ peek mem q ∈ accept := by
  obtain ⟨i, at_i, rfl⟩ := Option.map_eq_some_iff.mp found
  obtain ⟨inside, accepted, -⟩ := List.findIdx?_eq_some_iff_getElem.mp at_i
  refine ⟨Nat.le_add_right p i, by omega, ?_⟩
  rw [CString.peek, List.getD_eq_getElem?_getD, getElem_cstr inside]
  simpa using accepted

namespace Stays

theorem strpbrk (ended : Ended e mem) (low : p ≤ e) :
    Stays e (strpbrk p accept) mem fun found mem' =>
      mem' = mem ∧ found = CString.strpbrk mem p accept ∧
        ∀ q, found = some q → p ≤ q ∧ q < e ∧ peek mem q ∈ accept := by
  refine .scanning ended low (.refl e mem) ⟨rfl, rfl, fun q found => ?_⟩
  obtain ⟨behind, inside, accepted⟩ := strpbrk_some found
  exact ⟨behind, Nat.lt_of_lt_of_le inside (ended.cstr_le low), accepted⟩

theorem strsep {sep : List Char} (ended : Ended e mem) (low : p ≤ e) :
    Stays e (strsep p sep) mem fun cut mem' =>
      mem' = (CString.strsep mem p sep).1 ∧ cut = (CString.strsep mem p sep).2 ∧ cut.1 = p ∧
        ∀ q, cut.2 = some q → p < q ∧ q ≤ e := by
  refine .scanning ended low ?_ ⟨rfl, rfl, ?_, ?_⟩
  · unfold CString.strsep
    split
    · obtain ⟨-, inside, -⟩ := strpbrk_some ‹_›
      exact kept_poke ended (Nat.le_trans (Nat.le_of_lt inside) (ended.cstr_le low)) (.inr rfl)
    · exact .refl e mem
  · unfold CString.strsep
    split <;> rfl
  · intro q rest
    unfold CString.strsep at rest
    split at rest
    · obtain ⟨behind, inside, -⟩ := strpbrk_some ‹_›
      have before := ended.cstr_le low
      cases rest
      omega
    · cases rest

end Stays

theorem trimmed_le (mem : Mem) (p n : ℕ) : trimmed mem p n ≤ n := by
  induction n with
  | zero => exact Nat.le_refl 0
  | succ n ih =>
    rw [trimmed]
    split <;> omega

theorem Ended.skipSpaces_le (ended : Ended e mem) (low : p ≤ e) : skipSpaces mem p ≤ e := by
  have short : ((mem.drop p).takeWhile (isSpace ·)).length ≤ e - p :=
    length_takeWhile_le (ended.drop low) (by decide)
  unfold skipSpaces
  omega

namespace Stays

theorem strreplace {old new : Char} (ended : Ended e mem) (low : p ≤ e) :
    Stays e (strreplace p old new) mem fun _ mem' => mem' = CString.strreplace mem p old new := by
  refine .scanning ended low ?_ rfl
  have before := ended.cstr_le low
  have inside := ended.lt
  have front : (mem.take p ++ (cstr mem p).map fun c => if c = old then new else c).length =
      p + CString.strlen mem p := by
    rw [List.length_append, List.length_take, List.length_map, CString.strlen]
    omega
  refine .of_get (fun i behind => ?_) ?_
  · rw [CString.strreplace, List.getElem?_append_right
      (by rw [front]; unfold CString.strlen; omega), front,
      List.getElem?_drop]
    congr 1
    unfold CString.strlen
    omega
  · rw [CString.strreplace, List.length_append, front, List.length_drop]
    unfold CString.strlen
    omega

theorem strim (ended : Ended e mem) (low : p ≤ e) :
    Stays e (strim p) mem fun q mem' =>
      mem' = (CString.strim mem p).1 ∧ q = (CString.strim mem p).2 ∧ q ≤ e := by
  by_cases empty : CString.strlen mem p = 0
  · have same : CString.strim mem p = (mem, p) := by rw [CString.strim, if_pos empty]
    refine .scanning ended low ?_ ⟨rfl, rfl, ?_⟩
    · rw [same]
      exact .refl e mem
    · rw [same]
      exact low
  · have before : p + trimmed mem p (CString.strlen mem p) ≤ e :=
      Nat.le_trans (Nat.add_le_add_left (trimmed_le _ _ _) p) (ended.cstr_le low)
    have kept := kept_poke ended before (c := NUL) (.inr rfl)
    refine .scanning ended low ?_ ⟨rfl, rfl, ?_⟩
    · rw [CString.strim, if_neg empty]
      exact kept
    · rw [CString.strim, if_neg empty]
      exact (kept.ended ended).skipSpaces_le low

end Stays

/-! ## Strings with their ends -/

theorem stringAt_iff :
    StringAt mem p s ↔ NUL ∉ s ∧ p ≤ mem.length ∧ ∃ after, mem.drop p = s ++ NUL :: after := by
  constructor
  · rintro ⟨clean, before, after, rfl, rfl⟩
    refine ⟨clean, ?_, after, ?_⟩
    · simp only [List.length_append]
      omega
    · rw [List.append_assoc, List.drop_left]
  · rintro ⟨clean, inside, after, rest⟩
    refine ⟨clean, mem.take p, after, ?_, List.length_take_of_le inside⟩
    rw [List.append_assoc, ← rest, List.take_append_drop]

theorem ended_stringAt (at_p : StringAt mem p s) : Ended (p + s.length) mem := by
  obtain ⟨-, -, after, rest⟩ := stringAt_iff.mp at_p
  rw [Ended, ← List.getElem?_drop, rest, List.getElem?_append_right (Nat.le_refl _), Nat.sub_self]
  rfl

theorem cstr_stringAt (at_p : StringAt mem p s) : cstr mem p = s := by
  have whole := at_p.cstr []
  rwa [List.append_nil] at whole

theorem Ended.stringAt (ended : Ended e mem) (low : p ≤ e) : StringAt mem p (cstr mem p) := by
  refine stringAt_iff.mpr ⟨fun member => mem_cstr member rfl, ?_, ?_⟩
  · exact Nat.le_of_lt (Nat.lt_of_le_of_lt low ended.lt)
  · have whole : cstr mem p ++ (mem.drop p).dropWhile (· ≠ NUL) = mem.drop p :=
      List.takeWhile_append_dropWhile
    have head := List.head?_dropWhile_not (· ≠ NUL) (mem.drop p)
    cases left : (mem.drop p).dropWhile (· ≠ NUL) with
    | nil =>
      rw [left, List.append_nil] at whole
      have member := List.mem_of_getElem? (ended.drop low)
      rw [← whole] at member
      exact absurd rfl (mem_cstr member)
    | cons c after =>
      rw [left] at head whole
      obtain rfl : c = NUL := by simpa using head
      exact ⟨after, whole.symm⟩

theorem Kept.stringAt (kept : Kept e mem mem') (at_p : StringAt mem p s) (behind : e ≤ p) :
    StringAt mem' p s := by
  rw [stringAt_iff] at at_p ⊢
  rw [kept.length, (kept.mono behind).behind]
  exact at_p

theorem Stays.strsep_at {sep : Char} (at_p : StringAt mem p s) :
    Stays (p + s.length) (CheckedText.strsep p [sep]) mem fun cut mem' =>
      (sep ∉ s ∧ cut = (p, none) ∧ mem' = mem) ∨
        ∃ a b, s = a ++ sep :: b ∧ sep ∉ a ∧ cut = (p, some (p + a.length + 1)) ∧
          StringAt mem' p a ∧ StringAt mem' (p + a.length + 1) b := by
  refine (Stays.strsep (ended_stringAt at_p) (Nat.le_add_right _ _)).imp ?_
  rintro cut mem' - ⟨rfl, rfl, -, -⟩
  obtain ⟨clean, before, after, rfl, rfl⟩ := at_p
  by_cases found : sep ∈ s
  · obtain ⟨a, b, rfl, first⟩ := List.eq_append_cons_of_mem found
    have visible : sep ≠ NUL := fun same => clean (same ▸ found)
    rw [List.mem_append, not_or, List.mem_cons, not_or] at clean
    have memory : before ++ (a ++ sep :: b) ++ NUL :: after =
      before ++ a ++ sep :: (b ++ NUL :: after) := by
      simp
    have other : ∀ c ∈ a, c ∉ [sep] :=
      fun c member same => first (List.mem_singleton.mp same ▸ member)
    rw [memory, strsep_middle clean.1 other visible (List.mem_singleton_self sep)]
    have later : before ++ a ++ NUL :: (b ++ NUL :: after) =
      (before ++ a ++ [NUL]) ++ b ++ NUL :: after := by
      simp
    refine .inr ⟨a, b, rfl, first, rfl, stringAt_middle clean.1, ?_⟩
    rw [later]
    refine ⟨clean.2.2, before ++ a ++ [NUL], after, rfl, ?_⟩
    simp only [List.length_append, List.length_singleton]
  · have other : ∀ c ∈ s, c ∉ [sep] :=
      fun c member same => found (List.mem_singleton.mp same ▸ member)
    rw [strsep_last clean other]
    exact .inl ⟨found, rfl, rfl⟩

/-! ## What a program returns -/

/-- Where the program returns, it returns what `o` is, with the memory. -/
def Yields (m : Text α) (mem : Mem) (o : Option (Mem × α)) : Prop :=
  ∀ a mem', m mem = .ok (a, mem') → o = some (mem', a)

namespace Yields

theorem pure (a : α) : Yields (pure a : Text α) mem (some (mem, a)) := by
  rintro _ _ ⟨⟩
  rfl

variable {o : Option (Mem × α)}

theorem bind {f : α → Text β} {o' : Option (Mem × β)} (first : Yields m mem o)
    (next : ∀ a mem', o = some (mem', a) → Yields (f a) mem' o') : Yields (m >>= f) mem o' := by
  intro b last run
  change (m mem).bind (fun out => f out.1 out.2) = _ at run
  cases begun : m mem with
  | error stop =>
    rw [begun] at run
    cases run
  | ok out =>
    rw [begun] at run
    exact next out.1 out.2 (first out.1 out.2 begun) b last run

theorem get {f : Mem → Text α} (next : Yields (f mem) mem o) :
    Yields (MonadState.get >>= f) mem o := next

theorem scanning (f : Mem → α × Mem) (stops : List Char) :
    Yields (scanning p stops f) mem (some ((f mem).2, (f mem).1)) := by
  intro a mem' run
  simp only [CheckedText.scanning] at run
  split at run
  · rw [Except.ok.inj run]
  · cases run

theorem strsep (sep : List Char) : Yields (strsep p sep) mem (some (CString.strsep mem p sep)) :=
  scanning _ _

theorem load : Yields (load p) mem (some (mem, peek mem p)) := by
  intro a mem' run
  simp only [CheckedText.load] at run
  split at run <;> cases run
  rfl

theorem store (c : Char) : Yields (store p c) mem (some (poke mem p c, ())) := by
  intro a mem' run
  simp only [CheckedText.store] at run
  split at run <;> cases run
  rfl

end Yields

end DisplayDrivers.Lib.CheckedText
